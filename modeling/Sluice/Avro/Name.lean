/-!
# Avro names

Avro names have no dots or dashes of their own: a dot joins a namespace to a name. A name without
a dot is completed by the namespace it stands in, unless that is empty.
-/

namespace Sluice.Avro

/-- The namespace of generated records. -/
def defaultNamespace : String := "rill"

/-- A character of a generated name. -/
def nameChar (c : Char) : Char :=
  if c == '.' || c == '-' then '_' else c

/-- The generated name of a field or record. -/
def cleanName (name : String) : String :=
  String.ofList (name.toList.map nameChar)

/-- A name inside a namespace. -/
def joinName (outer name : String) : String :=
  outer ++ "." ++ name

/-- The full name of a type that is named inside a namespace. -/
def fullName (name : String) (outer : Option String) : String :=
  match outer with
  | some ns => if name.toList.contains '.' || ns.isEmpty then name else joinName ns name
  | none => name

/-- The namespace of a full name: what stands before its last dot. -/
def namespace? (full : String) : Option String :=
  let reversed := full.toList.reverse
  if reversed.contains '.' then
    some (String.ofList ((reversed.dropWhile (· != '.')).drop 1).reverse)
  else none

end Sluice.Avro
