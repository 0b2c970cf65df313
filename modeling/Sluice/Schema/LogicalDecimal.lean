import Sluice.Decimal.Bounds
import Sluice.Schema.Basic
import Sluice.Text.Ascii
import Sluice.Text.Integer

/-!
# Logical decimals

A byte schema under a certain logical name, in any case, carries decimals. Its scale and precision
are parameters in text form. Some converters write the precision under a key of their own, which
then counts before the common one.
-/

namespace Sluice

/-- The logical name of decimals. -/
def decimalLogicalName : String := "org.apache.kafka.connect.data.Decimal"

/-- The key of the precision. -/
def precisionKey : String := "precision"

/-- The key of the scale. -/
def scaleKey : String := "scale"

/-- The key of the precision that some converters write. -/
def converterPrecisionKey : String := "connect.decimal.precision"

/-- The precision of a decimal schema that declares none. -/
def defaultPrecision : Int := 64

namespace Schema

/-- The optional byte schema of a decimal type, its precision ahead of its scale. -/
def decimal (precision scale : Int) : Except DecimalError Schema := do
  checkDecimalBounds precision scale
  return (((leaf .bytes).withName decimalLogicalName).withParameter precisionKey (toString precision)
    |>.withParameter scaleKey (toString scale)).asOptional

/-- Whether a schema carries decimals. -/
def isDecimal (s : Schema) : Bool :=
  s.kind == .bytes && s.name.any fun name => Text.asciiEqual name decimalLogicalName

/-- The precision as written. -/
def precisionText? (s : Schema) : Option String :=
  (s.parameter? converterPrecisionKey).or (s.parameter? precisionKey)

/-- The scale as written. -/
def scaleText? (s : Schema) : Option String :=
  s.parameter? scaleKey

/-- The precision, if it is written as a number. -/
def precision? (s : Schema) : Option Int := do
  Text.readInt32? (← s.precisionText?).toList

/-- The scale, if it is written as a number. -/
def scale? (s : Schema) : Option Int := do
  Text.readInt32? (← s.scaleText?).toList

end Schema

end Sluice
