import Sluice.Admission.Authorizer
import Sluice.Schema.Description
import Sluice.Server.Declaration

/-!
# Server errors

Everything a request to a server can fail with. A denial of access is told apart from the other
failures, since clients are told about it in another way.
-/

namespace Sluice

/-- Why a request failed. -/
inductive ServerError where
  | admission (e : AdmissionError)
  | resolution (e : ResolutionError)
  | declaration (e : DeclarationError)
  | catalog (e : CatalogError)
  | decimal (e : DecimalError)
  | description (e : DescriptionError)

namespace ServerError

/-- What the error says. -/
def message : ServerError → String
  | admission e => e.message
  | resolution e => e.message
  | declaration e => e.message
  | catalog e => e.message
  | decimal e => e.message
  | description e => e.message

/-- Whether access was denied, in contrast to every other failure. -/
def isDenied : ServerError → Bool
  | admission (.denied _) => true
  | _ => false

end ServerError

end Sluice
