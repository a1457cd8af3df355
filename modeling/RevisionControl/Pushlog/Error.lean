import RevisionControl.Json.Fault
import RevisionControl.Web.Refusal

/-!
# Failures of a lookup

A lookup fails because its request got no answer, or none that can be used: an answer with a
status that is no success, one that is not what a pushlog server sends, or one with a number of
pushes other than one.
-/

namespace RevisionControl.Pushlog

/-- Why a lookup failed. -/
inductive Error where
  /-- The request to the address got no answer. -/
  | request (url : String) (refusal : Web.Refusal)
  /-- The answer has a status that is no success. -/
  | status (url : String) (code : Nat)
  /-- The answer is not what a pushlog server sends. -/
  | invalidAnswer (url : String) (fault : Json.Fault)
  /-- The answer does not have exactly one push; `pushes` is the JSON text of those it has. -/
  | ambiguous (repository revision pushes : String)
  /-- Reading or writing failed. -/
  | io (text : String)
deriving DecidableEq, Repr

/-- The wording of a failure. -/
def Error.message : Error → String
  | .request url refusal => "HTTP request to " ++ url ++ " failed: " ++ refusal.message
  | .status url code => "HTTP request to " ++ url ++ " returned status " ++ toString code
  | .invalidAnswer url fault => "Invalid pushlog response from " ++ url ++ ": " ++ fault.message
  | .ambiguous repository revision pushes =>
    "Unable to find a single pushlog_id for " ++ repository ++ " revision " ++ revision ++ ": " ++
      pushes
  | .io text => "IO error: " ++ text

end RevisionControl.Pushlog
