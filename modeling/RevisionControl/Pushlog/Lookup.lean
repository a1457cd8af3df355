import RevisionControl.Pushlog.Answer
import RevisionControl.Pushlog.Error
import RevisionControl.Pushlog.Settings

/-!
# Looking up a push

A lookup asks a pushlog server for the push that brought a revision into a repository. The request
is repeated as the policy allows while it gets no answer; the first answer is decoded, and what is
wrong with it is no reason to ask again.
-/

namespace RevisionControl.Pushlog

open RevisionControl.Json

/-- The address to ask for the push of a revision. Nothing in it is escaped. -/
def lookupUrl (repository revision : String) : String :=
  repository ++ "/json-pushes?version=2&changeset=" ++ revision ++ "&tipsonly=1&full=1"

/-! ## The answer to a lookup -/

/-- The push that the entries of an answer give: the only one they have. -/
def decodePushes (repository revision : String) : Members → Except Error Push
  | [(id, entry)] =>
    match Entry.ofValue entry with
    | .ok entry => .ok ⟨id, entry.date, entry.user⟩
    | .error cause => .error (.invalidAnswer (lookupUrl repository revision) ⟨cause, none⟩)
  | pushes => .error (.ambiguous repository revision (Value.object pushes).write)

/-- The push that an answer gives. -/
def decodeAnswer (repository revision body : String) : Except Error Push :=
  match parsePushes body with
  | .ok pushes => decodePushes repository revision pushes
  | .error fault => .error (.invalidAnswer (lookupUrl repository revision) fault)

/-! ## The lookup -/

/-- Requests the answer at an address. -/
abbrev Fetch (σ : Type) := String → ExceptT Error (StateM σ) String

/-- Looks up the push of a revision. -/
def lookUp {σ : Type} (settings : Settings) (fetch : Fetch σ)
    (repository revision : String) : ExceptT Error (StateM σ) Push := do
  let run ← settings.retry.run (fetch (lookupUrl repository revision))
  let body ← ExceptT.mk (pure run.outcome)
  ExceptT.mk (pure (decodeAnswer repository revision body))

/-! ## Recorded exchanges -/

/-- A server of which all responses are known beforehand. -/
structure Exchange where
  /-- The responses still to come. -/
  responses : List (Except Error String)
  /-- What a request fails with when no response is left. -/
  exhausted : Error
  /-- The addresses requested so far. -/
  requested : List String

/-- Takes the next response. -/
def Exchange.get : Fetch Exchange := fun url => ExceptT.mk fun exchange =>
  let exchange := { exchange with requested := exchange.requested ++ [url] }
  match exchange.responses with
  | [] => (.error exchange.exhausted, exchange)
  | response :: more => (response, { exchange with responses := more })

end RevisionControl.Pushlog
