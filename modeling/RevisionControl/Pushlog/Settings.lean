import RevisionControl.Json.Record
import RevisionControl.Pushlog.Retry

/-!
# Settings of a pushlog client

The settings are written as a JSON object with a member for each field, in a fixed order. They are
read from an object that may leave fields out, which then have their default, or from an array
that may leave out fields at its end.
-/

namespace RevisionControl.Pushlog

open RevisionControl.Json

/-- The settings of a client. -/
structure Settings where
  /-- How long a request may take, in seconds. -/
  timeout : UInt64
  /-- How a failed request is repeated. -/
  retry : Policy
deriving DecidableEq, Repr

/-- One minute for a request, and the default policy. -/
def Settings.default : Settings := ⟨60, .default⟩

instance : Inhabited Settings := ⟨.default⟩

/-! ## Writing -/

/-- The JSON text of a policy. -/
def Policy.write (policy : Policy) : String :=
  "\x7b\"attempts\":" ++ toString policy.attempts.toNat ++ ",\"delay_secs\":" ++
    toString policy.pause.toNat ++ "\x7d"

/-- The JSON text of the settings. -/
def Settings.write (settings : Settings) : String :=
  "\x7b\"timeout_secs\":" ++ toString settings.timeout.toNat ++ ",\"retry\":" ++
    settings.retry.write ++ "\x7d"

/-! ## Reading -/

/-- The fields of a policy that have been given. -/
structure Policy.Draft where
  /-- The number of attempts. -/
  attempts : Option UInt32
  /-- The pause. -/
  pause : Option UInt64

/-- The policy of a draft: what is not given has its default. -/
def Policy.Draft.finish (draft : Policy.Draft) : Policy :=
  ⟨draft.attempts.getD Policy.default.attempts,
    draft.pause.getD Policy.default.pause⟩

/-- Takes a 64-bit count. -/
def readCount64 : Reader UInt64 :=
  return UInt64.ofNat (← Reader.natural (Nat.pow 2 64 - 1) "u64")

/-- Takes a 32-bit count. -/
def readCount32 : Reader UInt32 :=
  return UInt32.ofNat (← Reader.natural (Nat.pow 2 32 - 1) "u32")

/-- How a policy is read. -/
def Policy.shape : Shape Policy.Draft Policy where
  title := "struct RetryPolicy"
  fields :=
    [⟨"attempts", (·.attempts.isSome), fun draft =>
        return { draft with attempts := some (← readCount32) }⟩,
      ⟨"delay_secs", (·.pause.isSome), fun draft =>
        return { draft with pause := some (← readCount64) }⟩]
  blank := ⟨none, none⟩
  ofMembers := fun draft => .ok draft.finish
  ofItems := fun draft => .ok draft.finish

/-- The settings that have been given. -/
structure Settings.Draft where
  /-- The time for a request. -/
  timeout : Option UInt64
  /-- The policy. -/
  retry : Option Policy

/-- The settings of a draft: what is not given has its default. -/
def Settings.Draft.finish (draft : Settings.Draft) : Settings :=
  ⟨draft.timeout.getD Settings.default.timeout,
    draft.retry.getD Settings.default.retry⟩

/-- How settings are read. -/
def Settings.shape : Shape Settings.Draft Settings where
  title := "struct PushlogConfig"
  fields :=
    [⟨"timeout_secs", (·.timeout.isSome), fun draft =>
        return { draft with timeout := some (← readCount64) }⟩,
      ⟨"retry", (·.retry.isSome), fun draft =>
        return { draft with retry := some (← Reader.record Policy.shape) }⟩]
  blank := ⟨none, none⟩
  ofMembers := fun draft => .ok draft.finish
  ofItems := fun draft => .ok draft.finish

/-- The policy that a text gives. -/
def Policy.parse (s : String) : Except Fault Policy :=
  (Reader.record Policy.shape).run s

/-- The settings that a text gives. -/
def Settings.parse (s : String) : Except Fault Settings :=
  (Reader.record Settings.shape).run s

end RevisionControl.Pushlog
