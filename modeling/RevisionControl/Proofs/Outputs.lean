import RevisionControl.Proofs.Remotes
import RevisionControl.Proofs.Text.Decoding

/-!
# Proofs: what comes of the output of a process

A process that succeeds must have printed a text, and nothing about it is changed; if it is no text,
the failure tells where the longest text at its start ends, and what is the matter there
(`FaultBehind`). Any other process is a command that failed, with both of its streams in the texts
that stand for them (`Reported`), whatever they hold.
-/

namespace RevisionControl

open Host Text.Utf8

namespace Launcher

variable {launcher : Launcher} {arguments : List String} {host : Host} {call : Call}
  {stream : List UInt8} {text : String}

/-- A fault is behind the longest text at the start of a stream. What follows may be a character
that is broken off; otherwise it begins with some bytes that are beyond mending. -/
inductive FaultBehind (stream : List UInt8) : Text.Utf8.Fault → Prop
  | incomplete {whole rest : List UInt8} (hstream : whole ++ rest = stream)
      (hwhole : whole.toByteArray.IsValidUTF8)
      (hlongest : ∀ start, start <+: stream → start.toByteArray.IsValidUTF8 → start <+: whole)
      (hrest : BrokenOff rest) : FaultBehind stream (.incomplete whole.length)
  | invalid {whole part later : List UInt8} (hstream : whole ++ (part ++ later) = stream)
      (hwhole : whole.toByteArray.IsValidUTF8)
      (hlongest : ∀ start, start <+: stream → start.toByteArray.IsValidUTF8 → start <+: whole)
      (hrest : ¬ BrokenOff (part ++ later)) (hpart : InvalidPart part later)
      (hsize : 1 ≤ part.length ∧ part.length ≤ 3) :
      FaultBehind stream (.invalid whole.length part.length)

/-- The text in which a stream is reported. -/
structure Reported (stream : List UInt8) (text : String) : Prop where
  /-- Each part that is beyond mending is replaced, and everything else is kept in order. -/
  replaced : Replaced stream text.toList
  /-- There is no other such text. -/
  only : ∀ cs, Replaced stream cs → cs = text.toList
  /-- A stream that is a text is reported as it is. -/
  own : ∀ own : String, own.toUTF8 = stream.toByteArray → text = own

theorem longest_of_noneStarts {cs : List Char} {rest : List UInt8}
    (hstream : encode cs ++ rest = stream) (hrest : NoneStarts rest) :
    ∀ start, start <+: stream → start.toByteArray.IsValidUTF8 → start <+: encode cs := by
  intro start hstart hvalid
  obtain ⟨ds, rfl⟩ := isValidUTF8_iff.mp hvalid
  rw [← hstream] at hstart
  exact encode_prefix_of_noneStarts hrest hstart

theorem exists_faultBehind (h : ¬ stream.toByteArray.IsValidUTF8) :
    ∃ fault, decode? stream = .error fault ∧ FaultBehind stream fault := by
  have hnone : ∀ cs, encode cs ≠ stream := fun cs hcs => h (isValidUTF8_iff.mpr ⟨cs, hcs⟩)
  obtain ⟨cs, rest, hstream, hrest, hbroken, hinvalid⟩ := decode?_eq_error hnone
  have hwhole : (encode cs).toByteArray.IsValidUTF8 := isValidUTF8_iff.mpr ⟨cs, rfl⟩
  have hlongest := longest_of_noneStarts hstream hrest
  by_cases hoff : BrokenOff rest
  · exact ⟨_, hbroken hoff, .incomplete hstream hwhole hlongest hoff⟩
  · obtain ⟨part, later, rfl, hpart, hdecode⟩ := hinvalid hoff
    exact ⟨_, hdecode, .invalid hstream hwhole hlongest hoff hpart
      ⟨hpart.length_pos, hpart.length_le⟩⟩

theorem reported_decodeLossy (stream : List UInt8) : Reported stream (decodeLossy stream) := by
  have hreplaced : Replaced stream (decodeLossy stream).toList := decodeLossy_eq_iff.mp rfl
  refine ⟨hreplaced, fun cs hcs => hcs.unique hreplaced, fun own hown => ?_⟩
  have hencode : encode own.toList = stream := toUTF8_eq_iff.mp hown
  rw [decodeLossy_eq_iff, ← hencode]
  exact .of_encode own.toList

/-- A process comes to a text just if it succeeds and prints the bytes of that text. -/
theorem result_eq_ok_iff {description : String} {reply : Reply} :
    result description reply = .ok text ↔
      reply.exit = .code 0 ∧ text.toUTF8 = reply.stdout.toByteArray := by
  have hdecode : decode? reply.stdout = .ok text ↔ text.toUTF8 = reply.stdout.toByteArray :=
    decode?_eq_ok_iff.trans toUTF8_eq_iff.symm
  unfold result
  by_cases hexit : reply.exit = .code 0
  · rw [if_pos hexit, and_iff_right hexit, ← hdecode]
    cases decode? reply.stdout with
    | ok found =>
      dsimp only
      rw [Except.ok.injEq, Except.ok.injEq]
    | error fault =>
      constructor
      · intro h
        cases h
      · intro h
        cases h
  · rw [if_neg hexit]
    constructor
    · intro h
      cases h
    · intro h
      exact absurd h.1 hexit

/-- What a launch comes to is told by how its process ends and what it prints, and if it succeeds by
standard output alone. There it is a text just if the process succeeded and its output is the bytes
of that text. A process that succeeds with no text fails with the fault behind the longest text at
the start of the output. A process that ends otherwise is a command that failed, with both streams
as they are reported, whether they are texts or not. -/
theorem run_told_by_reply (hcall : host.prepare (launcher.command arguments) = .ok call) :
    let reply := (host.run call).1
    let outcome := ((launcher.run arguments).run host).1
    (∀ text, outcome = .ok text ↔
      reply.exit = .code 0 ∧ text.toUTF8 = reply.stdout.toByteArray) ∧
    (reply.exit = .code 0 → ¬ reply.stdout.toByteArray.IsValidUTF8 →
      ∃ fault, outcome = .error (.notUtf8 fault) ∧ FaultBehind reply.stdout fault) ∧
    (reply.exit ≠ .code 0 → ∃ failure, outcome = .error (.commandFailed failure) ∧
      failure.exitCode = reply.exit.number ∧
      Reported reply.stdout failure.stdout ∧ Reported reply.stderr failure.stderr) := by
  intro reply outcome
  have houtcome : outcome = result (launcher.describe arguments) reply := by
    have hrun : outcome = _ := run_eq_outcome
    rw [hrun, Attempt.outcome, attempt, hcall]
    rfl
  rw [houtcome]
  refine ⟨fun text => result_eq_ok_iff, fun hexit hinvalid => ?_, fun hexit => ?_⟩
  · obtain ⟨fault, hdecode, hfault⟩ := exists_faultBehind hinvalid
    refine ⟨fault, ?_, hfault⟩
    rw [result, if_pos hexit, hdecode]
  · refine ⟨_, if_neg hexit, rfl, ?_, ?_⟩
    · exact reported_decodeLossy reply.stdout
    · exact reported_decodeLossy reply.stderr

/-- A process fails after it has printed a byte that no character holds, and a letter. -/
theorem run_told_by_failed_reply :
    ∃ failure, ((Launcher.run ⟨"/", "/tool", ∅⟩ []).run
        (Host.answering [⟨[], [0xff, 0x61], [], .code 1⟩])).1 = .error (.commandFailed failure) ∧
      failure.stdout = "\ufffda" := by
  have hcall : (Host.answering [⟨[], [0xff, 0x61], [], .code 1⟩]).prepare
      (Launcher.command ⟨"/", "/tool", ∅⟩ []) = .ok ⟨"/tool", [], [], ∅, true⟩ := by rfl
  obtain ⟨-, -, hfailed⟩ := run_told_by_reply hcall
  obtain ⟨failure, houtcome, -, hstdout, -⟩ := hfailed (by decide)
  have hreplaced : Replaced [0xff, 0x61] "\ufffda".toList := decodeLossy_eq_iff.mp (by decide)
  exact ⟨failure, houtcome, (String.toList_inj.mp (hstdout.only _ hreplaced)).symm⟩

end Launcher

end RevisionControl
