import RevisionControl.Error
import RevisionControl.Proofs.Text.Quoted

/-!
# Proofs: messages with quoted texts

The messages that quote what a tool has printed tell it completely: the quoted part can be read back.
And they stay on one line, since no character that breaks a line or controls a terminal is shown as
itself.
-/

namespace RevisionControl

/-! ## Characters that a line of text must not hold -/

namespace Text

/-- A control character, of the general category `Cc`. -/
def IsControl (c : Char) : Prop := c.toNat < 0x20 ∨ 0x7f ≤ c.toNat ∧ c.toNat ≤ 0x9f

/-- A separator of lines or paragraphs. The other line breaks are control characters. -/
def IsSeparator (c : Char) : Prop := c.toNat = 0x2028 ∨ c.toNat = 0x2029

variable {c : Char} {shown : Char → Bool} {first last : Nat} {items : List String}

theorem IsPlain.not_control (h : IsPlain c) : ¬ IsControl c := by
  unfold IsPlain at h
  unfold IsControl
  omega

theorem IsPlain.not_separator (h : IsPlain c) : ¬ IsSeparator c := by
  unfold IsPlain at h
  unfold IsSeparator
  omega

theorem not_printable_of_range (hrange : (first, last) ∈ ungraphic) (hfirst : first ≤ c.toNat)
    (hlast : c.toNat ≤ last) : isPrintable c ≠ true := by
  have hheld : ungraphic.holds c = true :=
    List.any_eq_true.mpr ⟨(first, last), hrange, by simp [hfirst, hlast]⟩
  simp [isPrintable, isGraphic, hheld]

theorem not_control_of_printable (h : isPrintable c = true) : ¬ IsControl c := by
  rintro (hlow | ⟨hfirst, hlast⟩)
  · have hrange : (0x0, 0x1f) ∈ ungraphic := by decide
    exact not_printable_of_range hrange (Nat.zero_le _) (by omega) h
  · have hrange : (0x7f, 0xa0) ∈ ungraphic := by decide
    exact not_printable_of_range hrange hfirst (by omega) h

theorem not_separator_of_printable (h : isPrintable c = true) : ¬ IsSeparator c := by
  intro hseparator
  have hrange : (0x2028, 0x202f) ∈ ungraphic := by decide
  unfold IsSeparator at hseparator
  exact not_printable_of_range hrange (by omega) (by omega) h

theorem not_control_of_mem_quoteListBy (hshown : ∀ c, shown c = true → ¬ IsControl c)
    (h : c ∈ (quoteListBy shown items).toList) : ¬ IsControl c := by
  rcases mem_quoteListBy h with hplain | hc
  · exact hplain.not_control
  · exact hshown c hc

end Text

/-! ## Messages -/

namespace Error

open Text

variable {candidates candidates' : List String} {command output output' : String} {c : Char}

theorem candidates_eq_of_message
    (h : (ambiguousRemote candidates).message = (ambiguousRemote candidates').message) :
    candidates = candidates' := by
  have hquoted : quoteList candidates = quoteList candidates' := (String.append_right_inj _).mp h
  rw [← quoteListBy_isPrintable] at hquoted
  exact quoteListBy_inj hquoted

theorem output_eq_of_message
    (h : (unexpectedOutput command output).message = (unexpectedOutput command output').message) :
    output = output' := by
  have hquoted : quote output = quote output' := (String.append_right_inj _).mp h
  rw [← quoteBy_isPrintable] at hquoted
  exact quoteBy_inj hquoted

/-- The wording before the list is plain. -/
theorem mem_message_ambiguousRemote (h : c ∈ (ambiguousRemote candidates).message.toList) :
    IsPlain c ∨ isPrintable c = true := by
  have hwording : ∀ d ∈ "Cannot determine remote repository name. Candidate remotes: ".toList,
      IsPlain d := plain_of_all (by decide)
  have hsplit : c ∈ "Cannot determine remote repository name. Candidate remotes: ".toList ∨
      c ∈ (quoteList candidates).toList := by
    rw [← List.mem_append, ← String.toList_append]
    exact h
  rcases hsplit with hc | hc
  · exact Or.inl (hwording c hc)
  · rw [← quoteListBy_isPrintable] at hc
    exact mem_quoteListBy hc

/-- A message that quotes tells what it quotes: the candidates for the remote, one by one, and the
output of a command. The message with the candidates has no control character and no separator of
lines, whatever they are called.

Which characters are quoted as they are does not matter for this. With any set of shown characters a
quoted text and a list of quoted texts can be read back, and if the set has no control character the
list has none. -/
theorem message_tells_quoted :
    (∀ candidates candidates' : List String,
      (ambiguousRemote candidates).message = (ambiguousRemote candidates').message →
        candidates = candidates') ∧
    (∀ command output output' : String,
      (unexpectedOutput command output).message = (unexpectedOutput command output').message →
        output = output') ∧
    (∀ (candidates : List String), ∀ c ∈ (ambiguousRemote candidates).message.toList,
      ¬ IsControl c ∧ ¬ IsSeparator c) ∧
    quoteBy isPrintable = quote ∧ quoteListBy isPrintable = quoteList ∧
    ∀ shown : Char → Bool,
      (∀ items items', quoteListBy shown items = quoteListBy shown items' → items = items') ∧
      (∀ s s', quoteBy shown s = quoteBy shown s' → s = s') ∧
      ((∀ c, shown c = true → ¬ IsControl c) →
        ∀ items, ∀ c ∈ (quoteListBy shown items).toList, ¬ IsControl c) := by
  refine ⟨fun _ _ => candidates_eq_of_message, fun _ _ _ => output_eq_of_message, ?_,
    quoteBy_isPrintable, quoteListBy_isPrintable, fun shown => ⟨fun _ _ => quoteListBy_inj,
      fun _ _ => quoteBy_inj, fun hshown items c => not_control_of_mem_quoteListBy hshown⟩⟩
  intro candidates c hc
  rcases mem_message_ambiguousRemote hc with hplain | hprintable
  · exact ⟨hplain.not_control, hplain.not_separator⟩
  · exact ⟨not_control_of_printable hprintable, not_separator_of_printable hprintable⟩

end Error

end RevisionControl
