import RevisionControl.Proofs.Configurations
import RevisionControl.Proofs.Json.Writing

/-!
# Settings and policies written as JSON

A configuration is written as the compact text of an object with a member for each field
(`Settings.value`), in a fixed order and with the digits of its numbers. The members give the
configuration again, so the text is read as what it was written for, and it stands for all the
texts that are read as this configuration.
-/

namespace RevisionControl.Pushlog

open RevisionControl.Json

/-! ## The texts that are written -/

/-- The members of the object that a policy is written as. -/
def Policy.members (policy : Policy) : List (String × Value) :=
  [("attempts", .number (.integer policy.attempts.toNat)),
    ("delay_secs", .number (.integer policy.pause.toNat))]

/-- The object that a policy is written as. -/
def Policy.value (policy : Policy) : Value := .object policy.members

/-- The members of the object that settings are written as. -/
def Settings.members (settings : Settings) : List (String × Value) :=
  [("timeout_secs", .number (.integer settings.timeout.toNat)), ("retry", settings.retry.value)]

/-- The object that settings are written as. -/
def Settings.value (settings : Settings) : Value := .object settings.members

theorem write_count (n : Nat) : (Value.number (.integer n)).write = toString n := by
  rw [Value.write, Value.chars, String.ofList_toList]
  rfl

/-- The text of an object with two members. -/
theorem write_two {first second : String} (opening middle : String) (v w : Value)
    (hopening : opening.toList = '\x7b' :: (stringChars first ++ [':']))
    (hmiddle : middle.toList = ',' :: (stringChars second ++ [':'])) :
    (Value.object [(first, v), (second, w)]).write =
      opening ++ v.write ++ middle ++ w.write ++ "\x7d" := by
  have hclosing : "\x7d".toList = ['\x7d'] := rfl
  refine String.toList_inj.mp ?_
  simp only [Value.write, Value.chars, membersChars, String.toList_append, String.toList_ofList,
    hopening, hmiddle, hclosing, List.append_assoc, List.cons_append, List.nil_append]

theorem Policy.write_value (policy : Policy) : policy.value.write = policy.write := by
  unfold Policy.value Policy.members Policy.write
  rw [write_two "\x7b\"attempts\":" ",\"delay_secs\":" _ _ (by rfl) (by rfl), write_count,
    write_count]

theorem Settings.write_value (settings : Settings) : settings.value.write = settings.write := by
  unfold Settings.value Settings.members Settings.write
  rw [write_two "\x7b\"timeout_secs\":" ",\"retry\":" _ _ (by rfl) (by rfl), write_count,
    Policy.write_value]

/-! ## Reading what was written -/

/-- The text of an object, taken as a whole, has the members that are written. -/
theorem document_write {members : List (String × Value)}
    (h : ∀ m ∈ members, LooseText m.2.chars) :
    Document (ObjectText StringText Verbatim) (Value.object members).write
      (members.map fun m => (m.1, m.2.chars)) :=
  ⟨[], _, [], Blanks.nil, Blanks.nil, objectText_chars h, by simp [Value.write]⟩

theorem countText_count32 (n : UInt32) :
    CountText (Nat.pow 2 32 - 1) (Value.number (.integer n.toNat)).chars n.toNat :=
  countText_chars (Nat.le_sub_one_of_lt n.toNat_lt)

theorem countText_count64 (n : UInt64) :
    CountText (Nat.pow 2 64 - 1) (Value.number (.integer n.toNat)).chars n.toNat :=
  countText_chars (Nat.le_sub_one_of_lt n.toNat_lt)

/-- The texts of the members of a policy are values. -/
theorem Policy.loose (policy : Policy) : ∀ m ∈ policy.members, LooseText m.2.chars := by
  intro m hm
  rcases List.mem_cons.mp hm with rfl | hm
  · exact (countText_count32 policy.attempts).loose
  · rw [List.mem_singleton.mp hm]
    exact (countText_count64 policy.pause).loose

theorem Policy.parse_write (policy : Policy) : Policy.parse policy.write = .ok policy := by
  rw [← Policy.write_value]
  refine (Policy.parse_object (document_write policy.loose) policy).mpr ⟨?_, ?_⟩
  · exact Or.inr ⟨_, rfl, countText_count32 policy.attempts⟩
  · exact Or.inr ⟨_, rfl, countText_count64 policy.pause⟩

theorem Settings.loose (settings : Settings) : ∀ m ∈ settings.members, LooseText m.2.chars := by
  intro m hm
  rcases List.mem_cons.mp hm with rfl | hm
  · exact (countText_count64 settings.timeout).loose
  · rw [List.mem_singleton.mp hm]
    exact .of_object (objectText_chars settings.retry.loose)

theorem Settings.parse_write (settings : Settings) :
    Settings.parse settings.write = .ok settings := by
  rw [← Settings.write_value]
  refine (Settings.parse_object (document_write settings.loose) settings).mpr ⟨?_, ?_⟩
  · exact Or.inr ⟨_, rfl, countText_count64 settings.timeout⟩
  · have hretry : Policy.parse settings.retry.value.write = .ok settings.retry := by
      rw [Policy.write_value, Policy.parse_write]
    exact Or.inr ⟨_, rfl, hretry⟩

/-! ## Texts of the same configuration -/

/-- What is read back from its text is told apart by it. -/
theorem write_eq_iff {α : Type} {write : α → String} {parse : String → Except Fault α}
    (h : ∀ a, parse (write a) = .ok a) (a b : α) : write a = write b ↔ a = b := by
  constructor
  · intro htext
    have hread := h a
    rw [htext, h b] at hread
    exact (Except.ok.inj hread).symm
  · intro hsame
    rw [hsame]

/-- A configuration is kept by its text. Settings and policies are written as the compact text of
the object with their fields, and what is written is read as they are, whatever their numbers. So a
text that is written for what any accepted text gives is settled: what is read from it is written as
the same text again. Two accepted texts lead to the same settled text exactly when they give the
same configuration. -/
theorem configuration_kept_by_text :
    (∀ settings : Settings, settings.write = settings.value.write ∧
      Settings.parse settings.write = .ok settings) ∧
    (∀ policy : Policy, policy.write = policy.value.write ∧
      Policy.parse policy.write = .ok policy) ∧
    (∀ t settings, Settings.parse t = .ok settings →
      (∃ again, Settings.parse settings.write = .ok again ∧ again.write = settings.write) ∧
      ∀ t' settings', Settings.parse t' = .ok settings' →
        (settings.write = settings'.write ↔ settings = settings')) ∧
    ∀ t policy, Policy.parse t = .ok policy →
      (∃ again, Policy.parse policy.write = .ok again ∧ again.write = policy.write) ∧
      ∀ t' policy', Policy.parse t' = .ok policy' →
        (policy.write = policy'.write ↔ policy = policy') := by
  refine ⟨fun settings => ⟨settings.write_value.symm, settings.parse_write⟩,
    fun policy => ⟨policy.write_value.symm, policy.parse_write⟩, ?_, ?_⟩
  · intro t settings _
    refine ⟨⟨settings, settings.parse_write, rfl⟩, fun _ settings' _ => ?_⟩
    exact write_eq_iff Settings.parse_write settings settings'
  · intro t policy _
    refine ⟨⟨policy, policy.parse_write, rfl⟩, fun _ policy' _ => ?_⟩
    exact write_eq_iff Policy.parse_write policy policy'

/-- An array with the greatest time for a request, and a blank in it. -/
theorem configuration_kept_at_greatest :
    let settings : Settings := ⟨18446744073709551615, Policy.default⟩
    Settings.parse "[18446744073709551615 ]" = .ok settings ∧
      ∃ again, Settings.parse settings.write = .ok again ∧ again.write = settings.write := by
  intro settings
  let digits := "18446744073709551615".toList
  have hall : digits.all Reader.isDigit = true := rfl
  have hwhole : Whole digits :=
    Or.inr ⟨⟨List.cons_ne_nil _ _, List.all_eq_true.mp hall⟩, by decide⟩
  have hdigits : CountText (Nat.pow 2 64 - 1) digits settings.timeout.toNat :=
    ⟨hwhole, rfl, Nat.le_refl _⟩
  have hitem : Padded Verbatim digits digits := .of ⟨hdigits.loose, rfl⟩
  have hblank : Blanks [' '] := List.forall_mem_singleton.mpr rfl
  have hdocument : Document (ArrayText Verbatim) "[18446744073709551615 ]" [digits] :=
    ⟨[], '[' :: (digits ++ ([' '] ++ [']'])), [], Blanks.nil, Blanks.nil,
      ⟨_, .first hitem (.close hblank), rfl⟩, by decide⟩
  have hparse : Settings.parse "[18446744073709551615 ]" = .ok settings := by
    refine (Settings.parse_array hdocument settings).mpr ⟨by decide, ?_, ?_⟩
    · exact Or.inr ⟨digits, rfl, hdigits⟩
    · exact Or.inl ⟨rfl, rfl⟩
  obtain ⟨-, -, hkept, -⟩ := configuration_kept_by_text
  exact ⟨hparse, (hkept _ settings hparse).1⟩

end RevisionControl.Pushlog
