import RevisionControl.Proofs.Answers
import RevisionControl.Proofs.Json.Writing

/-!
# What an ambiguous lookup tells

The error of an ambiguous lookup holds the text of all entries. Nothing is lost in it while the
numbers are integers: the text is read back as the same mapping, and two bodies give the same text
exactly when their mappings are equal.
-/

namespace RevisionControl.Pushlog

open RevisionControl.Json

/-- The text of the entries in an ambiguous result. -/
def entriesWritten (written : List (String × Value)) : String :=
  (Value.object (Members.ofList written)).write

/-- Every number in the last values of the keys is an integer that is kept exactly. -/
def WholeEntries (written : List (String × Value)) : Prop :=
  ∀ key v, lastOf key written = some v → WholeNumbers v

theorem WholeEntries.object {written : List (String × Value)} (h : WholeEntries written) :
    WholeNumbers (.object (Members.ofList written)) := by
  refine .object fun m hm => h m.1 m.2 ?_
  rw [← Members.get?_ofList]
  exact Members.get?_of_mem (Members.ofList_ascending written) hm

/-- The entries of a well-shaped body are spelled by a text. -/
theorem WellShaped.object_spelled {body : String} {written : List (String × Value)}
    (h : WellShaped body written) :
    ∃ t, Spells AnyOrder 126 t (.object (Members.ofList written)) := by
  rcases h with ⟨members, u, -, -, hu⟩ | ⟨u, -, hu⟩
  · exact ⟨u, .inr (.inr ⟨written, hu, trivial, rfl⟩)⟩
  · exact ⟨u, .inr (.inr ⟨written, hu, trivial, rfl⟩)⟩

theorem entriesWritten_document {body : String} {written : List (String × Value)}
    (h : WellShaped body written) (hwhole : WholeEntries written) :
    Document (Spells Members.Ascending 126) (entriesWritten written)
      (.object (Members.ofList written)) := by
  obtain ⟨t, ht⟩ := h.object_spelled
  exact ⟨[], _, [], Blanks.nil, Blanks.nil, chars_spells ht hwhole.object,
    by simp [entriesWritten, Value.write]⟩

theorem parse_entriesWritten {body : String} {written : List (String × Value)}
    (h : WellShaped body written) (hwhole : WholeEntries written) :
    Value.parse (entriesWritten written) = .ok (.object (Members.ofList written)) := by
  obtain ⟨t, ht⟩ := h.object_spelled
  exact Value.parse_write (ht.mono (fun _ h => h) (by decide)) hwhole.object

theorem entriesWritten_inj {body body' : String} {written written' : List (String × Value)}
    (h : WellShaped body written) (h' : WellShaped body' written') (hwhole : WholeEntries written)
    (hwhole' : WholeEntries written') :
    entriesWritten written = entriesWritten written' ↔
      ∀ key, lastOf key written = lastOf key written' := by
  rw [← Members.ofList_eq_ofList]
  constructor
  · intro htext
    have hread := parse_entriesWritten h hwhole
    rw [htext, parse_entriesWritten h' hwhole'] at hread
    exact (Value.object.inj (Except.ok.inj hread)).symm
  · intro hsame
    rw [entriesWritten, entriesWritten, hsame]

theorem entriesWritten_braces {body : String} {written : List (String × Value)}
    (h : WellShaped body written) (hwhole : WholeEntries written) :
    entriesWritten written = "\x7b\x7d" ↔ written = [] := by
  constructor
  · intro htext
    have hread := parse_entriesWritten h hwhole
    have hempty : Value.parse "\x7b\x7d" = .ok (.object []) := by rfl
    rw [htext, hempty] at hread
    have hnone : Members.ofList written = [] :=
      (Value.object.inj (Except.ok.inj hread)).symm
    exact Members.ofList_eq_nil.mp hnone
  · rintro rfl
    rfl

/-- The lookup is ambiguous unless the entries have one key, and then tells all of them. -/
theorem decodeAnswer_ambiguous {repository revision body text : String}
    {written : List (String × Value)} (h : WellShaped body written) :
    decodeAnswer repository revision body = .error (.ambiguous repository revision text) ↔
      (¬ ∃ key, OnlyKey key written) ∧ text = entriesWritten written := by
  rw [decodeAnswer_wellShaped h]
  by_cases hone : ∃ key, OnlyKey key written
  · obtain ⟨key, honly⟩ := hone
    obtain ⟨v, hv⟩ := honly.ofList
    rw [hv, decodePushes]
    refine ⟨fun hambiguous => ?_, fun hnone => absurd ⟨key, honly⟩ hnone.1⟩
    cases hentry : Entry.ofValue v <;> simp [hentry] at hambiguous
  · rw [decodePushes_many hone, ← entriesWritten]
    simp [hone, eq_comm]

/-- An ambiguous lookup tells all entries. The text it tells is read back as their mapping, its
keys ascend in every object, and another ambiguous lookup tells the same text exactly when the
mapping of its entries is the same. -/
theorem lookUp_tells_all_entries {σ : Type} {settings : Settings} {fetch : Fetch σ} {s : σ}
    {repository revision body : String} {written : List (String × Value)}
    (hgets : Gets settings fetch s repository revision body) (hshaped : WellShaped body written)
    (hmany : ¬ ∃ key, OnlyKey key written) (hwhole : WholeEntries written) :
    ∃ text, ((lookUp settings fetch repository revision).run s).1 =
        .error (.ambiguous repository revision text) ∧
      Value.parse text = .ok (.object (Members.ofList written)) ∧
      (∀ key, (Members.ofList written).get? key = lastOf key written) ∧
      Document (Spells Members.Ascending 126) text (.object (Members.ofList written)) ∧
      (text = "\x7b\x7d" ↔ written = []) ∧
      ∀ {τ : Type} (settings' : Settings) (fetch' : Fetch τ) (s' : τ)
        (repository' revision' body' text' : String) (written' : List (String × Value)),
        Gets settings' fetch' s' repository' revision' body' → WellShaped body' written' →
        WholeEntries written' →
        ((lookUp settings' fetch' repository' revision').run s').1 =
          .error (.ambiguous repository' revision' text') →
        (text = text' ↔ ∀ key, lastOf key written = lastOf key written') := by
  refine ⟨entriesWritten written, ?_, parse_entriesWritten hshaped hwhole,
    Members.get?_ofList written, entriesWritten_document hshaped hwhole,
    entriesWritten_braces hshaped hwhole, ?_⟩
  · rw [hgets.lookUp]
    exact (decodeAnswer_ambiguous hshaped).mpr ⟨hmany, rfl⟩
  · intro τ settings' fetch' s' repository' revision' body' text' written' hgets' hshaped'
      hwhole' hambiguous
    rw [hgets'.lookUp] at hambiguous
    obtain ⟨-, rfl⟩ := (decodeAnswer_ambiguous hshaped').mp hambiguous
    exact entriesWritten_inj hshaped hshaped' hwhole hwhole'

/-- The entries that two keys give, one of them twice. -/
theorem lookUp_tells_last_of_two_keys :
    let body :=
      "\x7b\"pushes\":\x7b\"9\":[],\"10\":\"\\\"\",\"9\":\x7b\"b\":0,\"a\":\"\\n\"\x7d\x7d\x7d"
    let entries : Members := [("10", .text "\""),
      ("9", .object [("a", .text "\n"), ("b", .number (.integer 0))])]
    let exchange : Exchange := ⟨[.ok body], .invalidAnswer "" ⟨.endInValue, none⟩, []⟩
    ∃ written, Gets Settings.default Exchange.get exchange "r" "v" body ∧
      WellShaped body written ∧ (¬ ∃ key, OnlyKey key written) ∧ WholeEntries written ∧
      ∃ text, ((lookUp Settings.default Exchange.get "r" "v").run exchange).1 =
          .error (.ambiguous "r" "v" text) ∧
        Value.parse text = .ok (.object entries) := by
  intro body entries exchange
  have hparse : parsePushes body = .ok entries := parsePushes_eq_ok (by decide +kernel)
  obtain ⟨written, hshaped, hentries⟩ := parsePushes_ok.mp hparse
  have hgets : Gets Settings.default Exchange.get exchange "r" "v" body := rfl
  have hmany : ¬ ∃ key, OnlyKey key written := by
    rintro ⟨key, honly⟩
    obtain ⟨v, hone⟩ := honly.ofList
    simp [hentries, entries] at hone
  have hwhole : WholeEntries written := by
    intro key v hv
    rw [← Members.get?_ofList, hentries] at hv
    rw [Members.get?_cons, Members.get?_cons] at hv
    split at hv
    · obtain rfl := Option.some.inj hv
      exact .text "\""
    split at hv
    · obtain rfl := Option.some.inj hv
      refine .object fun m hm => ?_
      rcases List.mem_cons.mp hm with rfl | hm
      · exact .text "\n"
      · obtain rfl := List.mem_singleton.mp hm
        exact .integer 0
    · cases hv
  obtain ⟨text, htext, hread, -⟩ := lookUp_tells_all_entries hgets hshaped hmany hwhole
  rw [hentries] at hread
  exact ⟨written, hgets, hshaped, hmany, hwhole, text, htext, hread⟩

end RevisionControl.Pushlog
