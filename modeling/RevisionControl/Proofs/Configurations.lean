import RevisionControl.Proofs.Json.Records
import RevisionControl.Pushlog.Settings

/-!
# Settings and policies read from JSON

A configuration is read from an object whose known members are each given once at most, whatever
else stands between them and in whatever order; a member that is missing leaves the default. The
array form gives the leading fields by position.
-/

namespace RevisionControl.Pushlog

open RevisionControl.Json

variable {α : Type}

/-! ## The fields of a policy -/

/-- A count of a fixed width is read from the texts of the numbers that the width holds, if these are
turned into counts of the width and back without loss. -/
theorem takes_count {ofNat : Nat → α} {toNat : α → Nat} {size : Nat} (hpos : 0 < size)
    (hsize : size ≤ Nat.pow 2 64) (htoNat : ∀ n < size, toNat (ofNat n) = n)
    (hofNat : ∀ a, ofNat (toNat a) = a) (expected : String) :
    Reader.Takes (do return ofNat (← Reader.natural (size - 1) expected))
      (Padded fun t a => CountText (size - 1) t (toNat a)) := by
  have hlt : size - 1 < Nat.pow 2 64 := by omega
  refine (Reader.takes_natural hlt expected).map.congr fun t a => ?_
  constructor
  · rintro ⟨n, ⟨blanks, u, hb, hu, rfl⟩, rfl⟩
    refine ⟨blanks, u, hb, ?_, rfl⟩
    show CountText (size - 1) u (toNat (ofNat n))
    rwa [htoNat n (hu.lt hpos)]
  · rintro ⟨blanks, u, hb, hu, rfl⟩
    exact ⟨toNat a, ⟨blanks, u, hb, hu, rfl⟩, hofNat a⟩

theorem takes_readCount32 : Reader.Takes readCount32
    (Padded fun t (n : UInt32) => CountText (Nat.pow 2 32 - 1) t n.toNat) :=
  takes_count (by decide) (by decide) (fun _ hn => UInt32.toNat_ofNat_of_lt' hn)
    (fun _ => UInt32.ofNat_toNat) "u32"

theorem takes_readCount64 : Reader.Takes readCount64
    (Padded fun t (n : UInt64) => CountText (Nat.pow 2 64 - 1) t n.toNat) :=
  takes_count (by decide) (Nat.le_refl _) (fun _ hn => UInt64.toNat_ofNat_of_lt' hn)
    (fun _ => UInt64.ofNat_toNat) "u64"

/-- The slot of the number of attempts. -/
def Policy.attemptsSlot : Slot Policy.Draft :=
  ⟨"attempts", UInt32, (·.attempts), fun draft n => { draft with attempts := some n }, readCount32,
    fun t n => CountText (Nat.pow 2 32 - 1) t n.toNat⟩

/-- The slot of the pause. -/
def Policy.pauseSlot : Slot Policy.Draft :=
  ⟨"delay_secs", UInt64, (·.pause), fun draft n => { draft with pause := some n }, readCount64,
    fun t n => CountText (Nat.pow 2 64 - 1) t n.toNat⟩

theorem Policy.layout : Layout Policy.shape [attemptsSlot, pauseSlot] where
  fields := rfl
  pairwise := by decide
  blank := by simp [attemptsSlot, pauseSlot, shape]
  reads := by
    simp only [List.mem_cons, List.not_mem_nil, or_false, forall_eq_or_imp, forall_eq]
    exact ⟨takes_readCount32, takes_readCount64⟩
  loose := by
    simp only [List.mem_cons, List.not_mem_nil, or_false, forall_eq_or_imp, forall_eq]
    exact ⟨fun t n h => CountText.loose h, fun t n h => CountText.loose h⟩
  get_put := by simp [attemptsSlot, pauseSlot]
  frame := by simp [attemptsSlot, pauseSlot]
  ext := by
    rintro ⟨attempts, pause⟩ ⟨attempts', pause'⟩ h
    simpa [attemptsSlot, pauseSlot] using h

/-- What members give a policy: each field is given once at most, in range, and has its default
otherwise. -/
def Policy.GivenBy (members : List (String × List Char)) (policy : Policy) : Prop :=
  Given (fun t n => CountText (Nat.pow 2 32 - 1) t n.toNat) Policy.default.attempts
      (textsOf "attempts" members) policy.attempts ∧
    Given (fun t n => CountText (Nat.pow 2 64 - 1) t n.toNat) Policy.default.pause
      (textsOf "delay_secs" members) policy.pause

theorem Policy.givenBy_iff {members : List (String × List Char)} {policy : Policy} :
    Policy.GivenBy members policy ↔
      ∃ draft, Fills [attemptsSlot, pauseSlot] shape.blank members draft ∧
        draft.finish = policy := by
  have hfills : ∀ draft, Fills [attemptsSlot, pauseSlot] shape.blank members draft ↔
      attemptsSlot.Moves none (textsOf "attempts" members) draft.attempts ∧
        pauseSlot.Moves none (textsOf "delay_secs" members) draft.pause := by
    intro draft
    simp [Fills, attemptsSlot, pauseSlot, shape]
  constructor
  · rintro ⟨hattempts, hpause⟩
    obtain ⟨attempts, hmoves, ha⟩ := attemptsSlot.given_iff.mp hattempts
    obtain ⟨pause, hmoves', hp⟩ := pauseSlot.given_iff.mp hpause
    exact ⟨⟨attempts, pause⟩, (hfills _).mpr ⟨hmoves, hmoves'⟩, congr (congrArg Policy.mk ha) hp⟩
  · rintro ⟨draft, h, rfl⟩
    obtain ⟨hmoves, hmoves'⟩ := (hfills draft).mp h
    exact ⟨attemptsSlot.given_iff.mpr ⟨_, hmoves, rfl⟩,
      pauseSlot.given_iff.mpr ⟨_, hmoves', rfl⟩⟩

theorem Policy.parse_object {s : String} {members : List (String × List Char)}
    (h : Document (ObjectText StringText Verbatim) s members) (policy : Policy) :
    Policy.parse s = .ok policy ↔ Policy.GivenBy members policy := by
  rw [Policy.parse, run_record_object layout h, Policy.givenBy_iff]
  simp [shape]

theorem Policy.parse_array {s : String} {items : List (List Char)}
    (h : Document (ArrayText Verbatim) s items) (policy : Policy) :
    Policy.parse s = .ok policy ↔
      items.length ≤ 2 ∧ Policy.GivenBy (["attempts", "delay_secs"].zip items) policy := by
  rw [Policy.parse, run_record_array layout h, Policy.givenBy_iff]
  simp [shape, attemptsSlot, pauseSlot]

/-! ## The fields of the settings -/

/-- The slot of the time for a request. -/
def Settings.timeoutSlot : Slot Settings.Draft :=
  ⟨"timeout_secs", UInt64, (·.timeout), fun draft n => { draft with timeout := some n },
    readCount64, fun t n => CountText (Nat.pow 2 64 - 1) t n.toNat⟩

/-- The slot of the policy. -/
def Settings.retrySlot : Slot Settings.Draft :=
  ⟨"retry", Policy, (·.retry), fun draft policy => { draft with retry := some policy },
    Reader.record Policy.shape, RecordText Policy.shape [Policy.attemptsSlot, Policy.pauseSlot]⟩

theorem Settings.layout : Layout Settings.shape [timeoutSlot, retrySlot] where
  fields := rfl
  pairwise := by decide
  blank := by simp [timeoutSlot, retrySlot, shape]
  reads := by
    simp only [List.mem_cons, List.not_mem_nil, or_false, forall_eq_or_imp, forall_eq]
    exact ⟨takes_readCount64, Reader.takes_record Policy.layout⟩
  loose := by
    simp only [List.mem_cons, List.not_mem_nil, or_false, forall_eq_or_imp, forall_eq]
    exact ⟨fun t n h => CountText.loose h, fun t policy h => RecordText.loose h⟩
  get_put := by simp [timeoutSlot, retrySlot]
  frame := by simp [timeoutSlot, retrySlot]
  ext := by
    rintro ⟨timeout, retry⟩ ⟨timeout', retry'⟩ h
    simpa [timeoutSlot, retrySlot] using h

/-- What members give the settings. The text for the policy is one that a policy is read from. -/
def Settings.GivenBy (members : List (String × List Char)) (settings : Settings) : Prop :=
  Given (fun t n => CountText (Nat.pow 2 64 - 1) t n.toNat) Settings.default.timeout
      (textsOf "timeout_secs" members) settings.timeout ∧
    Given (fun t policy => Policy.parse (String.ofList t) = .ok policy) Settings.default.retry
      (textsOf "retry" members) settings.retry

theorem mem_of_textsOf {name : String} {members : List (String × List Char)} {t : List Char}
    (h : t ∈ textsOf name members) : (name, t) ∈ members := by
  simp only [textsOf, List.mem_map, List.mem_filter, beq_iff_eq] at h
  obtain ⟨⟨key, u⟩, ⟨hmem, rfl⟩, rfl⟩ := h
  exact hmem

theorem Settings.givenBy_iff {members : List (String × List Char)} {settings : Settings}
    (hloose : ∀ m ∈ members, LooseText m.2) :
    Settings.GivenBy members settings ↔
      ∃ draft, Fills [timeoutSlot, retrySlot] shape.blank members draft ∧
        draft.finish = settings := by
  have hfills : ∀ draft, Fills [timeoutSlot, retrySlot] shape.blank members draft ↔
      timeoutSlot.Moves none (textsOf "timeout_secs" members) draft.timeout ∧
        retrySlot.Moves none (textsOf "retry" members) draft.retry := by
    intro draft
    simp [Fills, timeoutSlot, retrySlot, shape]
  have hpolicy : ∀ t ∈ textsOf "retry" members,
      (Policy.parse (String.ofList t) = .ok settings.retry ↔
        retrySlot.texts t settings.retry) := by
    intro t ht
    exact (Reader.takes_record Policy.layout).run_loose (fun t a h => RecordText.loose h)
      (hloose _ (mem_of_textsOf ht)) _
  have hretry : Given (fun t policy => Policy.parse (String.ofList t) = .ok policy)
      Settings.default.retry (textsOf "retry" members) settings.retry ↔
        Given retrySlot.texts Settings.default.retry (textsOf "retry" members) settings.retry :=
    Given.congr hpolicy
  rw [Settings.GivenBy, hretry]
  constructor
  · rintro ⟨htimeout, hretry⟩
    obtain ⟨timeout, hmoves, ht⟩ := timeoutSlot.given_iff.mp htimeout
    obtain ⟨retry, hmoves', hr⟩ := retrySlot.given_iff.mp hretry
    exact ⟨⟨timeout, retry⟩, (hfills _).mpr ⟨hmoves, hmoves'⟩,
      congr (congrArg Settings.mk ht) hr⟩
  · rintro ⟨draft, h, rfl⟩
    obtain ⟨hmoves, hmoves'⟩ := (hfills draft).mp h
    exact ⟨timeoutSlot.given_iff.mpr ⟨_, hmoves, rfl⟩,
      retrySlot.given_iff.mpr ⟨_, hmoves', rfl⟩⟩

theorem Settings.parse_object {s : String} {members : List (String × List Char)}
    (h : Document (ObjectText StringText Verbatim) s members) (settings : Settings) :
    Settings.parse s = .ok settings ↔ Settings.GivenBy members settings := by
  rw [Settings.parse, run_record_object layout h, Settings.givenBy_iff (LooseText.of_mem_object h)]
  simp [shape]

theorem Settings.parse_array {s : String} {items : List (List Char)}
    (h : Document (ArrayText Verbatim) s items) (settings : Settings) :
    Settings.parse s = .ok settings ↔
      items.length ≤ 2 ∧ Settings.GivenBy (["timeout_secs", "retry"].zip items) settings := by
  have hloose : ∀ m ∈ ["timeout_secs", "retry"].zip items, LooseText m.2 :=
    fun m hm => LooseText.of_mem_array h m.2 (List.of_mem_zip hm).2
  rw [Settings.parse, run_record_array layout h, Settings.givenBy_iff hloose]
  simp [shape, timeoutSlot, retrySlot]

/-! ## What is accepted -/

/-- The text of a policy. -/
def IsPolicy (t : List Char) : Prop := ∃ policy, Policy.parse (String.ofList t) = .ok policy

theorem exists_count32 : (fun t => ∃ n : UInt32, CountText (Nat.pow 2 32 - 1) t n.toNat) =
    CountUpTo (Nat.pow 2 32 - 1) := by
  funext t
  refine propext ⟨fun ⟨n, hn⟩ => ⟨n.toNat, hn⟩, fun ⟨n, hn⟩ => ⟨UInt32.ofNat n, ?_⟩⟩
  rwa [UInt32.toNat_ofNat_of_lt' (hn.lt (by decide))]

theorem exists_count64 : (fun t => ∃ n : UInt64, CountText (Nat.pow 2 64 - 1) t n.toNat) =
    CountUpTo (Nat.pow 2 64 - 1) := by
  funext t
  refine propext ⟨fun ⟨n, hn⟩ => ⟨n.toNat, hn⟩, fun ⟨n, hn⟩ => ⟨UInt64.ofNat n, ?_⟩⟩
  rwa [UInt64.toNat_ofNat_of_lt' (hn.lt (by decide))]

theorem Policy.exists_givenBy {members : List (String × List Char)} :
    (∃ policy, Policy.GivenBy members policy) ↔
      Once (CountUpTo (Nat.pow 2 32 - 1)) (textsOf "attempts" members) ∧
        Once (CountUpTo (Nat.pow 2 64 - 1)) (textsOf "delay_secs" members) := by
  rw [← exists_count32, ← exists_count64, ← Given.exists_iff Policy.default.attempts,
    ← Given.exists_iff Policy.default.pause]
  constructor
  · rintro ⟨policy, hattempts, hpause⟩
    exact ⟨⟨_, hattempts⟩, ⟨_, hpause⟩⟩
  · rintro ⟨⟨attempts, hattempts⟩, ⟨pause, hpause⟩⟩
    exact ⟨⟨attempts, pause⟩, hattempts, hpause⟩

theorem Settings.exists_givenBy {members : List (String × List Char)} :
    (∃ settings, Settings.GivenBy members settings) ↔
      Once (CountUpTo (Nat.pow 2 64 - 1)) (textsOf "timeout_secs" members) ∧
        Once IsPolicy (textsOf "retry" members) := by
  have hpolicy : IsPolicy = fun t => ∃ policy, Policy.parse (String.ofList t) = .ok policy := rfl
  rw [← exists_count64, hpolicy, ← Given.exists_iff Settings.default.timeout,
    ← Given.exists_iff Settings.default.retry]
  constructor
  · rintro ⟨settings, htimeout, hretry⟩
    exact ⟨⟨_, htimeout⟩, ⟨_, hretry⟩⟩
  · rintro ⟨⟨timeout, htimeout⟩, ⟨retry, hretry⟩⟩
    exact ⟨⟨timeout, retry⟩, htimeout, hretry⟩

/-- An empty object is read as the default policy. -/
theorem Policy.parse_empty {t : List Char} (h : ObjectText StringText Verbatim t [])
    (policy : Policy) :
    Policy.parse (String.ofList t) = .ok policy ↔ policy = Policy.default := by
  have hdocument : Document (ObjectText StringText Verbatim) (String.ofList t) [] :=
    ⟨[], t, [], Blanks.nil, Blanks.nil, h, by simp⟩
  rw [Policy.parse_object hdocument]
  have hnone : ∀ name, textsOf name [] = [] := fun name => rfl
  rw [Policy.GivenBy, hnone, hnone]
  constructor
  · rintro ⟨⟨-, ha⟩ | ⟨_, h, -⟩, ⟨-, hp⟩ | ⟨_, h', -⟩⟩
    · exact congr (congrArg Policy.mk ha) hp
    · cases h'
    · cases h
    · cases h
  · rintro rfl
    exact ⟨.inl ⟨rfl, rfl⟩, .inl ⟨rfl, rfl⟩⟩

/-! ## Configurations -/

theorem Settings.givenBy_congr {members members' : List (String × List Char)}
    (htimeout : (textsOf "timeout_secs" members).Perm (textsOf "timeout_secs" members'))
    (hretry : (textsOf "retry" members).Perm (textsOf "retry" members') ∨
      textsOf "retry" members = [] ∧
        ∃ t, ObjectText StringText Verbatim t [] ∧ textsOf "retry" members' = [t])
    (settings : Settings) :
    Settings.GivenBy members settings ↔ Settings.GivenBy members' settings := by
  rw [Settings.GivenBy, Settings.GivenBy, Given.perm htimeout]
  refine and_congr_right fun _ => ?_
  rcases hretry with hretry | ⟨hnone, t, ht, hone⟩
  · exact Given.perm hretry
  · rw [hnone, hone]
    constructor
    · rintro (⟨-, hdefault⟩ | ⟨_, h, -⟩)
      · exact .inr ⟨t, rfl, (Policy.parse_empty ht _).mpr hdefault⟩
      · cases h
    · rintro (⟨h, -⟩ | ⟨u, h, hparse⟩)
      · cases h
      · obtain rfl := (List.cons.inj h).1
        exact .inl ⟨rfl, (Policy.parse_empty ht _).mp hparse⟩

theorem Policy.givenBy_congr {members members' : List (String × List Char)}
    (hattempts : (textsOf "attempts" members).Perm (textsOf "attempts" members'))
    (hpause : (textsOf "delay_secs" members).Perm (textsOf "delay_secs" members'))
    (policy : Policy) :
    Policy.GivenBy members policy ↔ Policy.GivenBy members' policy := by
  rw [Policy.GivenBy, Policy.GivenBy, Given.perm hattempts, Given.perm hpause]

theorem once_toList {acceptable : List Char → Prop} {o : Option (List Char)} :
    Once acceptable o.toList ↔ ∀ t ∈ o, acceptable t := by
  cases o <;> simp [Once]

/-- By position, the first field has the first item and the second the second. -/
theorem textsOf_zip {first second : String} (hne : first ≠ second) (items : List (List Char)) :
    textsOf first ([first, second].zip items) = items[0]?.toList ∧
      textsOf second ([first, second].zip items) = items[1]?.toList := by
  match items with
  | [] => exact ⟨rfl, rfl⟩
  | [t] => simp [textsOf, hne]
  | t :: u :: _ => simp [textsOf, hne, hne.symm]

/-- How a configuration is read. An object is accepted exactly when each of its known members is
given once at most and acceptable, and it gives what they say, or the default; nothing else in it
matters, and an empty policy is as good as none. An array is accepted exactly when it has no more
items than there are fields and each is acceptable for its field, and it gives what the object
that names those fields gives. -/
theorem parse_by_fields :
    (∀ s members, Document (ObjectText StringText Verbatim) s members →
      ((∃ settings, Settings.parse s = .ok settings) ↔
        Once (CountUpTo (Nat.pow 2 64 - 1)) (textsOf "timeout_secs" members) ∧
          Once IsPolicy (textsOf "retry" members)) ∧
      (∀ settings, Settings.parse s = .ok settings ↔ Settings.GivenBy members settings) ∧
      ∀ s' members', Document (ObjectText StringText Verbatim) s' members' →
        (textsOf "timeout_secs" members).Perm (textsOf "timeout_secs" members') →
        ((textsOf "retry" members).Perm (textsOf "retry" members') ∨
          textsOf "retry" members = [] ∧
            ∃ t, ObjectText StringText Verbatim t [] ∧ textsOf "retry" members' = [t]) →
        ∀ settings, Settings.parse s = .ok settings ↔ Settings.parse s' = .ok settings) ∧
    (∀ s members, Document (ObjectText StringText Verbatim) s members →
      ((∃ policy, Policy.parse s = .ok policy) ↔
        Once (CountUpTo (Nat.pow 2 32 - 1)) (textsOf "attempts" members) ∧
          Once (CountUpTo (Nat.pow 2 64 - 1)) (textsOf "delay_secs" members)) ∧
      (∀ policy, Policy.parse s = .ok policy ↔ Policy.GivenBy members policy) ∧
      ∀ s' members', Document (ObjectText StringText Verbatim) s' members' →
        (textsOf "attempts" members).Perm (textsOf "attempts" members') →
        (textsOf "delay_secs" members).Perm (textsOf "delay_secs" members') →
        ∀ policy, Policy.parse s = .ok policy ↔ Policy.parse s' = .ok policy) ∧
    (∀ s items, Document (ArrayText Verbatim) s items →
      ((∃ settings, Settings.parse s = .ok settings) ↔
        items.length ≤ 2 ∧ (∀ t ∈ items[0]?, CountUpTo (Nat.pow 2 64 - 1) t) ∧
          ∀ t ∈ items[1]?, IsPolicy t) ∧
      (∀ settings, Settings.parse s = .ok settings ↔
        items.length ≤ 2 ∧
          Settings.GivenBy (["timeout_secs", "retry"].zip items) settings) ∧
      ∀ s', items.length ≤ 2 →
        Document (ObjectText StringText Verbatim) s' (["timeout_secs", "retry"].zip items) →
        ∀ settings, Settings.parse s = .ok settings ↔ Settings.parse s' = .ok settings) ∧
    ∀ s items, Document (ArrayText Verbatim) s items →
      ((∃ policy, Policy.parse s = .ok policy) ↔
        items.length ≤ 2 ∧ (∀ t ∈ items[0]?, CountUpTo (Nat.pow 2 32 - 1) t) ∧
          ∀ t ∈ items[1]?, CountUpTo (Nat.pow 2 64 - 1) t) ∧
      (∀ policy, Policy.parse s = .ok policy ↔
        items.length ≤ 2 ∧ Policy.GivenBy (["attempts", "delay_secs"].zip items) policy) ∧
      ∀ s', items.length ≤ 2 →
        Document (ObjectText StringText Verbatim) s' (["attempts", "delay_secs"].zip items) →
        ∀ policy, Policy.parse s = .ok policy ↔ Policy.parse s' = .ok policy := by
  refine ⟨fun s members h => ⟨?_, Settings.parse_object h, ?_⟩,
    fun s members h => ⟨?_, Policy.parse_object h, ?_⟩,
    fun s items h => ⟨?_, Settings.parse_array h, ?_⟩,
    fun s items h => ⟨?_, Policy.parse_array h, ?_⟩⟩
  · simp only [Settings.parse_object h]
    exact Settings.exists_givenBy
  · intro s' members' h' htimeout hretry settings
    rw [Settings.parse_object h, Settings.parse_object h']
    exact Settings.givenBy_congr htimeout hretry settings
  · simp only [Policy.parse_object h]
    exact Policy.exists_givenBy
  · intro s' members' h' hattempts hpause policy
    rw [Policy.parse_object h, Policy.parse_object h']
    exact Policy.givenBy_congr hattempts hpause policy
  · obtain ⟨hfirst, hsecond⟩ := textsOf_zip (show "timeout_secs" ≠ "retry" by decide) items
    simp only [Settings.parse_array h, exists_and_left, Settings.exists_givenBy]
    rw [hfirst, hsecond, once_toList, once_toList]
  · intro s' hlength h' settings
    rw [Settings.parse_array h, Settings.parse_object h']
    exact and_iff_right hlength
  · obtain ⟨hfirst, hsecond⟩ := textsOf_zip (show "attempts" ≠ "delay_secs" by decide) items
    simp only [Policy.parse_array h, exists_and_left, Policy.exists_givenBy]
    rw [hfirst, hsecond, once_toList, once_toList]
  · intro s' hlength h' policy
    rw [Policy.parse_array h, Policy.parse_object h']
    exact and_iff_right hlength

/-- An array that gives the time for a request alone. -/
theorem parse_by_fields_first_item :
    Document (ArrayText Verbatim) "[0]" [['0']] ∧
      Settings.parse "[0]" = .ok ⟨0, Policy.default⟩ := by
  have hzero : CountText (Nat.pow 2 64 - 1) ['0'] (0 : UInt64).toNat :=
    ⟨.inl rfl, rfl, Nat.zero_le _⟩
  have hitem : Padded Verbatim ['0'] ['0'] := .of ⟨hzero.loose, rfl⟩
  have hdocument : Document (ArrayText Verbatim) "[0]" [['0']] :=
    ⟨[], ['[', '0', ']'], [], Blanks.nil, Blanks.nil,
      ⟨['0', ']'], .first hitem (.close Blanks.nil), rfl⟩, by decide⟩
  obtain ⟨-, hparse, -⟩ := parse_by_fields.2.2.1 "[0]" [['0']] hdocument
  exact ⟨hdocument, (hparse _).mpr ⟨by decide, .inr ⟨['0'], rfl, hzero⟩, .inl ⟨rfl, rfl⟩⟩⟩

end RevisionControl.Pushlog
