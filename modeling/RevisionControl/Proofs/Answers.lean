import RevisionControl.Proofs.Json.Mappings
import RevisionControl.Proofs.Json.Records
import RevisionControl.Proofs.Lookups

/-!
# What the body of an answer decides

A body is well shaped if it gives the member `pushes` once, as an object, or is an array of
nothing else. What a lookup comes to is then decided by the mapping of that object alone: any
other number of keys than one makes it ambiguous, and one key makes it the push that the entry
says, if the entry says one.
-/

namespace RevisionControl.Pushlog

open RevisionControl.Json

/-! ## Well-shaped bodies -/

/-- The text of the entries: an object whose values leave room for the brackets around it. -/
def EntriesText (text : List Char) (written : List (String × Value)) : Prop :=
  ObjectText StringText (Spells AnyOrder 125) text written

/-- A body that gives its entries in an object, once. -/
def ObjectForm (body : String) (written : List (String × Value)) : Prop :=
  ∃ members u, Document (ObjectText StringText Verbatim) body members ∧
    textsOf "pushes" members = [u] ∧ EntriesText u written

/-- A body that gives its entries in an array, alone. -/
def ArrayForm (body : String) (written : List (String × Value)) : Prop :=
  ∃ u, Document (ArrayText Verbatim) body [u] ∧ EntriesText u written

/-- A body that gives its entries. -/
def WellShaped (body : String) (written : List (String × Value)) : Prop :=
  ObjectForm body written ∨ ArrayForm body written

theorem EntriesText.loose {u : List Char} {written : List (String × Value)}
    (h : EntriesText u written) : LooseText u := by
  have hspells : Spells AnyOrder 126 u (.object (Members.ofList written)) :=
    .inr (.inr ⟨written, h, trivial, rfl⟩)
  exact hspells.loose

theorem takes_readPushes : Reader.Takes readPushes
    (Padded fun t members => ∃ written, EntriesText t written ∧ Members.ofList written = members)
    where
  sound {c c' members} h := by
    obtain ⟨blanks, c₁, hb, hc, h⟩ := Reader.peekToken?_bind_ok h
    obtain ⟨text, p⟩ := c₁
    by_cases hobject : text.head? = some '\x7b'
    · simp only [hobject] at h
      obtain ⟨written, hw, rfl⟩ := Reader.map_ok.mp h
      obtain ⟨u, hu, hrest⟩ := Reader.object_ok (Reader.takes_value 125) hobject hw
      exact Padded.behind hb hc ⟨u, ⟨written, hu, rfl⟩, hrest⟩
    · have hnever : (Reader.unexpected "a map" : Reader Members) ⟨text, p⟩ =
          .ok (members, c') := by
        simpa [hobject] using h
      exact absurd hnever (Reader.never_unexpected _ _ _ _)
  complete := by
    rintro t rest members ⟨blanks, u, hb, ⟨written, hu, rfl⟩, rfl⟩ hr p
    obtain ⟨p', hp⟩ := Reader.object_append (Reader.takes_value 125) hu rest
      (blanks.foldl Position.after p)
    have hopens : Opens u := EntriesText.loose hu |>.opens
    rw [List.append_assoc, readPushes, Reader.peekToken?_bind hb (hopens.not_blank rest)]
    obtain ⟨body, -, rfl⟩ := hu
    exact ⟨p', Reader.map_ok.mpr ⟨written, hp, rfl⟩⟩

/-- The slot of the entries. -/
def pushesSlot : Slot (Option Members) :=
  ⟨"pushes", Members, id, fun _ members => some members, readPushes,
    fun t members => ∃ written, EntriesText t written ∧ Members.ofList written = members⟩

theorem answerLayout : Layout answerShape [pushesSlot] where
  fields := rfl
  pairwise := by decide
  blank := by simp [pushesSlot, answerShape]
  reads := by
    simp only [List.mem_singleton, forall_eq]
    exact takes_readPushes
  loose := by
    simp only [List.mem_singleton, forall_eq]
    rintro t members ⟨written, h, -⟩
    exact h.loose
  get_put := by simp [pushesSlot]
  frame := by simp [pushesSlot]
  ext := by
    intro d e h
    simpa [pushesSlot] using h

theorem fills_pushes {members : List (String × List Char)} {pushes : Members} :
    Fills [pushesSlot] answerShape.blank members (some pushes) ↔
      ∃ u written, textsOf "pushes" members = [u] ∧ EntriesText u written ∧
        Members.ofList written = pushes := by
  have hmoves : Fills [pushesSlot] answerShape.blank members (some pushes) ↔
      pushesSlot.Moves none (textsOf "pushes" members) (some pushes) := by
    simp [Fills, pushesSlot, answerShape]
  rw [hmoves]
  constructor
  · rintro (⟨-, h⟩ | ⟨u, v, -, htexts, ⟨written, hu, rfl⟩, hv⟩)
    · cases h
    · exact ⟨u, written, htexts, hu, (Option.some.inj hv).symm⟩
  · rintro ⟨u, written, htexts, hu, rfl⟩
    exact .inr ⟨u, _, rfl, htexts, ⟨written, hu, rfl⟩, rfl⟩

/-- A draft is finished only if the entries have been given. -/
theorem finished_iff {cause : Cause} {draft : Option Members} {pushes : Members} :
    draft.elim (.error cause) .ok = Except.ok pushes ↔ draft = some pushes := by
  cases draft with
  | none => simp
  | some found => simp

/-- A body that gives entries reads as them; members can be compared, faults need not be. -/
theorem parsePushes_eq_ok {body : String} {pushes : Members}
    (h : (parsePushes body).toOption = some pushes) : parsePushes body = .ok pushes := by
  cases hparse : parsePushes body with
  | error fault => simp [hparse, Except.toOption] at h
  | ok found => simpa [hparse, Except.toOption] using h

/-- The entries of a body are the mapping of what a well-shaped body gives. -/
theorem parsePushes_ok {body : String} {pushes : Members} :
    parsePushes body = .ok pushes ↔
      ∃ written, WellShaped body written ∧ Members.ofList written = pushes := by
  rw [parsePushes, (Reader.takes_record answerLayout).run_ok]
  constructor
  · rintro ⟨before, t, after, hb, ha, ⟨members, draft, ht, hfills, hdraft⟩ |
      ⟨items, draft, ht, hlength, hfills, hdraft⟩, hs⟩
    · obtain rfl := finished_iff.mp hdraft
      obtain ⟨u, written, htexts, hu, rfl⟩ := fills_pushes.mp hfills
      exact ⟨written, .inl ⟨members, u, ⟨before, t, after, hb, ha, ht, hs⟩, htexts, hu⟩, rfl⟩
    · obtain rfl := finished_iff.mp hdraft
      obtain ⟨u, written, htexts, hu, rfl⟩ := fills_pushes.mp hfills
      have hitems : items = [u] := by
        match items, hlength, htexts with
        | [], _, htexts => cases htexts
        | [w], _, htexts => simpa [textsOf, pushesSlot] using htexts
      rw [hitems] at ht
      exact ⟨written, .inr ⟨u, ⟨before, t, after, hb, ha, ht, hs⟩, hu⟩, rfl⟩
  · rintro ⟨written, ⟨members, u, ⟨before, t, after, hb, ha, ht, hs⟩, htexts, hu⟩ |
      ⟨u, ⟨before, t, after, hb, ha, ht, hs⟩, hu⟩, rfl⟩
    · exact ⟨before, t, after, hb, ha, .inl ⟨members, _, ht,
        fills_pushes.mpr ⟨u, written, htexts, hu, rfl⟩, rfl⟩, hs⟩
    · exact ⟨before, t, after, hb, ha, .inr ⟨[u], _, ht, Nat.le_refl _,
        fills_pushes.mpr ⟨u, written, rfl, hu, rfl⟩, rfl⟩, hs⟩

/-! ## Entries -/

/-- The entry that a value is: an object whose last `date` and last `user` are an integer of 64
bits and a string, or an array of the two. -/
def EntryOf (v : Value) (date : Int) (user : String) : Prop :=
  (-Int.pow 2 63 ≤ date ∧ date < Int.pow 2 63) ∧
    ((∃ written, v = .object (Members.ofList written) ∧
        lastOf "date" written = some (.number (.integer date)) ∧
        lastOf "user" written = some (.text user)) ∨
      v = .array [.number (.integer date), .text user])

theorem decodeDate_ok {v : Value} {date : Int} :
    decodeDate v = .ok date ↔ v = .number (.integer date) ∧ fits64 date = true := by
  cases v with
  | number n =>
    cases n with
    | integer m =>
      rw [decodeDate]
      by_cases hfits : fits64 m
      · simp only [hfits, if_true, Except.ok.injEq, Value.number.injEq, Number.integer.injEq]
        constructor
        · rintro rfl
          exact ⟨rfl, hfits⟩
        · exact And.left
      · simp only [hfits, Bool.false_eq_true, if_false, Value.number.injEq, Number.integer.injEq]
        constructor
        · intro h
          cases h
        · rintro ⟨rfl, h⟩
          exact absurd h hfits
    | real x => simp [decodeDate]
  | null => simp [decodeDate]
  | boolean b => simp [decodeDate]
  | text s => simp [decodeDate]
  | array items => simp [decodeDate]
  | object members => simp [decodeDate]

theorem decodeUser_ok {v : Value} {user : String} :
    decodeUser v = .ok user ↔ v = .text user := by
  cases v <;> simp [decodeUser]

theorem decodeMember_ok {α : Type} {decode : Value → Except Cause α} {members : Members}
    {name : String} {a : α} :
    decodeMember decode members name = .ok (some a) ↔
      ∃ v, members.get? name = some v ∧ decode v = .ok a := by
  rw [decodeMember]
  cases members.get? name with
  | none => simp
  | some v => cases hv : decode v <;> simp [Except.map, hv]

theorem ofValue_object {members : Members} {entry : Entry} :
    Entry.ofValue (.object members) = .ok entry ↔
      decodeMember decodeDate members "date" = .ok (some entry.date) ∧
        decodeMember decodeUser members "user" = .ok (some entry.user) := by
  obtain ⟨date, user⟩ := entry
  rw [Entry.ofValue]
  cases decodeMember decodeDate members "date" with
  | error cause => simp [bind, Except.bind]
  | ok date? =>
    cases decodeMember decodeUser members "user" with
    | error cause => simp [bind, Except.bind]
    | ok user? =>
      cases date? <;> cases user? <;>
        simp [bind, Except.bind, required, pure, Except.pure]

theorem ofValue_array {items : List Value} {entry : Entry} :
    Entry.ofValue (.array items) = .ok entry ↔
      ∃ date user, items = [date, user] ∧ decodeDate date = .ok entry.date ∧
        decodeUser user = .ok entry.user := by
  obtain ⟨date, user⟩ := entry
  match items with
  | [] => simp [Entry.ofValue]
  | [d] => cases hd : decodeDate d <;> simp [Entry.ofValue, hd, bind, Except.bind]
  | [d, u] =>
    cases hd : decodeDate d <;> cases hu : decodeUser u <;>
      simp [Entry.ofValue, hd, hu, bind, Except.bind, pure, Except.pure, and_assoc]
  | d :: u :: x :: more =>
    cases hd : decodeDate d <;> cases hu : decodeUser u <;>
      simp [Entry.ofValue, hd, hu, bind, Except.bind]

theorem fits64_iff {date : Int} :
    fits64 date = true ↔ -Int.pow 2 63 ≤ date ∧ date < Int.pow 2 63 := by
  simp [fits64]

/-- A value that a text spells decodes as the entry it is. -/
theorem ofValue_ok {v : Value} {depth : Nat} {t : List Char} (hv : Spells AnyOrder depth t v)
    {entry : Entry} : Entry.ofValue v = .ok entry ↔ EntryOf v entry.date entry.user := by
  have hno : (∀ members, v ≠ .object members) → (∀ items, v ≠ .array items) →
      ¬ EntryOf v entry.date entry.user := by
    rintro hobject harray ⟨-, ⟨written, h, -⟩ | h⟩
    · exact hobject _ h
    · exact harray _ h
  cases v with
  | object members =>
    -- `EntryOf` speaks of members as they are written, so those decoded have to come from a text.
    obtain ⟨inner, rfl⟩ := hv.exists_ofList
    rw [ofValue_object, decodeMember_ok, decodeMember_ok, Members.get?_ofList,
      Members.get?_ofList, EntryOf, ← fits64_iff]
    constructor
    · rintro ⟨⟨date, hdate, hd⟩, ⟨user, huser, hu⟩⟩
      obtain ⟨rfl, hfits⟩ := decodeDate_ok.mp hd
      obtain rfl := decodeUser_ok.mp hu
      exact ⟨hfits, .inl ⟨inner, rfl, hdate, huser⟩⟩
    · rintro ⟨hfits, ⟨written, hwritten, hdate, huser⟩ | h⟩
      · have hsame := Members.ofList_eq_ofList.mp (Value.object.inj hwritten)
        exact ⟨⟨_, (hsame _).trans hdate, decodeDate_ok.mpr ⟨rfl, hfits⟩⟩,
          ⟨_, (hsame _).trans huser, decodeUser_ok.mpr rfl⟩⟩
      · cases h
  | array items =>
    rw [ofValue_array, EntryOf, ← fits64_iff]
    constructor
    · rintro ⟨date, user, rfl, hd, hu⟩
      obtain ⟨rfl, hfits⟩ := decodeDate_ok.mp hd
      obtain rfl := decodeUser_ok.mp hu
      exact ⟨hfits, .inr rfl⟩
    · rintro ⟨hfits, ⟨written, h, -⟩ | h⟩
      · cases h
      · exact ⟨_, _, Value.array.inj h, decodeDate_ok.mpr ⟨rfl, hfits⟩, decodeUser_ok.mpr rfl⟩
  | null => simpa [Entry.ofValue] using hno (by simp) (by simp)
  | boolean b => simpa [Entry.ofValue] using hno (by simp) (by simp)
  | number n => simpa [Entry.ofValue] using hno (by simp) (by simp)
  | text s => simpa [Entry.ofValue] using hno (by simp) (by simp)

/-! ## The result of a lookup -/

/-- All the members have one key. -/
def OnlyKey (key : String) (written : List (String × Value)) : Prop :=
  written ≠ [] ∧ ∀ m ∈ written, m.1 = key

/-- The result that a body decides. -/
def Decides (repository revision body : String) (result : Except Error Push) : Prop :=
  ((¬ ∃ written, WellShaped body written) →
    ∃ fault, result = .error (.invalidAnswer (lookupUrl repository revision) fault)) ∧
  ∀ written, WellShaped body written →
    ((¬ ∃ key, OnlyKey key written) →
      result = .error (.ambiguous repository revision
        (Value.object (Members.ofList written)).write)) ∧
    ∀ key v, OnlyKey key written → lastOf key written = some v →
      (∀ push, result = .ok push ↔ push.id = key ∧ EntryOf v push.date push.user) ∧
      ((¬ ∃ date user, EntryOf v date user) →
        ∃ fault, result = .error (.invalidAnswer (lookupUrl repository revision) fault))

theorem OnlyKey.of_ofList {key : String} {v : Value} {written : List (String × Value)}
    (h : Members.ofList written = [(key, v)]) : OnlyKey key written := by
  refine ⟨?_, (Members.ofList_eq_singleton.mp h).2⟩
  rintro rfl
  cases h

theorem OnlyKey.ofList {key : String} {written : List (String × Value)}
    (h : OnlyKey key written) : ∃ v, Members.ofList written = [(key, v)] := by
  obtain ⟨hne, hall⟩ := h
  cases hlast : lastOf key written with
  | none =>
    obtain ⟨m, hm⟩ := List.exists_mem_of_ne_nil written hne
    exact absurd (hall m hm) (lastOf_eq_none.mp hlast m hm)
  | some v => exact ⟨v, Members.ofList_eq_singleton.mpr ⟨hlast, hall⟩⟩

/-- Entries that do not have a single key make the lookup ambiguous, whatever they are. -/
theorem decodePushes_many {written : List (String × Value)} (h : ¬ ∃ key, OnlyKey key written)
    (repository revision : String) :
    decodePushes repository revision (Members.ofList written) =
      .error (.ambiguous repository revision (Value.object (Members.ofList written)).write) := by
  rw [decodePushes]
  rintro key v hone
  exact h ⟨key, .of_ofList hone⟩

/-- The values of the entries are spelled by texts. -/
theorem WellShaped.spelled {body : String} {written : List (String × Value)}
    (h : WellShaped body written) : ∀ m ∈ written, ∃ t, Spells AnyOrder 125 t m.2 := by
  obtain ⟨u, inner, hinner, -⟩ : ∃ u, EntriesText u written := by
    rcases h with ⟨members, u, -, -, hu⟩ | ⟨u, -, hu⟩
    · exact ⟨u, hu⟩
    · exact ⟨u, hu⟩
  exact hinner.all fun t m => MemberText.value

theorem decodeAnswer_wellShaped {body : String} {written : List (String × Value)}
    (h : WellShaped body written) (repository revision : String) :
    decodeAnswer repository revision body =
      decodePushes repository revision (Members.ofList written) := by
  have hparse : parsePushes body = .ok (Members.ofList written) :=
    parsePushes_ok.mpr ⟨written, h, rfl⟩
  rw [decodeAnswer, hparse]

theorem decodeAnswer_decides (repository revision body : String) :
    Decides repository revision body (decodeAnswer repository revision body) := by
  refine ⟨fun hno => ?_, fun written hw => ?_⟩
  · rw [decodeAnswer]
    cases hparse : parsePushes body with
    | error fault => exact ⟨fault, rfl⟩
    | ok pushes =>
      obtain ⟨written, hw, -⟩ := parsePushes_ok.mp hparse
      exact absurd ⟨written, hw⟩ hno
  · rw [decodeAnswer_wellShaped hw]
    refine ⟨fun hmany => decodePushes_many hmany repository revision,
      fun key v honly hlast => ?_⟩
    · have hone : Members.ofList written = [(key, v)] :=
        Members.ofList_eq_singleton.mpr ⟨hlast, honly.2⟩
      have hmem : (key, v) ∈ written :=
        Members.mem_of_mem_ofList (by rw [hone]; exact List.mem_cons_self)
      obtain ⟨t, ht⟩ := hw.spelled _ hmem
      rw [hone, decodePushes]
      cases hentry : Entry.ofValue v with
      | ok entry =>
        have hof := (ofValue_ok ht).mp hentry
        refine ⟨fun push => ?_, fun hnone => absurd ⟨_, _, hof⟩ hnone⟩
        constructor
        · intro h
          obtain rfl := Except.ok.inj h
          exact ⟨rfl, hof⟩
        · rintro ⟨rfl, hpush⟩
          have hsame : Entry.ofValue v = .ok ⟨push.date, push.user⟩ := (ofValue_ok ht).mpr hpush
          rw [hentry] at hsame
          obtain rfl := Except.ok.inj hsame
          rfl
      | error cause =>
        refine ⟨fun push => ?_, fun _ => ⟨⟨cause, none⟩, rfl⟩⟩
        constructor
        · intro h
          cases h
        · rintro ⟨-, hpush⟩
          have hsame : Entry.ofValue v = .ok ⟨push.date, push.user⟩ := (ofValue_ok ht).mpr hpush
          rw [hentry] at hsame
          cases hsame

/-- The requests of a lookup come to a body. -/
def Gets {σ : Type} (settings : Settings) (fetch : Fetch σ) (s : σ)
    (repository revision body : String) : Prop :=
  ((settings.retry.run (fetch (lookupUrl repository revision))) s).1.outcome = .ok body

theorem Gets.lookUp {σ : Type} {settings : Settings} {fetch : Fetch σ} {s : σ}
    {repository revision body : String} (h : Gets settings fetch s repository revision body) :
    ((lookUp settings fetch repository revision).run s).1 =
      decodeAnswer repository revision body := by
  rw [lookUp_run, h]
  rfl

/-- Once a body has been received it alone decides the result of a lookup, by its shape and the
mapping of its entries: where the mappings of two well-shaped bodies agree, so do the results,
whatever else the bodies hold. -/
theorem lookUp_decided_by_body (repository revision : String) :
    (∀ {σ : Type} (settings : Settings) (fetch : Fetch σ) (s : σ) (body : String),
      Gets settings fetch s repository revision body →
        Decides repository revision body
          ((lookUp settings fetch repository revision).run s).1) ∧
    ∀ {σ τ : Type} (settings settings' : Settings) (fetch : Fetch σ) (fetch' : Fetch τ) (s : σ)
      (s' : τ) (body body' : String) (written written' : List (String × Value)),
      Gets settings fetch s repository revision body →
      Gets settings' fetch' s' repository revision body' →
      WellShaped body written → WellShaped body' written' →
      (∀ key, lastOf key written = lastOf key written') →
      ((lookUp settings fetch repository revision).run s).1 =
        ((lookUp settings' fetch' repository revision).run s').1 := by
  constructor
  · intro σ settings fetch s body hgets
    rw [hgets.lookUp]
    exact decodeAnswer_decides repository revision body
  · intro σ τ settings settings' fetch fetch' s s' body body' written written' hgets hgets'
      hshaped hshaped' hsame
    rw [hgets.lookUp, hgets'.lookUp, decodeAnswer_wellShaped hshaped,
      decodeAnswer_wellShaped hshaped', Members.ofList_eq_ofList.mpr hsame]

/-- An answer with one entry, in its array form. -/
theorem lookUp_decided_by_one_entry :
    let body := "\x7b\"pushes\":\x7b\"35\":[0,\"u\"]\x7d,\"more\":[]\x7d"
    let exchange : Exchange := ⟨[.ok body], .invalidAnswer "" ⟨.endInValue, none⟩, []⟩
    ∃ written, Gets Settings.default Exchange.get exchange "r" "v" body ∧
      WellShaped body written ∧ OnlyKey "35" written ∧
      ((lookUp Settings.default Exchange.get "r" "v").run exchange).1 = .ok ⟨"35", 0, "u"⟩ := by
  intro body exchange
  have hparse : parsePushes body = .ok [("35", .array [.number (.integer 0), .text "u"])] :=
    parsePushes_eq_ok (by decide +kernel)
  obtain ⟨written, hshaped, hentries⟩ := parsePushes_ok.mp hparse
  have hgets : Gets Settings.default Exchange.get exchange "r" "v" body := rfl
  have honly : OnlyKey "35" written := .of_ofList hentries
  obtain ⟨hlast, -⟩ := Members.ofList_eq_singleton.mp hentries
  obtain ⟨-, hdecides⟩ :=
    (lookUp_decided_by_body "r" "v").1 Settings.default Exchange.get exchange body hgets
  obtain ⟨hpush, -⟩ := (hdecides written hshaped).2 "35" _ honly hlast
  exact ⟨written, hgets, hshaped, honly,
    (hpush ⟨"35", 0, "u"⟩).mpr ⟨rfl, ⟨by decide, by decide⟩, .inr rfl⟩⟩

end RevisionControl.Pushlog
