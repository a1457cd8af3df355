import RevisionControl.Proofs.Json.Skipping
import RevisionControl.Json.Record

/-!
# Records are read by their fields

A field of a record puts a value of its own into the draft and leaves the other fields alone; a
`Slot` is that view of a field, and a `Layout` lists the slots of a record. What a draft holds
after the members of an object is then said slot by slot (`Layout.Fills`): a slot whose name does
not occur is as before, and one whose name occurs has not been given before, occurs once and holds
the value of its text. The array form fills the slots in their order.
-/

namespace RevisionControl.Json

variable {σ α : Type}

/-! ## Slots -/

/-- A field with the value it holds. -/
structure Slot (σ : Type) where
  /-- The name of the field. -/
  name : String
  /-- What the field holds. -/
  Val : Type
  /-- The value in a draft, if it has been given. -/
  get : σ → Option Val
  /-- Gives the value. -/
  put : σ → Val → σ
  /-- Reads a value. -/
  reader : Reader Val
  /-- The texts of the values. -/
  texts : List Char → Val → Prop

/-- The field of a slot. -/
def Slot.field (slot : Slot σ) : Field σ :=
  ⟨slot.name, fun d => (slot.get d).isSome, fun d => do return slot.put d (← slot.reader)⟩

/-- The texts given for a name, in the order of the members. -/
def textsOf (name : String) (members : List (String × List Char)) : List (List Char) :=
  (members.filter (·.1 == name)).map Prod.snd

/-- What becomes of a slot through texts for it. -/
def Slot.Moves (slot : Slot σ) (before : Option slot.Val) (texts : List (List Char))
    (after : Option slot.Val) : Prop :=
  (texts = [] ∧ after = before) ∨
    ∃ t v, before = none ∧ texts = [t] ∧ slot.texts t v ∧ after = some v

theorem Slot.moves_nil {slot : Slot σ} {before after : Option slot.Val} :
    slot.Moves before [] after ↔ after = before := by
  simp [Slot.Moves]

theorem Slot.moves_cons {slot : Slot σ} {before after : Option slot.Val} {t : List Char}
    {more : List (List Char)} :
    slot.Moves before (t :: more) after ↔
      ∃ v, before = none ∧ slot.texts t v ∧ slot.Moves (some v) more after := by
  simp only [Slot.Moves]
  constructor
  · rintro (⟨h, -⟩ | ⟨u, v, hbefore, htexts, hu, hafter⟩)
    · cases h
    · obtain ⟨rfl, rfl⟩ := List.cons.inj htexts
      exact ⟨v, hbefore, hu, .inl ⟨rfl, hafter⟩⟩
  · rintro ⟨v, hbefore, ht, ⟨rfl, hafter⟩ | ⟨-, -, h, -⟩⟩
    · exact .inr ⟨t, v, hbefore, rfl, ht, hafter⟩
    · cases h

/-- The fields of a record, as slots that do not interfere. -/
structure Layout (shape : Shape σ α) (slots : List (Slot σ)) : Prop where
  fields : shape.fields = slots.map Slot.field
  pairwise : slots.Pairwise (·.name ≠ ·.name)
  blank : ∀ slot ∈ slots, slot.get shape.blank = none
  reads : ∀ slot ∈ slots, Reader.Takes slot.reader (Padded slot.texts)
  loose : ∀ slot ∈ slots, ∀ t v, slot.texts t v → LooseText t
  get_put : ∀ slot ∈ slots, ∀ d v, slot.get (slot.put d v) = some v
  frame : ∀ slot ∈ slots, ∀ other ∈ slots, other.name ≠ slot.name →
    ∀ d v, other.get (slot.put d v) = other.get d
  ext : ∀ d e, (∀ slot ∈ slots, slot.get d = slot.get e) → d = e

/-- One member leads from one draft to another: it gives a slot that has not been given, or has a
name that no slot has. -/
def Puts (slots : List (Slot σ)) (before : σ) (member : String × List Char) (after : σ) : Prop :=
  (∃ slot ∈ slots, slot.name = member.1 ∧ slot.get before = none ∧
    ∃ v, slot.texts member.2 v ∧ slot.put before v = after) ∨
  ((∀ slot ∈ slots, slot.name ≠ member.1) ∧ before = after)

/-- The members lead from one draft to another. -/
def Fills (slots : List (Slot σ)) (before : σ) (members : List (String × List Char))
    (after : σ) : Prop :=
  ∀ slot ∈ slots, slot.Moves (slot.get before) (textsOf slot.name members) (slot.get after)

namespace Layout

variable {shape : Shape σ α} {slots : List (Slot σ)}

/-- A slot is told by its name. -/
theorem distinct (layout : Layout shape slots) :
    ∀ slot ∈ slots, ∀ other ∈ slots, other.name = slot.name → other = slot := by
  have hpairwise := layout.pairwise
  clear layout
  induction slots with
  | nil => simp
  | cons first more ih =>
    obtain ⟨hfirst, hmore⟩ := List.pairwise_cons.mp hpairwise
    intro slot hs other ho hname
    rcases List.mem_cons.mp hs with rfl | hs'
    · rcases List.mem_cons.mp ho with rfl | ho'
      · rfl
      · exact absurd hname.symm (hfirst other ho')
    · rcases List.mem_cons.mp ho with rfl | ho'
      · exact absurd hname (hfirst slot hs')
      · exact ih hmore slot hs' other ho' hname

/-- Without members the draft stays as it is. -/
theorem fills_nil (layout : Layout shape slots) {before after : σ} :
    Fills slots before [] after ↔ after = before := by
  constructor
  · intro h
    exact layout.ext _ _ fun slot hs => Slot.moves_nil.mp (h slot hs)
  · rintro rfl slot hs
    exact Slot.moves_nil.mpr rfl

/-- A member with a name that no slot has changes nothing. -/
theorem fills_unknown {before after : σ} {key : String} {t : List Char}
    {more : List (String × List Char)} (hkey : ∀ slot ∈ slots, slot.name ≠ key) :
    Fills slots before ((key, t) :: more) after ↔ Fills slots before more after := by
  have htexts : ∀ slot ∈ slots, textsOf slot.name ((key, t) :: more) = textsOf slot.name more := by
    intro slot hs
    have hne : (key == slot.name) = false := by simpa using fun h => hkey slot hs h.symm
    simp [textsOf, hne]
  constructor
  · intro h slot hs
    rw [← htexts slot hs]
    exact h slot hs
  · intro h slot hs
    rw [htexts slot hs]
    exact h slot hs

/-- A member with the name of a slot fills it, if it has not been given before. -/
theorem fills_known (layout : Layout shape slots) {slot : Slot σ} (hslot : slot ∈ slots)
    {before after : σ} {t : List Char} {more : List (String × List Char)} :
    Fills slots before ((slot.name, t) :: more) after ↔
      slot.get before = none ∧
        ∃ v, slot.texts t v ∧ Fills slots (slot.put before v) more after := by
  have hself : textsOf slot.name ((slot.name, t) :: more) = t :: textsOf slot.name more := by
    simp [textsOf]
  have hother : ∀ other : Slot σ, other.name ≠ slot.name →
      textsOf other.name ((slot.name, t) :: more) = textsOf other.name more := by
    intro other hne
    have hne' : (slot.name == other.name) = false := by simpa using hne.symm
    simp [textsOf, hne']
  constructor
  · intro h
    have hmoves := h slot hslot
    rw [hself] at hmoves
    obtain ⟨v, hnone, ht, hmore⟩ := Slot.moves_cons.mp hmoves
    refine ⟨hnone, v, ht, fun other ho => ?_⟩
    by_cases hname : other.name = slot.name
    · obtain rfl := layout.distinct slot hslot other ho hname
      rw [layout.get_put other ho]
      exact hmore
    · rw [layout.frame slot hslot other ho hname, ← hother other hname]
      exact h other ho
  · rintro ⟨hnone, v, ht, hmore⟩ other ho
    by_cases hname : other.name = slot.name
    · obtain rfl := layout.distinct slot hslot other ho hname
      rw [hself]
      refine Slot.moves_cons.mpr ⟨v, hnone, ht, ?_⟩
      rw [← layout.get_put other ho before v]
      exact hmore other ho
    · rw [hother other hname, ← layout.frame slot hslot other ho hname before v]
      exact hmore other ho

/-- Members fill the slots one after the other. -/
theorem fills_cons (layout : Layout shape slots) {before after : σ} {m : String × List Char}
    {more : List (String × List Char)} :
    Fills slots before (m :: more) after ↔
      ∃ next, Puts slots before m next ∧ Fills slots next more after := by
  obtain ⟨key, t⟩ := m
  by_cases hknown : ∃ slot ∈ slots, slot.name = key
  · obtain ⟨slot, hslot, rfl⟩ := hknown
    rw [layout.fills_known hslot]
    constructor
    · rintro ⟨hnone, v, ht, hmore⟩
      exact ⟨_, .inl ⟨slot, hslot, rfl, hnone, v, ht, rfl⟩, hmore⟩
    · rintro ⟨next, ⟨other, hother, hname, hnone, v, ht, rfl⟩ | ⟨hunknown, -⟩, hmore⟩
      · obtain rfl := layout.distinct slot hslot other hother hname
        exact ⟨hnone, v, ht, hmore⟩
      · exact absurd rfl (hunknown slot hslot)
  · have hunknown : ∀ slot ∈ slots, slot.name ≠ key :=
      fun slot hslot hname => hknown ⟨slot, hslot, hname⟩
    rw [fills_unknown hunknown]
    constructor
    · exact fun hmore => ⟨before, .inr ⟨hunknown, rfl⟩, hmore⟩
    · rintro ⟨next, ⟨slot, hslot, hname, -⟩ | ⟨-, rfl⟩, hmore⟩
      · exact absurd hname (hunknown slot hslot)
      · exact hmore

/-- What is left to fill: slots of the layout, all different, none of which has been given. -/
structure Unfilled (slots left : List (Slot σ)) (draft : σ) : Prop where
  mem : ∀ slot ∈ left, slot ∈ slots
  pairwise : left.Pairwise (·.name ≠ ·.name)
  none : ∀ slot ∈ left, slot.get draft = none

theorem unfilled_blank (layout : Layout shape slots) : Unfilled slots slots shape.blank :=
  ⟨fun _ hslot => hslot, layout.pairwise, layout.blank⟩

/-- The other slots are still unfilled when one has been given. -/
theorem Unfilled.put (layout : Layout shape slots) {slot : Slot σ} {left : List (Slot σ)}
    {draft : σ} (h : Unfilled slots (slot :: left) draft) (v : slot.Val) :
    Unfilled slots left (slot.put draft v) := by
  obtain ⟨hne, hpairwise⟩ := List.pairwise_cons.mp h.pairwise
  refine ⟨fun s hs => h.mem s (List.mem_cons_of_mem _ hs), hpairwise, fun other hother => ?_⟩
  have hmem := h.mem other (List.mem_cons_of_mem _ hother)
  rw [layout.frame slot (h.mem slot List.mem_cons_self) other hmem (hne other hother).symm]
  exact h.none other (List.mem_cons_of_mem _ hother)

end Layout

/-- The text of a record: an object with members of any names, or an array of the values of the
leading fields. -/
def RecordText (shape : Shape σ α) (slots : List (Slot σ)) (text : List Char) (a : α) : Prop :=
  (∃ members draft, ObjectText StringText Verbatim text members ∧
    Fills slots shape.blank members draft ∧ shape.ofMembers draft = .ok a) ∨
  (∃ items draft, ArrayText Verbatim text items ∧ items.length ≤ slots.length ∧
    Fills slots shape.blank ((slots.map Slot.name).zip items) draft ∧
    shape.ofItems draft = .ok a)

namespace Reader

/-! ## The object form -/

/-- The field that a key names is the one of the slot of that name. -/
theorem find_field (slots : List (Slot σ)) (key : String) :
    (∃ slot ∈ slots, slot.name = key ∧
      (slots.map Slot.field).find? (·.name == key) = some slot.field) ∨
    ((∀ slot ∈ slots, slot.name ≠ key) ∧
      (slots.map Slot.field).find? (·.name == key) = none) := by
  induction slots with
  | nil => exact .inr ⟨by simp, rfl⟩
  | cons slot more ih =>
    by_cases hname : slot.name = key
    · refine .inl ⟨slot, List.mem_cons_self, hname, ?_⟩
      simp [Slot.field, hname]
    · have hne : (slot.field.name == key) = false := by simpa [Slot.field] using hname
      simp only [List.map_cons, List.find?_cons, hne]
      rcases ih with ⟨found, hmem, hfound, hfind⟩ | ⟨hnone, hfind⟩
      · exact .inl ⟨found, List.mem_cons_of_mem _ hmem, hfound, hfind⟩
      · refine .inr ⟨fun s hs => ?_, hfind⟩
        rcases List.mem_cons.mp hs with rfl | hs
        · exact hname
        · exact hnone s hs

theorem read_field {slot : Slot σ} {d d' : σ} {c c' : Cursor} :
    slot.field.read d c = .ok (d', c') ↔
      ∃ v, slot.reader c = .ok (v, c') ∧ slot.put d v = d' := map_ok

section Fields

variable {shape : Shape σ α} {slots : List (Slot σ)}

/-- Reads the value of a member into a draft and goes on with it: what a field asks for if the key
names one, and a value that is skipped otherwise. -/
def memberInto (fields : List (Field σ)) (draft : σ) (key : String)
    (k : σ → Reader (Except Cause σ)) : Reader (Except Cause σ) :=
  match fields.find? (·.name == key) with
  | some field =>
    if field.given draft then return .error (.duplicateField field.name)
    else do
      colon
      let draft ← field.read draft
      k draft
  | none => do
    colon
    skipValue
    k draft

theorem fieldsByName_succ (fields : List (Field σ)) (fuel : Nat) (first : Bool) (draft : σ) :
    fieldsByName fields (fuel + 1) first draft = (do
      if ← nextKey first then
        let key ← string
        memberInto fields draft key (fieldsByName fields fuel false)
      else return .ok draft) := rfl

/-- A member that has been read leads to the draft that the reader has gone on with. -/
theorem memberInto_ok (layout : Layout shape slots) {before after : σ} {key : String}
    {k : σ → Reader (Except Cause σ)} {c c' : Cursor}
    (h : memberInto (slots.map Slot.field) before key k c = .ok (.ok after, c')) :
    ∃ blanks t u next c₁, Blanks blanks ∧ Padded Verbatim t u ∧ Puts slots before (key, u) next ∧
      c.rest = blanks ++ ':' :: (t ++ c₁.rest) ∧ k next c₁ = .ok (.ok after, c') := by
  rw [memberInto] at h
  rcases find_field slots key with ⟨slot, hslot, hname, hfind⟩ | ⟨hunknown, hfind⟩
  · simp only [hfind] at h
    rcases if_ok.mp h with ⟨-, h⟩ | ⟨hgiven, h⟩
    · cases (pure_ok.mp h).1
    obtain ⟨⟨⟩, c₁, hcolon, h⟩ := bind_ok.mp h
    obtain ⟨next, c₂, hread, h⟩ := bind_ok.mp h
    obtain ⟨v, hv, hnext⟩ := read_field.mp hread
    obtain ⟨blanks, hb, hc⟩ := colon_ok hcolon
    obtain ⟨t, ⟨blanks', u, hb', hu, rfl⟩, hc₁⟩ := (layout.reads slot hslot).sound hv
    have hnone : slot.get before = none := by simpa [Slot.field] using hgiven
    have ht : Padded Verbatim (blanks' ++ u) u :=
      ⟨blanks', u, hb', ⟨layout.loose slot hslot u v hu, rfl⟩, rfl⟩
    exact ⟨blanks, _, u, next, c₂, hb, ht, .inl ⟨slot, hslot, hname, hnone, v, hu, hnext⟩,
      by rw [hc, hc₁], h⟩
  · simp only [hfind] at h
    obtain ⟨⟨⟩, c₁, hcolon, h⟩ := bind_ok.mp h
    obtain ⟨⟨⟩, c₂, hskip, h⟩ := bind_ok.mp h
    obtain ⟨blanks, hb, hc⟩ := colon_ok hcolon
    obtain ⟨t, ⟨blanks', u, hb', hu, rfl⟩, hc₁⟩ := takes_skipValue.sound hskip
    exact ⟨blanks, _, u, before, c₂, hb, ⟨blanks', u, hb', ⟨hu, rfl⟩, rfl⟩, .inr ⟨hunknown, rfl⟩,
      by rw [hc, hc₁], h⟩

/-- A member that can be put into the draft is, and the reader goes on behind it. -/
theorem memberInto_append (layout : Layout shape slots) {before next : σ} {key : String}
    {k : σ → Reader (Except Cause σ)} {blanks t u rest : List Char}
    (hput : Puts slots before (key, u) next) (hb : Blanks blanks) (ht : Padded Verbatim t u)
    (hr : Ends rest) (p : Position) :
    ∃ p', memberInto (slots.map Slot.field) before key k ⟨blanks ++ ':' :: (t ++ rest), p⟩ =
      k next ⟨rest, p'⟩ := by
  obtain ⟨blanks', w, hb', ⟨hloose, rfl⟩, rfl⟩ := ht
  obtain ⟨q, hq⟩ := colon_append hb ((blanks' ++ u) ++ rest) p
  rw [memberInto]
  rcases find_field slots key with ⟨slot, hslot, hname, hfind⟩ | ⟨hunknown, hfind⟩
  · obtain ⟨other, hother, hname', hnone, v, hu, hnext⟩ | ⟨hunknown, -⟩ := hput
    · obtain rfl := layout.distinct slot hslot other hother (hname'.trans hname.symm)
      have hgiven : other.field.given before = false := by simp [Slot.field, hnone]
      obtain ⟨p', hp⟩ := (layout.reads other hother).complete ⟨blanks', u, hb', hu, rfl⟩ hr q
      simp only [hfind, hgiven, Bool.false_eq_true, if_false]
      rw [bind_of_ok hq, bind_of_ok (read_field.mpr ⟨v, hp, hnext⟩)]
      exact ⟨p', rfl⟩
    · exact absurd hname (hunknown slot hslot)
  · obtain ⟨slot, hslot, hname, -⟩ | ⟨-, rfl⟩ := hput
    · exact absurd hname (hunknown slot hslot)
    · obtain ⟨p', hp⟩ :=
        takes_skipValue.complete (a := ()) ⟨blanks', u, hb', hloose, rfl⟩ hr q
      simp only [hfind]
      rw [bind_of_ok hq, bind_of_ok hp]
      exact ⟨p', rfl⟩

/-- What has been read into a draft are members that lead to it, and a brace. -/
theorem fieldsByName_ok (layout : Layout shape slots) {fuel : Nat} {first : Bool}
    {before after : σ} {c c₁ c' : Cursor}
    (h : fieldsByName (slots.map Slot.field) fuel first before c = .ok (.ok after, c₁))
    (hclose : closeObject c₁ = .ok ((), c')) :
    ∃ t members, Items (MemberText StringText Verbatim) '\x7d' first t members ∧
      Fills slots before members after ∧ c.rest = t ++ c'.rest := by
  induction fuel generalizing first before c with
  | zero => simp [fieldsByName] at h
  | succ fuel ih =>
    rw [fieldsByName_succ] at h
    obtain ⟨more, c₂, hnext, h⟩ := bind_ok.mp h
    obtain ⟨hstep, hquote⟩ := nextKey_ok hnext
    cases more with
    | false =>
      obtain ⟨hafter, rfl⟩ := pure_ok.mp h
      obtain rfl := Except.ok.inj hafter
      obtain ⟨t, ht, hc⟩ := hstep.closed (closeObject_ok hclose)
      exact ⟨t, [], ht, layout.fills_nil.mpr rfl, hc⟩
    | true =>
      obtain ⟨key, c₃, hkey, h⟩ := bind_ok.mp h
      obtain ⟨k, hk, hc₂⟩ := string_takes (hquote rfl) hkey
      obtain ⟨blanks, t, u, next, c₄, hb, ht, hput, hc₃, h⟩ := memberInto_ok layout h
      obtain ⟨body, members, hbody, hfills, hc₄⟩ := ih h
      rw [hc₂, hc₃, hc₄] at hstep
      obtain ⟨text, htext, hc⟩ := hstep.members hk hb ht hbody
      exact ⟨text, _, htext, layout.fills_cons.mpr ⟨next, hput, hfills⟩, hc⟩

/-- Members that lead from one draft to another are read into the first. -/
theorem fieldsByName_append (layout : Layout shape slots) {fuel : Nat} {first : Bool}
    {before after : σ} {text : List Char} {members : List (String × List Char)}
    (hm : Items (MemberText StringText Verbatim) '\x7d' first text members)
    (hfills : Fills slots before members after) (hfuel : members.length < fuel)
    (rest : List Char) (p : Position) :
    ∃ p', fieldsByName (slots.map Slot.field) fuel first before ⟨text ++ rest, p⟩ =
      .ok (.ok after, ⟨'\x7d' :: rest, p'⟩) := by
  induction fuel generalizing first before text members p with
  | zero => omega
  | succ fuel ih =>
    rw [fieldsByName_succ]
    rcases hm.cases_next rest with ⟨rfl, hnext⟩ | ⟨t, body, ⟨key, u⟩, more, rfl, ht, hbody, hnext⟩
    · obtain ⟨q, hq⟩ := nextKey_append hnext (by simp) p
      obtain rfl := layout.fills_nil.mp hfills
      rw [bind_of_ok hq]
      exact ⟨q, rfl⟩
    · obtain ⟨k, blanks, t, hk, hb, ht, rfl⟩ := ht
      obtain ⟨next, hput, hfills⟩ := layout.fills_cons.mp hfills
      simp only [List.append_assoc, List.cons_append] at hnext
      have hends : Ends (body ++ rest) := hbody.ends (by simp [Ends]; decide) rest
      obtain ⟨q, hq⟩ := nextKey_append hnext (fun _ => hk.head _) p
      obtain ⟨q₁, hq₁⟩ := string_append hk (blanks ++ ':' :: (t ++ (body ++ rest))) q
      obtain ⟨q₂, hq₂⟩ := memberInto_append layout hput hb ht hends q₁
      obtain ⟨p', hp⟩ := ih hbody hfills (by simpa using hfuel) q₂
      rw [bind_of_ok hq]
      simp only [if_true]
      rw [bind_of_ok hq₁, hq₂, hp]
      exact ⟨p', rfl⟩

/-! ## The array form -/

/-- What has been read into a draft by position are items that fill the leading slots, and a
bracket. -/
theorem fieldsByPosition_ok (layout : Layout shape slots) {left : List (Slot σ)} {first : Bool}
    {before after : σ} (hleft : Layout.Unfilled slots left before) {c c₁ c' : Cursor}
    (h : fieldsByPosition (left.map Slot.field) first before c = .ok (after, c₁))
    (hclose : closeArray c₁ = .ok ((), c')) :
    ∃ t items, Items Verbatim ']' first t items ∧ items.length ≤ left.length ∧
      Fills slots before ((left.map Slot.name).zip items) after ∧ c.rest = t ++ c'.rest := by
  induction left generalizing first before c with
  | nil =>
    obtain ⟨rfl, rfl⟩ := pure_ok.mp h
    obtain ⟨blanks, hb, hc⟩ := closeArray_ok hclose
    exact ⟨_, [], .close hb, Nat.le_refl _, layout.fills_nil.mpr rfl, by simp [hc]⟩
  | cons slot left ih =>
    have hslot : slot ∈ slots := hleft.mem slot List.mem_cons_self
    obtain ⟨more, c₂, hnext, h⟩ := bind_ok.mp h
    have hstep := nextItem_ok hnext
    cases more with
    | false =>
      obtain ⟨rfl, rfl⟩ := pure_ok.mp h
      obtain ⟨t, ht, hc⟩ := hstep.closed (closeArray_ok hclose)
      exact ⟨t, [], ht, Nat.zero_le _, layout.fills_nil.mpr rfl, hc⟩
    | true =>
      obtain ⟨next, c₃, hread, h⟩ := bind_ok.mp h
      obtain ⟨v, hv, rfl⟩ := read_field.mp hread
      obtain ⟨t, ⟨blanks, u, hb, hu, rfl⟩, hc₂⟩ := (layout.reads slot hslot).sound hv
      obtain ⟨body, items, hbody, hlength, hfills, hc₃⟩ := ih (hleft.put layout v) h
      have ht : Padded Verbatim (blanks ++ u) u :=
        ⟨blanks, u, hb, ⟨layout.loose slot hslot u v hu, rfl⟩, rfl⟩
      have hnone : slot.get before = none := hleft.none slot List.mem_cons_self
      rw [hc₂, hc₃] at hstep
      obtain ⟨text, htext, hc⟩ := hstep.items ht hbody
      exact ⟨text, u :: items, htext, Nat.succ_le_succ hlength,
        (layout.fills_known hslot).mpr ⟨hnone, v, hu, hfills⟩, hc⟩

/-- Items that fill the leading slots are read by position. -/
theorem fieldsByPosition_append (layout : Layout shape slots) {left : List (Slot σ)}
    (hsub : ∀ slot ∈ left, slot ∈ slots) {first : Bool} {before after : σ}
    {text : List Char} {items : List (List Char)} (hi : Items Verbatim ']' first text items)
    (hlength : items.length ≤ left.length)
    (hfills : Fills slots before ((left.map Slot.name).zip items) after)
    (rest : List Char) (p : Position) :
    ∃ q p', fieldsByPosition (left.map Slot.field) first before ⟨text ++ rest, p⟩ =
      .ok (after, q) ∧ closeArray q = .ok ((), ⟨rest, p'⟩) := by
  induction left generalizing first before text items p with
  | nil =>
    obtain rfl : items = [] := List.eq_nil_of_length_eq_zero (Nat.le_zero.mp hlength)
    obtain rfl := layout.fills_nil.mp hfills
    cases hi with
    | close hb =>
      obtain ⟨p', hp⟩ := closeArray_append hb rest p
      exact ⟨_, p', rfl, by simpa using hp⟩
  | cons slot left ih =>
    have hslot : slot ∈ slots := hsub slot List.mem_cons_self
    rw [List.map_cons, fieldsByPosition]
    rcases hi.cases_next rest with ⟨rfl, hnext⟩ | ⟨t, body, u, items, rfl, ht, hbody, hnext⟩
    · obtain ⟨q, hq⟩ := nextItem_append hnext (by simp) p
      obtain ⟨p', hp⟩ := closeArray_append Blanks.nil rest q
      obtain rfl := layout.fills_nil.mp hfills
      rw [bind_of_ok hq]
      exact ⟨_, p', rfl, hp⟩
    · obtain ⟨hloose, rfl⟩ := ht
      obtain ⟨hnone, v, hu, hfills⟩ := (layout.fills_known hslot).mp hfills
      have hends : Ends (body ++ rest) := hbody.ends (by simp [Ends]; decide) rest
      obtain ⟨q, hq⟩ := nextItem_append hnext (fun _ => hloose.opens.append _) p
      obtain ⟨q₁, hq₁⟩ := (layout.reads slot hslot).complete (Padded.of hu) hends q
      obtain ⟨q₂, p', hread, hclose⟩ :=
        ih (fun s hs => hsub s (List.mem_cons_of_mem _ hs)) hbody (by simpa using hlength) hfills q₁
      rw [bind_of_ok hq]
      simp only [if_true]
      rw [bind_of_ok (read_field.mpr ⟨v, hq₁, rfl⟩)]
      exact ⟨q₂, p', hread, hclose⟩

/-! ## Records -/

/-- A record is settled as what has been read if that could be finished and is closed. -/
theorem settle_ok {close : Reader Unit} {bracket : Char} {result : Except Cause α} {a : α}
    {c c' : Cursor} (h : settle close bracket result c = .ok (a, c')) :
    result = .ok a ∧ close c = .ok ((), c') := by
  cases result with
  | ok value =>
    obtain ⟨⟨⟩, c₁, hclose, h⟩ := bind_ok.mp h
    obtain ⟨rfl, rfl⟩ := pure_ok.mp h
    exact ⟨rfl, hclose⟩
  | error cause =>
    have hnever : Never (settle close bracket (.error cause) : Reader α) := by
      refine .bind fun ahead => ?_
      simp only
      split
      · exact .bind fun _ => .failHere _
      · exact .failHere _
    exact absurd h (hnever c a c')

theorem settle_append {close : Reader Unit} {bracket : Char} {a : α} {c c' : Cursor}
    (h : close c = .ok ((), c')) : settle close bracket (.ok a) c = .ok (a, c') := by
  rw [settle, bind_of_ok h]
  rfl

/-- Takes the array form of a record, the opening bracket of which is ahead. -/
def arrayForm (shape : Shape σ α) : Reader α := do
  skip
  let draft ← fieldsByPosition shape.fields true shape.blank
  settle closeArray ']' (shape.ofItems draft)

/-- Takes the object form of a record, the opening brace of which is ahead. -/
def objectForm (shape : Shape σ α) : Reader α := do
  skip
  let fuel ← remaining
  let draft ← fieldsByName shape.fields (fuel + 1) true shape.blank
  settle closeObject '\x7d' (draft.bind shape.ofMembers)

theorem record_eq (shape : Shape σ α) :
    record shape = (do
      match ← peekToken? with
      | some '[' => arrayForm shape
      | some '\x7b' => objectForm shape
      | _ => unexpected shape.title) := rfl

theorem arrayForm_ok (layout : Layout shape slots) {a : α} {rest : List Char} {p : Position}
    {c' : Cursor} (h : arrayForm shape ⟨'[' :: rest, p⟩ = .ok (a, c')) :
    ∃ t, RecordText shape slots t a ∧ '[' :: rest = t ++ c'.rest := by
  rw [arrayForm, skip_bind, layout.fields] at h
  obtain ⟨draft, c₁, hread, h⟩ := bind_ok.mp h
  obtain ⟨hdraft, hclose⟩ := settle_ok h
  obtain ⟨body, items, hbody, hlength, hfills, hrest⟩ :=
    fieldsByPosition_ok layout layout.unfilled_blank hread hclose
  exact ⟨_, .inr ⟨items, draft, ⟨body, hbody, rfl⟩, hlength, hfills, hdraft⟩,
    congrArg ('[' :: ·) hrest⟩

theorem objectForm_ok (layout : Layout shape slots) {a : α} {rest : List Char} {p : Position}
    {c' : Cursor} (h : objectForm shape ⟨'\x7b' :: rest, p⟩ = .ok (a, c')) :
    ∃ t, RecordText shape slots t a ∧ '\x7b' :: rest = t ++ c'.rest := by
  rw [objectForm, skip_bind, remaining_bind, layout.fields] at h
  obtain ⟨draft, c₁, hread, h⟩ := bind_ok.mp h
  obtain ⟨hdraft, hclose⟩ := settle_ok h
  cases draft with
  | error cause => cases hdraft
  | ok draft =>
    obtain ⟨body, members, hbody, hfills, hrest⟩ := fieldsByName_ok layout hread hclose
    exact ⟨_, .inl ⟨members, draft, ⟨body, hbody, rfl⟩, hfills, hdraft⟩,
      congrArg ('\x7b' :: ·) hrest⟩

/-- A record that has been read is one by its grammar, in either form. -/
theorem record_ok (layout : Layout shape slots) {a : α} {c c' : Cursor}
    (h : record shape c = .ok (a, c')) :
    ∃ t, Padded (RecordText shape slots) t a ∧ c.rest = t ++ c'.rest := by
  rw [record_eq] at h
  obtain ⟨blanks, x, rest, p, hb, hc, h⟩ := peekToken?_bind_cons_ok h (never_unexpected _)
  refine Padded.behind hb hc ?_
  by_cases harray : x = '['
  · subst harray
    exact arrayForm_ok layout h
  by_cases hobject : x = '\x7b'
  · subst hobject
    exact objectForm_ok layout h
  · have hnever : (unexpected shape.title : Reader α) ⟨x :: rest, p⟩ = .ok (a, c') := by
      simpa [harray, hobject] using h
    exact absurd hnever (never_unexpected _ _ _ _)

/-- A text of a record is read, in either form. -/
theorem record_append (layout : Layout shape slots) {text : List Char} {a : α}
    (ht : RecordText shape slots text a) {blanks : List Char} (hb : Blanks blanks)
    (rest : List Char) (p : Position) :
    ∃ p', record shape ⟨blanks ++ (text ++ rest), p⟩ = .ok (a, ⟨rest, p'⟩) := by
  rcases ht with ⟨members, draft, ⟨body, hbody, rfl⟩, hfills, hdraft⟩ |
    ⟨items, draft, ⟨body, hbody, rfl⟩, hlength, hfills, hdraft⟩
  · have hfuel := hbody.length_lt_fuel (fun t a ha => ha.ne_nil) rest
    obtain ⟨q, hq⟩ := fieldsByName_append layout hbody hfills hfuel rest
      ((blanks.foldl Position.after p).after '\x7b')
    obtain ⟨p', hp⟩ := closeObject_append Blanks.nil rest q
    rw [List.cons_append, record_eq, peekToken?_bind hb (by simp; decide)]
    simp only [List.head?_cons]
    rw [objectForm, skip_bind, remaining_bind, layout.fields, bind_of_ok hq, Except.bind, hdraft]
    exact ⟨p', settle_append hp⟩
  · obtain ⟨q, p', hread, hclose⟩ := fieldsByPosition_append layout (fun slot hs => hs) hbody
      hlength hfills rest ((blanks.foldl Position.after p).after '[')
    rw [List.cons_append, record_eq, peekToken?_bind hb (by simp; decide)]
    simp only [List.head?_cons]
    rw [arrayForm, skip_bind, layout.fields, bind_of_ok hread, hdraft]
    exact ⟨p', settle_append hclose⟩

/-- A record is read by its grammar. -/
theorem takes_record (layout : Layout shape slots) :
    Takes (record shape) (Padded (RecordText shape slots)) where
  sound h := record_ok layout h
  complete := by
    rintro t rest a ⟨blanks, u, hb, hu, rfl⟩ hr p
    rw [List.append_assoc]
    exact record_append layout hu hb rest p

end Fields

/-! ## Counts -/

/-- Only an integer from zero to the greatest is accepted. -/
theorem accept_ok {greatest : Nat} {expected : String} {v : Number} {n : Nat} {c c' : Cursor} :
    natural.accept greatest expected v c = .ok (n, c') ↔
      ∃ value : Int, v = .integer value ∧ 0 ≤ value ∧ value ≤ greatest ∧ value.toNat = n ∧
        c = c' := by
  cases v with
  | real x => simp [natural.accept]
  | integer value =>
    simp only [natural.accept, Number.integer.injEq, exists_eq_left']
    split
    · next hrange => simp [hrange]
    · next hrange =>
      simp only [failHere_ok, false_iff]
      rintro ⟨hlow, hhigh, -⟩
      exact hrange ⟨hlow, hhigh⟩

/-- Behind a minus sign there is no natural number: even a zero is no integer there. -/
theorem never_negative (greatest : Nat) (expected : String) :
    Never (do natural.accept greatest expected (← number true)) := by
  intro c n c' h
  obtain ⟨v, c₁, hv, h⟩ := bind_ok.mp h
  obtain ⟨t, ⟨l, hl, -⟩, -⟩ := (takes_number true).sound hv
  obtain ⟨value, rfl, hpos, -⟩ := accept_ok.mp h
  rcases (Literal.number?_eq_integer.mp hl).2.2 with ⟨hfalse, -⟩ | ⟨-, rfl, hnonzero, -⟩
  · cases hfalse
  · omega

/-- A number without a sign is accepted exactly if it is a count. -/
theorem takes_accepted {greatest : Nat} (hgreatest : greatest < Nat.pow 2 64) (expected : String) :
    Takes (do natural.accept greatest expected (← number false)) (CountText greatest) where
  sound {c c' n} h := by
    obtain ⟨v, c₁, hv, h⟩ := bind_ok.mp h
    obtain ⟨t, ⟨l, hl, rfl⟩, hrest⟩ := (takes_number false).sound hv
    obtain ⟨value, rfl, -, hle, rfl, rfl⟩ := accept_ok.mp h
    obtain ⟨hd, he, ⟨-, rfl, -⟩ | ⟨htrue, -⟩⟩ := Literal.number?_eq_integer.mp hl
    · have htext : l.text = l.whole := by
        simp [Literal.text, Literal.tail, hd, he, decimalsText, exponentText]
      rw [htext] at hrest
      exact ⟨l.whole, ⟨l.whole_ok, by simp, by omega⟩, hrest⟩
    · cases htrue
  complete := by
    rintro t rest n ⟨hwhole, rfl, hle⟩ hr p
    let l : Literal := ⟨t, none, none, hwhole, by simp⟩
    have hl : l.number? false = some (.integer (decimal t)) :=
      Literal.number?_eq_integer.mpr ⟨rfl, rfl, .inl ⟨rfl, rfl, by simp only [l]; omega⟩⟩
    have htext : t = l.text := by simp [Literal.text, Literal.tail, l, decimalsText, exponentText]
    obtain ⟨p', hp⟩ := (takes_number false).complete ⟨l, hl, htext⟩ hr p
    rw [bind_of_ok hp]
    exact ⟨p', accept_ok.mpr ⟨_, rfl, by omega, by omega, by simp, rfl⟩⟩

/-- A natural number is read by its grammar. -/
theorem takes_natural {greatest : Nat} (hgreatest : greatest < Nat.pow 2 64) (expected : String) :
    Takes (natural greatest expected) (Padded (CountText greatest)) where
  sound {c c' n} h := by
    obtain ⟨blanks, x, rest, p, hb, hc, h⟩ := peekToken?_bind_cons_ok h (never_unexpected _)
    by_cases hminus : x = '-'
    · subst hminus
      exact absurd h (Never.bind (fun _ => never_negative greatest expected) _ _ _)
    have hbranch : (if isDigit x then (do natural.accept greatest expected (← number false))
        else unexpected expected : Reader Nat) ⟨x :: rest, p⟩ = .ok (n, c') := by
      simpa [hminus] using h
    rcases if_ok.mp hbranch with ⟨-, h⟩ | ⟨-, h⟩
    · exact Padded.behind hb hc ((takes_accepted hgreatest expected).sound h)
    · exact absurd h (never_unexpected _ _ _ _)
  complete := by
    rintro t rest n ⟨blanks, u, hb, hu, rfl⟩ hr p
    obtain ⟨p', hp⟩ := (takes_accepted hgreatest expected).complete hu hr
      (blanks.foldl Position.after p)
    obtain ⟨d, more, rfl, hd⟩ := hu.1.digits.cons
    have hminus : ¬ d = '-' := by rintro rfl; exact absurd hd (by decide)
    rw [List.append_assoc, natural, peekToken?_bind hb ((Opens.of_digit hd more).not_blank rest)]
    simp only [List.cons_append, List.head?_cons, hd, if_true]
    exact ⟨p', hp⟩

end Reader

/-! ## One text, one reading -/

theorem LooseText.of_object {text : List Char} {members : List (String × List Char)}
    (h : ObjectText StringText Verbatim text members) : LooseText text :=
  h.loose (fun _ _ => StringText.loose) fun _ _ => And.left

theorem LooseText.of_array {text : List Char} {items : List (List Char)}
    (h : ArrayText Verbatim text items) : LooseText text :=
  h.loose fun _ _ => And.left

/-- A record is a value, in either form. -/
theorem RecordText.loose {shape : Shape σ α} {slots : List (Slot σ)} {text : List Char} {a : α}
    (h : RecordText shape slots text a) : LooseText text := by
  rcases h with ⟨members, draft, ht, -⟩ | ⟨items, draft, ht, -⟩
  · exact .of_object ht
  · exact .of_array ht

namespace Reader

/-- Gives the text of the value that is skipped. -/
def verbatim : Reader (List Char) := do
  let before ← get
  skipValue
  let after ← get
  return (before.rest.take (before.rest.length - after.rest.length)).dropWhile isSpace

/-- The text of a skipped value is what was ahead before and is not any more, without blanks. -/
theorem verbatim_ok {c c' : Cursor} {blanks u : List Char}
    (h : skipValue c = .ok ((), c')) (hb : Blanks blanks) (hu : Opens u)
    (hc : c.rest = (blanks ++ u) ++ c'.rest) : verbatim c = .ok (u, c') := by
  have hget : ∀ c : Cursor, (get : Reader Cursor) c = .ok (c, c) := fun c => rfl
  have htake : c.rest.take (c.rest.length - c'.rest.length) = blanks ++ u := by
    have hlength : c.rest.length - c'.rest.length = (blanks ++ u).length := by
      rw [hc, List.length_append]
      omega
    rw [hlength, hc, List.take_left]
  have hdrop : (blanks ++ u).dropWhile isSpace = u := by
    obtain ⟨x, more, rfl, hx, -⟩ := hu
    rw [List.dropWhile_append_of_pos hb]
    simp [hx]
  rw [verbatim, bind_of_ok (hget c), bind_of_ok h, bind_of_ok (hget c'), htake, hdrop]
  rfl

theorem takes_verbatim : Takes verbatim (Padded Verbatim) where
  sound {c c' u} h := by
    obtain ⟨before, c₁, hbefore, h'⟩ := bind_ok.mp h
    cases hbefore
    obtain ⟨⟨⟩, c₂, hskip, h'⟩ := bind_ok.mp h'
    obtain ⟨after, c₃, hafter, h'⟩ := bind_ok.mp h'
    cases hafter
    obtain ⟨-, rfl⟩ := pure_ok.mp h'
    obtain ⟨t, ⟨blanks, w, hb, hw, rfl⟩, hc⟩ := takes_skipValue.sound hskip
    have hu := verbatim_ok hskip hb hw.opens hc
    rw [h] at hu
    simp only [Except.ok.injEq, Prod.mk.injEq, and_true] at hu
    exact ⟨blanks ++ w, ⟨blanks, w, hb, ⟨hw, hu⟩, rfl⟩, hc⟩
  complete := by
    rintro t rest u ⟨blanks, w, hb, ⟨hw, rfl⟩, rfl⟩ hr p
    obtain ⟨p', hp⟩ := takes_skipValue.complete (a := ()) ⟨blanks, u, hb, hw, rfl⟩ hr p
    exact ⟨p', verbatim_ok hp hb hw.opens rfl⟩

end Reader

/-- Two objects in front of a text are one: so much is taken, and no more. -/
theorem ObjectText.unique {S : List Char → α → Prop} {item : Reader α}
    (h : Reader.Takes item (Padded S)) {t u rest more : List Char} {ms ns : List (String × α)}
    (ht : ObjectText StringText S t ms) (hu : ObjectText StringText S u ns)
    (he : t ++ rest = u ++ more) : t = u ∧ ms = ns := by
  obtain ⟨p, hp⟩ := Reader.object_append h ht rest .start
  obtain ⟨q, hq⟩ := Reader.object_append h hu more .start
  rw [he, hq] at hp
  simp only [Except.ok.injEq, Prod.mk.injEq, Cursor.mk.injEq] at hp
  obtain ⟨rfl, rfl, -⟩ := hp
  exact ⟨List.append_cancel_right he, rfl⟩

theorem ArrayText.unique {S : List Char → α → Prop} {item : Reader α}
    (h : Reader.Takes item (Padded S)) (hS : ∀ t a, S t a → Opens t)
    {t u rest more : List Char} {as bs : List α} (ht : ArrayText S t as) (hu : ArrayText S u bs)
    (he : t ++ rest = u ++ more) : t = u ∧ as = bs := by
  obtain ⟨p, hp⟩ := Reader.array_append h hS ht rest .start
  obtain ⟨q, hq⟩ := Reader.array_append h hS hu more .start
  rw [he, hq] at hp
  simp only [Except.ok.injEq, Prod.mk.injEq, Cursor.mk.injEq] at hp
  obtain ⟨rfl, rfl, -⟩ := hp
  exact ⟨List.append_cancel_right he, rfl⟩

/-- The blanks before a value are told from it. -/
theorem Blanks.unique {before before' t t' rest rest' : List Char} (hb : Blanks before)
    (hb' : Blanks before') (ht : Opens t) (ht' : Opens t')
    (he : before ++ (t ++ rest) = before' ++ (t' ++ rest')) : t ++ rest = t' ++ rest' := by
  have h := Reader.takeWhile_append hb (ht.not_blank rest) (q := .start)
  have h' := Reader.takeWhile_append hb' (ht'.not_blank rest') (q := .start)
  rw [he, h'] at h
  simp only [Except.ok.injEq, Prod.mk.injEq, Cursor.mk.injEq] at h
  exact h.2.1.symm

theorem LooseText.of_mem_object {s : String} {members : List (String × List Char)}
    (h : Document (ObjectText StringText Verbatim) s members) : ∀ m ∈ members, LooseText m.2 := by
  obtain ⟨before, t, after, -, -, ⟨body, hbody, -⟩, -⟩ := h
  refine hbody.all fun t m hm => ?_
  obtain ⟨u, hu, rfl⟩ := hm.value
  exact hu

theorem LooseText.of_mem_array {s : String} {items : List (List Char)}
    (h : Document (ArrayText Verbatim) s items) : ∀ item ∈ items, LooseText item := by
  obtain ⟨before, t, after, -, -, ⟨body, hbody, -⟩, -⟩ := h
  refine hbody.all ?_
  rintro t item ⟨ht, rfl⟩
  exact ht

/-- The text of a value is read as a whole exactly when it is one of the reader's texts. -/
theorem Reader.Takes.run_loose {S : List Char → α → Prop} {r : Reader α}
    (h : Reader.Takes r (Padded S)) (hS : ∀ t a, S t a → LooseText t) {t : List Char}
    (ht : LooseText t) (a : α) : r.run (String.ofList t) = .ok a ↔ S t a := by
  rw [h.run_ok]
  constructor
  · rintro ⟨before, u, after, hb, ha, hu, hs⟩
    have hs' : [] ++ (t ++ []) = before ++ (u ++ after) := by simpa using hs
    have he := Blanks.unique Blanks.nil hb ht.opens (hS u a hu).opens hs'
    obtain ⟨rfl, -⟩ := takes_verbatim.unique (Padded.of ⟨ht, rfl⟩)
      (Padded.of ⟨hS u a hu, rfl⟩) Ends.nil ha.ends he
    exact hu
  · intro hu
    exact ⟨[], t, [], Blanks.nil, Blanks.nil, hu, by simp⟩

/-! ## Values with defaults -/

/-- The value that texts for a field give: that of the only one, or the default if there is
none. -/
def Given (accepts : List Char → α → Prop) (byDefault : α) (texts : List (List Char))
    (v : α) : Prop :=
  (texts = [] ∧ v = byDefault) ∨ ∃ t, texts = [t] ∧ accepts t v

theorem Given.congr {accepts accepts' : List Char → α → Prop} {byDefault v : α}
    {texts : List (List Char)} (h : ∀ t ∈ texts, accepts t v ↔ accepts' t v) :
    Given accepts byDefault texts v ↔ Given accepts' byDefault texts v := by
  constructor
  · rintro (hnone | ⟨t, rfl, ht⟩)
    · exact .inl hnone
    · exact .inr ⟨t, rfl, (h t (by simp)).mp ht⟩
  · rintro (hnone | ⟨t, rfl, ht⟩)
    · exact .inl hnone
    · exact .inr ⟨t, rfl, (h t (by simp)).mpr ht⟩

/-- The order of the texts does not matter. -/
theorem Given.perm {accepts : List Char → α → Prop} {byDefault v : α}
    {texts texts' : List (List Char)} (hp : texts.Perm texts') :
    Given accepts byDefault texts v ↔ Given accepts byDefault texts' v := by
  have hperm : ∀ {xs ys : List (List Char)}, xs.Perm ys →
      Given accepts byDefault xs v → Given accepts byDefault ys v := by
    rintro xs ys hxy (⟨rfl, hv⟩ | ⟨t, rfl, ht⟩)
    · exact .inl ⟨hxy.nil_eq.symm, hv⟩
    · exact .inr ⟨t, List.singleton_perm.mp hxy |>.symm, ht⟩
  exact ⟨hperm hp, hperm hp.symm⟩

/-- There is one text at most, and it is acceptable. -/
def Once (acceptable : List Char → Prop) (texts : List (List Char)) : Prop :=
  texts.length ≤ 1 ∧ ∀ t ∈ texts, acceptable t

theorem Given.exists_iff {accepts : List Char → α → Prop} (byDefault : α)
    {texts : List (List Char)} :
    (∃ v, Given accepts byDefault texts v) ↔ Once (fun t => ∃ v, accepts t v) texts := by
  constructor
  · rintro ⟨v, ⟨rfl, -⟩ | ⟨t, rfl, ht⟩⟩
    · exact ⟨by simp, by simp⟩
    · exact ⟨by simp, by simpa using ⟨v, ht⟩⟩
  · rintro ⟨hlength, hall⟩
    match texts, hlength, hall with
    | [], _, _ => exact ⟨byDefault, .inl ⟨rfl, rfl⟩⟩
    | [t], _, hall =>
      obtain ⟨v, hv⟩ := hall t (by simp)
      exact ⟨v, .inr ⟨t, rfl, hv⟩⟩

theorem Slot.given_iff {slot : Slot σ} {byDefault v : slot.Val} {texts : List (List Char)} :
    Given slot.texts byDefault texts v ↔
      ∃ o, slot.Moves none texts o ∧ o.getD byDefault = v := by
  constructor
  · rintro (⟨rfl, rfl⟩ | ⟨t, rfl, ht⟩)
    · exact ⟨none, .inl ⟨rfl, rfl⟩, rfl⟩
    · exact ⟨some v, .inr ⟨t, v, rfl, rfl, ht, rfl⟩, rfl⟩
  · rintro ⟨o, ⟨rfl, rfl⟩ | ⟨t, u, -, rfl, ht, rfl⟩, rfl⟩
    · exact .inl ⟨rfl, rfl⟩
    · exact .inr ⟨t, rfl, ht⟩

/-! ## Records in a text whose parts are known -/

section Known

variable {shape : Shape σ α} {slots : List (Slot σ)}

/-- An object is read as a record exactly when its members fill the slots. -/
theorem run_record_object (layout : Layout shape slots) {s : String}
    {members : List (String × List Char)}
    (h : Document (ObjectText StringText Verbatim) s members) (a : α) :
    (Reader.record shape).run s = .ok a ↔
      ∃ draft, Fills slots shape.blank members draft ∧ shape.ofMembers draft = .ok a := by
  rw [(Reader.takes_record layout).run_ok]
  obtain ⟨before, t, after, hb, ha, ht, hs⟩ := h
  have hopens : Opens t := (LooseText.of_object ht).opens
  constructor
  · rintro ⟨before', t', after', hb', -, htext, hs'⟩
    have he := Blanks.unique hb hb' hopens htext.loose.opens (hs.symm.trans hs')
    rcases htext with ⟨members', draft, ht', hfills, hdraft⟩ | ⟨items, draft, ht', -⟩
    · obtain ⟨-, rfl⟩ := ht.unique Reader.takes_verbatim ht' he
      exact ⟨draft, hfills, hdraft⟩
    · obtain ⟨body, -, rfl⟩ := ht
      obtain ⟨body', -, rfl⟩ := ht'
      cases he
  · rintro ⟨draft, hfills, hdraft⟩
    exact ⟨before, t, after, hb, ha, .inl ⟨members, draft, ht, hfills, hdraft⟩, hs⟩

/-- An array is read as a record exactly when its items fill the leading slots. -/
theorem run_record_array (layout : Layout shape slots) {s : String} {items : List (List Char)}
    (h : Document (ArrayText Verbatim) s items) (a : α) :
    (Reader.record shape).run s = .ok a ↔
      items.length ≤ slots.length ∧
        ∃ draft, Fills slots shape.blank ((slots.map Slot.name).zip items) draft ∧
          shape.ofItems draft = .ok a := by
  rw [(Reader.takes_record layout).run_ok]
  obtain ⟨before, t, after, hb, ha, ht, hs⟩ := h
  have hopens : Opens t := (LooseText.of_array ht).opens
  have hitems : ∀ t u, Verbatim t u → Opens t := fun t u h => h.1.opens
  constructor
  · rintro ⟨before', t', after', hb', -, htext, hs'⟩
    have he := Blanks.unique hb hb' hopens htext.loose.opens (hs.symm.trans hs')
    rcases htext with ⟨members, draft, ht', -⟩ | ⟨items', draft, ht', hlength, hfills, hdraft⟩
    · obtain ⟨body, -, rfl⟩ := ht
      obtain ⟨body', -, rfl⟩ := ht'
      cases he
    · obtain ⟨-, rfl⟩ := ht.unique Reader.takes_verbatim hitems ht' he
      exact ⟨hlength, draft, hfills, hdraft⟩
  · rintro ⟨hlength, draft, hfills, hdraft⟩
    exact ⟨before, t, after, hb, ha, .inr ⟨items, draft, ht, hlength, hfills, hdraft⟩, hs⟩

end Known

end RevisionControl.Json
