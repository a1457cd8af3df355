import RevisionControl.Proofs.Json.Branches

/-!
# Values are read by their grammar

The loops over items and members are described for an arbitrary reader of one item, so the same
lemmas serve values, entries and whatever else is read item by item. `takes_value` then follows by
induction on the number of brackets that may still be opened.
-/

namespace RevisionControl.Json

variable {α : Type}

/-! ## The texts of items -/

theorem Padded.of {S : List Char → α → Prop} {t : List Char} {a : α} (h : S t a) :
    Padded S t a := ⟨[], t, by simp [Blanks], h, rfl⟩

theorem Padded.imp {S T : List Char → α → Prop} (h : ∀ t a, S t a → T t a) {t : List Char} {a : α}
    (ht : Padded S t a) : Padded T t a := by
  obtain ⟨blanks, u, hb, hu, rfl⟩ := ht
  exact ⟨blanks, u, hb, h u a hu, rfl⟩

/-- Blanks in front of a text with blanks before it are more of them. -/
theorem Padded.append {S : List Char → α → Prop} {blanks t : List Char} {a : α}
    (hb : Blanks blanks) (h : Padded S t a) : Padded S (blanks ++ t) a := by
  obtain ⟨more, u, hm, hu, rfl⟩ := h
  exact ⟨blanks ++ more, u, hb.append hm, hu, (List.append_assoc ..).symm⟩

/-- What is taken behind blanks is a text with blanks before it. -/
theorem Padded.behind {S : List Char → α → Prop} {a : α} {blanks text rest rest' : List Char}
    (hb : Blanks blanks) (htext : text = blanks ++ rest) (h : ∃ t, S t a ∧ rest = t ++ rest') :
    ∃ t, Padded S t a ∧ text = t ++ rest' := by
  obtain ⟨t, ht, rfl⟩ := h
  exact ⟨blanks ++ t, ⟨blanks, t, hb, ht, rfl⟩, by rw [htext, List.append_assoc]⟩

/-- How a text goes on at an item: the bracket is closed, or the next item is ahead, behind a
comma if it is not the first. -/
inductive Next (close : Char) : (first more : Bool) → List Char → List Char → Prop where
  | stop {first : Bool} {blanks rest : List Char} (hb : Blanks blanks) :
      Next close first false (blanks ++ close :: rest) (close :: rest)
  | first {blanks rest : List Char} (hb : Blanks blanks) :
      Next close true true (blanks ++ rest) rest
  | next {blanks blanks' rest : List Char} (hb : Blanks blanks) (hb' : Blanks blanks') :
      Next close false true (blanks ++ ',' :: (blanks' ++ rest)) rest

/-- Where no item is ahead the bracket that follows makes no items. -/
theorem Next.closed {S : List Char → α → Prop} {close : Char} {first : Bool}
    {text rest rest' : List Char} (h : Next close first false text rest)
    (hclose : ∃ blanks, Blanks blanks ∧ rest = blanks ++ close :: rest') :
    ∃ t, Items S close first t [] ∧ text = t ++ rest' := by
  obtain ⟨blanks', hb', hrest⟩ := hclose
  generalize hw : rest = whole at h
  cases h with
  | stop hb =>
    refine ⟨_, .close (hb.append hb'), ?_⟩
    rw [← hw, hrest]
    simp only [List.append_assoc, List.cons_append, List.nil_append]

/-- An item in front of further items makes items. -/
theorem Next.items {S : List Char → α → Prop} {close : Char} {first : Bool}
    {text t body rest : List Char} {a : α} {more : List α}
    (h : Next close first true text (t ++ (body ++ rest))) (ht : Padded S t a)
    (hbody : Items S close false body more) :
    ∃ u, Items S close first u (a :: more) ∧ text = u ++ rest := by
  generalize hw : t ++ (body ++ rest) = whole at h
  cases h with
  | first hb =>
    refine ⟨_, .first (ht.append hb) hbody, ?_⟩
    rw [← hw]
    simp only [List.append_assoc]
  | next hb hb' =>
    refine ⟨_, .next hb (ht.append hb') hbody, ?_⟩
    rw [← hw]
    simp only [List.append_assoc, List.cons_append]

/-- A member in front of further members makes members. -/
theorem Next.members {K : List Char → String → Prop} {S : List Char → α → Prop} {close : Char}
    {first : Bool} {text key blanks t body rest : List Char} {k : String} {a : α}
    {more : List (String × α)}
    (h : Next close first true text (key ++ (blanks ++ ':' :: (t ++ (body ++ rest)))))
    (hk : K key k) (hb : Blanks blanks) (ht : Padded S t a)
    (hbody : Items (MemberText K S) close false body more) :
    ∃ u, Items (MemberText K S) close first u ((k, a) :: more) ∧ text = u ++ rest := by
  have hmember : MemberText K S (key ++ (blanks ++ ':' :: t)) (k, a) :=
    ⟨key, blanks, t, hk, hb, ht, rfl⟩
  have hrest : key ++ (blanks ++ ':' :: (t ++ (body ++ rest))) =
      (key ++ (blanks ++ ':' :: t)) ++ (body ++ rest) := by
    simp only [List.append_assoc, List.cons_append]
  rw [hrest] at h
  exact h.items (Padded.of hmember) hbody

/-- Items are closed at once, or they are an item in front of further items. -/
theorem Items.cases_next {S : List Char → α → Prop} {close : Char} {first : Bool}
    {text : List Char} {as : List α} (h : Items S close first text as) (rest : List Char) :
    (as = [] ∧ Next close first false (text ++ rest) (close :: rest)) ∨
      ∃ t body a more, as = a :: more ∧ S t a ∧ Items S close false body more ∧
        Next close first true (text ++ rest) (t ++ (body ++ rest)) := by
  cases h with
  | close hb =>
    refine .inl ⟨rfl, ?_⟩
    rw [List.append_assoc]
    exact .stop hb
  | first ht h =>
    obtain ⟨blanks, t, hb, ht, rfl⟩ := ht
    refine .inr ⟨t, _, _, _, rfl, ht, h, ?_⟩
    simp only [List.append_assoc]
    exact .first hb
  | next hb ht h =>
    obtain ⟨blanks', t, hb', ht, rfl⟩ := ht
    refine .inr ⟨t, _, _, _, rfl, ht, h, ?_⟩
    simp only [List.append_assoc, List.cons_append]
    exact .next hb hb'

/-- What follows an item, a bracket or a comma, does not continue a number. -/
theorem Items.ends {S : List Char → α → Prop} {close : Char} (hclose : Ends [close])
    {text : List Char} {as : List α} (h : Items S close false text as) (rest : List Char) :
    Ends (text ++ rest) := by
  have hfront : ∀ {blanks more : List Char} {x : Char}, Blanks blanks → Ends [x] →
      Ends (blanks ++ x :: more) := by
    intro blanks more x hb hx c hc
    cases blanks with
    | nil => exact hx c hc
    | cons y ys => exact hb.ends c hc
  cases h with
  | close hb =>
    rw [List.append_assoc]
    exact hfront hb hclose
  | next hb ht h =>
    rw [List.append_assoc]
    exact hfront hb (by simp [Ends]; decide)

/-- There are fewer items than characters: each has one, and the bracket is left. -/
theorem Items.length_lt {S : List Char → α → Prop} (hS : ∀ t a, S t a → t ≠ []) {close : Char}
    {first : Bool} {text : List Char} {as : List α} (h : Items S close first text as) :
    as.length < text.length := by
  have hpos : ∀ {t : List Char} {a : α}, Padded S t a → 0 < t.length := by
    rintro t a ⟨blanks, u, -, hu, rfl⟩
    have hne : 0 < u.length := List.length_pos_iff.mpr (hS u a hu)
    simp only [List.length_append]
    omega
  induction h with
  | close hb => simp
  | first ht h ih =>
    have ht := hpos ht
    simp only [List.length_append, List.length_cons]
    omega
  | next hb ht h ih =>
    simp only [List.length_append, List.length_cons]
    omega

/-- The characters of items, whatever follows them, are enough fuel to go through them. -/
theorem Items.length_lt_fuel {S : List Char → α → Prop} (hS : ∀ t a, S t a → t ≠ [])
    {close : Char} {first : Bool} {text : List Char} {as : List α}
    (h : Items S close first text as) (rest : List Char) :
    as.length < (text ++ rest).length + 1 := by
  have hlen := h.length_lt hS
  simp only [List.length_append]
  omega

/-- What holds of whatever has a text holds of the items. -/
theorem Items.all {S : List Char → α → Prop} {P : α → Prop} (h : ∀ t a, S t a → P a)
    {close : Char} {first : Bool} {text : List Char} {as : List α}
    (hi : Items S close first text as) : ∀ a ∈ as, P a := by
  have hpad : ∀ {t : List Char} {a : α}, Padded S t a → P a :=
    fun ⟨blanks, u, hb, hu, he⟩ => h _ _ hu
  induction hi with
  | close hb => simp
  | first ht _ ih => simpa using ⟨hpad ht, ih⟩
  | next hb ht _ ih => simpa using ⟨hpad ht, ih⟩

/-- Items of fewer texts are items of more. -/
theorem Items.imp {S T : List Char → α → Prop} (h : ∀ t a, S t a → T t a) {close : Char}
    {first : Bool} {text : List Char} {as : List α} (hi : Items S close first text as) :
    Items T close first text as := by
  induction hi with
  | close hb => exact .close hb
  | first ht _ ih => exact .first (ht.imp h) ih
  | next hb ht _ ih => exact .next hb (ht.imp h) ih

theorem MemberText.imp {κ : Type} {K : List Char → κ → Prop} {S T : List Char → α → Prop}
    (h : ∀ t a, S t a → T t a) {t : List Char} {m : κ × α} (hm : MemberText K S t m) :
    MemberText K T t m := by
  obtain ⟨key, blanks, u, hk, hb, hu, rfl⟩ := hm
  exact ⟨key, blanks, u, hk, hb, hu.imp h, rfl⟩

/-- The value of a member has a text. -/
theorem MemberText.value {κ : Type} {K : List Char → κ → Prop} {S : List Char → α → Prop}
    {t : List Char} {m : κ × α} (hm : MemberText K S t m) : ∃ u, S u m.2 := by
  obtain ⟨key, blanks, v, -, -, ⟨blanks', u, -, hu, -⟩, -⟩ := hm
  exact ⟨u, hu⟩

theorem MemberText.ne_nil {S : List Char → α → Prop} {t : List Char} {a : String × α}
    (h : MemberText StringText S t a) : t ≠ [] := by
  obtain ⟨k, blanks, u, hk, -, -, rfl⟩ := h
  rintro hnil
  have hhead := hk.head (blanks ++ ':' :: u)
  rw [hnil] at hhead
  cases hhead

theorem Spells.opens {order : Members → Prop} {depth : Nat} {t : List Char} {v : Value}
    (h : Spells order depth t v) : Opens t := by
  cases depth with
  | zero => exact ScalarText.opens h
  | succ depth =>
    rcases h with h | ⟨items, ⟨body, -, rfl⟩, -⟩ | ⟨written, ⟨body, -, rfl⟩, -⟩
    · exact h.opens
    · exact ⟨_, _, rfl, by decide, by decide⟩
    · exact ⟨_, _, rfl, by decide, by decide⟩

namespace Reader

/-! ## Going from item to item -/

/-- A reader that has looked for an item has found how the text goes on. -/
theorem nextItem_ok {first more : Bool} {c c' : Cursor} (h : nextItem first c = .ok (more, c')) :
    Next ']' first more c.rest c'.rest := by
  obtain ⟨blanks, x, rest, p, hb, hc, h⟩ := peekToken?_bind_cons_ok h (.failHere _)
  rw [hc]
  rcases if_ok.mp h with ⟨rfl, h⟩ | ⟨-, h⟩
  · obtain ⟨rfl, rfl⟩ := pure_ok.mp h
    exact .stop hb
  rcases if_ok.mp h with ⟨hfirst, h⟩ | ⟨hfirst, h⟩
  · obtain ⟨rfl, rfl⟩ := pure_ok.mp h
    rw [hfirst]
    exact .first hb
  have hlater : first = false := by simpa using hfirst
  rw [hlater]
  rcases if_ok.mp h with ⟨rfl, h⟩ | ⟨-, h⟩
  · rw [skip_bind] at h
    obtain ⟨blanks', y, rest', q, hb', hc', h⟩ := peekToken?_bind_cons_ok h (.failHere _)
    have hrest : rest = blanks' ++ y :: rest' := hc'
    rcases if_ok.mp h with ⟨-, h⟩ | ⟨-, h⟩
    · exact absurd h (Never.failAhead _ _ _ _)
    · obtain ⟨rfl, rfl⟩ := pure_ok.mp h
      rw [hrest]
      exact .next hb hb'
  · exact absurd h (Never.failAhead _ _ _ _)

theorem nextItem_append {first more : Bool} {text rest : List Char}
    (h : Next ']' first more text rest) (hrest : more = true → Opens rest) (p : Position) :
    ∃ p', nextItem first ⟨text, p⟩ = .ok (more, ⟨rest, p'⟩) := by
  cases h with
  | stop hb =>
    rw [nextItem, peekToken?_bind hb (by simp; decide)]
    exact ⟨_, rfl⟩
  | first hb =>
    obtain ⟨x, more, rfl, hx, hclose⟩ := hrest rfl
    rw [nextItem, peekToken?_bind hb (by simpa using hx)]
    simp only [List.head?_cons, if_neg hclose, if_true]
    exact ⟨_, rfl⟩
  | next hb hb' =>
    obtain ⟨x, more, rfl, hx, hclose⟩ := hrest rfl
    rw [nextItem, peekToken?_bind hb (by simp; decide)]
    simp only [List.head?_cons, Char.reduceEq, if_false, if_true, Bool.false_eq_true, skip_bind]
    rw [peekToken?_bind hb' (by simpa using hx)]
    simp only [List.head?_cons, if_neg hclose]
    exact ⟨_, rfl⟩

/-- A reader that has looked for a key has found how the text goes on; a key starts with a
quote. -/
theorem nextKey_ok {first more : Bool} {c c' : Cursor} (h : nextKey first c = .ok (more, c')) :
    Next '\x7d' first more c.rest c'.rest ∧ (more = true → c'.rest.head? = some '"') := by
  obtain ⟨blanks, x, rest, p, hb, hc, h⟩ := peekToken?_bind_cons_ok h (.failHere _)
  rw [hc]
  rcases if_ok.mp h with ⟨rfl, h⟩ | ⟨-, h⟩
  · obtain ⟨rfl, rfl⟩ := pure_ok.mp h
    exact ⟨.stop hb, by simp⟩
  rcases if_ok.mp h with ⟨hfirst, h⟩ | ⟨hfirst, h⟩
  · rw [hfirst]
    rcases if_ok.mp h with ⟨rfl, h⟩ | ⟨-, h⟩
    · obtain ⟨rfl, rfl⟩ := pure_ok.mp h
      exact ⟨.first hb, fun _ => rfl⟩
    · exact absurd h (Never.failAhead _ _ _ _)
  have hlater : first = false := by simpa using hfirst
  rw [hlater]
  rcases if_ok.mp h with ⟨rfl, h⟩ | ⟨-, h⟩
  · rw [skip_bind] at h
    obtain ⟨blanks', y, rest', q, hb', hc', h⟩ := peekToken?_bind_cons_ok h (.failHere _)
    have hrest : rest = blanks' ++ y :: rest' := hc'
    rcases if_ok.mp h with ⟨rfl, h⟩ | ⟨-, h⟩
    · obtain ⟨rfl, rfl⟩ := pure_ok.mp h
      rw [hrest]
      exact ⟨.next hb hb', fun _ => rfl⟩
    · simp [if_ok] at h
  · exact absurd h (Never.failAhead _ _ _ _)

theorem nextKey_append {first more : Bool} {text rest : List Char}
    (h : Next '\x7d' first more text rest) (hrest : more = true → rest.head? = some '"')
    (p : Position) : ∃ p', nextKey first ⟨text, p⟩ = .ok (more, ⟨rest, p'⟩) := by
  cases h with
  | stop hb =>
    rw [nextKey, peekToken?_bind hb (by simp; decide)]
    exact ⟨_, rfl⟩
  | first hb =>
    obtain ⟨more, rfl⟩ := List.head?_eq_some_iff.mp (hrest rfl)
    rw [nextKey, peekToken?_bind hb (by simp; decide)]
    exact ⟨_, rfl⟩
  | next hb hb' =>
    obtain ⟨more, rfl⟩ := List.head?_eq_some_iff.mp (hrest rfl)
    rw [nextKey, peekToken?_bind hb (by simp; decide)]
    simp only [List.head?_cons, Char.reduceEq, if_false, if_true, Bool.false_eq_true, skip_bind]
    rw [peekToken?_bind hb' (by simp; decide)]
    exact ⟨_, rfl⟩

/-- A character that is taken behind blanks, where anything else is refused. -/
theorem skipped_ok {cause : Cause} {x : Char} {refuse : Char → Reader Unit}
    (hrefuse : ∀ y, Never (refuse y)) {c c' : Cursor}
    (h : (do
      match ← peekToken? with
      | none => failHere cause
      | some y => if y = x then skip else refuse y : Reader Unit) c = .ok ((), c')) :
    ∃ blanks, Blanks blanks ∧ c.rest = blanks ++ x :: c'.rest := by
  obtain ⟨blanks, y, rest, p, hb, hc, h⟩ := peekToken?_bind_cons_ok h (.failHere _)
  rcases if_ok.mp h with ⟨hy, hskip⟩ | ⟨-, hrefused⟩
  · rw [skip_cons] at hskip
    cases hskip
    rw [hy] at hc
    exact ⟨blanks, hb, hc⟩
  · exact absurd hrefused (hrefuse y _ _ _)

theorem colon_ok {c c' : Cursor} (h : colon c = .ok ((), c')) :
    ∃ blanks, Blanks blanks ∧ c.rest = blanks ++ ':' :: c'.rest :=
  skipped_ok (fun _ => .failAhead _) h

theorem colon_append {blanks : List Char} (hb : Blanks blanks) (rest : List Char) (p : Position) :
    ∃ p', colon ⟨blanks ++ ':' :: rest, p⟩ = .ok ((), ⟨rest, p'⟩) := by
  rw [colon, peekToken?_bind hb (by simp; decide)]
  exact ⟨_, rfl⟩

theorem closeArray_ok {c c' : Cursor} (h : closeArray c = .ok ((), c')) :
    ∃ blanks, Blanks blanks ∧ c.rest = blanks ++ ']' :: c'.rest := by
  refine skipped_ok (fun y => ?_) h
  split
  · refine .bind fun _ => .bind fun next => ?_
    split <;> exact .failAhead _
  · exact .failAhead _

theorem closeArray_append {blanks : List Char} (hb : Blanks blanks) (rest : List Char)
    (p : Position) : ∃ p', closeArray ⟨blanks ++ ']' :: rest, p⟩ = .ok ((), ⟨rest, p'⟩) := by
  rw [closeArray, peekToken?_bind hb (by simp; decide)]
  exact ⟨_, rfl⟩

theorem closeObject_ok {c c' : Cursor} (h : closeObject c = .ok ((), c')) :
    ∃ blanks, Blanks blanks ∧ c.rest = blanks ++ '\x7d' :: c'.rest := by
  refine skipped_ok (fun y => ?_) h
  split <;> exact .failAhead _

theorem closeObject_append {blanks : List Char} (hb : Blanks blanks) (rest : List Char)
    (p : Position) : ∃ p', closeObject ⟨blanks ++ '\x7d' :: rest, p⟩ = .ok ((), ⟨rest, p'⟩) := by
  rw [closeObject, peekToken?_bind hb (by simp; decide)]
  exact ⟨_, rfl⟩

/-! ## Arrays and objects -/

section Loops

variable {item : Reader α} {S : List Char → α → Prop}

/-- What has been read are items, and a bracket. -/
theorem items_ok (h : Takes item (Padded S)) {fuel : Nat} {first : Bool} {as : List α}
    {c c₁ c' : Cursor} (hi : items item fuel first c = .ok (as, c₁))
    (hclose : closeArray c₁ = .ok ((), c')) :
    ∃ t, Items S ']' first t as ∧ c.rest = t ++ c'.rest := by
  induction fuel generalizing first as c with
  | zero => simp [items] at hi
  | succ fuel ih =>
    obtain ⟨more, c₂, hnext, hi⟩ := bind_ok.mp hi
    have hstep := nextItem_ok hnext
    cases more with
    | false =>
      obtain ⟨rfl, rfl⟩ := pure_ok.mp hi
      exact hstep.closed (closeArray_ok hclose)
    | true =>
      obtain ⟨a, c₃, ha, hi⟩ := bind_ok.mp hi
      obtain ⟨more, hmore, rfl⟩ := map_ok.mp hi
      obtain ⟨t, ht, hc⟩ := h.sound ha
      obtain ⟨body, hbody, hc₃⟩ := ih hmore
      rw [hc, hc₃] at hstep
      exact hstep.items ht hbody

/-- Items are read up to their bracket with more fuel than there are of them. -/
theorem items_append (h : Takes item (Padded S)) (hS : ∀ t a, S t a → Opens t) {fuel : Nat}
    {first : Bool} {text : List Char} {as : List α} (hi : Items S ']' first text as)
    (hfuel : as.length < fuel) (rest : List Char) (p : Position) :
    ∃ p', items item fuel first ⟨text ++ rest, p⟩ = .ok (as, ⟨']' :: rest, p'⟩) := by
  induction fuel generalizing first text as p with
  | zero => omega
  | succ fuel ih =>
    rw [items]
    rcases hi.cases_next rest with ⟨rfl, hnext⟩ | ⟨t, body, a, more, rfl, ht, hbody, hnext⟩
    · obtain ⟨q, hq⟩ := nextItem_append hnext (by simp) p
      rw [bind_of_ok hq]
      exact ⟨q, rfl⟩
    · have hopens : Opens (t ++ (body ++ rest)) := (hS t a ht).append _
      have hends : Ends (body ++ rest) := hbody.ends (by simp [Ends]; decide) rest
      obtain ⟨q, hq⟩ := nextItem_append hnext (fun _ => hopens) p
      obtain ⟨q', hq'⟩ := h.complete (Padded.of ht) hends q
      obtain ⟨p', hp⟩ := ih hbody (by simpa using hfuel) q'
      rw [bind_of_ok hq]
      simp only [if_true]
      rw [bind_of_ok hq', bind_of_ok hp]
      exact ⟨p', rfl⟩

theorem array_ok (h : Takes item (Padded S)) {as : List α} {c c' : Cursor}
    (hc : c.rest.head? = some '[') (ha : array item c = .ok (as, c')) :
    ∃ t, ArrayText S t as ∧ c.rest = t ++ c'.rest := by
  obtain ⟨rest, hrest⟩ := List.head?_eq_some_iff.mp hc
  obtain ⟨text, p⟩ := c
  obtain rfl : text = '[' :: rest := hrest
  rw [array, skip_bind, remaining_bind] at ha
  obtain ⟨values, c₁, hi, ha⟩ := bind_ok.mp ha
  obtain ⟨⟨⟩, c₂, hclose, ha⟩ := bind_ok.mp ha
  obtain ⟨rfl, rfl⟩ := pure_ok.mp ha
  obtain ⟨body, hbody, hc⟩ := items_ok h hi hclose
  exact ⟨_, ⟨body, hbody, rfl⟩, congrArg ('[' :: ·) hc⟩

theorem array_append (h : Takes item (Padded S)) (hS : ∀ t a, S t a → Opens t)
    {text : List Char} {as : List α} (ht : ArrayText S text as) (rest : List Char)
    (p : Position) :
    ∃ p', array item ⟨text ++ rest, p⟩ = .ok (as, ⟨rest, p'⟩) := by
  obtain ⟨body, hbody, rfl⟩ := ht
  have hne : ∀ t a, S t a → t ≠ [] := by
    rintro t a ha rfl
    obtain ⟨x, xs, hnil, -⟩ := hS [] a ha
    cases hnil
  obtain ⟨q, hq⟩ :=
    items_append h hS hbody (hbody.length_lt_fuel hne rest) rest (p.after '[')
  obtain ⟨p', hp⟩ := closeArray_append Blanks.nil rest q
  rw [List.cons_append, array, skip_bind, remaining_bind, bind_of_ok hq]
  rw [List.nil_append] at hp
  rw [bind_of_ok hp]
  exact ⟨p', rfl⟩

/-- What has been read are members, and a brace. -/
theorem members_ok (h : Takes item (Padded S)) {fuel : Nat} {first : Bool}
    {as : List (String × α)} {c c₁ c' : Cursor} (hm : members item fuel first c = .ok (as, c₁))
    (hclose : closeObject c₁ = .ok ((), c')) :
    ∃ t, Items (MemberText StringText S) '\x7d' first t as ∧ c.rest = t ++ c'.rest := by
  induction fuel generalizing first as c with
  | zero => simp [members] at hm
  | succ fuel ih =>
    obtain ⟨more, c₂, hnext, hm⟩ := bind_ok.mp hm
    obtain ⟨hstep, hquote⟩ := nextKey_ok hnext
    cases more with
    | false =>
      obtain ⟨rfl, rfl⟩ := pure_ok.mp hm
      exact hstep.closed (closeObject_ok hclose)
    | true =>
      obtain ⟨key, c₃, hkey, hm⟩ := bind_ok.mp hm
      obtain ⟨⟨⟩, c₄, hcolon, hm⟩ := bind_ok.mp hm
      obtain ⟨a, c₅, ha, hm⟩ := bind_ok.mp hm
      obtain ⟨more, hmore, rfl⟩ := map_ok.mp hm
      obtain ⟨k, hk, hc₂⟩ := string_takes (hquote rfl) hkey
      obtain ⟨blanks, hb, hc₃⟩ := colon_ok hcolon
      obtain ⟨t, ht, hc₄⟩ := h.sound ha
      obtain ⟨body, hbody, hc₅⟩ := ih hmore
      rw [hc₂, hc₃, hc₄, hc₅] at hstep
      exact hstep.members hk hb ht hbody

/-- Members are read up to their brace with more fuel than there are of them. -/
theorem members_append (h : Takes item (Padded S)) {fuel : Nat} {first : Bool}
    {text : List Char} {as : List (String × α)}
    (hm : Items (MemberText StringText S) '\x7d' first text as) (hfuel : as.length < fuel)
    (rest : List Char) (p : Position) :
    ∃ p', members item fuel first ⟨text ++ rest, p⟩ = .ok (as, ⟨'\x7d' :: rest, p'⟩) := by
  induction fuel generalizing first text as p with
  | zero => omega
  | succ fuel ih =>
    rw [members]
    rcases hm.cases_next rest with ⟨rfl, hnext⟩ | ⟨t, body, a, more, rfl, ht, hbody, hnext⟩
    · obtain ⟨q, hq⟩ := nextKey_append hnext (by simp) p
      rw [bind_of_ok hq]
      exact ⟨q, rfl⟩
    · obtain ⟨k, blanks, u, hk, hb, hu, rfl⟩ := ht
      simp only [List.append_assoc, List.cons_append] at hnext
      have hends : Ends (body ++ rest) := hbody.ends (by simp [Ends]; decide) rest
      obtain ⟨q, hq⟩ := nextKey_append hnext (fun _ => hk.head _) p
      obtain ⟨q₁, hq₁⟩ := string_append hk (blanks ++ ':' :: (u ++ (body ++ rest))) q
      obtain ⟨q₂, hq₂⟩ := colon_append hb (u ++ (body ++ rest)) q₁
      obtain ⟨q₃, hq₃⟩ := h.complete hu hends q₂
      obtain ⟨p', hp⟩ := ih hbody (by simpa using hfuel) q₃
      rw [bind_of_ok hq]
      simp only [if_true]
      rw [bind_of_ok hq₁, bind_of_ok hq₂, bind_of_ok hq₃, bind_of_ok hp]
      exact ⟨p', rfl⟩

theorem object_ok (h : Takes item (Padded S)) {as : List (String × α)} {c c' : Cursor}
    (hc : c.rest.head? = some '\x7b') (ho : object item c = .ok (as, c')) :
    ∃ t, ObjectText StringText S t as ∧ c.rest = t ++ c'.rest := by
  obtain ⟨rest, hrest⟩ := List.head?_eq_some_iff.mp hc
  obtain ⟨text, p⟩ := c
  obtain rfl : text = '\x7b' :: rest := hrest
  rw [object, skip_bind, remaining_bind] at ho
  obtain ⟨pairs, c₁, hm, ho⟩ := bind_ok.mp ho
  obtain ⟨⟨⟩, c₂, hclose, ho⟩ := bind_ok.mp ho
  obtain ⟨rfl, rfl⟩ := pure_ok.mp ho
  obtain ⟨body, hbody, hc⟩ := members_ok h hm hclose
  exact ⟨_, ⟨body, hbody, rfl⟩, congrArg ('\x7b' :: ·) hc⟩

theorem object_append (h : Takes item (Padded S)) {text : List Char}
    {as : List (String × α)} (ht : ObjectText StringText S text as) (rest : List Char)
    (p : Position) :
    ∃ p', object item ⟨text ++ rest, p⟩ = .ok (as, ⟨rest, p'⟩) := by
  obtain ⟨body, hbody, rfl⟩ := ht
  have hfuel := hbody.length_lt_fuel (fun t a ha => ha.ne_nil) rest
  obtain ⟨q, hq⟩ := members_append h hbody hfuel rest (p.after '\x7b')
  obtain ⟨p', hp⟩ := closeObject_append Blanks.nil rest q
  rw [List.cons_append, object, skip_bind, remaining_bind, bind_of_ok hq]
  rw [List.nil_append] at hp
  rw [bind_of_ok hp]
  exact ⟨p', rfl⟩

end Loops

/-! ## Values -/

/-- A value without brackets is read at any limit. -/
theorem value_scalar_append (limit : Nat) {t rest : List Char} {v : Value} (ht : ScalarText t v)
    (hr : Ends rest) {blanks : List Char} (hb : Blanks blanks) (p : Position) :
    ∃ p', value (limit + 1) ⟨blanks ++ (t ++ rest), p⟩ = .ok (v, ⟨rest, p'⟩) := by
  rw [value_eq]
  rcases scalarText_iff.mp ht with ⟨w, rfl, rfl⟩ | ⟨n, rfl, negative, l, hl, rfl⟩ | ⟨s, rfl, hs⟩
  · exact Branches.reader_append hb (.word w rest) p
  · obtain ⟨q, hq⟩ := Branches.reader_append (b := valueBranches limit) hb
      (.number negative fun _ => l.head rest) p
    obtain ⟨p', hp⟩ := (takes_number negative).complete ⟨l, hl, rfl⟩ hr q
    rw [List.append_assoc, hq]
    exact ⟨p', map_ok.mpr ⟨n, hp, rfl⟩⟩
  · obtain ⟨q, hq⟩ := Branches.reader_append (b := valueBranches limit) hb
      (.string (hs.head rest)) p
    obtain ⟨p', hp⟩ := string_append hs rest q
    rw [List.nil_append] at hq
    rw [hq]
    exact ⟨p', map_ok.mpr ⟨s, hp, rfl⟩⟩

/-- An array is read if the limit leaves room for its items. -/
theorem value_array_append {depth : Nat}
    (h : Takes (value (depth + 1)) (Padded (Spells AnyOrder depth))) {t : List Char}
    {items : List Value} (ht : ArrayText (Spells AnyOrder depth) t items) {blanks : List Char}
    (hb : Blanks blanks) (rest : List Char) (p : Position) :
    ∃ p', value (depth + 2) ⟨blanks ++ (t ++ rest), p⟩ = .ok (.array items, ⟨rest, p'⟩) := by
  have hopening : (t ++ rest).head? = some (Bracket.opening .array) := by
    obtain ⟨body, -, rfl⟩ := ht
    rfl
  obtain ⟨q, hq⟩ := Branches.reader_append (b := valueBranches (depth + 1)) hb
    (.bracket .array hopening) p
  obtain ⟨p', hp⟩ := array_append h (fun t a => Spells.opens) ht rest q
  rw [List.nil_append] at hq
  rw [value_eq, hq]
  exact ⟨p', map_ok.mpr ⟨items, hp, rfl⟩⟩

/-- An object is read if the limit leaves room for its members. -/
theorem value_object_append {depth : Nat}
    (h : Takes (value (depth + 1)) (Padded (Spells AnyOrder depth))) {t : List Char}
    {written : List (String × Value)}
    (ht : ObjectText StringText (Spells AnyOrder depth) t written) {blanks : List Char}
    (hb : Blanks blanks) (rest : List Char) (p : Position) :
    ∃ p', value (depth + 2) ⟨blanks ++ (t ++ rest), p⟩ =
      .ok (.object (Members.ofList written), ⟨rest, p'⟩) := by
  have hopening : (t ++ rest).head? = some (Bracket.opening .object) := by
    obtain ⟨body, -, rfl⟩ := ht
    rfl
  obtain ⟨q, hq⟩ := Branches.reader_append (b := valueBranches (depth + 1)) hb
    (.bracket .object hopening) p
  obtain ⟨p', hp⟩ := object_append h ht rest q
  rw [List.nil_append] at hq
  rw [value_eq, hq]
  exact ⟨p', map_ok.mpr ⟨written, hp, rfl⟩⟩

/-- What a value that has been read can be: one without brackets, or an array or an object, for
which the limit has to leave room. -/
theorem value_ok {limit : Nat} {v : Value} {c c' : Cursor}
    (h : value (limit + 1) c = .ok (v, c')) :
    ∃ blanks c₁, Blanks blanks ∧ c.rest = blanks ++ c₁.rest ∧
      ((∃ t, ScalarText t v ∧ c₁.rest = t ++ c'.rest) ∨
        (limit ≠ 0 ∧ c₁.rest.head? = some '[' ∧
          ∃ items, v = .array items ∧ array (value limit) c₁ = .ok (items, c')) ∨
        (limit ≠ 0 ∧ c₁.rest.head? = some '\x7b' ∧
          ∃ written, v = .object (Members.ofList written) ∧
            object (value limit) c₁ = .ok (written, c'))) := by
  rw [value_eq] at h
  obtain ⟨blanks, taken, rest, r, p, hb, hahead, hc, h⟩ := Branches.reader_ok h
  refine ⟨blanks, ⟨taken ++ rest, p⟩, hb, hc, ?_⟩
  cases hahead with
  | word w =>
    obtain ⟨rfl, rfl⟩ := pure_ok.mp h
    exact .inl ⟨w.letters, w.scalarText, rfl⟩
  | number negative =>
    obtain ⟨n, hn, rfl⟩ := map_ok.mp h
    obtain ⟨t, ⟨l, hl, rfl⟩, hrest⟩ := (takes_number negative).sound hn
    refine .inl ⟨_, .number ⟨negative, l, hl, rfl⟩, ?_⟩
    rw [List.append_assoc]
    exact congrArg (signText negative ++ ·) hrest
  | string hquote =>
    obtain ⟨s, hs, rfl⟩ := map_ok.mp h
    obtain ⟨t, ht, hrest⟩ := string_takes hquote hs
    exact .inl ⟨t, .text ht, hrest⟩
  | bracket bracket hopening =>
    cases bracket with
    | array =>
      simp only [valueBranches, if_ok, failAhead_ok, and_false, false_or] at h
      obtain ⟨hlimit, h⟩ := h
      obtain ⟨items, hi, rfl⟩ := map_ok.mp h
      exact .inr (.inl ⟨hlimit, hopening, items, rfl, hi⟩)
    | object =>
      simp only [valueBranches, if_ok, failAhead_ok, and_false, false_or] at h
      obtain ⟨hlimit, h⟩ := h
      obtain ⟨written, hw, rfl⟩ := map_ok.mp h
      exact .inr (.inr ⟨hlimit, hopening, written, rfl, hw⟩)

/-- A value is read by its grammar, as many brackets deep as the limit allows. -/
theorem takes_value (depth : Nat) : Takes (value (depth + 1)) (Padded (Spells AnyOrder depth)) := by
  -- With one bracket more the loops over items and members read with the reader of one less.
  induction depth with
  | zero =>
    refine ⟨fun {c c' v} h => ?_, fun {t rest v} ht hr p => ?_⟩
    · obtain ⟨blanks, c₁, hb, hc, ⟨t, ht, hrest⟩ | ⟨hlimit, -⟩ | ⟨hlimit, -⟩⟩ := value_ok h
      · exact Padded.behind hb hc ⟨t, ht, hrest⟩
      · exact absurd rfl hlimit
      · exact absurd rfl hlimit
    · obtain ⟨blanks, t, hb, ht, rfl⟩ := ht
      rw [List.append_assoc]
      exact value_scalar_append 0 ht hr hb p
  | succ depth ih =>
    refine ⟨fun {c c' v} h => ?_, fun {t rest v} ht hr p => ?_⟩
    · obtain ⟨blanks, c₁, hb, hc, h⟩ := value_ok h
      refine Padded.behind hb hc ?_
      rcases h with ⟨t, ht, hrest⟩ | ⟨-, hhead, items, rfl, hi⟩ | ⟨-, hhead, written, rfl, ho⟩
      · exact ⟨t, .inl ht, hrest⟩
      · obtain ⟨t, ht, hrest⟩ := array_ok ih hhead hi
        exact ⟨t, .inr (.inl ⟨items, ht, rfl⟩), hrest⟩
      · obtain ⟨t, ht, hrest⟩ := object_ok ih hhead ho
        exact ⟨t, .inr (.inr ⟨written, ht, trivial, rfl⟩), hrest⟩
    · obtain ⟨blanks, t, hb, ht, rfl⟩ := ht
      rw [List.append_assoc]
      rcases ht with ht | ⟨items, ht, rfl⟩ | ⟨written, ht, -, rfl⟩
      · exact value_scalar_append _ ht hr hb p
      · exact value_array_append ih ht hb rest p
      · exact value_object_append ih ht hb rest p

end Reader

/-- The texts of values, as a whole. -/
theorem Value.parse_ok (s : String) (v : Value) :
    Value.parse s = .ok v ↔ Document (Spells AnyOrder 127) s v :=
  (Reader.takes_value 127).run_ok s v

end RevisionControl.Json
