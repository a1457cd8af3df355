import RevisionControl.Proofs.Json.Grammar

/-!
# Readers and the texts they take

`Takes r S` says that a reader takes exactly the texts of `S`: what it takes off the front of the
rest is such a text, and such a text in front of anything that does not continue a number is what
it takes. The place of a cursor is carried along and never decides anything.
-/

namespace RevisionControl.Json

variable {α β : Type}

namespace Reader

/-! ## Running readers -/

/-- A reader that has taken something goes on where it stopped. -/
theorem bind_of_ok {r : Reader α} {k : α → Reader β} {c c₁ : Cursor} {a : α}
    (h : r c = .ok (a, c₁)) : (r >>= k) c = k a c₁ := by
  simp only [bind, StateT.bind, Except.bind, h]

/-- What two readers take one after the other, the first has taken and then the second. -/
theorem bind_ok {r : Reader α} {k : α → Reader β} {c c' : Cursor} {b : β} :
    (r >>= k) c = .ok (b, c') ↔ ∃ a c₁, r c = .ok (a, c₁) ∧ k a c₁ = .ok (b, c') := by
  constructor
  · intro h
    cases hr : r c with
    | error e =>
      simp only [bind, StateT.bind, Except.bind, hr] at h
      cases h
    | ok p =>
      rw [bind_of_ok hr] at h
      exact ⟨p.1, p.2, rfl, h⟩
  · rintro ⟨a, c₁, hr, hk⟩
    rw [bind_of_ok hr, hk]

@[simp] theorem pure_ok {a b : α} {c c' : Cursor} :
    (pure a : Reader α) c = .ok (b, c') ↔ a = b ∧ c = c' := by
  change Except.ok (a, c) = Except.ok (b, c') ↔ _
  simp

@[simp] theorem failHere_ok {cause : Cause} {c c' : Cursor} {a : α} :
    (failHere cause : Reader α) c = .ok (a, c') ↔ False := by simp [failHere]

@[simp] theorem failAhead_ok {cause : Cause} {c c' : Cursor} {a : α} :
    (failAhead cause : Reader α) c = .ok (a, c') ↔ False := by simp [failAhead]

theorem peek?_bind {k : Option Char → Reader β} {c : Cursor} :
    (peek? >>= k) c = k c.rest.head? c := rfl

theorem remaining_bind {k : Nat → Reader β} {c : Cursor} :
    (remaining >>= k) c = k c.rest.length c := rfl

theorem skip_bind {k : Unit → Reader β} {x : Char} {rest : List Char} {p : Position} :
    (skip >>= k) ⟨x :: rest, p⟩ = k () ⟨rest, p.after x⟩ := rfl

theorem skip_cons {x : Char} {rest : List Char} {p : Position} :
    skip ⟨x :: rest, p⟩ = .ok ((), ⟨rest, p.after x⟩) := rfl

theorem map_ok {r : Reader α} {f : α → β} {c c' : Cursor} {b : β} :
    (do return f (← r)) c = .ok (b, c') ↔ ∃ a, r c = .ok (a, c') ∧ f a = b := by
  simp only [bind_ok, pure_ok]
  constructor
  · rintro ⟨a, c₁, hr, hb, rfl⟩
    exact ⟨a, hr, hb⟩
  · rintro ⟨a, hr, hb⟩
    exact ⟨a, c', hr, hb, rfl⟩

theorem if_ok {P : Prop} [Decidable P] {r s : Reader α} {c c' : Cursor} {a : α} :
    (if P then r else s) c = .ok (a, c') ↔
      P ∧ r c = .ok (a, c') ∨ ¬ P ∧ s c = .ok (a, c') := by
  by_cases hP : P <;> simp [hP]

/-- The reader takes nothing. -/
def Never (r : Reader α) : Prop := ∀ c a c', r c ≠ .ok (a, c')

theorem Never.failHere (cause : Cause) : Never (failHere cause : Reader α) :=
  fun _ _ _ h => failHere_ok.mp h

theorem Never.failAhead (cause : Cause) : Never (failAhead cause : Reader α) :=
  fun _ _ _ h => failAhead_ok.mp h

/-- A reader takes nothing if what it goes on with takes nothing. -/
theorem Never.bind {r : Reader α} {k : α → Reader β} (h : ∀ a, Never (k a)) : Never (r >>= k) := by
  intro c b c' hok
  obtain ⟨a, c₁, -, hk⟩ := bind_ok.mp hok
  exact h a c₁ b c' hk

/-! ## Runs of characters -/

/-- A run of characters is taken up to one that does not belong to it. -/
theorem takeWhile_append {p : Char → Bool} {taken rest : List Char} {q : Position}
    (ht : ∀ c ∈ taken, p c = true) (hr : ∀ c ∈ rest.head?, p c = false) :
    takeWhile p ⟨taken ++ rest, q⟩ = .ok (taken, ⟨rest, taken.foldl Position.after q⟩) := by
  have hrest : rest.takeWhile p = [] ∧ rest.dropWhile p = rest := by
    cases rest with
    | nil => exact ⟨rfl, rfl⟩
    | cons x more =>
      have hx : p x = false := hr x rfl
      simp [hx]
  have htake : (taken ++ rest).takeWhile p = taken := by
    rw [List.takeWhile_append_of_pos ht, hrest.1, List.append_nil]
  have hdrop : (taken ++ rest).dropWhile p = rest := by
    rw [List.dropWhile_append_of_pos ht, hrest.2]
  simp only [takeWhile, Cursor.move, htake, hdrop]

/-- All characters of a run are taken, and no other. -/
theorem takeWhile_ok {p : Char → Bool} {taken : List Char} {c c' : Cursor}
    (h : takeWhile p c = .ok (taken, c')) :
    c.rest = taken ++ c'.rest ∧ (∀ x ∈ taken, p x = true) ∧ ∀ x ∈ c'.rest.head?, p x = false := by
  simp only [takeWhile, Cursor.move, Except.ok.injEq, Prod.mk.injEq] at h
  obtain ⟨rfl, rfl⟩ := h
  refine ⟨(List.takeWhile_append_dropWhile).symm, fun x hx => ?_, fun x hx => ?_⟩
  · exact List.all_eq_true.mp List.all_takeWhile x hx
  · have hnot := List.head?_dropWhile_not p c.rest
    rw [Option.mem_def.mp hx] at hnot
    exact hnot

/-! ## Blanks -/

/-- Every text is a run of blanks before one that does not start with a blank. -/
theorem exists_blanks (text : List Char) :
    ∃ blanks rest, Blanks blanks ∧ (∀ x ∈ rest.head?, isSpace x = false) ∧
      text = blanks ++ rest := by
  obtain ⟨hrest, hb, hr⟩ := takeWhile_ok (c := ⟨text, .start⟩) (p := isSpace) rfl
  exact ⟨_, _, hb, hr, hrest⟩

/-- Blanks are taken where a character behind them is looked at. -/
theorem peekToken?_append {blanks rest : List Char} {p : Position} (hb : Blanks blanks)
    (hr : ∀ x ∈ rest.head?, isSpace x = false) :
    peekToken? ⟨blanks ++ rest, p⟩ =
      .ok (rest.head?, ⟨rest, blanks.foldl Position.after p⟩) := by
  rw [peekToken?, bind_of_ok (takeWhile_append hb hr)]
  rfl

theorem peekToken?_bind {k : Option Char → Reader β} {blanks rest : List Char} {p : Position}
    (hb : Blanks blanks) (hr : ∀ x ∈ rest.head?, isSpace x = false) :
    (peekToken? >>= k) ⟨blanks ++ rest, p⟩ =
      k rest.head? ⟨rest, blanks.foldl Position.after p⟩ :=
  bind_of_ok (peekToken?_append hb hr)

/-- What a reader that looks past the blanks first does: they are gone, and it goes on with the
character behind them. -/
theorem peekToken?_bind_ok {k : Option Char → Reader β} {c c' : Cursor} {b : β}
    (h : (peekToken? >>= k) c = .ok (b, c')) :
    ∃ blanks c₁, Blanks blanks ∧ c.rest = blanks ++ c₁.rest ∧ k c₁.rest.head? c₁ = .ok (b, c') := by
  obtain ⟨blanks, rest, hb, hr, hc⟩ := exists_blanks c.rest
  obtain ⟨text, p⟩ := c
  obtain rfl : text = blanks ++ rest := hc
  rw [peekToken?_bind hb hr] at h
  exact ⟨blanks, ⟨rest, blanks.foldl Position.after p⟩, hb, rfl, h⟩

/-- A reader that fails at the end of the text goes on with a character. -/
theorem peekToken?_bind_cons_ok {k : Option Char → Reader β} {c c' : Cursor} {b : β}
    (h : (peekToken? >>= k) c = .ok (b, c')) (hnone : Never (k none)) :
    ∃ blanks x rest p, Blanks blanks ∧ c.rest = blanks ++ x :: rest ∧
      k (some x) ⟨x :: rest, p⟩ = .ok (b, c') := by
  obtain ⟨blanks, ⟨text, p⟩, hb, hc, h⟩ := peekToken?_bind_ok h
  cases text with
  | nil => exact absurd h (hnone _ _ _)
  | cons x rest => exact ⟨blanks, x, rest, p, hb, hc, h⟩

/-! ## Words -/

theorem word_append (w : List Char) (rest : List Char) :
    ∀ p, word w ⟨w ++ rest, p⟩ = .ok ((), ⟨rest, w.foldl Position.after p⟩) := by
  induction w with
  | nil => exact fun p => rfl
  | cons x more ih =>
    intro p
    rw [word, peek?_bind]
    simp only [List.cons_append, List.head?_cons, if_true, skip_bind, ih, List.foldl_cons]

/-- Only its letters are taken for a word. -/
theorem word_ok {w : List Char} {c c' : Cursor} (h : word w c = .ok ((), c')) :
    c.rest = w ++ c'.rest := by
  induction w generalizing c with
  | nil =>
    obtain ⟨-, rfl⟩ := pure_ok.mp h
    rfl
  | cons x more ih =>
    obtain ⟨text, p⟩ := c
    rw [word, peek?_bind] at h
    cases text with
    | nil => simp at h
    | cons y rest =>
      simp only [List.head?_cons] at h
      split at h
      · next hyx =>
        rw [skip_bind] at h
        simpa [hyx] using ih h
      · simp at h

/-! ## The texts of a reader -/

/-- The reader takes the texts of `S`, and nothing else. -/
structure Takes (r : Reader α) (S : List Char → α → Prop) : Prop where
  sound {c c' : Cursor} {a : α} (h : r c = .ok (a, c')) : ∃ t, S t a ∧ c.rest = t ++ c'.rest
  complete {t rest : List Char} {a : α} (ht : S t a) (hr : Ends rest) (p : Position) :
    ∃ p', r ⟨t ++ rest, p⟩ = .ok (a, ⟨rest, p'⟩)

namespace Takes

variable {r : Reader α} {S : List Char → α → Prop}

/-- What a reader takes from the front of a text is determined by the text. -/
theorem unique (h : Takes r S) {t u rest more : List Char} {a b : α} (ht : S t a) (hu : S u b)
    (hr : Ends rest) (hm : Ends more) (he : t ++ rest = u ++ more) : t = u ∧ a = b := by
  obtain ⟨p, h₁⟩ := h.complete ht hr .start
  obtain ⟨q, h₂⟩ := h.complete hu hm .start
  rw [he, h₂] at h₁
  simp only [Except.ok.injEq, Prod.mk.injEq, Cursor.mk.injEq] at h₁
  obtain ⟨rfl, rfl, -⟩ := h₁
  exact ⟨List.append_cancel_right he, rfl⟩

theorem map {f : α → β} (h : Takes r S) :
    Takes (do return f (← r)) fun t b => ∃ a, S t a ∧ f a = b where
  sound hok := by
    obtain ⟨a, hr, hb⟩ := map_ok.mp hok
    obtain ⟨t, ht, hc⟩ := h.sound hr
    exact ⟨t, ⟨a, ht, hb⟩, hc⟩
  complete := by
    rintro t rest b ⟨a, ht, rfl⟩ hr p
    obtain ⟨p', h'⟩ := h.complete ht hr p
    exact ⟨p', map_ok.mpr ⟨a, h', rfl⟩⟩

theorem congr {S' : List Char → α → Prop} (h : Takes r S) (he : ∀ t a, S t a ↔ S' t a) :
    Takes r S' where
  sound hok := by
    obtain ⟨t, ht, hc⟩ := h.sound hok
    exact ⟨t, (he _ _).mp ht, hc⟩
  complete ht hr p := h.complete ((he _ _).mpr ht) hr p

end Takes

end Reader

/-! ## Whole texts -/

/-- A text is read as a whole if only blanks are left of it. -/
theorem Reader.run_eq_ok {r : Reader α} {s : String} {a : α} :
    r.run s = .ok a ↔ ∃ c, r (.ofString s) = .ok (a, c) ∧ Blanks c.rest := by
  rw [Reader.run]
  cases hr : r (.ofString s) with
  | error e =>
    constructor
    · intro hok
      cases hok
    · rintro ⟨c, hc, -⟩
      cases hc
  | ok p =>
    obtain ⟨b, text, q⟩ := p
    obtain ⟨blanks, rest, hb, hrest, rfl⟩ := exists_blanks text
    simp only [bind, Except.bind, peekToken?_append (p := q) hb hrest]
    cases rest with
    | nil =>
      constructor
      · intro hok
        cases hok
        exact ⟨_, rfl, by simpa using hb⟩
      · rintro ⟨c, hc, -⟩
        cases hc
        rfl
    | cons x more =>
      constructor
      · intro hok
        cases hok
      · rintro ⟨c, hc, hblank⟩
        cases hc
        have hx : Reader.isSpace x = false := hrest x rfl
        have hx' : Reader.isSpace x = true := hblank x (by simp)
        rw [hx] at hx'
        cases hx'

/-- A text is read as a whole exactly when it is one of the reader's texts between blanks. -/
theorem Reader.Takes.run_ok {r : Reader α} {S : List Char → α → Prop} (h : Takes r (Padded S))
    (s : String) (a : α) : r.run s = .ok a ↔ Document S s a := by
  rw [Reader.run_eq_ok]
  constructor
  · rintro ⟨c, hr, hb⟩
    obtain ⟨t, ⟨before, u, hbefore, hu, rfl⟩, hc⟩ := h.sound hr
    exact ⟨before, u, c.rest, hbefore, hb, hu, by simpa [Cursor.ofString] using hc⟩
  · rintro ⟨before, t, after, hbefore, hafter, ht, hs⟩
    obtain ⟨p, hp⟩ := h.complete ⟨before, t, hbefore, ht, rfl⟩ hafter.ends .start
    refine ⟨⟨after, p⟩, ?_, hafter⟩
    rw [Cursor.ofString, hs, ← List.append_assoc]
    exact hp

end RevisionControl.Json
