import RevisionControl.Proofs.Json.Values

/-!
# What is skipped is a value

`skipValue` keeps the open brackets on a stack and knows nothing of the text behind it, while the
grammar is recursive. What the stack still demands of the text is written down as `Pending`: every
step takes a text that turns what is pending afterwards into what was pending before, so a run
that ends has taken a value. The other way round, a value in front of the rest leads from `value`
due to `rest` due with the same stack (`Leads`), by induction on the grammar.
-/

namespace RevisionControl.Json

variable {α β : Type}

/-! ## The grammar, bracket by bracket -/

/-- Items can be described by another relation that holds of the same texts. -/
theorem Items.choose {S : List Char → α → Prop} {T : List Char → β → Prop} {P : β → Prop}
    {close : Char} {first : Bool} {text : List Char} {as : List α}
    (hi : Items S close first text as)
    (h : ∀ a ∈ as, ∀ t, S t a → ∃ b, T t b ∧ P b) :
    ∃ bs, Items T close first text bs ∧ ∀ b ∈ bs, P b := by
  induction hi with
  | close hb => exact ⟨[], .close hb, by simp⟩
  | first ht _ ih =>
    obtain ⟨blanks, t, hb, ht, rfl⟩ := ht
    obtain ⟨bs, hbs, hall⟩ := ih fun a ha => h a (List.mem_cons_of_mem _ ha)
    obtain ⟨b, hT, hP⟩ := h _ List.mem_cons_self t ht
    exact ⟨b :: bs, .first ⟨blanks, t, hb, hT, rfl⟩ hbs, by simpa [hP] using hall⟩
  | next hb ht _ ih =>
    obtain ⟨blanks, t, hb', ht, rfl⟩ := ht
    obtain ⟨bs, hbs, hall⟩ := ih fun a ha => h a (List.mem_cons_of_mem _ ha)
    obtain ⟨b, hT, hP⟩ := h _ List.mem_cons_self t ht
    exact ⟨b :: bs, .next hb ⟨blanks, t, hb', hT, rfl⟩ hbs, by simpa [hP] using hall⟩

open Reader (Bracket Due)

/-- The text of what stands in a bracket, for a given notion of a value. -/
def ItemText (V : List Char → Prop) : Bracket → List Char → Unit → Prop
  | .array, t, _ => V t
  | .object, t, _ => ∃ key u, MemberText (fun t _ => LooseString t) (fun t _ => V t) t
      ((key, u) : Unit × Unit)

theorem ScalarText.loose {t : List Char} {v : Value} (h : ScalarText t v) : LooseText t := by
  cases h with
  | null => exact .null
  | yes => exact .yes
  | no => exact .no
  | number h =>
    obtain ⟨negative, l, -, rfl⟩ := h
    exact .number negative l
  | text h => exact .text h.loose

/-- An array of values is a value. -/
theorem ArrayText.loose {S : List Char → α → Prop} (hS : ∀ t a, S t a → LooseText t)
    {text : List Char} {items : List α} (h : ArrayText S text items) : LooseText text := by
  obtain ⟨body, hbody, rfl⟩ := h
  obtain ⟨texts, htexts, hall⟩ := hbody.choose (T := Eq) (P := LooseText)
    fun a _ t ht => ⟨t, rfl, hS t a ht⟩
  exact .array ⟨body, htexts, rfl⟩ hall

/-- An object whose keys are strings and whose members are values is a value. -/
theorem ObjectText.loose {K : List Char → β → Prop} {S : List Char → α → Prop}
    (hK : ∀ t k, K t k → LooseString t) (hS : ∀ t a, S t a → LooseText t) {text : List Char}
    {members : List (β × α)} (h : ObjectText K S text members) : LooseText text := by
  obtain ⟨body, hbody, rfl⟩ := h
  obtain ⟨texts, htexts, hall⟩ := hbody.choose (T := MemberText Eq Eq)
    (P := fun m => LooseString m.1 ∧ LooseText m.2) (by
      rintro m - t ⟨key, blanks, u, hkey, hb, ⟨blanks', w, hb', hw, rfl⟩, rfl⟩
      exact ⟨(key, w), ⟨key, blanks, _, rfl, hb, ⟨blanks', w, hb', rfl, rfl⟩, rfl⟩,
        hK key m.1 hkey, hS w m.2 hw⟩)
  exact .object ⟨body, htexts, rfl⟩ (fun m hm => (hall m hm).1) fun m hm => (hall m hm).2

/-- A bracket around items of its kind is a value. -/
theorem LooseText.of_items {bracket : Bracket} {body : List Char} {items : List Unit}
    (h : Items (ItemText LooseText bracket) bracket.close true body items) :
    LooseText (bracket.opening :: body) := by
  cases bracket with
  | array => exact ArrayText.loose (S := fun t _ => LooseText t) (fun _ _ ht => ht) ⟨body, h, rfl⟩
  | object =>
    obtain ⟨members, hmembers, -⟩ := h.choose (P := fun _ : Unit × Unit => True)
      (T := MemberText (fun t _ => LooseString t) fun t _ => LooseText t) (by
        rintro a - t ⟨key, u, ht⟩
        exact ⟨(key, u), ht, trivial⟩)
    exact ObjectText.loose (fun _ _ hk => hk) (fun _ _ ht => ht) ⟨body, hmembers, rfl⟩

/-- The text of a value within the limits is the text of a value. -/
theorem Spells.loose {order : Members → Prop} {depth : Nat} {t : List Char} {v : Value}
    (h : Spells order depth t v) : LooseText t := by
  induction depth generalizing t v with
  | zero => exact ScalarText.loose h
  | succ depth ih =>
    rcases h with h | ⟨items, h, -⟩ | ⟨written, h, -⟩
    · exact h.loose
    · exact h.loose fun t v => ih
    · exact h.loose (fun t s => StringText.loose) fun t v => ih

theorem LooseText.opens {t : List Char} (h : LooseText t) : Opens t := by
  cases h with
  | null => exact ScalarText.null.opens
  | yes => exact ScalarText.yes.opens
  | no => exact ScalarText.no.opens
  | number negative l => exact l.opens negative
  | text h =>
    obtain ⟨body, -, rfl⟩ := h
    exact ⟨_, _, rfl, by decide, by decide⟩
  | array ht h =>
    obtain ⟨body, -, rfl⟩ := ht
    exact ⟨_, _, rfl, by decide, by decide⟩
  | object ht hk h =>
    obtain ⟨body, -, rfl⟩ := ht
    exact ⟨_, _, rfl, by decide, by decide⟩

namespace Reader

/-! ## What is skipped is a value -/

/-- What the open brackets demand of the text behind a value in them. -/
def Closing : List Bracket → List Char → Prop
  | [], t => t = []
  | bracket :: stack, t =>
    ∃ body rest items, Items (ItemText LooseText bracket) bracket.close false body items ∧
      Closing stack rest ∧ t = body ++ rest

/-- What is demanded of the text while something is due. -/
def Pending : Due → List Bracket → List Char → Prop
  | .rest, stack, t => Closing stack t
  | .value, stack, t => ∃ u rest, Padded (ItemText LooseText .array) u () ∧ Closing stack rest ∧
      t = u ++ rest
  | .key, stack, t => ∃ u rest, Padded (ItemText LooseText .object) u () ∧ Closing stack rest ∧
      t = u ++ rest

theorem pending_item {bracket : Bracket} {stack : List Bracket} {t : List Char} :
    Pending bracket.item stack t ↔ ∃ u rest, Padded (ItemText LooseText bracket) u () ∧
      Closing stack rest ∧ t = u ++ rest := by
  cases bracket <;> rfl

theorem openBracket_ok {bracket : Bracket} {closed : Bool} {x : Char} {rest : List Char}
    {p : Position} {c' : Cursor} (h : openBracket bracket ⟨x :: rest, p⟩ = .ok (closed, c')) :
    ∃ blanks, Blanks blanks ∧
      rest = if closed then blanks ++ bracket.close :: c'.rest else blanks ++ c'.rest := by
  rw [openBracket, skip_bind] at h
  obtain ⟨blanks, y, more, q, hb, hc, h⟩ := peekToken?_bind_cons_ok h (.failHere _)
  have hrest : rest = blanks ++ y :: more := hc
  refine ⟨blanks, hb, ?_⟩
  rcases if_ok.mp h with ⟨rfl, h⟩ | ⟨-, h⟩
  · rw [skip_bind] at h
    obtain ⟨rfl, rfl⟩ := pure_ok.mp h
    exact hrest
  · obtain ⟨rfl, rfl⟩ := pure_ok.mp h
    exact hrest

/-- A step that opens a bracket. -/
theorem open_pending (bracket : Bracket) {stack stack' : List Bracket} {due : Due}
    {rest : List Char} {p : Position} {c' : Cursor}
    (h : (do return if ← openBracket bracket then (.rest, stack)
        else (bracket.item, bracket :: stack) : Reader (Due × List Bracket))
      ⟨bracket.opening :: rest, p⟩ = .ok ((due, stack'), c')) :
    ∃ w, bracket.opening :: rest = w ++ c'.rest ∧
      ∀ t, Pending due stack' t → Pending .value stack (w ++ t) := by
  obtain ⟨closed, ho, hdue⟩ := map_ok.mp h
  obtain ⟨blanks, hb, hrest⟩ := openBracket_ok ho
  cases closed with
  | true =>
    simp only [if_true, Prod.mk.injEq] at hdue hrest
    obtain ⟨rfl, rfl⟩ := hdue
    refine ⟨bracket.opening :: (blanks ++ [bracket.close]), by simp [hrest], fun t ht => ?_⟩
    exact ⟨_, t, .of (LooseText.of_items (.close hb)), ht, rfl⟩
  | false =>
    simp only [Bool.false_eq_true, if_false, Prod.mk.injEq] at hdue hrest
    obtain ⟨rfl, rfl⟩ := hdue
    refine ⟨bracket.opening :: blanks, by simp [hrest], fun t ht => ?_⟩
    obtain ⟨u, more, hu, ⟨body, rest', items, hbody, hclosing, rfl⟩, rfl⟩ := pending_item.mp ht
    have hloose : LooseText (bracket.opening :: ((blanks ++ u) ++ body)) :=
      LooseText.of_items (.first (hu.append hb) hbody)
    exact ⟨_, rest', .of hloose, hclosing, by simp [List.append_assoc]⟩

/-- Blanks in front of a value that is due belong to it. -/
theorem Pending.blanks_append {blanks t : List Char} {stack : List Bracket} (hb : Blanks blanks)
    (h : Pending .value stack t) : Pending .value stack (blanks ++ t) := by
  obtain ⟨u, rest, hu, hclosing, rfl⟩ := h
  exact ⟨blanks ++ u, rest, hu.append hb, hclosing, (List.append_assoc ..).symm⟩

/-- A step from where a value is due takes a value without brackets, or opens a bracket. -/
theorem skipStep_value_ok {due : Due} {stack stack' : List Bracket} {c c' : Cursor}
    (h : skipStep .value stack c = .ok ((due, stack'), c')) :
    ∃ w, c.rest = w ++ c'.rest ∧ ∀ t, Pending due stack' t → Pending .value stack (w ++ t) := by
  rw [skipStep_eq] at h
  obtain ⟨blanks, taken, rest, r, p, hb, hahead, hc, h⟩ := Branches.reader_ok h
  suffices hw : ∃ w, taken ++ rest = w ++ c'.rest ∧
      ∀ t, Pending due stack' t → Pending .value stack (w ++ t) by
    obtain ⟨w, hw, hpending⟩ := hw
    refine ⟨blanks ++ w, by rw [hc, hw, List.append_assoc], fun t ht => ?_⟩
    rw [List.append_assoc]
    exact (hpending t ht).blanks_append hb
  have hscalar : ∀ u, LooseText u → taken ++ rest = u ++ c'.rest → (.rest, stack) = (due, stack') →
      ∃ w, taken ++ rest = w ++ c'.rest ∧
        ∀ t, Pending due stack' t → Pending .value stack (w ++ t) := by
    intro u hu hrest hdue
    obtain ⟨rfl, rfl⟩ := Prod.mk.inj hdue
    exact ⟨u, hrest, fun t ht => ⟨u, t, .of hu, ht, rfl⟩⟩
  cases hahead with
  | word w =>
    obtain ⟨hdue, rfl⟩ := pure_ok.mp h
    exact hscalar _ w.loose rfl hdue
  | number negative =>
    obtain ⟨⟨⟩, hn, hdue⟩ := map_ok.mp h
    obtain ⟨t, ⟨l, rfl⟩, hrest⟩ := takes_skipNumber.sound hn
    refine hscalar _ (.number negative l) ?_ hdue
    rw [List.append_assoc]
    exact congrArg (signText negative ++ ·) hrest
  | string hquote =>
    obtain ⟨⟨⟩, hs, hdue⟩ := map_ok.mp h
    obtain ⟨t, ht, hrest⟩ := skipString_takes hquote hs
    exact hscalar _ (.text ht) hrest hdue
  | bracket bracket hopening =>
    obtain ⟨more, rfl⟩ := List.head?_eq_some_iff.mp hopening
    exact open_pending bracket h

theorem skipStep_key_ok {due : Due} {stack stack' : List Bracket} {c c' : Cursor}
    (h : skipStep .key stack c = .ok ((due, stack'), c')) :
    ∃ w, c.rest = w ++ c'.rest ∧ ∀ t, Pending due stack' t → Pending .key stack (w ++ t) := by
  obtain ⟨blanks, x, rest, p, hb, hc, h⟩ := peekToken?_bind_cons_ok h (.failHere _)
  rcases if_ok.mp h with ⟨rfl, h⟩ | ⟨-, h⟩
  · obtain ⟨⟨⟩, c₂, hs, h⟩ := bind_ok.mp h
    obtain ⟨⟨⟩, hcolon, hdue⟩ := map_ok.mp h
    obtain ⟨rfl, rfl⟩ := Prod.mk.inj hdue
    obtain ⟨k, hk, hrest⟩ := skipString_takes rfl hs
    obtain ⟨blanks', hb', hc₂⟩ := colon_ok hcolon
    refine ⟨blanks ++ (k ++ (blanks' ++ [':'])), ?_, ?_⟩
    · have hafter : '"' :: rest = k ++ (blanks' ++ ':' :: c'.rest) := hc₂ ▸ hrest
      rw [hc, hafter]
      simp only [List.append_assoc, List.cons_append, List.nil_append]
    · rintro t ⟨u, rest, hu, hclosing, rfl⟩
      refine ⟨blanks ++ (k ++ (blanks' ++ ':' :: u)), rest, ?_, hclosing, ?_⟩
      · exact ⟨blanks, _, hb, ⟨(), (), k, blanks', u, hk, hb', hu, rfl⟩, rfl⟩
      · simp only [List.append_assoc, List.cons_append, List.nil_append]
  · exact absurd h (Never.failAhead _ _ _ _)

theorem skipStep_rest_ok {bracket : Bracket} {due : Due} {stack stack' : List Bracket}
    {c c' : Cursor} (h : skipStep .rest (bracket :: stack) c = .ok ((due, stack'), c')) :
    ∃ w, c.rest = w ++ c'.rest ∧
      ∀ t, Pending due stack' t → Pending .rest (bracket :: stack) (w ++ t) := by
  obtain ⟨blanks, x, rest, p, hb, hc, h⟩ := peekToken?_bind_cons_ok h (.failHere _)
  rcases if_ok.mp h with ⟨rfl, h⟩ | ⟨-, h⟩
  · rw [skip_bind] at h
    obtain ⟨hdue, rfl⟩ := pure_ok.mp h
    obtain ⟨rfl, rfl⟩ := Prod.mk.inj hdue
    refine ⟨blanks ++ [','], by simp [hc], fun t ht => ?_⟩
    obtain ⟨u, more, hu, ⟨body, rest', items, hbody, hclosing, rfl⟩, rfl⟩ := pending_item.mp ht
    exact ⟨_, rest', _, .next hb hu hbody, hclosing, by simp [List.append_assoc]⟩
  rcases if_ok.mp h with ⟨rfl, h⟩ | ⟨-, h⟩
  · rw [skip_bind] at h
    obtain ⟨hdue, rfl⟩ := pure_ok.mp h
    obtain ⟨rfl, rfl⟩ := Prod.mk.inj hdue
    refine ⟨blanks ++ [bracket.close], by simp [hc], fun t ht => ?_⟩
    exact ⟨_, t, _, .close hb, ht, rfl⟩
  · exact absurd h (Never.failAhead _ _ _ _)

/-- One step takes a text that turns what is pending behind it into what was pending before. -/
theorem skipStep_ok {due due' : Due} {stack stack' : List Bracket} {c c' : Cursor}
    (h : skipStep due stack c = .ok ((due', stack'), c')) :
    ∃ w, c.rest = w ++ c'.rest ∧ ∀ t, Pending due' stack' t → Pending due stack (w ++ t) := by
  cases due with
  | value => exact skipStep_value_ok h
  | key => exact skipStep_key_ok h
  | rest =>
    cases stack with
    | nil =>
      obtain ⟨hdue, rfl⟩ := pure_ok.mp h
      obtain ⟨rfl, rfl⟩ := Prod.mk.inj hdue
      exact ⟨[], rfl, fun t ht => ht⟩
    | cons bracket stack => exact skipStep_rest_ok h

theorem skipSteps_ok {fuel : Nat} {due : Due} {stack : List Bracket} {c c' : Cursor}
    (h : skipSteps fuel due stack c = .ok ((), c')) :
    ∃ t, Pending due stack t ∧ c.rest = t ++ c'.rest := by
  induction fuel generalizing due stack c with
  | zero =>
    cases due with
    | rest =>
      cases stack with
      | nil =>
        obtain ⟨-, rfl⟩ := pure_ok.mp h
        exact ⟨[], rfl, rfl⟩
      | cons => simp [skipSteps] at h
    | value => simp [skipSteps] at h
    | key => simp [skipSteps] at h
  | succ fuel ih =>
    by_cases hdone : due = .rest ∧ stack = []
    · obtain ⟨rfl, rfl⟩ := hdone
      obtain ⟨-, rfl⟩ := pure_ok.mp h
      exact ⟨[], rfl, rfl⟩
    · rw [skipSteps] at h
      · obtain ⟨⟨due', stack'⟩, c₁, hstep, h⟩ := bind_ok.mp h
        obtain ⟨w, hw, hpending⟩ := skipStep_ok hstep
        obtain ⟨t, ht, hrest⟩ := ih h
        exact ⟨w ++ t, hpending t ht, by rw [hw, hrest, List.append_assoc]⟩
      · intro hdue hstack
        exact hdone ⟨hdue, hstack⟩

/-! ## A value is skipped -/

/-- So many steps lead from one state of skipping to another, no more than characters are taken. -/
def Leads (due : Due) (stack : List Bracket) (text : List Char) (due' : Due)
    (stack' : List Bracket) (rest : List Char) : Prop :=
  ∃ steps, steps + rest.length ≤ text.length ∧ ∀ p, ∃ p', ∀ fuel,
    skipSteps (steps + fuel) due stack ⟨text, p⟩ = skipSteps fuel due' stack' ⟨rest, p'⟩

theorem Leads.trans {due due' due'' : Due} {stack stack' stack'' : List Bracket}
    {text text' text'' : List Char} (h : Leads due stack text due' stack' text')
    (h' : Leads due' stack' text' due'' stack'' text'') :
    Leads due stack text due'' stack'' text'' := by
  obtain ⟨m, hm, h⟩ := h
  obtain ⟨n, hn, h'⟩ := h'
  refine ⟨m + n, by omega, fun p => ?_⟩
  obtain ⟨q, hq⟩ := h p
  obtain ⟨p', hp⟩ := h' q
  exact ⟨p', fun fuel => by rw [Nat.add_assoc, hq, hp]⟩

theorem Leads.step {due due' : Due} {stack stack' : List Bracket} {text rest : List Char}
    (hopen : due ≠ .rest ∨ stack ≠ []) (hlt : rest.length < text.length)
    (h : ∀ p, ∃ p', skipStep due stack ⟨text, p⟩ = .ok ((due', stack'), ⟨rest, p'⟩)) :
    Leads due stack text due' stack' rest := by
  refine ⟨1, by omega, fun p => ?_⟩
  obtain ⟨p', hp⟩ := h p
  refine ⟨p', fun fuel => ?_⟩
  rw [Nat.add_comm 1 fuel, skipSteps]
  · rw [bind_of_ok hp]
  · rintro rfl rfl
    simp at hopen

/-- An item in a bracket is skipped whatever is open around it. -/
def Skipped (bracket : Bracket) (t : List Char) : Prop :=
  ∀ ⦃blanks rest : List Char⦄ (stack : List Bracket), Blanks blanks → Ends rest →
    Leads bracket.item stack (blanks ++ (t ++ rest)) .rest stack rest

theorem Bracket.close_ends (bracket : Bracket) : Ends [bracket.close] := by
  cases bracket <;> (simp [Ends, Bracket.close]; try decide)

theorem Bracket.close_not_blank (bracket : Bracket) (rest : List Char) :
    ∀ x ∈ (bracket.close :: rest).head?, isSpace x = false := by
  cases bracket <;> (simp [Bracket.close]; try decide)

theorem leads_close (bracket : Bracket) (stack : List Bracket) {blanks : List Char}
    (hb : Blanks blanks) (rest : List Char) :
    Leads .rest (bracket :: stack) (blanks ++ bracket.close :: rest) .rest stack rest := by
  refine .step (by simp) (by simp; omega) fun p => ?_
  have hcomma : ¬ bracket.close = ',' := by cases bracket <;> decide
  rw [skipStep, peekToken?_bind hb (bracket.close_not_blank rest)]
  simp only [List.head?_cons, if_neg hcomma, if_true, skip_bind]
  exact ⟨_, rfl⟩

theorem leads_comma (bracket : Bracket) (stack : List Bracket) {blanks : List Char}
    (hb : Blanks blanks) (rest : List Char) :
    Leads .rest (bracket :: stack) (blanks ++ ',' :: rest) bracket.item (bracket :: stack)
      rest := by
  refine .step (by simp) (by simp; omega) fun p => ?_
  rw [skipStep, peekToken?_bind hb (by simp; decide)]
  exact ⟨_, rfl⟩

/-- The items behind the first are skipped one by one, each behind its comma. -/
theorem leads_items {bracket : Bracket} {body rest : List Char} {items : List Unit}
    (h : Items (fun t _ => Skipped bracket t) bracket.close false body items)
    (stack : List Bracket) :
    Leads .rest (bracket :: stack) (body ++ rest) .rest stack rest := by
  generalize hfirst : false = first at h
  induction h with
  | close hb =>
    rw [List.append_assoc]
    exact leads_close bracket stack hb rest
  | first ht h ih => cases hfirst
  | next hb ht h ih =>
    next blanks t body a more =>
    have hends : Ends (body ++ rest) := h.ends bracket.close_ends rest
    obtain ⟨blanks', u, hb', hu, rfl⟩ := ht
    have hcomma := leads_comma bracket stack hb (blanks' ++ (u ++ (body ++ rest)))
    have hitem := hu (bracket :: stack) hb' hends
    simp only [List.append_assoc, List.cons_append]
    exact (hcomma.trans hitem).trans (ih rfl)

/-- A text that starts with neither a blank nor the end of the bracket. -/
def Starts (bracket : Bracket) (t : List Char) : Prop :=
  ∃ x more, t = x :: more ∧ isSpace x = false ∧ x ≠ bracket.close

theorem openBracket_closed (bracket : Bracket) {blanks : List Char} (hb : Blanks blanks)
    (rest : List Char) (p : Position) :
    ∃ p', openBracket bracket ⟨bracket.opening :: (blanks ++ bracket.close :: rest), p⟩ =
      .ok (true, ⟨rest, p'⟩) := by
  rw [openBracket, skip_bind, peekToken?_bind hb (bracket.close_not_blank rest)]
  simp only [List.head?_cons, if_true, skip_bind]
  exact ⟨_, rfl⟩

theorem openBracket_open {bracket : Bracket} {blanks t : List Char} (hb : Blanks blanks)
    (ht : Starts bracket t) (p : Position) :
    ∃ p', openBracket bracket ⟨bracket.opening :: (blanks ++ t), p⟩ =
      .ok (false, ⟨t, p'⟩) := by
  obtain ⟨x, more, rfl, hx, hclose⟩ := ht
  rw [openBracket, skip_bind, peekToken?_bind hb (by simpa using hx)]
  simp only [List.head?_cons, if_neg hclose]
  exact ⟨_, rfl⟩

/-- What a step does at a bracket, by whether it is closed at once. -/
theorem skipStep_opening (bracket : Bracket) (stack : List Bracket) {blanks rest rest' : List Char}
    {closed : Bool} (hb : Blanks blanks)
    (h : ∀ p, ∃ p', openBracket bracket ⟨bracket.opening :: rest, p⟩ = .ok (closed, ⟨rest', p'⟩))
    (p : Position) :
    ∃ p', skipStep .value stack ⟨blanks ++ bracket.opening :: rest, p⟩ =
      .ok (if closed then (.rest, stack) else (bracket.item, bracket :: stack), ⟨rest', p'⟩) := by
  have hahead : (skipBranches stack).Ahead [] (bracket.opening :: rest) _ := .bracket bracket rfl
  obtain ⟨q, hq⟩ := Branches.reader_append hb hahead p
  obtain ⟨p', hp⟩ := h q
  rw [List.nil_append] at hq
  rw [skipStep_eq, hq]
  exact ⟨p', map_ok.mpr ⟨closed, hp, rfl⟩⟩

/-- A bracket is skipped if its items are. -/
theorem leads_bracket (bracket : Bracket) {body rest blanks : List Char} {items : List Unit}
    (h : Items (fun t _ => Skipped bracket t ∧ Starts bracket t) bracket.close true body items)
    (hb : Blanks blanks) (stack : List Bracket) :
    Leads .value stack (blanks ++ (bracket.opening :: body ++ rest)) .rest stack rest := by
  cases h with
  | close hb' =>
    refine .step (by simp) (by simp; omega) fun p => ?_
    simp only [List.cons_append, List.append_assoc, List.nil_append]
    exact skipStep_opening bracket stack hb (openBracket_closed bracket hb' rest) p
  | first ht h =>
    next t body a more =>
    obtain ⟨blanks', u, hb', ⟨hu, hstarts⟩, rfl⟩ := ht
    have hbody := h.imp fun t _ ht => ht.1
    have hends : Ends (body ++ rest) := hbody.ends bracket.close_ends rest
    have hstarts' : Starts bracket (u ++ (body ++ rest)) := by
      obtain ⟨x, more, rfl, hx⟩ := hstarts
      exact ⟨x, _, rfl, hx⟩
    have hopen : Leads .value stack
        (blanks ++ (bracket.opening :: ((blanks' ++ u) ++ body) ++ rest))
        bracket.item (bracket :: stack) (u ++ (body ++ rest)) := by
      refine .step (by simp) (by simp; omega) fun p => ?_
      simp only [List.cons_append, List.append_assoc]
      exact skipStep_opening bracket stack hb (openBracket_open hb' hstarts') p
    have hitem := hu (bracket :: stack) Blanks.nil hends
    exact (hopen.trans hitem).trans (leads_items hbody stack)

/-- A member is skipped by its key, which takes one step, and then its value. -/
theorem skipped_member {k between before w : List Char} (hkey : LooseString k)
    (hbetween : Blanks between) (hbefore : Blanks before) (hvalue : Skipped .array w) :
    Skipped .object (k ++ (between ++ ':' :: (before ++ w))) := by
  intro blanks rest stack hb hr
  have hmember : Leads .key stack (blanks ++ (k ++ (between ++ ':' :: (before ++ w)) ++ rest))
      .value stack (before ++ (w ++ rest)) := by
    refine .step (by simp) (by simp; omega) fun p => ?_
    obtain ⟨q, hq⟩ := skipString_append hkey
      (between ++ ':' :: (before ++ (w ++ rest))) (blanks.foldl Position.after p)
    obtain ⟨p', hp⟩ := colon_append hbetween (before ++ (w ++ rest)) q
    obtain ⟨kbody, -, rfl⟩ := hkey
    simp only [List.append_assoc, List.cons_append] at hq ⊢
    rw [skipStep, peekToken?_bind hb (by simp; decide)]
    simp only [List.head?_cons, if_true]
    rw [bind_of_ok hq, bind_of_ok hp]
    exact ⟨p', rfl⟩
  exact hmember.trans (hvalue stack hbefore hr)

/-- A value that a single step takes is skipped. -/
theorem skipped_of_step {u : List Char} (hu : Opens u)
    (h : ∀ ⦃blanks rest : List Char⦄ (stack : List Bracket), Blanks blanks → Ends rest → ∀ p,
      ∃ p', (skipBranches stack).reader ⟨blanks ++ (u ++ rest), p⟩ =
        .ok ((.rest, stack), ⟨rest, p'⟩)) :
    Skipped .array u := by
  intro blanks rest stack hb hr
  refine .step (.inl (by decide)) ?_ (h stack hb hr)
  obtain ⟨x, more, rfl, -⟩ := hu
  simp only [List.length_append, List.length_cons]
  omega

theorem skipped_word (w : Word) : Skipped .array w.letters := by
  refine skipped_of_step w.loose.opens fun blanks rest stack hb hr p => ?_
  exact Branches.reader_append hb (.word w rest) p

theorem skipped_number (negative : Bool) (l : Literal) :
    Skipped .array (signText negative ++ l.text) := by
  refine skipped_of_step (l.opens negative) fun blanks rest stack hb hr p => ?_
  obtain ⟨q, hq⟩ := Branches.reader_append (b := skipBranches stack) hb
    (.number negative fun _ => l.head rest) p
  obtain ⟨p', hp⟩ := takes_skipNumber.complete (a := ()) ⟨l, rfl⟩ hr q
  rw [List.append_assoc, hq]
  exact ⟨p', bind_of_ok hp⟩

theorem skipped_string {u : List Char} (hu : LooseString u) : Skipped .array u := by
  refine skipped_of_step (LooseText.text hu).opens fun blanks rest stack hb hr p => ?_
  obtain ⟨q, hq⟩ := Branches.reader_append (b := skipBranches stack) hb
    (.string (hu.head rest)) p
  obtain ⟨p', hp⟩ := skipString_append hu rest q
  rw [List.nil_append] at hq
  rw [hq]
  exact ⟨p', bind_of_ok hp⟩

theorem skipped_array {t : List Char} {items : List (List Char)} (ht : ArrayText Eq t items)
    (h : ∀ item ∈ items, LooseText item ∧ Skipped .array item) : Skipped .array t := by
  obtain ⟨body, hbody, rfl⟩ := ht
  obtain ⟨units, hunits, -⟩ := hbody.choose (P := fun _ : Unit => True)
    (T := fun t _ => Skipped .array t ∧ Starts .array t) (by
      rintro item hmem t rfl
      obtain ⟨hloose, hskipped⟩ := h t hmem
      exact ⟨(), ⟨hskipped, hloose.opens⟩, trivial⟩)
  exact fun blanks rest stack hb hr => leads_bracket .array hunits hb stack

theorem skipped_object {t : List Char} {members : List (List Char × List Char)}
    (ht : ObjectText Eq Eq t members)
    (h : ∀ m ∈ members, LooseString m.1 ∧ Skipped .array m.2) : Skipped .array t := by
  obtain ⟨body, hbody, rfl⟩ := ht
  obtain ⟨units, hunits, -⟩ := hbody.choose (P := fun _ : Unit => True)
    (T := fun t _ => Skipped .object t ∧ Starts .object t) (by
      rintro ⟨key, u⟩ hmem t ⟨k, blanks, v, rfl, hb, ⟨blanks', w, hb', rfl, rfl⟩, rfl⟩
      obtain ⟨hkey, hvalue⟩ : LooseString k ∧ Skipped .array w := h _ hmem
      refine ⟨(), ⟨skipped_member hkey hb hb' hvalue, ?_⟩, trivial⟩
      obtain ⟨kbody, -, rfl⟩ := hkey
      exact ⟨_, _, rfl, by decide, by decide⟩)
  exact fun blanks rest stack hb hr => leads_bracket .object hunits hb stack

/-- Every value is skipped. -/
theorem LooseText.skipped {u : List Char} (h : LooseText u) : Skipped .array u := by
  induction h with
  | null => exact skipped_word .null
  | yes => exact skipped_word .yes
  | no => exact skipped_word .no
  | number negative l => exact skipped_number negative l
  | text h => exact skipped_string h
  | array ht h ih => exact skipped_array ht fun item hmem => ⟨h item hmem, ih item hmem⟩
  | object ht hk h ih => exact skipped_object ht fun m hmem => ⟨hk m hmem, ih m hmem⟩

theorem takes_skipValue : Takes skipValue (Padded fun t _ => LooseText t) where
  sound h := by
    obtain ⟨t, ⟨u, rest, hu, hclosing, rfl⟩, hc⟩ := skipSteps_ok h
    obtain rfl : rest = [] := hclosing
    exact ⟨u, hu, by rw [hc, List.append_nil]⟩
  complete := by
    rintro t rest - ⟨blanks, u, hb, hu, rfl⟩ hr p
    obtain ⟨steps, hsteps, hlead⟩ := LooseText.skipped hu [] hb hr
    obtain ⟨p', hp⟩ := hlead p
    refine ⟨p', ?_⟩
    have hfuel : (blanks ++ (u ++ rest)).length + 1 =
        steps + ((blanks ++ (u ++ rest)).length + 1 - steps) := by omega
    rw [List.append_assoc, skipValue, remaining_bind, hfuel]
    exact (hp _).trans (by rw [skipSteps]; rfl)

end Reader

end RevisionControl.Json
