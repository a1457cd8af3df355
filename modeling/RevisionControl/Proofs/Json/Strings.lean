import RevisionControl.Proofs.Json.Readers

/-!
# Strings are read by their grammar

`string` takes the texts of strings and gives their characters; `skipString` takes those that may
name halves of surrogate pairs too. Inside a string anything may follow a character, so the parts
of a string are described with an arbitrary rest, and `Takes` appears only for the whole.
-/

namespace RevisionControl.Json.Reader

variable {β : Type}

/-! ## Escapes -/

theorem unit_append {w x y z : Char} {n : Nat} (hn : hexUnit? w x y z = some n)
    (rest : List Char) (p : Position) :
    ∃ p', unit ⟨w :: x :: y :: z :: rest, p⟩ = .ok (n, ⟨rest, p'⟩) := by
  simp only [unit, hn, Cursor.move]
  exact ⟨_, rfl⟩

theorem unit_ok {n : Nat} {c c' : Cursor} (h : unit c = .ok (n, c')) :
    ∃ w x y z, hexUnit? w x y z = some n ∧ c.rest = w :: x :: y :: z :: c'.rest := by
  obtain ⟨text, p⟩ := c
  simp only [unit] at h
  split at h
  · next w x y z rest =>
    split at h
    · next m hm =>
      simp only [Cursor.move, Except.ok.injEq, Prod.mk.injEq] at h
      obtain ⟨rfl, rfl⟩ := h
      exact ⟨w, x, y, z, hm, rfl⟩
    · cases h
  · split at h <;> cases h

theorem due_cons (x : Char) (rest : List Char) (p : Position) :
    due x ⟨x :: rest, p⟩ = .ok ((), ⟨rest, p.after x⟩) := by
  rw [due, peek?_bind]
  simp only [List.head?_cons, if_true, skip_cons]

theorem due_ok {x : Char} {c c' : Cursor} (h : due x c = .ok ((), c')) :
    c.rest = x :: c'.rest := by
  obtain ⟨text, p⟩ := c
  rw [due, peek?_bind] at h
  cases text with
  | nil => simp at h
  | cons y rest =>
    simp only [List.head?_cons] at h
    split at h
    · next hyx =>
      rw [skip_cons] at h
      cases h
      rw [hyx]
    · simp at h

theorem isLowSurrogate_of_high {n : Nat} (h : isHighSurrogate n = true) :
    isLowSurrogate n = false := by
  simp only [isHighSurrogate, isLowSurrogate, Bool.and_eq_true, decide_eq_true_eq,
    Bool.and_eq_false_iff, decide_eq_false_iff_not] at *
  omega

/-- An escape by number is taken behind its letter, both halves of a surrogate pair at once. -/
theorem numberEscape_append {t : List Char} {c : Char} (h : EscapeText ('u' :: t) c)
    (rest : List Char) (p : Position) :
    ∃ p', numberEscape ⟨t ++ rest, p⟩ = .ok (c, ⟨rest, p'⟩) := by
  cases h with
  | letter h => simp [letterEscape?] at h
  | unit hn hlow hhigh =>
    obtain ⟨q, hq⟩ := unit_append hn rest p
    simp only [List.cons_append, List.nil_append]
    rw [numberEscape, bind_of_ok hq]
    simp only [hlow, hhigh, Bool.false_eq_true, if_false]
    exact ⟨q, rfl⟩
  | pair hn hm hhigh hlow =>
    next w x y z w' x' y' z' n m =>
    obtain ⟨q, hq⟩ := unit_append hn ('\\' :: 'u' :: w' :: x' :: y' :: z' :: rest) p
    obtain ⟨q', hq'⟩ := unit_append hm rest ((q.after '\\').after 'u')
    simp only [List.cons_append, List.nil_append]
    rw [numberEscape, bind_of_ok hq]
    simp only [isLowSurrogate_of_high hhigh, hhigh, Bool.false_eq_true, if_false, if_true]
    rw [bind_of_ok (due_cons ..), bind_of_ok (due_cons ..), bind_of_ok hq']
    simp only [hlow, if_true]
    exact ⟨q', rfl⟩

theorem escape_append {t : List Char} {c : Char} (h : EscapeText t c) (rest : List Char)
    (p : Position) : ∃ p', escape ⟨t ++ rest, p⟩ = .ok (c, ⟨rest, p'⟩) := by
  have hnumber : ∀ {u}, EscapeText ('u' :: u) c →
      ∃ p', escape ⟨'u' :: u ++ rest, p⟩ = .ok (c, ⟨rest, p'⟩) := by
    intro u hu
    rw [escape, peek?_bind, List.cons_append]
    exact numberEscape_append hu rest (p.after 'u')
  cases h with
  | letter h =>
    next d =>
    have hu : d ≠ 'u' := by
      rintro rfl
      simp [letterEscape?] at h
    rw [escape, peek?_bind]
    simp only [List.cons_append, List.nil_append, List.head?_cons, if_neg hu, h, skip_bind]
    exact ⟨_, rfl⟩
  | unit hn hlow hhigh => exact hnumber (.unit hn hlow hhigh)
  | pair hn hm hhigh hlow => exact hnumber (.pair hn hm hhigh hlow)

/-- Only an escape by number is taken behind its letter. -/
theorem numberEscape_ok {d : Char} {c c' : Cursor} (h : numberEscape c = .ok (d, c')) :
    ∃ t, EscapeText ('u' :: t) d ∧ c.rest = t ++ c'.rest := by
  obtain ⟨n, c₁, hn, h⟩ := bind_ok.mp h
  obtain ⟨w, x, y, z, hunit, hc⟩ := unit_ok hn
  split at h
  · simp at h
  next hlow =>
  split at h
  · next hhigh =>
    obtain ⟨⟨⟩, c₂, hslash, h⟩ := bind_ok.mp h
    obtain ⟨⟨⟩, c₃, hletter, h⟩ := bind_ok.mp h
    obtain ⟨m, c₄, hm, h⟩ := bind_ok.mp h
    obtain ⟨w', x', y', z', hunit', hc₃⟩ := unit_ok hm
    split at h
    · next hpair =>
      obtain ⟨rfl, rfl⟩ := pure_ok.mp h
      refine ⟨_, .pair hunit hunit' hhigh hpair, ?_⟩
      rw [hc, due_ok hslash, due_ok hletter, hc₃]
      rfl
    · simp at h
  · next hhigh =>
    obtain ⟨rfl, rfl⟩ := pure_ok.mp h
    exact ⟨_, .unit hunit (by simpa using hlow) (by simpa using hhigh), hc⟩

/-- Only an escape is taken behind a backslash. -/
theorem escape_ok {d : Char} {c c' : Cursor} (h : escape c = .ok (d, c')) :
    ∃ t, EscapeText t d ∧ c.rest = t ++ c'.rest := by
  obtain ⟨text, p⟩ := c
  rw [escape, peek?_bind] at h
  cases text with
  | nil => simp at h
  | cons x rest =>
    simp only [List.head?_cons] at h
    split at h
    · next hu =>
      rw [skip_bind] at h
      obtain ⟨t, ht, hrest⟩ := numberEscape_ok h
      simp only at hrest
      exact ⟨'u' :: t, ht, by rw [hu, hrest]; rfl⟩
    · cases hletter : letterEscape? x with
      | none => simp [hletter] at h
      | some meant =>
        simp only [hletter, skip_bind] at h
        obtain ⟨rfl, rfl⟩ := pure_ok.mp h
        exact ⟨[x], .letter hletter, rfl⟩

/-- Takes an escape where no character is asked for and goes on. -/
def skipEscape (k : Reader β) : Reader β := do
  match ← peek? with
  | none => failHere .endInString
  | some d =>
    if d = 'u' then do
      skip
      let _ ← unit
      k
    else if (letterEscape? d).isSome then do
      skip
      k
    else failAhead .invalidEscape

/-- An escape is skipped whatever halves of surrogate pairs it names. -/
theorem skipEscape_append {t : List Char} (h : LooseEscape t) (k : Reader β) (rest : List Char)
    (p : Position) : ∃ p', skipEscape k ⟨t ++ rest, p⟩ = k ⟨rest, p'⟩ := by
  cases h with
  | letter hletter =>
    next d =>
    have hu : ¬ d = 'u' := by
      rintro rfl
      exact absurd hletter (by decide)
    rw [skipEscape, peek?_bind]
    simp only [List.cons_append, List.nil_append, List.head?_cons, if_neg hu, hletter, if_true,
      skip_bind]
    exact ⟨_, rfl⟩
  | unit hunit =>
    obtain ⟨n, hn⟩ := Option.isSome_iff_exists.mp hunit
    obtain ⟨q, hq⟩ := unit_append hn rest (p.after 'u')
    rw [skipEscape, peek?_bind]
    simp only [List.cons_append, List.nil_append, List.head?_cons, if_true, skip_bind,
      bind_of_ok hq]
    exact ⟨q, rfl⟩

/-- Only an escape is skipped behind a backslash. -/
theorem skipEscape_ok {k : Reader β} {b : β} {c c' : Cursor} (h : skipEscape k c = .ok (b, c')) :
    ∃ t c₁, LooseEscape t ∧ c.rest = t ++ c₁.rest ∧ k c₁ = .ok (b, c') := by
  obtain ⟨text, p⟩ := c
  rw [skipEscape, peek?_bind] at h
  cases text with
  | nil => simp at h
  | cons d rest =>
    simp only [List.head?_cons] at h
    rcases if_ok.mp h with ⟨rfl, h⟩ | ⟨-, h⟩
    · rw [skip_bind] at h
      obtain ⟨n, c₁, hn, h⟩ := bind_ok.mp h
      obtain ⟨w, x, y, z, hunit, hrest⟩ := unit_ok hn
      exact ⟨_, c₁, .unit (by rw [hunit]; rfl), congrArg ('u' :: ·) hrest, h⟩
    rcases if_ok.mp h with ⟨hletter, h⟩ | ⟨-, h⟩
    · rw [skip_bind] at h
      exact ⟨[d], ⟨rest, p.after d⟩, .letter hletter, rfl, h⟩
    · exact absurd h (Never.failAhead _ _ _ _)

/-! ## The next character of a string -/

/-- Goes on by the next character of a string. A quote and a control character are ahead then; a
backslash and a character that stands for itself have been taken. -/
def inBody (quote escaped control : Reader β) (plain : Char → Reader β) : Reader β := do
  match ← peek? with
  | none => failHere .endInString
  | some c =>
    if c = '"' then quote
    else if c = '\\' then do skip; escaped
    else if c.toNat < 0x20 then control
    else do skip; plain c

section InBody

variable {quote escaped control : Reader β} {plain : Char → Reader β}

theorem inBody_backslash (rest : List Char) (p : Position) :
    inBody quote escaped control plain ⟨'\\' :: rest, p⟩ = escaped ⟨rest, p.after '\\'⟩ := rfl

theorem inBody_plain {x : Char} (hx : Plain x) (rest : List Char) (p : Position) :
    inBody quote escaped control plain ⟨x :: rest, p⟩ = plain x ⟨rest, p.after x⟩ := by
  obtain ⟨hquote, hslash, hcontrol⟩ := hx
  rw [inBody, peek?_bind]
  simp only [List.head?_cons, if_neg hquote, if_neg hslash, if_neg hcontrol, skip_bind]

/-- A reader of strings that fails at control characters has gone on at a quote, behind a backslash
or behind a character that stands for itself. -/
theorem inBody_ok (hcontrol : Never control) {b : β} {c c' : Cursor}
    (h : inBody quote escaped control plain c = .ok (b, c')) :
    (∃ rest p, c.rest = '"' :: rest ∧ quote ⟨'"' :: rest, p⟩ = .ok (b, c')) ∨
      (∃ rest p, c.rest = '\\' :: rest ∧ escaped ⟨rest, p⟩ = .ok (b, c')) ∨
      ∃ x rest p, Plain x ∧ c.rest = x :: rest ∧ plain x ⟨rest, p⟩ = .ok (b, c') := by
  obtain ⟨text, p⟩ := c
  rw [inBody, peek?_bind] at h
  cases text with
  | nil => simp at h
  | cons x rest =>
    simp only [List.head?_cons] at h
    rcases if_ok.mp h with ⟨rfl, h⟩ | ⟨hquote, h⟩
    · exact .inl ⟨rest, p, rfl, h⟩
    rcases if_ok.mp h with ⟨rfl, h⟩ | ⟨hslash, h⟩
    · exact .inr (.inl ⟨rest, _, rfl, h⟩)
    rcases if_ok.mp h with ⟨-, h⟩ | ⟨hplain, h⟩
    · exact absurd h (hcontrol _ _ _)
    · exact .inr (.inr ⟨x, rest, _, ⟨hquote, hslash, hplain⟩, rfl, h⟩)

end InBody

/-! ## Whole strings -/

theorem stringTail_succ (fuel : Nat) :
    stringTail (fuel + 1) =
      inBody (do skip; return []) (do return (← escape) :: (← stringTail fuel))
        (do skip; failHere .controlCharacter) fun c => do return c :: (← stringTail fuel) := rfl

/-- The rest of a string is taken with at least as much fuel as it has characters. -/
theorem stringTail_append {t s : List Char} (h : StringBody t s) (rest : List Char) :
    ∀ spare p, ∃ p', stringTail (spare + t.length) ⟨t ++ rest, p⟩ = .ok (s, ⟨rest, p'⟩) := by
  induction h with
  | close => exact fun spare p => ⟨_, rfl⟩
  | plain hc h ih =>
    next c text s =>
    intro spare p
    obtain ⟨p', hp⟩ := ih spare (p.after c)
    rw [List.length_cons, ← Nat.add_assoc, stringTail_succ, List.cons_append, inBody_plain hc]
    exact ⟨p', map_ok.mpr ⟨s, hp, rfl⟩⟩
  | escape hc h ih =>
    next u text s c =>
    intro spare p
    have hfuel : spare + ('\\' :: (u ++ text)).length = spare + u.length + text.length + 1 := by
      simp only [List.length_cons, List.length_append]
      omega
    obtain ⟨q, hq⟩ := escape_append hc (text ++ rest) (p.after '\\')
    obtain ⟨p', hp⟩ := ih (spare + u.length) q
    rw [hfuel, stringTail_succ, List.cons_append, List.append_assoc, inBody_backslash,
      bind_of_ok hq]
    exact ⟨p', map_ok.mpr ⟨s, hp, rfl⟩⟩

/-- Only the rest of a string is taken. -/
theorem stringTail_ok {fuel : Nat} {s : List Char} {c c' : Cursor}
    (h : stringTail fuel c = .ok (s, c')) : ∃ t, StringBody t s ∧ c.rest = t ++ c'.rest := by
  induction fuel generalizing s c with
  | zero => simp [stringTail] at h
  | succ fuel ih =>
    rw [stringTail_succ] at h
    rcases inBody_ok (.bind fun _ => .failHere _) h with
      ⟨rest, p, hc, h⟩ | ⟨rest, p, hc, h⟩ | ⟨x, rest, p, hx, hc, h⟩
    · rw [skip_bind] at h
      obtain ⟨rfl, rfl⟩ := pure_ok.mp h
      exact ⟨['"'], .close, hc⟩
    · obtain ⟨d, c₁, hd, h⟩ := bind_ok.mp h
      obtain ⟨more, hmore, rfl⟩ := map_ok.mp h
      obtain ⟨u, hu, hrest⟩ := escape_ok hd
      obtain ⟨t, ht, hc₁⟩ := ih hmore
      refine ⟨'\\' :: (u ++ t), .escape hu ht, ?_⟩
      simp only at hrest
      rw [hc, hrest, hc₁, List.cons_append, List.append_assoc]
    · obtain ⟨more, hmore, rfl⟩ := map_ok.mp h
      obtain ⟨t, ht, hrest⟩ := ih hmore
      exact ⟨x :: t, .plain hx ht, by rw [hc]; exact congrArg (x :: ·) hrest⟩

/-- What a reader does behind an opening quote that it does not look at. -/
theorem string_takes {c c' : Cursor} {s : String} (hc : c.rest.head? = some '"')
    (h : string c = .ok (s, c')) : ∃ t, StringText t s ∧ c.rest = t ++ c'.rest := by
  obtain ⟨text, p⟩ := c
  cases text with
  | nil => cases hc
  | cons x rest =>
    obtain rfl : x = '"' := Option.some.inj hc
    rw [string, skip_bind, remaining_bind] at h
    obtain ⟨s, hs, rfl⟩ := map_ok.mp h
    obtain ⟨t, ht, hrest⟩ := stringTail_ok hs
    refine ⟨'"' :: t, ⟨t, by simpa using ht, rfl⟩, ?_⟩
    simpa using hrest

theorem string_append {t : List Char} {s : String} (h : StringText t s) (rest : List Char)
    (p : Position) :
    ∃ p', string ⟨t ++ rest, p⟩ = .ok (s, ⟨rest, p'⟩) := by
  obtain ⟨body, hbody, rfl⟩ := h
  have hfuel : (body ++ rest).length + 1 = rest.length + 1 + body.length := by
    simp only [List.length_append]
    omega
  obtain ⟨p', hp⟩ := stringTail_append hbody rest (rest.length + 1) (p.after '"')
  rw [List.cons_append, string, skip_bind, remaining_bind, hfuel]
  exact ⟨p', map_ok.mpr ⟨_, hp, String.ofList_toList⟩⟩

/-! ## Skipped strings -/

theorem skipStringTail_succ (fuel : Nat) :
    skipStringTail (fuel + 1) =
      inBody skip (skipEscape (skipStringTail fuel)) (failHere .controlCharacter)
        fun _ => skipStringTail fuel := rfl

/-- The rest of a string is skipped with at least as much fuel as it has characters. -/
theorem skipStringTail_append {t : List Char} (h : LooseBody t) (rest : List Char) :
    ∀ spare p, ∃ p', skipStringTail (spare + t.length) ⟨t ++ rest, p⟩ = .ok ((), ⟨rest, p'⟩) := by
  induction h with
  | close => exact fun spare p => ⟨_, rfl⟩
  | plain hc h ih =>
    next c text =>
    intro spare p
    obtain ⟨p', hp⟩ := ih spare (p.after c)
    rw [List.length_cons, ← Nat.add_assoc, skipStringTail_succ, List.cons_append, inBody_plain hc]
    exact ⟨p', hp⟩
  | escape ht h ih =>
    next u text =>
    intro spare p
    have hfuel : spare + ('\\' :: (u ++ text)).length = spare + u.length + text.length + 1 := by
      simp only [List.length_cons, List.length_append]
      omega
    obtain ⟨q, hq⟩ := skipEscape_append ht (skipStringTail (spare + u.length + text.length))
      (text ++ rest) (p.after '\\')
    obtain ⟨p', hp⟩ := ih (spare + u.length) q
    rw [hfuel, skipStringTail_succ, List.cons_append, List.append_assoc, inBody_backslash, hq]
    exact ⟨p', hp⟩

/-- Only the rest of a string is skipped. -/
theorem skipStringTail_ok {fuel : Nat} {c c' : Cursor}
    (h : skipStringTail fuel c = .ok ((), c')) : ∃ t, LooseBody t ∧ c.rest = t ++ c'.rest := by
  induction fuel generalizing c with
  | zero => simp [skipStringTail] at h
  | succ fuel ih =>
    rw [skipStringTail_succ] at h
    rcases inBody_ok (.failHere _) h with
      ⟨rest, p, hc, h⟩ | ⟨rest, p, hc, h⟩ | ⟨x, rest, p, hx, hc, h⟩
    · rw [skip_cons] at h
      cases h
      exact ⟨['"'], .close, hc⟩
    · obtain ⟨u, c₁, hu, hrest, h⟩ := skipEscape_ok h
      obtain ⟨t, ht, hc₁⟩ := ih h
      refine ⟨'\\' :: (u ++ t), .escape hu ht, ?_⟩
      simp only at hrest
      rw [hc, hrest, hc₁, List.cons_append, List.append_assoc]
    · obtain ⟨t, ht, hrest⟩ := ih h
      exact ⟨x :: t, .plain hx ht, by rw [hc]; exact congrArg (x :: ·) hrest⟩

/-- Only a string is skipped behind an opening quote. -/
theorem skipString_takes {c c' : Cursor} (hc : c.rest.head? = some '"')
    (h : skipString c = .ok ((), c')) : ∃ t, LooseString t ∧ c.rest = t ++ c'.rest := by
  obtain ⟨text, p⟩ := c
  cases text with
  | nil => cases hc
  | cons x rest =>
    obtain rfl : x = '"' := Option.some.inj hc
    rw [skipString, skip_bind, remaining_bind] at h
    obtain ⟨t, ht, hrest⟩ := skipStringTail_ok h
    exact ⟨'"' :: t, ⟨t, ht, rfl⟩, by simpa using hrest⟩

theorem skipString_append {t : List Char} (h : LooseString t) (rest : List Char)
    (p : Position) :
    ∃ p', skipString ⟨t ++ rest, p⟩ = .ok ((), ⟨rest, p'⟩) := by
  obtain ⟨body, hbody, rfl⟩ := h
  have hfuel : (body ++ rest).length + 1 = rest.length + 1 + body.length := by
    simp only [List.length_append]
    omega
  rw [List.cons_append, skipString, skip_bind, remaining_bind, hfuel]
  exact skipStringTail_append hbody rest (rest.length + 1) (p.after '"')

end RevisionControl.Json.Reader
