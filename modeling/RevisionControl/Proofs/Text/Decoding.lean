import RevisionControl.Proofs.Text.Utf8

/-!
# Proofs: decoding UTF-8

Where no character starts, the bytes may be a character that is broken off (`BrokenOff`), or else
some of them are beyond mending: the longest part that a character could have started with, or a
single byte if there is none (`InvalidPart`). Both decoders tell these parts alike. The strict one
tells where the first of them is (`Decodes`); the lossy one writes one replacement character for
each and goes on behind it (`Replaced`).
-/

namespace RevisionControl.Text.Utf8

variable {bytes read part later rest : List UInt8} {byte : UInt8} {c d : Char}
  {cs ds : List Char} {p : Partial}

/-! ## Parts that are no characters -/

/-- Some of the bytes of a character, from the first one on, and not all. -/
def BrokenOff (part : List UInt8) : Prop :=
  part ≠ [] ∧ ∃ c more, more ≠ [] ∧ part ++ more = String.utf8EncodeChar c

/-- No character starts a byte sequence. -/
def NoneStarts (bytes : List UInt8) : Prop :=
  ∀ c, ¬ String.utf8EncodeChar c <+: bytes

/-- The part of a byte sequence that is beyond mending, with what comes later. -/
structure InvalidPart (part later : List UInt8) : Prop where
  none_starts : NoneStarts (part ++ later)
  /-- A character could have started so, unless it is about a single byte. -/
  brokenOff_or : BrokenOff part ∨ part.length = 1
  /-- No more of the bytes could have started a character. -/
  longest : ∀ longer, longer <+: part ++ later → BrokenOff longer → longer.length ≤ part.length

theorem BrokenOff.noneStarts (h : BrokenOff rest) : NoneStarts rest := by
  obtain ⟨-, d, more, hmore, hd⟩ := h
  intro c hc
  have hrest : rest <+: String.utf8EncodeChar d := ⟨more, hd⟩
  obtain rfl : c = d := eq_of_starts (hc.trans hrest) (List.prefix_refl _)
  have hlength := congrArg List.length hd
  rw [List.length_append] at hlength
  have hle := hc.length_le
  have hpos := List.length_pos_of_ne_nil hmore
  omega

theorem BrokenOff.length_le (h : BrokenOff part) : part.length ≤ 3 := by
  obtain ⟨-, c, more, hmore, hc⟩ := h
  have hlength := congrArg List.length hc
  have hpos := List.length_pos_of_ne_nil hmore
  rw [List.length_append, length_eq_width] at hlength
  have hcases := lead_cases c.toNat
  omega

theorem InvalidPart.length_pos (h : InvalidPart part later) : 1 ≤ part.length := by
  rcases h.brokenOff_or with hbroken | hone
  · exact List.length_pos_of_ne_nil hbroken.1
  · exact Nat.le_of_eq hone.symm

theorem InvalidPart.length_le (h : InvalidPart part later) : part.length ≤ 3 := by
  rcases h.brokenOff_or with hbroken | hone
  · exact hbroken.length_le
  · omega

/-- The part is told by the bytes alone. -/
theorem InvalidPart.unique {part' later' : List UInt8} (h : InvalidPart part later)
    (h' : InvalidPart part' later') (heq : part ++ later = part' ++ later') :
    part = part' ∧ later = later' := by
  have hle : part.length ≤ part'.length := by
    rcases h.brokenOff_or with hbroken | hone
    · exact h'.longest part ⟨later, heq⟩ hbroken
    · exact Nat.le_trans (Nat.le_of_eq hone) h'.length_pos
  have hge : part'.length ≤ part.length := by
    rcases h'.brokenOff_or with hbroken | hone
    · exact h.longest part' ⟨later', heq.symm⟩ hbroken
    · exact Nat.le_trans (Nat.le_of_eq hone) h.length_pos
  exact List.append_inj heq (Nat.le_antisymm hle hge)

/-- A character that is broken off by the end is of one part. -/
theorem BrokenOff.invalidPart (h : BrokenOff part) : InvalidPart part [] where
  none_starts := by
    rw [List.append_nil]
    exact h.noneStarts
  brokenOff_or := Or.inl h
  longest longer hlonger _ := by
    rw [List.append_nil] at hlonger
    exact hlonger.length_le

/-- A part ends before the byte that no character has behind it. -/
theorem prefix_of_refused (h : ∀ c, ¬ read ++ [byte] <+: String.utf8EncodeChar c)
    (hpart : part <+: String.utf8EncodeChar c) (hstarts : part <+: read ++ byte :: rest) :
    part <+: read := by
  rcases Nat.lt_or_ge read.length part.length with hlt | hle
  · have hread : read ++ [byte] <+: read ++ byte :: rest := ⟨rest, by simp⟩
    have hlength : (read ++ [byte]).length ≤ part.length := by
      rw [List.length_append, List.length_singleton]
      exact hlt
    have hsnoc := List.prefix_of_prefix_length_le hread hstarts hlength
    exact absurd (hsnoc.trans hpart) (h c)
  · exact List.prefix_of_prefix_length_le hstarts (List.prefix_append read _) hle

theorem InvalidPart.of_brokenOff (h : ∀ c, ¬ read ++ [byte] <+: String.utf8EncodeChar c)
    (hread : BrokenOff read) : InvalidPart read (byte :: rest) where
  none_starts c hc := hread.noneStarts c (prefix_of_refused h (List.prefix_refl _) hc)
  brokenOff_or := Or.inl hread
  longest longer hlonger hbroken := by
    obtain ⟨-, c, more, -, hc⟩ := hbroken
    exact (prefix_of_refused h ⟨more, hc⟩ hlonger).length_le

theorem InvalidPart.singleton (h : ∀ c, ¬ [byte] <+: String.utf8EncodeChar c) :
    InvalidPart [byte] rest where
  none_starts c hc := by
    have hrefused : ∀ c, ¬ [] ++ [byte] <+: String.utf8EncodeChar c := h
    have hnil := prefix_of_refused hrefused (List.prefix_refl _) hc
    exact String.utf8EncodeChar_ne_nil (List.prefix_nil.mp hnil)
  brokenOff_or := Or.inr rfl
  longest longer hlonger hbroken := by
    obtain ⟨hne, c, more, -, hc⟩ := hbroken
    have hrefused : ∀ c, ¬ [] ++ [byte] <+: String.utf8EncodeChar c := h
    have hnil := prefix_of_refused hrefused ⟨more, hc⟩ hlonger
    exact absurd (List.prefix_nil.mp hnil) hne

theorem not_brokenOff_of_refused (h : ∀ c, ¬ read ++ [byte] <+: String.utf8EncodeChar c) :
    ¬ BrokenOff (read ++ byte :: rest) := by
  rintro ⟨-, c, more, -, hc⟩
  refine h c ⟨rest ++ more, ?_⟩
  rw [← hc]
  simp

/-- What is partly read is a part of some character: the one with the least code. -/
theorem Partial.Reads.brokenOff (h : p.Reads read) : BrokenOff read := by
  have hmiddle := h.low_le_high
  have hleast : (p.bits * 64 + (p.low - 0x80)) * span p.owed / span p.owed =
      p.bits * 64 + (p.low - 0x80) := Nat.mul_div_cancel _ (span_pos p.owed)
  have hcode := toNat_ofNat (h.valid _ (Nat.le_of_eq hleast.symm) (by omega))
  have hstarts := (h.starts_iff (Char.ofNat _)).mpr (by rw [hcode, hleast]; omega)
  have hlength := h.length_eq _ hstarts
  obtain ⟨more, hmore⟩ := hstarts
  refine ⟨h.ne_nil, _, more, ?_, hmore⟩
  rintro rfl
  rw [← hmore, List.append_nil] at hlength
  omega

/-! ## The longest well-formed start -/

/-- No well-formed sequence goes on behind the place where no character starts. -/
theorem encode_prefix_of_noneStarts (hrest : NoneStarts rest) (h : encode ds <+: encode cs ++ rest) :
    encode ds <+: encode cs := by
  induction cs generalizing ds with
  | nil =>
    cases ds with
    | nil => exact List.prefix_refl _
    | cons d ds =>
      rw [encode_cons] at h
      exact absurd ((List.prefix_append _ _).trans h) (hrest d)
  | cons c cs ih =>
    cases ds with
    | nil => exact List.nil_prefix
    | cons d ds =>
      rw [encode_cons, encode_cons, List.append_assoc] at h
      have hd : String.utf8EncodeChar d <+: String.utf8EncodeChar c ++ (encode cs ++ rest) :=
        (List.prefix_append _ _).trans h
      obtain rfl : d = c := eq_of_starts hd (List.prefix_append _ _)
      rw [List.prefix_append_right_inj] at h
      rw [encode_cons, encode_cons, List.prefix_append_right_inj]
      exact ih h

/-! ## The strict decoder -/

/-- What decoding may give of bytes that follow some others. -/
inductive Decodes (index : Nat) (bytes : List UInt8) : Except Fault (List Char) → Prop
  | ok (cs : List Char) (h : encode cs = bytes) : Decodes index bytes (.ok cs)
  | incomplete (cs : List Char) {rest : List UInt8} (h : encode cs ++ rest = bytes)
      (hrest : BrokenOff rest) :
      Decodes index bytes (.error (.incomplete (index + (encode cs).length)))
  | invalid (cs : List Char) {part later : List UInt8} (h : encode cs ++ (part ++ later) = bytes)
      (hpart : InvalidPart part later) (hrest : ¬ BrokenOff (part ++ later)) :
      Decodes index bytes (.error (.invalid (index + (encode cs).length) part.length))

theorem Decodes.cons {index : Nat} {result : Except Fault (List Char)} (c : Char)
    (h : Decodes (index + (String.utf8EncodeChar c).length) rest result) :
    Decodes index (String.utf8EncodeChar c ++ rest) (result.map (c :: ·)) := by
  have hbytes : ∀ cs rest,
      encode (c :: cs) ++ rest = String.utf8EncodeChar c ++ (encode cs ++ rest) := by
    intro cs rest
    rw [encode_cons, List.append_assoc]
  have hindex : ∀ cs, index + (encode (c :: cs)).length =
      index + (String.utf8EncodeChar c).length + (encode cs).length := by
    intro cs
    rw [encode_cons, List.length_append, Nat.add_assoc]
  cases h with
  | ok cs h =>
    subst h
    exact .ok (c :: cs) (encode_cons c cs)
  | incomplete cs h hrest =>
    subst h
    rw [Except.map, ← hindex]
    exact .incomplete (c :: cs) (hbytes cs _) hrest
  | invalid cs h hpart hrest =>
    subst h
    rw [Except.map, ← hindex]
    exact .invalid (c :: cs) (hbytes cs _) hpart hrest

theorem Decodes.char {index : Nat} {result : Except Fault (List Char)}
    (hc : String.utf8EncodeChar c = read ++ [byte])
    (h : Decodes (index + read.length + 1) rest result) :
    Decodes index (read ++ byte :: rest) (result.map (c :: ·)) := by
  have hlength : (String.utf8EncodeChar c).length = read.length + 1 := by
    rw [hc, List.length_append, List.length_singleton]
  rw [Nat.add_assoc, ← hlength] at h
  have hwhole := h.cons c
  rw [hc, List.append_assoc] at hwhole
  exact hwhole

/-- A state between two bytes knows the bytes of the character that is being read. -/
def Holds : Option Partial → List UInt8 → Prop
  | none, read => read = []
  | some p, read => p.Reads read

theorem holds_none : Holds none [] := rfl

/-- By induction on the bytes, where the bytes of the character that is being read stand in front
of them. -/
theorem decodeFrom_decodes (index : Nat) {state : Option Partial} (h : Holds state read) :
    Decodes index (read ++ bytes) (decodeFrom index state bytes) := by
  fun_induction decodeFrom index state bytes generalizing read with
  | case1 index =>
    obtain rfl : read = [] := h
    exact .ok [] rfl
  | case2 index p =>
    have hread : p.Reads read := h
    rw [List.append_nil]
    exact .incomplete [] rfl hread.brokenOff
  | case3 index byte rest c hstep ih =>
    obtain rfl : read = [] := h
    have hc : String.utf8EncodeChar c = [] ++ [byte] := means_of_start hstep
    exact .char hc (ih holds_none)
  | case4 index byte rest p hstep ih =>
    obtain rfl : read = [] := h
    have hread : Holds (some p) [byte] := means_of_start hstep
    exact ih hread
  | case5 index byte rest hstep =>
    obtain rfl : read = [] := h
    have hrefused : ∀ c, ¬ [] ++ [byte] <+: String.utf8EncodeChar c := means_of_start hstep
    exact .invalid [] rfl (.singleton hrefused) (not_brokenOff_of_refused hrefused)
  | case6 index p byte rest c hstep ih =>
    have hread : p.Reads read := h
    have hc : String.utf8EncodeChar c = read ++ [byte] := hread.means hstep
    rw [hread.size_eq] at ih ⊢
    exact .char hc (ih holds_none)
  | case7 index p byte rest q hstep ih =>
    have hread : p.Reads read := h
    have hlonger : Holds (some q) (read ++ [byte]) := hread.means hstep
    have hrest := ih hlonger
    rw [List.append_assoc] at hrest
    exact hrest
  | case8 index p byte rest hstep =>
    have hread : p.Reads read := h
    have hrefused : ∀ c, ¬ read ++ [byte] <+: String.utf8EncodeChar c := hread.means hstep
    rw [hread.size_eq]
    exact .invalid [] rfl (.of_brokenOff hrefused hread.brokenOff)
      (not_brokenOff_of_refused hrefused)

/-! ## The lossy decoder -/

/-- The characters of a byte sequence, with one replacement character for each part that is beyond
mending. -/
inductive Replaced : List UInt8 → List Char → Prop
  | nil : Replaced [] []
  | char (c : Char) {rest : List UInt8} {cs : List Char} (h : Replaced rest cs) :
      Replaced (String.utf8EncodeChar c ++ rest) (c :: cs)
  | part {part later : List UInt8} {cs : List Char} (hpart : InvalidPart part later)
      (h : Replaced later cs) : Replaced (part ++ later) (replacement :: cs)

namespace Replaced

theorem of_encode (cs : List Char) : Replaced (encode cs) cs := by
  induction cs with
  | nil => exact .nil
  | cons c cs ih => exact .char c ih

theorem eq_nil (h : Replaced [] cs) : cs = [] := by
  generalize hbytes : ([] : List UInt8) = bytes at h
  cases h with
  | nil => rfl
  | char c h =>
    have hc := (List.append_eq_nil_iff.mp hbytes.symm).1
    exact absurd hc String.utf8EncodeChar_ne_nil
  | part hpart h =>
    obtain ⟨rfl, -⟩ := List.append_eq_nil_iff.mp hbytes.symm
    exact absurd hpart.length_pos (by simp)

theorem of_char (h : Replaced (String.utf8EncodeChar c ++ rest) cs) :
    ∃ cs', cs = c :: cs' ∧ Replaced rest cs' := by
  generalize hbytes : String.utf8EncodeChar c ++ rest = bytes at h
  cases h with
  | nil =>
    have hc := (List.append_eq_nil_iff.mp hbytes).1
    exact absurd hc String.utf8EncodeChar_ne_nil
  | char d h =>
    obtain rfl : c = d := eq_of_starts (hbytes ▸ List.prefix_append _ _) (List.prefix_append _ _)
    obtain rfl := List.append_cancel_left hbytes
    exact ⟨_, rfl, h⟩
  | part hpart h => exact absurd ⟨rest, hbytes⟩ (hpart.none_starts c)

theorem of_part (hpart : InvalidPart part later) (h : Replaced (part ++ later) cs) :
    ∃ cs', cs = replacement :: cs' ∧ Replaced later cs' := by
  generalize hbytes : part ++ later = bytes at h
  cases h with
  | nil =>
    obtain ⟨rfl, -⟩ := List.append_eq_nil_iff.mp hbytes
    exact absurd hpart.length_pos (by simp)
  | char c h => exact absurd ⟨_, hbytes.symm⟩ (hpart.none_starts c)
  | part hpart' h =>
    obtain ⟨-, rfl⟩ := hpart.unique hpart' hbytes
    exact ⟨_, rfl, h⟩

theorem unique (h : Replaced bytes cs) (h' : Replaced bytes ds) : cs = ds := by
  induction h generalizing ds with
  | nil => exact h'.eq_nil.symm
  | char c h ih =>
    obtain ⟨ds, rfl, hds⟩ := of_char h'
    rw [ih hds]
  | part hpart h ih =>
    obtain ⟨ds, rfl, hds⟩ := of_part hpart h'
    rw [ih hds]

theorem of_complete (hc : String.utf8EncodeChar c = read ++ [byte]) (h : Replaced rest cs) :
    Replaced (read ++ byte :: rest) (c :: cs) := by
  have hwhole := Replaced.char c h
  rw [hc, List.append_assoc] at hwhole
  exact hwhole

end Replaced

/-- By induction on the bytes, as for the strict decoder. A byte that ends a part beyond mending is
read again, as the first one of what follows. -/
theorem decodeLossyFrom_replaced {state : Option Partial} (h : Holds state read) :
    Replaced (read ++ bytes) (decodeLossyFrom state bytes) := by
  induction bytes generalizing state read with
  | nil =>
    cases state with
    | none =>
      obtain rfl : read = [] := h
      exact .nil
    | some p =>
      have hread : p.Reads read := h
      exact .part hread.brokenOff.invalidPart .nil
  | cons byte rest ih =>
    have hfresh : Replaced (byte :: rest) (decodeLossyFrom none (byte :: rest)) := by
      unfold decodeLossyFrom
      cases hstep : start byte with
      | complete c =>
        have hc : String.utf8EncodeChar c = [] ++ [byte] := means_of_start hstep
        exact .of_complete hc (ih holds_none)
      | owes q =>
        have hread : Holds (some q) [byte] := means_of_start hstep
        exact ih hread
      | refused => exact .part (.singleton (means_of_start hstep)) (ih holds_none)
    cases state with
    | none =>
      obtain rfl : read = [] := h
      exact hfresh
    | some p =>
      have hread : p.Reads read := h
      cases hstep : p.extend byte with
      | complete c =>
        simp only [decodeLossyFrom, hstep]
        exact .of_complete (hread.means hstep) (ih holds_none)
      | owes q =>
        have hlonger : Holds (some q) (read ++ [byte]) := hread.means hstep
        have hrest := ih hlonger
        rw [List.append_assoc] at hrest
        simp only [decodeLossyFrom, hstep]
        exact hrest
      | refused =>
        have hagain : decodeLossyFrom (some p) (byte :: rest) =
            replacement :: decodeLossyFrom none (byte :: rest) := by
          simp only [decodeLossyFrom, hstep]
        rw [hagain]
        exact .part (.of_brokenOff (hread.means hstep) hread.brokenOff) hfresh

/-- The lossy decoder replaces each part that is beyond mending, and nothing else. -/
theorem decodeLossy_eq_iff {text : String} : decodeLossy bytes = text ↔ Replaced bytes text.toList := by
  have hreplaced : Replaced bytes (decodeLossyFrom none bytes) :=
    decodeLossyFrom_replaced holds_none
  unfold decodeLossy
  constructor
  · rintro rfl
    rw [String.toList_ofList]
    exact hreplaced
  · intro h
    rw [hreplaced.unique h, String.ofList_toList]

-- A letter cuts a character off, which is one part; a surrogate is three.
example : decodeLossy [0xe2, 0x82, 0x41] = "\ufffdA" := by decide

example : decodeLossy [0xed, 0xa0, 0x80] = "\ufffd\ufffd\ufffd" := by decide

/-! ## The answers of the strict decoder -/

theorem encode_inj (h : encode cs = encode ds) : cs = ds := by
  have hreplaced := Replaced.of_encode cs
  rw [h] at hreplaced
  exact hreplaced.unique (.of_encode ds)

/-- What is left of a well-formed sequence where no character starts. -/
theorem eq_nil_of_noneStarts (hrest : NoneStarts rest) (h : encode cs ++ rest = encode ds) :
    rest = [] := by
  have hstarts : encode ds <+: encode cs ++ rest := ⟨[], by rw [List.append_nil, h]⟩
  have hle := (encode_prefix_of_noneStarts hrest hstarts).length_le
  have hlength := congrArg List.length h
  rw [List.length_append] at hlength
  exact List.eq_nil_of_length_eq_zero (by omega)

theorem Decodes.eq_ok_iff {index : Nat} {result : Except Fault (List Char)}
    (h : Decodes index bytes result) : result = .ok cs ↔ encode cs = bytes := by
  cases h with
  | ok ds h =>
    subst h
    rw [Except.ok.injEq]
    exact ⟨congrArg encode ∘ Eq.symm, fun h => (encode_inj h).symm⟩
  | incomplete ds h hrest =>
    subst h
    refine ⟨nofun, fun h => absurd ?_ hrest.1⟩
    exact eq_nil_of_noneStarts hrest.noneStarts h.symm
  | @invalid ds part later h hpart hrest =>
    subst h
    refine ⟨nofun, fun h => ?_⟩
    have hnil := eq_nil_of_noneStarts hpart.none_starts h.symm
    have hpos := hpart.length_pos
    obtain ⟨rfl, -⟩ := List.append_eq_nil_iff.mp hnil
    exact absurd hpos (by simp)

/-- A text is decoded from its own bytes, and from no others. -/
theorem decode?_eq_ok_iff {text : String} : decode? bytes = .ok text ↔ encode text.toList = bytes := by
  have hdecodes : Decodes 0 bytes (decodeFrom 0 none bytes) :=
    decodeFrom_decodes 0 holds_none
  rw [← hdecodes.eq_ok_iff, decode?]
  cases decodeFrom 0 none bytes with
  | ok cs =>
    show Except.ok (String.ofList cs) = Except.ok text ↔ _
    rw [Except.ok.injEq, Except.ok.injEq, ← String.toList_inj, String.toList_ofList]
  | error fault => exact ⟨nofun, nofun⟩

/-- The fault of a sequence that is not well-formed is behind its longest well-formed start. -/
theorem decode?_eq_error (h : ∀ cs, encode cs ≠ bytes) :
    ∃ cs rest, encode cs ++ rest = bytes ∧ NoneStarts rest ∧
      (BrokenOff rest → decode? bytes = .error (.incomplete (encode cs).length)) ∧
      (¬ BrokenOff rest → ∃ part later, part ++ later = rest ∧ InvalidPart part later ∧
        decode? bytes = .error (.invalid (encode cs).length part.length)) := by
  have hdecodes : Decodes 0 bytes (decodeFrom 0 none bytes) :=
    decodeFrom_decodes 0 holds_none
  unfold decode?
  generalize decodeFrom 0 none bytes = result at hdecodes
  cases hdecodes with
  | ok cs hcs => exact absurd hcs (h cs)
  | @incomplete cs rest hbytes hrest =>
    refine ⟨cs, rest, hbytes, hrest.noneStarts, fun _ => ?_, fun hnot => absurd hrest hnot⟩
    rw [Nat.zero_add]
    rfl
  | @invalid cs part later hbytes hpart hrest =>
    refine ⟨cs, part ++ later, hbytes, hpart.none_starts, fun hbroken => absurd hbroken hrest,
      fun _ => ⟨part, later, rfl, hpart, ?_⟩⟩
    rw [Nat.zero_add]
    rfl

end RevisionControl.Text.Utf8
