import Mathlib.Data.List.Basic
import RevisionControl.Text.Utf8

/-!
# Proofs: characters in UTF-8

The decoder is measured against the encoding of characters: a byte sequence is well-formed if it is
the bytes of some characters (`encode`), one after the other. A character that is partly read stands
for the characters that start with the bytes read, and these have their codes in a range
(`Partial.Reads`); one more byte cuts the range down to a 64th, ends the character, or leaves none.
-/

namespace RevisionControl.Text.Utf8

variable {bytes read part longer later rest : List UInt8} {byte : UInt8} {c d : Char}
  {cs ds : List Char} {p : Partial}

/-! ## The bytes of characters -/

/-- The bytes of some characters. -/
def encode (cs : List Char) : List UInt8 := cs.flatMap String.utf8EncodeChar

theorem encode_cons (c : Char) (cs : List Char) :
    encode (c :: cs) = String.utf8EncodeChar c ++ encode cs := rfl

/-- A text is its characters' bytes. -/
theorem toUTF8_eq_iff {text : String} : text.toUTF8 = bytes.toByteArray ↔ encode text.toList = bytes := by
  have hbytes : text.toUTF8 = (encode text.toList).toByteArray := by
    conv => lhs; rw [← String.ofList_toList (s := text)]
    rfl
  rw [hbytes, List.toByteArray_inj]

theorem isValidUTF8_iff : bytes.toByteArray.IsValidUTF8 ↔ ∃ cs, encode cs = bytes := by
  constructor
  · rintro ⟨cs, hcs⟩
    exact ⟨cs, (List.toByteArray_inj.mp hcs).symm⟩
  · rintro ⟨cs, rfl⟩
    exact .intro cs rfl

/-- The four forms of the bytes of a character, by its code. -/
theorem utf8EncodeChar_cases (c : Char) :
    (c.toNat < 0x80 ∧ String.utf8EncodeChar c = [UInt8.ofNat c.toNat]) ∨
    (0x80 ≤ c.toNat ∧ c.toNat < 0x800 ∧ String.utf8EncodeChar c =
      [UInt8.ofNat (c.toNat / 64 % 32 + 0xc0), UInt8.ofNat (c.toNat % 64 + 0x80)]) ∨
    (0x800 ≤ c.toNat ∧ c.toNat < 0x10000 ∧ String.utf8EncodeChar c =
      [UInt8.ofNat (c.toNat / 4096 % 16 + 0xe0), UInt8.ofNat (c.toNat / 64 % 64 + 0x80),
        UInt8.ofNat (c.toNat % 64 + 0x80)]) ∨
    (0x10000 ≤ c.toNat ∧ String.utf8EncodeChar c =
      [UInt8.ofNat (c.toNat / 262144 % 8 + 0xf0), UInt8.ofNat (c.toNat / 4096 % 64 + 0x80),
        UInt8.ofNat (c.toNat / 64 % 64 + 0x80), UInt8.ofNat (c.toNat % 64 + 0x80)]) := by
  have hcode : c.val.toNat = c.toNat := rfl
  unfold String.utf8EncodeChar
  simp only [hcode]
  split
  · exact Or.inl ⟨by omega, rfl⟩
  · split
    · exact Or.inr (Or.inl ⟨by omega, by omega, rfl⟩)
    · split
      · exact Or.inr (Or.inr (Or.inl ⟨by omega, by omega, rfl⟩))
      · exact Or.inr (Or.inr (Or.inr ⟨by omega, rfl⟩))

theorem toNat_ofNat {n : Nat} (h : n.isValidChar) : (Char.ofNat n).toNat = n := by
  unfold Char.ofNat
  rw [dif_pos h]
  rfl

theorem byte_eq_iff {n : Nat} (h : n < 256) : UInt8.ofNat n = byte ↔ n = byte.toNat := by
  rw [← UInt8.toNat_inj, UInt8.toNat_ofNat_of_lt' h]

/-- No character's bytes are the start of another's. -/
theorem eq_of_starts (h : String.utf8EncodeChar c <+: bytes)
    (h' : String.utf8EncodeChar d <+: bytes) : c = d := by
  obtain ⟨more, hmore⟩ := h
  obtain ⟨more', hmore'⟩ := h'
  have hc := @ByteArray.utf8DecodeChar?_utf8EncodeChar_append more.toByteArray c
  have hd := @ByteArray.utf8DecodeChar?_utf8EncodeChar_append more'.toByteArray d
  rw [← List.toByteArray_append, hmore] at hc
  rw [← List.toByteArray_append, hmore', hc] at hd
  exact Option.some.inj hd

/-! ## Characters that are partly read -/

/-- The number of characters that have all but the last few bytes in common. -/
def span : Nat → Nat
  | 0 => 1
  | owed + 1 => span owed * 64

theorem span_pos (owed : Nat) : 0 < span owed := by
  induction owed with
  | zero => exact Nat.one_pos
  | succ owed ih => exact Nat.mul_pos ih (by omega)

/-- A character that is partly read stands for the characters that start with the bytes read: those
in whose codes the bits up to the next byte are in a range. -/
structure Partial.Reads (p : Partial) (read : List UInt8) : Prop where
  /-- Something has been read. -/
  ne_nil : read ≠ []
  size_eq : p.size = read.length
  /-- The next byte is a byte behind a first one. -/
  low_le : 0x80 ≤ p.low
  low_le_high : p.low ≤ p.high
  high_le : p.high ≤ 0xbf
  /-- The characters that start with the bytes read. -/
  starts_iff : ∀ c : Char, read <+: String.utf8EncodeChar c ↔
    p.bits * 64 + (p.low - 0x80) ≤ c.toNat / span p.owed ∧
      c.toNat / span p.owed ≤ p.bits * 64 + (p.high - 0x80)
  /-- All of them have the bytes that are owed. -/
  length_eq : ∀ c : Char, read <+: String.utf8EncodeChar c →
    (String.utf8EncodeChar c).length = read.length + (p.owed + 1)
  /-- There is a character for each code in the range. -/
  valid : ∀ n, p.bits * 64 + (p.low - 0x80) ≤ n / span p.owed →
    n / span p.owed ≤ p.bits * 64 + (p.high - 0x80) → n.isValidChar

/-- What a step says of the bytes read so far. -/
def Step.Means (read : List UInt8) : Step → Prop
  | complete c => String.utf8EncodeChar c = read
  | owes p => p.Reads read
  | refused => ∀ c, ¬ read <+: String.utf8EncodeChar c

/-- The last bytes of the character with a code hold six bits of it each. -/
def lastBytes (n : Nat) : Nat → List UInt8
  | 0 => []
  | count + 1 => UInt8.ofNat (n / span count % 64 + 0x80) :: lastBytes n count

theorem length_lastBytes (n count : Nat) : (lastBytes n count).length = count := by
  induction count with
  | zero => rfl
  | succ count ih => rw [lastBytes, List.length_cons, ih]

theorem exists_lastBytes (c : Char) :
    ∃ first count, String.utf8EncodeChar c = first :: lastBytes c.toNat count := by
  rcases utf8EncodeChar_cases c with ⟨-, hc⟩ | ⟨-, -, hc⟩ | ⟨-, -, hc⟩ | ⟨-, hc⟩
  · exact ⟨_, 0, hc⟩
  · refine ⟨_, 1, hc.trans (congrArg (List.cons _) ?_)⟩
    simp only [lastBytes, span, Nat.div_one]
  · refine ⟨_, 2, hc.trans (congrArg (List.cons _) ?_)⟩
    simp only [lastBytes, span, Nat.div_one, Nat.one_mul]
  · refine ⟨_, 3, hc.trans (congrArg (List.cons _) ?_)⟩
    simp only [lastBytes, span, Nat.div_one, Nat.one_mul]

theorem toNat_of_lastBytes {n count : Nat} (h : read ++ byte :: later = lastBytes n count) :
    byte.toNat = 0x80 + n / span later.length % 64 := by
  induction count generalizing read with
  | zero => exact absurd h (by simp [lastBytes])
  | succ count ih =>
    cases read with
    | nil =>
      obtain ⟨rfl, rfl⟩ := List.cons.inj h
      have hlt : n / span count % 64 + 0x80 < 256 := by omega
      rw [length_lastBytes, UInt8.toNat_ofNat_of_lt' hlt, Nat.add_comm]
    | cons first read => exact ih (List.cons.inj h).2

/-- Which bits a byte behind the first one holds is told by the number of bytes behind it. -/
theorem toNat_byte (hread : read ≠ []) (h : read ++ byte :: later = String.utf8EncodeChar c) :
    byte.toNat = 0x80 + c.toNat / span later.length % 64 := by
  obtain ⟨first, read, rfl⟩ := List.exists_cons_of_ne_nil hread
  obtain ⟨_, count, hc⟩ := exists_lastBytes c
  rw [hc] at h
  exact toNat_of_lastBytes (List.cons.inj h).2

namespace Partial

/-- One more byte is one of the characters that are left if it holds their next bits. -/
theorem Reads.snoc_iff (h : p.Reads read) (byte : UInt8) (c : Char) :
    read ++ [byte] <+: String.utf8EncodeChar c ↔
      read <+: String.utf8EncodeChar c ∧ byte.toNat = 0x80 + c.toNat / span p.owed % 64 := by
  constructor
  · intro hsnoc
    have hstarts : read <+: String.utf8EncodeChar c :=
      (List.prefix_append read [byte]).trans hsnoc
    have hlength := h.length_eq c hstarts
    obtain ⟨later, hlater⟩ := hsnoc
    rw [List.append_assoc, List.singleton_append] at hlater
    have howed : later.length = p.owed := by
      rw [← hlater, List.length_append, List.length_cons] at hlength
      omega
    refine ⟨hstarts, ?_⟩
    rw [← howed]
    exact toNat_byte h.ne_nil hlater
  · rintro ⟨hstarts, hbyte⟩
    have hlength := h.length_eq c hstarts
    obtain ⟨more, hmore⟩ := hstarts
    rw [← hmore, List.length_append, Nat.add_left_cancel_iff] at hlength
    obtain ⟨next, later, rfl⟩ := List.exists_cons_of_length_eq_add_one hlength
    have howed : later.length = p.owed := Nat.add_right_cancel hlength
    have hnext := toNat_byte h.ne_nil hmore
    rw [howed, ← hbyte] at hnext
    obtain rfl : next = byte := UInt8.toNat_inj.mp hnext
    exact ⟨later, by rw [List.append_assoc, List.singleton_append, hmore]⟩

/-- A byte in the range fixes six more bits of the characters that are left. -/
theorem Reads.snoc_starts_iff (h : p.Reads read) {byte : UInt8}
    (hrange : p.low ≤ byte.toNat ∧ byte.toNat ≤ p.high) (c : Char) :
    read ++ [byte] <+: String.utf8EncodeChar c ↔
      c.toNat / span p.owed = p.bits * 64 + (byte.toNat - 0x80) := by
  have hlow := h.low_le
  have hhigh := h.high_le
  rw [h.snoc_iff, h.starts_iff]
  omega

/-- The last byte of a character leaves that character alone. -/
theorem Reads.complete (h : p.Reads read) {byte : UInt8}
    (hrange : p.low ≤ byte.toNat ∧ byte.toNat ≤ p.high) (howed : p.owed = 0) :
    String.utf8EncodeChar (Char.ofNat (p.bits * 64 + (byte.toNat - 0x80))) = read ++ [byte] := by
  have hlow := h.low_le
  have hsnoc := h.snoc_starts_iff hrange
  rw [howed] at hsnoc
  simp only [span, Nat.div_one] at hsnoc
  have hvalid : (p.bits * 64 + (byte.toNat - 0x80)).isValidChar := by
    refine h.valid _ ?_ ?_ <;> rw [howed, span, Nat.div_one] <;> omega
  have hstarts := (hsnoc _).mpr (toNat_ofNat hvalid)
  have hlength := h.length_eq _ ((List.prefix_append read [byte]).trans hstarts)
  refine (hstarts.eq_of_length ?_).symm
  rw [hlength, howed, List.length_append, List.length_singleton]

/-- Any other byte of a character leaves one byte less owed. -/
theorem Reads.owes (h : p.Reads read) {byte : UInt8}
    (hrange : p.low ≤ byte.toNat ∧ byte.toNat ≤ p.high) {owed : Nat} (howed : p.owed = owed + 1) :
    Partial.Reads ⟨p.bits * 64 + (byte.toNat - 0x80), p.size + 1, owed, 0x80, 0xbf⟩
      (read ++ [byte]) := by
  have hlow := h.low_le
  have hsnoc := h.snoc_starts_iff hrange
  have hspan : ∀ n, n / span (owed + 1) = n / span owed / 64 := fun n => by
    rw [span, Nat.div_div_eq_div_mul]
  rw [howed] at hsnoc
  simp only [hspan] at hsnoc
  refine ⟨by simp, ?_, by simp, by simp, by simp, fun c => ?_, fun c hstarts => ?_, ?_⟩
  · simp [h.size_eq]
  · rw [hsnoc]
    dsimp only
    omega
  · have hlength := h.length_eq c ((List.prefix_append read [byte]).trans hstarts)
    rw [hlength, howed, List.length_append, List.length_singleton]
    dsimp only
    omega
  · intro n hleast hgreatest
    dsimp only at hleast hgreatest
    refine h.valid n ?_ ?_ <;> rw [howed, hspan] <;> omega

theorem Reads.extend (h : p.Reads read) (byte : UInt8) :
    (p.extend byte).Means (read ++ [byte]) := by
  unfold Partial.extend
  dsimp only
  split
  · rename_i hrange
    split
    · rename_i howed
      exact h.complete hrange howed
    · rename_i owed howed
      exact h.owes hrange howed
  · rename_i hrange
    intro c hstarts
    have hlow := h.low_le
    have hmiddle := h.low_le_high
    have hhigh := h.high_le
    obtain ⟨hread, hbyte⟩ := (h.snoc_iff byte c).mp hstarts
    have hbits := (h.starts_iff c).mp hread
    exact hrange ⟨by omega, by omega⟩

theorem Reads.means {step : Step} (h : p.Reads read) (hstep : p.extend byte = step) :
    step.Means (read ++ [byte]) := by
  rw [← hstep]
  exact h.extend byte

end Partial

/-! ### The first byte -/

/-- The first byte of the character with a code. -/
def lead (n : Nat) : Nat :=
  if n < 0x80 then n
  else if n < 0x800 then 0xc0 + n / 64
  else if n < 0x10000 then 0xe0 + n / 4096
  else 0xf0 + n / 262144

/-- The number of bytes of the character with a code. -/
def width (n : Nat) : Nat :=
  if n < 0x80 then 1 else if n < 0x800 then 2 else if n < 0x10000 then 3 else 4

theorem length_eq_width (c : Char) : (String.utf8EncodeChar c).length = width c.toNat := by
  unfold width
  rcases utf8EncodeChar_cases c with ⟨h, hc⟩ | ⟨h, h', hc⟩ | ⟨h, h', hc⟩ | ⟨h, hc⟩ <;> rw [hc]
  · rw [if_pos h, List.length_singleton]
  · rw [if_neg (by omega), if_pos h', List.length_cons, List.length_singleton]
  · rw [if_neg (by omega), if_neg (by omega), if_pos h']
    rfl
  · rw [if_neg (by omega), if_neg (by omega), if_neg (by omega)]
    rfl

theorem toNat_lt (c : Char) : c.toNat < 0x110000 := by
  have hvalid : c.toNat.isValidChar := c.valid
  unfold Nat.isValidChar at hvalid
  omega

theorem singleton_starts_iff (byte : UInt8) (c : Char) :
    [byte] <+: String.utf8EncodeChar c ↔ byte.toNat = lead c.toNat := by
  have hlt := toNat_lt c
  unfold lead
  rcases utf8EncodeChar_cases c with ⟨h, hc⟩ | ⟨h, h', hc⟩ | ⟨h, h', hc⟩ | ⟨h, hc⟩ <;>
    rw [hc, List.cons_prefix_cons, eq_comm, byte_eq_iff (by omega), and_iff_left List.nil_prefix]
  · rw [if_pos h, eq_comm]
  · rw [if_neg (by omega), if_pos h']
    omega
  · rw [if_neg (by omega), if_neg (by omega), if_pos h']
    omega
  · rw [if_neg (by omega), if_neg (by omega), if_neg (by omega)]
    omega

theorem lead_cases (n : Nat) :
    (n < 0x80 ∧ lead n = n ∧ width n = 1) ∨
    (0x80 ≤ n ∧ n < 0x800 ∧ lead n = 0xc0 + n / 64 ∧ width n = 2) ∨
    (0x800 ≤ n ∧ n < 0x10000 ∧ lead n = 0xe0 + n / 4096 ∧ width n = 3) ∨
    (0x10000 ≤ n ∧ lead n = 0xf0 + n / 262144 ∧ width n = 4) := by
  unfold lead width
  split_ifs <;> omega

theorem reads_of_lead {bits owed low high : Nat} (hlow : 0x80 ≤ low) (hmiddle : low ≤ high)
    (hhigh : high ≤ 0xbf)
    (hlead : ∀ n, n.isValidChar → byte.toNat = lead n → width n = owed + 2 ∧
      bits * 64 + (low - 0x80) ≤ n / span owed ∧ n / span owed ≤ bits * 64 + (high - 0x80))
    (hrange : ∀ n, bits * 64 + (low - 0x80) ≤ n / span owed →
      n / span owed ≤ bits * 64 + (high - 0x80) → n.isValidChar ∧ byte.toNat = lead n) :
    Partial.Reads ⟨bits, 1, owed, low, high⟩ [byte] where
  ne_nil := List.cons_ne_nil byte []
  size_eq := rfl
  low_le := hlow
  low_le_high := hmiddle
  high_le := hhigh
  starts_iff c := by
    rw [singleton_starts_iff]
    exact ⟨fun h => (hlead _ c.valid h).2, fun h => (hrange _ h.1 h.2).2⟩
  length_eq c hstarts := by
    have hwidth := (hlead _ c.valid ((singleton_starts_iff byte c).mp hstarts)).1
    rw [length_eq_width, Char.toNat, hwidth, List.length_singleton]
    exact Nat.add_comm (owed + 1) 1
  valid n hleast hgreatest := (hrange n hleast hgreatest).1

theorem not_starts_of_lead (h : ∀ n, n.isValidChar → byte.toNat ≠ lead n) (c : Char) :
    ¬ [byte] <+: String.utf8EncodeChar c := by
  rw [singleton_starts_iff]
  exact h c.toNat c.valid

theorem complete_means (h : byte.toNat < 0x80) :
    String.utf8EncodeChar (Char.ofNat byte.toNat) = [byte] := by
  have hvalid : byte.toNat.isValidChar := Or.inl (by omega)
  have hcode := toNat_ofNat hvalid
  have hstarts : [byte] <+: String.utf8EncodeChar (Char.ofNat byte.toNat) := by
    rw [singleton_starts_iff, hcode, lead, if_pos h]
  refine (hstarts.eq_of_length ?_).symm
  rw [length_eq_width, hcode, width, if_pos h, List.length_singleton]

theorem start_means (byte : UInt8) : (start byte).Means [byte] := by
  have hbyte : byte.toNat < 256 := byte.toNat_lt
  unfold start
  dsimp only
  split_ifs with hascii
  · exact complete_means hascii
  -- The other first bytes are told by the codes that they leave.
  all_goals first
    | refine not_starts_of_lead fun n hn => ?_
      have hcases := lead_cases n
      unfold Nat.isValidChar at hn
      omega
    | refine reads_of_lead (by omega) (by omega) (by omega) ?_ ?_ <;> intro n <;>
        have hcases := lead_cases n <;> simp only [span, Nat.isValidChar] <;> omega

theorem means_of_start {step : Step} (hstep : start byte = step) : step.Means [byte] := by
  rw [← hstep]
  exact start_means byte

end RevisionControl.Text.Utf8
