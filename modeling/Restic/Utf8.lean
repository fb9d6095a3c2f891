import Mathlib.Data.List.Basic
import Mathlib.Algebra.Group.Nat.Basic

/-!
# Go strings and `utf8.DecodeRuneInString`

A Go string is a sequence of bytes with no promise of being UTF-8: extended attribute names
come back from the file system as raw bytes. `strings.EqualFold` reads them as runes the way
`range` does, through `utf8.DecodeRuneInString`, which turns every byte it cannot decode into
`RuneError` and steps one byte on.

The decoder is Go's, table for table: `first` classifies the leading byte, `acceptRanges`
bounds the second. A byte below `RuneSelf` is read as itself (`decodeRuneInString_ascii`), and
every rune takes at least one byte (`decodeRuneInString_size_pos`), which is what lets `runes`
read a string in `s.length` rounds (`runes_cons`).

The two tables encode Unicode's table of well-formed byte sequences (`accepts_two`,
`accepts_three`, `accepts_four`), and on such a sequence the decoder returns the code point it
spells (`decodeRuneInString_three` and its kin). So the decoder reads back every character
`String.utf8EncodeChar` writes (`decodeRuneInString_utf8EncodeChar`), and `range` over the
bytes of a text yields its characters (`runes_ofString`).

Conversely, the decoder accepts nothing else: past a multi-byte lead, a decode that does not fail
has read a well-formed sequence (`decodeRuneInString_multi`), and the character it spells is
written back as that sequence (`utf8EncodeChar_two` and its kin). So the decoder fails at a byte
exactly when no character's encoding starts there (`decodeRuneInString_eq_error_iff`): on names
that are not UTF-8, `RuneError` marks each byte that begins no character, and nothing else.
-/

namespace Restic

/-- A Go `string`: its bytes. -/
abbrev GoString := List UInt8

/-- A Go `rune`. Decoded runes lie in `[0, MaxRune]`, where Go's `int32` order is `Nat`'s. -/
abbrev Rune := Nat

theorem byte_lt_iff {a b : UInt8} : a < b ↔ a.toNat < b.toNat := Iff.rfl

theorem byte_le_iff {a b : UInt8} : a ≤ b ↔ a.toNat ≤ b.toNat := Iff.rfl

theorem byte_ext {a b : UInt8} (h : a.toNat = b.toNat) : a = b := UInt8.eq_of_val_eq (Fin.ext h)

theorem byte_eq_iff {a b : UInt8} : a = b ↔ a.toNat = b.toNat := ⟨congrArg _, byte_ext⟩

theorem word_le_iff {a b : UInt32} : a ≤ b ↔ a.toNat ≤ b.toNat := Iff.rfl

namespace Utf8

/-- The replacement character `'�'`. -/
def RuneError : Rune := 0xFFFD

/-- Bytes below `RuneSelf` stand for themselves. -/
def RuneSelf : Nat := 0x80

/-- The largest Unicode code point. -/
def MaxRune : Rune := 0x10FFFF

/-- The payload bits of a continuation byte. -/
def maskx : UInt8 := 0b00111111
/-- The payload bits of a two-byte sequence's first byte. -/
def mask2 : UInt8 := 0b00011111
/-- The payload bits of a three-byte sequence's first byte. -/
def mask3 : UInt8 := 0b00001111
/-- The payload bits of a four-byte sequence's first byte. -/
def mask4 : UInt8 := 0b00000111

/-- The lowest continuation byte. -/
def locb : UInt8 := 0b10000000
/-- The highest continuation byte. -/
def hicb : UInt8 := 0b10111111

/-! The classes of `first`: the high nibble indexes `acceptRanges`, the low one is the size. -/

/-- invalid: size 1 -/
def xx : UInt8 := 0xF1
/-- ASCII: size 1 -/
def as : UInt8 := 0xF0
/-- accept 0, size 2 -/
def s1 : UInt8 := 0x02
/-- accept 1, size 3 -/
def s2 : UInt8 := 0x13
/-- accept 0, size 3 -/
def s3 : UInt8 := 0x03
/-- accept 2, size 3 -/
def s4 : UInt8 := 0x23
/-- accept 3, size 4 -/
def s5 : UInt8 := 0x34
/-- accept 0, size 4 -/
def s6 : UInt8 := 0x04
/-- accept 4, size 4 -/
def s7 : UInt8 := 0x44

/-- Go's 256-entry `first` table, written range by range. -/
def first (b : UInt8) : UInt8 :=
  if b < 0x80 then as
  else if b < 0xC2 then xx
  else if b < 0xE0 then s1
  else if b = 0xE0 then s2
  else if b < 0xED then s3
  else if b = 0xED then s4
  else if b < 0xF0 then s3
  else if b = 0xF0 then s5
  else if b < 0xF4 then s6
  else if b = 0xF4 then s7
  else xx

/-- The range of valid values for the second byte of a sequence. -/
structure AcceptRange where
  lo : UInt8
  hi : UInt8

/-- `acceptRanges`, 16 entries of which the first five are set. -/
def acceptRanges : Nat → AcceptRange
  | 0 => ⟨locb, hicb⟩
  | 1 => ⟨0xA0, hicb⟩
  | 2 => ⟨locb, 0x9F⟩
  | 3 => ⟨0x90, hicb⟩
  | 4 => ⟨locb, 0x8F⟩
  | _ => ⟨0, 0⟩

/-- `utf8.DecodeRuneInString`: the first rune of `s` and its width in bytes. The code's
branch-free `rune(x) << 31 >> 31` mask picks `RuneError` exactly when `x = xx`; bytes past the
length check are read with `getD`, which never falls back there. -/
def decodeRuneInString (s : GoString) : Rune × Nat :=
  match s with
  | [] => (RuneError, 0)
  | s0 :: _ =>
    let x := first s0
    if as ≤ x then (if x = xx then RuneError else s0.toNat, 1)
    else
      let sz := (x &&& 7).toNat
      let accept := acceptRanges (x >>> 4).toNat
      if s.length < sz then (RuneError, 1)
      else
        let s1 := s.getD 1 0
        if s1 < accept.lo || accept.hi < s1 then (RuneError, 1)
        else if sz ≤ 2 then ((s0 &&& mask2).toNat <<< 6 ||| (s1 &&& maskx).toNat, 2)
        else
          let s2 := s.getD 2 0
          if s2 < locb || hicb < s2 then (RuneError, 1)
          else if sz ≤ 3 then
            ((s0 &&& mask3).toNat <<< 12 ||| (s1 &&& maskx).toNat <<< 6 |||
              (s2 &&& maskx).toNat, 3)
          else
            let s3 := s.getD 3 0
            if s3 < locb || hicb < s3 then (RuneError, 1)
            else
              ((s0 &&& mask4).toNat <<< 18 ||| (s1 &&& maskx).toNat <<< 12 |||
                (s2 &&& maskx).toNat <<< 6 ||| (s3 &&& maskx).toNat, 4)

theorem decodeRuneInString_ascii {b : UInt8} (hb : b.toNat < RuneSelf) (s : GoString) :
    decodeRuneInString (b :: s) = (b.toNat, 1) := by
  have hf : first b = as := if_pos hb
  simp [decodeRuneInString, hf, xx, as]

theorem decodeRuneInString_size_pos (b : UInt8) (s : GoString) :
    0 < (decodeRuneInString (b :: s)).2 := by
  simp [decodeRuneInString, apply_ite Prod.snd, apply_ite (0 < ·)]

example : decodeRuneInString [0xC3, 0xA9] = (0xE9, 2) := by decide
example : decodeRuneInString [0xE2, 0x82, 0xAC] = (0x20AC, 3) := by decide
example : decodeRuneInString [0xED, 0xA0, 0x80] = (RuneError, 1) := by decide

/-! ## Well-formed sequences -/

theorem mask2_toNat : mask2.toNat = 2 ^ 5 - 1 := rfl
theorem mask3_toNat : mask3.toNat = 2 ^ 4 - 1 := rfl
theorem mask4_toNat : mask4.toNat = 2 ^ 3 - 1 := rfl
theorem maskx_toNat : maskx.toNat = 2 ^ 6 - 1 := rfl

theorem shiftLeft_or_of_lt {x y k : Nat} (hy : y < 2 ^ k) : x <<< k ||| y = x * 2 ^ k + y := by
  rw [Nat.shiftLeft_eq, Nat.mul_comm, Nat.mul_add_lt_is_or hy]

theorem shiftLeft_or_three {a b c : Nat} (hb : b < 2 ^ 6) (hc : c < 2 ^ 6) :
    a <<< 12 ||| b <<< 6 ||| c = a * 4096 + b * 64 + c := by
  rw [Nat.or_assoc, shiftLeft_or_of_lt hc, shiftLeft_or_of_lt (k := 12) (by omega)]
  omega

theorem shiftLeft_or_four {a b c d : Nat} (hb : b < 2 ^ 6) (hc : c < 2 ^ 6) (hd : d < 2 ^ 6) :
    a <<< 18 ||| b <<< 12 ||| c <<< 6 ||| d = a * 262144 + b * 4096 + c * 64 + d := by
  rw [Nat.or_assoc, Nat.or_assoc, shiftLeft_or_of_lt hd, shiftLeft_or_of_lt (k := 12) (by omega),
    shiftLeft_or_of_lt (k := 18) (by omega)]
  omega

/-- `first` read on the byte's value. -/
theorem first_eq (b : UInt8) : first b =
    if b.toNat < 0x80 then as else if b.toNat < 0xC2 then xx else if b.toNat < 0xE0 then s1
    else if b.toNat = 0xE0 then s2 else if b.toNat < 0xED then s3 else if b.toNat = 0xED then s4
    else if b.toNat < 0xF0 then s3 else if b.toNat = 0xF0 then s5 else if b.toNat < 0xF4 then s6
    else if b.toNat = 0xF4 then s7 else xx := by
  simp only [first, byte_lt_iff, byte_eq_iff]
  rfl

section Accepted

variable {b0 b1 b2 b3 x : UInt8} {sz : Nat} (rest : GoString)

/-- What `DecodeRuneInString` checks of a sequence's first two bytes before it reads the rest:
the class `first b0` is a multi-byte one of `sz` bytes, and `b1` lies in its accept range. -/
structure Accepts (sz : Nat) (b0 b1 : UInt8) : Prop where
  multi : ¬ as ≤ first b0
  size : (first b0 &&& 7).toNat = sz
  lo_le : (acceptRanges (first b0 >>> 4).toNat).lo ≤ b1
  le_hi : b1 ≤ (acceptRanges (first b0 >>> 4).toNat).hi

theorem Accepts.of_first (hf : first b0 = x) (hx : ¬ as ≤ x) (hsz : (x &&& 7).toNat = sz)
    (hlo : (acceptRanges (x >>> 4).toNat).lo.toNat ≤ b1.toNat)
    (hhi : b1.toNat ≤ (acceptRanges (x >>> 4).toNat).hi.toNat) : Accepts sz b0 b1 := by
  subst hf
  exact ⟨hx, hsz, hlo, hhi⟩

/-! The lead bytes of Unicode's table of well-formed sequences, with the bounds it puts on the
second byte after `E0`, `ED`, `F0` and `F4`, are what `first` and `acceptRanges` accept. -/

theorem accepts_two (h0 : 0xC2 ≤ b0.toNat ∧ b0.toNat < 0xE0)
    (h1 : 0x80 ≤ b1.toNat ∧ b1.toNat < 0xC0) : Accepts 2 b0 b1 :=
  .of_first (x := s1) (by simp (disch := omega) only [first_eq, if_pos, if_neg])
    (by decide) rfl (show 0x80 ≤ _ by omega) (show _ ≤ 0xBF by omega)

theorem accepts_three (h0 : 0xE0 ≤ b0.toNat ∧ b0.toNat < 0xF0)
    (h1 : 0x80 ≤ b1.toNat ∧ b1.toNat < 0xC0) (hE0 : b0.toNat = 0xE0 → 0xA0 ≤ b1.toNat)
    (hED : b0.toNat = 0xED → b1.toNat < 0xA0) : Accepts 3 b0 b1 := by
  by_cases e0 : b0.toNat = 0xE0
  · exact .of_first (x := s2) (by simp (disch := omega) only [first_eq, if_pos, if_neg])
      (by decide) rfl (show 0xA0 ≤ _ by omega) (show _ ≤ 0xBF by omega)
  by_cases eD : b0.toNat = 0xED
  · exact .of_first (x := s4) (by simp (disch := omega) only [first_eq, if_pos, if_neg])
      (by decide) rfl (show 0x80 ≤ _ by omega) (show _ ≤ 0x9F by omega)
  · exact .of_first (x := s3) (by simp (disch := omega) only [first_eq, if_pos, if_neg, ite_self])
      (by decide) rfl (show 0x80 ≤ _ by omega) (show _ ≤ 0xBF by omega)

theorem accepts_four (h0 : 0xF0 ≤ b0.toNat ∧ b0.toNat < 0xF5)
    (h1 : 0x80 ≤ b1.toNat ∧ b1.toNat < 0xC0) (hF0 : b0.toNat = 0xF0 → 0x90 ≤ b1.toNat)
    (hF4 : b0.toNat = 0xF4 → b1.toNat < 0x90) : Accepts 4 b0 b1 := by
  by_cases e0 : b0.toNat = 0xF0
  · exact .of_first (x := s5) (by simp (disch := omega) only [first_eq, if_pos, if_neg])
      (by decide) rfl (show 0x90 ≤ _ by omega) (show _ ≤ 0xBF by omega)
  by_cases e4 : b0.toNat = 0xF4
  · exact .of_first (x := s7) (by simp (disch := omega) only [first_eq, if_pos, if_neg])
      (by decide) rfl (show 0x80 ≤ _ by omega) (show _ ≤ 0x8F by omega)
  · exact .of_first (x := s6) (by simp (disch := omega) only [first_eq, if_pos, if_neg])
      (by decide) rfl (show 0x80 ≤ _ by omega) (show _ ≤ 0xBF by omega)

theorem cont_ok {b : UInt8} (h : 0x80 ≤ b.toNat ∧ b.toNat < 0xC0) : ¬ b < locb ∧ ¬ hicb < b :=
  ⟨fun h' => absurd (byte_lt_iff.mp h') (show ¬ b.toNat < 0x80 by omega),
    fun h' => absurd (byte_lt_iff.mp h') (show ¬ 0xBF < b.toNat by omega)⟩

theorem decodeRuneInString_two (h : Accepts 2 b0 b1) :
    decodeRuneInString (b0 :: b1 :: rest) = (b0.toNat % 32 * 64 + b1.toNat % 64, 2) := by
  simp [decodeRuneInString, h.multi, h.size, UInt8.not_lt.mpr h.lo_le, UInt8.not_lt.mpr h.le_hi]
  rw [mask2_toNat, maskx_toNat, Nat.and_pow_two_sub_one_eq_mod, Nat.and_pow_two_sub_one_eq_mod,
    shiftLeft_or_of_lt (Nat.mod_lt _ (by decide))]
  rfl

theorem decodeRuneInString_three (h : Accepts 3 b0 b1)
    (h2 : 0x80 ≤ b2.toNat ∧ b2.toNat < 0xC0) :
    decodeRuneInString (b0 :: b1 :: b2 :: rest) =
      (b0.toNat % 16 * 4096 + b1.toNat % 64 * 64 + b2.toNat % 64, 3) := by
  simp [decodeRuneInString, h.multi, h.size, UInt8.not_lt.mpr h.lo_le, UInt8.not_lt.mpr h.le_hi,
    cont_ok h2]
  rw [mask3_toNat, maskx_toNat, Nat.and_pow_two_sub_one_eq_mod, Nat.and_pow_two_sub_one_eq_mod,
    Nat.and_pow_two_sub_one_eq_mod,
    shiftLeft_or_three (Nat.mod_lt _ (by decide)) (Nat.mod_lt _ (by decide))]
  rfl

theorem decodeRuneInString_four (h : Accepts 4 b0 b1) (h2 : 0x80 ≤ b2.toNat ∧ b2.toNat < 0xC0)
    (h3 : 0x80 ≤ b3.toNat ∧ b3.toNat < 0xC0) :
    decodeRuneInString (b0 :: b1 :: b2 :: b3 :: rest) =
      (b0.toNat % 8 * 262144 + b1.toNat % 64 * 4096 + b2.toNat % 64 * 64 + b3.toNat % 64, 4) := by
  simp [decodeRuneInString, h.multi, h.size, UInt8.not_lt.mpr h.lo_le, UInt8.not_lt.mpr h.le_hi,
    cont_ok h2, cont_ok h3]
  rw [mask4_toNat, maskx_toNat, Nat.and_pow_two_sub_one_eq_mod, Nat.and_pow_two_sub_one_eq_mod,
    Nat.and_pow_two_sub_one_eq_mod, Nat.and_pow_two_sub_one_eq_mod,
    shiftLeft_or_four (Nat.mod_lt _ (by decide)) (Nat.mod_lt _ (by decide))
      (Nat.mod_lt _ (by decide))]
  rfl

end Accepted

/-- The runes `for _, r := range s` yields, with `fuel` rounds. -/
def runesAux : Nat → GoString → List Rune
  | 0, _ => []
  | _ + 1, [] => []
  | n + 1, s@(_ :: _) => (decodeRuneInString s).1 :: runesAux n (s.drop (decodeRuneInString s).2)

/-- The runes `range` reads from `s`, a byte below `RuneSelf` as itself and any other through
`decodeRuneInString`. A rune takes at least one byte, so `s.length` rounds read all of `s`. -/
def runes (s : GoString) : List Rune := runesAux s.length s

theorem runesAux_nil (n : Nat) : runesAux n [] = [] := by
  cases n <;> rfl

/-- Fuel past the length of the string changes nothing. -/
theorem runesAux_fuel : ∀ {n m : Nat} {s : GoString}, s.length ≤ n → s.length ≤ m →
    runesAux n s = runesAux m s
  | _, _, [], _, _ => by rw [runesAux_nil, runesAux_nil]
  | n + 1, m + 1, b :: s, hn, hm => by
    have hd := decodeRuneInString_size_pos b s
    simp only [runesAux]
    rw [runesAux_fuel (n := n) (m := m)] <;> simp only [List.length_drop, List.length_cons] at * <;>
      omega

/-- `range` over a non-empty string: its first rune, then the runes of what follows it. -/
theorem runes_cons (b : UInt8) (s : GoString) :
    runes (b :: s) = (decodeRuneInString (b :: s)).1 ::
      runes ((b :: s).drop (decodeRuneInString (b :: s)).2) := by
  have hd := decodeRuneInString_size_pos b s
  rw [runes, List.length_cons, runesAux, runes]
  exact congrArg _ (runesAux_fuel (by simp only [List.length_drop, List.length_cons]; omega) le_rfl)

theorem runes_cons_ascii {b : UInt8} (hb : b.toNat < RuneSelf) (s : GoString) :
    runes (b :: s) = b.toNat :: runes s := by
  rw [runes_cons, decodeRuneInString_ascii hb]
  rfl

example : runes [0x41, 0xC3, 0xA9, 0xFF] = [0x41, 0xE9, RuneError] := by decide

/-! ## Encoded text -/

theorem byte_or_toNat (a b : UInt8) : (a ||| b).toNat = a.toNat ||| b.toNat := BitVec.toNat_or ..

theorem toUInt8_toNat (v : UInt32) : v.toUInt8.toNat = v.toNat % 256 := rfl

theorem shiftRight_toNat (v k : UInt32) : (v >>> k).toNat = v.toNat / 2 ^ (k.toNat % 32) := by
  show (v.toBitVec >>> (k.toBitVec % 32#32).toNat).toNat = _
  rw [BitVec.toNat_ushiftRight, Nat.shiftRight_eq_div_pow, BitVec.toNat_umod]
  rfl

/-- A byte `String.utf8EncodeChar` writes: the low `k` bits of `b` under the tag `t`. -/
theorem tagged_toNat (b m t : UInt8) {k c : Nat} (hm : m.toNat = 2 ^ k - 1)
    (ht : t.toNat = 2 ^ k * c) : (b &&& m ||| t).toNat = 2 ^ k * c + b.toNat % 2 ^ k := by
  have hlt : (b &&& m).toNat < 2 ^ k := by
    rw [UInt8.and_toNat, hm, Nat.and_pow_two_sub_one_eq_mod]
    exact Nat.mod_lt _ (Nat.two_pow_pos k)
  rw [byte_or_toNat, ht, Nat.or_comm, ← Nat.mul_add_lt_is_or hlt, UInt8.and_toNat, hm,
    Nat.and_pow_two_sub_one_eq_mod]

/-- A byte `String.utf8EncodeChar` writes from a code point `x`: its low `k` bits under the tag
`t`, for each of the four shapes (`k` is 5, 4 or 3 in a first byte, 6 in the others). -/
theorem encoded_toNat {k c : Nat} (m t : UInt8) (hm : m.toNat = 2 ^ k - 1)
    (ht : t.toNat = 2 ^ k * c) (hk : k ≤ 8) (x : UInt32) :
    (x.toUInt8 &&& m ||| t).toNat = 2 ^ k * c + x.toNat % 2 ^ k := by
  rw [tagged_toNat _ m t hm ht, toUInt8_toNat, Nat.mod_mod_of_dvd _ (Nat.pow_dvd_pow 2 hk)]

section Encoded

variable {v : UInt32} {n : Nat} (hn : v.toNat = n) (rest : GoString)
include hn

theorem decodeRuneInString_encoded_two (h : 0x80 ≤ n ∧ n < 0x800) :
    decodeRuneInString (((v >>> 6).toUInt8 &&& 0x1F ||| 0xC0) :: (v.toUInt8 &&& 0x3F ||| 0x80) ::
      rest) = (n, 2) := by
  rw [decodeRuneInString_two rest (accepts_two ?_ ?_)] <;>
    simp only [encoded_toNat (k := 5) (c := 6) 0x1F 0xC0 rfl rfl (by decide),
      encoded_toNat (k := 6) (c := 2) 0x3F 0x80 rfl rfl (by decide), shiftRight_toNat, hn,
      Nat.reduceMul, UInt32.reduceToNat, Nat.reduceMod, Nat.reducePow, Prod.mk.injEq,
      and_true] <;> omega

theorem decodeRuneInString_encoded_three (h : 0x800 ≤ n ∧ n < 0x10000)
    (hs : n < 0xD800 ∨ 0xDFFF < n) :
    decodeRuneInString (((v >>> 12).toUInt8 &&& 0x0F ||| 0xE0) ::
      ((v >>> 6).toUInt8 &&& 0x3F ||| 0x80) :: (v.toUInt8 &&& 0x3F ||| 0x80) :: rest) = (n, 3) := by
  rw [decodeRuneInString_three rest (accepts_three ?_ ?_ ?_ ?_) ?_] <;>
    simp only [encoded_toNat (k := 4) (c := 14) 0x0F 0xE0 rfl rfl (by decide),
      encoded_toNat (k := 6) (c := 2) 0x3F 0x80 rfl rfl (by decide), shiftRight_toNat, hn,
      Nat.reduceMul, UInt32.reduceToNat, Nat.reduceMod, Nat.reducePow, Prod.mk.injEq,
      and_true] <;> omega

theorem decodeRuneInString_encoded_four (h : 0x10000 ≤ n ∧ n < 0x110000) :
    decodeRuneInString (((v >>> 18).toUInt8 &&& 0x07 ||| 0xF0) ::
      ((v >>> 12).toUInt8 &&& 0x3F ||| 0x80) :: ((v >>> 6).toUInt8 &&& 0x3F ||| 0x80) ::
      (v.toUInt8 &&& 0x3F ||| 0x80) :: rest) = (n, 4) := by
  rw [decodeRuneInString_four rest (accepts_four ?_ ?_ ?_ ?_) ?_ ?_] <;>
    simp only [encoded_toNat (k := 3) (c := 30) 0x07 0xF0 rfl rfl (by decide),
      encoded_toNat (k := 6) (c := 2) 0x3F 0x80 rfl rfl (by decide), shiftRight_toNat, hn,
      Nat.reduceMul, UInt32.reduceToNat, Nat.reduceMod, Nat.reducePow, Prod.mk.injEq,
      and_true] <;> omega

end Encoded

/-- `DecodeRuneInString` reads back every character `String.utf8EncodeChar` writes, whatever
follows it: the encoder's sequences are the well-formed ones, surrogates excluded. -/
theorem decodeRuneInString_utf8EncodeChar (c : Char) (rest : GoString) :
    decodeRuneInString (String.utf8EncodeChar c ++ rest) = (c.toNat, c.utf8Size) := by
  obtain ⟨n, hn⟩ : ∃ n, c.val.toNat = n := ⟨_, rfl⟩
  have hv : n < 0xD800 ∨ 0xDFFF < n ∧ n < 0x110000 := hn ▸ c.valid
  rw [← String.length_utf8EncodeChar, show c.toNat = n from hn]
  simp only [String.utf8EncodeChar, word_le_iff, hn, UInt32.reduceToNat]
  split_ifs with h1 h2 h3 <;> simp only [List.cons_append, List.nil_append, List.length_cons,
    List.length_nil, Nat.reduceAdd]
  · have e : c.val.toUInt8.toNat = n := by rw [toUInt8_toNat, hn]; omega
    rw [decodeRuneInString_ascii (e ▸ (show n < 128 by omega)), e]
  · exact decodeRuneInString_encoded_two hn rest (by omega)
  · exact decodeRuneInString_encoded_three hn rest (by omega) (by omega)
  · exact decodeRuneInString_encoded_four hn rest (by omega)

theorem runes_utf8EncodeChar_append (c : Char) (s : GoString) :
    runes (String.utf8EncodeChar c ++ s) = c.toNat :: runes s := by
  obtain ⟨b, bs, he⟩ : ∃ b bs, String.utf8EncodeChar c = b :: bs := by
    simp only [String.utf8EncodeChar]; split_ifs <;> exact ⟨_, _, rfl⟩
  rw [he, List.cons_append, runes_cons, ← List.cons_append, ← he,
    decodeRuneInString_utf8EncodeChar, ← String.length_utf8EncodeChar, List.drop_left]

/-- The bytes of a Go string that holds the text `s`: its UTF-8 encoding. -/
def ofString (s : String) : GoString := s.toUTF8.data.toList

/-- `range` over the bytes of a text yields its characters. -/
theorem runes_ofString (s : String) : runes (ofString s) = s.data.map Char.toNat := by
  show runes (s.data.flatMap String.utf8EncodeChar) = _
  induction s.data with
  | nil => rfl
  | cons c cs ih => rw [List.flatMap_cons, runes_utf8EncodeChar_append, ih, List.map_cons]

/-! ## What the decoder accepts -/

/-- A byte `first` classes as single is ASCII, or the invalid class `xx`. -/
theorem first_single {b : UInt8} (h : as ≤ first b) (hx : first b ≠ xx) : b.toNat < 0x80 := by
  by_contra h1
  have hc : first b = xx ∨ ¬ as ≤ first b := by
    rw [first_eq, if_neg h1]
    repeat' refine iteInduction (motive := fun v => v = xx ∨ ¬ as ≤ v) (fun _ => ?_) (fun _ => ?_)
    all_goals decide
  exact hc.elim hx (absurd h)

/-- The multi-byte classes of `first`, lead byte by lead byte: the size and the bounds on the
second byte. -/
theorem first_multi {b : UInt8} (h : ¬ as ≤ first b) :
    0xC2 ≤ b.toNat ∧ b.toNat < 0xE0 ∧ (first b &&& 7).toNat = 2 ∧
      (acceptRanges (first b >>> 4).toNat).lo.toNat = 0x80 ∧
      (acceptRanges (first b >>> 4).toNat).hi.toNat = 0xBF ∨
    0xE0 ≤ b.toNat ∧ b.toNat < 0xF0 ∧ (first b &&& 7).toNat = 3 ∧
      (acceptRanges (first b >>> 4).toNat).lo.toNat = (if b.toNat = 0xE0 then 0xA0 else 0x80) ∧
      (acceptRanges (first b >>> 4).toNat).hi.toNat = (if b.toNat = 0xED then 0x9F else 0xBF) ∨
    0xF0 ≤ b.toNat ∧ b.toNat < 0xF5 ∧ (first b &&& 7).toNat = 4 ∧
      (acceptRanges (first b >>> 4).toNat).lo.toNat = (if b.toNat = 0xF0 then 0x90 else 0x80) ∧
      (acceptRanges (first b >>> 4).toNat).hi.toNat = (if b.toNat = 0xF4 then 0x8F else 0xBF) := by
  rw [first_eq]
  by_cases h1 : b.toNat < 0x80
  · exact (h (by rw [first_eq, if_pos h1]; decide)).elim
  rw [if_neg h1]
  by_cases h2 : b.toNat < 0xC2
  · exact (h (by rw [first_eq, if_neg h1, if_pos h2]; decide)).elim
  rw [if_neg h2]
  by_cases h3 : b.toNat < 0xE0
  · rw [if_pos h3]
    exact .inl ⟨by omega, h3, rfl, rfl, rfl⟩
  rw [if_neg h3]
  by_cases h4 : b.toNat = 0xE0
  · rw [if_pos h4, if_pos h4, if_neg (by omega)]
    exact .inr (.inl ⟨by omega, by omega, rfl, rfl, rfl⟩)
  rw [if_neg h4, if_neg h4]
  by_cases h5 : b.toNat < 0xED
  · rw [if_pos h5, if_neg (by omega)]
    exact .inr (.inl ⟨by omega, by omega, rfl, rfl, rfl⟩)
  rw [if_neg h5]
  by_cases h6 : b.toNat = 0xED
  · rw [if_pos h6, if_pos h6]
    exact .inr (.inl ⟨by omega, by omega, rfl, rfl, rfl⟩)
  rw [if_neg h6, if_neg h6]
  by_cases h7 : b.toNat < 0xF0
  · rw [if_pos h7]
    exact .inr (.inl ⟨by omega, h7, rfl, rfl, rfl⟩)
  rw [if_neg h7]
  by_cases h8 : b.toNat = 0xF0
  · rw [if_pos h8, if_pos h8, if_neg (by omega)]
    exact .inr (.inr ⟨by omega, by omega, rfl, rfl, rfl⟩)
  rw [if_neg h8, if_neg h8]
  by_cases h9 : b.toNat < 0xF4
  · rw [if_pos h9, if_neg (by omega)]
    exact .inr (.inr ⟨by omega, by omega, rfl, rfl, rfl⟩)
  rw [if_neg h9]
  by_cases h10 : b.toNat = 0xF4
  · rw [if_pos h10, if_pos h10]
    exact .inr (.inr ⟨by omega, by omega, rfl, rfl, rfl⟩)
  exact (h (by rw [first_eq, if_neg h1, if_neg h2, if_neg h3, if_neg h4, if_neg h5, if_neg h6,
    if_neg h7, if_neg h8, if_neg h9, if_neg h10]; decide)).elim

/-- The converse of `accepts_two`, `accepts_three` and `accepts_four`: what the tables accept of
a sequence's first two bytes is Unicode's table, size by size. -/
theorem Accepts.ranges {sz : Nat} {b0 b1 : UInt8} (h : Accepts sz b0 b1) :
    (0x80 ≤ b1.toNat ∧ b1.toNat < 0xC0) ∧
      (sz = 2 → 0xC2 ≤ b0.toNat ∧ b0.toNat < 0xE0) ∧
      (sz = 3 → 0xE0 ≤ b0.toNat ∧ b0.toNat < 0xF0 ∧ (b0.toNat = 0xE0 → 0xA0 ≤ b1.toNat) ∧
        (b0.toNat = 0xED → b1.toNat < 0xA0)) ∧
      (sz = 4 → 0xF0 ≤ b0.toNat ∧ b0.toNat < 0xF5 ∧ (b0.toNat = 0xF0 → 0x90 ≤ b1.toNat) ∧
        (b0.toNat = 0xF4 → b1.toNat < 0x90)) := by
  have hlo := byte_le_iff.mp h.lo_le
  have hhi := byte_le_iff.mp h.le_hi
  have hs := h.size
  rcases first_multi h.multi with ⟨_, _, e, elo, ehi⟩ | ⟨_, _, e, elo, ehi⟩ | ⟨_, _, e, elo, ehi⟩ <;>
    rw [elo] at hlo <;> rw [ehi] at hhi <;> (try split_ifs at hlo hhi) <;> omega

theorem first_size {b : UInt8} (h : ¬ as ≤ first b) :
    2 ≤ (first b &&& 7).toNat ∧ (first b &&& 7).toNat ≤ 4 := by
  rcases first_multi h with ⟨-, -, e, -⟩ | ⟨-, -, e, -⟩ | ⟨-, -, e, -⟩ <;> omega

/-- A byte the decoder's range check lets through, read as a number. -/
theorem decode_checks {b lo hi : UInt8} (h : ¬ (decide (b < lo) || decide (hi < b)) = true) :
    lo ≤ b ∧ b ≤ hi := by
  simp only [Bool.or_eq_true, decide_eq_true_eq, not_or] at h
  exact ⟨UInt8.not_lt.mp h.1, UInt8.not_lt.mp h.2⟩

theorem cont_of_checks {b : UInt8} (h : locb ≤ b ∧ b ≤ hicb) : 0x80 ≤ b.toNat ∧ b.toNat < 0xC0 :=
  ⟨h.1, Nat.lt_succ_of_le h.2⟩

/-- The converse of `decodeRuneInString_two` and its kin: past a multi-byte lead, a decode that
does not fail has read one of the well-formed sequences of `accepts_two`, `accepts_three` and
`accepts_four`. -/
theorem decodeRuneInString_multi {b0 : UInt8} {s : GoString} (hm : ¬ as ≤ first b0)
    (h : decodeRuneInString (b0 :: s) ≠ (RuneError, 1)) :
    ∃ b1 rest, s = b1 :: rest ∧ (0x80 ≤ b1.toNat ∧ b1.toNat < 0xC0) ∧
      ((0xC2 ≤ b0.toNat ∧ b0.toNat < 0xE0) ∨
        ∃ b2 rest', rest = b2 :: rest' ∧ (0x80 ≤ b2.toNat ∧ b2.toNat < 0xC0) ∧
          ((0xE0 ≤ b0.toNat ∧ b0.toNat < 0xF0 ∧ (b0.toNat = 0xE0 → 0xA0 ≤ b1.toNat) ∧
              (b0.toNat = 0xED → b1.toNat < 0xA0)) ∨
            ∃ b3 rest'', rest' = b3 :: rest'' ∧ (0x80 ≤ b3.toNat ∧ b3.toNat < 0xC0) ∧
              0xF0 ≤ b0.toNat ∧ b0.toNat < 0xF5 ∧ (b0.toNat = 0xF0 → 0x90 ≤ b1.toNat) ∧
              (b0.toNat = 0xF4 → b1.toNat < 0x90))) := by
  have hsz := first_size hm
  dsimp only [decodeRuneInString] at h
  rw [if_neg hm] at h
  obtain ⟨hl, h⟩ := ite_ne_left_iff.mp h
  obtain ⟨hr, h⟩ := ite_ne_left_iff.mp h.symm
  rcases s with _ | ⟨b1, rest⟩
  · simp only [List.length_cons, List.length_nil] at hl
    omega
  have hr := (Accepts.mk hm rfl (decode_checks hr).1 (decode_checks hr).2).ranges
  refine ⟨b1, rest, rfl, hr.1, ?_⟩
  by_cases h2 : (first b0 &&& 7).toNat ≤ 2
  · exact .inl (hr.2.1 (by omega))
  rw [if_neg h2] at h
  obtain ⟨hr2, h⟩ := ite_ne_left_iff.mp h.symm
  rcases rest with _ | ⟨b2, rest⟩
  · simp only [List.length_cons, List.length_nil] at hl
    omega
  refine .inr ⟨b2, rest, rfl, cont_of_checks (decode_checks hr2), ?_⟩
  by_cases h3 : (first b0 &&& 7).toNat ≤ 3
  · exact .inl (hr.2.2.1 (by omega))
  rw [if_neg h3] at h
  obtain ⟨hr3, -⟩ := ite_ne_left_iff.mp h.symm
  rcases rest with _ | ⟨b3, rest⟩
  · simp only [List.length_cons, List.length_nil] at hl
    omega
  exact .inr ⟨b3, rest, rfl, cont_of_checks (decode_checks hr3), hr.2.2.2 (by omega)⟩

theorem toNat_ofNatAux (n : Nat) (h : n.isValidChar) : (Char.ofNatAux n h).toNat = n := rfl

/-! The character a well-formed sequence spells is written back as that sequence. -/

theorem utf8EncodeChar_one {b : UInt8} {c : Char} (h0 : b.toNat < 0x80) (hc : c.toNat = b.toNat) :
    String.utf8EncodeChar c = [b] := by
  obtain ⟨n, hn⟩ : ∃ n, c.val.toNat = n := ⟨_, rfl⟩
  rw [show c.toNat = n from hn] at hc
  simp only [String.utf8EncodeChar, word_le_iff, hn, UInt32.reduceToNat,
    if_pos (show n ≤ 127 by omega), List.cons.injEq, and_true, byte_eq_iff, toUInt8_toNat]
  omega

theorem utf8EncodeChar_two {b0 b1 : UInt8} {c : Char} (h0 : 0xC2 ≤ b0.toNat ∧ b0.toNat < 0xE0)
    (h1 : 0x80 ≤ b1.toNat ∧ b1.toNat < 0xC0) (hc : c.toNat = b0.toNat % 32 * 64 + b1.toNat % 64) :
    String.utf8EncodeChar c = [b0, b1] := by
  obtain ⟨n, hn⟩ : ∃ n, c.val.toNat = n := ⟨_, rfl⟩
  rw [show c.toNat = n from hn] at hc
  simp only [String.utf8EncodeChar, word_le_iff, hn, UInt32.reduceToNat, Nat.reducePow,
    Nat.reduceMod, if_neg (show ¬ n ≤ 127 by omega), if_pos (show n ≤ 2047 by omega),
    List.cons.injEq, and_true, byte_eq_iff, encoded_toNat (k := 5) (c := 6) 0x1F 0xC0 rfl rfl (by decide),
    encoded_toNat (k := 6) (c := 2) 0x3F 0x80 rfl rfl (by decide), shiftRight_toNat, Nat.reduceMul]
  omega

theorem utf8EncodeChar_three {b0 b1 b2 : UInt8} {c : Char}
    (h0 : 0xE0 ≤ b0.toNat ∧ b0.toNat < 0xF0) (hE0 : b0.toNat = 0xE0 → 0xA0 ≤ b1.toNat)
    (h1 : 0x80 ≤ b1.toNat ∧ b1.toNat < 0xC0) (h2 : 0x80 ≤ b2.toNat ∧ b2.toNat < 0xC0)
    (hc : c.toNat = b0.toNat % 16 * 4096 + b1.toNat % 64 * 64 + b2.toNat % 64) :
    String.utf8EncodeChar c = [b0, b1, b2] := by
  obtain ⟨n, hn⟩ : ∃ n, c.val.toNat = n := ⟨_, rfl⟩
  rw [show c.toNat = n from hn] at hc
  simp only [String.utf8EncodeChar, word_le_iff, hn, UInt32.reduceToNat, Nat.reducePow,
    Nat.reduceMod, if_neg (show ¬ n ≤ 127 by omega), if_neg (show ¬ n ≤ 2047 by omega),
    if_pos (show n ≤ 65535 by omega), List.cons.injEq, and_true, byte_eq_iff,
    encoded_toNat (k := 4) (c := 14) 0x0F 0xE0 rfl rfl (by decide),
    encoded_toNat (k := 6) (c := 2) 0x3F 0x80 rfl rfl (by decide), shiftRight_toNat, Nat.reduceMul]
  omega

theorem utf8EncodeChar_four {b0 b1 b2 b3 : UInt8} {c : Char}
    (h0 : 0xF0 ≤ b0.toNat ∧ b0.toNat < 0xF5) (hF0 : b0.toNat = 0xF0 → 0x90 ≤ b1.toNat)
    (h1 : 0x80 ≤ b1.toNat ∧ b1.toNat < 0xC0) (h2 : 0x80 ≤ b2.toNat ∧ b2.toNat < 0xC0)
    (h3 : 0x80 ≤ b3.toNat ∧ b3.toNat < 0xC0)
    (hc : c.toNat = b0.toNat % 8 * 262144 + b1.toNat % 64 * 4096 + b2.toNat % 64 * 64 +
      b3.toNat % 64) :
    String.utf8EncodeChar c = [b0, b1, b2, b3] := by
  obtain ⟨n, hn⟩ : ∃ n, c.val.toNat = n := ⟨_, rfl⟩
  rw [show c.toNat = n from hn] at hc
  simp only [String.utf8EncodeChar, word_le_iff, hn, UInt32.reduceToNat, Nat.reducePow,
    Nat.reduceMod, if_neg (show ¬ n ≤ 127 by omega), if_neg (show ¬ n ≤ 2047 by omega),
    if_neg (show ¬ n ≤ 65535 by omega), List.cons.injEq, and_true, byte_eq_iff,
    encoded_toNat (k := 3) (c := 30) 0x07 0xF0 rfl rfl (by decide),
    encoded_toNat (k := 6) (c := 2) 0x3F 0x80 rfl rfl (by decide), shiftRight_toNat, Nat.reduceMul]
  omega

/-- `'�'` itself is three bytes wide, so a one-byte `RuneError` is always a failed decode. -/
theorem utf8Size_runeError {c : Char} (h : c.toNat = RuneError) : c.utf8Size = 3 := by
  obtain ⟨n, hn⟩ : ∃ n, c.val.toNat = n := ⟨_, rfl⟩
  rw [show c.toNat = n from hn] at h
  simp only [Char.utf8Size, word_le_iff, hn, h, RuneError]
  rfl

/-- `DecodeRuneInString` fails at a byte exactly when no character's UTF-8 encoding starts
there: it accepts the sequences `String.utf8EncodeChar` writes, and nothing else. -/
theorem decodeRuneInString_eq_error_iff (b : UInt8) (s : GoString) :
    decodeRuneInString (b :: s) = (RuneError, 1) ↔
      ¬ ∃ c rest, b :: s = String.utf8EncodeChar c ++ rest := by
  constructor
  · rintro h ⟨c, rest, he⟩
    rw [he, decodeRuneInString_utf8EncodeChar, Prod.mk.injEq] at h
    exact absurd h.2 (by rw [utf8Size_runeError h.1]; decide)
  intro hne
  by_contra h
  apply hne
  by_cases hm : as ≤ first b
  · have hx : first b ≠ xx := fun hx => h (by simp only [decodeRuneInString, if_pos hm, if_pos hx])
    have hb := first_single hm hx
    have hv : Nat.isValidChar b.toNat := .inl (by omega)
    exact ⟨_, s, by rw [utf8EncodeChar_one hb (toNat_ofNatAux _ hv)]; rfl⟩
  obtain ⟨b1, rest, rfl, hb1, h0 | ⟨b2, rest, rfl, hb2, h0 | ⟨b3, rest, rfl, hb3, h0⟩⟩⟩ :=
    decodeRuneInString_multi hm h
  · have hv : Nat.isValidChar (b.toNat % 32 * 64 + b1.toNat % 64) := .inl (by omega)
    exact ⟨_, rest, by rw [utf8EncodeChar_two h0 hb1 (toNat_ofNatAux _ hv)]; rfl⟩
  · have hv : Nat.isValidChar (b.toNat % 16 * 4096 + b1.toNat % 64 * 64 + b2.toNat % 64) := by
      unfold Nat.isValidChar; omega
    exact ⟨_, rest, by
      rw [utf8EncodeChar_three ⟨h0.1, h0.2.1⟩ h0.2.2.1 hb1 hb2 (toNat_ofNatAux _ hv)]; rfl⟩
  · have hv : Nat.isValidChar (b.toNat % 8 * 262144 + b1.toNat % 64 * 4096 + b2.toNat % 64 * 64 +
        b3.toNat % 64) := .inr ⟨by omega, by omega⟩
    exact ⟨_, rest, by
      rw [utf8EncodeChar_four ⟨h0.1, h0.2.1⟩ h0.2.2.1 hb1 hb2 hb3 (toNat_ofNatAux _ hv)]; rfl⟩

end Utf8

end Restic
