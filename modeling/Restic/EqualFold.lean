import Mathlib.Data.List.Forall2
import Restic.Utf8

/-!
# `strings.EqualFold`

Go's `EqualFold` first walks both strings byte by byte while both bytes are ASCII, and at the
first byte of either that is not, reads the rest of both as runes. Two runes match when they
are equal, when they are an ASCII letter and its lower case, or when `unicode.SimpleFold`
leads from the smaller to the larger. The Unicode case-orbit table behind `SimpleFold` is not
part of this repository; it is the parameter `simpleFold`, and only the last section assumes
anything of it.

The fast path is an optimisation only: `EqualFold` is the rune loop over both whole strings
(`equalFold_eq_runes`), since a byte below `RuneSelf` decodes to itself and the rune loop treats
two ASCII runes as the fast path does. That is enough for what the restore loop needs:
`EqualFold` is reflexive (`equalFold_self`) and symmetric (`equalFold_comm`) for every table,
since the rune loop puts the smaller rune first before it compares. On names that are text it
compares their characters (`equalFold_ofString`). On ASCII names it is equality after lowering
ASCII letters (`equalFold_ascii`).

For a `SimpleFold` that does what Go documents (from a rune to the smallest larger rune of its
fold class) over classes shaped as Unicode's, the walk from the smaller rune reaches the larger
exactly when both are in one class. So `EqualFold` holds exactly when the two strings' runes
pair off in the same classes (`equalFold_iff_foldClasses`).
-/

namespace Restic

namespace Strings

open Utf8

/-- `'A' <= sr && sr <= 'Z' && tr == sr+'a'-'A'`: `sr` is an ASCII capital and `tr` its lower
case. -/
def isASCIIFold (sr tr : Nat) : Bool :=
  0x41 ≤ sr && sr ≤ 0x5A && tr == sr + 0x61 - 0x41

variable (simpleFold : Rune → Rune)

/-- `for r != sr && r < tr { r = unicode.SimpleFold(r) }`, with `fuel` rounds. -/
def foldWalk (sr tr : Rune) : Nat → Rune → Rune
  | 0, r => r
  | n + 1, r => if r ≠ sr ∧ r < tr then foldWalk sr tr n (simpleFold r) else r

/-- Two different runes once `sr < tr`: ASCII only by case, otherwise by the `SimpleFold` orbit
of `sr`. An orbit is a cycle of at most `MaxRune + 1` runes, so the walk ends, as the code's
loop does, within that many rounds. -/
def foldOrdered (sr tr : Rune) : Bool :=
  if tr < RuneSelf then isASCIIFold sr tr
  else foldWalk simpleFold sr tr (MaxRune + 1) (simpleFold sr) = tr

/-- Whether the `hasUnicode` loop goes on past the rune `sr` of `s` and `tr` of `t`. -/
def foldRune (sr tr : Rune) : Bool :=
  if tr = sr then true
  else if tr < sr then foldOrdered simpleFold tr sr
  else foldOrdered simpleFold sr tr

/-- The `hasUnicode` loop: `range` over the runes of `s`, taking the next rune of `t` for each. -/
def equalFoldRunes : List Rune → List Rune → Bool
  | [], t => t.isEmpty
  | _ :: _, [] => false
  | sr :: s, tr :: t => foldRune simpleFold sr tr && equalFoldRunes s t

/-- `strings.EqualFold`: the ASCII fast path, which goes to `hasUnicode` with what is left of
both strings at the first byte of either that is not ASCII. -/
def equalFold : GoString → GoString → Bool
  | sr :: s, tr :: t =>
    if RuneSelf ≤ (sr ||| tr).toNat then
      equalFoldRunes simpleFold (runes (sr :: s)) (runes (tr :: t))
    else if tr = sr then equalFold s t
    else
      (if tr < sr then isASCIIFold tr.toNat sr.toNat else isASCIIFold sr.toNat tr.toNat) &&
        equalFold s t
  | s, t => s.length == t.length

example : equalFold (fun r => if r = 0xE9 then 0xC9 else if r = 0xC9 then 0xE9 else r)
    [0x41, 0xC3, 0xA9] [0x61, 0xC3, 0x89] = true := by decide

/-! ## Reflexive and symmetric -/

@[simp] theorem foldRune_self (r : Rune) : foldRune simpleFold r r = true := by
  simp [foldRune]

theorem foldRune_comm (sr tr : Rune) : foldRune simpleFold sr tr = foldRune simpleFold tr sr := by
  unfold foldRune
  rcases lt_trichotomy sr tr with h | rfl | h
  · simp [h, h.ne, h.ne', Nat.lt_asymm h]
  · rfl
  · simp [h, h.ne, h.ne', Nat.lt_asymm h]

theorem equalFoldRunes_self : ∀ s : List Rune, equalFoldRunes simpleFold s s = true
  | [] => rfl
  | r :: s => by simp [equalFoldRunes, equalFoldRunes_self s]

theorem equalFoldRunes_comm :
    ∀ s t : List Rune, equalFoldRunes simpleFold s t = equalFoldRunes simpleFold t s
  | [], [] | [], _ :: _ | _ :: _, [] => rfl
  | sr :: s, tr :: t => by
    simp only [equalFoldRunes, foldRune_comm simpleFold sr, equalFoldRunes_comm s t]

/-! ## The fast path and the rune loop -/

theorem lt_two_pow_of_or_lt {a b k : Nat} (h : a ||| b < 2 ^ k) : a < 2 ^ k ∧ b < 2 ^ k := by
  have hbit : ∀ i ≥ k, a.testBit i = false ∧ b.testBit i = false := fun i hi => by
    have := Nat.testBit_lt_two_pow (Nat.lt_of_lt_of_le h (Nat.pow_le_pow_right (by decide) hi))
    simpa only [Nat.testBit_or, Bool.or_eq_false_iff] using this
  exact ⟨Nat.lt_pow_two_of_testBit a fun i hi => (hbit i hi).1,
    Nat.lt_pow_two_of_testBit b fun i hi => (hbit i hi).2⟩

theorem runes_cons_ne_nil (b : UInt8) (s : GoString) : runes (b :: s) ≠ [] := by
  simp [runes, runesAux]

/-- The ASCII fast path changes nothing: `EqualFold` is the rune loop over both strings. -/
theorem equalFold_eq_runes : ∀ s t : GoString,
    equalFold simpleFold s t = equalFoldRunes simpleFold (runes s) (runes t)
  | [], [] => rfl
  | [], _ :: _ => by simp [equalFold, equalFoldRunes, runes_cons_ne_nil]
  | _ :: _, [] => by simp [equalFold, equalFoldRunes, runes, runesAux]
  | sr :: s, tr :: t => by
    by_cases hu : RuneSelf ≤ (sr ||| tr).toNat
    · simp only [equalFold, if_pos hu]
    obtain ⟨hs, ht⟩ : sr.toNat < RuneSelf ∧ tr.toNat < RuneSelf :=
      lt_two_pow_of_or_lt (k := 7) (Nat.not_le.mp hu)
    rw [runes_cons_ascii hs, runes_cons_ascii ht, equalFoldRunes, ← equalFold_eq_runes s t]
    simp only [equalFold, if_neg hu]
    by_cases he : tr = sr
    · simp [he]
    · have hne : tr.toNat ≠ sr.toNat := fun h => he (byte_ext h)
      rcases Nat.lt_or_gt_of_ne hne with h | h
      · simp [foldRune, foldOrdered, he, hne, h, byte_lt_iff, hs]
      · simp [foldRune, foldOrdered, he, hne, h, Nat.lt_asymm h, byte_lt_iff, ht]

theorem equalFold_self (s : GoString) : equalFold simpleFold s s = true := by
  rw [equalFold_eq_runes, equalFoldRunes_self]

/-- `EqualFold` does not depend on the order of its arguments. -/
theorem equalFold_comm (s t : GoString) : equalFold simpleFold s t = equalFold simpleFold t s := by
  rw [equalFold_eq_runes, equalFold_eq_runes, equalFoldRunes_comm]

/-- On names that are text, `EqualFold` compares them character by character, each pair by
`foldRune`: neither the fast path nor the decoder sees anything but the code points. -/
theorem equalFold_ofString (s t : String) :
    equalFold simpleFold (ofString s) (ofString t) =
      equalFoldRunes simpleFold (s.data.map Char.toNat) (t.data.map Char.toNat) := by
  rw [equalFold_eq_runes, runes_ofString, runes_ofString]

/-! ## ASCII names -/

/-- ASCII lower case: a capital letter moves to its lower case, every other value stays. -/
def lowerASCII (b : Nat) : Nat :=
  if 0x41 ≤ b ∧ b ≤ 0x5A then b + 0x20 else b

theorem isASCIIFold_ordered_iff {a b : Nat} (h : a ≠ b) :
    (if b < a then isASCIIFold b a else isASCIIFold a b) = true ↔ lowerASCII a = lowerASCII b := by
  unfold isASCIIFold lowerASCII
  split_ifs <;> simp only [Bool.and_eq_true, decide_eq_true_eq, beq_iff_eq] <;> omega

theorem ascii_or_lt {a b : UInt8} (ha : a.toNat < RuneSelf) (hb : b.toNat < RuneSelf) :
    (a ||| b).toNat < RuneSelf :=
  Nat.or_lt_two_pow (n := 7) ha hb

/-- On ASCII strings `EqualFold` is equality once ASCII letters are lowered, whatever the
Unicode table. -/
theorem equalFold_ascii : ∀ {s t : GoString}, (∀ b ∈ s, b.toNat < RuneSelf) →
    (∀ b ∈ t, b.toNat < RuneSelf) →
    (equalFold simpleFold s t = true ↔
      s.map (lowerASCII ∘ UInt8.toNat) = t.map (lowerASCII ∘ UInt8.toNat))
  | [], [], _, _ => by simp [equalFold]
  | [], _ :: _, _, _ | _ :: _, [], _, _ => by simp [equalFold]
  | sr :: s, tr :: t, hs, ht => by
    have hsr := hs sr (List.mem_cons_self sr s)
    have htr := ht tr (List.mem_cons_self tr t)
    have ih := equalFold_ascii
      (fun b hb => hs b (List.mem_cons_of_mem sr hb)) (fun b hb => ht b (List.mem_cons_of_mem tr hb))
    simp only [equalFold, Nat.not_le.mpr (ascii_or_lt hsr htr), if_false, List.map_cons,
      List.cons.injEq, Function.comp, byte_lt_iff]
    by_cases he : tr = sr
    · simp [he, ih]
    · have hne : sr.toNat ≠ tr.toNat := fun e => he (byte_ext e).symm
      simp only [he, if_false, Bool.and_eq_true, isASCIIFold_ordered_iff hne, ih]

theorem equalFold_ascii_user :
    (∀ b ∈ ([0x75, 0x73, 0x65, 0x72] : GoString), b.toNat < RuneSelf) ∧
      (∀ b ∈ ([0x55, 0x73, 0x45, 0x52] : GoString), b.toNat < RuneSelf) ∧
      (equalFold id [0x75, 0x73, 0x65, 0x72] [0x55, 0x73, 0x45, 0x52] = true ↔
        ([0x75, 0x73, 0x65, 0x72] : GoString).map (lowerASCII ∘ UInt8.toNat) =
          ([0x55, 0x73, 0x45, 0x52] : GoString).map (lowerASCII ∘ UInt8.toNat)) :=
  ⟨by decide, by decide, equalFold_ascii id (by decide) (by decide)⟩

/-! ## Against the fold classes -/

/-- What Go documents of `unicode.SimpleFold`, over the fold classes `key` names: it stays in its
rune's class, and leads to the smallest larger rune of the class when there is one. A class of
more than one rune holds valid runes only, and below `RuneSelf` the classes are the ASCII
letters with their lower cases, as in Unicode. -/
structure FoldOrbits (key : Rune → Nat) : Prop where
  key_fold : ∀ r : Nat, key (simpleFold r) = key r
  next : ∀ r x : Nat, key x = key r → r < x → r < simpleFold r ∧ simpleFold r ≤ x
  valid : ∀ x y : Nat, key x = key y → x ≠ y → x ≤ MaxRune
  ascii : ∀ sr tr : Nat, sr < tr → tr < RuneSelf → (isASCIIFold sr tr = true ↔ key sr = key tr)

section Orbits

variable {simpleFold} {key : Rune → Nat} (h : FoldOrbits simpleFold key)
include h

/-- The walk stays in the class it starts in. -/
theorem foldWalk_key (sr tr : Rune) : ∀ n r, key (foldWalk simpleFold sr tr n r) = key r
  | 0, _ => rfl
  | n + 1, r => by
    unfold foldWalk
    split
    · rw [foldWalk_key sr tr n, h.key_fold]
    · rfl

/-- Climbing through the class of `sr` from below `tr`, the walk stops exactly at `tr`, within
as many rounds as there are runes between. -/
theorem foldWalk_reaches {sr tr : Nat} (hk : key tr = key sr) :
    ∀ (n r : Nat), sr < r → r ≤ tr → key r = key sr → tr - r < n →
      foldWalk simpleFold sr tr n r = tr
  | 0, _, _, _, _, hn => absurd hn (Nat.not_lt_zero _)
  | n + 1, r, hsr, hrt, hr, hn => by
    unfold foldWalk
    rcases Nat.lt_or_eq_of_le hrt with hlt | rfl
    · obtain ⟨h₁, h₂⟩ := h.next r tr (hk.trans hr.symm) hlt
      rw [if_pos ⟨Nat.ne_of_gt hsr, hlt⟩]
      exact foldWalk_reaches hk n (simpleFold r) (hsr.trans h₁) h₂ (by rw [h.key_fold, hr])
        (by omega)
    · exact if_neg fun h => Nat.lt_irrefl _ h.2

theorem foldOrdered_iff {sr tr : Rune} (hlt : sr < tr) :
    foldOrdered simpleFold sr tr = true ↔ key sr = key tr := by
  unfold foldOrdered
  split
  · exact h.ascii sr tr hlt ‹_›
  · rw [decide_eq_true_iff]
    refine ⟨fun hw => ?_, fun hk => ?_⟩
    · rw [← h.key_fold sr, ← foldWalk_key h sr tr (MaxRune + 1) (simpleFold sr), hw]
    · obtain ⟨h₁, h₂⟩ := h.next sr tr hk.symm hlt
      have hv := h.valid tr sr hk.symm (Nat.ne_of_gt hlt)
      exact foldWalk_reaches h hk.symm _ _ h₁ h₂ (h.key_fold sr)
        (Nat.lt_succ_of_le ((Nat.sub_le _ _).trans hv))

theorem foldRune_iff (sr tr : Rune) : foldRune simpleFold sr tr = true ↔ key sr = key tr := by
  unfold foldRune
  split_ifs with he hlt
  · simp [he]
  · rw [foldOrdered_iff h hlt, eq_comm]
  · exact foldOrdered_iff h (Nat.lt_of_le_of_ne (Nat.not_lt.mp hlt) (Ne.symm he))

theorem equalFoldRunes_iff : ∀ s t : List Rune,
    equalFoldRunes simpleFold s t = true ↔ List.Forall₂ (fun a b => key a = key b) s t
  | [], [] | [], _ :: _ | _ :: _, [] => by simp [equalFoldRunes]
  | sr :: s, tr :: t => by simp [equalFoldRunes, foldRune_iff h, equalFoldRunes_iff s t]

/-- `EqualFold` compares what it is meant to: for a `SimpleFold` as Go documents it, two strings
are equal under it exactly when their runes pair off, one by one, in the same fold class. -/
theorem equalFold_iff_foldClasses (s t : GoString) :
    equalFold simpleFold s t = true ↔
      List.Forall₂ (fun a b => key a = key b) (runes s) (runes t) := by
  rw [equalFold_eq_runes, equalFoldRunes_iff h]

end Orbits

/-- The fold table of ASCII alone: each letter leads to its other case. -/
def asciiSimpleFold (r : Nat) : Nat :=
  if 0x41 ≤ r ∧ r ≤ 0x5A then r + 0x20 else if 0x61 ≤ r ∧ r ≤ 0x7A then r - 0x20 else r

theorem asciiSimpleFold_orbits : FoldOrbits asciiSimpleFold lowerASCII where
  key_fold r := by unfold asciiSimpleFold lowerASCII; split_ifs <;> omega
  next := by
    intro r x hx hlt
    unfold asciiSimpleFold lowerASCII at *
    dsimp only [Rune] at *
    split_ifs at * <;> omega
  valid x y hxy hne := by unfold lowerASCII at hxy; unfold MaxRune; split_ifs at hxy <;> omega
  ascii sr tr hlt hr := by
    unfold isASCIIFold lowerASCII
    unfold RuneSelf at hr
    split_ifs <;> simp only [Bool.and_eq_true, decide_eq_true_eq, beq_iff_eq] <;> omega

theorem equalFold_iff_foldClasses_ascii :
    FoldOrbits asciiSimpleFold lowerASCII ∧
      (equalFold asciiSimpleFold [0x41, 0x62] [0x61, 0x42] = true ↔
        List.Forall₂ (fun a b => lowerASCII a = lowerASCII b) (runes [0x41, 0x62])
          (runes [0x61, 0x42])) :=
  ⟨asciiSimpleFold_orbits, equalFold_iff_foldClasses asciiSimpleFold_orbits _ _⟩

end Strings

end Restic
