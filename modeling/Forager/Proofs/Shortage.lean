import Mathlib
import Forager.Proofs.Rounding
import Forager.World.Need

/-!
# Shortage

What is missing of a resource is counted in whole points, and in no more than `2 ^ 32` of them. So a
resource is low once that many points exceed the fraction of its maximum: a part of a point does not
count, nor does what is missing beyond the greatest word.

* `whole_eq`: the whole part of a number, as a word.
* `exactly_toFloat32`: a word that the format has room for is not rounded.
* `exists_wholePoints`: the whole points in a number from zero up.
* `isLow_iff_wholePoints`: when a resource is low.
-/
namespace Forager

namespace Single

open Float.Model (UnpackedFloat Format)
open Float.Model.UnpackedFloat (Sign roundToInt toInt)

/-! ## Whole parts -/

/-- The whole part of `m * 2 ^ e`. -/
def floorOf (m : Nat) (e : Int) : Nat := m * 2 ^ e.toNat / 2 ^ (-e).toNat

theorem roundToInt_positive (m : Nat) (e : Int) :
    roundToInt .positive m e = (floorOf m e : Int) := by
  have down : (0 - (e - (e - 0).toNat)).toNat = (-e).toNat := by omega
  show ((((⟨m <<< (e - 0).toNat, false, false⟩ : UnpackedFloat.ExtendedMantissa) >>>
    (0 - (e - (e - 0).toNat)).toNat).mantissa : Nat) : Int) = _
  rw [mantissa_shift, down, Nat.shiftLeft_eq, Int.sub_zero, floorOf]

theorem magnitude_zero_right (n : Nat) : magnitude n 0 = n := by
  rw [magnitude, zpow_zero, mul_one]

/-- Whole numbers below `m * 2 ^ e` are those below its whole part. -/
theorem le_floorOf_iff {m n : Nat} {e : Int} : n ≤ floorOf m e ↔ (n : ℝ) ≤ magnitude m e := by
  have up : e - e.toNat + e.toNat = e := by omega
  have down : e - e.toNat + (-e).toNat = 0 := by omega
  rw [floorOf, Nat.le_div_iff_mul_le (by positivity), ← magnitude_zero_right n, ← down,
    ← magnitude_mul_two_pow, ← magnitude_le_iff, magnitude_mul_two_pow m, up]

/-- The whole part is in the format, too: either nothing is cut off, or little is left. -/
theorem exists_floorOf {m : Nat} {e : Int} (form : Representable m e) :
    ∃ m' e', Representable m' e' ∧ magnitude m' e' = floorOf m e := by
  rcases lt_or_ge e 0 with fraction | integer
  · have few : floorOf m e ≤ m := by
      have none : e.toNat = 0 := by omega
      rw [floorOf, none, pow_zero, mul_one]
      exact Nat.div_le_self ..
    have fits := form.fits
    exact ⟨floorOf m e, 0, ⟨by omega, by omega⟩, magnitude_zero_right _⟩
  · have all : floorOf m e = m * 2 ^ e.toNat := by
      have none : (-e).toNat = 0 := by omega
      rw [floorOf, none, pow_zero, Nat.div_one]
    refine ⟨m, e, form, ?_⟩
    rw [all, ← magnitude_zero_right, magnitude_mul_two_pow]
    congr 1
    omega

/-- A word that the format has room for is not rounded. -/
theorem exactly_toFloat32 {n : UInt32} {m : Nat} {e : Int} (form : Representable m e)
    (same : magnitude m e = n.toNat) : Exactly n.toFloat32 n.toNat := by
  have closed : n.toFloat32.toModel.unpack =
    (Float32.Model.pack (.normalize .binary32 (n.toNat : Int) 0 .positive)).unpack := rfl
  rcases Nat.eq_zero_or_pos n.toNat with none | pos
  · have zero : UnpackedFloat.normalize .binary32 ((0 : Nat) : Int) 0 .positive =
      .zero .positive := rfl
    rw [none, zero, unpack_pack_zero] at closed
    constructor
    · exact isNaN_eq_false (by rw [closed]; nofun)
    · rw [value, closed, none, Nat.cast_zero]
      rfl
  · obtain ⟨r, t, rounds, settled⟩ := exists_rounds_normalize pos 0
    rw [magnitude_zero_right] at rounds
    have kept := rounds.eq form same
    have small : magnitude r t < magnitude (2 ^ 23) 105 := by
      have word : n.toNat < 2 ^ 32 := n.toNat_lt
      have below : (n.toNat : ℝ) < 2 ^ 32 := by exact_mod_cast word
      rw [kept, magnitude]
      refine below.trans ?_
      norm_num
    rw [settled] at closed
    constructor
    · refine isNaN_eq_false ?_
      rw [closed]
      exact (le_standsFor_pack rounds).1
    · rw [value, closed, standsFor_pack rounds small, kept, EReal.coe_natCast]

/-- The whole part of a number, as a word. -/
theorem whole_eq (x : Float32) :
    whole x = UInt32.ofNatClamp (toInt 0 (2 ^ 32 - 1) x.toModel.unpack).toNat := rfl

/-- The greatest word is rounded up. -/
theorem exactly_greatestWord :
    Exactly (UInt32.ofNatClamp (2 ^ 32)).toFloat32 (2 ^ 32 : ℕ) := by
  have bits : (UInt32.ofNatClamp (2 ^ 32)).toFloat32 = .ofBits 0x4f800000 := by decide +kernel
  have same : magnitude (2 ^ 23) 9 = (2 ^ 32 : ℕ) := by
    rw [magnitude]
    norm_num
  rw [bits, ← EReal.coe_natCast]
  exact exactly_of_unpack (m := 2 ^ 23) (e := 9) rfl same

theorem toNat_ofNatClamp {n : Nat} (h : n < 2 ^ 32) : (UInt32.ofNatClamp n).toNat = n := by
  have fits : n < UInt32.size := h
  rw [UInt32.ofNatClamp, dif_pos fits, UInt32.toNat_ofNatLT]

theorem ofNatClamp_of_le {n : Nat} (h : 2 ^ 32 ≤ n) :
    UInt32.ofNatClamp n = UInt32.ofNatClamp (2 ^ 32) := by
  have many : ¬n < UInt32.size := not_lt.2 h
  rw [UInt32.ofNatClamp, dif_neg many]
  rfl

/-- The whole points in a number from zero up: as many as a number of them fit in, unless there are
too many for a word. -/
theorem exists_wholePoints {x : Float32} (h : 0 ≤ x) :
    ∃ k : ℕ, Exactly (whole x).toFloat32 k ∧
      ∀ n : ℕ, n ≤ k ↔ n ≤ 2 ^ 32 ∧ (n : EReal) ≤ value x := by
  rw [whole_eq]
  rcases unpack_of_nonneg h with ⟨s, opened⟩ | opened | ⟨m, e, pos, opened⟩
  · have form : Representable 0 0 := ⟨by decide, by decide⟩
    have none : magnitude 0 0 = (UInt32.ofNatClamp 0).toNat :=
      (magnitude_zero 0).trans Nat.cast_zero.symm
    refine ⟨0, ?_, fun n => ?_⟩
    · rw [opened]
      exact exactly_toFloat32 form none
    · have zero : standsFor (.zero s) = (0 : ℕ) := Nat.cast_zero.symm
      rw [value, opened, zero, EReal.natCast_le_iff]
      omega
  · refine ⟨2 ^ 32, ?_, fun n => ?_⟩
    · rw [opened]
      exact exactly_greatestWord
    · rw [value, opened]
      exact (and_iff_left le_top).symm
  · have form : Representable m e := by
      have normal := inForm x
      rw [opened] at normal
      exact normal.1.toRepresentable
    have points (n : ℕ) : n ≤ floorOf m e ↔ (n : EReal) ≤ value x := by
      rw [value, opened, le_floorOf_iff, ← EReal.coe_natCast]
      exact EReal.coe_le_coe_iff.symm
    have word : (toInt 0 (2 ^ 32 - 1) x.toModel.unpack).toNat = floorOf m e := by
      rw [opened]
      exact congrArg Int.toNat (roundToInt_positive m e)
    rw [word]
    -- Beyond a word the greatest one is taken, and the format rounds it up.
    rcases lt_or_ge (floorOf m e) (2 ^ 32) with few | many
    · obtain ⟨m', e', form', same⟩ := exists_floorOf form
      refine ⟨floorOf m e, ?_, fun n => ?_⟩
      · have stored := exactly_toFloat32 (n := UInt32.ofNatClamp (floorOf m e)) form'
          (by rw [toNat_ofNatClamp few, same])
        rwa [toNat_ofNatClamp few] at stored
      · rw [← points]
        omega
    · refine ⟨2 ^ 32, ?_, fun n => ?_⟩
      · rw [ofNatClamp_of_le many]
        exact exactly_greatestWord
      · rw [← points]
        omega

theorem value_zero : value 0 = 0 := rfl

/-- Cutting off what is below zero leaves the points of a number. -/
theorem larger_zero {x : Float32} (number : x.isNaN = false) :
    0 ≤ larger x 0 ∧
      ∀ n : ℕ, 0 < n → ((n : EReal) ≤ value (larger x 0) ↔ (n : EReal) ≤ value x) := by
  by_cases below : x ≤ 0
  · have clamped : larger x 0 = 0 := if_pos below
    have negative : value x ≤ 0 := (le_iff_value number rfl).1 below
    rw [clamped, value_zero]
    refine ⟨by decide +kernel, fun n pos => ?_⟩
    have some : (0 : EReal) < n := by exact_mod_cast pos
    exact iff_of_false (not_le.2 some) (not_le.2 (negative.trans_lt some))
  · rw [larger_of_not_le below]
    exact ⟨(le_total number rfl).resolve_left below, fun _ _ => Iff.rfl⟩

end Single

/-! ## Low resources -/

section Low

open Single

/-- Whether neither what is missing nor the fraction of the maximum is rounded. -/
structure Unrounded (maximum current fraction : Float32) : Prop where
  missing : Exactly (maximum - current) (value maximum - value current)
  limit : Exactly (maximum * fraction) (value maximum * value fraction)

/-- A resource is low if the points that are missing, counted one by one and no further than
`2 ^ 32`, exceed the given fraction of the maximum. -/
theorem isLow_iff_wholePoints {maximum current fraction : Float32} (most : 0 < maximum)
    (share : 0 < fraction) (exact : Unrounded maximum current fraction) :
    isLow maximum current fraction = true ↔
      ∃ n : ℕ, n ≤ 2 ^ 32 ∧ value maximum * value fraction < n ∧
        (n : EReal) ≤ value maximum - value current := by
  have limited : 0 ≤ value maximum * value fraction := by
    have most' := (lt_iff_value rfl (isNaN_of_le (le_of_lt most)).2).1 most
    have share' := (lt_iff_value rfl (isNaN_of_le (le_of_lt share)).2).1 share
    exact EReal.mul_nonneg most'.le share'.le
  obtain ⟨missing, limit⟩ := exact
  obtain ⟨clamped, same⟩ := larger_zero missing.number
  obtain ⟨k, stored, points⟩ := exists_wholePoints clamped
  have low : isLow maximum current fraction = true ↔ value maximum * value fraction < k := by
    rw [← limit.value, ← stored.value, ← lt_iff_value limit.number stored.number]
    exact decide_eq_true_iff
  rw [low, ← missing.value]
  constructor
  · intro above
    have some : 0 < k := by exact_mod_cast limited.trans_lt above
    obtain ⟨few, there⟩ := (points k).1 le_rfl
    exact ⟨k, few, above, (same k some).1 there⟩
  · rintro ⟨n, few, above, there⟩
    have some : 0 < n := by exact_mod_cast limited.trans_lt above
    have counted : n ≤ k := (points n).2 ⟨few, (same n some).2 there⟩
    exact above.trans_le (EReal.natCast_le_iff.2 counted)

section Concrete

variable {maximum current fraction : Float32} {x y z : ℝ}

theorem unrounded_of_exactly (h : Exactly maximum x) (h' : Exactly current y)
    (h'' : Exactly fraction z) (missing : Exactly (maximum - current) (x - y : ℝ))
    (limit : Exactly (maximum * fraction) (x * z : ℝ)) : Unrounded maximum current fraction := by
  constructor
  · rwa [h.value, h'.value, ← EReal.coe_sub]
  · rwa [h.value, h''.value, ← EReal.coe_mul]

theorem exceeds_of_exactly (h : Exactly maximum x) (h' : Exactly current y)
    (h'' : Exactly fraction z) (exceeds : x * z < x - y) :
    value maximum * value fraction < value maximum - value current := by
  rw [h.value, h'.value, h''.value, ← EReal.coe_mul, ← EReal.coe_sub, EReal.coe_lt_coe_iff]
  exact exceeds

end Concrete

theorem exactly_ten : Exactly 10 (10 : ℝ) := by
  refine exactly_of_unpack (m := 10 * 2 ^ 20) (e := -20) rfl ?_
  norm_num [magnitude]

theorem exactly_half : Exactly 0.5 (0.5 : ℝ) := by
  refine exactly_of_unpack (m := 2 ^ 23) (e := -24) rfl ?_
  norm_num [magnitude]

theorem exactly_halfOfTen : Exactly (10 * 0.5) (10 * 0.5 : ℝ) := by
  refine exactly_of_unpack (m := 5 * 2 ^ 21) (e := -21) rfl ?_
  norm_num [magnitude]

/-- Six of ten points are missing. -/
theorem isLow_iff_wholePoints_sixOfTen :
    Unrounded 10 4 0.5 ∧ isLow 10 4 0.5 = true := by
  have four : Exactly 4 (4 : ℝ) := by
    refine exactly_of_unpack (m := 2 ^ 23) (e := -21) rfl ?_
    norm_num [magnitude]
  have missing : Exactly (10 - 4) (10 - 4 : ℝ) := by
    refine exactly_of_unpack (m := 6 * 2 ^ 21) (e := -21) rfl ?_
    norm_num [magnitude]
  have unrounded : Unrounded 10 4 0.5 :=
    unrounded_of_exactly exactly_ten four exactly_half missing exactly_halfOfTen
  have most : (0 : Float32) < 10 := by decide +kernel
  have share : (0 : Float32) < 0.5 := by decide +kernel
  refine ⟨unrounded, (isLow_iff_wholePoints most share unrounded).2 ⟨6, by decide, ?_, ?_⟩⟩
  · rw [exactly_ten.value, exactly_half.value, ← EReal.coe_mul, ← EReal.coe_natCast,
      EReal.coe_lt_coe_iff]
    norm_num
  · rw [exactly_ten.value, four.value, ← EReal.coe_sub, ← EReal.coe_natCast,
      EReal.coe_le_coe_iff]
    norm_num

/-- Neither the half of a point that is missing over five of ten counts, nor what is missing over
`2 ^ 32` points of four times as many. -/
theorem isLow_undercounts :
    (Unrounded 10 4.5 0.5 ∧ value 10 * value 0.5 < value 10 - value 4.5 ∧
      isLow 10 4.5 0.5 = false) ∧
    Unrounded 17179869184 0 0.5 ∧
      value 17179869184 * value 0.5 < value 17179869184 - value 0 ∧
      isLow 17179869184 0 0.5 = false := by
  constructor
  · have fourAndHalf : Exactly 4.5 (4.5 : ℝ) := by
      refine exactly_of_unpack (m := 9 * 2 ^ 20) (e := -21) rfl ?_
      norm_num [magnitude]
    have missing : Exactly (10 - 4.5) (10 - 4.5 : ℝ) := by
      refine exactly_of_unpack (m := 11 * 2 ^ 20) (e := -21) rfl ?_
      norm_num [magnitude]
    refine ⟨unrounded_of_exactly exactly_ten fourAndHalf exactly_half missing exactly_halfOfTen,
      exceeds_of_exactly exactly_ten fourAndHalf exactly_half ?_, by decide +kernel⟩
    norm_num
  · have most : Exactly 17179869184 (17179869184 : ℝ) := by
      refine exactly_of_unpack (m := 2 ^ 23) (e := 11) rfl ?_
      norm_num [magnitude]
    have none : Exactly 0 (0 : ℝ) := ⟨rfl, rfl⟩
    have missing : Exactly (17179869184 - 0) (17179869184 - 0 : ℝ) := by
      refine exactly_of_unpack (m := 2 ^ 23) (e := 11) rfl ?_
      norm_num [magnitude]
    have limit : Exactly (17179869184 * 0.5) (17179869184 * 0.5 : ℝ) := by
      refine exactly_of_unpack (m := 2 ^ 23) (e := 10) rfl ?_
      norm_num [magnitude]
    refine ⟨unrounded_of_exactly most none exactly_half missing limit,
      exceeds_of_exactly most none exactly_half ?_, by decide +kernel⟩
    norm_num

end Low

end Forager
