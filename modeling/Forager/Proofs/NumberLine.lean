import Mathlib.Data.Prod.Lex
import Forager.Single

/-!
# The number line

Comparison of single-precision numbers through what they are: a sign and a magnitude, zero, an
infinity, or NaN, which compares with nothing.

* `lt_iff_compare`, `le_iff_compare`: the two relations on opened numbers.
* `pos_iff_not_le`: positive and not at most zero are the same of a number that exceeds another.
* `compare_eq_rank`: off NaN, numbers compare as their places on the line.
* `le_total`, `le_trans`: so the order of what is not NaN is a linear one.
* `isNaN_of_mul`, `isNaN_of_add`: what is computed from NaN is NaN.
-/
namespace Forager.Single

open Float.Model (UnpackedFloat)

theorem lt_iff_compare {a b : Float32} :
    a < b ↔ a.toModel.unpack.compare b.toModel.unpack = some .lt := by
  have h : a < b ↔ decide (a.toModel.lt b.toModel = true) = true := Iff.rfl
  rw [h, decide_eq_true_iff]
  exact beq_iff_eq

theorem le_iff_compare {a b : Float32} :
    a ≤ b ↔ (a.toModel.unpack.compare b.toModel.unpack).any (·.isLE) = true := by
  have h : a ≤ b ↔ decide (a.toModel.le b.toModel = true) = true := Iff.rfl
  rw [h, decide_eq_true_iff]
  exact Iff.rfl

theorem unpack_zero : (0 : Float32).toModel.unpack = .zero .positive := rfl

/-- Off NaN, not being at most zero is being positive. -/
theorem pos_iff_not_le {a d : Float32} (h : d < a) : 0 < a ↔ ¬a ≤ 0 := by
  rw [lt_iff_compare] at h
  rw [lt_iff_compare, le_iff_compare, unpack_zero]
  cases ha : a.toModel.unpack with
  | notANumber =>
    rw [ha] at h
    cases hd : d.toModel.unpack <;> rw [hd] at h <;> cases h
  | infinity s => cases s <;> decide
  | zero s => cases s <;> decide
  | finite s m e hm =>
    cases s with
    | positive => exact iff_of_true rfl Bool.false_ne_true
    | negative => exact iff_of_false nofun (fun hn => hn rfl)

/-! ## Places on the line -/

/-- The place of an opened number: infinities outermost, then by sign, then by magnitude. -/
def rank : UnpackedFloat → Int ×ₗ Int ×ₗ Int
  | .infinity .negative => toLex (-2, toLex (0, 0))
  | .finite .negative m e _ => toLex (-1, toLex (-e, -m))
  | .zero _ | .notANumber => toLex (0, toLex (0, 0))
  | .finite .positive m e _ => toLex (1, toLex (e, m))
  | .infinity .positive => toLex (2, toLex (0, 0))

theorem compare_neg (a b : Int) : compare (-a) (-b) = (compare a b).swap := by
  rw [Int.compare_swap]
  simp only [compare, compareOfLessAndEq]
  grind

theorem compare_natCast (a b : Nat) : compare (a : Int) b = compare a b := by
  simp only [compare, compareOfLessAndEq]
  grind

theorem compare_eq_rank {a b : UnpackedFloat} (ha : a ≠ .notANumber) (hb : b ≠ .notANumber) :
    a.compare b = some (compare (rank a) (rank b)) := by
  cases a with
  | notANumber => exact absurd rfl ha
  | infinity s =>
    cases b with
    | notANumber => exact absurd rfl hb
    | infinity s' => cases s <;> cases s' <;> rfl
    | zero s' => cases s <;> rfl
    | finite s' m e hm => cases s <;> cases s' <;> rfl
  | zero s =>
    cases b with
    | notANumber => exact absurd rfl hb
    | infinity s' => cases s' <;> rfl
    | zero s' => rfl
    | finite s' m e hm => cases s' <;> rfl
  | finite s m e hm =>
    cases b with
    | notANumber => exact absurd rfl hb
    | infinity s' => cases s <;> cases s' <;> rfl
    | zero s' => cases s <;> rfl
    | finite s' m' e' hm' =>
      cases s with
      | negative =>
        cases s' with
        | negative =>
          show some ((compare e e').then (compare m m')).swap =
            some ((compare (-e) (-e')).then (compare (-(m : Int)) (-(m' : Int))))
          rw [compare_neg, compare_neg, compare_natCast, Ordering.swap_then]
        | positive => rfl
      | positive =>
        cases s' with
        | negative => rfl
        | positive =>
          show some ((compare e e').then (compare m m')) =
            some ((compare e e').then (compare (m : Int) (m' : Int)))
          rw [compare_natCast]

theorem unpack_ne_notANumber {a : Float32} (h : a.isNaN = false) :
    a.toModel.unpack ≠ .notANumber := by
  intro nan
  have isNaN : a.toModel.unpack.isNaN = false := h
  rw [nan] at isNaN
  cases isNaN

theorem isNaN_eq_false {a : Float32} (h : a.toModel.unpack ≠ .notANumber) : a.isNaN = false := by
  show a.toModel.unpack.isNaN = false
  cases ha : a.toModel.unpack with
  | notANumber => exact absurd ha h
  | infinity s => rfl
  | zero s => rfl
  | finite s m e hm => rfl

/-! ## The order off NaN -/

section Order

variable {a b c : Float32}

theorem le_iff_rank (ha : a.isNaN = false) (hb : b.isNaN = false) :
    a ≤ b ↔ rank a.toModel.unpack ≤ rank b.toModel.unpack := by
  rw [le_iff_compare, compare_eq_rank (unpack_ne_notANumber ha) (unpack_ne_notANumber hb),
    ← compare_le_iff_le, Option.any_some, Ordering.isLE_iff_ne_gt]

theorem lt_iff_rank (ha : a.isNaN = false) (hb : b.isNaN = false) :
    a < b ↔ rank a.toModel.unpack < rank b.toModel.unpack := by
  rw [lt_iff_compare, compare_eq_rank (unpack_ne_notANumber ha) (unpack_ne_notANumber hb),
    ← compare_lt_iff_lt, Option.some_inj]

/-- What compares with something is not NaN. -/
theorem isNaN_of_le (h : a ≤ b) : a.isNaN = false ∧ b.isNaN = false := by
  rw [le_iff_compare] at h
  constructor
  · refine isNaN_eq_false fun nan => ?_
    rw [nan] at h
    cases h
  · refine isNaN_eq_false fun nan => ?_
    rw [nan] at h
    cases ha : a.toModel.unpack <;> rw [ha] at h <;> cases h

theorem le_of_lt (h : a < b) : a ≤ b := by
  rw [le_iff_compare, lt_iff_compare.1 h]
  rfl

theorem le_total (ha : a.isNaN = false) (hb : b.isNaN = false) : a ≤ b ∨ b ≤ a := by
  rw [le_iff_rank ha hb, le_iff_rank hb ha]
  exact LinearOrder.le_total _ _

theorem le_trans (hab : a ≤ b) (hbc : b ≤ c) : a ≤ c := by
  obtain ⟨ha, hb⟩ := isNaN_of_le hab
  have hc := (isNaN_of_le hbc).2
  rw [le_iff_rank ha hb] at hab
  rw [le_iff_rank hb hc] at hbc
  rw [le_iff_rank ha hc]
  exact hab.trans hbc

theorem lt_of_le_of_lt (hab : a ≤ b) (hbc : b < c) : a < c := by
  obtain ⟨ha, hb⟩ := isNaN_of_le hab
  have hc := (isNaN_of_le (le_of_lt hbc)).2
  rw [le_iff_rank ha hb] at hab
  rw [lt_iff_rank hb hc] at hbc
  rw [lt_iff_rank ha hc]
  exact hab.trans_lt hbc

theorem le_of_not_lt (ha : a.isNaN = false) (hb : b.isNaN = false) (h : ¬a < b) : b ≤ a := by
  rw [lt_iff_rank ha hb, not_lt] at h
  exact (le_iff_rank hb ha).2 h

end Order

/-! ## NaN in arithmetic -/

section Arithmetic

variable {a b : Float32}

theorem isNaN_pack_notANumber : (Float32.Model.pack .notANumber).isNaN = true := by
  decide +kernel

theorem isNaN_of_mul (h : (a * b).isNaN = false) : a.isNaN = false := by
  refine isNaN_eq_false fun nan => ?_
  have product : UnpackedFloat.mul .binary32 .notANumber b.toModel.unpack = .notANumber := by
    cases b.toModel.unpack <;> rfl
  have packed : (Float32.Model.pack (.mul .binary32 a.toModel.unpack b.toModel.unpack)).isNaN =
      false := h
  rw [nan, product, isNaN_pack_notANumber] at packed
  cases packed

theorem isNaN_of_add (h : (a + b).isNaN = false) : a.isNaN = false ∧ b.isNaN = false := by
  have packed : (Float32.Model.pack (.add .binary32 a.toModel.unpack b.toModel.unpack)).isNaN =
      false := h
  constructor
  · refine isNaN_eq_false fun nan => ?_
    have sum : UnpackedFloat.add .binary32 .notANumber b.toModel.unpack = .notANumber := by
      cases b.toModel.unpack <;> rfl
    rw [nan, sum, isNaN_pack_notANumber] at packed
    cases packed
  · refine isNaN_eq_false fun nan => ?_
    have sum : UnpackedFloat.add .binary32 a.toModel.unpack .notANumber = .notANumber := by
      cases a.toModel.unpack <;> rfl
    rw [nan, sum, isNaN_pack_notANumber] at packed
    cases packed

end Arithmetic

end Forager.Single
