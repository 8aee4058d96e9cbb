import Mathlib
import Forager.Proofs.NumberLine

/-!
# What numbers stand for

A single-precision number that is not NaN stands for a real number or for an infinity, and numbers
compare as what they stand for. This rests on the form of opened numbers: a significand of 24 bits
is full unless the exponent is the least one, so a greater exponent makes a greater number.

* `inForm_unpack`: opened numbers have that form.
* `unpack_pack_of_le`, `unpack_pack_of_lt`: closing a number in that form and opening it again.
* `lt_iff_value`, `le_iff_value`: the order of numbers is that of what they stand for.
* `le_greatest`: no number but infinity exceeds the greatest finite one.
-/
namespace Forager.Single

open Float.Model (UnpackedFloat Format)
open Float.Model.UnpackedFloat (Sign pack unpack packComponents packedInfinity unpack_packedZero
  unpackSign_packComponents unpackExponent_packComponents unpackMantissa_packComponents)

/-! ## The form of opened numbers -/

/-- Whether the format has room for a significand and an exponent. -/
structure Representable (m : Nat) (e : Int) : Prop where
  fits : m < 2 ^ 24
  least : -149 ≤ e

/-- Whether a significand and an exponent are in normal form: a significand that is not full has the
least exponent. -/
structure Normal (m : Nat) (e : Int) : Prop extends Representable m e where
  full : 2 ^ 23 ≤ m ∨ e = -149

/-- Whether an opened number is in normal form and below infinity. -/
def InForm : UnpackedFloat → Prop
  | .finite _ m e _ => Normal m e ∧ e ≤ 104
  | .notANumber | .infinity _ | .zero _ => True

theorem toNat_implicit (v : BitVec 23) : (1#1 ++ v).toNat = 2 ^ 23 + v.toNat := by
  rw [BitVec.toNat_append, ← Nat.shiftLeft_add_eq_or_of_lt v.isLt]
  rfl

theorem inForm_unpack (b : BitVec Format.binary32.numBits) : InForm (.unpack .binary32 b) := by
  have mantissa : (UnpackedFloat.unpackMantissa b).toNat < 2 ^ 23 :=
    (UnpackedFloat.unpackMantissa b).isLt
  have exponent : (UnpackedFloat.unpackExponent b).toNat < 2 ^ 8 :=
    (UnpackedFloat.unpackExponent b).isLt
  rw [UnpackedFloat.unpack]
  dsimp only
  split
  · split <;> trivial
  · rename_i notTop
    have below : (UnpackedFloat.unpackExponent b).toNat ≠ 255 := fun top =>
      notTop (BitVec.eq_of_toNat_eq top)
    split
    · rename_i bottom
      split
      · trivial
      · have least : ((0#8).toNat : Int) - ((127 : Nat) + (23 : Nat)) + 1 = -149 := rfl
        rw [bottom]
        show Normal (UnpackedFloat.unpackMantissa b).toNat
          (((0#8).toNat : Int) - ((127 : Nat) + (23 : Nat)) + 1) ∧
            ((0#8).toNat : Int) - ((127 : Nat) + (23 : Nat)) + 1 ≤ 104
        rw [least]
        exact ⟨⟨⟨by omega, by omega⟩, .inr rfl⟩, by omega⟩
    · rename_i notBottom
      have above : (UnpackedFloat.unpackExponent b).toNat ≠ 0 := fun zero =>
        notBottom (BitVec.eq_of_toNat_eq zero)
      have full : (1#1 ++ UnpackedFloat.unpackMantissa b).toNat =
        2 ^ 23 + (UnpackedFloat.unpackMantissa b).toNat := toNat_implicit _
      show Normal (1#1 ++ UnpackedFloat.unpackMantissa b).toNat
        ((UnpackedFloat.unpackExponent b).toNat - 150) ∧
          ((UnpackedFloat.unpackExponent b).toNat - 150 : Int) ≤ 104
      rw [full]
      exact ⟨⟨⟨by omega, by omega⟩, .inl (by omega)⟩, by omega⟩

/-! ## Closing and opening -/

/-- Closing an opened number gives it back. -/
theorem pack_unpack (a : Float32) : Float32.ofModel (.pack a.toModel.unpack) = a := by
  obtain ⟨⟨bits, valid⟩⟩ := a
  have same : UnpackedFloat.pack .binary32 (.unpack .binary32 bits.toBitVec) = bits.toBitVec :=
    UnpackedFloat.pack_unpack_of_valid valid
  show Float32.ofModel ⟨⟨UnpackedFloat.pack .binary32 (.unpack .binary32 bits.toBitVec)⟩, _⟩ = _
  congr 2
  exact congrArg UInt32.ofBitVec same

theorem unpack_packedInfinity (s : Sign) :
    UnpackedFloat.unpack .binary32 (UnpackedFloat.packedInfinity .binary32 s) = .infinity s := by
  unfold UnpackedFloat.packedInfinity UnpackedFloat.unpack
  simp only [unpackMantissa_packComponents, unpackExponent_packComponents,
    unpackSign_packComponents, Sign.ofBitVec_toBitVec, if_true]
  rfl

theorem unpack_pack_infinity (s : Sign) :
    (Float32.Model.pack (.infinity s)).unpack = .infinity s := unpack_packedInfinity s

theorem unpack_pack_zero (s : Sign) : (Float32.Model.pack (.zero s)).unpack = .zero s :=
  unpack_packedZero

section Pack

variable {s : Sign} {m : Nat} {e : Int} {pos : 0 < m}

theorem pack_finite : pack .binary32 (.finite s m e pos) =
    if 2 ^ 8 ≤ (e + (127 : Nat) + (23 : Nat)).toNat + 1 then packedInfinity .binary32 s
    else if m.log2 + 1 = 24 then
      packComponents .binary32 s (BitVec.ofNat 8 (e + (127 : Nat) + (23 : Nat)).toNat)
        (BitVec.ofNat 23 m)
    else packComponents .binary32 s 0#8 (BitVec.ofNat 23 m) := rfl

/-- What is too great becomes infinite. -/
theorem unpack_pack_of_lt (h : 104 < e) :
    (Float32.Model.pack (.finite s m e pos)).unpack = .infinity s := by
  show unpack .binary32 (pack .binary32 (.finite s m e pos)) = _
  rw [pack_finite, if_pos (by omega), unpack_packedInfinity]

theorem pack_of_full (full : 2 ^ 23 ≤ m) (fits : m < 2 ^ 24) (h : e ≤ 104) :
    pack .binary32 (.finite s m e pos) = packComponents .binary32 s
      (BitVec.ofNat 8 (e + 150).toNat) (BitVec.ofNat 23 m) := by
  have log : m.log2 = 23 := (Nat.log2_eq_iff (by omega)).2 ⟨full, fits⟩
  have exponent : e + (127 : Nat) + (23 : Nat) = e + 150 := by omega
  rw [pack_finite, if_neg (by omega), if_pos (by rw [log]), exponent]

theorem pack_of_not_full (small : m < 2 ^ 23) :
    pack .binary32 (.finite s m (-149) pos) =
      packComponents .binary32 s 0#8 (BitVec.ofNat 23 m) := by
  have log : m.log2 < 23 := (Nat.log2_lt (by omega)).2 small
  rw [pack_finite, if_neg (by omega), if_neg (by omega)]

theorem unpack_pack_of_le (form : Normal m e) (h : e ≤ 104) :
    (Float32.Model.pack (.finite s m e pos)).unpack = .finite s m e pos := by
  show unpack .binary32 (pack .binary32 (.finite s m e pos)) = _
  by_cases full : 2 ^ 23 ≤ m
  · rw [pack_of_full full form.fits h]
    have least := form.least
    have exponent : (BitVec.ofNat 8 (e + 150).toNat).toNat = (e + 150).toNat :=
      Nat.mod_eq_of_lt (by omega)
    have notTop : BitVec.ofNat 8 (e + 150).toNat ≠ -1#8 := by
      intro top
      rw [top] at exponent
      have : (-1#8).toNat = 255 := rfl
      omega
    have notBottom : BitVec.ofNat 8 (e + 150).toNat ≠ 0#8 := by
      intro bottom
      rw [bottom] at exponent
      have : (0#8).toNat = 0 := rfl
      omega
    have mantissa : (1#1 ++ BitVec.ofNat 23 m).toNat = m := by
      rw [toNat_implicit, BitVec.toNat_ofNat]
      have fits := form.fits
      omega
    unfold unpack
    simp only [unpackMantissa_packComponents, unpackExponent_packComponents,
      unpackSign_packComponents, Sign.ofBitVec_toBitVec]
    refine (if_neg notTop).trans ((if_neg notBottom).trans ?_)
    congr 1
    show ((BitVec.ofNat 8 (e + 150).toNat).toNat : Int) - ((127 : Nat) + (23 : Nat)) = e
    omega
  · obtain rfl : e = -149 := form.full.resolve_left full
    have mantissa : (BitVec.ofNat 23 m).toNat = m := Nat.mod_eq_of_lt (by omega)
    have notZero : BitVec.ofNat 23 m ≠ 0#23 := by
      intro zero
      rw [zero] at mantissa
      exact pos.ne mantissa
    have notTop : 0#8 ≠ -1#8 := by decide
    rw [pack_of_not_full (by omega)]
    unfold unpack
    simp only [unpackMantissa_packComponents, unpackExponent_packComponents,
      unpackSign_packComponents, Sign.ofBitVec_toBitVec]
    rw [if_neg notTop, if_pos trivial, dif_neg notZero]
    congr 1

end Pack

/-! ## What a number stands for -/

noncomputable def magnitude (m : Nat) (e : Int) : ℝ := m * 2 ^ e

theorem magnitude_pos {m : Nat} (pos : 0 < m) (e : Int) : 0 < magnitude m e := by
  unfold magnitude
  positivity

/-- With full significands, the greater exponent makes the greater number. -/
theorem magnitude_lt {m m' : Nat} {e e' : Int} (h : Representable m e) (h' : Normal m' e')
    (less : e < e' ∨ e = e' ∧ m < m') : magnitude m e < magnitude m' e' := by
  unfold magnitude
  rcases less with less | ⟨rfl, less⟩
  · have least := h.least
    have full : 2 ^ 23 ≤ m' := h'.full.resolve_right (by omega)
    calc (m : ℝ) * 2 ^ e < 2 ^ 24 * 2 ^ e := by
          gcongr
          exact_mod_cast h.fits
      _ = 2 ^ 23 * 2 ^ (e + 1) := by
          rw [zpow_add₀ two_ne_zero]
          ring
      _ ≤ m' * 2 ^ e' := by
          gcongr
          · exact_mod_cast full
          · norm_num
          · omega
  · gcongr

/-- What an opened number stands for. NaN stands for none; zero takes its place. -/
noncomputable def standsFor : UnpackedFloat → EReal
  | .notANumber | .zero _ => 0
  | .infinity .positive => ⊤
  | .infinity .negative => ⊥
  | .finite .positive m e _ => (magnitude m e : ℝ)
  | .finite .negative m e _ => (-magnitude m e : ℝ)

/-- What a number stands for. NaN stands for none; zero takes its place. -/
noncomputable def value (a : Float32) : EReal := standsFor a.toModel.unpack

/-- Whether a number stands for exactly this. -/
structure Exactly (a : Float32) (x : EReal) : Prop where
  number : a.isNaN = false
  value : value a = x

theorem exactly_of_unpack {a : Float32} {m : Nat} {e : Int} {pos : 0 < m} {x : ℝ}
    (opened : a.toModel.unpack = .finite .positive m e pos) (same : magnitude m e = x) :
    Exactly a x := by
  have number : a.toModel.unpack ≠ .notANumber := fun nan => nomatch opened.symm.trans nan
  refine ⟨isNaN_eq_false number, ?_⟩
  rw [value, opened, ← same]
  rfl

theorem rank_finite_lt {s s' : Sign} {m m' : Nat} {e e' : Int} {pos : 0 < m} {pos' : 0 < m'} :
    rank (.finite s m e pos) < rank (.finite s' m' e' pos') ↔
      match s, s' with
      | .negative, .positive => True
      | .positive, .negative => False
      | .positive, .positive => e < e' ∨ e = e' ∧ m < m'
      | .negative, .negative => e' < e ∨ e' = e ∧ m' < m := by
  cases s <;> cases s' <;> simp [rank, Prod.Lex.lt_iff, eq_comm]

section Order

variable {x y : UnpackedFloat}

theorem standsFor_lt (hx : InForm x) (hy : InForm y) (nx : x ≠ .notANumber) (ny : y ≠ .notANumber)
    (h : rank x < rank y) : standsFor x < standsFor y := by
  cases x with
  | notANumber => exact absurd rfl nx
  | infinity s =>
    cases y with
    | notANumber => exact absurd rfl ny
    | infinity s' => cases s <;> cases s' <;> simp_all [standsFor, rank, Prod.Lex.lt_iff]
    | zero s' => cases s <;> simp_all [standsFor, rank, Prod.Lex.lt_iff]
    | finite s' m e pos =>
      cases s with
      | negative => cases s' <;> exact EReal.bot_lt_coe _
      | positive => cases s' <;> simp_all [rank, Prod.Lex.lt_iff]
  | zero s =>
    cases y with
    | notANumber => exact absurd rfl ny
    | infinity s' => cases s' <;> simp_all [standsFor, rank, Prod.Lex.lt_iff]
    | zero s' => exact absurd h (lt_irrefl _)
    | finite s' m e pos => cases s' <;> simp_all [standsFor, rank, Prod.Lex.lt_iff, magnitude_pos]
  | finite s m e pos =>
    cases y with
    | notANumber => exact absurd rfl ny
    | infinity s' =>
      cases s' with
      | negative => cases s <;> simp_all [rank, Prod.Lex.lt_iff]
      | positive => cases s <;> exact EReal.coe_lt_top _
    | zero s' => cases s <;> simp_all [standsFor, rank, Prod.Lex.lt_iff, magnitude_pos]
    | finite s' m' e' pos' =>
      rw [rank_finite_lt] at h
      cases s with
      | negative =>
        cases s' with
        | negative =>
          have less := magnitude_lt hy.1.toRepresentable hx.1 h
          exact EReal.coe_lt_coe_iff.2 (neg_lt_neg less)
        | positive =>
          have below : -magnitude m e < 0 := neg_lt_zero.2 (magnitude_pos pos e)
          exact EReal.coe_lt_coe_iff.2 (below.trans (magnitude_pos pos' e'))
      | positive =>
        cases s' with
        | negative => exact h.elim
        | positive => exact EReal.coe_lt_coe_iff.2 (magnitude_lt hx.1.toRepresentable hy.1 h)

theorem standsFor_eq (nx : x ≠ .notANumber) (ny : y ≠ .notANumber) (h : rank x = rank y) :
    standsFor x = standsFor y := by
  cases x with
  | notANumber => exact absurd rfl nx
  | infinity s =>
    cases y with
    | notANumber => exact absurd rfl ny
    | infinity s' => cases s <;> cases s' <;> simp_all [rank]
    | zero s' => cases s <;> simp_all [rank]
    | finite s' m e pos => cases s <;> cases s' <;> simp_all [rank]
  | zero s =>
    cases y with
    | notANumber => exact absurd rfl ny
    | infinity s' => cases s' <;> simp_all [rank]
    | zero s' => rfl
    | finite s' m e pos => cases s' <;> simp_all [rank]
  | finite s m e pos =>
    cases y with
    | notANumber => exact absurd rfl ny
    | infinity s' => cases s <;> cases s' <;> simp_all [rank]
    | zero s' => cases s <;> simp_all [rank]
    | finite s' m' e' pos' => cases s <;> cases s' <;> simp_all [rank, standsFor]

end Order

section Numbers

variable {a b : Float32}

theorem inForm (a : Float32) : InForm a.toModel.unpack := inForm_unpack _

theorem value_lt (ha : a.isNaN = false) (hb : b.isNaN = false) (h : a < b) : value a < value b :=
  standsFor_lt (inForm a) (inForm b) (unpack_ne_notANumber ha) (unpack_ne_notANumber hb)
    ((lt_iff_rank ha hb).1 h)

theorem le_iff_value (ha : a.isNaN = false) (hb : b.isNaN = false) : a ≤ b ↔ value a ≤ value b := by
  rw [le_iff_rank ha hb]
  constructor
  · intro h
    rcases h.lt_or_eq with less | same
    · exact (value_lt ha hb ((lt_iff_rank ha hb).2 less)).le
    · exact (standsFor_eq (unpack_ne_notANumber ha) (unpack_ne_notANumber hb) same).le
  · intro h
    by_contra less
    exact absurd (value_lt hb ha ((lt_iff_rank hb ha).2 (not_le.1 less))) (not_lt.2 h)

theorem lt_iff_value (ha : a.isNaN = false) (hb : b.isNaN = false) : a < b ↔ value a < value b := by
  rw [← not_le, ← le_iff_value hb ha, le_iff_rank hb ha, not_le, lt_iff_rank ha hb]

theorem unpack_greatest :
    greatest.toModel.unpack = .finite .positive (2 ^ 24 - 1) 104 (by decide) := rfl

/-- No finite number exceeds the greatest one. -/
theorem le_greatest (h : a.isFinite = true) : a ≤ greatest := by
  have finite : a.toModel.unpack.isFinite = true := h
  have form := inForm a
  have number : a.isNaN = false := by
    refine isNaN_eq_false fun nan => ?_
    rw [nan] at finite
    cases finite
  rw [le_iff_rank number rfl, ← not_lt, unpack_greatest]
  cases ha : a.toModel.unpack with
  | notANumber => exact absurd ha (unpack_ne_notANumber number)
  | infinity s =>
    rw [ha] at finite
    cases finite
  | zero s => exact not_lt_of_gt (Prod.Lex.toLex_lt_toLex.2 (.inl Int.zero_lt_one))
  | finite s m e pos =>
    rw [ha] at form
    rw [rank_finite_lt]
    cases s with
    | negative => exact id
    | positive =>
      have fits := form.1.fits
      have below := form.2
      show ¬(104 < e ∨ 104 = e ∧ 2 ^ 24 - 1 < m)
      omega

end Numbers

end Forager.Single
