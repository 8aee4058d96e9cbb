import Mathlib
import Forager.Proofs.Magnitudes

/-!
# Rounding

A positive result is brought to a significand of 24 bits: bits are shifted out, what is left is
rounded to the nearest, and a carry is taken into the exponent. Seen from the real line, rounding
takes a number to one of the two units next to it, which is enough for what follows.

* `exists_rounds`: what rounding makes of a positive number.
* `Rounds.le`, `Rounds.eq`: it never passes a number of the format, and keeps those of the format.
* `le_standsFor_pack`, `standsFor_pack`: what closing a rounded number keeps of it.
* `le_add`: adding a number that is not negative never decreases the result.
-/
namespace Forager.Single

open Float.Model (UnpackedFloat Format totalExponent)
open Float.Model.UnpackedFloat (Sign ExtendedMantissa Accuracy decreaseExponent roundWithAccuracy
  shiftToExponent shiftToTargetExponent)

/-! ## Shifting -/

theorem mantissa_shift (em : ExtendedMantissa) (k : Nat) :
    (em >>> k).mantissa = em.mantissa / 2 ^ k := by
  induction k with
  | zero => exact (Nat.div_one _).symm
  | succ k ih =>
    show (em >>> k).mantissa / 2 = _
    rw [ih, Nat.div_div_eq_div_mul, pow_succ]

/-- Shifting out zeros loses nothing. -/
theorem shift_exact (n k : Nat) :
    (⟨n * 2 ^ k, false, false⟩ : ExtendedMantissa) >>> k = ⟨n, false, false⟩ := by
  induction k generalizing n with
  | zero =>
    show (⟨n * 1, false, false⟩ : ExtendedMantissa) = _
    rw [Nat.mul_one]
  | succ k ih =>
    show ((⟨n * 2 ^ (k + 1), false, false⟩ : ExtendedMantissa) >>> k).shiftRightOne = _
    rw [pow_succ', ← mul_assoc, ih (n * 2)]
    simp [ExtendedMantissa.shiftRightOne]

theorem le_roundedMantissa (em : ExtendedMantissa) :
    em.mantissa ≤ em.roundedMantissa ∧ em.roundedMantissa ≤ em.mantissa + 1 := by
  obtain ⟨n, round, sticky⟩ := em
  cases round <;> cases sticky
  · exact ⟨le_rfl, Nat.le_succ n⟩
  · exact ⟨le_rfl, Nat.le_succ n⟩
  · show n ≤ n + n % 2 ∧ n + n % 2 ≤ n + 1
    omega
  · exact ⟨Nat.le_succ n, le_rfl⟩

/-! ## Rounding to the precision -/

/-- The number of `r` units of `2 ^ t`, where `r` may have run over by one. -/
def settle (s : Sign) (r : Nat) (t : Int) : UnpackedFloat :=
  if h : r = 0 then .zero s
  else if r < 2 ^ 24 then .finite s r t (Nat.pos_of_ne_zero h)
  else .finite s (2 ^ 23) (t + 1) (by decide)

theorem shiftToTargetExponent_eq {m : Nat} {e t : Int}
    (target : max ((m.log2 : Int) + 1 + e - 24) (-149) = t) :
    shiftToTargetExponent .binary32 m e .exact =
      ((⟨m, false, false⟩ : ExtendedMantissa) >>> (t - e).toNat, e + (t - e).toNat) := by
  rw [← target]
  rfl

theorem log2_lt_of_lt {m k : Nat} (h : m < 2 ^ (k + 1)) : m.log2 < k + 1 := by
  rcases Nat.eq_zero_or_pos m with rfl | pos
  · exact Nat.succ_pos k
  · exact (Nat.log2_lt pos.ne').2 h

theorem shift_small {r : Nat} {t : Int} (small : r < 2 ^ 24) (least : -149 ≤ t) :
    shiftToTargetExponent .binary32 r t .exact = (⟨r, false, false⟩, t) := by
  have log : r.log2 < 24 := log2_lt_of_lt small
  have none : (max ((r.log2 : Int) + 1 + t - 24) (-149) - t).toNat = 0 := by omega
  rw [shiftToTargetExponent_eq rfl, none]
  exact congrArg (Prod.mk _) (add_zero t)

theorem shift_carry {t : Int} (least : -149 ≤ t) :
    shiftToTargetExponent .binary32 (2 ^ 24) t .exact = (⟨2 ^ 23, false, false⟩, t + 1) := by
  have one : (max (((2 ^ 24 : Nat).log2 : Int) + 1 + t - 24) (-149) - t).toNat = 1 := by
    rw [Nat.log2_two_pow]
    omega
  rw [shiftToTargetExponent_eq rfl, one]
  rfl

/-- Rounding keeps the units of the target exponent and settles what is left of the number. -/
theorem roundWithAccuracy_eq (s : Sign) {m : Nat} {e t : Int}
    (target : max ((m.log2 : Int) + 1 + e - 24) (-149) = t) (below : e ≤ t) :
    roundWithAccuracy .binary32 s m e .exact =
      settle s ((⟨m, false, false⟩ : ExtendedMantissa) >>> (t - e).toNat).roundedMantissa t := by
  have least : -149 ≤ t := by omega
  have exponent : e + (t - e).toNat = t := by omega
  have units : m / 2 ^ (t - e).toNat < 2 ^ 24 := by
    have log : m.log2 < 24 + (t - e).toNat := by omega
    rw [Nat.div_lt_iff_lt_mul (by positivity), ← pow_add]
    exact Nat.lt_log2_self.trans_le (Nat.pow_le_pow_right two_pos log)
  have rounded := (le_roundedMantissa ((⟨m, false, false⟩ : ExtendedMantissa) >>> (t - e).toNat)).2
  rw [mantissa_shift] at rounded
  rw [roundWithAccuracy, shiftToTargetExponent_eq target, exponent]
  dsimp only at rounded ⊢
  generalize ((⟨m, false, false⟩ : ExtendedMantissa) >>> (t - e).toNat).roundedMantissa = r
    at rounded ⊢
  -- The second shift is for a carry only: it finds nothing to do unless all bits ran over.
  by_cases small : r < 2 ^ 24
  · rw [shift_small small least]
    unfold settle
    simp only [small, if_true]
  · obtain rfl : r = 2 ^ 24 := by omega
    rw [shift_carry least]
    rfl

/-! ## Rounding as a map of the real line -/

/-- Whether a positive real number is rounded to `r` units of `2 ^ t`: there are enough of them for
the precision, and `r` is one of the two whole numbers next to what would be exact, and exact if
that is possible. -/
structure Rounds (v : ℝ) (r : Nat) (t : Int) : Prop where
  least : -149 ≤ t
  small : v < magnitude (2 ^ 24) t
  full : t = -149 ∨ magnitude (2 ^ 23) t ≤ v
  near : ∃ q : Nat, magnitude q t ≤ v ∧ v < magnitude (q + 1) t ∧ q ≤ r ∧ r ≤ q + 1
  exact : ∀ n : Nat, magnitude n t = v → r = n

theorem magnitude_mul_two_pow (m k : Nat) (e : Int) :
    magnitude (m * 2 ^ k) e = magnitude m (e + k) := by
  unfold magnitude
  rw [zpow_add₀ two_ne_zero, zpow_natCast]
  push_cast
  ring

theorem magnitude_le_iff {m n : Nat} {e : Int} : magnitude m e ≤ magnitude n e ↔ m ≤ n := by
  unfold magnitude
  rw [mul_le_mul_iff_left₀ (by positivity), Nat.cast_le]

theorem magnitude_lt_iff {m n : Nat} {e : Int} : magnitude m e < magnitude n e ↔ m < n := by
  rw [← not_le, magnitude_le_iff, not_le]

theorem magnitude_inj {m n : Nat} {e : Int} (h : magnitude m e = magnitude n e) : m = n :=
  le_antisymm (magnitude_le_iff.1 h.le) (magnitude_le_iff.1 h.ge)

theorem log2_mul_two_pow {m : Nat} (pos : 0 < m) (k : Nat) : (m * 2 ^ k).log2 = m.log2 + k := by
  refine (Nat.log2_eq_iff (by positivity)).2 ⟨?_, ?_⟩
  · rw [pow_add]
    exact Nat.mul_le_mul_right _ (Nat.log2_self_le pos.ne')
  · rw [add_right_comm, pow_add]
    exact Nat.mul_lt_mul_of_pos_right Nat.lt_log2_self (by positivity)

/-- What is not below the units of the target exponent is rounded to them. -/
theorem rounds_shift {m : Nat} (pos : 0 < m) {e t : Int}
    (target : max ((m.log2 : Int) + 1 + e - 24) (-149) = t) (below : e ≤ t) :
    Rounds (magnitude m e)
      ((⟨m, false, false⟩ : ExtendedMantissa) >>> (t - e).toNat).roundedMantissa t := by
  obtain ⟨k, rfl⟩ : ∃ k : Nat, t = e + k := ⟨(t - e).toNat, by omega⟩
  have shift : (e + k - e).toNat = k := by omega
  have units (n : Nat) : magnitude n (e + k) = magnitude (n * 2 ^ k) e :=
    (magnitude_mul_two_pow n k e).symm
  have bounds := le_roundedMantissa ((⟨m, false, false⟩ : ExtendedMantissa) >>> k)
  rw [mantissa_shift] at bounds
  rw [shift]
  constructor
  · omega
  · rw [units, magnitude_lt_iff, ← pow_add]
    exact Nat.lt_log2_self.trans_le (Nat.pow_le_pow_right two_pos (by omega))
  · refine or_iff_not_imp_left.2 fun above => ?_
    rw [units, magnitude_le_iff, ← pow_add]
    exact (Nat.pow_le_pow_right two_pos (by omega)).trans (Nat.log2_self_le pos.ne')
  · refine ⟨m / 2 ^ k, ?_, ?_, bounds⟩
    · rw [units, magnitude_le_iff]
      exact Nat.div_mul_le_self m _
    · rw [units, magnitude_lt_iff, ← Nat.div_lt_iff_lt_mul (by positivity)]
      exact Nat.lt_succ_self _
  · intro n same
    rw [units] at same
    rw [← magnitude_inj same, shift_exact]
    rfl

/-- Rounding a positive number to the precision. -/
theorem exists_rounds (s : Sign) {m : Nat} (pos : 0 < m) (e : Int) :
    ∃ r t, Rounds (magnitude m e) r t ∧ UnpackedFloat.round .binary32 s m e = settle s r t := by
  obtain ⟨t, target⟩ : ∃ t : Int, max ((m.log2 : Int) + 1 + e - 24) (-149) = t := ⟨_, rfl⟩
  -- Zeros are added first where the exponent is above the target, so that only shifts are left.
  have log := log2_mul_two_pow pos (e - t).toNat
  have target' : max (((m * 2 ^ (e - t).toNat).log2 : Int) + 1 + (e - (e - t).toNat) - 24) (-149) =
      t := by
    rw [log]
    omega
  have rounds := rounds_shift (by positivity : 0 < m * 2 ^ (e - t).toNat) target' (by omega)
  rw [magnitude_mul_two_pow, sub_add_cancel] at rounds
  refine ⟨_, t, rounds, ?_⟩
  rw [← roundWithAccuracy_eq s target' (by omega)]
  show roundWithAccuracy .binary32 s (m <<< (e - max ((m.log2 : Int) + 1 + e - 24) (-149)).toNat)
    (e - (e - max ((m.log2 : Int) + 1 + e - 24) (-149)).toNat) .exact = _
  rw [target, Nat.shiftLeft_eq]

theorem exists_rounds_normalize {m : Nat} (pos : 0 < m) (e : Int) :
    ∃ r t, Rounds (magnitude m e) r t ∧
      UnpackedFloat.normalize .binary32 (m : Int) e .positive = settle .positive r t := by
  obtain ⟨r, t, rounds, settled⟩ := exists_rounds .positive pos e
  refine ⟨r, t, rounds, ?_⟩
  rw [UnpackedFloat.normalize, compare_gt_iff_gt.2 (Int.natCast_pos.2 pos)]
  exact settled

section Rounds

variable {v : ℝ} {r m : Nat} {t e : Int}

theorem Rounds.le_succ (h : Rounds v r t) : r ≤ 2 ^ 24 := by
  obtain ⟨q, below, -, -, near⟩ := h.near
  have fits : q < 2 ^ 24 := magnitude_lt_iff.1 (below.trans_lt h.small)
  omega

theorem Rounds.ample (h : Rounds v r t) : 2 ^ 23 ≤ r ∨ t = -149 := by
  rcases h.full with bottom | full
  · exact .inr bottom
  · obtain ⟨q, -, above, near, -⟩ := h.near
    have ample : 2 ^ 23 < q + 1 := magnitude_lt_iff.1 (full.trans_lt above)
    exact .inl (by omega)

/-- What has a lesser exponent than the units a number is rounded to is below that number. -/
theorem Rounds.lt_of_lt (h : Rounds v r t) (form : Representable m e) (less : e < t) :
    magnitude m e < magnitude (2 ^ 23) t ∧ magnitude (2 ^ 23) t ≤ v ∧ 2 ^ 23 ≤ r := by
  have least := form.least
  have full := h.full.resolve_left (by omega)
  have ample := h.ample.resolve_right (by omega)
  have top : Normal (2 ^ 23) t := ⟨⟨by decide, h.least⟩, .inl le_rfl⟩
  exact ⟨magnitude_lt form top (.inl less), full, ample⟩

/-- Rounding does not pass a number of the format on the way down. -/
theorem Rounds.le (h : Rounds v r t) (form : Representable m e) (below : magnitude m e ≤ v) :
    magnitude m e ≤ magnitude r t := by
  rcases lt_or_ge e t with less | notLess
  · obtain ⟨small, -, ample⟩ := h.lt_of_lt form less
    exact small.le.trans (magnitude_le_iff.2 ample)
  · obtain ⟨k, rfl⟩ : ∃ k : Nat, e = t + k := ⟨(e - t).toNat, by omega⟩
    obtain ⟨q, -, above, near, -⟩ := h.near
    rw [← magnitude_mul_two_pow] at below ⊢
    have within : m * 2 ^ k < q + 1 := magnitude_lt_iff.1 (below.trans_lt above)
    exact magnitude_le_iff.2 (by omega)

/-- Rounding keeps the numbers of the format. -/
theorem Rounds.eq (h : Rounds v r t) (form : Representable m e) (same : magnitude m e = v) :
    magnitude r t = v := by
  rcases lt_or_ge e t with less | notLess
  · obtain ⟨small, full, -⟩ := h.lt_of_lt form less
    exact absurd same (small.trans_le full).ne
  · obtain ⟨k, rfl⟩ : ∃ k : Nat, e = t + k := ⟨(e - t).toNat, by omega⟩
    rw [← magnitude_mul_two_pow] at same
    rw [h.exact _ same, same]

/-- What is left of a number has the normal form. -/
theorem settle_cases (s : Sign) (h : Rounds v r t) : (r = 0 ∧ settle s r t = .zero s) ∨
    ∃ m e pos, Normal m e ∧ magnitude m e = magnitude r t ∧ settle s r t = .finite s m e pos := by
  unfold settle
  split
  · rename_i none
    exact .inl ⟨none, rfl⟩
  · rename_i some
    split
    · rename_i small
      exact .inr ⟨r, t, Nat.pos_of_ne_zero some, ⟨⟨small, h.least⟩, h.ample⟩, rfl, rfl⟩
    · rename_i carry
      obtain rfl : r = 2 ^ 24 := le_antisymm h.le_succ (not_lt.1 carry)
      have least := h.least
      refine .inr ⟨2 ^ 23, t + 1, by decide, ⟨⟨by decide, by omega⟩, .inl le_rfl⟩, ?_, rfl⟩
      exact (magnitude_mul_two_pow (2 ^ 23) 1 t).symm

theorem magnitude_zero (t : Int) : magnitude 0 t = 0 := by
  rw [magnitude, Nat.cast_zero, zero_mul]

/-- Closing what has been rounded can only make it infinite. -/
theorem le_standsFor_pack (h : Rounds v r t) :
    (Float32.Model.pack (settle .positive r t)).unpack ≠ .notANumber ∧
      (magnitude r t : EReal) ≤ standsFor (Float32.Model.pack (settle .positive r t)).unpack := by
  rcases settle_cases .positive h with ⟨rfl, settled⟩ | ⟨m, e, pos, form, same, settled⟩
  · rw [settled, unpack_pack_zero, magnitude_zero]
    exact ⟨nofun, le_rfl⟩
  · rw [settled]
    by_cases fits : e ≤ 104
    · rw [unpack_pack_of_le form fits, ← same]
      exact ⟨nofun, le_rfl⟩
    · rw [unpack_pack_of_lt (not_le.1 fits)]
      exact ⟨nofun, le_top⟩

/-- Closing what has been rounded keeps it if it is small enough. -/
theorem standsFor_pack (h : Rounds v r t) (small : magnitude r t < magnitude (2 ^ 23) 105) :
    standsFor (Float32.Model.pack (settle .positive r t)).unpack = (magnitude r t : EReal) := by
  rcases settle_cases .positive h with ⟨rfl, settled⟩ | ⟨m, e, pos, form, same, settled⟩
  · rw [settled, unpack_pack_zero, magnitude_zero]
    rfl
  · have fits : e ≤ 104 := by
      by_contra great
      have full : 2 ^ 23 ≤ m := form.full.resolve_right (by omega)
      refine absurd small (not_lt.2 ?_)
      rw [← same]
      unfold magnitude
      gcongr
      · exact one_le_two
      · omega
    rw [settled, unpack_pack_of_le form fits, ← same]
    rfl

end Rounds

/-! ## Sums -/

theorem magnitude_add (m n : Nat) (e : Int) :
    magnitude (m + n) e = magnitude m e + magnitude n e := by
  unfold magnitude
  rw [Nat.cast_add, add_mul]

theorem magnitude_decrease {e least : Int} (m : Nat) (h : least ≤ e) :
    magnitude (m <<< (e - least).toNat) least = magnitude m e := by
  rw [Nat.shiftLeft_eq, magnitude_mul_two_pow, Int.toNat_of_nonneg (by omega)]
  congr 1
  omega

/-- The sum of two positive numbers is the exact one, rounded. -/
theorem exists_rounds_add {m n : Nat} {e f : Int} (hm : 0 < m) (hn : 0 < n) :
    ∃ r t, Rounds (magnitude m e + magnitude n f) r t ∧
      UnpackedFloat.add .binary32 (.finite .positive m e hm) (.finite .positive n f hn) =
        settle .positive r t := by
  have pos : 0 < m <<< (e - min e f).toNat + n <<< (f - min e f).toNat := by
    rw [Nat.shiftLeft_eq]
    positivity
  obtain ⟨r, t, rounds, settled⟩ := exists_rounds_normalize pos (min e f)
  rw [magnitude_add, magnitude_decrease m (min_le_left e f),
    magnitude_decrease n (min_le_right e f)] at rounds
  refine ⟨r, t, rounds, ?_⟩
  rw [← settled]
  show UnpackedFloat.normalize .binary32
    (((m <<< (e - min e f).toNat : Nat) : Int) + (n <<< (f - min e f).toNat : Nat)) (min e f)
      .positive = _
  rw [← Nat.cast_add]

section Add

variable {a b : Float32}

theorem unpack_add (a b : Float32) : (a + b).toModel.unpack =
    (Float32.Model.pack (.add .binary32 a.toModel.unpack b.toModel.unpack)).unpack := rfl

/-- Numbers from zero up have no minus sign, except for zero. -/
theorem unpack_of_nonneg (h : 0 ≤ a) :
    (∃ s, a.toModel.unpack = .zero s) ∨ a.toModel.unpack = .infinity .positive ∨
      ∃ m e pos, a.toModel.unpack = .finite .positive m e pos := by
  rw [le_iff_compare, unpack_zero] at h
  cases ha : a.toModel.unpack with
  | notANumber =>
    rw [ha] at h
    exact absurd h Bool.false_ne_true
  | infinity s =>
    cases s with
    | positive => exact .inr (.inl rfl)
    | negative =>
      rw [ha] at h
      exact absurd h Bool.false_ne_true
  | zero s => exact .inl ⟨s, rfl⟩
  | finite s m e pos =>
    cases s with
    | positive => exact .inr (.inr ⟨m, e, pos, rfl⟩)
    | negative =>
      rw [ha] at h
      exact absurd h Bool.false_ne_true

theorem unpack_pack_unpack (a : Float32) :
    (Float32.Model.pack a.toModel.unpack).unpack = a.toModel.unpack :=
  congrArg (·.toModel.unpack) (pack_unpack a)

/-- Zero adds nothing to a number but its own sign. -/
theorem add_of_zero {s : Sign} (ha : a.toModel.unpack = .zero s)
    (hb : ∀ s, b.toModel.unpack ≠ .zero s) : a + b = b := by
  have sum : UnpackedFloat.add .binary32 (.zero s) b.toModel.unpack = b.toModel.unpack := by
    cases h : b.toModel.unpack with
    | zero s' => exact absurd h (hb s')
    | notANumber => rfl
    | infinity s' => rfl
    | finite s' m e pos => rfl
  show Float32.ofModel (.pack (.add .binary32 a.toModel.unpack b.toModel.unpack)) = b
  rw [ha, sum, pack_unpack]

theorem zero_add_of_pos (h : 0 < a) : 0 + a = a := by
  refine add_of_zero unpack_zero fun s zero => ?_
  rw [lt_iff_compare, unpack_zero, zero] at h
  cases h

theorem unpack_add_of_infinity (ha : a.toModel.unpack = .infinity .positive) (hb : 0 ≤ b) :
    (a + b).toModel.unpack = .infinity .positive := by
  rw [unpack_add, ha]
  rcases unpack_of_nonneg hb with ⟨s, right⟩ | right | ⟨m, e, pos, right⟩ <;> rw [right] <;>
    exact unpack_pack_infinity .positive

/-- Adding a number that is not negative never decreases the result. -/
theorem le_add (ha : 0 ≤ a) (hb : 0 ≤ b) : a ≤ a + b := by
  suffices (a + b).toModel.unpack ≠ .notANumber ∧ value a ≤ value (a + b) by
    rw [le_iff_value (isNaN_of_le ha).2 (isNaN_eq_false this.1)]
    exact this.2
  have right := (le_iff_value rfl (isNaN_of_le hb).2).1 hb
  unfold value at right ⊢
  rcases unpack_of_nonneg ha with ⟨s, left⟩ | left | ⟨m, e, pos, left⟩
  · by_cases zero : ∃ s', b.toModel.unpack = .zero s'
    · obtain ⟨s', zero⟩ := zero
      have sum : UnpackedFloat.add .binary32 (.zero s) (.zero s') =
          .zero (if s == s' then s else .positive) := by
        cases s <;> cases s' <;> rfl
      rw [unpack_add, left, zero, sum, unpack_pack_zero]
      exact ⟨nofun, le_rfl⟩
    · rw [add_of_zero left (not_exists.1 zero), left]
      exact ⟨unpack_ne_notANumber (isNaN_of_le hb).2, right⟩
  · rw [unpack_add_of_infinity left hb, left]
    exact ⟨nofun, le_rfl⟩
  · rcases unpack_of_nonneg hb with ⟨s, right⟩ | right | ⟨n, f, pos', right⟩
    · have sum : UnpackedFloat.add .binary32 (.finite .positive m e pos) (.zero s) =
        .finite .positive m e pos := rfl
      rw [unpack_add, left, right, sum, ← left, unpack_pack_unpack]
      exact ⟨unpack_ne_notANumber (isNaN_of_le ha).2, le_rfl⟩
    · have sum : UnpackedFloat.add .binary32 (.finite .positive m e pos) (.infinity .positive) =
        .infinity .positive := rfl
      rw [unpack_add, left, right, sum, unpack_pack_infinity]
      exact ⟨nofun, le_top⟩
    · obtain ⟨r, t, rounds, settled⟩ := exists_rounds_add (e := e) (f := f) pos pos'
      have form : Representable m e := by
        have opened := inForm a
        rw [left] at opened
        exact opened.1.toRepresentable
      have more : magnitude m e ≤ magnitude m e + magnitude n f :=
        le_add_of_nonneg_right (magnitude_pos pos' f).le
      rw [unpack_add, left, right, settled]
      refine ⟨(le_standsFor_pack rounds).1, ?_⟩
      exact (EReal.coe_le_coe_iff.2 (rounds.le form more)).trans (le_standsFor_pack rounds).2

end Add

end Forager.Single
