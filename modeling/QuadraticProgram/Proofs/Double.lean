import Mathlib

/-!
# Doubles

Equal doubles stand alike to every other one, although they need not be the same: the two zeros
are equal. Of two doubles that are numbers one is at most the other. A sum does not depend on
the order of its two terms, and a double is unequal to itself exactly if it is no number. A
double changes its sign when it is multiplied by minus one, since a finite double is rounded
already.
-/

namespace QuadraticProgram.Double

open Float.Model

/-! ### Unpacked doubles -/

theorem compare_sign_swap (s t : UnpackedFloat.Sign) :
  compare t s = (compare s t).swap
  := by
  cases s with
  | positive => cases t <;> rfl
  | negative => cases t <;> rfl

theorem compare_eq_none_iff (x y : UnpackedFloat) :
  x.compare y = none ↔ x = .notANumber ∨ y = .notANumber
  := by
  rw [UnpackedFloat.compare.eq_def]
  split
  all_goals simp_all

theorem compare_lexicographic_swap (e f : Int) (m n : Nat) :
  (compare f e).then (compare n m) = ((compare e f).then (compare m n)).swap
  := by
  rw [Ordering.swap_then, ← Int.compare_swap, ← Nat.compare_swap]

/-- An exchange of the sides turns the comparison around, and keeps what cannot be compared. -/
theorem compare_swap (x y : UnpackedFloat) :
  y.compare x = (x.compare y).map Ordering.swap
  := by
  cases x with
  | notANumber => cases y <;> rfl
  | infinity s =>
      cases y with
      | notANumber => rfl
      | infinity t => apply congrArg some (compare_sign_swap s t)
      | zero t => cases s <;> rfl
      | finite t m e hm => cases s <;> rfl
  | zero s =>
      cases y with
      | notANumber => rfl
      | infinity t => cases t <;> rfl
      | zero t => rfl
      | finite t m e hm => cases t <;> rfl
  | finite s m e hm =>
      have hswap (f : Int) (n : Nat) := congrArg some (compare_lexicographic_swap e f m n)
      cases y with
      | notANumber => rfl
      | infinity t => cases t <;> rfl
      | zero t => cases s <;> rfl
      | finite t n f hn =>
          cases s with
          | positive =>
              cases t with
              | positive => apply hswap
              | negative => rfl
          | negative =>
              cases t with
              | positive => rfl
              | negative => apply congrArg (Option.map Ordering.swap) (hswap f n)

/-- Both zeros compare alike. -/
theorem compare_zero (s t : UnpackedFloat.Sign) (z : UnpackedFloat) :
  (UnpackedFloat.zero s).compare z = (UnpackedFloat.zero t).compare z
  := by
  cases z with
  | infinity u => cases u <;> rfl
  | notANumber => rfl
  | zero u => rfl
  | finite u m e hm => cases u <;> rfl

/-- Equal doubles compare alike with every other one. -/
theorem compare_congr {x y : UnpackedFloat} (h : x.beq y = true) (z : UnpackedFloat) :
  x.compare z = y.compare z
  := by
  obtain ⟨-, -, rfl | ⟨rfl, rfl⟩ | ⟨rfl, rfl⟩⟩ :=
    (UnpackedFloat.beq_iff_ne_notANumber_and_eq x y).mp h
  · rfl
  · apply compare_zero
  · apply compare_zero

/-- The addition of unpacked doubles commutes. -/
theorem unpacked_add_comm (f : Format) (x y : UnpackedFloat) :
  x.add f y = y.add f x
  := by
  cases x with
  | notANumber => cases y <;> rfl
  | infinity s =>
      cases y with
      | infinity t => cases s <;> cases t <;> rfl
      | _ => rfl
  | zero s =>
      cases y with
      | zero t => cases s <;> cases t <;> rfl
      | _ => rfl
  | finite s m e hm =>
      cases y with
      | finite t n g hn =>
          simp only [UnpackedFloat.add]
          rw [min_comm, Int.add_comm]
      | _ => rfl

/-! ### Rounding -/

/-- Whether a mantissa and an exponent are those that a double is rounded to. -/
def IsRounded (m : ℕ) (e : ℤ) : Prop :=
  Format.binary64.targetExponent (totalExponent m e) = e

/-- A small significand is rounded at the least exponent. -/
theorem isRounded_of_lt {m : ℕ} (hm : m < 2 ^ 52) :
  IsRounded m (-1074)
  := by
  have hlog : m.log2 < 52 := by
    rcases Nat.eq_zero_or_pos m with rfl | hpos
    · decide
    · rw [Nat.log2_lt hpos.ne']
      apply hm
  simp only [IsRounded, totalExponent, Format.targetExponent, Format.mantissaBits,
    Format.minExponent]
  omega

/-- A significand of full length is rounded at every exponent in range. -/
theorem isRounded_of_le {m : ℕ} {e : ℤ} (hm : 2 ^ 52 ≤ m) (hm' : m < 2 ^ 53) (he : -1074 ≤ e) :
  IsRounded m e
  := by
  have hlog : m.log2 = 52 := by
    rw [Nat.log2_eq_iff (by omega)]
    omega
  simp only [IsRounded, totalExponent, hlog, Format.targetExponent, Format.mantissaBits,
    Format.minExponent]
  omega

/-- A finite double is rounded: its mantissa has all of its bits, or its exponent is the least. -/
theorem isRounded_of_unpack {b : BitVec Format.binary64.numBits} {s : UnpackedFloat.Sign} {m : ℕ}
    {e : ℤ} {hm : 0 < m} (h : UnpackedFloat.unpack Format.binary64 b = .finite s m e hm) :
  IsRounded m e
  := by
  have hmantissa := (UnpackedFloat.unpackMantissa b).isLt
  simp only [UnpackedFloat.unpack] at h
  split_ifs at h with _ _ hzero _
  · injection h with _ hm he
    subst hm he
    have hexponent : (UnpackedFloat.unpackExponent b).toNat = 0 := by
      rw [hzero]
      rfl
    rw [hexponent]
    apply isRounded_of_lt hmantissa
  · injection h with _ hm he
    subst hm he
    have hexponent : (UnpackedFloat.unpackExponent b).toNat ≠ 0 := by
      intro hnot
      apply hzero (BitVec.eq_of_toNat_eq hnot)
    have hbias : (Format.binary64.exponentBias : ℤ) = 1023 := rfl
    have hleading : (1#1 ++ UnpackedFloat.unpackMantissa b).toNat
        = 2 ^ 52 + (UnpackedFloat.unpackMantissa b).toNat := by
      rw [BitVec.toNat_append, ← Nat.shiftLeft_add_eq_or_of_lt hmantissa]
      rfl
    apply isRounded_of_le
    · omega
    · omega
    · rw [hbias]
      omega

/-- A mantissa that ends in zeros only loses them when it is shifted. -/
theorem shiftRight_two_pow_mul (m n : ℕ) :
  (⟨2 ^ n * m, false, false⟩ : UnpackedFloat.ExtendedMantissa) >>> n = ⟨m, false, false⟩
  := by
  change n.repeat _ _ = _
  induction n generalizing m with
  | zero =>
      rw [pow_zero, one_mul]
      rfl
  | succ n ih =>
      rw [pow_succ, mul_assoc, Nat.repeat, ih]
      simp [UnpackedFloat.ExtendedMantissa.shiftRightOne]

/-- A rounded number whose mantissa has zeros added behind it is rounded to itself. -/
theorem roundWithAccuracy_two_pow_mul (s : UnpackedFloat.Sign) {m : ℕ} {e : ℤ} (hm : 0 < m)
    (h : IsRounded m e) (n : ℕ) :
  UnpackedFloat.roundWithAccuracy Format.binary64 s (2 ^ n * m) (e - n) .exact = .finite s m e hm
  := by
  have hlog : (2 ^ n * m).log2 = n + m.log2 := by
    obtain ⟨hlow, hhigh⟩ := (Nat.log2_eq_iff hm.ne').mp rfl
    rw [Nat.log2_eq_iff (by positivity), pow_add, pow_succ, pow_add, mul_assoc]
    constructor
    · apply Nat.mul_le_mul_left _ hlow
    · apply Nat.mul_lt_mul_of_pos_left hhigh (Nat.two_pow_pos n)
  have htotal : totalExponent (2 ^ n * m) (e - n) = totalExponent m e := by
    rw [totalExponent, totalExponent, hlog]
    push_cast
    ring
  have hshift : UnpackedFloat.shiftToTargetExponent Format.binary64 (2 ^ n * m) (e - n) .exact
      = (⟨m, false, false⟩, e) := by
    have hn : (e - (e - n)).toNat = n := by
      omega
    simp only [UnpackedFloat.shiftToTargetExponent, UnpackedFloat.shiftToExponent, htotal]
    rw [h, hn]
    simp only [UnpackedFloat.ExtendedMantissa.ofMantissaAndAccuracy, shiftRight_two_pow_mul,
      sub_add_cancel]
  -- Nothing was rounded away, so that the mantissa is not shifted once more.
  have hstay : UnpackedFloat.shiftToTargetExponent Format.binary64 m e .exact
      = (⟨m, false, false⟩, e) := by
    simp only [UnpackedFloat.shiftToTargetExponent, UnpackedFloat.shiftToExponent]
    rw [h, sub_self]
    simp only [Int.toNat_zero, Nat.cast_zero, add_zero]
    rfl
  have hmantissa : (⟨m, false, false⟩ : UnpackedFloat.ExtendedMantissa).roundedMantissa = m := rfl
  simp only [UnpackedFloat.roundWithAccuracy, hshift, hmantissa, hstay]
  exact dif_neg hm.ne'

/-! ### Doubles -/

/-- A double is less if the unpacked ones compare so. -/
theorem lt_iff (a b : Float) :
  a < b ↔ a.toModel.unpack.compare b.toModel.unpack = some .lt
  := by
  apply decide_eq_true_iff.trans
  change (a.toModel.unpack.compare b.toModel.unpack == some .lt) = true ↔ _
  rw [beq_iff_eq]

/-- A double is at most another one if they compare and it is not greater. -/
theorem le_iff (a b : Float) :
  a ≤ b ↔ ∃ o, a.toModel.unpack.compare b.toModel.unpack = some o ∧ o ≠ .gt
  := by
  apply decide_eq_true_iff.trans
  change (a.toModel.unpack.compare b.toModel.unpack).any (fun o => o.isLE) = true ↔ _
  simp only [Option.any_eq_true, Ordering.isLE_iff_ne_gt]

/-- The doubles that are not a number are those that unpack to none. -/
theorem isNaN_iff (a : Float) :
  a.isNaN = true ↔ a.toModel.unpack = .notANumber
  := UnpackedFloat.isNaN_iff

/-- The addition of doubles commutes. -/
theorem add_comm (a b : Float) :
  a + b = b + a
  := congrArg (fun x => Float.ofModel (Float.Model.pack x))
    (unpacked_add_comm _ a.toModel.unpack b.toModel.unpack)

theorem unpack_neg_one :
  ∃ h, (-1.0 : Float).toModel.unpack = .finite .negative (2 ^ 52) (-52) h
  := ⟨by decide, rfl⟩

/-- A product with minus one is not rounded. -/
theorem neg_eq_neg_one_mul (a : Float) :
  -a = -1.0 * a
  := by
  obtain ⟨_, hone⟩ := unpack_neg_one
  have hunpacked : a.toModel.unpack.neg
      = UnpackedFloat.mul Format.binary64 (-1.0 : Float).toModel.unpack a.toModel.unpack := by
    rw [hone]
    cases ha : a.toModel.unpack with
    | notANumber => rfl
    | infinity s => cases s <;> rfl
    | zero s => cases s <;> rfl
    | finite s m e hm =>
        rw [UnpackedFloat.neg, ← roundWithAccuracy_two_pow_mul (-s) hm (isRounded_of_unpack ha) 52,
          Int.sub_eq_add_neg, Int.add_comm]
        cases s <;> rfl
  exact congrArg (fun x => Float.ofModel (Float.Model.pack x)) hunpacked

/-- Only what is not a number differs from itself. -/
theorem beq_self_eq_false_iff (a : Float) :
  (a == a) = false ↔ a.isNaN = true
  := by
  rw [Bool.eq_false_iff, ne_eq, Float.beq_iff_ne_nan_and_eq, Float.isNaN_eq_decide_eq_nan,
    decide_eq_true_iff]
  tauto

/-- A double that equals another one is a number. -/
theorem isNaN_eq_false_of_beq {a b : Float} (h : (a == b) = true) :
  a.isNaN = false
  := by
  rw [Float.isNaN_eq_decide_eq_nan]
  apply decide_eq_false (Float.beq_iff_ne_nan_and_eq.mp h).1

/-- Equal doubles are alike in comparisons, the two zeros included. -/
theorem lt_congr {a b c d : Float} (hab : (a == b) = true) (hcd : (c == d) = true) :
  a < c ↔ b < d
  := by
  rw [lt_iff, lt_iff, compare_congr hab, compare_swap, compare_congr hcd, ← compare_swap]

/-- Of two doubles that are numbers one is at most the other. -/
theorem not_lt_iff_le {a b : Float} (ha : a.isNaN = false) (hb : b.isNaN = false) :
  ¬ b < a ↔ a ≤ b
  := by
  rw [Bool.eq_false_iff, ne_eq, isNaN_iff] at ha hb
  rw [lt_iff, le_iff, compare_swap]
  rcases h : a.toModel.unpack.compare b.toModel.unpack with - | o
  · rcases (compare_eq_none_iff _ _).mp h with h | h
    · cases ha h
    · cases hb h
  · cases o <;> simp

end QuadraticProgram.Double
