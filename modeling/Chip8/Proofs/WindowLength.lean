import Chip8.Play.RateMeter
import Mathlib.Data.Nat.Log
import Mathlib.Tactic.Common

/-!
# Windows are a second long for floats too

The rates are divided by a float: the whole seconds, and a fraction that is rounded and then added,
where the sum is rounded once more. Rounding could lose a part of a second, but it stops at one, as
one is a float.

Results:
* `oneOrMore_round`: what is not below one is not rounded below one.
* `Window.one_le_seconds`: a window of a second or more is not shorter than one in floats.
-/

namespace Chip8.Rounding

open Float.Model Float.Model.UnpackedFloat
open Float.Model.Format (binary64)

/-! ## Lengths in bits -/

theorem log2_half (n : Nat) : (n / 2).log2 = n.log2 - 1 := by
  rw [Nat.log2_eq_log_two, Nat.log2_eq_log_two, Nat.log_div_base]

theorem log2_shiftLeft {n : Nat} (h : n ≠ 0) (k : Nat) : (n <<< k).log2 = n.log2 + k := by
  induction k with
  | zero => rfl
  | succ k ih =>
    have hn : n <<< k ≠ 0 := by
      rw [Nat.shiftLeft_eq]
      exact Nat.mul_ne_zero h (Nat.ne_of_gt (Nat.two_pow_pos k))
    rw [Nat.shiftLeft_succ, Nat.log2_two_mul hn, ih, Nat.add_assoc]

theorem log2_le_of_le {m n : Nat} (h : m ≤ n) : m.log2 ≤ n.log2 := by
  rw [Nat.log2_eq_log_two, Nat.log2_eq_log_two]
  exact Nat.log_mono_right h

/-! ## Rounding -/

theorem log2_mantissa_shiftRight (em : ExtendedMantissa) (k : Nat) :
    (em >>> k).mantissa.log2 = em.mantissa.log2 - k := by
  induction k with
  | zero => rfl
  | succ k ih =>
    have hstep : (em >>> (k + 1)).mantissa = (em >>> k).mantissa / 2 := rfl
    rw [hstep, log2_half, ih, Nat.sub_sub]

theorem mantissa_ofMantissaAndAccuracy (m : Nat) (a : Accuracy) :
    (ExtendedMantissa.ofMantissaAndAccuracy m a).mantissa = m := by
  rcases a with _ | (_ | _ | _) <;> rfl

theorem mantissa_le_roundedMantissa (em : ExtendedMantissa) : em.mantissa ≤ em.roundedMantissa := by
  obtain ⟨m, round, sticky⟩ := em
  cases round <;> cases sticky <;>
    simp [ExtendedMantissa.roundedMantissa, ExtendedMantissa.accuracy, Accuracy.roundToNearestEven]

/-- Not below one, in the form that rounding leaves: all 53 bits of the mantissa are in use, and the
first of them is not below the unit. -/
def OneOrMore : UnpackedFloat → Prop
  | .infinity .positive => True
  | .finite .positive mantissa exponent _ => mantissa.log2 = 52 ∧ -52 ≤ exponent
  | _ => False

/-- Not below zero, and a number. -/
def ZeroOrMore : UnpackedFloat → Prop
  | .infinity .positive => True
  | .zero .positive => True
  | .finite .positive _ _ _ => True
  | _ => False

theorem targetExponent_of_one_le {total : Int} (h : 1 ≤ total) :
    binary64.targetExponent total = total - 53 := by
  have hmin : binary64.minExponent = -1074 := rfl
  have hbits : (binary64.mantissaBits : Int) = 53 := rfl
  rw [Format.targetExponent, hmin, hbits]
  omega

theorem shift_of_one_le {m : Nat} {e : Int} (a : Accuracy) (hm : 52 ≤ m.log2)
    (h : 1 ≤ totalExponent m e) :
    (shiftToTargetExponent binary64 m e a).1.mantissa.log2 = 52 ∧
      -52 ≤ (shiftToTargetExponent binary64 m e a).2 := by
  rw [shiftToTargetExponent, targetExponent_of_one_le h]
  rw [totalExponent] at *
  constructor
  · rw [shiftToExponent, log2_mantissa_shiftRight, mantissa_ofMantissaAndAccuracy]
    omega
  · simp only [shiftToExponent]
    omega

theorem roundWithAccuracy_eq (spec : Format) (s : Sign) (m : Nat) (e : Int) (a : Accuracy) :
    roundWithAccuracy spec s m e a =
      let first := shiftToTargetExponent spec m e a
      let last := shiftToTargetExponent spec first.1.roundedMantissa first.2 .exact
      if h : last.1.mantissa = 0 then .zero s
      else .finite s last.1.mantissa last.2 (Nat.pos_of_ne_zero h) := rfl

/-- The mantissa may grow by a bit when it is rounded up. Then it is shifted once more, to the same
length as before. -/
theorem oneOrMore_roundWithAccuracy {m : Nat} {e : Int} (a : Accuracy) (hm : 52 ≤ m.log2)
    (h : 1 ≤ totalExponent m e) :
    OneOrMore (roundWithAccuracy binary64 .positive m e a) := by
  rw [roundWithAccuracy_eq]
  obtain ⟨hfirst, hexponent⟩ := shift_of_one_le a hm h
  generalize shiftToTargetExponent binary64 m e a = first at *
  have hrounded : 52 ≤ first.1.roundedMantissa.log2 :=
    hfirst ▸ log2_le_of_le (mantissa_le_roundedMantissa first.1)
  have htotal : 1 ≤ totalExponent first.1.roundedMantissa first.2 := by
    rw [totalExponent]
    omega
  obtain ⟨hlast, hunit⟩ := shift_of_one_le .exact hrounded htotal
  dsimp only
  generalize shiftToTargetExponent binary64 first.1.roundedMantissa first.2 .exact = last at *
  have hne : last.1.mantissa ≠ 0 := by
    intro hzero
    rw [hzero] at hlast
    cases hlast
  rw [dif_neg hne]
  exact ⟨hlast, hunit⟩

/-- What is not below one is not rounded below one. -/
theorem oneOrMore_round {m : Nat} {e : Int} (hm : m ≠ 0) (h : 1 ≤ totalExponent m e) :
    OneOrMore (UnpackedFloat.round binary64 .positive m e) := by
  let shift := (e - (totalExponent m e - 53)).toNat
  have hround : UnpackedFloat.round binary64 .positive m e =
      roundWithAccuracy binary64 .positive (m <<< shift) (e - shift) .exact := by
    rw [UnpackedFloat.round, targetExponent_of_one_le h]
    rfl
  have hshift : (shift : Int) = max 0 (52 - m.log2) := by
    simp only [shift, totalExponent]
    omega
  rw [hround]
  rw [totalExponent] at h
  apply oneOrMore_roundWithAccuracy
  · rw [log2_shiftLeft hm]
    omega
  · rw [totalExponent, log2_shiftLeft hm]
    omega

theorem zeroOrMore_roundWithAccuracy (m : Nat) (e : Int) (a : Accuracy) :
    ZeroOrMore (roundWithAccuracy binary64 .positive m e a) := by
  rw [roundWithAccuracy_eq]
  dsimp only
  generalize shiftToTargetExponent binary64 m e a = first
  generalize shiftToTargetExponent binary64 first.1.roundedMantissa first.2 .exact = last
  by_cases hzero : last.1.mantissa = 0
  · rw [dif_pos hzero]
    trivial
  · rw [dif_neg hzero]
    trivial

theorem normalize_of_ne_zero {n : Nat} (h : n ≠ 0) (e : Int) (zeroSign : Sign) :
    UnpackedFloat.normalize binary64 n e zeroSign = UnpackedFloat.round binary64 .positive n e := by
  have hpos : (0 : Int) < n := Int.natCast_pos.2 (Nat.pos_of_ne_zero h)
  rw [UnpackedFloat.normalize, Int.compare_eq_gt.2 hpos]
  rfl

theorem oneOrMore_ofNat {n : Nat} (h : n ≠ 0) : OneOrMore (UnpackedFloat.ofNat binary64 n) := by
  rw [UnpackedFloat.ofNat, UnpackedFloat.ofInt, normalize_of_ne_zero h]
  apply oneOrMore_round h
  rw [totalExponent]
  omega

theorem zeroOrMore_ofNat (n : Nat) : ZeroOrMore (UnpackedFloat.ofNat binary64 n) := by
  by_cases h : n = 0
  · rw [h]
    trivial
  · rw [UnpackedFloat.ofNat, UnpackedFloat.ofInt, normalize_of_ne_zero h]
    exact zeroOrMore_roundWithAccuracy _ _ _

theorem zeroOrMore_div {x y : UnpackedFloat} (hx : ZeroOrMore x) {m : Nat} {e : Int} {hm : 0 < m}
    (hy : y = .finite .positive m e hm) : ZeroOrMore (UnpackedFloat.div binary64 x y) := by
  rw [hy]
  match x, hx with
  | .infinity .positive, _ => trivial
  | .zero .positive, _ => trivial
  | .finite .positive _ _ _, _ => exact zeroOrMore_roundWithAccuracy _ _ _

/-- Both mantissas are shifted to the lower exponent first, and their sum has at least the bits of
the first one. -/
theorem oneOrMore_add_finite {m m' : Nat} {e e' : Int} {hm : 0 < m} {hm' : 0 < m'}
    (h : OneOrMore (.finite .positive m e hm)) :
    OneOrMore
      (UnpackedFloat.add binary64 (.finite .positive m e hm) (.finite .positive m' e' hm')) := by
  obtain ⟨hbits, hunit⟩ := h
  let low := min e e'
  let first := m <<< (e - low).toNat
  let second := m' <<< (e' - low).toNat
  have hfirst : first.log2 = 52 + (e - low).toNat := by
    rw [log2_shiftLeft (Nat.ne_of_gt hm), hbits]
  have hne : first + second ≠ 0 := by
    intro hzero
    rw [(Nat.add_eq_zero_iff.1 hzero).1, Nat.log2_zero] at hfirst
    omega
  have hadd : UnpackedFloat.add binary64 (.finite .positive m e hm) (.finite .positive m' e' hm') =
      UnpackedFloat.normalize binary64 (first + second : Nat) low .positive := rfl
  rw [hadd, normalize_of_ne_zero hne]
  apply oneOrMore_round hne
  have hgrown := log2_le_of_le (Nat.le_add_right first second)
  have hlow : low ≤ e := Int.min_le_left e e'
  rw [totalExponent]
  omega

theorem oneOrMore_add {x y : UnpackedFloat} (hx : OneOrMore x) (hy : ZeroOrMore y) :
    OneOrMore (UnpackedFloat.add binary64 x y) := by
  match x, y, hx, hy with
  | .infinity .positive, .infinity .positive, _, _ => trivial
  | .infinity .positive, .zero .positive, _, _ => trivial
  | .infinity .positive, .finite .positive _ _ _, _, _ => trivial
  | .finite .positive _ _ _, .infinity .positive, _, _ => trivial
  | .finite .positive _ _ _, .zero .positive, hx, _ => exact hx
  | .finite .positive _ _ _, .finite .positive _ _ _, hx, _ => exact oneOrMore_add_finite hx

/-! ## Packing -/

theorem unpackSign_packComponents {spec : Format} (s : Sign) (exponent : BitVec spec.exponentBits)
    (mantissa : BitVec spec.mantissaBitsWithoutImplicit) :
    unpackSign (packComponents spec s exponent mantissa) = s.toBitVec := by
  unfold unpackSign packComponents
  ext i hi
  simp [BitVec.getLsbD_append, BitVec.getElem_append, Nat.lt_one_iff.1 hi]

/-- Without a sign, and with an exponent that is neither that of infinity nor that of the floats that
are no numbers, what is unpacked is not below zero. -/
theorem zeroOrMore_unpack {b : BitVec binary64.numBits}
    (hsign : unpackSign b = Sign.positive.toBitVec) (h : unpackExponent b ≠ -1#_) :
    ZeroOrMore (UnpackedFloat.unpack binary64 b) := by
  unfold UnpackedFloat.unpack
  generalize unpackSign b = sign at hsign
  subst hsign
  dsimp only
  rw [if_neg h]
  by_cases hexponent : unpackExponent b = 0#_
  · rw [if_pos hexponent]
    by_cases hmantissa : unpackMantissa b = 0#_
    · rw [dif_pos hmantissa]
      trivial
    · rw [dif_neg hmantissa]
      trivial
  · rw [if_neg hexponent]
    trivial

/-- The bit that is left out when a mantissa is packed is the 53rd one. -/
theorem log2_append (mantissa : BitVec 52) : (1#1 ++ mantissa).toNat.log2 = 52 := by
  have hlt := mantissa.isLt
  have hsum : (1#1 ++ mantissa).toNat = 4503599627370496 + mantissa.toNat := by
    rw [BitVec.toNat_append, ← Nat.shiftLeft_add_eq_or_of_lt hlt]
    rfl
  rw [hsum, Nat.log2_eq_iff (by omega)]
  omega

theorem oneOrMore_unpack {b : BitVec binary64.numBits}
    (hsign : unpackSign b = Sign.positive.toBitVec) (h : unpackExponent b ≠ -1#_)
    (hunit : 1023 ≤ (unpackExponent b).toNat) :
    OneOrMore (UnpackedFloat.unpack binary64 b) := by
  have hzero : unpackExponent b ≠ 0#_ := by
    intro heq
    rw [heq] at hunit
    cases hunit
  have hbias : (binary64.exponentBias : Int) = 1023 := rfl
  unfold UnpackedFloat.unpack
  generalize unpackSign b = sign at hsign
  subst hsign
  dsimp only
  rw [if_neg h, if_neg hzero]
  refine ⟨log2_append (unpackMantissa b), ?_⟩
  omega

/-- An exponent that can be packed is not the one of infinity. -/
theorem ofNat_ne_neg_one {biased : Nat} (h : biased + 1 < 2048) :
    BitVec.ofNat 11 biased ≠ -1#_ := by
  intro heq
  have hbiased := congrArg BitVec.toNat heq
  rw [BitVec.toNat_ofNat, Nat.mod_eq_of_lt (by omega)] at hbiased
  have hlast : (-1#11).toNat = 2047 := rfl
  omega

theorem zeroOrMore_unpack_pack {x : UnpackedFloat} (h : ZeroOrMore x) :
    ZeroOrMore (UnpackedFloat.unpack binary64 (UnpackedFloat.pack binary64 x)) := by
  match x, h with
  | .infinity .positive, _ => trivial
  | .zero .positive, _ => trivial
  | .finite .positive m e hm, _ =>
    unfold UnpackedFloat.pack
    dsimp only
    split
    · trivial
    · next hfits =>
      split
      · apply zeroOrMore_unpack (unpackSign_packComponents _ _ _)
        rw [unpackExponent_packComponents]
        exact ofNat_ne_neg_one (Nat.not_le.1 hfits)
      · apply zeroOrMore_unpack (unpackSign_packComponents _ _ _)
        rw [unpackExponent_packComponents]
        decide

theorem oneOrMore_unpack_pack {x : UnpackedFloat} (h : OneOrMore x) :
    OneOrMore (UnpackedFloat.unpack binary64 (UnpackedFloat.pack binary64 x)) := by
  match x, h with
  | .infinity .positive, _ => trivial
  | .finite .positive m e hm, ⟨hbits, hunit⟩ =>
    unfold UnpackedFloat.pack
    dsimp only
    split
    · trivial
    · next hfits =>
      have hnormal : m.log2 + 1 = binary64.mantissaBits := by
        rw [hbits]
        rfl
      have hbias : (binary64.exponentBias : Int) = 1023 := rfl
      have hplain := Nat.not_le.1 hfits
      rw [if_pos hnormal]
      apply oneOrMore_unpack (unpackSign_packComponents _ _ _)
      · rw [unpackExponent_packComponents]
        exact ofNat_ne_neg_one hplain
      · rw [unpackExponent_packComponents, BitVec.toNat_ofNat,
          Nat.mod_eq_of_lt (Nat.lt_of_succ_lt hplain)]
        omega

/-! ## Comparing with one -/

theorem one_le_of_oneOrMore {x : Float} (h : OneOrMore x.toModel.unpack) : 1.0 ≤ x := by
  have hone : (1.0 : Float).toModel.unpack =
      .finite .positive 4503599627370496 (-52) (by decide) := rfl
  have hle : (1.0 : Float).toModel.unpack.le x.toModel.unpack = true := by
    rw [hone]
    match x.toModel.unpack, h with
    | .infinity .positive, _ => rfl
    | .finite .positive m e hm, ⟨hbits, hunit⟩ =>
      have hfirst : 4503599627370496 ≤ m :=
        (Nat.le_log2 (Nat.ne_of_gt hm)).1 (Nat.le_of_eq hbits.symm)
      have horder : ((compare (-52 : Int) e).then (compare 4503599627370496 m)).isLE = true := by
        rw [Ordering.isLE_then_iff_or, Int.compare_eq_lt, Int.compare_eq_eq, Nat.isLE_compare]
        omega
      exact horder
  exact decide_eq_true hle

end Chip8.Rounding

namespace Chip8.Play.Window

open Rounding

/-- A window of a second or more is not shorter than one in floats, as long as its whole seconds fit
64 bits. -/
theorem one_le_seconds {w : Window} (h : windowTime ≤ w.elapsed)
    (hfits : w.elapsed / 1000000000 < UInt64.size) : 1.0 ≤ w.seconds := by
  have hsecond : (UInt64.ofNat (w.elapsed / 1000000000)).toNat ≠ 0 := by
    rw [UInt64.toNat_ofNat', Nat.mod_eq_of_lt hfits]
    exact Nat.ne_of_gt (Nat.div_pos h (by decide))
  have hdivisor : ∃ m e hm, (1000000000.0 : Float).toModel.unpack = .finite .positive m e hm :=
    ⟨_, _, _, rfl⟩
  obtain ⟨m, e, hm, hdivisor⟩ := hdivisor
  have hfraction : ZeroOrMore ((UInt64.ofNat (w.elapsed % 1000000000)).toFloat /
      1000000000.0).toModel.unpack :=
    zeroOrMore_unpack_pack (zeroOrMore_div (zeroOrMore_unpack_pack (zeroOrMore_ofNat _)) hdivisor)
  have hwhole : OneOrMore (UInt64.ofNat (w.elapsed / 1000000000)).toFloat.toModel.unpack :=
    oneOrMore_unpack_pack (oneOrMore_ofNat hsecond)
  exact one_le_of_oneOrMore (oneOrMore_unpack_pack (oneOrMore_add hwhole hfraction))

end Chip8.Play.Window
