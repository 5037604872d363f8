import Loopback.Sample
import Mathlib.Algebra.Order.Field.Power
import Mathlib.Algebra.Order.Field.Rat
import Mathlib.Tactic.GCongr
import Mathlib.Tactic.NormNum
import Mathlib.Tactic.Positivity
import Mathlib.Tactic.Ring

/-! # The numbers that samples stand for

    A finite pattern stands for a rational number, and comparing patterns compares these numbers.

    * `toRat` is the number of a pattern, computed from its fields.
    * `unpacked_of_finite` finds the same fields in the unpacked number that comparisons use, and
      `unpack_value` says that packing and unpacking keeps it.
    * `Scaled` says which significands and scales a pattern can have.  A number has only one such
      form, so scales are compared before significands (`Scaled.compare_eq_lt_iff`).
    * `below_iff_toRat_lt` puts both together.
-/

namespace Loopback.Sample

open Float.Model
open Float.Model.UnpackedFloat (Sign unpackExponent unpackMantissa unpackSign packComponents)

def toRat (s : Sample) : ℚ :=
  let magnitude : ℚ := s.significand * 2 ^ s.scale
  if s.isNegative then -magnitude else magnitude

/-! ### Fields -/

theorem magnitudeBits_eq (s : Sample) : s.magnitudeBits.toNat = s.bits.toNat % 2 ^ 31 :=
  Nat.and_two_pow_sub_one_eq_mod s.bits.toNat 31

theorem exponentField_eq (s : Sample) : s.exponentField = s.bits.toNat / 2 ^ 23 % 2 ^ 8 := by
  rw [exponentField, UInt32.toNat_shiftRight, magnitudeBits_eq]
  show _ >>> 23 = _
  rw [Nat.shiftRight_eq_div_pow]
  omega

theorem fractionField_eq (s : Sample) : s.fractionField = s.bits.toNat % 2 ^ 23 :=
  Nat.and_two_pow_sub_one_eq_mod s.bits.toNat 23

theorem isNegative_iff (s : Sample) : s.isNegative = true ↔ 2 ^ 31 ≤ s.bits.toNat := by
  rw [isNegative, decide_eq_true_eq, UInt32.le_iff_toNat_le]
  rfl

theorem fractionField_lt (s : Sample) : s.fractionField < 2 ^ 23 := by
  rw [fractionField_eq]
  exact Nat.mod_lt _ (by decide)

/-- The largest exponent is that of infinities and NaNs. -/
theorem isFinite_iff (s : Sample) : s.isFinite = true ↔ s.exponentField < 255 := by
  rw [isFinite, decide_eq_true_eq, UInt32.lt_iff_toNat_lt, magnitudeBits_eq, exponentField_eq]
  show _ < 0x7f800000 ↔ _
  omega

/-! ### Unpacked numbers -/

def unpacked (s : Sample) : UnpackedFloat := .unpack .binary32 s.bits.toBitVec

def sign (s : Sample) : Sign := if s.isNegative then .negative else .positive

theorem ofBitVec_unpackSign (s : Sample) :
    Sign.ofBitVec (@unpackSign .binary32 s.bits.toBitVec) = s.sign := by
  have hbit : (@unpackSign .binary32 s.bits.toBitVec).toNat
      = s.bits.toNat / 2 ^ 31 := by
    show ((s.bits.toBitVec.extractLsb 31 31).cast _).toNat = _
    simp only [BitVec.toNat_cast, BitVec.extractLsb_toNat, UInt32.toNat_toBitVec,
      Nat.shiftRight_eq_div_pow]
    have hlt := s.bits.toNat_lt
    omega
  have hzero : @unpackSign .binary32 s.bits.toBitVec = 0#1
      ↔ ¬s.isNegative = true := by
    rw [← BitVec.toNat_inj, hbit, isNegative_iff]
    simp only [BitVec.toNat_zero]
    omega
  simp only [Sign.ofBitVec, sign, hzero]
  by_cases hneg : s.isNegative = true <;> simp [hneg]

theorem toNat_unpackExponent (s : Sample) :
    (@unpackExponent .binary32 s.bits.toBitVec).toNat
      = s.exponentField := by
  rw [exponentField_eq, unpackExponent]
  simp [BitVec.extractLsb_toNat, Nat.shiftRight_eq_div_pow]

theorem toNat_unpackMantissa (s : Sample) :
    (@unpackMantissa .binary32 s.bits.toBitVec).toNat
      = s.fractionField := by
  rw [fractionField_eq, unpackMantissa]
  simp [BitVec.extractLsb_toNat, Nat.shiftRight_eq_div_pow]

/-- The leading bit that normal numbers do not store. -/
theorem toNat_leading (m : BitVec 23) : (1#1 ++ m).toNat = m.toNat + 2 ^ 23 := by
  rw [BitVec.toNat_append, ← Nat.shiftLeft_add_eq_or_of_lt m.isLt, Nat.add_comm]
  rfl

theorem finite_congr {sign : Sign} {m m' : ℕ} {e e' : ℤ} {h : 0 < m} {h' : 0 < m'} (hm : m = m')
    (he : e = e') : UnpackedFloat.finite sign m e h = .finite sign m' e' h' := by
  subst hm he
  rfl

section

variable {b : BitVec Format.binary32.numBits}

theorem unpack_of_zero (hexponent : unpackExponent b = 0#8) (hmantissa : unpackMantissa b = 0#23) :
    UnpackedFloat.unpack .binary32 b = .zero (Sign.ofBitVec (unpackSign b)) := by
  have hordinary : ¬unpackExponent b = -1#8 := by
    rw [hexponent]
    decide
  delta UnpackedFloat.unpack
  dsimp only
  rw [if_neg hordinary, if_pos hexponent, dif_pos hmantissa]

/-- Without an exponent, the significand is stored as it is, at the smallest scale. -/
theorem unpack_of_subnormal (hexponent : unpackExponent b = 0#8)
    (hmantissa : unpackMantissa b ≠ 0#23) (hpos : 0 < (unpackMantissa b).toNat) :
    UnpackedFloat.unpack .binary32 b
      = .finite (Sign.ofBitVec (unpackSign b)) (unpackMantissa b).toNat (-149) hpos := by
  have hordinary : ¬unpackExponent b = -1#8 := by
    rw [hexponent]
    decide
  have hscale : ((unpackExponent b).toNat : ℤ) - (127 + 23) + 1 = -149 := by
    rw [hexponent]
    rfl
  delta UnpackedFloat.unpack
  dsimp only
  rw [if_neg hordinary, if_pos hexponent, dif_neg hmantissa]
  exact finite_congr rfl hscale

/-- With an exponent, the significand has a leading bit that is not stored. -/
theorem unpack_of_normal (hordinary : unpackExponent b ≠ -1#8) (hexponent : unpackExponent b ≠ 0#8)
    (hpos : 0 < (unpackMantissa b).toNat + 2 ^ 23) :
    UnpackedFloat.unpack .binary32 b
      = .finite (Sign.ofBitVec (unpackSign b)) ((unpackMantissa b).toNat + 2 ^ 23)
          ((unpackExponent b).toNat - 150) hpos := by
  have hscale : ((unpackExponent b).toNat : ℤ) - (127 + 23) = (unpackExponent b).toNat - 150 := by
    omega
  delta UnpackedFloat.unpack
  dsimp only
  rw [if_neg hordinary, if_neg hexponent]
  exact finite_congr (toNat_leading _) hscale

end

/-- A finite pattern is a zero, or else has its significand and its scale. -/
theorem unpacked_of_finite {s : Sample} (h : s.isFinite = true) :
    (s.significand = 0 ∧ s.unpacked = .zero s.sign)
      ∨ ∃ hpos, s.unpacked = .finite s.sign s.significand s.scale hpos := by
  have hexponent := toNat_unpackExponent s
  have hmantissa := toNat_unpackMantissa s
  have hlt := (isFinite_iff s).mp h
  have hordinary : @unpackExponent .binary32 s.bits.toBitVec ≠ -1#8 := by
    intro hall
    rw [← hexponent, hall] at hlt
    exact absurd hlt (by decide)
  rw [unpacked, ← ofBitVec_unpackSign]
  by_cases hsubnormal : @unpackExponent .binary32 s.bits.toBitVec = 0#8
  · have hfield : s.exponentField = 0 := by
      rw [← hexponent, hsubnormal]
      rfl
    have hsignificand : s.significand = s.fractionField := by rw [significand, if_pos hfield]
    have hscale : s.scale = -149 := by
      rw [scale, hfield]
      rfl
    by_cases hzero : @unpackMantissa .binary32 s.bits.toBitVec = 0#23
    · refine .inl ⟨?_, unpack_of_zero hsubnormal hzero⟩
      rw [hsignificand, ← hmantissa, hzero]
      rfl
    · have hpos : 0 < (@unpackMantissa .binary32 s.bits.toBitVec).toNat :=
        Nat.pos_of_ne_zero fun hnone => hzero (BitVec.eq_of_toNat_eq hnone)
      refine .inr ⟨by rwa [hsignificand, ← hmantissa], ?_⟩
      rw [unpack_of_subnormal hsubnormal hzero hpos]
      exact finite_congr (hmantissa.trans hsignificand.symm) hscale.symm
  · have hfield : s.exponentField ≠ 0 := by
      intro hfield
      exact hsubnormal (BitVec.eq_of_toNat_eq (hexponent.trans hfield))
    have hsignificand : s.significand = s.fractionField + 2 ^ 23 := by
      rw [significand, if_neg hfield]
    have hscale : s.scale = s.exponentField - 150 := by
      rw [scale]
      omega
    refine .inr ⟨by omega, ?_⟩
    rw [unpack_of_normal hordinary hsubnormal (by omega)]
    exact finite_congr (by rw [hmantissa, hsignificand]) (by rw [hexponent, hscale])

/-! ### Packing -/

/-- A significand and a scale that a pattern can have. -/
structure Scaled (m : ℕ) (e : ℤ) : Prop where
  lt : m < 2 ^ 24
  bottom_le : -149 ≤ e
  normal : 2 ^ 23 ≤ m ∨ e = -149

theorem scaled (s : Sample) : Scaled s.significand s.scale := by
  have hfraction := fractionField_lt s
  rw [significand, scale]
  by_cases hzero : s.exponentField = 0
  · rw [if_pos hzero, hzero]
    exact ⟨by omega, by omega, .inr (by omega)⟩
  · rw [if_neg hzero]
    exact ⟨by omega, by omega, .inl (by omega)⟩

/-- The largest scale is that of the largest finite exponent. -/
theorem scale_lt_of_finite {s : Sample} (h : s.isFinite = true) : s.scale < 105 := by
  have hfield := (isFinite_iff s).mp h
  rw [scale]
  omega

/-- The sign of packed parts. -/
theorem ofBitVec_unpackSign_packComponents (sign : Sign) (e : BitVec 8) (m : BitVec 23) :
    Sign.ofBitVec (unpackSign (packComponents .binary32 sign e m)) = sign := by
  have hbit : unpackSign (packComponents .binary32 sign e m) = sign.toBitVec := by
    show ((sign.toBitVec ++ e ++ m).extractLsb 31 31).cast _ = _
    ext i hi
    obtain rfl : i = 0 := by omega
    simp only [BitVec.getElem_cast, BitVec.extractLsb, BitVec.getElem_extractLsb',
      BitVec.getLsbD_append]
    rfl
  rw [hbit]
  cases sign <;> rfl

section

variable {m : ℕ} (sign : Sign) (hpos : 0 < m)

/-- Small significands are stored as they are, with the exponent zero. -/
theorem unpack_pack_of_lt (h : m < 2 ^ 23) :
    UnpackedFloat.unpack .binary32 (UnpackedFloat.pack .binary32 (.finite sign m (-149) hpos))
      = .finite sign m (-149) hpos := by
  have hlog : m.log2 < 23 := (Nat.log2_lt (Nat.ne_of_gt hpos)).mpr h
  have hpack : UnpackedFloat.pack .binary32 (.finite sign m (-149) hpos)
      = packComponents .binary32 sign 0#8 (BitVec.ofNat 23 m) := if_neg (by
    show ¬m.log2 + 1 = 24
    omega)
  have hexponent := @UnpackedFloat.unpackExponent_packComponents .binary32 sign 0#8
    (BitVec.ofNat 23 m)
  have hmantissa := @UnpackedFloat.unpackMantissa_packComponents .binary32 sign 0#8
    (BitVec.ofNat 23 m)
  have hstored : (BitVec.ofNat 23 m).toNat = m := Nat.mod_eq_of_lt h
  have hsome : BitVec.ofNat 23 m ≠ 0#23 := by
    intro hnone
    rw [hnone] at hstored
    exact absurd hstored.symm (Nat.ne_of_gt hpos)
  rw [hpack, unpack_of_subnormal hexponent (by rwa [hmantissa]) (by rwa [hmantissa, hstored]),
    ofBitVec_unpackSign_packComponents]
  exact finite_congr (by rw [hmantissa, hstored]) rfl

/-- Large significands are stored without their leading bit, with an exponent that is neither zero
    nor the largest. -/
theorem unpack_pack_of_le {e : ℤ} (hlow : 2 ^ 23 ≤ m) (hhigh : m < 2 ^ 24) (hbottom : -149 ≤ e)
    (htop : e < 105) :
    UnpackedFloat.unpack .binary32 (UnpackedFloat.pack .binary32 (.finite sign m e hpos))
      = .finite sign m e hpos := by
  have hlog : m.log2 = 23 := (Nat.log2_eq_iff (Nat.ne_of_gt hpos)).mpr ⟨hlow, hhigh⟩
  obtain ⟨field, hfield⟩ : ∃ field : ℕ, (e + 127 + 23).toNat = field := ⟨_, rfl⟩
  have hpack : UnpackedFloat.pack .binary32 (.finite sign m e hpos)
      = packComponents .binary32 sign (BitVec.ofNat 8 field) (BitVec.ofNat 23 m) := by
    have hsmall : ¬256 ≤ (e + 127 + 23).toNat + 1 := by omega
    have hbits : m.log2 + 1 = 24 := by omega
    rw [← hfield]
    exact (if_neg hsmall).trans (if_pos hbits)
  have hexponent := @UnpackedFloat.unpackExponent_packComponents .binary32 sign
    (BitVec.ofNat 8 field) (BitVec.ofNat 23 m)
  have hmantissa := @UnpackedFloat.unpackMantissa_packComponents .binary32 sign
    (BitVec.ofNat 8 field) (BitVec.ofNat 23 m)
  have hstored : (BitVec.ofNat 8 field).toNat = field := Nat.mod_eq_of_lt (by omega)
  have hordinary : BitVec.ofNat 8 field ≠ -1#8 := by
    intro hall
    have hlargest : (255 : ℕ) = field := (congrArg BitVec.toNat hall).symm.trans hstored
    omega
  have hnormal : BitVec.ofNat 8 field ≠ 0#8 := by
    intro hnone
    have hzero : (0 : ℕ) = field := (congrArg BitVec.toNat hnone).symm.trans hstored
    omega
  have hwhole : (BitVec.ofNat 23 m).toNat + 2 ^ 23 = m := by
    rw [BitVec.toNat_ofNat]
    omega
  rw [hpack, unpack_of_normal (by rwa [hexponent]) (by rwa [hexponent]) (by omega),
    ofBitVec_unpackSign_packComponents]
  exact finite_congr (by rw [hmantissa, hwhole]) (by rw [hexponent, hstored]; omega)

end

section

variable {s a b : Sample}

/-- Packing and unpacking keeps a finite pattern. -/
theorem unpack_value (h : s.isFinite = true) : s.value.toModel.unpack = s.unpacked := by
  show UnpackedFloat.unpack .binary32 (UnpackedFloat.pack .binary32 s.unpacked) = s.unpacked
  obtain ⟨hlt, hbottom, hnormal⟩ := s.scaled
  rcases unpacked_of_finite h with ⟨-, hzero⟩ | ⟨hpos, hfinite⟩
  · have hpack : UnpackedFloat.pack .binary32 (.zero s.sign)
        = packComponents .binary32 s.sign 0#8 0#23 := rfl
    rw [hzero, hpack, unpack_of_zero UnpackedFloat.unpackExponent_packComponents
      UnpackedFloat.unpackMantissa_packComponents, ofBitVec_unpackSign_packComponents]
  · rw [hfinite]
    by_cases hlarge : 2 ^ 23 ≤ s.significand
    · exact unpack_pack_of_le s.sign hpos hlarge hlt hbottom (scale_lt_of_finite h)
    · have hscale := hnormal.resolve_left hlarge
      have hsmall := unpack_pack_of_lt s.sign hpos (Nat.lt_of_not_le hlarge)
      rw [← hscale] at hsmall
      exact hsmall

theorem below_iff_compare (ha : a.isFinite = true) (hb : b.isFinite = true) :
    a.below b = true ↔ a.unpacked.compare b.unpacked = some .lt := by
  rw [← unpack_value ha, ← unpack_value hb, below, decide_eq_true_eq]
  show decide (a.value.toModel < b.value.toModel) = true ↔ _
  rw [decide_eq_true_eq]
  show (a.value.toModel.unpack.compare b.value.toModel.unpack == some .lt) = true ↔ _
  rw [beq_iff_eq]

end

/-! ### Order -/

section

variable {m n : ℕ} {e f : ℤ}

/-- The larger scale has the larger number, since its significand is not small. -/
theorem Scaled.lt_of_scale_lt (hm : Scaled m e) (hn : Scaled n f) (h : e < f) :
    (m : ℚ) * 2 ^ e < n * 2 ^ f := by
  have hlarge : 2 ^ 23 ≤ n := by
    rcases hn.normal with hlarge | hbottom
    · exact hlarge
    · have := hm.bottom_le
      omega
  calc (m : ℚ) * 2 ^ e
      < 2 ^ 24 * 2 ^ e := by
        gcongr
        exact_mod_cast hm.lt
    _ = 2 ^ 23 * 2 ^ (e + 1) := by
        rw [zpow_add_one₀ two_ne_zero]
        ring
    _ ≤ n * 2 ^ f := by
        gcongr
        · exact_mod_cast hlarge
        · norm_num
        · omega

/-- The scales decide, and the significands if the scales agree. -/
theorem Scaled.compare_eq_lt_iff (hm : Scaled m e) (hn : Scaled n f) :
    (compare e f).then (compare m n) = .lt ↔ (m : ℚ) * 2 ^ e < n * 2 ^ f := by
  rw [Ordering.then_eq_lt, compare_lt_iff_lt, compare_eq_iff_eq, compare_lt_iff_lt]
  rcases lt_trichotomy e f with hlt | rfl | hgt
  · exact iff_of_true (.inl hlt) (hm.lt_of_scale_lt hn hlt)
  · have hpos : (0 : ℚ) < 2 ^ e := by positivity
    rw [mul_lt_mul_iff_left₀ hpos, Nat.cast_lt]
    simp
  · have hnot := (hn.lt_of_scale_lt hm hgt).le.not_gt
    refine iff_of_false ?_ hnot
    rintro (hlt | ⟨rfl, -⟩) <;> omega

end

section

variable {s a b : Sample}

theorem toRat_of_significand_eq_zero (h : s.significand = 0) : s.toRat = 0 := by
  simp [toRat, h]

/-- The sign of a pattern is the sign of its number, unless that is zero. -/
theorem toRat_pos_iff (h : 0 < s.significand) : 0 < s.toRat ↔ s.isNegative = false := by
  have hpos : (0 : ℚ) < s.significand * 2 ^ s.scale := by positivity
  by_cases hneg : s.isNegative = true
  · simp [toRat, hneg, hpos.le]
  · simp [toRat, hneg, hpos]

theorem toRat_neg_iff (h : 0 < s.significand) : s.toRat < 0 ↔ s.isNegative = true := by
  have hpos : (0 : ℚ) < s.significand * 2 ^ s.scale := by positivity
  by_cases hneg : s.isNegative = true
  · simp [toRat, hneg, hpos]
  · simp [toRat, hneg, hpos.le]

theorem sign_of_negative (h : s.isNegative = true) : s.sign = .negative := if_pos h

theorem sign_of_not_negative (h : s.isNegative = false) : s.sign = .positive := by
  rw [sign, h]
  rfl

/-- Nonzero patterns are compared by their signs first, and by their magnitudes if the signs agree.
    -/
theorem compare_finite_eq_lt_iff (ha : 0 < a.significand) (hb : 0 < b.significand) :
    (UnpackedFloat.finite a.sign a.significand a.scale ha).compare
        (.finite b.sign b.significand b.scale hb) = some .lt ↔ a.toRat < b.toRat := by
  cases hnega : a.isNegative with
  | true =>
    have hbelow := (toRat_neg_iff ha).mpr hnega
    rw [sign_of_negative hnega]
    cases hnegb : b.isNegative with
    | true =>
      -- below zero, the larger magnitude is the smaller number
      have hlt := b.scaled.compare_eq_lt_iff a.scaled
      rw [sign_of_negative hnegb]
      show some ((compare a.scale b.scale).then (compare a.significand b.significand)).swap
        = some .lt ↔ _
      simp only [toRat, hnega, hnegb, if_true, Option.some.injEq, neg_lt_neg_iff, ← hlt,
        Ordering.swap_then, ← Std.OrientedCmp.eq_swap]
    | false =>
      rw [sign_of_not_negative hnegb]
      exact iff_of_true rfl (hbelow.trans ((toRat_pos_iff hb).mpr hnegb))
  | false =>
    have habove := (toRat_pos_iff ha).mpr hnega
    rw [sign_of_not_negative hnega]
    cases hnegb : b.isNegative with
    | true =>
      have hbelow := (toRat_neg_iff hb).mpr hnegb
      rw [sign_of_negative hnegb]
      exact iff_of_false nofun (hbelow.trans habove).le.not_gt
    | false =>
      have hlt := a.scaled.compare_eq_lt_iff b.scaled
      rw [sign_of_not_negative hnegb]
      show some ((compare a.scale b.scale).then (compare a.significand b.significand)) = some .lt
        ↔ _
      simp only [toRat, hnega, hnegb, Bool.false_eq_true, if_false, Option.some.injEq, hlt]

/-- Zero is below the positive patterns. -/
theorem compare_zero_finite_eq_lt_iff (sign : Sign) (hb : 0 < b.significand) :
    (UnpackedFloat.zero sign).compare (.finite b.sign b.significand b.scale hb) = some .lt
      ↔ b.isNegative = false := by
  cases hneg : b.isNegative with
  | true =>
    rw [sign_of_negative hneg]
    exact iff_of_false nofun nofun
  | false =>
    rw [sign_of_not_negative hneg]
    exact iff_of_true rfl rfl

theorem compare_finite_zero_eq_lt_iff (sign : Sign) (ha : 0 < a.significand) :
    (UnpackedFloat.finite a.sign a.significand a.scale ha).compare (.zero sign) = some .lt
      ↔ a.isNegative = true := by
  cases hneg : a.isNegative with
  | true =>
    rw [sign_of_negative hneg]
    exact iff_of_true rfl rfl
  | false =>
    rw [sign_of_not_negative hneg]
    exact iff_of_false nofun nofun

/-- **Finite samples are ordered as their numbers are.** -/
theorem below_iff_toRat_lt (ha : a.isFinite = true) (hb : b.isFinite = true) :
    a.below b = true ↔ a.toRat < b.toRat := by
  rw [below_iff_compare ha hb]
  rcases unpacked_of_finite ha with ⟨hza, hua⟩ | ⟨hpa, hua⟩
  · rw [hua, toRat_of_significand_eq_zero hza]
    rcases unpacked_of_finite hb with ⟨hzb, hub⟩ | ⟨hpb, hub⟩
    · rw [hub, toRat_of_significand_eq_zero hzb]
      exact iff_of_false nofun (lt_irrefl 0)
    · rw [hub, toRat_pos_iff hpb, compare_zero_finite_eq_lt_iff]
  · rcases unpacked_of_finite hb with ⟨hzb, hub⟩ | ⟨hpb, hub⟩
    · rw [hua, hub, toRat_of_significand_eq_zero hzb, toRat_neg_iff hpa,
        compare_finite_zero_eq_lt_iff]
    · rw [hua, hub, compare_finite_eq_lt_iff hpa hpb]

end

@[simp] theorem toRat_zero : zero.toRat = 0 := toRat_of_significand_eq_zero rfl

@[simp] theorem toRat_one : one.toRat = 1 := by
  have hsignificand : one.significand = 2 ^ 23 := rfl
  have hscale : one.scale = -23 := rfl
  have hsign : one.isNegative = false := rfl
  rw [toRat, hsignificand, hscale, hsign]
  norm_num

end Loopback.Sample
