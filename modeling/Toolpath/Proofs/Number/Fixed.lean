import Toolpath.Proofs.Number.Conversion

/-!
Numbers printed with a fixed count of places. A finite double is printed as its sign and a whole number of
the last place: the number is scaled, rounded to a whole number and scaled back, each time to a double.
-/

namespace Toolpath.Number

open Float.Model Float.Model.UnpackedFloat

variable {x y : Float} {s : Bool} {q c : ℚ}

lemma Denotes.unpack_finite (h : Denotes y s c) (hc : c ≠ 0) :
    ∃ m e hm, y.toModel.unpack = .finite (signOf s) m e hm := by
  rcases h.unpack with ⟨hz, -⟩ | ⟨m, e, hm, hu, -⟩
  · exact absurd hz hc
  · exact ⟨m, e, hm, hu⟩

lemma exact_mul_infinite (h : exact x = .infinite s) (hy : Denotes y false c) (hc : c ≠ 0) :
    exact (x * y) = .infinite s := by
  have hxy : x * y = .ofModel (.pack (UnpackedFloat.mul .binary64 x.toModel.unpack y.toModel.unpack)) := rfl
  obtain ⟨m, e, hm, hu⟩ := hy.unpack_finite hc
  rw [hxy, unpack_of_infinite h, hu, UnpackedFloat.mul, signOf_mul, Bool.xor_false]
  exact exact_pack_infinity s

lemma exact_div_infinite (h : exact x = .infinite s) (hy : Denotes y false c) (hc : c ≠ 0) :
    exact (x / y) = .infinite s := by
  have hxy : x / y = .ofModel (.pack (UnpackedFloat.div .binary64 x.toModel.unpack y.toModel.unpack)) := rfl
  obtain ⟨m, e, hm, hu⟩ := hy.unpack_finite hc
  rw [hxy, unpack_of_infinite h, hu, UnpackedFloat.div, signOf_div, Bool.xor_false]
  exact exact_pack_infinity s

lemma exact_mul_nan (h : exact x = .nan) (y : Float) : exact (x * y) = .nan := by
  have hxy : x * y = .ofModel (.pack (UnpackedFloat.mul .binary64 x.toModel.unpack y.toModel.unpack)) := rfl
  rw [hxy, unpack_of_nan h, UnpackedFloat.mul]
  exact exact_pack_nan

lemma exact_div_nan (h : exact x = .nan) (y : Float) : exact (x / y) = .nan := by
  have hxy : x / y = .ofModel (.pack (UnpackedFloat.div .binary64 x.toModel.unpack y.toModel.unpack)) := rfl
  rw [hxy, unpack_of_nan h, UnpackedFloat.div]
  exact exact_pack_nan

lemma roundHalfAway_infinite (h : exact x = .infinite s) : roundHalfAway x = x := by
  rw [roundHalfAway, h]

lemma roundHalfAway_nan (h : exact x = .nan) : roundHalfAway x = x := by
  rw [roundHalfAway, h]

lemma denotes_tenTo_zero : Denotes (tenTo 0) false 1 :=
  ⟨2 ^ 52, -52, by decide +kernel, by norm_num⟩

lemma denotes_tenTo_two : Denotes (tenTo 2) false 100 :=
  ⟨100 * 2 ^ 46, -46, by decide +kernel, by norm_num⟩

lemma fraction_eq (d : Dyadic) (scale : ℕ) :
    0 < (d.fraction scale).2 ∧
      ((d.fraction scale).1 : ℚ) / (d.fraction scale).2 = d.mantissa * 2 ^ d.exponent * scale := by
  rcases d with ⟨s, m, e | e⟩
  · simp [Dyadic.fraction]
  · refine ⟨Nat.two_pow_pos (e + 1), ?_⟩
    simp only [Dyadic.fraction, Nat.pow_eq, zpow_negSucc]
    push_cast
    field_simp

theorem Denotes.fixed (h : Denotes x s q) (places : ℕ) :
    fixed x places = signed s (withPoint (nearestTo .toEven (q * 10 ^ places)) places) := by
  obtain ⟨m, e, hx, hq⟩ := h
  obtain ⟨hpos, hfrac⟩ := fraction_eq ⟨s, m, e⟩ (10 ^ places)
  rw [Number.fixed, hx]
  simp only [Nat.pow_eq, roundDiv_eq _ _ hpos, hfrac, hq]
  push_cast
  rfl

lemma fixed_infinite (h : exact x = .infinite s) (places : ℕ) : fixed x places = signed s ['i', 'n', 'f'] := by
  rw [Number.fixed, h]

lemma fixed_nan (h : exact x = .nan) (places : ℕ) : fixed x places = ['N', 'a', 'N'] := by
  rw [Number.fixed, h]

def settled (q : ℚ) : ℚ :=
  if rounded (q * 100) < top then rounded (nearestTo .awayFromZero (rounded (q * 100)) / 100) else q

def hundredths (q : ℚ) : ℕ := nearestTo .toEven (settled q * 100)

lemma rounded_nearestTo_lt (hq : 0 ≤ q) (h : q < top) :
    rounded (nearestTo .awayFromZero q / 100) < top := by
  have hk := (isNearest_nearestTo .awayFromZero hq).lower
  have htop : (2 : ℚ) ^ 1 * 2 ^ (1023 : ℤ) = top := pow_mul_zpow_eq_top (by norm_num)
  have hone : (1 : ℚ) ≤ 2 ^ (1023 : ℤ) := one_le_zpow₀ (by norm_num) (by norm_num)
  have hrep : Representable (2 ^ (1023 : ℤ)) := representable_zpow (by norm_num)
  rw [← htop] at h ⊢
  generalize (2 : ℚ) ^ (1023 : ℤ) = half at h hone hrep
  have hle : (nearestTo .awayFromZero q : ℚ) / 100 ≤ half := by
    rw [div_le_iff₀ (by norm_num)]
    linarith
  have hpos : 0 ≤ (nearestTo .awayFromZero q : ℚ) / 100 := div_nonneg (Nat.cast_nonneg _) (by norm_num)
  have := rounded_le hpos hrep hle
  linarith

theorem Denotes.toFixed_two (h : Denotes x s q) : toFixed x 2 = signed s (withPoint (hundredths q) 2) := by
  have hq := h.representable.nonneg
  have hscaled := h.mul denotes_tenTo_two
  have hten : (10 : ℚ) ^ 2 = 100 := by norm_num
  rw [Bool.xor_false] at hscaled
  rw [toFixed, hundredths, settled]
  split_ifs with hfin hlt hlt
  · have hr := (hscaled.denotes hlt).roundHalfAway.div denotes_tenTo_two (by norm_num)
    rw [Bool.xor_false] at hr
    have hd := hr.denotes (rounded_nearestTo_lt (rounded_nonneg (by positivity)) hlt)
    rw [hd.fixed, hten]
  · have hinf := hscaled.infinite (not_lt.mp hlt)
    have hdiv := exact_div_infinite hinf denotes_tenTo_two (by norm_num)
    rw [roundHalfAway_infinite hinf, not_isFinite_of_infinite hdiv] at hfin
    cases hfin
  · have hr := (hscaled.denotes hlt).roundHalfAway.div denotes_tenTo_two (by norm_num)
    rw [Bool.xor_false] at hr
    have hd := hr.denotes (rounded_nearestTo_lt (rounded_nonneg (by positivity)) hlt)
    exact absurd hd.isFinite hfin
  · rw [h.fixed, hten]

theorem Denotes.toFixed_zero (h : Denotes x s q) :
    toFixed x 0 = signed s (withPoint (nearestTo .awayFromZero q) 0) := by
  have hscaled := h.mul denotes_tenTo_zero
  rw [Bool.xor_false, mul_one] at hscaled
  have hq := rounded_of_representable h.representable
  have hd := hscaled.denotes (hq.symm ▸ h.lt_top)
  rw [hq] at hd
  have hk := hd.roundHalfAway
  have hr := hk.div denotes_tenTo_zero one_ne_zero
  rw [Bool.xor_false, div_one] at hr
  have hkq := rounded_of_representable hk.representable
  have hf := hr.denotes (hkq.symm ▸ hk.lt_top)
  rw [hkq] at hf
  rw [toFixed, if_pos hf.isFinite, hf.fixed, pow_zero, mul_one, nearestTo_natCast]

lemma toFixed_infinite (h : exact x = .infinite s) {places : ℕ} (ht : Denotes (tenTo places) false c) (hc : c ≠ 0) :
    toFixed x places = signed s ['i', 'n', 'f'] := by
  have hm := exact_mul_infinite h ht hc
  have hd := exact_div_infinite hm ht hc
  rw [toFixed, roundHalfAway_infinite hm, not_isFinite_of_infinite hd, if_neg (by decide), fixed_infinite h]

lemma toFixed_nan (h : exact x = .nan) (places : ℕ) : toFixed x places = ['N', 'a', 'N'] := by
  have hm := exact_mul_nan h (tenTo places)
  have hd := exact_div_nan hm (tenTo places)
  rw [toFixed, roundHalfAway_nan hm, not_isFinite_of_nan hd, if_neg (by decide), fixed_nan h]

end Toolpath.Number
