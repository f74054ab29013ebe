import Toolpath.Proofs.Number.Order

/-!
Sums and differences of doubles are the exact ones, rounded.
-/

namespace Toolpath.Number

open Float.Model Float.Model.UnpackedFloat

def RoundsTo (x : Float) (v : ℚ) : Prop := ∃ s, Rounds x s |v| ∧ withSign s |v| = v

variable {x y : Float} {s s' : Bool} {p q v z : ℚ} {m : ℕ}

lemma withSign_sub (s : Bool) (p q : ℚ) : withSign s p - withSign s q = withSign s (p - q) := by
  cases s
  · rfl
  · simp [withSign]
    ring

lemma Rounds.value_eq (h : Rounds x s q) : value x = withSign s (min (rounded q) top) := by
  rw [Rounds] at h
  split at h
  · rename_i hlt
    rw [h.value_eq, min_eq_left hlt.le]
  · rename_i hle
    rw [value_of_infinite h, min_eq_right (not_lt.mp hle)]

lemma Rounds.ne_nan (h : Rounds x s q) : exact x ≠ .nan := by
  rw [Rounds] at h
  split at h
  · exact ne_nan_of_isFinite h.isFinite
  · intro hx
    rw [h] at hx
    cases hx

namespace RoundsTo

lemma ne_nan (h : RoundsTo x v) : exact x ≠ .nan := by
  obtain ⟨s, h, -⟩ := h
  exact h.ne_nan

lemma value_eq (h : RoundsTo x v) : value x = withSign (v < 0) (min (rounded |v|) top) := by
  obtain ⟨s, h, hs⟩ := h
  rw [h.value_eq]
  rcases eq_or_ne v 0 with rfl | hv
  · simp [top_pos.le]
  · congr 1
    cases s
    · simpa [withSign] using hs
    · have hle : v ≤ 0 := by
        rw [withSign, if_pos rfl] at hs
        linarith [abs_nonneg v]
      simpa using lt_of_le_of_ne hle hv

lemma abs_value (h : RoundsTo x v) : |value x| = min (rounded |v|) top := by
  rw [h.value_eq, abs_withSign, abs_of_nonneg (le_min (rounded_nonneg (abs_nonneg v)) top_pos.le)]

lemma value_nonneg (h : RoundsTo x v) (hv : 0 ≤ v) : 0 ≤ value x := by
  rw [h.value_eq, decide_eq_false (not_lt.mpr hv), withSign, if_neg Bool.false_ne_true]
  exact le_min (rounded_nonneg (abs_nonneg v)) top_pos.le

lemma value_nonpos (h : RoundsTo x v) (hv : v ≤ 0) : value x ≤ 0 := by
  have hmin := le_min (rounded_nonneg (abs_nonneg v)) top_pos.le
  rw [h.value_eq]
  rcases hv.lt_or_eq with hneg | rfl
  · rw [decide_eq_true hneg, withSign, if_pos rfl]
    exact neg_nonpos.mpr hmin
  · simp [top_pos.le]

lemma isFinite (h : RoundsTo x v) (hv : rounded |v| < top) : x.isFinite := by
  obtain ⟨s, h, -⟩ := h
  exact (h.denotes hv).isFinite

lemma isFinite_of_le (h : RoundsTo x v) (hz : Representable z) (hlt : z < top) (hv : |v| ≤ z) : x.isFinite :=
  h.isFinite ((rounded_le (abs_nonneg v) hz hv).trans_lt hlt)

lemma value_of_representable (h : RoundsTo x v) (hv : Representable |v|) (hlt : |v| ≤ top) : value x = v := by
  rw [h.value_eq, rounded_of_representable hv, min_eq_left hlt, withSign_abs]

lemma abs_value_sub (h : RoundsTo x v) (hle : rounded |v| ≤ top) : |value x - v| = |rounded |v| - (|v|)| := by
  obtain ⟨s, h, hs⟩ := h
  have hdiff : value x - v = withSign s (rounded |v| - |v|) := by
    rw [h.value_eq, min_eq_left hle, ← withSign_sub, hs]
  rw [hdiff, abs_withSign]

lemma abs_value_sub_le (h : RoundsTo x v) {e : ℤ} (hv : |v| < 2 ^ e) (he : -1021 ≤ e) (he' : e ≤ 1023) :
    |value x - v| ≤ 2 ^ (e - 54) := by
  have hle : rounded |v| ≤ top := by
    refine (rounded_le (abs_nonneg v) (representable_zpow (by omega)) hv.le).trans ?_
    exact zpow_le_zpow_right₀ (by norm_num) (by omega : e ≤ (1024 : ℕ))
  rw [h.abs_value_sub hle]
  rcases (abs_nonneg v).eq_or_lt with hz | hpos
  · rw [← hz, rounded_zero, sub_zero, abs_zero]
    exact (two_zpow_pos _).le
  · have hunit := unit_le_of_lt hpos hv
    have hpow : (2 : ℚ) ^ unit |v| ≤ 2 ^ (e - 54 + (1 : ℕ)) := zpow_le_zpow_right₀ (by norm_num) (by push_cast; omega)
    rw [zpow_add_nat, pow_one] at hpow
    have hhalf := abs_rounded_sub_le_half hpos.le
    linarith

lemma isFinite_of_lt (h : RoundsTo x v) {e : ℤ} (hv : |v| < 2 ^ e) (he : -1074 ≤ e) (he' : e ≤ 1023) : x.isFinite := by
  refine h.isFinite_of_le (representable_zpow he) ?_ hv.le
  exact zpow_lt_zpow_right₀ (by norm_num) (by omega : e < (1024 : ℕ))

lemma abs_value_sub_le_mul (h : RoundsTo x v) (hlow : 2 ^ (-1022 : ℤ) ≤ |v|) (hup : |v| < 2 ^ (1023 : ℤ)) :
    |value x - v| ≤ |v| * 2 ^ (-53 : ℤ) := by
  have hpos := (two_zpow_pos _).trans_le hlow
  have hlog := (zpow_le_iff hpos).mp hlow
  have hlog' := (lt_zpow_iff hpos).mp hup
  have herr := h.abs_value_sub_le (e := Int.log 2 |v| + 1) ((lt_zpow_iff hpos).mpr (by omega)) (by omega) (by omega)
  rw [show Int.log 2 |v| + 1 - 54 = Int.log 2 |v| + -53 by ring, zpow_add₀ two_ne_zero] at herr
  exact herr.trans (mul_le_mul_of_nonneg_right ((zpow_le_iff hpos).mpr le_rfl) (two_zpow_pos _).le)

lemma le_abs_value (h : RoundsTo x v) (hz : Representable z) (hlt : z ≤ top) (hv : z ≤ |v|) : z ≤ |value x| := by
  rw [h.abs_value]
  exact le_min (le_rounded (abs_nonneg v) hz hv) hlt

lemma abs_value_le (h : RoundsTo x v) (hz : Representable z) (hv : |v| ≤ z) : |value x| ≤ z := by
  rw [h.abs_value]
  exact (min_le_left _ _).trans (rounded_le (abs_nonneg v) hz hv)

end RoundsTo

lemma Rounds.roundsTo (h : Rounds x s q) (hq : 0 ≤ q) : RoundsTo x (withSign s q) :=
  ⟨s, by rwa [abs_withSign, abs_of_nonneg hq], by rw [abs_withSign, abs_of_nonneg hq]⟩

lemma Denotes.roundsTo (h : Denotes x s q) : RoundsTo x (withSign s q) := by
  refine Rounds.roundsTo ?_ h.nonneg
  rw [Rounds, rounded_of_representable h.representable, if_pos h.lt_top]
  exact h

lemma roundsTo_normalize (k e : ℤ) :
    RoundsTo (.ofModel (.pack (UnpackedFloat.normalize .binary64 k e .positive))) (k * 2 ^ e) := by
  have hpos := two_zpow_pos e
  rw [UnpackedFloat.normalize]
  rcases lt_trichotomy k 0 with h | rfl | h
  · have hr := rounds_round true (m := (-k).toNat) (by omega) e
    have hk : (((-k).toNat : ℕ) : ℚ) = -k := by exact_mod_cast Int.toNat_of_nonneg (by omega : 0 ≤ -k)
    have hneg : (k : ℚ) * 2 ^ e < 0 := mul_neg_of_neg_of_pos (by exact_mod_cast h) hpos
    rw [hk, neg_mul, ← abs_of_neg hneg] at hr
    rw [Int.compare_eq_lt.mpr h]
    exact ⟨true, hr, by rw [withSign, if_pos rfl, abs_of_neg hneg, neg_neg]⟩
  · have hz : compare (0 : ℤ) 0 = .eq := rfl
    rw [hz, Int.cast_zero, zero_mul]
    have hr := rounds_zero (denotes_pack_zero false)
    exact ⟨false, by rwa [abs_zero], by simp⟩
  · have hr := rounds_round false (m := k.toNat) (by omega) e
    have hk : ((k.toNat : ℕ) : ℚ) = k := by exact_mod_cast Int.toNat_of_nonneg h.le
    have hle : 0 ≤ (k : ℚ) * 2 ^ e := mul_nonneg (by exact_mod_cast h.le) hpos.le
    rw [hk, ← abs_of_nonneg hle] at hr
    rw [Int.compare_eq_gt.mpr h]
    exact ⟨false, hr, by rw [withSign, if_neg Bool.false_ne_true, abs_of_nonneg hle]⟩

lemma apply_signOf (s : Bool) (m : ℕ) : (((signOf s).apply m : ℤ) : ℚ) = withSign s m := by
  cases s <;> simp [signOf, Sign.apply, withSign]

lemma withSign_mul (s : Bool) (p q : ℚ) : withSign s p * q = withSign s (p * q) := by cases s <;> simp [withSign]

lemma withSign_mul_withSign (s s' : Bool) (p q : ℚ) : withSign s p * withSign s' q = withSign (s ^^ s') (p * q) := by
  cases s <;> cases s' <;> simp [withSign]

lemma withSign_div_withSign (s s' : Bool) (p q : ℚ) : withSign s p / withSign s' q = withSign (s ^^ s') (p / q) := by
  cases s <;> cases s' <;> simp [withSign, neg_div, div_neg]

def Holds (f : UnpackedFloat) (s : Bool) (q : ℚ) : Prop := (q = 0 ∧ f = .zero (signOf s)) ∨
  ∃ m e hm, f = .finite (signOf s) m e hm ∧ Canonical m e ∧ e ≤ 971 ∧ (m : ℚ) * 2 ^ e = q

lemma Holds.neg {f : UnpackedFloat} (h : Holds f s q) : Holds f.neg (!s) q := by
  have hsign : -signOf s = signOf (!s) := by cases s <;> rfl
  rcases h with ⟨rfl, rfl⟩ | ⟨m, e, hm, rfl, hc, he, rfl⟩
  · exact .inl ⟨rfl, congrArg _ hsign⟩
  · exact .inr ⟨m, e, hm, by rw [UnpackedFloat.neg, hsign], hc, he, rfl⟩

lemma Holds.roundsTo_add {f g : UnpackedFloat} (hf : Holds f s p) (hg : Holds g s' q) :
    RoundsTo (.ofModel (.pack (UnpackedFloat.add .binary64 f g))) (withSign s p + withSign s' q) := by
  rcases hf with ⟨rfl, rfl⟩ | ⟨m, e, hm, rfl, hc, he, rfl⟩ <;>
    rcases hg with ⟨rfl, rfl⟩ | ⟨m', e', hm', rfl, hc', he', rfl⟩
  · have hz : ∀ s, RoundsTo (.ofModel (.pack (.zero (signOf s)))) 0 := fun s => by
      simpa using (denotes_pack_zero s).roundsTo
    rw [UnpackedFloat.add, withSign_zero, withSign_zero, add_zero]
    split
    · exact hz s
    · exact hz false
  · rw [withSign_zero, zero_add]
    exact (denotes_pack_finite s' hm' hc' he').roundsTo
  · rw [withSign_zero, add_zero]
    exact (denotes_pack_finite s hm hc he).roundsTo
  · have hr := roundsTo_normalize ((signOf s).apply (m <<< (e - min e e').toNat) +
      (signOf s').apply (m' <<< (e' - min e e').toNat)) (min e e')
    rw [Int.cast_add, apply_signOf, apply_signOf, add_mul, withSign_mul, withSign_mul,
      shiftLeft_mul_zpow m (min_le_left e e'), shiftLeft_mul_zpow m' (min_le_right e e')] at hr
    exact hr

lemma sub_eq_add (f g : UnpackedFloat) :
    UnpackedFloat.sub .binary64 f g = UnpackedFloat.add .binary64 f g.neg := by
  have happly : ∀ (s : Sign) (m : ℕ), (-s).apply m = -s.apply m := fun s m => by
    cases s
    · exact (neg_neg _).symm
    · rfl
  cases f <;> cases g <;> simp only [UnpackedFloat.sub, UnpackedFloat.add, UnpackedFloat.neg, happly, Int.sub_eq_add_neg]

section

variable (hx : x.isFinite) (hy : y.isFinite)

include hx hy

theorem roundsTo_mul : RoundsTo (x * y) (value x * value y) := by
  obtain ⟨s, p, hx⟩ := isFinite_iff.mp hx
  obtain ⟨s', q, hy⟩ := isFinite_iff.mp hy
  have hr := (hx.mul hy).roundsTo (mul_nonneg hx.nonneg hy.nonneg)
  rw [hx.value_eq, hy.value_eq, withSign_mul_withSign]
  exact hr

theorem roundsTo_div (h : value y ≠ 0) : RoundsTo (x / y) (value x / value y) := by
  obtain ⟨s, p, hx⟩ := isFinite_iff.mp hx
  obtain ⟨s', q, hy⟩ := isFinite_iff.mp hy
  have hq : q ≠ 0 := by
    rintro rfl
    exact h (by rw [hy.value_eq, withSign_zero])
  have hr := (hx.div hy hq).roundsTo (div_nonneg hx.nonneg hy.nonneg)
  rw [hx.value_eq, hy.value_eq, withSign_div_withSign]
  exact hr

theorem roundsTo_add : RoundsTo (x + y) (value x + value y) := by
  obtain ⟨s, p, hx⟩ := isFinite_iff.mp hx
  obtain ⟨s', q, hy⟩ := isFinite_iff.mp hy
  rw [hx.value_eq, hy.value_eq]
  exact Holds.roundsTo_add hx.unpack hy.unpack

theorem roundsTo_sub : RoundsTo (x - y) (value x - value y) := by
  obtain ⟨s, p, hx⟩ := isFinite_iff.mp hx
  obtain ⟨s', q, hy⟩ := isFinite_iff.mp hy
  have hsub : x - y = .ofModel (.pack (UnpackedFloat.sub .binary64 x.toModel.unpack y.toModel.unpack)) := rfl
  have hneg : withSign (!s') q = -withSign s' q := by cases s' <;> simp [withSign]
  have hr := Holds.roundsTo_add hx.unpack (Holds.neg hy.unpack)
  rw [hsub, sub_eq_add, hx.value_eq, hy.value_eq, sub_eq_add_neg, ← hneg]
  exact hr

end

lemma denotes_sub_self (h : x.isFinite) : ∃ s, Denotes (x - x) s 0 := by
  have hr := roundsTo_sub h h
  rw [sub_self] at hr
  obtain ⟨s, hs, -⟩ := hr
  rw [abs_zero] at hs
  have hd := hs.denotes (by rw [rounded_zero]; exact top_pos)
  rw [rounded_zero] at hd
  exact ⟨s, hd⟩

lemma add_infinity (s : Sign) (f : UnpackedFloat) : UnpackedFloat.add .binary64 (.infinity s) f = .notANumber ∨
    UnpackedFloat.add .binary64 (.infinity s) f = .infinity s := by
  cases f with
  | notANumber => exact .inl rfl
  | infinity s' =>
    rw [UnpackedFloat.add]
    split
    · exact .inr rfl
    · exact .inl rfl
  | zero | finite => exact .inr rfl

lemma isFinite_of_pack_add {f : UnpackedFloat}
    (h : (Float.ofModel (.pack (UnpackedFloat.add .binary64 x.toModel.unpack f))).isFinite) : x.isFinite := by
  have hnan : (Float.ofModel (.pack .notANumber)).isFinite = false := not_isFinite_of_nan exact_pack_nan
  rcases exact_cases x with hx | ⟨s, hx⟩ | hx
  · rw [unpack_of_nan hx, UnpackedFloat.add, hnan] at h
    cases h
  · rw [unpack_of_infinite hx] at h
    rcases add_infinity (signOf s) f with he | he
    · rw [he, hnan] at h
      cases h
    · rw [he, not_isFinite_of_infinite (exact_pack_infinity s)] at h
      cases h
  · exact isFinite_iff.mpr hx

lemma isFinite_of_add (h : (x + y).isFinite) : x.isFinite := isFinite_of_pack_add h

lemma isFinite_of_sub (h : (x - y).isFinite) : x.isFinite := by
  have hsub : x - y = .ofModel (.pack (UnpackedFloat.sub .binary64 x.toModel.unpack y.toModel.unpack)) := rfl
  rw [hsub, sub_eq_add] at h
  exact isFinite_of_pack_add h

end Toolpath.Number
