import Toolpath.Proofs.Number.Reprint

/-!
Doubles in order. All but the NaNs stand for numbers, the infinite ones for the ends of the range, and are
compared as these.
-/

namespace Toolpath.Number

open Float.Model Float.Model.UnpackedFloat

def withSign (s : Bool) (q : ℚ) : ℚ := if s then -q else q

/-- The number that a double stands for: an end of the range if it is infinite, and zero if it is a NaN. -/
def value (x : Float) : ℚ :=
  match exact x with
  | .finite d => withSign d.negative (d.mantissa * 2 ^ d.exponent)
  | .infinite s => withSign s top
  | .nan => 0

variable {x y : Float} {s : Bool} {q : ℚ}

@[simp] lemma withSign_zero (s : Bool) : withSign s 0 = 0 := by cases s <;> simp [withSign]

@[simp] lemma abs_withSign (s : Bool) (q : ℚ) : |withSign s q| = |q| := by cases s <;> simp [withSign]

lemma withSign_abs (q : ℚ) : withSign (q < 0) |q| = q := by
  by_cases h : q < 0
  · simp [withSign, h, abs_of_neg h]
  · simp [withSign, h, abs_of_nonneg (not_lt.mp h)]

lemma Denotes.value_eq (h : Denotes x s q) : value x = withSign s q := by
  obtain ⟨m, e, hx, rfl⟩ := h
  rw [value, hx]

lemma Denotes.nonneg (h : Denotes x s q) : 0 ≤ q := h.representable.nonneg

lemma Denotes.abs_value (h : Denotes x s q) : |value x| = q := by
  rw [h.value_eq, abs_withSign, abs_of_nonneg h.nonneg]

lemma value_of_infinite (h : exact x = .infinite s) : value x = withSign s top := by rw [value, h]

lemma isFinite_iff : x.isFinite ↔ ∃ s q, Denotes x s q := by
  constructor
  · intro h
    rcases exact_cases x with hx | ⟨s, hx⟩ | hx
    · rw [not_isFinite_of_nan hx] at h
      cases h
    · rw [not_isFinite_of_infinite hx] at h
      cases h
    · exact hx
  · rintro ⟨s, q, h⟩
    exact h.isFinite

lemma exact_of_not_isFinite (h : x.isFinite = false) : exact x = .nan ∨ ∃ s, exact x = .infinite s := by
  rcases exact_cases x with hx | ⟨s, hx⟩ | hx
  · exact .inl hx
  · exact .inr ⟨s, hx⟩
  · rw [isFinite_iff.mpr hx] at h
    cases h

lemma exists_denotes {x : Float} (h : x.isFinite) : ∃ s, Denotes x s |value x| := by
  obtain ⟨s, q, hx⟩ := isFinite_iff.mp h
  exact ⟨s, hx.abs_value.symm ▸ hx⟩

lemma representable_abs_value (h : x.isFinite) : Representable |value x| := by
  obtain ⟨s, q, hx⟩ := isFinite_iff.mp h
  rw [hx.abs_value]
  exact hx.representable

lemma abs_value_lt_top (h : x.isFinite) : |value x| < top := by
  obtain ⟨s, q, hx⟩ := isFinite_iff.mp h
  rw [hx.abs_value]
  exact hx.lt_top

lemma Canonical.mul_lt_mul {m m' : ℕ} {e e' : ℤ} (h : Canonical m e) (h' : Canonical m' e') (he : e < e') :
    (m : ℚ) * 2 ^ e < m' * 2 ^ e' := by
  have hlow : (2 : ℚ) ^ 52 ≤ m' := by exact_mod_cast h'.full (lt_of_le_of_lt h.le he)
  have hup : (m : ℚ) < 2 ^ 53 := by exact_mod_cast h.lt
  have hstep : (2 : ℚ) ^ (e + (1 : ℕ)) ≤ 2 ^ e' := zpow_le_zpow_right₀ (by norm_num) (by push_cast; omega)
  rw [zpow_add_nat] at hstep
  calc (m : ℚ) * 2 ^ e < 2 ^ 53 * 2 ^ e := mul_lt_mul_of_pos_right hup (two_zpow_pos e)
    _ = 2 ^ 52 * (2 ^ e * 2 ^ 1) := by ring
    _ ≤ m' * 2 ^ e' := mul_le_mul hlow hstep (by positivity) (by positivity)

lemma Canonical.compare_eq {m m' : ℕ} {e e' : ℤ} (h : Canonical m e) (h' : Canonical m' e') :
    (compare e e').then (compare m m') = compare ((m : ℚ) * 2 ^ e) (m' * 2 ^ e') := by
  rcases lt_trichotomy e e' with he | rfl | he
  · rw [compare_lt_iff_lt.mpr he, compare_lt_iff_lt.mpr (h.mul_lt_mul h' he)]
    rfl
  · have hpos := two_zpow_pos e
    rw [compare_eq_iff_eq.mpr (rfl : e = e)]
    rcases lt_trichotomy m m' with hm | rfl | hm
    · rw [compare_lt_iff_lt.mpr hm, compare_lt_iff_lt.mpr (mul_lt_mul_of_pos_right (by exact_mod_cast hm) hpos)]
      rfl
    · rw [compare_eq_iff_eq.mpr (rfl : m = m), compare_eq_iff_eq.mpr rfl]
      rfl
    · rw [compare_gt_iff_gt.mpr hm, compare_gt_iff_gt.mpr (mul_lt_mul_of_pos_right (by exact_mod_cast hm) hpos)]
      rfl
  · rw [compare_gt_iff_gt.mpr he, compare_gt_iff_gt.mpr (h'.mul_lt_mul h he)]
    rfl

inductive Unpacks (x : Float) : Prop
  | infinite (s : Bool) (unpack_eq : x.toModel.unpack = .infinity (signOf s)) (value_eq : value x = withSign s top)
  | zero (s : Bool) (unpack_eq : x.toModel.unpack = .zero (signOf s)) (value_eq : value x = 0)
  | finite (s : Bool) (m : ℕ) (e : ℤ) (hm : 0 < m) (unpack_eq : x.toModel.unpack = .finite (signOf s) m e hm)
      (canonical : Canonical m e) (pos : 0 < (m : ℚ) * 2 ^ e) (lt_top : (m : ℚ) * 2 ^ e < top)
      (value_eq : value x = withSign s (m * 2 ^ e))

lemma unpacks (h : exact x ≠ .nan) : Unpacks x := by
  rcases exact_cases x with hx | ⟨s, hx⟩ | ⟨s, q, hx⟩
  · exact absurd hx h
  · exact .infinite s (unpack_of_infinite hx) (value_of_infinite hx)
  · rcases hx.unpack with ⟨rfl, hu⟩ | ⟨m, e, hm, hu, hc, -, rfl⟩
    · exact .zero s hu (by rw [hx.value_eq, withSign_zero])
    · have hpos : (0 : ℚ) < m * 2 ^ e := mul_pos (by exact_mod_cast hm) (two_zpow_pos e)
      exact .finite s m e hm hu hc hpos hx.lt_top hx.value_eq

lemma compare_neg_neg (a b : ℚ) : compare (-a) (-b) = (compare a b).swap := by
  rcases lt_trichotomy a b with h | rfl | h
  · rw [compare_lt_iff_lt.mpr h, compare_gt_iff_gt.mpr (neg_lt_neg h)]
    rfl
  · rw [compare_eq_iff_eq.mpr (rfl : a = a), compare_eq_iff_eq.mpr rfl]
    rfl
  · rw [compare_gt_iff_gt.mpr h, compare_lt_iff_lt.mpr (neg_lt_neg h)]
    rfl

lemma compare_unpack (hx : exact x ≠ .nan) (hy : exact y ≠ .nan) :
    x.toModel.unpack.compare y.toModel.unpack = some (compare (value x) (value y)) := by
  have htop := top_pos
  rcases unpacks hx with ⟨s, hu, hv⟩ | ⟨s, hu, hv⟩ | ⟨s, m, e, hm, hu, hc, hpos, hlt, hv⟩ <;>
    rcases unpacks hy with ⟨s', hu', hv'⟩ | ⟨s', hu', hv'⟩ | ⟨s', m', e', hm', hu', hc', hpos', hlt', hv'⟩ <;>
    rw [hu, hu', hv, hv'] <;> cases s <;> cases s' <;>
    simp only [withSign, signOf, UnpackedFloat.compare, if_true, if_false, Bool.false_eq_true] <;>
    refine congrArg some (Eq.symm ?_)
  -- two finite numbers of one sign are the only case that the kinds and signs leave open
  case finite.finite.false.false => exact (hc.compare_eq hc').symm
  case finite.finite.true.true => rw [compare_neg_neg, hc.compare_eq hc']
  all_goals first
    | exact compare_lt_iff_lt.mpr (by linarith)
    | exact compare_gt_iff_gt.mpr (by linarith)
    | exact compare_eq_iff_eq.mpr (by with_reducible rfl)

lemma lt_iff_compare : x < y ↔ x.toModel.unpack.compare y.toModel.unpack == some .lt := decide_eq_true_iff

lemma le_iff_compare : x ≤ y ↔ (x.toModel.unpack.compare y.toModel.unpack).any (·.isLE) := decide_eq_true_iff

theorem lt_iff (hx : exact x ≠ .nan) (hy : exact y ≠ .nan) : x < y ↔ value x < value y := by
  rw [lt_iff_compare, compare_unpack hx hy, beq_iff_eq, Option.some.injEq, compare_lt_iff_lt]

theorem le_iff (hx : exact x ≠ .nan) (hy : exact y ≠ .nan) : x ≤ y ↔ value x ≤ value y := by
  rw [le_iff_compare, compare_unpack hx hy, Option.any_some, Ordering.isLE_iff_ne_gt, compare_gt_iff_gt, not_lt]

theorem beq_iff (hx : exact x ≠ .nan) (hy : exact y ≠ .nan) : x == y ↔ value x = value y := by
  have hxy : (x == y) = (x.toModel.unpack.compare y.toModel.unpack == some .eq) := rfl
  rw [hxy, compare_unpack hx hy, beq_iff_eq, Option.some.injEq, compare_eq_iff_eq]

lemma ne_nan_of_le (h : x ≤ y) : exact x ≠ .nan := by
  intro hx
  rw [le_iff_compare, unpack_of_nan hx, UnpackedFloat.compare] at h
  cases h

lemma compare_notANumber (f : UnpackedFloat) : f.compare .notANumber = none := by cases f <;> rfl

lemma ne_nan_of_lt (h : x < y) : exact x ≠ .nan ∧ exact y ≠ .nan := by
  rw [lt_iff_compare] at h
  constructor <;> intro hn <;> rw [unpack_of_nan hn] at h
  · cases h
  · rw [compare_notANumber] at h
    cases h

lemma not_le_of_lt (h : x < y) : ¬ y ≤ x := by
  obtain ⟨hx, hy⟩ := ne_nan_of_lt h
  rw [lt_iff hx hy] at h
  rw [le_iff hy hx]
  exact not_le.mpr h

lemma not_lt_of_lt (h : x < y) : ¬ y < x := by
  obtain ⟨hx, hy⟩ := ne_nan_of_lt h
  rw [lt_iff hx hy] at h
  rw [lt_iff hy hx]
  exact h.asymm

lemma not_lt_self (x : Float) : ¬ x < x := fun h => not_lt_of_lt h h

lemma ne_nan_of_isFinite (h : x.isFinite) : exact x ≠ .nan := by
  intro hx
  rw [not_isFinite_of_nan hx] at h
  cases h

end Toolpath.Number
