import Toolpath.Proofs.Number.Encoding

/-!
Arithmetic on doubles is exact arithmetic, rounded. The guard bits that multiplication and division keep say
where the exact result lies next to the mantissa, shifting them keeps that, and the rounded mantissa is the
nearest whole number.
-/

namespace Toolpath.Number

open Float.Model Float.Model.UnpackedFloat

def Describes (m : ℕ) : Accuracy → ℚ → Prop
  | .exact, x => x = m
  | .inexact .lt, x => (m : ℚ) < x ∧ x < m + 1 / 2
  | .inexact .eq, x => x = m + 1 / 2
  | .inexact .gt, x => (m : ℚ) + 1 / 2 < x ∧ x < m + 1

def Represents (em : ExtendedMantissa) (x : ℚ) : Prop := Describes em.mantissa em.accuracy x

variable {em : ExtendedMantissa} {x q : ℚ} {m : ℕ} {acc : Accuracy}

lemma Describes.bounds (h : Describes m acc x) : (m : ℚ) ≤ x ∧ x < m + 1 := by
  rcases acc with _ | _ | _ | _
  · exact ⟨h.ge, by rw [h]; linarith⟩
  · exact ⟨h.1.le, by linarith [h.2]⟩
  · exact ⟨by rw [h]; linarith, by rw [h]; linarith⟩
  · exact ⟨by linarith [h.1], h.2⟩

lemma Describes.represents (h : Describes m acc x) : Represents (.ofMantissaAndAccuracy m acc) x := by
  rcases acc with _ | _ | _ | _ <;> exact h

lemma Represents.shiftRightOne (h : Represents em x) : Represents em.shiftRightOne (x / 2) := by
  rcases em with ⟨m, r, s⟩
  obtain ⟨k, rfl | rfl⟩ := m.even_or_odd'
  · have hk : 2 * k / 2 = k := by omega
    have hb : (2 * k % 2 != 0) = false := by simp
    cases r <;> cases s <;>
      simp only [Represents, Describes, ExtendedMantissa.shiftRightOne, ExtendedMantissa.accuracy, hk, hb,
        Bool.or_false, Bool.or_true] at h ⊢ <;>
      push_cast at h
    · linarith
    · constructor <;> linarith
    · constructor <;> linarith
    · constructor <;> linarith
  · have hk : (2 * k + 1) / 2 = k := by omega
    have hb : ((2 * k + 1) % 2 != 0) = true := by simp
    cases r <;> cases s <;>
      simp only [Represents, Describes, ExtendedMantissa.shiftRightOne, ExtendedMantissa.accuracy, hk, hb,
        Bool.or_false, Bool.or_true] at h ⊢ <;>
      push_cast at h
    · linarith
    · constructor <;> linarith
    · constructor <;> linarith
    · constructor <;> linarith

lemma Represents.shiftRight (h : Represents em x) (n : ℕ) : Represents (em >>> n) (x / 2 ^ n) := by
  change Represents (n.repeat ExtendedMantissa.shiftRightOne em) _
  induction n with
  | zero => simpa [Nat.repeat] using h
  | succ n ih =>
    rw [Nat.repeat, pow_succ, ← div_div]
    exact ih.shiftRightOne

lemma Represents.roundedMantissa (h : Represents em x) : IsNearest .toEven x em.roundedMantissa := by
  rcases em with ⟨m, _ | _, _ | _⟩
  · have hx : x = m := h
    rw [hx]
    exact isNearest_self m
  · have hx : (m : ℚ) < x ∧ x < m + 1 / 2 := h
    have hr : ExtendedMantissa.roundedMantissa ⟨m, false, true⟩ = m := rfl
    rw [hr]
    exact .of_abs_lt (abs_lt.mpr ⟨by linarith [hx.1], by linarith [hx.2]⟩)
  · have hx : x = m + 1 / 2 := h
    have hr : ExtendedMantissa.roundedMantissa ⟨m, true, false⟩ = m + m % 2 := rfl
    rw [hr, hx]
    have heven : Even (m + m % 2) := by
      rw [Nat.even_iff]
      omega
    have hcast : ((m % 2 : ℕ) : ℚ) = 0 ∨ ((m % 2 : ℕ) : ℚ) = 1 := by
      rcases Nat.mod_two_eq_zero_or_one m with h₂ | h₂ <;> simp [h₂]
    refine ⟨?_, ?_, fun _ _ => heven, fun _ => ⟨rfl, heven⟩⟩ <;>
      push_cast <;> rcases hcast with h₂ | h₂ <;> rw [h₂] <;> linarith
  · have hx : (m : ℚ) + 1 / 2 < x ∧ x < m + 1 := h
    have hr : ExtendedMantissa.roundedMantissa ⟨m, true, true⟩ = m + 1 := rfl
    rw [hr]
    refine .of_abs_lt (abs_lt.mpr ⟨?_, ?_⟩) <;> push_cast <;> linarith [hx.1, hx.2]

lemma zpow_log2_le (hm : 0 < m) (e : ℤ) : (2 : ℚ) ^ (m.log2 + e) ≤ m * 2 ^ e := by
  rw [add_comm, zpow_add_nat, mul_comm]
  refine mul_le_mul_of_nonneg_right ?_ (two_zpow_pos e).le
  exact_mod_cast Nat.log2_self_le hm.ne'

lemma succ_mul_le_zpow (m : ℕ) (e : ℤ) : ((m : ℚ) + 1) * 2 ^ e ≤ 2 ^ (m.log2 + 1 + e) := by
  rw [show (m.log2 : ℤ) + 1 + e = e + (m.log2 + 1 : ℕ) by push_cast; ring, zpow_add_nat, mul_comm]
  refine mul_le_mul_of_nonneg_left ?_ (two_zpow_pos e).le
  exact_mod_cast Nat.lt_log2_self (n := m)

lemma targetExponent_eq (t : ℤ) : Format.binary64.targetExponent t = max (t - 53) (-1074) := rfl

lemma targetExponent_eq_unit {e : ℤ} (hq : 0 < q) (h : Describes m acc (q / 2 ^ e)) (he : e ≤ unit q) :
    Format.binary64.targetExponent (totalExponent m e) = unit q := by
  have hpos := two_zpow_pos e
  obtain ⟨hlow, hup⟩ := h.bounds
  rw [le_div_iff₀ hpos] at hlow
  rw [div_lt_iff₀ hpos] at hup
  rw [targetExponent_eq, totalExponent]
  rcases m.eq_zero_or_pos with rfl | hm
  · have hlog : Int.log 2 q < e := (lt_zpow_iff hq).mp (by simpa using hup)
    rw [unit] at *
    simp only [Nat.log2_zero]
    omega
  · have hlog : Int.log 2 q = m.log2 + e := by
      have h₁ := (zpow_le_iff hq).mp ((zpow_log2_le hm e).trans hlow)
      have h₂ := (lt_zpow_iff hq).mp (hup.trans_le (succ_mul_le_zpow m e))
      omega
    rw [unit, hlog]
    congr 1
    omega

lemma shift_rounded {n : ℕ} {e : ℤ} (hn : n ≤ 2 ^ 53) (he : -1074 ≤ e) (hfull : -1074 < e → 2 ^ 52 ≤ n) :
    ∃ n' e', shiftToTargetExponent .binary64 n e .exact = (⟨n', false, false⟩, e') ∧ Canonical n' e' ∧
      (n' : ℚ) * 2 ^ e' = n * 2 ^ e := by
  rcases hn.lt_or_eq with h | rfl
  · have hlog : n.log2 ≤ 52 := by
      rcases n.eq_zero_or_pos with rfl | hpos
      · simp
      · have := (Nat.log2_lt hpos.ne').mpr h
        omega
    have hshift : (Format.binary64.targetExponent (totalExponent n e) - e).toNat = 0 := by
      rw [targetExponent_eq, totalExponent]
      omega
    refine ⟨n, e, ?_, ⟨h, he, hfull⟩, rfl⟩
    rw [shiftToTargetExponent, shiftToExponent, hshift]
    simp only [Int.natCast_zero, add_zero]
    rfl
  · have hlog : (2 ^ 53).log2 = 53 := by decide
    have hshift : (Format.binary64.targetExponent (totalExponent (2 ^ 53) e) - e).toNat = 1 := by
      rw [targetExponent_eq, totalExponent, hlog]
      omega
    refine ⟨2 ^ 52, e + 1, ?_, ⟨by norm_num, by omega, fun _ => le_rfl⟩, ?_⟩
    · rw [shiftToTargetExponent, shiftToExponent, hshift]
      rfl
    · rw [zpow_add₀ (by norm_num)]
      push_cast
      ring

lemma full_of_isNearest {tie : Tie} {n : ℕ} (hq : 0 < q) (h : -1074 < unit q)
    (hn : IsNearest tie (q / 2 ^ unit q) n) : 2 ^ 52 ≤ n := by
  have hlow : (2 : ℚ) ^ 52 ≤ q / 2 ^ unit q := by
    rw [le_div_iff₀ (two_zpow_pos _), mul_comm, ← zpow_add_nat]
    exact zpow_unit_le hq h
  have hup := hn.upper
  by_contra hsmall
  have hcast : (n : ℚ) + 1 ≤ 2 ^ 52 := by exact_mod_cast not_le.mp hsmall
  linarith

theorem roundWithAccuracy_eq {e : ℤ} (s : Sign) (hq : 0 < q) (h : Describes m acc (q / 2 ^ e)) (he : e ≤ unit q) :
    (rounded q = 0 ∧ roundWithAccuracy .binary64 s m e acc = .zero s) ∨
      ∃ n e' hn, roundWithAccuracy .binary64 s m e acc = .finite s n e' hn ∧ Canonical n e' ∧
        (n : ℚ) * 2 ^ e' = rounded q := by
  obtain ⟨k, hk⟩ := Int.eq_ofNat_of_zero_le (sub_nonneg.mpr he)
  have hfirst : shiftToTargetExponent .binary64 m e acc =
      (ExtendedMantissa.ofMantissaAndAccuracy m acc >>> k, unit q) := by
    rw [shiftToTargetExponent, targetExponent_eq_unit hq h he, shiftToExponent, hk]
    simp only [Int.toNat_natCast, Prod.mk.injEq, true_and]
    omega
  have hsecond : q / 2 ^ e / 2 ^ k = q / 2 ^ unit q := by
    rw [div_div, ← zpow_add_nat]
    congr 2
    omega
  obtain ⟨n, hn, hnear, hr⟩ := exists_rounded_eq hq.le
  have hround : (ExtendedMantissa.ofMantissaAndAccuracy m acc >>> k).roundedMantissa = n := by
    have hrep := (h.represents.shiftRight k).roundedMantissa
    rw [hsecond] at hrep
    exact hrep.unique hnear
  obtain ⟨n', e', hs, hc, hv⟩ :=
    shift_rounded hn (neg_1074_le_unit q) fun hlt => full_of_isNearest hq hlt hnear
  rw [← hr] at hv
  rw [roundWithAccuracy, hfirst]
  simp only [hround, hs]
  split
  · rename_i hz
    refine .inl ⟨?_, rfl⟩
    rw [← hv, hz]
    simp
  · rename_i hz
    exact .inr ⟨n', e', Nat.pos_of_ne_zero hz, rfl, hc, hv⟩

lemma rounds_roundWithAccuracy {e : ℤ} (s : Bool) (hq : 0 < q) (h : Describes m acc (q / 2 ^ e))
    (he : e ≤ unit q) : Rounds (.ofModel (.pack (roundWithAccuracy .binary64 (signOf s) m e acc))) s q := by
  rcases roundWithAccuracy_eq (signOf s) hq h he with ⟨hz, hw⟩ | ⟨n, e', hn, hw, hc, hv⟩
  · rw [Rounds, hw, hz, if_pos top_pos]
    exact denotes_pack_zero s
  rw [Rounds, hw, ← hv]
  by_cases hmax : e' ≤ 971
  · have hd := denotes_pack_finite s hn hc hmax
    rw [if_pos hd.lt_top]
    exact hd
  · have hbig : top ≤ n * 2 ^ e' := by
      have hn' : (2 : ℚ) ^ 52 ≤ n := by exact_mod_cast hc.full (by omega)
      have he' : (2 : ℚ) ^ (972 : ℤ) ≤ 2 ^ e' := zpow_le_zpow_right₀ (by norm_num) (by omega)
      rw [← pow_mul_zpow_eq_top (by norm_num : (972 : ℤ) + (52 : ℕ) = 1024)]
      exact mul_le_mul hn' he' (two_zpow_pos _).le (by positivity)
    rw [if_neg (not_lt.mpr hbig), exact_pack, unpack_pack_overflow _ hn (by omega), ofUnpacked, isNegative_signOf]

lemma log_mul_zpow (hm : 0 < m) (e : ℤ) : Int.log 2 ((m : ℚ) * 2 ^ e) = m.log2 + e := by
  have hpos : (0 : ℚ) < m * 2 ^ e := mul_pos (by exact_mod_cast hm) (two_zpow_pos e)
  have hlow := (zpow_le_iff hpos).mp (zpow_log2_le hm e)
  have hlt : (m : ℚ) * 2 ^ e < 2 ^ (m.log2 + 1 + e) :=
    lt_of_lt_of_le (mul_lt_mul_of_pos_right (by linarith) (two_zpow_pos e)) (succ_mul_le_zpow m e)
  have hup := (lt_zpow_iff hpos).mp hlt
  omega

lemma shiftLeft_mul_zpow (m : ℕ) {e t : ℤ} (h : t ≤ e) : ((m <<< (e - t).toNat : ℕ) : ℚ) * 2 ^ t = m * 2 ^ e := by
  obtain ⟨k, hk⟩ := Int.eq_ofNat_of_zero_le (sub_nonneg.mpr h)
  rw [hk, Int.toNat_natCast, Nat.shiftLeft_eq, show e = t + k by omega, zpow_add_nat]
  push_cast
  ring

lemma rounds_round (s : Bool) (hm : 0 < m) (e : ℤ) :
    Rounds (.ofModel (.pack (UnpackedFloat.round .binary64 (signOf s) m e))) s (m * 2 ^ e) := by
  have hpos : (0 : ℚ) < m * 2 ^ e := mul_pos (by exact_mod_cast hm) (two_zpow_pos e)
  have hunit : unit ((m : ℚ) * 2 ^ e) = max (m.log2 + e - 52) (-1074) := by rw [unit, log_mul_zpow hm]
  rw [UnpackedFloat.round, decreaseExponent, targetExponent_eq, totalExponent]
  dsimp only
  generalize ht : max ((m.log2 : ℤ) + 1 + e - 53) (-1074) = t
  refine rounds_roundWithAccuracy s hpos ?_ (by omega)
  rcases le_or_gt t e with h | h
  · rw [Int.toNat_of_nonneg (by omega), sub_sub_cancel, Describes, div_eq_iff (two_zpow_pos t).ne',
      shiftLeft_mul_zpow m h]
  · rw [Int.toNat_of_nonpos (by omega), Nat.shiftLeft_zero, Int.natCast_zero, sub_zero]
    exact mul_div_cancel_right₀ _ (two_zpow_pos e).ne'

lemma signOf_mul (s s' : Bool) : signOf s * signOf s' = signOf (s ^^ s') := by cases s <;> cases s' <;> rfl

lemma signOf_div (s s' : Bool) : signOf s / signOf s' = signOf (s ^^ s') := by cases s <;> cases s' <;> rfl

lemma rounds_zero {y : Float} {s : Bool} (h : Denotes y s 0) : Rounds y s 0 := by
  rw [Rounds, rounded_zero, if_pos top_pos]
  exact h

lemma rounds_mul_finite {m₁ m₂ : ℕ} (e₁ e₂ : ℤ) (s₁ s₂ : Bool) (h₁ : 0 < m₁) (h₂ : 0 < m₂)
    (h : 2 ^ 52 ≤ m₁ * m₂ ∨ e₁ + e₂ ≤ -1074) :
    Rounds (.ofModel (.pack
        (UnpackedFloat.mul .binary64 (.finite (signOf s₁) m₁ e₁ h₁) (.finite (signOf s₂) m₂ e₂ h₂))))
      (s₁ ^^ s₂) (m₁ * 2 ^ e₁ * (m₂ * 2 ^ e₂)) := by
  have hq : (m₁ : ℚ) * 2 ^ e₁ * (m₂ * 2 ^ e₂) = (m₁ * m₂ : ℕ) * 2 ^ (e₁ + e₂) := by
    rw [zpow_add₀ (by norm_num)]
    push_cast
    ring
  have hpos : (0 : ℚ) < (m₁ * m₂ : ℕ) * 2 ^ (e₁ + e₂) :=
    mul_pos (by exact_mod_cast Nat.mul_pos h₁ h₂) (two_zpow_pos _)
  rw [UnpackedFloat.mul, signOf_mul, hq]
  refine rounds_roundWithAccuracy _ hpos ?_ ?_
  · exact mul_div_cancel_right₀ _ (two_zpow_pos _).ne'
  · rcases h with h | h
    · have hle : (2 : ℚ) ^ (e₁ + e₂ + (52 : ℕ)) ≤ (m₁ * m₂ : ℕ) * 2 ^ (e₁ + e₂) := by
        rw [zpow_add_nat, mul_comm]
        exact mul_le_mul_of_nonneg_right (by exact_mod_cast h) (two_zpow_pos _).le
      have := le_unit_of_le hpos hle
      omega
    · exact h.trans (neg_1074_le_unit _)

theorem Denotes.mul {x y : Float} {s s' : Bool} {a b : ℚ} (hx : Denotes x s a) (hy : Denotes y s' b) :
    Rounds (x * y) (s ^^ s') (a * b) := by
  have hxy : x * y = .ofModel (.pack (UnpackedFloat.mul .binary64 x.toModel.unpack y.toModel.unpack)) := rfl
  rw [hxy]
  rcases hx.unpack with ⟨rfl, hu⟩ | ⟨m, e, hm, hu, hc, -, rfl⟩ <;>
    rcases hy.unpack with ⟨rfl, hu'⟩ | ⟨m', e', hm', hu', hc', -, rfl⟩ <;> rw [hu, hu']
  · rw [UnpackedFloat.mul, signOf_mul, zero_mul]
    exact rounds_zero (denotes_pack_zero _)
  · rw [UnpackedFloat.mul, signOf_mul, zero_mul]
    exact rounds_zero (denotes_pack_zero _)
  · rw [UnpackedFloat.mul, signOf_mul, mul_zero]
    exact rounds_zero (denotes_pack_zero _)
  · refine rounds_mul_finite e e' s s' hm hm' ?_
    by_cases he : -1074 < e
    · exact .inl ((hc.full he).trans (Nat.le_mul_of_pos_right m hm'))
    by_cases he' : -1074 < e'
    · exact .inl ((hc'.full he').trans (Nat.le_mul_of_pos_left m' hm))
    · exact .inr (by omega)

lemma describes_fraction (n : ℕ) {d : ℕ} (hd : 0 < d) :
    Describes (n / d) (accuracyOfFraction (n % d) d) ((n : ℚ) / d) := by
  have hr := mod_div_lt_one n hd
  rw [div_eq_add_mod n hd, accuracyOfFraction]
  split
  · rename_i hz
    rw [hz]
    simp [Describes]
  · rename_i hz
    have hz' : (0 : ℚ) < (n % d : ℕ) / d := by
      have : (0 : ℚ) < (n % d : ℕ) := by exact_mod_cast Nat.pos_of_ne_zero hz
      positivity
    rcases lt_trichotomy (2 * (n % d)) d with h | h | h
    · have hh := div_lt_half h
      rw [Nat.compare_eq_lt.mpr h]
      exact ⟨by linarith, by linarith⟩
    · rw [Nat.compare_eq_eq.mpr h, div_eq_half hd h]
      rfl
    · have hh := half_lt_div hd h
      rw [Nat.compare_eq_gt.mpr h]
      exact ⟨by linarith, by linarith⟩

lemma zpow_log2_le_div {m₁ m₂ : ℕ} (e₁ e₂ : ℤ) (h₁ : 0 < m₁) (h₂ : 0 < m₂) :
    (2 : ℚ) ^ (m₁.log2 + e₁ - (m₂.log2 + 1 + e₂)) ≤ m₁ * 2 ^ e₁ / (m₂ * 2 ^ e₂) := by
  have hp₁ : (0 : ℚ) < m₁ * 2 ^ e₁ := mul_pos (by exact_mod_cast h₁) (two_zpow_pos _)
  have hp₂ : (0 : ℚ) < m₂ * 2 ^ e₂ := mul_pos (by exact_mod_cast h₂) (two_zpow_pos _)
  have hle : (m₂ : ℚ) * 2 ^ e₂ ≤ 2 ^ (m₂.log2 + 1 + e₂) :=
    le_trans (mul_le_mul_of_nonneg_right (by linarith) (two_zpow_pos _).le) (succ_mul_le_zpow m₂ e₂)
  rw [le_div_iff₀ hp₂, zpow_sub₀ (by norm_num), div_mul_eq_mul_div, div_le_iff₀ (two_zpow_pos _)]
  exact mul_le_mul (zpow_log2_le h₁ e₁) hle hp₂.le hp₁.le

lemma quotient_eq (m₁ m₂ : ℕ) {e₁ e₂ t : ℤ} {k : ℕ} (hk : e₁ - e₂ - t = k) :
    (m₁ : ℚ) * 2 ^ e₁ / (m₂ * 2 ^ e₂) / 2 ^ t = (m₁ * 2 ^ k : ℕ) / m₂ := by
  have he : (2 : ℚ) ^ e₁ = 2 ^ e₂ * 2 ^ t * 2 ^ k := by
    rw [← zpow_add₀ (by norm_num), ← zpow_add_nat]
    congr 1
    omega
  have hne₂ := (two_zpow_pos e₂).ne'
  have hne := (two_zpow_pos t).ne'
  rw [he]
  push_cast
  field_simp

lemma rounds_div_finite {m₁ m₂ : ℕ} (e₁ e₂ : ℤ) (s₁ s₂ : Bool) (h₁ : 0 < m₁) (h₂ : 0 < m₂) :
    Rounds (.ofModel (.pack
        (UnpackedFloat.div .binary64 (.finite (signOf s₁) m₁ e₁ h₁) (.finite (signOf s₂) m₂ e₂ h₂))))
      (s₁ ^^ s₂) (m₁ * 2 ^ e₁ / (m₂ * 2 ^ e₂)) := by
  have hlow := zpow_log2_le_div e₁ e₂ h₁ h₂
  have hpos := (two_zpow_pos _).trans_le hlow
  rw [UnpackedFloat.div, signOf_div, divCore]
  dsimp only
  generalize ht : min (e₁ - e₂) (Format.binary64.targetExponent (totalExponent m₁ e₁ - totalExponent m₂ e₂)) = t
  have hte : t ≤ e₁ - e₂ := ht ▸ min_le_left _ _
  obtain ⟨k, hk⟩ := Int.eq_ofNat_of_zero_le (sub_nonneg.mpr hte)
  rw [hk, Int.toNat_natCast, Nat.shiftLeft_eq]
  refine rounds_roundWithAccuracy _ hpos ?_ ?_
  · rw [quotient_eq m₁ m₂ hk]
    exact describes_fraction _ h₂
  · have hte' : t ≤ Format.binary64.targetExponent (totalExponent m₁ e₁ - totalExponent m₂ e₂) := ht ▸ min_le_right _ _
    rw [targetExponent_eq, totalExponent, totalExponent] at hte'
    have := le_unit_of_le hpos hlow
    have := neg_1074_le_unit ((m₁ : ℚ) * 2 ^ e₁ / (m₂ * 2 ^ e₂))
    omega

theorem Denotes.div {x y : Float} {s s' : Bool} {a b : ℚ} (hx : Denotes x s a) (hy : Denotes y s' b) (hb : b ≠ 0) :
    Rounds (x / y) (s ^^ s') (a / b) := by
  have hxy : x / y = .ofModel (.pack (UnpackedFloat.div .binary64 x.toModel.unpack y.toModel.unpack)) := rfl
  rw [hxy]
  rcases hy.unpack with ⟨rfl, -⟩ | ⟨m', e', hm', hu', -, -, rfl⟩
  · exact absurd rfl hb
  rcases hx.unpack with ⟨rfl, hu⟩ | ⟨m, e, hm, hu, -, -, rfl⟩ <;> rw [hu, hu']
  · rw [UnpackedFloat.div, signOf_div, zero_div]
    exact rounds_zero (denotes_pack_zero _)
  · exact rounds_div_finite e e' s s' hm hm'

end Toolpath.Number
