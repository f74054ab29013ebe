import Toolpath.Number.Shortest
import Toolpath.Proofs.Number.Length
import Toolpath.Proofs.Number.Reprint

/-!
The shortest digits of a double are read back as that double: they lie among the numbers that round to it, and one
of the grids that are searched is fine enough to have such a number.
-/

namespace Toolpath.Number

open Float.Model Float.Model.UnpackedFloat

variable {x y : Float} {s : Bool} {q v : ℚ} {m n : ℕ} {e k : ℤ} {tie : Tie}

lemma isNegative_inj {s t : Sign} (h : isNegative s = isNegative t) : s = t := by
  cases s <;> cases t <;> first | rfl | cases h

lemma ofUnpacked_inj {f g : UnpackedFloat} (h : ofUnpacked f = ofUnpacked g) : f = g := by
  cases f <;> cases g <;>
    simp only [ofUnpacked, Exact.infinite.injEq, Exact.finite.injEq, Dyadic.mk.injEq, reduceCtorEq] at h
  case notANumber.notANumber => rfl
  case infinity.infinity => rw [isNegative_inj h]
  case zero.zero => rw [isNegative_inj h.1]
  case zero.finite hm => exact absurd h.2.1 hm.ne
  case finite.zero hm _ => exact absurd h.2.1 hm.ne'
  case finite.finite =>
    obtain ⟨hs, rfl, rfl⟩ := h
    rw [isNegative_inj hs]

theorem exact_inj (h : exact x = exact y) : x = y := by
  rw [exact_eq, exact_eq] at h
  obtain ⟨⟨b, hb⟩⟩ := x
  obtain ⟨⟨b', hb'⟩⟩ := y
  obtain rfl : b = b' := UInt64.toBitVec_inj.mp ((UnpackedFloat.unpack_inj_of_valid hb hb').mp (ofUnpacked_inj h))
  rfl

lemma Denotes.eq (hx : Denotes x s q) (hy : Denotes y s q) : x = y := by
  obtain ⟨m, e, hx, rfl⟩ := hx
  obtain ⟨m', e', hy, he⟩ := hy
  obtain ⟨rfl, rfl⟩ := (canonical_of_exactBits hy).1.unique (canonical_of_exactBits hx).1 he
  exact exact_inj (hx.trans hy.symm)

def Interval.Contains (i : Interval) (q : ℚ) : Prop :=
  if i.closed then i.lower * 2 ^ i.exponent ≤ q ∧ q ≤ i.upper * 2 ^ i.exponent
  else i.lower * 2 ^ i.exponent < q ∧ q < i.upper * 2 ^ i.exponent

lemma Interval.contains_of_lt {i : Interval} (hlow : i.lower * 2 ^ i.exponent < q) (hup : q < i.upper * 2 ^ i.exponent) :
    i.Contains q := by
  rw [Contains]
  split
  · exact ⟨hlow.le, hup.le⟩
  · exact ⟨hlow, hup⟩

lemma rounded_of_isNearest (hq : 0 ≤ q) (he : unit q = e) (h : IsNearest .toEven (q / 2 ^ e) n) : rounded q = n * 2 ^ e := by
  rw [rounded, he, h.nearestTo_eq (div_nonneg hq (two_zpow_pos e).le)]

lemma isNearest_of_even (hlow : (n : ℚ) - 1 / 2 ≤ q) (hup : q ≤ n + 1 / 2) (hn : Even n) : IsNearest .toEven q n :=
  ⟨hlow, hup, fun _ _ => hn, fun _ => ⟨rfl, hn⟩⟩

lemma isNearest_of_strict (hlow : (n : ℚ) - 1 / 2 < q) (hup : q < n + 1 / 2) : IsNearest .toEven q n :=
  .of_abs_lt (abs_lt.mpr ⟨by linarith, by linarith⟩)

lemma unit_eq_of_near (hc : Canonical m e) (hm : 0 < m) (hlow : (m - 1 / 2) * 2 ^ e ≤ q) (hup : q ≤ (m + 1 / 2) * 2 ^ e)
    (hfull : -1074 < e → (2 : ℚ) ^ (e + 52) ≤ q) : unit q = e := by
  have hw := two_zpow_pos e
  have hone : (1 : ℚ) ≤ m := by exact_mod_cast hm
  have hlt : (m : ℚ) + 1 ≤ 2 ^ 53 := by exact_mod_cast hc.lt
  have hq : q < 2 ^ (e + 53) := by
    rw [zpow_add₀ two_ne_zero, zpow_ofNat]
    nlinarith
  rcases hc.le.lt_or_eq with he | rfl
  · exact unit_eq (hfull he) hq hc.le
  · have hpos : 0 < q := lt_of_lt_of_le (mul_pos (by linarith) hw) hlow
    have := unit_le_of_lt hpos hq
    have := neg_1074_le_unit q
    omega

lemma zpow_sub_two (e : ℤ) : (2 : ℚ) ^ (e - 2) = 2 ^ e / 4 := by
  rw [zpow_sub₀ two_ne_zero]
  norm_num

lemma rounded_near_least (he : -1074 < e) (hlow : ((2 : ℚ) ^ 52 - 1 / 4) * 2 ^ e ≤ q) (hup : q ≤ (2 ^ 52 + 1 / 2) * 2 ^ e) :
    rounded q = 2 ^ 52 * 2 ^ e := by
  have hw := two_zpow_pos e
  have hq : 0 ≤ q := (mul_nonneg (by norm_num) hw.le).trans hlow
  rcases lt_or_ge q (2 ^ 52 * 2 ^ e) with hlt | hge
  · have hhalf : (2 : ℚ) ^ (e - 1) = 2 ^ e / 2 := zpow_sub_one₀ two_ne_zero e
    have hunit : unit q = e - 1 := by
      refine unit_eq ?_ ?_ (by omega)
      · rw [show e - 1 + 52 = e + 51 by ring, zpow_add₀ two_ne_zero, zpow_ofNat]
        nlinarith
      · rw [show e - 1 + 53 = e + 52 by ring, zpow_add₀ two_ne_zero, zpow_ofNat, mul_comm]
        exact hlt
    have hnear : IsNearest .toEven (q / 2 ^ (e - 1)) (2 ^ 53) := by
      refine isNearest_of_even ?_ ?_ (by decide)
      · rw [hhalf, le_div_iff₀ (by positivity)]
        push_cast
        linarith
      · rw [hhalf, div_le_iff₀ (by positivity)]
        push_cast
        linarith
    rw [rounded_of_isNearest hq hunit hnear, hhalf]
    push_cast
    ring
  · have hunit : unit q = e := by
      refine unit_eq ?_ ?_ he.le
      · rwa [zpow_add₀ two_ne_zero, zpow_ofNat, mul_comm]
      · rw [zpow_add₀ two_ne_zero, zpow_ofNat]
        nlinarith
    have hnear : IsNearest .toEven (q / 2 ^ e) (2 ^ 52) := by
      refine isNearest_of_even ?_ ?_ (by decide)
      · rw [le_div_iff₀ hw]
        push_cast
        linarith
      · rw [div_le_iff₀ hw]
        push_cast
        exact hup
    rw [rounded_of_isNearest hq hunit hnear]
    push_cast
    rfl

lemma Interval.contains_quarters {b : ℕ} (hb : b ≤ 4 * m) (closed : Bool) :
    (⟨4 * m - b, 4 * m, 4 * m + 2, e - 2, closed⟩ : Interval).Contains q ↔
      if closed then (m - b / 4) * 2 ^ e ≤ q ∧ q ≤ (m + 1 / 2) * 2 ^ e
      else (m - b / 4) * 2 ^ e < q ∧ q < (m + 1 / 2) * 2 ^ e := by
  have hlow : ((4 * m - b : ℕ) : ℚ) * 2 ^ (e - 2) = (m - b / 4) * 2 ^ e := by
    rw [Nat.cast_sub hb, zpow_sub_two]
    push_cast
    ring
  have hup : ((4 * m + 2 : ℕ) : ℚ) * 2 ^ (e - 2) = (m + 1 / 2) * 2 ^ e := by
    rw [zpow_sub_two]
    push_cast
    ring
  rw [Contains, hlow, hup]

lemma rounded_of_half_bit (hc : Canonical m e) (hm : 0 < m) (hleast : m = 2 ^ 52 → e = -1074)
    (h : if (m % 2 = 0 : Bool) then (m - 1 / 2) * 2 ^ e ≤ q ∧ q ≤ (m + 1 / 2) * 2 ^ e
      else (m - 1 / 2) * 2 ^ e < q ∧ q < (m + 1 / 2) * 2 ^ e) : rounded q = m * 2 ^ e := by
  have hw := two_zpow_pos e
  have hone : (1 : ℚ) ≤ m := by exact_mod_cast hm
  have hb : (m - 1 / 2) * 2 ^ e ≤ q ∧ q ≤ (m + 1 / 2) * 2 ^ e := by
    split at h
    · exact h
    · exact ⟨h.1.le, h.2.le⟩
  have hfull : -1074 < e → (2 : ℚ) ^ (e + 52) ≤ q := by
    intro he
    have hgt : 2 ^ 52 + 1 ≤ m := by
      have := hc.full he
      omega
    have hgt' : (2 : ℚ) ^ 52 + 1 ≤ m := by exact_mod_cast hgt
    rw [zpow_add₀ two_ne_zero, zpow_ofNat]
    nlinarith
  refine rounded_of_isNearest (by nlinarith) (unit_eq_of_near hc hm hb.1 hb.2 hfull) ?_
  split at h
  · rename_i heven
    refine isNearest_of_even ?_ ?_ (Nat.even_iff.mpr (by simpa using heven))
    · rw [le_div_iff₀ hw]
      exact h.1
    · rw [div_le_iff₀ hw]
      exact h.2
  · refine isNearest_of_strict ?_ ?_
    · rw [lt_div_iff₀ hw]
      exact h.1
    · rw [div_lt_iff₀ hw]
      exact h.2

lemma rounded_of_contains {d : Dyadic} (hc : Canonical d.mantissa d.exponent) (hm : 0 < d.mantissa)
    (h : (Interval.of d).Contains q) : rounded q = d.mantissa * 2 ^ d.exponent := by
  obtain ⟨s, m, e⟩ := d
  dsimp only at *
  by_cases hleast : m = 2 ^ 52 ∧ e ≠ -1074
  · have hi : Interval.of ⟨s, m, e⟩ = ⟨4 * m - 1, 4 * m, 4 * m + 2, e - 2, m % 2 = 0⟩ := by
      rw [Interval.of]
      exact congrArg (fun b => (⟨4 * m - b, _, _, _, _⟩ : Interval)) (if_pos hleast)
    obtain ⟨rfl, he⟩ := hleast
    rw [hi, Interval.contains_quarters (by norm_num), if_pos (by decide)] at h
    push_cast at h ⊢
    exact rounded_near_least (lt_of_le_of_ne hc.le he.symm) h.1 h.2
  · have hi : Interval.of ⟨s, m, e⟩ = ⟨4 * m - 2, 4 * m, 4 * m + 2, e - 2, m % 2 = 0⟩ := by
      rw [Interval.of]
      exact congrArg (fun b => (⟨4 * m - b, _, _, _, _⟩ : Interval)) (if_neg hleast)
    have htwo : ((2 : ℕ) : ℚ) / 4 = 1 / 2 := by norm_num
    rw [hi, Interval.contains_quarters (by omega), htwo] at h
    exact rounded_of_half_bit hc hm (fun hm => not_not.mp fun he => hleast ⟨hm, he⟩) h

def Digits.value (d : Digits) : ℚ := d.digits * 10 ^ d.exponent

def gridScale (e k : ℤ) : ℕ × ℕ :=
  let (up, den) : ℕ × ℕ := match e with
    | .ofNat e => (Nat.pow 2 e, 1)
    | .negSucc e => (1, Nat.pow 2 (e + 1))
  match k with
    | .ofNat n => (up, den * Nat.pow 10 n)
    | .negSucc n => (up * Nat.pow 10 (n + 1), den)

lemma gridScale_mul (e k : ℤ) : ((gridScale e k).1 : ℚ) * 10 ^ k = (gridScale e k).2 * 2 ^ e := by
  cases e <;> cases k <;>
    simp only [gridScale, Int.ofNat_eq_natCast, zpow_natCast, zpow_negSucc, Nat.pow_eq] <;> push_cast <;> field_simp

lemma gridScale_pos (e k : ℤ) : 0 < (gridScale e k).2 := by
  cases e <;> cases k <;> simp [gridScale]

lemma exists_gridScale (e k : ℤ) : ∃ c : ℚ, 0 < c ∧ (gridScale e k).1 = 2 ^ e * c ∧ (gridScale e k).2 = 10 ^ k * c := by
  have hden : (0 : ℚ) < (gridScale e k).2 := by exact_mod_cast gridScale_pos e k
  have hten : (0 : ℚ) < 10 ^ k := by positivity
  refine ⟨(gridScale e k).2 / 10 ^ k, by positivity, ?_, ?_⟩
  · rw [mul_div_assoc', mul_comm, ← gridScale_mul, mul_div_assoc, div_self hten.ne', mul_one]
  · rw [mul_div_cancel₀ _ hten.ne']

lemma mul_gridScale_le_iff (a b : ℕ) (e k : ℤ) :
    (a * (gridScale e k).1 ≤ b * (gridScale e k).2 ↔ (a : ℚ) * 2 ^ e ≤ b * 10 ^ k) ∧
      (b * (gridScale e k).2 ≤ a * (gridScale e k).1 ↔ (b : ℚ) * 10 ^ k ≤ a * 2 ^ e) := by
  obtain ⟨c, hc, hup, hden⟩ := exists_gridScale e k
  rw [← Nat.cast_le (α := ℚ), ← Nat.cast_le (α := ℚ), Nat.cast_mul, Nat.cast_mul, hup, hden, ← mul_assoc, ← mul_assoc]
  exact ⟨mul_le_mul_iff_left₀ hc, mul_le_mul_iff_left₀ hc⟩

namespace Interval

variable {i : Interval}

def inside (i : Interval) (k : ℤ) (q : ℕ) : Bool :=
  let s := gridScale i.exponent k
  if i.closed then i.lower * s.1 ≤ q * s.2 && q * s.2 ≤ i.upper * s.1
  else i.lower * s.1 < q * s.2 && q * s.2 < i.upper * s.1

def below (i : Interval) (k : ℤ) : ℕ := i.middle * (gridScale i.exponent k).1 / (gridScale i.exponent k).2

lemma onGrid?_eq (tie : Tie) (i : Interval) (k : ℤ) : i.onGrid? tie k =
    match i.inside k (i.below k), i.inside k (i.below k + 1) with
    | false, false => none
    | true, false => some (i.below k)
    | false, true => some (i.below k + 1)
    | true, true =>
      some (roundDiv tie (i.middle * (gridScale i.exponent k).1) (gridScale i.exponent k).2) := by
  obtain ⟨l, m, u, e, c⟩ := i
  cases e <;> cases k <;> rfl

lemma inside_iff : i.inside k n ↔ i.Contains (n * 10 ^ k) := by
  obtain ⟨hlow, hlow'⟩ := mul_gridScale_le_iff i.lower n i.exponent k
  obtain ⟨hup, hup'⟩ := mul_gridScale_le_iff i.upper n i.exponent k
  rw [inside, Contains]
  split
  · rw [Bool.and_eq_true, decide_eq_true_eq, decide_eq_true_eq, hlow, hup']
  · rw [Bool.and_eq_true, decide_eq_true_eq, decide_eq_true_eq, ← not_le, ← not_le, hlow', hup, not_le, not_le]

lemma roundDiv_cases (tie : Tie) (num den : ℕ) : roundDiv tie num den = num / den ∨ roundDiv tie num den = num / den + 1 := by
  unfold roundDiv
  cases tie <;> dsimp only <;> split_ifs <;> simp only [true_or, or_true]

lemma contains_of_onGrid? (h : i.onGrid? tie k = some n) : i.Contains (n * 10 ^ k) ∧ i.below k ≤ n := by
  rw [onGrid?_eq] at h
  split at h
  · cases h
  all_goals
    rename_i hq hq'
    obtain rfl := Option.some.inj h
  · exact ⟨inside_iff.mp hq, le_rfl⟩
  · exact ⟨inside_iff.mp hq', Nat.le_succ _⟩
  · rcases roundDiv_cases tie (i.middle * (gridScale i.exponent k).1) (gridScale i.exponent k).2 with hr | hr <;> rw [hr]
    · exact ⟨inside_iff.mp hq, le_rfl⟩
    · exact ⟨inside_iff.mp hq', Nat.le_succ _⟩

lemma exists_onGrid? (tie : Tie) (hlow : i.lower < i.middle) (hup : i.middle < i.upper) (hk : (10 : ℚ) ^ k ≤ 2 ^ i.exponent) :
    ∃ n, 0 < n ∧ i.onGrid? tie k = some n := by
  have hw := two_zpow_pos i.exponent
  have hden := gridScale_pos i.exponent k
  have hlow' : (i.lower : ℚ) + 1 ≤ i.middle := by exact_mod_cast hlow
  have hup' : (i.middle : ℚ) + 1 ≤ i.upper := by exact_mod_cast hup
  have hle : (i.below k : ℚ) * 10 ^ k ≤ i.middle * 2 ^ i.exponent :=
    (mul_gridScale_le_iff ..).2.mp (Nat.div_mul_le_self ..)
  have hlt : (i.middle : ℚ) * 2 ^ i.exponent < (i.below k + 1 : ℕ) * 10 ^ k := by
    rw [← not_le, ← (mul_gridScale_le_iff ..).2, not_le]
    exact Nat.lt_mul_of_div_lt (Nat.lt_succ_self _) hden
  have hpos : 0 < i.below k := by
    refine Nat.div_pos ?_ hden
    rw [← Nat.one_mul (gridScale i.exponent k).2, (mul_gridScale_le_iff ..).2, Nat.cast_one, one_mul]
    nlinarith [(Nat.cast_nonneg i.lower : (0 : ℚ) ≤ i.lower)]
  have hinside : i.inside k (i.below k) := by
    have hbelow := mul_le_mul_of_nonneg_right hlow' hw.le
    push_cast at hlt
    exact inside_iff.mpr (contains_of_lt (by linarith) (by nlinarith))
  rw [onGrid?_eq, hinside]
  cases i.inside k (i.below k + 1) with
  | false => exact ⟨_, hpos, rfl⟩
  | true =>
    refine ⟨_, ?_, rfl⟩
    rcases roundDiv_cases tie (i.middle * (gridScale i.exponent k).1) (gridScale i.exponent k).2 with hr | hr <;> rw [hr]
    · exact hpos
    · exact Nat.succ_pos _

end Interval

lemma Digits.value_normal (fuel : ℕ) (d : Digits) : (d.normal fuel).value = d.value := by
  induction fuel generalizing d with
  | zero => rfl
  | succ fuel ih =>
    rw [normal]
    split
    · rename_i h
      have hten : ((d.digits / 10 : ℕ) : ℚ) * 10 = d.digits := by
        exact_mod_cast Nat.div_mul_cancel (Nat.dvd_of_mod_eq_zero h.2)
      rw [ih, value, value, zpow_add_one₀ (by norm_num), ← mul_assoc, mul_right_comm, hten]
    · rfl

lemma Digits.value_pos_iff (d : Digits) : 0 < d.value ↔ 0 < d.digits := by
  have hten : (0 : ℚ) < 10 ^ d.exponent := by positivity
  rw [value, mul_pos_iff_of_pos_right hten, Nat.cast_pos]

lemma Interval.searchGrids_spec {i : Interval} {fuel j : ℕ} (hj : j < fuel)
    (h : ∃ n, 0 < n ∧ i.onGrid? tie (k - j) = some n) :
    0 < (searchGrids tie i fuel k).value ∧ i.Contains (searchGrids tie i fuel k).value := by
  induction fuel generalizing j k with
  | zero => exact absurd hj (Nat.not_lt_zero j)
  | succ fuel ih =>
    have hnext (h0 : ¬ ∃ n, 0 < n ∧ i.onGrid? tie k = some n) :
        0 < (searchGrids tie i fuel (k - 1)).value ∧ i.Contains (searchGrids tie i fuel (k - 1)).value := by
      cases j with
      | zero => exact absurd (by simpa using h) h0
      | succ j => exact ih (Nat.lt_of_succ_lt_succ hj) (by rwa [sub_sub, ← Nat.cast_one, ← Nat.cast_add, Nat.add_comm])
    rw [searchGrids]
    split
    · rename_i n hn
      split
      · rename_i hz
        refine hnext ?_
        rintro ⟨n', hn', he⟩
        rw [hn] at he
        cases he
        omega
      · rename_i hz
        rw [Digits.value_normal]
        exact ⟨(Digits.value_pos_iff _).mpr (Nat.pos_of_ne_zero hz), (contains_of_onGrid? hn).1⟩
    · rename_i hn
      refine hnext ?_
      rintro ⟨n, -, he⟩
      rw [hn] at he
      cases he

def Dyadic.top (d : Dyadic) : ℤ :=
  let (num, den) := d.fraction 1
  if den ≤ num then (Text.ofNat (num / den)).length
  else 2 - ((Text.ofNat (den / num)).length : Int)

lemma shortest_eq (tie : Tie) (d : Dyadic) : shortest tie d = searchGrids tie (.of d) 22 d.top := rfl

lemma zpow_top_le {d : Dyadic} (hm : 0 < d.mantissa) : (10 : ℚ) ^ d.top ≤ 100 * (d.mantissa * 2 ^ d.exponent) := by
  obtain ⟨hden, hvalue⟩ := fraction_eq d 1
  have hv : 0 < (d.mantissa : ℚ) * 2 ^ d.exponent := mul_pos (by exact_mod_cast hm) (two_zpow_pos _)
  rw [Nat.cast_one, mul_one] at hvalue
  rw [← hvalue] at hv ⊢
  have hden' : (0 : ℚ) < (d.fraction 1).2 := by exact_mod_cast hden
  have hnum' : (0 : ℚ) < (d.fraction 1).1 := (div_pos_iff_of_pos_right hden').mp hv
  have hnum : 0 < (d.fraction 1).1 := by exact_mod_cast hnum'
  simp only [Dyadic.top]
  generalize (d.fraction 1).1 = a at *
  generalize (d.fraction 1).2 = b at *
  split
  · rename_i hle
    have hlen : (10 : ℚ) ^ (Text.ofNat (a / b)).length ≤ (a / b : ℕ) * 10 := by
      exact_mod_cast pow_length_le (Nat.div_pos hle hden)
    have hfloor : ((a / b : ℕ) : ℚ) ≤ a / b := Nat.cast_div_le
    rw [zpow_natCast]
    linarith
  · rename_i hlt
    have hlen : ((b / a + 1 : ℕ) : ℚ) ≤ 10 ^ (Text.ofNat (b / a)).length := by
      exact_mod_cast (length_ofNat_le_iff (List.length_pos_of_ne_nil Nat.toDigits_ne_nil)).mp le_rfl
    have hceil : (b : ℚ) < (b / a + 1 : ℕ) * a := by exact_mod_cast Nat.lt_mul_of_div_lt (Nat.lt_succ_self _) hnum
    rw [zpow_sub₀ (by norm_num), zpow_natCast, div_le_iff₀ (by positivity), mul_assoc]
    norm_num
    rw [div_mul_eq_mul_div, le_div_iff₀ hden', one_mul, mul_comm (a : ℚ)]
    exact hceil.le.trans (mul_le_mul_of_nonneg_right hlen hnum'.le)

lemma shortest_spec {d : Dyadic} (hc : Canonical d.mantissa d.exponent) (hm : 0 < d.mantissa) (tie : Tie) :
    0 < (shortest tie d).digits ∧ rounded (shortest tie d).value = d.mantissa * 2 ^ d.exponent := by
  have hfine : (10 : ℚ) ^ (d.top - (21 : ℕ)) ≤ 2 ^ (Interval.of d).exponent := by
    have hw := two_zpow_pos d.exponent
    have hlt : (d.mantissa : ℚ) < 2 ^ 53 := by exact_mod_cast hc.lt
    have htop := zpow_top_le hm
    have he : (Interval.of d).exponent = d.exponent - 2 := rfl
    rw [he, zpow_sub_two, zpow_sub₀ (by norm_num), zpow_natCast, div_le_iff₀ (by positivity)]
    nlinarith
  have hlow : (Interval.of d).lower < (Interval.of d).middle := by
    rw [Interval.of]
    dsimp only
    split_ifs <;> omega
  have hup : (Interval.of d).middle < (Interval.of d).upper := Nat.lt_add_of_pos_right (by norm_num)
  obtain ⟨hpos, hcontains⟩ := Interval.searchGrids_spec (by norm_num : 21 < 22) (Interval.exists_onGrid? tie hlow hup hfine)
  rw [shortest_eq, ← Digits.value_pos_iff]
  exact ⟨hpos, rounded_of_contains hc hm hcontains⟩

end Toolpath.Number
