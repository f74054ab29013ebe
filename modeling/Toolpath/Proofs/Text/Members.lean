import Mathlib.Tactic.Common
import Toolpath.Text.Category
import Toolpath.Text.Digit

/-!
Members of sets of characters. Halving finds a code point in ranges that ascend; the table of decimal digits has the
ten digits after each zero.
-/

namespace Toolpath.Text

namespace Ranges

variable {s : Ranges} {c : Char}

def Ascending (s : Ranges) : Prop := (∀ r ∈ s.toList, r.1 ≤ r.2) ∧ s.toList.Pairwise (·.2 < ·.1)

instance (s : Ranges) : Decidable s.Ascending := inferInstanceAs (Decidable (_ ∧ _))

lemma Ascending.mono (h : s.Ascending) {i j : ℕ} (hij : i ≤ j) {r q : ℕ × ℕ} (hr : s.toArray[i]? = some r)
    (hq : s.toArray[j]? = some q) : r.1 ≤ q.1 ∧ r.2 ≤ q.2 := by
  obtain ⟨hi, rfl⟩ := Array.getElem?_eq_some_iff.mp hr
  obtain ⟨hj, rfl⟩ := Array.getElem?_eq_some_iff.mp hq
  rcases Nat.eq_or_lt_of_le hij with rfl | hlt
  · exact ⟨Nat.le_refl _, Nat.le_refl _⟩
  · have hapart : s.toArray[i].2 < s.toArray[j].1 := List.pairwise_iff_getElem.mp h.2 i j hi hj hlt
    have hir := h.1 _ (Array.mem_def.mp (Array.getElem_mem hi))
    have hjr := h.1 _ (Array.mem_def.mp (Array.getElem_mem hj))
    omega

-- What lies below the range in the middle can only be in one before it, and what lies above in one after it.
lemma search_iff (h : s.Ascending) (n : ℕ) {fuel lo hi : ℕ} (hfuel : hi - lo < fuel) (hsize : hi ≤ s.toArray.size) :
    search s.toArray n fuel lo hi ↔ ∃ i, lo ≤ i ∧ i < hi ∧ ∃ r, s.toArray[i]? = some r ∧ r.1 ≤ n ∧ n ≤ r.2 := by
  induction fuel generalizing lo hi with
  | zero => omega
  | succ fuel ih =>
    rw [search]
    by_cases hlo : lo < hi
    · obtain ⟨mid, hmid⟩ : ∃ mid, mid = (lo + hi) / 2 := ⟨_, rfl⟩
      obtain ⟨r, hr⟩ : ∃ r, s.toArray[mid]? = some r := ⟨_, Array.getElem?_eq_getElem (by omega)⟩
      rw [if_pos hlo, ← hmid]
      simp only [hr]
      split_ifs with hbelow habove
      · rw [ih (by omega) (by omega)]
        refine ⟨fun ⟨i, hi, hi', hq⟩ => ⟨i, hi, by omega, hq⟩, fun ⟨i, hi, hi', q, hq, hn⟩ => ⟨i, hi, ?_, q, hq, hn⟩⟩
        by_contra hge
        have := h.mono (Nat.le_of_not_lt hge) hr hq
        omega
      · rw [ih (by omega) (by omega)]
        refine ⟨fun ⟨i, hi, hi', hq⟩ => ⟨i, by omega, hi', hq⟩, fun ⟨i, hi, hi', q, hq, hn⟩ => ⟨i, ?_, hi', q, hq, hn⟩⟩
        by_contra hlt
        have := h.mono (Nat.le_of_lt_succ (Nat.lt_of_not_le hlt)) hq hr
        omega
      · exact iff_of_true rfl ⟨mid, by omega, by omega, r, hr, by omega, by omega⟩
    · rw [if_neg hlo]
      refine iff_of_false Bool.false_ne_true ?_
      rintro ⟨i, hi, hi', -⟩
      omega

theorem contains_iff (h : s.Ascending) (c : Char) :
    s.contains c ↔ ∃ r ∈ s.toList, r.1 ≤ c.toNat ∧ c.toNat ≤ r.2 := by
  rw [contains, has, search_iff h c.toNat (by omega) (Nat.le_refl _)]
  constructor
  · rintro ⟨i, -, -, r, hr, hn⟩
    exact ⟨r, Array.mem_def.mp (Array.mem_of_getElem? hr), hn⟩
  · rintro ⟨r, hr, hn⟩
    obtain ⟨i, hi, rfl⟩ := List.mem_iff_getElem.mp hr
    exact ⟨i, Nat.zero_le i, hi, _, Array.getElem?_eq_getElem hi, hn⟩

lemma contains_iff_mem {l : Text} (hs : s.toList = l.map fun c => (c.toNat, c.toNat)) (h : s.Ascending)
    (c : Char) : s.contains c ↔ c ∈ l := by
  rw [contains_iff h, hs]
  constructor
  · rintro ⟨r, hr, hlow, hhigh⟩
    obtain ⟨d, hd, rfl⟩ := List.mem_map.mp hr
    rwa [Char.toNat_inj.mp (Nat.le_antisymm hhigh hlow)]
  · exact fun hc => ⟨_, List.mem_map_of_mem hc, Nat.le_refl _, Nat.le_refl _⟩

end Ranges

lemma toList_of_eq_ofList {s : String} {l : List Char} (h : s = String.ofList l) : s.toList = l := by
  rw [h, String.toList_ofList]

-- The table is taken as a list of characters before it is evaluated; its text is decoded too slowly.
set_option maxRecDepth 20000 in
lemma ranges_nd : (Category.ranges [.nd]).toList = Ranges.coalesce (digitZeros.map fun z => (z, z + 9)) := by
  have h : Category.ranges [.nd] = Ranges.unionAll [.ofTable (Category.table .nd)] := by simp [Category.ranges]
  rw [h, Ranges.ofTable, Category.table, toList_of_eq_ofList rfl]
  decide +kernel

lemma isDigit_iff (c : Char) : isDigit c ↔ ∃ z ∈ digitZeros, z ≤ c.toNat ∧ c.toNat < z + 10 := by
  rw [isDigit]
  split_ifs with hascii
  · have hzeros : ∀ z ∈ digitZeros, z = 48 ∨ 128 ≤ z := by decide
    have hdigit : isAsciiDigit c ↔ 48 ≤ c.toNat ∧ c.toNat ≤ 57 := by
      simp only [isAsciiDigit, Bool.and_eq_true, decide_eq_true_eq, Char.le_def, UInt32.le_iff_toNat_le]
      exact Iff.rfl
    rw [hdigit]
    constructor
    · exact fun h => ⟨48, by decide, by omega, by omega⟩
    · rintro ⟨z, hz, hlow, hhigh⟩
      rcases hzeros z hz with rfl | hz
      · omega
      · omega
  · simp

theorem contains_nd (c : Char) : (Category.ranges [.nd]).contains c = isDigit c := by
  have hascending : (Category.ranges [.nd]).Ascending := by
    rw [Ranges.Ascending, ranges_nd]
    decide +kernel
  have hcover : ∀ z ∈ digitZeros, ∃ r ∈ Ranges.coalesce (digitZeros.map fun z => (z, z + 9)),
      r.1 ≤ z ∧ z + 9 ≤ r.2 := by decide +kernel
  have htens : ∀ r ∈ Ranges.coalesce (digitZeros.map fun z => (z, z + 9)),
      (r.2 + 1 - r.1) % 10 = 0 ∧ ∀ k < (r.2 + 1 - r.1) / 10, r.1 + 10 * k ∈ digitZeros := by decide +kernel
  rw [Bool.eq_iff_iff, Ranges.contains_iff hascending, isDigit_iff, ranges_nd]
  constructor
  · rintro ⟨r, hr, hlow, hhigh⟩
    obtain ⟨hten, hzeros⟩ := htens r hr
    exact ⟨_, hzeros ((c.toNat - r.1) / 10) (by omega), by omega, by omega⟩
  · rintro ⟨z, hz, hlow, hhigh⟩
    obtain ⟨r, hr, hlow', hhigh'⟩ := hcover z hz
    exact ⟨r, hr, by omega, by omega⟩

end Toolpath.Text
