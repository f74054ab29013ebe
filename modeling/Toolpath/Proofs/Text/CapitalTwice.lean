import Toolpath.Proofs.Text.Capital

/-!
Capital forms are their own capital forms: no character of one lies in a run of small letters again, or has an
expansion.
-/

namespace Toolpath.Text

namespace CaseRun

def image (r : CaseRun) : CaseRun := ⟨r.apply r.first, r.apply r.last, r.step, 0⟩

def keepsParity (r : CaseRun) : Bool := Nat.beq r.step 2 || Nat.beq r.first r.last

def apart (r q : CaseRun) : Bool :=
  -- The runs do not overlap, or one has even numbers there and the other odd ones.
  Nat.blt r.last q.first || Nat.blt q.last r.first ||
    (r.keepsParity && q.keepsParity && Nat.beq ((r.first + q.first) % 2) 1)

lemma contains_iff {r : CaseRun} {n : Nat} :
    r.contains n ↔ (r.first ≤ n ∧ n ≤ r.last) ∧ (n - r.first) % r.step = 0 := by
  simp [contains]

lemma mod_two_of_keepsParity {r : CaseRun} (h : r.keepsParity) {n : Nat} (hn : r.contains n) : n % 2 = r.first % 2 := by
  obtain ⟨hin, hstep⟩ := contains_iff.mp hn
  rcases Bool.or_eq_true_iff.mp h with h | h
  · rw [Nat.eq_of_beq_eq_true h] at hstep
    omega
  · have := Nat.eq_of_beq_eq_true h
    omega

lemma not_contains_of_apart {r q : CaseRun} (h : r.apart q) {n : Nat} (hn : r.contains n) : ¬ q.contains n := by
  intro hq
  have hr := (contains_iff.mp hn).1
  have hq' := (contains_iff.mp hq).1
  simp only [apart, Bool.or_eq_true, Bool.and_eq_true, Nat.blt_eq] at h
  rcases h with (h | h) | ⟨⟨hre, hqe⟩, hodd⟩
  · omega
  · omega
  · have := mod_two_of_keepsParity hre hn
    have := mod_two_of_keepsParity hqe hq
    have := Nat.eq_of_beq_eq_true hodd
    omega

lemma contains_image {r : CaseRun} (h : 0 < r.apply r.first) {n : Nat} (hn : r.contains n) :
    r.image.contains (r.apply n) := by
  obtain ⟨hin, hstep⟩ := contains_iff.mp hn
  have heq : r.apply n - r.apply r.first = n - r.first := by
    simp only [apply] at h ⊢
    omega
  rw [contains_iff, image, heq]
  refine ⟨⟨?_, ?_⟩, hstep⟩ <;> simp only [apply] <;> omega

end CaseRun

def lone (n : Nat) : CaseRun := ⟨n, n, 1, 0⟩

lemma contains_lone (n : Nat) : (lone n).contains n := by simp [lone, CaseRun.contains]

def capitalRuns : List CaseRun := upperRuns ++ laterUpperRuns

def smalls : List CaseRun := capitalRuns ++ expansions.map fun e => lone e.1

def capitals : List CaseRun := capitalRuns.map CaseRun.image ++ expansions.flatMap fun e => e.2.map lone

lemma apart_of_mem {r q : CaseRun} (hr : r ∈ capitals) (hq : q ∈ smalls) : r.apart q := by
  have hall : capitals.all fun r => smalls.all r.apart := by decide +kernel
  exact List.all_eq_true.mp (List.all_eq_true.mp hall r hr) q hq

lemma apply_first_pos {r : CaseRun} (h : r ∈ capitalRuns) : 0 < r.apply r.first := by
  have hall : capitalRuns.all fun r => Nat.blt 0 (r.apply r.first) := by decide +kernel
  exact Nat.blt_eq.mp (List.all_eq_true.mp hall r h)

lemma upperChar_of_not_small {c : Char} (hc : 128 ≤ c.toNat) (h : ∀ q ∈ smalls, ¬ q.contains c.toNat) :
    upperChar c = [c] := by
  have he : expansions.find? (·.1 = c.toNat) = none := by
    rw [List.find?_eq_none]
    intro e he hn
    rw [decide_eq_true_eq] at hn
    exact h (lone e.1) (List.mem_append_right _ (List.mem_map_of_mem he)) (hn ▸ contains_lone e.1)
  have hr : (upperRuns ++ laterUpperRuns).find? (·.contains c.toNat) = none :=
    List.find?_eq_none.mpr fun r hr => h r (List.mem_append_left _ hr)
  simp only [upperChar, Nat.not_lt.mpr hc, if_false, he, hr]

lemma mem_upperChar {c d : Char} (hc : 128 ≤ c.toNat) (h : d ∈ upperChar c) :
    (upperChar c = [c]) ∨ ∃ r ∈ capitals, ∃ n, r.contains n ∧ d = Char.ofNat n := by
  simp only [upperChar, Nat.not_lt.mpr hc, if_false] at h ⊢
  cases he : expansions.find? (·.1 = c.toNat) with
  | some e =>
    rw [he] at h
    obtain ⟨n, hn, rfl⟩ := List.mem_map.mp h
    refine .inr ⟨lone n, List.mem_append_right _ ?_, n, contains_lone n, rfl⟩
    exact List.mem_flatMap.mpr ⟨e, List.mem_of_find?_eq_some he, List.mem_map_of_mem hn⟩
  | none =>
    rw [he] at h
    dsimp only at h ⊢
    cases hr : (upperRuns ++ laterUpperRuns).find? (·.contains c.toNat) with
    | some r =>
      rw [hr] at h
      obtain rfl := List.mem_singleton.mp h
      have hmem : r ∈ capitalRuns := List.mem_of_find?_eq_some hr
      exact .inr ⟨r.image, List.mem_append_left _ (List.mem_map_of_mem hmem), _,
        CaseRun.contains_image (apply_first_pos hmem) (by simpa using List.find?_some hr), rfl⟩
    | none => exact .inl rfl

lemma toNat_ofNat_of_pos {n : Nat} (h : 0 < (Char.ofNat n).toNat) : (Char.ofNat n).toNat = n := by
  by_cases hv : n.isValidChar
  · rw [Char.ofNat, dif_pos hv]
    rfl
  · rw [Char.ofNat, dif_neg hv] at h
    exact absurd h (by decide)

theorem upperChar_of_mem_upperChar {c d : Char} (h : d ∈ upperChar c) : upperChar d = [d] := by
  rcases Nat.lt_or_ge c.toNat 128 with hc | hc
  · rw [upperChar_of_ascii hc, List.mem_singleton] at h
    rw [h]
    exact forall_ascii (P := fun c => upperChar (upperAscii c) = [upperAscii c]) (by decide +kernel) hc
  rcases mem_upperChar hc h with hself | ⟨r, hr, n, hn, rfl⟩
  · rw [hself, List.mem_singleton] at h
    rw [h, hself]
  rcases Nat.lt_or_ge (Char.ofNat n).toNat 128 with hd | hd
  · rcases upperChar_cases c with hu | ⟨first, rest, hu⟩
    · rw [hu, upperAscii_of_beyond hc, List.mem_singleton] at h
      exact absurd hd (Nat.not_lt.mpr (h ▸ hc))
    · rw [upperChar_of_ascii hd, upperAscii_of_isCapital (hu.capitals _ (hu.upperChar_eq ▸ h))]
  · refine upperChar_of_not_small hd fun q hq => ?_
    rw [toNat_ofNat_of_pos (by omega)]
    exact CaseRun.not_contains_of_apart (apart_of_mem hr hq) hn

lemma upper_of_capitals {t : Text} (h : ∀ d ∈ t, upperChar d = [d]) : upper t = t := by
  induction t with
  | nil => rfl
  | cons c t ih =>
    obtain ⟨hc, ht⟩ := List.forall_mem_cons.mp h
    rw [upper, List.flatMap_cons, hc, ← upper, ih ht]
    rfl

@[simp] theorem upper_upper (t : Text) : upper (upper t) = upper t := by
  refine upper_of_capitals fun d hd => ?_
  obtain ⟨c, -, hd⟩ := List.mem_flatMap.mp hd
  exact upperChar_of_mem_upperChar hd

end Toolpath.Text
