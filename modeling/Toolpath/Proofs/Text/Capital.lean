import Mathlib.Data.Bool.AllAny
import Mathlib.Tactic.Lemma
import Toolpath.Text.Digit
import Toolpath.Text.Upper

/-!
Capital forms. Blanks and all that a number is read from change by ASCII case at most, and no other
character gets a capital form with one of these in it. A few letters beyond ASCII have capital forms that
begin with an ASCII letter.
-/

namespace Toolpath.Text

def isNumeral (c : Char) : Bool := isDigit c || isBlank c || ['+', '-', '.', 'e', 'E'].contains c

def strayHeads : List (Nat × Char) := [
  (0xDF, 'S'), (0x131, 'I'), (0x17F, 'S'), (0x1F0, 'J'), (0x1E96, 'H'), (0x1E97, 'T'), (0x1E98, 'W'),
  (0x1E99, 'Y'), (0x1E9A, 'A'), (0xFB00, 'F'), (0xFB01, 'F'), (0xFB02, 'F'), (0xFB03, 'F'), (0xFB04, 'F'),
  (0xFB05, 'S'), (0xFB06, 'S')]

def strays : List Char := ['A', 'F', 'H', 'I', 'J', 'L', 'N', 'S', 'T', 'W', 'Y']

def gaps : List (Nat × Nat) :=
  digitZeros.tail.map (fun z => (z, z + 9)) ++
    [(0x85, 0x85), (0xA0, 0xA0), (0x1680, 0x1680), (0x2000, 0x200A), (0x2028, 0x2029), (0x202F, 0x202F),
      (0x205F, 0x205F), (0x3000, 0x3000), (0xD800, 0xDFFF)]

def clear (lo hi : Nat) : Bool :=
  -- No number of an interval beyond ASCII is in a gap. Comparisons are those that the kernel has built in.
  Nat.ble 128 lo && Nat.blt hi 0x110000 && gaps.all fun g => Nat.blt hi g.1 || Nat.blt g.2 lo

def CaseRun.isClear (r : CaseRun) : Bool :=
  clear r.first r.last &&
    (clear (r.apply r.first) (r.apply r.last) ||
      (r.first = r.last && strayHeads.contains (r.first, Char.ofNat (r.apply r.first))))

def isClearExpansion : Nat × List Nat → Bool
  | (_, []) => false
  | (n, u :: us) => clear n n && (clear u u || strayHeads.contains (n, Char.ofNat u)) &&
      us.all fun u => clear u u || strays.contains (Char.ofNat u)

lemma isClear_of_mem_runs {r : CaseRun} (h : r ∈ upperRuns.tail ++ laterUpperRuns) : r.isClear := by
  have hall : (upperRuns.tail ++ laterUpperRuns).all CaseRun.isClear := by decide +kernel
  exact List.all_eq_true.mp hall r h

lemma isClear_of_mem_expansions {e : Nat × List Nat} (h : e ∈ expansions) : isClearExpansion e := by
  have hall : expansions.all isClearExpansion := by decide +kernel
  exact List.all_eq_true.mp hall e h

lemma clear_iff {lo hi : Nat} :
    clear lo hi ↔ 128 ≤ lo ∧ hi < 0x110000 ∧ ∀ g ∈ gaps, hi < g.1 ∨ g.2 < lo := by
  simp [clear, and_assoc]

lemma clear_mono {lo hi a b : Nat} (h : clear lo hi) (ha : lo ≤ a) (hb : b ≤ hi) : clear a b := by
  rw [clear_iff] at h ⊢
  obtain ⟨hlo, hhi, hg⟩ := h
  refine ⟨Nat.le_trans hlo ha, Nat.lt_of_le_of_lt hb hhi, fun g hmem => ?_⟩
  have := hg g hmem
  omega

lemma toNat_ofNat_of_clear {n : Nat} (h : clear n n) : (Char.ofNat n).toNat = n := by
  obtain ⟨-, hn, hg⟩ := clear_iff.mp h
  have hs := hg (0xD800, 0xDFFF) (by decide)
  have hv : n.isValidChar := by
    rw [Nat.isValidChar]
    omega
  rw [Char.ofNat, dif_pos hv]
  rfl

lemma forall_ascii {P : Char → Prop} (h : ∀ n < 128, P (Char.ofNat n)) {c : Char} (hc : c.toNat < 128) : P c := by
  rw [← Char.ofNat_toNat c]
  exact h _ hc

lemma upperAscii_of_beyond {c : Char} (h : 128 ≤ c.toNat) : upperAscii c = c := by
  refine if_neg fun hc => ?_
  have : c.toNat ≤ 'z'.toNat := hc.2
  exact absurd (Nat.le_trans h this) (by decide)

@[simp] lemma upperAscii_upperAscii (c : Char) : upperAscii (upperAscii c) = upperAscii c := by
  rcases Nat.lt_or_ge c.toNat 128 with hc | hc
  · exact forall_ascii (P := fun c => upperAscii (upperAscii c) = upperAscii c) (by decide +kernel) hc
  · simp only [upperAscii_of_beyond hc]

lemma not_isNumeral_of_clear {c : Char} (h : clear c.toNat c.toNat) : ¬ isNumeral c := by
  obtain ⟨hc, -, hg⟩ := clear_iff.mp h
  simp only [isNumeral, Bool.or_eq_true, not_or]
  refine ⟨⟨fun hd => ?_, fun hb => ?_⟩, fun hm => ?_⟩
  · simp only [isDigit, if_neg (Nat.not_lt.mpr hc), List.any_eq_true, Bool.and_eq_true, decide_eq_true_eq] at hd
    obtain ⟨z, hz, hl, hu⟩ := hd
    rcases List.mem_cons.mp hz with rfl | hz
    · omega
    · have := hg (z, z + 9) (List.mem_append_left _ (List.mem_map_of_mem hz))
      omega
  · have h1 := hg (0x85, 0x85) (by decide)
    have h2 := hg (0xA0, 0xA0) (by decide)
    have h3 := hg (0x1680, 0x1680) (by decide)
    have h4 := hg (0x2000, 0x200A) (by decide)
    have h5 := hg (0x2028, 0x2029) (by decide)
    have h6 := hg (0x202F, 0x202F) (by decide)
    have h7 := hg (0x205F, 0x205F) (by decide)
    have h8 := hg (0x3000, 0x3000) (by decide)
    simp only [isBlank, Bool.or_eq_true, Bool.and_eq_true, decide_eq_true_eq] at hb
    omega
  · have hall : ∀ m ∈ ['+', '-', '.', 'e', 'E'], m.toNat < 128 := List.all_iff_forall_prop.mp (by decide)
    have := hall c (List.contains_iff_mem.mp hm)
    omega

def isCapital (c : Char) : Bool := clear c.toNat c.toNat || strays.contains c

lemma not_isNumeral_of_isCapital {c : Char} (h : isCapital c) : ¬ isNumeral c := by
  rcases Bool.or_eq_true_iff.mp h with h | h
  · exact not_isNumeral_of_clear h
  · have hall : ∀ s ∈ strays, ¬ isNumeral s := List.all_iff_forall_prop.mp (by decide)
    exact hall c (List.contains_iff_mem.mp h)

lemma upperAscii_of_isCapital {c : Char} (h : isCapital c) : upperAscii c = c := by
  rcases Bool.or_eq_true_iff.mp h with h | h
  · exact upperAscii_of_beyond (clear_iff.mp h).1
  · have hall : ∀ s ∈ strays, upperAscii s = s := List.all_iff_forall_prop.mp (by decide)
    exact hall c (List.contains_iff_mem.mp h)

lemma beyond_or_stray {c : Char} (h : isCapital c) : 128 ≤ c.toNat ∨ c ∈ strays := by
  rcases Bool.or_eq_true_iff.mp h with h | h
  · exact .inl (clear_iff.mp h).1
  · exact .inr (List.contains_iff_mem.mp h)

lemma isCapital_ofNat {n : Nat} (h : clear n n || strays.contains (Char.ofNat n)) : isCapital (Char.ofNat n) := by
  rcases Bool.or_eq_true_iff.mp h with h | h
  · simp [isCapital, toNat_ofNat_of_clear h, h]
  · rw [isCapital, h, Bool.or_true]

lemma stray_of_strayHeads {x : Nat × Char} (h : x ∈ strayHeads) : x.2 ∈ strays := by
  have hall : ∀ x ∈ strayHeads, x.2 ∈ strays := by decide
  exact hall x h

lemma upperChar_of_ascii {c : Char} (h : c.toNat < 128) : upperChar c = [upperAscii c] := by
  simp [upperChar, h]

structure Capitalised (c : Char) (first : Char) (rest : Text) : Prop where
  upperChar_eq : upperChar c = first :: rest
  beyond : 128 ≤ c.toNat
  not_numeral : ¬ isNumeral c
  first_beyond : 128 ≤ first.toNat ∨ (c.toNat, first) ∈ strayHeads
  capitals : ∀ d ∈ first :: rest, isCapital d

lemma capitalised_of_head {c : Char} {u : Nat} {us : List Nat} (hu : upperChar c = (u :: us).map Char.ofNat)
    (hc : clear c.toNat c.toNat) (hfirst : clear u u ∨ (c.toNat, Char.ofNat u) ∈ strayHeads)
    (hrest : ∀ v ∈ us, clear v v || strays.contains (Char.ofNat v)) :
    Capitalised c (Char.ofNat u) (us.map Char.ofNat) where
  upperChar_eq := hu
  beyond := (clear_iff.mp hc).1
  not_numeral := not_isNumeral_of_clear hc
  first_beyond := hfirst.imp_left fun h => (toNat_ofNat_of_clear h).symm ▸ (clear_iff.mp h).1
  capitals d hd := by
    rcases List.mem_cons.mp hd with rfl | hd
    · rcases hfirst with h | h
      · exact isCapital_ofNat (by simp [h])
      · exact isCapital_ofNat (by simp [stray_of_strayHeads h])
    · obtain ⟨v, hv, rfl⟩ := List.mem_map.mp hd
      exact isCapital_ofNat (hrest v hv)

lemma clear_run {r : CaseRun} (h : r ∈ upperRuns ++ laterUpperRuns) {n : Nat} (hn : 128 ≤ n) (hr : r.contains n) :
    clear n n ∧ (clear (r.apply n) (r.apply n) ∨ (n, Char.ofNat (r.apply n)) ∈ strayHeads) := by
  simp only [CaseRun.contains, Bool.and_eq_true, decide_eq_true_eq] at hr
  have hmem : r ∈ upperRuns.tail ++ laterUpperRuns := by
    rcases List.mem_append.mp h with h | h
    · rcases List.mem_cons.mp h with rfl | h
      · dsimp only at hr
        omega
      · exact List.mem_append_left _ h
    · exact List.mem_append_right _ h
  have hclear := isClear_of_mem_runs hmem
  simp only [CaseRun.isClear, Bool.and_eq_true, Bool.or_eq_true, decide_eq_true_eq, List.contains_iff_mem] at hclear
  obtain ⟨hsource, hclear⟩ := hclear
  refine ⟨clear_mono hsource hr.1.1 hr.1.2, hclear.imp (fun h => clear_mono h ?_ ?_) fun h => ?_⟩
  · simp only [CaseRun.apply]
    omega
  · simp only [CaseRun.apply]
    omega
  · have hnf : n = r.first := by omega
    exact hnf ▸ h.2

theorem upperChar_cases (c : Char) :
    upperChar c = [upperAscii c] ∨ ∃ first rest, Capitalised c first rest := by
  rcases Nat.lt_or_ge c.toNat 128 with hc | hc
  · exact .inl (upperChar_of_ascii hc)
  cases he : expansions.find? (·.1 = c.toNat) with
  | some e =>
    have hu : upperChar c = e.2.map Char.ofNat := by simp [upperChar, Nat.not_lt.mpr hc, he]
    have hn : e.1 = c.toNat := by simpa using List.find?_some he
    have hclear := isClear_of_mem_expansions (List.mem_of_find?_eq_some he)
    obtain ⟨n, us⟩ := e
    cases us with
    | nil => cases hclear
    | cons u us =>
      simp only [isClearExpansion, Bool.and_eq_true, Bool.or_eq_true, List.contains_iff_mem, List.all_eq_true] at hclear hn
      subst hn
      exact .inr ⟨_, _, capitalised_of_head hu hclear.1.1 hclear.1.2 fun v hv => by simpa using hclear.2 v hv⟩
  | none =>
    cases hr : (upperRuns ++ laterUpperRuns).find? (·.contains c.toNat) with
    | some r =>
      have hu : upperChar c = [r.apply c.toNat].map Char.ofNat := by
        simp only [upperChar, Nat.not_lt.mpr hc, he, hr]
        rfl
      have hin : r.contains c.toNat := by simpa using List.find?_some hr
      obtain ⟨hsource, hfirst⟩ := clear_run (List.mem_of_find?_eq_some hr) hc hin
      exact .inr ⟨_, _, capitalised_of_head hu hsource hfirst (List.forall_mem_nil _)⟩
    | none =>
      have hu : upperChar c = [c] := by
        simp only [upperChar, Nat.not_lt.mpr hc, he, hr]
        rfl
      exact .inl (by rw [hu, upperAscii_of_beyond hc])

end Toolpath.Text
