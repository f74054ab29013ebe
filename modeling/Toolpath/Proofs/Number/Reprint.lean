import Toolpath.Proofs.Number.Decimal
import Toolpath.Proofs.Number.Hundredths
import Toolpath.Proofs.Number.Reading

/-!
Numbers that print alike after they were read from their own print. With no places all but the infinite numbers
do, whose print is read as no number; with two places all do but those and the creeping ones.
-/

namespace Toolpath.Number

variable {x : Float} {s : Bool} {q : ℚ} {j k : ℕ}

lemma signed_withPoint_inj {places : ℕ} :
    signed s (withPoint j places) = signed s (withPoint k places) ↔ j = k := by
  refine ⟨fun h => ?_, fun h => h ▸ rfl⟩
  obtain ⟨_, _, _, hj⟩ := exists_parts j places
  obtain ⟨_, _, _, hk⟩ := exists_parts k places
  have hread := congrArg readDecimal? h
  rw [hj.eq, hk.eq, readDecimal?_parts hj, readDecimal?_parts hk] at hread
  simpa using hread

def IsInfinite (x : Float) : Prop := ∃ s, exact x = .infinite s

def Creeping (x : Float) : Prop := ∃ s q, Denotes x s q ∧ Creeps (hundredths q)

lemma exact_cases (x : Float) : exact x = .nan ∨ IsInfinite x ∨ ∃ s q, Denotes x s q := by
  cases hx : exact x with
  | nan => exact .inl rfl
  | infinite s => exact .inr (.inl ⟨s, hx⟩)
  | finite d => exact .inr (.inr ⟨d.negative, _, d.mantissa, d.exponent, hx, rfl⟩)

lemma exact_nan : exact nan = .nan := by rw [nan, exact_ofBits]; rfl

lemma not_isInfinite_of_nan (h : exact x = .nan) : ¬ IsInfinite x := by
  rintro ⟨s, hs⟩
  rw [h] at hs
  cases hs

lemma not_creeping_of_nan (h : exact x = .nan) : ¬ Creeping x := by
  rintro ⟨s, q, ⟨m, e, hx, -⟩, -⟩
  rw [h] at hx
  cases hx

lemma Denotes.not_isInfinite (h : Denotes x s q) : ¬ IsInfinite x := by
  rintro ⟨s', hs⟩
  obtain ⟨m, e, hx, -⟩ := h
  rw [hx] at hs
  cases hs

lemma Denotes.unique {s' : Bool} {q' : ℚ} (h : Denotes x s q) (h' : Denotes x s' q') : q = q' := by
  obtain ⟨m, e, hx, rfl⟩ := h
  obtain ⟨m', e', hx', rfl⟩ := h'
  rw [hx] at hx'
  cases hx'
  rfl

lemma Denotes.creeping_iff (h : Denotes x s q) : Creeping x ↔ Creeps (hundredths q) :=
  ⟨fun ⟨_, _, h', hc⟩ => h.unique h' ▸ hc, fun hc => ⟨s, q, h, hc⟩⟩

lemma toFixed_reread_nan (h : exact x = .nan) (places : ℕ) :
    toFixed (parseNumber (toFixed x places)) places = toFixed x places := by
  rw [toFixed_nan h, parseNumber_nan, toFixed_nan exact_nan]

lemma toFixed_reread_infinite (h : IsInfinite x) {places : ℕ} {c : ℚ} (ht : Denotes (tenTo places) false c)
    (hc : c ≠ 0) : toFixed (parseNumber (toFixed x places)) places ≠ toFixed x places := by
  obtain ⟨s, hs⟩ := h
  rw [toFixed_infinite hs ht hc, parseNumber_infinite, toFixed_nan exact_nan]
  cases s <;> decide

lemma Denotes.reread_two (h : Denotes x s q) :
    Denotes (parseNumber (toFixed x 2)) s (reading (hundredths q)) := by
  have hr := rounds_places s (hundredths q) 2
  have hten : (10 : ℚ) ^ 2 = 100 := by norm_num
  rw [hten] at hr
  rw [h.toFixed_two, parseNumber_printed]
  exact hr.denotes (reading_hundredths_lt_top h.representable h.lt_top)

lemma Denotes.reread_zero (h : Denotes x s q) :
    Denotes (parseNumber (toFixed x 0)) s (nearestTo .awayFromZero q) := by
  have hr := rounds_places s (nearestTo .awayFromZero q) 0
  have hd := h.roundHalfAway
  have hk := rounded_of_representable hd.representable
  rw [pow_zero, div_one] at hr
  have hread := hr.denotes (hk.symm ▸ hd.lt_top)
  rw [hk] at hread
  rw [h.toFixed_zero, parseNumber_printed]
  exact hread

theorem toFixed_reread_two_iff (x : Float) :
    toFixed (parseNumber (toFixed x 2)) 2 = toFixed x 2 ↔ ¬ IsInfinite x ∧ ¬ Creeping x := by
  rcases exact_cases x with h | h | ⟨s, q, h⟩
  · exact iff_of_true (toFixed_reread_nan h 2) ⟨not_isInfinite_of_nan h, not_creeping_of_nan h⟩
  · exact iff_of_false (toFixed_reread_infinite h denotes_tenTo_two (by norm_num)) fun hne => hne.1 h
  · rw [h.reread_two.toFixed_two, h.toFixed_two, signed_withPoint_inj, hundredths_reading_iff h.representable,
      h.creeping_iff, and_iff_right h.not_isInfinite]

theorem toFixed_reread_zero_iff (x : Float) :
    toFixed (parseNumber (toFixed x 0)) 0 = toFixed x 0 ↔ ¬ IsInfinite x := by
  rcases exact_cases x with h | h | ⟨s, q, h⟩
  · exact iff_of_true (toFixed_reread_nan h 0) (not_isInfinite_of_nan h)
  · exact iff_of_false (toFixed_reread_infinite h denotes_tenTo_zero one_ne_zero) fun hne => hne h
  · refine iff_of_true ?_ h.not_isInfinite
    rw [h.reread_zero.toFixed_zero, h.toFixed_zero, nearestTo_natCast]

end Toolpath.Number
