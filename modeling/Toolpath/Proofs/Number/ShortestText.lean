import Toolpath.Proofs.Number.Shortest

/-!
The shortest digits as texts: what they are made of, and that the positional one is read back as the double.
-/

namespace Toolpath.Number

variable {x : Float} {d : Dyadic} {n : ℕ}

lemma eq_zero_of_head_ofNat (h : (Text.ofNat n).head? = some '0') : n = 0 := by
  induction n using Nat.strong_induction_on with
  | _ n ih =>
    rw [Text.ofNat, Nat.toDigits_eq_if (by norm_num)] at h
    split at h
    · rename_i hlt
      interval_cases n <;> first | rfl | (revert h; decide)
    · rename_i hge
      rw [List.head?_append_of_ne_nil _ Nat.toDigits_ne_nil] at h
      have := ih (n / 10) (by omega) h
      omega

lemma ofNat_of_head (h : (Text.ofNat n).head? = some '0') : Text.ofNat n = ['0'] := by
  rw [eq_zero_of_head_ofNat h]
  rfl

lemma ofNat_mul_ten (hn : 0 < n) : Text.ofNat (n * 10) = Text.ofNat n ++ ['0'] := by
  have h := Nat.toDigits_append_toDigits (b := 10) (n := n) (d := 0) (by norm_num) hn (by norm_num)
  rw [Nat.add_zero, Nat.mul_comm] at h
  exact h.symm

lemma ofNat_mul_pow (hn : 0 < n) (e : ℕ) : Text.ofNat (n * 10 ^ e) = Text.ofNat n ++ List.replicate e '0' := by
  induction e with
  | zero => simp
  | succ e ih => rw [pow_succ, ← mul_assoc, ofNat_mul_ten (by positivity), ih, List.append_assoc, List.replicate_succ']

lemma Digits.plain_eq (r : Digits) (h : 0 < r.digits) :
    ∃ k places, 0 < places ∧ r.plain = withPoint k places ∧ (k : ℚ) / 10 ^ places = r.value := by
  obtain ⟨n, e⟩ := r
  cases e with
  | ofNat e =>
    refine ⟨n * 10 ^ e * 10, 1, one_pos, ?_, ?_⟩
    · simp [plain, withPoint, ofNat_mul_pow h]
      rfl
    · simp [value]
  | negSucc e =>
    refine ⟨n, e + 1, e.succ_pos, rfl, ?_⟩
    rw [value, zpow_negSucc, div_eq_mul_inv]

lemma Denotes.readFloat?_withPoint {s : Bool} {q : ℚ} (h : Denotes x s q) {k places : ℕ} (hp : 0 < places)
    (hk : rounded ((k : ℚ) / 10 ^ places) = q) : readFloat? (signed s (withPoint k places)) = some x := by
  have hread := rounds_places s k places
  rw [Rounds, hk, if_pos h.lt_top] at hread
  have hparts := parts_of_pos (k := k) hp
  rw [hparts.eq, readFloat?_parts hparts, hread.eq h]

theorem readFloat?_plain (hx : exact x = .finite d) (hm : 0 < d.mantissa) (tie : Tie) :
    ∃ k places, 0 < places ∧ (shortest tie d).plain = withPoint k places ∧
      readFloat? (signed d.negative (withPoint k places)) = some x := by
  obtain ⟨hpos, hr⟩ := shortest_spec (canonical_of_exactBits hx).1 hm tie
  obtain ⟨k, places, hp, hplain, hvalue⟩ := (shortest tie d).plain_eq hpos
  have hd : Denotes x d.negative (d.mantissa * 2 ^ d.exponent) := ⟨_, _, hx, rfl⟩
  exact ⟨k, places, hp, hplain, hd.readFloat?_withPoint hp (by rw [hvalue, hr])⟩

end Toolpath.Number
