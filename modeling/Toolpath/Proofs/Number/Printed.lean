import Mathlib.Data.Bool.AllAny
import Mathlib.Tactic.Lemma
import Toolpath.Number.Fixed

/-!
The characters of printed numbers: digits, a point, a sign, and the letters of `NaN` and `inf`.
-/

namespace Toolpath.Number

def IsPrinted (c : Char) : Prop := c.isDigit ∨ c ∈ ['.', '-', 'N', 'a', 'i', 'n', 'f']

def Printed (t : Text) : Prop := ∀ c ∈ t, IsPrinted c

lemma IsPrinted.not_blank {c : Char} (h : IsPrinted c) : ¬ Text.isBlank c ∧ c ≠ ';' := by
  rcases h with h | h
  · simp only [Char.isDigit, Bool.and_eq_true, decide_eq_true_eq, ge_iff_le, UInt32.le_iff_toNat_le] at h
    have h₁ : 48 ≤ c.toNat := h.1
    have h₂ : c.toNat ≤ 57 := h.2
    refine ⟨?_, ?_⟩
    · simp [Text.isBlank]
      omega
    · rintro rfl
      revert h₂
      decide
  · have hall : ∀ c ∈ ['.', '-', 'N', 'a', 'i', 'n', 'f'], ¬ Text.isBlank c ∧ c ≠ ';' :=
      List.all_iff_forall_prop.mp (by decide)
    exact hall c h

lemma printed_ofNat (n : Nat) : Printed (Text.ofNat n) :=
  fun _ hc => .inl (Nat.isDigit_of_mem_toDigits (by decide) (by decide) hc)

lemma Printed.append {t u : Text} (ht : Printed t) (hu : Printed u) : Printed (t ++ u) := by
  intro c hc
  rcases List.mem_append.mp hc with hc | hc
  · exact ht c hc
  · exact hu c hc

lemma Printed.cons {c : Char} {t : Text} (hc : IsPrinted c) (ht : Printed t) : Printed (c :: t) := by
  intro d hd
  rcases List.mem_cons.mp hd with rfl | hd
  · exact hc
  · exact ht d hd

lemma Printed.padLeft {t : Text} (ht : Printed t) (width : Nat) : Printed (padLeft width '0' t) := by
  refine Printed.append (fun c hc => ?_) ht
  rw [List.eq_of_mem_replicate hc]
  exact .inl (by decide)

lemma printed_withPoint (n places : Nat) : Printed (withPoint n places) := by
  rw [withPoint]
  split
  · exact printed_ofNat n
  · exact (printed_ofNat _).append (.cons (.inr (by decide)) ((printed_ofNat _).padLeft places))

lemma Printed.signed {t : Text} (ht : Printed t) (negative : Bool) : Printed (signed negative t) := by
  cases negative with
  | false => exact ht
  | true => exact .cons (.inr (by decide)) ht

lemma printed_of_letters {t : Text} (h : t.all fun c => c ∈ ['.', '-', 'N', 'a', 'i', 'n', 'f']) : Printed t :=
  fun c hc => .inr (List.all_iff_forall_prop.mp h c hc)

lemma printed_fixed (x : Float) (places : Nat) : Printed (fixed x places) := by
  rw [fixed]
  split
  · exact printed_of_letters (by decide)
  · exact Printed.signed (printed_of_letters (by decide)) _
  · exact (printed_withPoint _ places).signed _

lemma printed_toFixed (x : Float) (places : Nat) : Printed (toFixed x places) := printed_fixed _ places

end Toolpath.Number
