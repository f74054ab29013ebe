import Mathlib.Data.List.TakeDrop
import Mathlib.Data.List.TakeWhile
import Mathlib.Tactic.Lemma
import Toolpath.Proofs.Text.Pieces

/-!
The ends of texts: what trimming leaves there, and what a text begins with.
-/

namespace Toolpath.Text

lemma head?_trim {c : Char} {t : Text} (h : (trim t).head? = some c) : ¬ isBlank c := by
  obtain ⟨r, hr⟩ := List.head?_eq_some_iff.mp h
  obtain ⟨b, -, hb⟩ := trimEnd_append (trimStart t)
  rw [← trim, hr, List.cons_append] at hb
  have hstart := List.head?_dropWhile_not isBlank t
  rw [← trimStart, ← hb] at hstart
  simpa using hstart

lemma getLast?_trim {c : Char} {t : Text} (h : (trim t).getLast? = some c) : ¬ isBlank c := by
  rw [trim, trimEnd, List.getLast?_reverse] at h
  have hend := List.head?_dropWhile_not isBlank (trimStart t).reverse
  rw [h] at hend
  simpa using hend

lemma trim_eq_self {t : Text} (hhead : ∀ c, t.head? = some c → ¬ isBlank c)
    (hlast : ∀ c, t.getLast? = some c → ¬ isBlank c) : trim t = t := by
  have hcut : ∀ u : Text, (∀ c, u.head? = some c → ¬ isBlank c) → u.dropWhile isBlank = u := by
    intro u hu
    cases u with
    | nil => rfl
    | cons c u => exact List.dropWhile_cons_of_neg (hu c rfl)
  rw [trim, trimStart, hcut t hhead, trimEnd, hcut _ fun c hc => hlast c (by rwa [List.head?_reverse] at hc),
    List.reverse_reverse]

@[simp] lemma trim_trim (t : Text) : trim (trim t) = trim t :=
  trim_eq_self (fun _ => head?_trim) fun _ => getLast?_trim

lemma head?_words {c : Char} (hc : ¬ isBlank c) (t : Text) :
    (words (c :: t)).head? = some ((c :: t).takeWhile fun d => !isBlank d) := by
  induction t generalizing c with
  | nil => simp [words_single hc, hc]
  | cons d t ih =>
    by_cases hd : isBlank d
    · simp [words_cons_blank hc hd, hc, hd]
    · rw [words_cons_cons hc hd, List.head?_modifyHead, ih hd]
      simp [hc, hd]

lemma isPrefix_map_takeWhile {p : Char → Bool} {f : Char → Char} {u : Text} (hu : ∀ c, f c ∈ u → p c) (t : Text) :
    u <+: (t.takeWhile p).map f ↔ u <+: t.map f := by
  induction u generalizing t with
  | nil => simp
  | cons a u ih =>
    cases t with
    | nil => simp
    | cons c t =>
      have ht := ih (fun d hd => hu d (List.mem_cons_of_mem _ hd)) t
      by_cases hc : p c
      · simp [hc, List.cons_prefix_cons, ht]
      · have hne : a ≠ f c := fun h => hc (hu c (h ▸ List.mem_cons_self))
        simp [hc, List.cons_prefix_cons, hne]

end Toolpath.Text
