import Mathlib.Tactic.Lemma
import Toolpath.Text.Basic

/-!
Words and lines of texts put together from pieces: a join is taken apart again where the pieces have no
separator of their own, and blanks at the ends make no difference to the words.
-/

namespace Toolpath.Text

@[simp] lemma words_blank_cons {b : Char} (hb : isBlank b) (t : Text) : words (b :: t) = words t := by
  simp [words, hb]

lemma words_blanks {b : Text} (hb : ∀ c ∈ b, isBlank c) : words b = [] := by
  induction b with
  | nil => rfl
  | cons c b ih =>
    rw [words_blank_cons (hb c List.mem_cons_self)]
    exact ih fun d hd => hb d (List.mem_cons_of_mem _ hd)

lemma words_cons_cons {c d : Char} (hc : ¬ isBlank c) (hd : ¬ isBlank d) (t : Text) :
    words (c :: d :: t) = (words (d :: t)).modifyHead (c :: ·) := by
  rw [words]
  simp [hc, hd]

lemma words_cons_blank {c b : Char} (hc : ¬ isBlank c) (hb : isBlank b) (t : Text) :
    words (c :: b :: t) = [c] :: words t := by
  rw [words]
  simp [hc, hb]

lemma words_single {c : Char} (hc : ¬ isBlank c) : words [c] = [[c]] := by
  simp [words, hc]

lemma words_ne_nil {c : Char} (hc : ¬ isBlank c) (t : Text) : words (c :: t) ≠ [] := by
  induction t generalizing c with
  | nil => simp [words_single hc]
  | cons d t ih =>
    by_cases hd : isBlank d
    · simp [words_cons_blank hc hd]
    · simpa [words_cons_cons hc hd] using ih hd

lemma words_append_blank {b : Char} (hb : isBlank b) (t u : Text) :
    words (t ++ b :: u) = words t ++ words u := by
  induction t with
  | nil => exact words_blank_cons hb u
  | cons c t ih =>
    by_cases hc : isBlank c
    · simpa [hc] using ih
    cases t with
    | nil => simp [words_cons_blank hc hb, words_single hc]
    | cons d t =>
      by_cases hd : isBlank d
      · simpa [words_cons_blank hc hd, hd] using ih
      · obtain ⟨w, ws, hw⟩ := List.exists_cons_of_ne_nil (words_ne_nil hd t)
        rw [List.cons_append, hw] at ih
        rw [List.cons_append, List.cons_append, words_cons_cons hc hd, words_cons_cons hc hd, ih, hw]
        rfl

lemma words_append_blanks {b : Text} (hb : ∀ c ∈ b, isBlank c) (t : Text) : words (t ++ b) = words t := by
  cases b with
  | nil => simp
  | cons c b =>
    rw [words_append_blank (hb c List.mem_cons_self),
      words_blanks fun d hd => hb d (List.mem_cons_of_mem _ hd), List.append_nil]

@[simp] lemma words_trimStart (t : Text) : words (trimStart t) = words t := by
  induction t with
  | nil => rfl
  | cons c t ih =>
    by_cases hc : isBlank c
    · simpa [trimStart, hc] using ih
    · simp [trimStart, hc]

lemma trimEnd_append (t : Text) : ∃ b, (∀ c ∈ b, isBlank c) ∧ trimEnd t ++ b = t := by
  refine ⟨(t.reverse.takeWhile isBlank).reverse, fun c hc => ?_, ?_⟩
  · exact List.all_eq_true.mp List.all_takeWhile c (List.mem_reverse.mp hc)
  · rw [trimEnd, ← List.reverse_append, List.takeWhile_append_dropWhile, List.reverse_reverse]

@[simp] lemma words_trimEnd (t : Text) : words (trimEnd t) = words t := by
  obtain ⟨b, hb, ht⟩ := trimEnd_append t
  rw [← words_append_blanks hb (trimEnd t), ht]

@[simp] lemma words_trim (t : Text) : words (trim t) = words t := by simp [trim]

lemma mem_of_mem_trim {c : Char} {t : Text} (h : c ∈ trim t) : c ∈ t := by
  obtain ⟨b, -, hb⟩ := trimEnd_append (trimStart t)
  have hs : c ∈ trimStart t := hb ▸ List.mem_append_left b h
  exact (List.dropWhile_sublist _).mem hs

lemma trim_cons {c : Char} (hc : ¬ isBlank c) (t : Text) : ∃ r, trim (c :: t) = c :: r := by
  have hs : trimStart (c :: t) = c :: t := by simp [trimStart, hc]
  obtain ⟨b, hb, ht⟩ := trimEnd_append (c :: t)
  rw [trim, hs]
  cases hr : trimEnd (c :: t) with
  | nil =>
    rw [hr, List.nil_append] at ht
    exact absurd (hb c (ht ▸ List.mem_cons_self)) hc
  | cons d r =>
    rw [hr, List.cons_append, List.cons.injEq] at ht
    exact ⟨r, by rw [ht.1]⟩

def IsWord (w : Text) : Prop := w ≠ [] ∧ ∀ c ∈ w, ¬ isBlank c

lemma IsWord.words_eq {w : Text} (h : IsWord w) : words w = [w] := by
  obtain ⟨hne, hw⟩ := h
  induction w with
  | nil => exact absurd rfl hne
  | cons c w ih =>
    have hc := hw c List.mem_cons_self
    cases w with
    | nil => exact words_single hc
    | cons d w =>
      have hd : ∀ x ∈ d :: w, ¬ isBlank x := fun x hx => hw x (List.mem_cons_of_mem _ hx)
      rw [words_cons_cons hc (hd d List.mem_cons_self), ih (by simp) hd]
      rfl

lemma mem_words {w t : Text} (h : w ∈ words t) : IsWord w ∧ ∀ c ∈ w, c ∈ t := by
  induction t generalizing w with
  | nil => cases h
  | cons c t ih =>
    by_cases hc : isBlank c
    · rw [words_blank_cons hc] at h
      exact (ih h).imp_right fun hw d hd => List.mem_cons_of_mem _ (hw d hd)
    have hsingle : IsWord [c] := ⟨List.cons_ne_nil _ _, by simpa using hc⟩
    cases t with
    | nil =>
      rw [words_single hc, List.mem_singleton] at h
      subst h
      exact ⟨hsingle, fun _ hd => hd⟩
    | cons d t =>
      by_cases hd : isBlank d
      · rw [words_cons_blank hc hd, ← words_blank_cons hd] at h
        rcases List.mem_cons.mp h with rfl | h
        · exact ⟨hsingle, by simp⟩
        · exact (ih h).imp_right fun hw d hd => List.mem_cons_of_mem _ (hw d hd)
      · obtain ⟨v, vs, hv⟩ := List.exists_cons_of_ne_nil (words_ne_nil hd t)
        rw [words_cons_cons hc hd, hv, List.modifyHead_cons] at h
        rcases List.mem_cons.mp h with rfl | h
        · obtain ⟨⟨-, hblank⟩, hmem⟩ := ih (hv ▸ List.mem_cons_self)
          refine ⟨⟨List.cons_ne_nil _ _, List.forall_mem_cons.mpr ⟨hc, hblank⟩⟩, fun e he => ?_⟩
          rcases List.mem_cons.mp he with rfl | he
          · exact List.mem_cons_self
          · exact List.mem_cons_of_mem _ (hmem e he)
        · exact (ih (hv ▸ List.mem_cons_of_mem _ h)).imp_right fun hw d hd => List.mem_cons_of_mem _ (hw d hd)

theorem words_join {ws : List Text} (h : ∀ w ∈ ws, IsWord w) : words (join [' '] ws) = ws := by
  induction ws with
  | nil => rfl
  | cons w ws ih =>
    have hw : words w = [w] := (h w List.mem_cons_self).words_eq
    cases ws with
    | nil => exact hw
    | cons v ws =>
      rw [join, List.append_assoc, List.singleton_append, words_append_blank (by decide), hw,
        ih fun x hx => h x (List.mem_cons_of_mem _ hx)]
      rfl

lemma join_cons (sep w : Text) (ws : List Text) : join sep (w :: ws) = w ++ ws.flatMap (sep ++ ·) := by
  induction ws generalizing w with
  | nil => simp [join]
  | cons v ws ih => rw [join, ih]; simp

lemma mem_join {sep : Text} {ws : List Text} {c : Char} (h : c ∈ join sep ws) : c ∈ sep ∨ ∃ w ∈ ws, c ∈ w := by
  cases ws with
  | nil => cases h
  | cons w ws =>
    rw [join_cons] at h
    rcases List.mem_append.mp h with h | h
    · exact .inr ⟨w, List.mem_cons_self, h⟩
    · obtain ⟨v, hv, h⟩ := List.mem_flatMap.mp h
      rcases List.mem_append.mp h with h | h
      · exact .inl h
      · exact .inr ⟨v, List.mem_cons_of_mem _ hv, h⟩

lemma mem_of_mem_lines {t l : Text} (hl : l ∈ lines t) {c : Char} (hc : c ∈ l) : c ∈ t := by
  induction t generalizing l with
  | nil => simp_all [lines]
  | cons d t ih =>
    obtain ⟨m, ms, hm⟩ := List.exists_cons_of_ne_nil (lines_ne_nil t)
    rw [lines] at hl
    split at hl
    · rcases List.mem_cons.mp hl with rfl | hl
      · cases hc
      · exact List.mem_cons_of_mem _ (ih hl hc)
    · rw [hm, List.modifyHead_cons] at hl
      rcases List.mem_cons.mp hl with rfl | hl
      · rcases List.mem_cons.mp hc with rfl | hc
        · exact List.mem_cons_self
        · exact List.mem_cons_of_mem _ (ih (hm ▸ List.mem_cons_self) hc)
      · exact List.mem_cons_of_mem _ (ih (hm ▸ List.mem_cons_of_mem _ hl) hc)

lemma newline_not_mem_lines {t l : Text} (h : l ∈ lines t) : '\n' ∉ l := by
  induction t generalizing l with
  | nil => simp_all [lines]
  | cons c t ih =>
    obtain ⟨m, ms, hm⟩ := List.exists_cons_of_ne_nil (lines_ne_nil t)
    by_cases hc : c = '\n'
    · rw [lines, if_pos hc] at h
      rcases List.mem_cons.mp h with rfl | h
      · exact List.not_mem_nil
      · exact ih h
    · rw [lines, if_neg hc, hm, List.modifyHead_cons] at h
      rcases List.mem_cons.mp h with rfl | h
      · rw [List.mem_cons, not_or]
        exact ⟨Ne.symm hc, ih (hm ▸ List.mem_cons_self)⟩
      · exact ih (hm ▸ List.mem_cons_of_mem _ h)

lemma lines_of_no_newline {l : Text} (h : '\n' ∉ l) : lines l = [l] := by
  induction l with
  | nil => rfl
  | cons c l ih =>
    obtain ⟨hc, hl⟩ := not_or.mp (mt List.mem_cons.mpr h)
    rw [lines, if_neg (Ne.symm hc), ih hl]
    rfl

lemma lines_append_newline {l : Text} (h : '\n' ∉ l) (t : Text) : lines (l ++ '\n' :: t) = l :: lines t := by
  induction l with
  | nil => simp [lines]
  | cons c l ih =>
    obtain ⟨hc, hl⟩ := not_or.mp (mt List.mem_cons.mpr h)
    rw [List.cons_append, lines, if_neg (Ne.symm hc), ih hl]
    rfl

theorem lines_unlines {ls : List Text} (hne : ls ≠ []) (h : ∀ l ∈ ls, '\n' ∉ l) : lines (unlines ls) = ls := by
  induction ls with
  | nil => exact absurd rfl hne
  | cons l ls ih =>
    have hl := h l List.mem_cons_self
    cases ls with
    | nil => exact lines_of_no_newline hl
    | cons m ls =>
      rw [unlines, join, List.append_assoc, List.singleton_append, lines_append_newline hl, ← unlines,
        ih (by simp) fun x hx => h x (List.mem_cons_of_mem _ hx)]

lemma unlines_newline {ls : List Text} (h : ls ≠ []) : unlines ls ++ ['\n'] = unlines (ls ++ [[]]) := by
  induction ls with
  | nil => exact absurd rfl h
  | cons l ls ih =>
    cases ls with
    | nil => simp [unlines, join]
    | cons m ls =>
      have hrest := ih (List.cons_ne_nil _ _)
      simp only [unlines, join, List.cons_append, List.append_assoc] at hrest ⊢
      rw [hrest]

end Toolpath.Text
