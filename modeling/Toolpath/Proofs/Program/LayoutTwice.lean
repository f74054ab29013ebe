import Toolpath.Proofs.Program.Lookalike
import Toolpath.Proofs.Text.CapitalTwice
import Toolpath.Proofs.Text.Ends

/-!
The normal layout is reached in one pass. A line is laid out from its code words and its comment alone, the code
words of the result are their capital forms, and its comment is the same one.
-/

namespace Toolpath.Program

open Text

def comment? (x : Text) : Option Text := (splitComment (trim x)).2

lemma comment_read (x : Text) : (Line.read x).comment = comment? x := by
  rw [Line.read, comment?]
  dsimp only
  rw [Line.ofCode]
  split
  · rfl
  · split <;> rfl

lemma splitComment_snd (t : Text) :
    (splitComment t).2 = if t.dropWhile (· ≠ ';') = [] then none else some (t.dropWhile (· ≠ ';')) := by
  rw [splitComment, List.span_eq_takeWhile_dropWhile]
  split <;> simp_all

def arrange (ws : List Text) : Option Text → Text
  | none => join [' '] ws
  | some k => if ws = [] then k else join [' '] ws ++ ' ' :: k

def AreCode (ws : List Text) : Prop := ∀ w ∈ ws, IsWord w ∧ ';' ∉ w

def IsComment (k : Text) : Prop := k.head? = some ';' ∧ ∀ c, k.getLast? = some c → ¬ isBlank c

lemma areCode_codeWords (x : Text) : AreCode (codeWords x) := fun _ hw => mem_codeWords hw

lemma AreCode.upper {ws : List Text} (h : AreCode ws) : AreCode (ws.map upper) := by
  intro u hu
  obtain ⟨w, hw, rfl⟩ := List.mem_map.mp hu
  exact ⟨(h w hw).1.upper, mt (semicolon_mem_upper w).mp (h w hw).2⟩

lemma isComment_comment? {x k : Text} (h : comment? x = some k) : IsComment k := by
  obtain ⟨⟨r, rfl⟩, b, hb⟩ := comment_of_splitComment h
  refine ⟨rfl, fun c hc => getLast?_trim (t := x) ?_⟩
  rw [← hb, List.getLast?_append, hc]
  rfl

section

variable {ws : List Text} (h : AreCode ws)

include h

lemma AreCode.join_ne_nil (hne : ws ≠ []) : join [' '] ws ≠ [] := by
  cases ws with
  | nil => exact absurd rfl hne
  | cons w ws =>
    rw [join_cons]
    exact List.append_ne_nil_of_left_ne_nil (h w List.mem_cons_self).1.1 _

lemma AreCode.not_isBlank_head {c : Char} (hc : (join [' '] ws).head? = some c) : ¬ isBlank c := by
  cases ws with
  | nil => cases hc
  | cons w ws =>
    obtain ⟨⟨hne, hw⟩, -⟩ := h w List.mem_cons_self
    obtain ⟨d, w, rfl⟩ := List.exists_cons_of_ne_nil hne
    rw [join_cons] at hc
    exact hw c (Option.some.inj hc ▸ List.mem_cons_self)

lemma AreCode.not_isBlank_last {c : Char} (hc : (join [' '] ws).getLast? = some c) : ¬ isBlank c := by
  induction ws with
  | nil => cases hc
  | cons w ws ih =>
    obtain ⟨hw, hws⟩ := List.forall_mem_cons.mp h
    cases ws with
    | nil => exact hw.1.2 c (List.mem_of_getLast? hc)
    | cons v ws =>
      obtain ⟨d, hd⟩ := Option.isSome_iff_exists.mp
        (List.getLast?_isSome.mpr (AreCode.join_ne_nil hws (List.cons_ne_nil v ws)))
      rw [join, List.getLast?_append, hd] at hc
      exact ih hws (hd.trans hc)

lemma AreCode.dropWhile_join (t : Text) : (join [' '] ws ++ t).dropWhile (· ≠ ';') = t.dropWhile (· ≠ ';') := by
  refine List.dropWhile_append_of_pos fun c hc => ?_
  rw [decide_eq_true_eq]
  rintro rfl
  rcases mem_join hc with hc | ⟨w, hw, hc⟩
  · revert hc
    decide
  · exact (h w hw).2 hc

variable {k : Option Text} (hk : ∀ c, k = some c → IsComment c)

include hk

lemma AreCode.trim_arrange : trim (arrange ws k) = arrange ws k := by
  cases k with
  | none => exact trim_eq_self (fun _ => h.not_isBlank_head) fun _ => h.not_isBlank_last
  | some k =>
    obtain ⟨hsemi, hlast⟩ := hk k rfl
    have hsemi' : ∀ c, k.head? = some c → ¬ isBlank c := by
      rw [hsemi]
      rintro _ ⟨⟩
      decide
    by_cases hws : ws = []
    · rw [arrange, if_pos hws]
      exact trim_eq_self hsemi' hlast
    · rw [arrange, if_neg hws]
      refine trim_eq_self (fun c hc => ?_) fun c hc => hlast c ?_
      · obtain ⟨d, r, hd⟩ := List.exists_cons_of_ne_nil (h.join_ne_nil hws)
        refine h.not_isBlank_head ?_
        rw [hd] at hc ⊢
        exact hc
      · obtain ⟨d, r, rfl⟩ := List.exists_cons_of_ne_nil (l := k) (by rintro rfl; cases hsemi)
        rw [List.getLast?_append, List.getLast?_cons_cons] at hc
        obtain ⟨e, he⟩ := Option.isSome_iff_exists.mp (List.getLast?_isSome.mpr (List.cons_ne_nil d r))
        rw [he] at hc ⊢
        exact hc

lemma AreCode.comment?_arrange : comment? (arrange ws k) = k := by
  rw [comment?, h.trim_arrange hk, splitComment_snd]
  cases k with
  | none =>
    have hd := h.dropWhile_join []
    rw [List.append_nil] at hd
    rw [arrange, hd]
    rfl
  | some k =>
    obtain ⟨r, rfl⟩ := List.head?_eq_some_iff.mp (hk k rfl).1
    by_cases hws : ws = []
    · simp [arrange, hws]
    · rw [arrange, if_neg hws, h.dropWhile_join]
      simp

end

lemma layoutLine_eq (x : Text) : layoutLine x = arrange ((codeWords x).map upper) (comment? x) := by
  rw [layoutLine, comment?]
  dsimp only
  split
  · rename_i hi
    have hcode : codeWords x = [] := by rw [← codeWords_trim, codeWords_of_isInert hi]
    rw [isInert, trim_trim] at hi
    rw [hcode, splitComment_snd]
    cases ht : trim x with
    | nil => rfl
    | cons c r =>
      rw [ht] at hi
      simp [arrange, show c = ';' by simpa using hi]
  · rw [words_splitComment]
    cases (splitComment (trim x)).2 with
    | none => rfl
    | some k =>
      have hnil : (join [' '] ((codeWords x).map upper)).isEmpty ↔ (codeWords x).map upper = [] := by
        rw [List.isEmpty_iff]
        refine ⟨fun hj => ?_, fun hw => by rw [hw]; rfl⟩
        by_contra hne
        exact (areCode_codeWords x).upper.join_ne_nil hne hj
      simp only [hnil, arrange]

lemma comment?_layoutLine (x : Text) : comment? (layoutLine x) = comment? x := by
  rw [layoutLine_eq, (areCode_codeWords x).upper.comment?_arrange fun _ => isComment_comment?]

lemma layoutLine_layoutLine (x : Text) : layoutLine (layoutLine x) = layoutLine x := by
  have hupper : upper ∘ upper = upper := funext upper_upper
  rw [layoutLine_eq (layoutLine x), codeWords_layoutLine, List.map_map, hupper, comment?_layoutLine, ← layoutLine_eq]

lemma layoutLine_eq_nil (x : Text) : layoutLine x = [] ↔ trim x = [] := by
  constructor
  · intro h
    have hcode : codeWords (trim x) = [] := by
      have hw := codeWords_layoutLine x
      rw [h] at hw
      rw [codeWords_trim]
      exact List.map_eq_nil_iff.mp hw.symm
    have hcomment : (splitComment (trim x)).2 = none := by
      rw [← comment?, ← comment?_layoutLine, h]
      rfl
    rw [splitComment_snd] at hcomment
    split at hcomment
    · rename_i hnone
      rw [codeWords, ← List.append_nil (List.takeWhile _ _), ← hnone, List.takeWhile_append_dropWhile] at hcode
      cases ht : trim x with
      | nil => rfl
      | cons c r =>
        rw [ht] at hcode
        exact absurd hcode (words_ne_nil (head?_trim (c := c) (by rw [ht]; rfl)) r)
    · cases hcomment
  · intro h
    rw [layoutLine, h]
    rfl

/-- The second pass changes nothing, and every line stays one, blank if it was blank and with its comment. -/
theorem layout_layout (t : Text) :
    layout (layout t) = layout t ∧
    (lines (layout t)).length = (lines t).length ∧
    (lines (layout t)).map List.isEmpty = (lines t).map (fun x => (trim x).isEmpty) ∧
    (lines (layout t)).map (fun x => (Line.read x).comment) = (lines t).map (fun x => (Line.read x).comment) := by
  have hline : ∀ x, (layoutLine ∘ layoutLine) x = layoutLine x := fun x => by
    rw [Function.comp_apply, layoutLine_layoutLine]
  have hblank : ∀ x, (List.isEmpty ∘ layoutLine) x = (trim x).isEmpty := fun x => by
    rw [Function.comp_apply, Bool.eq_iff_iff, List.isEmpty_iff, List.isEmpty_iff, layoutLine_eq_nil]
  have hcomment : ∀ x, ((fun x => (Line.read x).comment) ∘ layoutLine) x = (Line.read x).comment := fun x => by
    rw [Function.comp_apply, comment_read, comment_read, comment?_layoutLine]
  refine ⟨?_, ?_, ?_, ?_⟩
  · rw [layout, lines_layout, List.map_map, List.map_congr_left fun x _ => hline x, layout]
  · rw [lines_layout, List.length_map]
  · rw [lines_layout, List.map_map, List.map_congr_left fun x _ => hblank x]
  · rw [lines_layout, List.map_map, List.map_congr_left fun x _ => hcomment x]

example : layout ("g1  x".toList ++ Char.ofNat 0xDF :: " ;a  b; \n \t\n  ; c ".toList) =
    "G1 XSS ;a  b;\n\n; c".toList := by
  decide +kernel

end Toolpath.Program
