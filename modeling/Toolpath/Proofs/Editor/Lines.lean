import Toolpath.Editor.Session
import Toolpath.Proofs.Program.LastWriter

/-!
The lines of the document. Counting line feeds gives the same lines as splitting at them, so that the lines of the
buffer are those of the statements, and every offset has a line and column it is found at again.
-/

namespace Toolpath.Text

lemma lines_eq_splitOn (t : Text) : lines t = t.splitOn '\n' := by
  induction t with
  | nil => rfl
  | cons c t ih => simp [lines, List.splitOn_eq_splitOnP, List.splitOnP_cons_eq_if_modifyHead, ih]

lemma length_lines (t : Text) : (lines t).length = t.count '\n' + 1 := by
  induction t with
  | nil => rfl
  | cons c t ih =>
    rw [lines]
    split_ifs with hc
    · rw [List.length_cons, ih, hc, List.count_cons_self]
    · rw [List.length_modifyHead, ih, List.count_cons_of_ne hc]

end Toolpath.Text

namespace Toolpath.Editor.Buffer

open Text Program

variable {b : Buffer} {line : ℕ} {before l feed rest : Text}

lemma lineCount_eq (b : Buffer) : b.lineCount = (lines b.text).length := (length_lines b.text).symm

@[simp] lemma throughFeed_zero (t : Text) : throughFeed 0 t = 0 := by
  cases t <;> rfl

lemma throughFeed_feed (n : ℕ) (t : Text) : throughFeed (n + 1) ('\n' :: t) = throughFeed n t + 1 := by
  rw [throughFeed, if_pos rfl]

lemma throughFeed_other {c : Char} (hc : c ≠ '\n') (n : ℕ) (t : Text) :
    throughFeed (n + 1) (c :: t) = throughFeed (n + 1) t + 1 := by
  rw [throughFeed, if_neg hc]

/-- A buffer taken apart at one of its lines; a line feed ends it unless it is the last. -/
structure Cut (b : Buffer) (line : ℕ) (before l feed rest : Text) : Prop where
  text_eq : b.text = before ++ l ++ feed ++ rest
  lineStart_eq : b.lineStart line = before.length
  lineStart_succ : b.lineStart (line + 1) = (before ++ l ++ feed).length
  count_before : before.count '\n' = line
  getElem?_lines : (lines b.text)[line]? = some l
  ends : line + 1 < b.lineCount ∧ feed = ['\n'] ∨ line + 1 = b.lineCount ∧ feed = [] ∧ rest = []

lemma Cut.cons_feed {t : Text} (h : Cut ⟨t⟩ line before l feed rest) :
    Cut ⟨'\n' :: t⟩ (line + 1) ('\n' :: before) l feed rest where
  text_eq := congrArg ('\n' :: ·) h.text_eq
  lineStart_eq := (throughFeed_feed ..).trans (congrArg (· + 1) h.lineStart_eq)
  lineStart_succ := (throughFeed_feed ..).trans (congrArg (· + 1) h.lineStart_succ)
  count_before := by rw [List.count_cons_self, h.count_before]
  getElem?_lines := by
    rw [lines, if_pos rfl]
    exact h.getElem?_lines
  ends := by simpa [lineCount] using h.ends

lemma Cut.cons_first {t : Text} {c : Char} (hc : c ≠ '\n') (h : Cut ⟨t⟩ 0 [] l feed rest) :
    Cut ⟨c :: t⟩ 0 [] (c :: l) feed rest where
  text_eq := congrArg (c :: ·) h.text_eq
  lineStart_eq := throughFeed_zero _
  lineStart_succ := (throughFeed_other hc ..).trans (congrArg (· + 1) h.lineStart_succ)
  count_before := rfl
  getElem?_lines := by
    rw [lines, if_neg hc, List.getElem?_modifyHead, h.getElem?_lines]
    rfl
  ends := by simpa [lineCount, List.count_cons_of_ne hc] using h.ends

lemma Cut.cons_later {t : Text} {c : Char} (hc : c ≠ '\n') (h : Cut ⟨t⟩ (line + 1) before l feed rest) :
    Cut ⟨c :: t⟩ (line + 1) (c :: before) l feed rest where
  text_eq := congrArg (c :: ·) h.text_eq
  lineStart_eq := (throughFeed_other hc ..).trans (congrArg (· + 1) h.lineStart_eq)
  lineStart_succ := (throughFeed_other hc ..).trans (congrArg (· + 1) h.lineStart_succ)
  count_before := by rw [List.count_cons_of_ne hc, h.count_before]
  getElem?_lines := by
    rw [lines, if_neg hc, List.getElem?_modifyHead, h.getElem?_lines]
    rfl
  ends := by simpa [lineCount, List.count_cons_of_ne hc] using h.ends

-- The recursion of `lines`: a line feed moves every cut one line on, any other character becomes part of the first
-- line or of what is before the cut.
lemma exists_cut {t : Text} (h : (lines t)[line]? = some l) : ∃ before feed rest, Cut ⟨t⟩ line before l feed rest := by
  induction t generalizing line l with
  | nil =>
    obtain ⟨hline, rfl⟩ : line = 0 ∧ l = [] := by
      rw [lines, List.getElem?_singleton] at h
      split_ifs at h with hline
      exact ⟨hline, (Option.some.inj h).symm⟩
    subst hline
    exact ⟨[], [], [], rfl, rfl, rfl, rfl, rfl, .inr ⟨rfl, rfl, rfl⟩⟩
  | cons c t ih =>
    by_cases hc : c = '\n'
    · subst hc
      rw [lines, if_pos rfl] at h
      cases line with
      | zero =>
        cases h
        have hnext : throughFeed 1 ('\n' :: t) = 1 := by rw [throughFeed_feed, throughFeed_zero]
        refine ⟨[], ['\n'], t, rfl, throughFeed_zero _, hnext, rfl, ?_, .inl ⟨?_, rfl⟩⟩
        · rw [lines, if_pos rfl]
          rfl
        · simp [lineCount]
      | succ line =>
        obtain ⟨before, feed, rest, hcut⟩ := ih h
        exact ⟨_, feed, rest, hcut.cons_feed⟩
    · rw [lines, if_neg hc, List.getElem?_modifyHead] at h
      cases line with
      | zero =>
        obtain ⟨m, hm, rfl⟩ := Option.map_eq_some_iff.mp h
        obtain ⟨before, feed, rest, hcut⟩ := ih hm
        have hbefore : before.length = 0 := hcut.lineStart_eq.symm.trans (throughFeed_zero t)
        obtain rfl := List.eq_nil_of_length_eq_zero hbefore
        exact ⟨[], feed, rest, hcut.cons_first hc⟩
      | succ line =>
        obtain ⟨before, feed, rest, hcut⟩ := ih h
        exact ⟨_, feed, rest, hcut.cons_later hc⟩

lemma exists_cut_of_lt (h : line < b.lineCount) : ∃ before l feed rest, b.Cut line before l feed rest := by
  rw [lineCount_eq] at h
  obtain ⟨before, feed, rest, hcut⟩ := exists_cut (List.getElem?_eq_getElem h)
  exact ⟨before, _, feed, rest, hcut⟩

namespace Cut

lemma plain (h : b.Cut line before l feed rest) : '\n' ∉ l :=
  newline_not_mem_lines (List.mem_of_getElem? h.getElem?_lines)

lemma lt_lineCount (h : b.Cut line before l feed rest) : line < b.lineCount := by
  rcases h.ends with ⟨hl, -⟩ | ⟨hl, -⟩ <;> omega

lemma fullLine_eq (h : b.Cut line before l feed rest) : b.fullLine line = l ++ feed := by
  rw [fullLine, slice, h.lineStart_eq, h.lineStart_succ, h.text_eq, List.take_left, List.append_assoc, List.drop_left]

lemma lineSpan?_eq (h : b.Cut line before l feed rest) :
    b.lineSpan? line = some ⟨before.length, before.length + l.length⟩ := by
  have hlast : (if (l ++ feed).getLast? = some '\n' then before.length + (l ++ feed).length - 1
      else before.length + (l ++ feed).length) = before.length + l.length := by
    rcases h.ends with ⟨-, rfl⟩ | ⟨-, rfl, -⟩
    · rw [if_pos List.getLast?_concat]
      simp
    · rw [List.append_nil, if_neg fun hl => h.plain (List.mem_of_getLast? hl)]
  rw [lineSpan?, if_pos h.lt_lineCount, h.fullLine_eq, h.lineStart_eq]
  dsimp only
  rw [hlast]

lemma take_start (h : b.Cut line before l feed rest) : b.text.take before.length = before := by
  rw [h.text_eq, List.append_assoc, List.append_assoc, List.take_left]

lemma take_stop (h : b.Cut line before l feed rest) : b.text.take (before.length + l.length) = before ++ l := by
  rw [h.text_eq, List.append_assoc, ← List.length_append, List.take_left]

lemma slice_eq (h : b.Cut line before l feed rest) : b.slice ⟨before.length, before.length + l.length⟩ = l := by
  rw [slice, h.take_stop, List.drop_left]

lemma line?_eq (h : b.Cut line before l feed rest) : b.line? line = some l := by
  rw [line?, h.lineSpan?_eq, Option.map_some, h.slice_eq]

lemma stop_le (h : b.Cut line before l feed rest) : before.length + l.length ≤ b.text.length := by
  simp [h.text_eq]

lemma offset_eq (h : b.Cut line before l feed rest) (column : ℕ) :
    b.offset line column = before.length + min column (l ++ feed).length := by
  have := h.lt_lineCount
  rw [offset, Nat.min_eq_left (by omega), h.fullLine_eq, h.lineStart_eq]

lemma lineColumn_add (h : b.Cut line before l feed rest) {k : ℕ} (hk : k ≤ l.length) :
    b.lineColumn (before.length + k) = (line, k) := by
  have hsize : before.length + k ≤ b.size := Nat.le_trans (Nat.add_le_add_left hk _) h.stop_le
  have htake : b.text.take (before.length + k) = before ++ l.take k := by
    rw [h.text_eq, List.append_assoc, List.append_assoc, List.take_length_add_append, List.take_append_of_le_length hk]
  have hplain : (l.take k).count '\n' = 0 := List.count_eq_zero.mpr fun hm => h.plain (List.mem_of_mem_take hm)
  rw [lineColumn, Nat.min_eq_left hsize, htake, List.count_append, h.count_before, hplain, Nat.add_zero,
    h.lineStart_eq, Nat.add_sub_cancel_left]

end Cut

lemma throughFeed_count_le (t : Text) (p : ℕ) : throughFeed ((t.take p).count '\n') t ≤ p := by
  induction t generalizing p with
  | nil => simp
  | cons c t ih =>
    cases p with
    | zero => exact Nat.le_refl 0
    | succ p =>
      rw [List.take_succ_cons]
      by_cases hc : c = '\n'
      · rw [hc, List.count_cons_self, throughFeed_feed]
        exact Nat.succ_le_succ (ih p)
      · have hrest := ih p
        rw [List.count_cons_of_ne hc]
        cases hn : (t.take p).count '\n' with
        | zero => exact Nat.zero_le _
        | succ n =>
          rw [hn] at hrest
          rw [throughFeed_other hc]
          exact Nat.succ_le_succ hrest

lemma exists_cut_of_le {p : ℕ} (hp : p ≤ b.text.length) : ∃ line before l feed rest, b.Cut line before l feed rest ∧
    ∃ k ≤ l.length, p = before.length + k := by
  have hle : (b.text.take p).count '\n' < b.lineCount :=
    Nat.lt_succ_of_le ((List.take_sublist p b.text).count_le '\n')
  obtain ⟨before, l, feed, rest, h⟩ := exists_cut_of_lt hle
  have hstart : before.length ≤ p := h.lineStart_eq ▸ throughFeed_count_le b.text p
  refine ⟨_, before, l, feed, rest, h, p - before.length, ?_, by omega⟩
  by_contra hlong
  rcases h.ends with ⟨-, rfl⟩ | ⟨-, rfl, rfl⟩
  · have hprefix : before ++ l ++ ['\n'] <+: b.text.take p := by
      rw [List.prefix_take_iff, h.text_eq]
      refine ⟨List.prefix_append .., ?_⟩
      simp
      omega
    have hcount := hprefix.sublist.count_le '\n'
    rw [List.count_append, List.count_append, h.count_before] at hcount
    simp only [List.count_singleton_self] at hcount
    omega
  · rw [h.text_eq] at hp
    simp at hp
    omega

lemma cut_of_lineSpan? {x : Span} (h : b.lineSpan? line = some x) : ∃ before l feed rest,
    b.Cut line before l feed rest ∧ x = ⟨before.length, before.length + l.length⟩ := by
  have hline : line < b.lineCount := by
    by_contra hge
    rw [lineSpan?, if_neg hge] at h
    cases h
  obtain ⟨before, l, feed, rest, hcut⟩ := exists_cut_of_lt hline
  rw [hcut.lineSpan?_eq] at h
  cases h
  exact ⟨before, l, feed, rest, hcut, rfl⟩

lemma lineSpan_eq_ok {x : Span} : b.lineSpan line = .ok x ↔ b.lineSpan? line = some x := by
  rw [lineSpan]
  cases b.lineSpan? line <;> simp

lemma Cut.next (h : b.Cut line before l feed rest) {before' l' feed' rest' : Text}
    (h' : b.Cut (line + 1) before' l' feed' rest') :
    before'.length = before.length + l.length + 1 ∧ b.text[before.length + l.length]? = some '\n' := by
  have hlt := h'.lt_lineCount
  rcases h.ends with ⟨-, rfl⟩ | ⟨hlast, -⟩
  · have hstart := h'.lineStart_eq.symm.trans h.lineStart_succ
    rw [List.length_append, List.length_append] at hstart
    refine ⟨hstart, ?_⟩
    rw [h.text_eq, List.append_assoc, ← List.length_append, List.getElem?_append_right (Nat.le_refl _)]
    simp
  · omega

lemma Cut.lineColumn_fst_eq_iff (h : b.Cut line before l feed rest) {p : ℕ} (hp : p ≤ b.size) :
    (b.lineColumn p).1 = line ↔ before.length ≤ p ∧ p ≤ before.length + l.length := by
  refine ⟨fun hline => ?_, fun ⟨hstart, hstop⟩ => ?_⟩
  · obtain ⟨i, before', l', feed', rest', h', k, hk, rfl⟩ := exists_cut_of_le hp
    rw [h'.lineColumn_add hk] at hline
    obtain rfl : i = line := hline
    have hspan := h.lineSpan?_eq.symm.trans h'.lineSpan?_eq
    simp only [Option.some.injEq, Span.mk.injEq] at hspan
    omega
  · obtain ⟨k, rfl⟩ := Nat.exists_eq_add_of_le hstart
    rw [h.lineColumn_add (by omega)]

/-- The lines of a buffer are the pieces between line feeds: there are as many, each has the range that cuts it out
and one line feed before the next, and there is none beyond. Every offset has one line and column, from which it is
found again, and every statement stands on its line. -/
theorem lines_are_pieces (b : Buffer) :
    b.lineCount = (b.text.splitOn '\n').length ∧
    (∀ i l, (b.text.splitOn '\n')[i]? = some l →
      b.line? i = some l ∧ ∃ x, b.lineSpan i = .ok x ∧ b.slice x = l ∧ x.start ≤ x.stop ∧ x.stop ≤ b.size) ∧
    (∀ i ≥ (b.text.splitOn '\n').length,
      b.line? i = none ∧ b.lineSpan i = .error (.lineOutOfBounds i (b.text.splitOn '\n').length)) ∧
    (∀ i x y, b.lineSpan i = .ok x → b.lineSpan (i + 1) = .ok y →
      y.start = x.stop + 1 ∧ b.text[x.stop]? = some '\n') ∧
    (∀ p ≤ b.size, b.offset (b.lineColumn p).1 (b.lineColumn p).2 = p ∧ (b.lineColumn p).1 < b.lineCount ∧
      ∀ i x, b.lineSpan i = .ok x → ((b.lineColumn p).1 = i ↔ x.start ≤ p ∧ p ≤ x.stop)) ∧
    ∀ s ∈ statements b.text, b.line? s.line = some s.raw := by
  rw [← lines_eq_splitOn]
  have hline : ∀ i l, (lines b.text)[i]? = some l → b.line? i = some l ∧
      ∃ x, b.lineSpan i = .ok x ∧ b.slice x = l ∧ x.start ≤ x.stop ∧ x.stop ≤ b.size := by
    intro i l hl
    obtain ⟨before, feed, rest, h⟩ := exists_cut hl
    exact ⟨h.line?_eq, _, lineSpan_eq_ok.mpr h.lineSpan?_eq, h.slice_eq, Nat.le_add_right .., h.stop_le⟩
  refine ⟨b.lineCount_eq, hline, fun i hi => ?_, fun i x y hx hy => ?_, fun p hp => ⟨?_, ?_, fun i x hx => ?_⟩,
    fun s hs => ?_⟩
  · rw [← lineCount_eq] at hi ⊢
    have hnone : b.lineSpan? i = none := if_neg (Nat.not_lt.mpr hi)
    rw [line?, lineSpan, hnone]
    exact ⟨rfl, rfl⟩
  · obtain ⟨before, l, feed, rest, h, rfl⟩ := cut_of_lineSpan? (lineSpan_eq_ok.mp hx)
    obtain ⟨before', l', feed', rest', h', rfl⟩ := cut_of_lineSpan? (lineSpan_eq_ok.mp hy)
    exact h.next h'
  · obtain ⟨i, before, l, feed, rest, h, k, hk, rfl⟩ := exists_cut_of_le hp
    have hkept : k ≤ (l ++ feed).length := Nat.le_trans hk (List.prefix_append ..).length_le
    rw [h.lineColumn_add hk, h.offset_eq, Nat.min_eq_left hkept]
  · obtain ⟨i, before, l, feed, rest, h, k, hk, rfl⟩ := exists_cut_of_le hp
    rw [h.lineColumn_add hk]
    exact h.lt_lineCount
  · obtain ⟨before, l, feed, rest, h, rfl⟩ := cut_of_lineSpan? (lineSpan_eq_ok.mp hx)
    exact h.lineColumn_fst_eq_iff hp
  · obtain ⟨i, x, hx, -, rfl⟩ := mem_statements.mp hs
    exact (hline i x hx).1

/-- The position of a line and column, both as far as there are any, is that line and column, but that a column beyond
the end of a line that ends with a line feed is the beginning of the next line. -/
theorem lineColumn_offset_iff (b : Buffer) (line column : ℕ) :
    ∃ l, b.line? (min line (b.lineCount - 1)) = some l ∧
      (b.lineColumn (b.offset line column) = (min line (b.lineCount - 1), min column l.length) ↔
        ¬ (line + 1 < b.lineCount ∧ l.length < column)) ∧
      (line + 1 < b.lineCount → l.length < column → b.lineColumn (b.offset line column) = (line + 1, 0)) := by
  have hcount : 0 < b.lineCount := Nat.succ_pos _
  have hlast : min line (b.lineCount - 1) < b.lineCount := by omega
  obtain ⟨before, l, feed, rest, h⟩ := exists_cut_of_lt hlast
  have hoffset : b.offset line column = before.length + min column (l ++ feed).length := by
    rw [← h.offset_eq, offset, offset, Nat.min_eq_left (Nat.min_le_right ..)]
  have hbeyond : line + 1 < b.lineCount → l.length < column →
      b.lineColumn (b.offset line column) = (line + 1, 0) := by
    intro hnext hcolumn
    have hmin : min line (b.lineCount - 1) = line := by omega
    rw [hmin] at h
    obtain ⟨before', l', feed', rest', h'⟩ := exists_cut_of_lt hnext
    have hstart := (h.next h').1
    have hfeed : feed = ['\n'] := by
      rcases h.ends with ⟨-, hf⟩ | ⟨hlast, -⟩
      · exact hf
      · omega
    have hsum : b.offset line column = before'.length + 0 := by
      rw [hoffset, hfeed, List.length_append, List.length_singleton, Nat.min_eq_right hcolumn]
      omega
    rw [hsum, h'.lineColumn_add (Nat.zero_le _)]
  refine ⟨l, h.line?_eq, ⟨?_, fun hkept => ?_⟩, hbeyond⟩
  · rintro heq ⟨hnext, hcolumn⟩
    rw [hbeyond hnext hcolumn, Prod.mk.injEq] at heq
    omega
  · have hmin : min column (l ++ feed).length = min column l.length := by
      rcases h.ends with ⟨hl, rfl⟩ | ⟨-, rfl, -⟩
      · rw [List.length_append]
        omega
      · rw [List.append_nil]
    rw [hoffset, hmin, h.lineColumn_add (Nat.min_le_right ..)]

-- A column beyond the end of the first of two empty lines leads to the second.
theorem offset_leaves_line : let b : Buffer := ⟨['\n']⟩
    b.line? 0 = some [] ∧ b.lineColumn (b.offset 0 1) = (1, 0) ∧
      b.lineColumn (b.offset 0 1) ≠ (min 0 (b.lineCount - 1), min 1 0) := by
  decide

end Toolpath.Editor.Buffer
