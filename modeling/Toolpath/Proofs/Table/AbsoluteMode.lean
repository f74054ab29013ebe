import Toolpath.Proofs.Program.Lookalike
import Toolpath.Proofs.Table.ReadBack
import Toolpath.Proofs.Text.Ends

/-!
Absolute coordinates in regenerated programs. The line that asks for them is added unless a line that is kept
begins like it; a longer command begins like it too, and asks for something else.
-/

namespace Toolpath.Program

open Text

def absoluteMnemonic : Text := ['G', '9', '0']

lemma absolute_read (x : Text) : (Line.read x).kind = .absolute ↔ mnemonic? x = some absoluteMnemonic := by
  rw [kind_read]
  cases mnemonic? x with
  | none => simp
  | some u =>
    simp only [Option.map_some, Option.getD_some, Option.some.injEq, absoluteMnemonic]
    rw [Command.ofMnemonic, Motion.ofMnemonic?]
    split_ifs <;> simp_all [Motion.mnemonic]

lemma absolute_read_iff_word (x : Text) : (Line.read x).kind = .absolute ↔
    ∃ w, (codeWords x).head? = some w ∧ w.map upperAscii = absoluteMnemonic := by
  have hplain : ∀ c ∈ absoluteMnemonic, c.toNat < 128 ∧ c ∉ strays := List.all_iff_forall_prop.mp (by decide)
  simp only [absolute_read, mnemonic?, Option.map_eq_some_iff, upper_eq_iff hplain]

end Toolpath.Program

namespace Toolpath.Table

open Program Text

lemma beginsAbsolute_iff_word (x : Text) : beginsAbsolute x ↔
    ∃ w, (codeWords x).head? = some w ∧ absoluteMnemonic <+: w.map upperAscii := by
  have hblank : ∀ c, upperAscii c ∈ absoluteMnemonic → !isBlank c := fun c hc => by
    have hall : ∀ a ∈ absoluteMnemonic, !isBlank a := List.all_eq_true.mp (by decide)
    rw [← (alike_upperAscii c).blank]
    exact hall _ hc
  have hcode : ∀ c, upperAscii c ∈ absoluteMnemonic → decide (c ≠ ';') := fun c hc => by
    rw [decide_eq_true_eq]
    rintro rfl
    revert hc
    decide
  rw [beginsAbsolute, ← codeWords_trim, List.isPrefixOf_iff_prefix, ← absoluteMnemonic, codeWords,
    ← isPrefix_map_takeWhile hcode, ← isPrefix_map_takeWhile hblank]
  cases hx : (trim x).takeWhile (· ≠ ';') with
  | nil => simp [words, absoluteMnemonic]
  | cons c r =>
    have hhead : (trim x).head? = some c := by
      obtain ⟨b, hb⟩ := hx ▸ List.takeWhile_prefix (l := trim x) (· ≠ ';')
      rw [← hb]
      rfl
    rw [head?_words (head?_trim hhead)]
    simp

lemma beginsAbsolute_of_absolute {x : Text} (h : (Line.read x).kind = .absolute) : beginsAbsolute x := by
  obtain ⟨w, hw, hm⟩ := (absolute_read_iff_word x).mp h
  exact (beginsAbsolute_iff_word x).mpr ⟨w, hw, hm ▸ List.prefix_refl _⟩

lemma not_beginsAbsolute_of_isMotionLine {x : Text} (h : isMotionLine x) : ¬ beginsAbsolute x := by
  rw [isMotionLine, motion?_read] at h
  obtain ⟨m, hm⟩ := Option.isSome_iff_exists.mp h
  obtain ⟨v, hv, hu⟩ := Option.map_eq_some_iff.mp (motionOf?_eq_some.mp hm)
  have hplain : ∀ c ∈ m.mnemonic, c.toNat < 128 ∧ c ∉ strays := by
    cases m <;> exact List.all_iff_forall_prop.mp (by decide)
  rw [beginsAbsolute_iff_word]
  rintro ⟨w, hw, hp⟩
  obtain rfl : v = w := Option.some.inj (hv.symm.trans hw)
  rw [(upper_eq_iff hplain v).mp hu] at hp
  revert hp
  cases m <;> decide

lemma not_isInert_of_absolute {x : Text} (h : (Line.read x).kind = .absolute) : ¬ isInert x := by
  intro hi
  rw [absolute_read, mnemonic?_of_isInert hi] at h
  cases h

def SelectsAbsolute (t : Text) : Prop :=
  ∃ s ∈ statements t, s.kind = .absolute ∧ ∀ m ∈ statements t, m.kind.motion?.isSome → s.line < m.line

lemma selectsAbsolute_ofRows {rows : List Row} (hne : rows ≠ []) (previous : Text) :
    SelectsAbsolute (ofRows rows previous) ↔ ∃ x ∈ preamble previous, (Line.read x).kind = .absolute := by
  have hlines := lines_ofRows hne previous
  constructor
  · rintro ⟨s, hs, hk, -⟩
    obtain ⟨l, x, hx, -, rfl⟩ := mem_statements.mp hs
    refine ⟨x, ?_, hk⟩
    rcases List.mem_append.mp (hlines ▸ List.mem_of_getElem? hx) with hx | hx
    · exact hx
    · obtain ⟨r, -, rfl⟩ := List.mem_map.mp hx
      rw [Statement.kind_mk, r.kind_toLine] at hk
      cases hk
  · rintro ⟨x, hx, hk⟩
    obtain ⟨l, hl⟩ := List.mem_iff_getElem?.mp hx
    have hlt := (List.getElem?_eq_some_iff.mp hl).1
    refine ⟨⟨l, x, .read x⟩, mem_statements.mpr ⟨l, x, ?_, not_isInert_of_absolute hk, rfl⟩, hk, fun m hm hmotion => ?_⟩
    · rw [hlines, List.getElem?_append_left hlt, hl]
    · -- the lines before the moves are no motions
      obtain ⟨k, y, hy, -, rfl⟩ := mem_statements.mp hm
      rw [hlines] at hy
      by_contra hle
      rw [List.getElem?_append_left (Nat.lt_of_le_of_lt (Nat.le_of_not_lt hle) hlt)] at hy
      exact (mem_preamble (List.mem_of_getElem? hy)).2 hmotion

lemma exists_absolute_preamble_iff (previous : Text) :
    (∃ x ∈ preamble previous, (Line.read x).kind = .absolute) ↔
      (∃ s ∈ statements previous, s.kind = .absolute) ∨ ∀ x ∈ lines previous, ¬ beginsAbsolute x := by
  have hkept : ∀ {x}, x ∈ lines previous → ¬ isMotionLine x → x ∈ preamble previous := fun hx hm =>
    List.mem_append_left _ (List.mem_filter.mpr ⟨hx, by simpa using hm⟩)
  constructor
  · rintro ⟨x, hx, hk⟩
    rcases List.mem_append.mp hx with hx | hx
    · obtain ⟨l, hl⟩ := List.mem_iff_getElem?.mp (List.mem_filter.mp hx).1
      exact .inl ⟨_, mem_statements.mpr ⟨l, x, hl, not_isInert_of_absolute hk, rfl⟩, hk⟩
    · -- the line was added, so no kept line begins like it
      refine .inr fun y hy hb => ?_
      split at hx
      · cases hx
      · rename_i hany
        have hm : ¬ isMotionLine y := fun hm => not_beginsAbsolute_of_isMotionLine hm hb
        exact hany (List.any_eq_true.mpr ⟨y, List.mem_filter.mpr ⟨hy, by simpa using hm⟩, hb⟩)
  · rintro (⟨s, hs, hk⟩ | hnone)
    · obtain ⟨l, x, hx, -, rfl⟩ := mem_statements.mp hs
      have hb := beginsAbsolute_of_absolute hk
      exact ⟨x, hkept (List.mem_of_getElem? hx) fun hm => not_beginsAbsolute_of_isMotionLine hm hb, hk⟩
    · refine ⟨absoluteLine, List.mem_append_right _ ?_, by decide⟩
      rw [if_neg]
      · exact List.mem_singleton.mpr rfl
      · intro h
        obtain ⟨x, hx, hb⟩ := List.any_eq_true.mp h
        exact hnone x (List.mem_filter.mp hx).1 hb

/-- A regenerated program asks for absolute coordinates before its moves if and only if the previous program asks
for them, or none of its lines begins as if it did. -/
theorem selectsAbsolute_ofRows_iff (r : Row) (rows : List Row) (previous : Text) :
    SelectsAbsolute (ofRows (r :: rows) previous) ↔
      (∃ s ∈ statements previous, s.kind = .absolute) ∨ ∀ x ∈ lines previous, ¬ beginsAbsolute x := by
  rw [selectsAbsolute_ofRows (List.cons_ne_nil _ _), exists_absolute_preamble_iff]

-- A command that begins like the one for absolute coordinates keeps that from being added.
theorem not_selectsAbsolute_ofRows :
    let t := ofRows (toRows "G90.1\nG1 X1".toList) "G90.1\nG1 X1".toList
    t = "G90.1\nG1 X1.00 Y0.00 Z0.00".toList ∧ ¬ SelectsAbsolute t := by
  unfold SelectsAbsolute
  decide +kernel

end Toolpath.Table
