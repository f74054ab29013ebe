import Mathlib.Data.List.Basic
import Mathlib.Data.List.Induction
import Toolpath.Proofs.Program.Lookalike

/-!
When the normal layout keeps a program. The capital form of a look-alike takes the place of a coordinate or
a feed; nothing changes if and only if there is no number in that place anyway.
-/

namespace Toolpath.Table

open Program Text

lemma toRows_eq_iff {t u : Text} : toRows t = toRows u ↔
    movesOf (lines t).zipIdx = movesOf (lines u).zipIdx ∧ ∀ p ∈ movesOf (lines u).zipIdx,
      place ((lines t).take (p.2 + 1)) = place ((lines u).take (p.2 + 1)) ∧
        latestFeed ((lines t).take (p.2 + 1)) = latestFeed ((lines u).take (p.2 + 1)) := by
  have hmoves : ∀ v, movesOf (lines v).zipIdx = (toRows v).map fun r => (r.command, r.line.getD 0) := fun v => by
    rw [toRows_eq]
    exact List.ext_getElem (by simp) fun i _ _ => by simp [rowAt]
  constructor
  · intro h
    have hm : movesOf (lines t).zipIdx = movesOf (lines u).zipIdx := by rw [hmoves, hmoves, h]
    refine ⟨hm, fun p hp => ?_⟩
    obtain ⟨i, hi⟩ := List.mem_iff_getElem?.mp hp
    rw [toRows_eq, toRows_eq, hm] at h
    have hrow := congrArg (·[i]?) h
    simp only [List.getElem?_mapIdx, hi, Option.map_some, Option.some.injEq, rowAt, Row.mk.injEq] at hrow
    obtain ⟨-, -, -, hx, hy, hz, hf⟩ := hrow
    exact ⟨by rw [Position.mk.injEq]; exact ⟨hx, hy, hz⟩, hf⟩
  · rintro ⟨hm, h⟩
    rw [toRows_eq, toRows_eq, hm]
    refine List.ext_getElem (by simp) fun i hi _ => ?_
    rw [List.length_mapIdx] at hi
    obtain ⟨hp, hf⟩ := h _ (List.getElem_mem hi)
    simp only [List.getElem_mapIdx, rowAt, hp, hf]

lemma movesOf_layoutLine_iff (ls : List Text) :
    movesOf (ls.map layoutLine).zipIdx = movesOf ls.zipIdx ↔ ∀ x ∈ ls, moves (layoutLine x) = moves x := by
  constructor
  · intro h x hx
    obtain ⟨l, hl⟩ := List.mem_iff_getElem?.mp hx
    cases hm : motionOf? x with
    | none => simp [moves_eq, hm]
    | some m =>
      have hmem : (m, l) ∈ movesOf (ls.map layoutLine).zipIdx ↔ _ := mem_movesOf
      rw [h, mem_movesOf] at hmem
      simp only [List.getElem?_map, hl, Option.map_some, Option.some.injEq, exists_eq_left', motionOf?_layoutLine,
        hm, and_true] at hmem
      exact Bool.eq_iff_iff.mpr hmem.symm
  · intro h
    rw [List.zipIdx_map, movesOf, movesOf, List.filterMap_map]
    refine List.filterMap_congr fun p hp => ?_
    have hx := h p.1 (List.fst_mem_of_mem_zipIdx hp)
    simp [hx]

def feedMasked (xs : List Text) : Bool :=
  (xs.reverse.find? fun x => (motionOf? x).isSome && ((lastWord? 'F' x).isSome || masked 'F' x)).any (masked 'F')

lemma feedMasked_concat (xs : List Text) (x : Text) : feedMasked (xs ++ [x]) =
    if (motionOf? x).isSome && ((lastWord? 'F' x).isSome || masked 'F' x) then masked 'F' x else feedMasked xs := by
  rw [feedMasked, List.reverse_concat, List.find?_cons]
  cases (motionOf? x).isSome && ((lastWord? 'F' x).isSome || masked 'F' x) <;> rfl

lemma latestFeed_map_layoutLine (xs : List Text) :
    latestFeed (xs.map layoutLine) = if feedMasked xs then some Number.nan else latestFeed xs := by
  induction xs using List.reverseRecOn with
  | nil => rfl
  | append_singleton xs x ih =>
    rw [List.map_append, List.map_singleton, latestFeed_concat, latestFeed_concat, feedMasked_concat, ih,
      motionOf?_layoutLine, lastWord?_layoutLine (by decide)]
    cases (motionOf? x).isSome with
    | false => rfl
    | true => cases masked 'F' x <;> cases lastWord? 'F' x <;> simp

/-- A line where a look-alike takes the place of a coordinate moves, and to no number on that axis. -/
def PlaceKept (ls : List Text) : Prop :=
  ∀ l x, ls[l]? = some x → (motionOf? x).isSome → masked 'Y' x →
    moves x ∧ (place (ls.take (l + 1))).y = Number.nan

/-- A move for which a look-alike takes the place of the feed has no number for its feed. -/
def FeedKept (ls : List Text) : Prop :=
  ∀ l x, ls[l]? = some x → moves x → feedMasked (ls.take (l + 1)) → latestFeed (ls.take (l + 1)) = some Number.nan

lemma PlaceKept.take {ls : List Text} (h : PlaceKept ls) (k : Nat) : PlaceKept (ls.take k) := by
  intro l x hl
  rw [List.getElem?_take] at hl
  split at hl
  · rename_i hlt
    rw [List.take_take, Nat.min_eq_left hlt]
    exact h l x hl
  · cases hl

lemma PlaceKept.moves_layoutLine {ls : List Text} (h : PlaceKept ls) {x : Text} (hx : x ∈ ls) :
    moves (layoutLine x) = moves x := by
  obtain ⟨l, hl⟩ := List.mem_iff_getElem?.mp hx
  rw [Program.moves_layoutLine]
  by_cases hm : (motionOf? x).isSome ∧ masked 'Y' x
  · simp [(h l x hl hm.1 hm.2).1]
  · rw [← Bool.and_eq_true, Bool.not_eq_true] at hm
    rw [hm, Bool.or_false]

lemma PlaceKept.place_map {ls : List Text} (h : PlaceKept ls) : place (ls.map layoutLine) = place ls := by
  induction ls using List.reverseRecOn with
  | nil => rfl
  | append_singleton xs x ih =>
    have hxs : PlaceKept xs := by simpa using h.take xs.length
    -- the last line is the only one that is not one of `xs`
    have hlast := h xs.length x List.getElem?_concat_length
    rw [List.take_of_length_le (by simp)] at hlast
    rw [List.map_append, List.map_singleton, place_concat, h.moves_layoutLine (List.mem_append_right _ List.mem_cons_self),
      ih hxs]
    rw [place_concat] at hlast ⊢
    by_cases hm : moves x
    · have hmotion := isSome_motionOf?_of_moves hm
      rw [if_pos hm] at hlast
      simp only [hm, if_true, lastWord?_layoutLine (a := 'X') (by decide), lastWord?_layoutLine (a := 'Y') (by decide),
        lastWord?_layoutLine (a := 'Z') (by decide), not_masked (a := 'X') (by decide), not_masked (a := 'Z') (by decide),
        Position.mk.injEq]
      refine ⟨rfl, ?_, rfl⟩
      by_cases hy : masked 'Y' x
      · rw [if_pos hy]
        exact (hlast hmotion hy).2.symm
      · rw [if_neg hy]
    · rw [if_neg hm, if_neg hm]

theorem toRows_layout_iff (t : Text) :
    toRows (layout t) = toRows t ↔ PlaceKept (lines t) ∧ FeedKept (lines t) := by
  rw [toRows_eq_iff, lines_layout, movesOf_layoutLine_iff]
  generalize lines t = ls
  have htake : ∀ k, (ls.map layoutLine).take k = (ls.take k).map layoutLine := fun k => List.map_take.symm
  constructor
  · rintro ⟨hm, h⟩
    -- a look-alike is read as a NaN in the layout, so that the line itself must have one there
    have hmove : ∀ {l x}, ls[l]? = some x → moves x →
        place ((ls.map layoutLine).take (l + 1)) = place (ls.take (l + 1)) ∧
          latestFeed ((ls.map layoutLine).take (l + 1)) = latestFeed (ls.take (l + 1)) := by
      intro l x hl hx
      obtain ⟨m, hm⟩ := Option.isSome_iff_exists.mp (isSome_motionOf?_of_moves hx)
      exact h (m, l) (mem_movesOf.mpr ⟨x, hl, hx, hm⟩)
    refine ⟨fun l x hl hmotion hy => ?_, fun l x hl hx hf => ?_⟩
    · have hlayout : moves (layoutLine x) := by simp [moves_layoutLine, hmotion, hy]
      have hx : moves x := by rwa [hm x (List.mem_of_getElem? hl)] at hlayout
      refine ⟨hx, ?_⟩
      rw [← (hmove hl hx).1, List.take_add_one, List.getElem?_map, hl, Option.map_some, Option.toList_some,
        place_concat, if_pos hlayout, lastWord?_layoutLine (a := 'Y') (by decide), if_pos hy]
      rfl
    · rw [← (hmove hl hx).2, htake, latestFeed_map_layoutLine, if_pos hf]
  · rintro ⟨hplace, hfeed⟩
    refine ⟨fun x hx => hplace.moves_layoutLine hx, fun p hp => ?_⟩
    obtain ⟨m, l⟩ := p
    obtain ⟨x, hl, hx, -⟩ := mem_movesOf.mp hp
    rw [htake]
    refine ⟨(hplace.take _).place_map, ?_⟩
    rw [latestFeed_map_layoutLine]
    split
    · rename_i hf
      exact (hfeed l x hl hx hf).symm
    · rfl

lemma toRows_layout_of_no_lookalike {t : Text} (h : ∀ c ∈ t, ∀ a ∈ addresses, (c.toNat, a) ∉ strayHeads) :
    toRows (layout t) = toRows t := by
  have hmasked : ∀ x ∈ lines t, ∀ a ∈ addresses, ¬ masked a x := fun x hx a ha hm => by
    obtain ⟨c, hc, hs⟩ := exists_mem_of_masked hm
    exact h c (mem_of_mem_lines hx hc) a ha hs
  refine (toRows_layout_iff t).mpr ⟨fun l x hl _ hm => ?_, fun l x _ _ hm => ?_⟩
  · exact absurd hm (hmasked x (List.mem_of_getElem? hl) _ (by decide))
  · obtain ⟨y, hy, hm⟩ := (Option.any_eq_true _ _).mp hm
    have hmem := List.mem_of_mem_take (List.mem_reverse.mp (List.mem_of_find?_eq_some hy))
    exact absurd hm (hmasked y hmem _ (by decide))

/-- The normal layout keeps the trace, the rows and the check of a program if and only if no look-alike takes
the place of a number. -/
theorem layout_keeps_program_iff (t : Text) :
    (trace (layout t) = trace t ∧ toRows (layout t) = toRows t ∧ findDuplicates (layout t) = findDuplicates t) ↔
      PlaceKept (lines t) ∧ FeedKept (lines t) := by
  rw [← toRows_layout_iff]
  refine ⟨fun h => h.2.1, fun h => ?_⟩
  have hrel : (trace (layout t)).relativeLine = (trace t).relativeLine := by
    rw [relativeLine_trace, relativeLine_trace, lines_layout, List.findIdx?_map]
    congr 1
    exact funext asksRelative_layoutLine
  have htrace : trace (layout t) = trace t := trace_eq_of_rows h hrel
  exact ⟨htrace, h, by rw [findDuplicates_eq, htrace, findDuplicates_eq]⟩

-- A letter that is no word of its own becomes a coordinate without a number.
theorem layout_changes_program :
    let t := ['G', '1', ' ', 'X', '1', ' ', Char.ofNat 0x1E99]
    (toRows t).map (·.y) = [some (Float.ofNat 0)] ∧ (toRows (layout t)).map (·.y) = [some Number.nan] ∧
      trace (layout t) ≠ trace t := by
  decide +kernel

end Toolpath.Table
