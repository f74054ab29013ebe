import Toolpath.Proofs.Number.Order
import Toolpath.Proofs.Number.Printed
import Toolpath.Proofs.Text.Pieces
import Toolpath.Scene.Drawing

/-!
What the paths of a scene draw. Path data is read with a pen, which goes to the point after an `M` and draws a stroke
to the point after an `L`: there is a stroke for every edge with finite ends, and no other.
-/

namespace Toolpath.Number

variable {x y : Float}

def decimalValue? (t : Text) : Option ℚ :=
  (readDecimal? t).map fun d => withSign d.negative (d.digits * 10 ^ d.exponent)

def nearestHundredth (x : Float) : ℚ := withSign (value x < 0) (nearestTo .toEven (|value x| * 100) / 100)

lemma decimalValue?_fixed (h : x.isFinite) : decimalValue? (fixed x 2) = some (nearestHundredth x) := by
  obtain ⟨s, q, hx⟩ := isFinite_iff.mp h
  obtain ⟨whole, point, fraction, hparts⟩ := exists_parts (nearestTo .toEven (q * 10 ^ 2)) 2
  have hread : readDecimal? (fixed x 2) = some ⟨s, nearestTo .toEven (q * 10 ^ 2), -2⟩ := by
    rw [hx.fixed, hparts.eq]
    exact readDecimal?_parts hparts s
  have hten : (10 : ℚ) ^ 2 = 100 := by norm_num
  have hscale : ((10 : ℚ) ^ (-2 : ℤ)) = 100⁻¹ := by norm_num
  rw [decimalValue?, hread, Option.map_some, nearestHundredth, hx.abs_value, hten, hscale, ← div_eq_mul_inv]
  rcases hx.nonneg.eq_or_lt with rfl | hq
  · have hzero : nearestTo .toEven (0 * 100 : ℚ) = 0 := by
      rw [zero_mul]
      exact_mod_cast nearestTo_natCast .toEven 0
    rw [hzero, Nat.cast_zero, zero_div, withSign_zero, withSign_zero]
  · have hsign : decide (value x < 0) = s := by
      rw [hx.value_eq]
      cases s
      · simpa [withSign] using hq.le
      · simpa [withSign] using hq
    rw [hsign]

lemma nearestHundredth_of_beq (hx : x.isFinite) (hy : y.isFinite) (h : x == y) :
    nearestHundredth x = nearestHundredth y := by
  rw [beq_iff (ne_nan_of_isFinite hx) (ne_nan_of_isFinite hy)] at h
  rw [nearestHundredth, nearestHundredth, h]

lemma isWord_fixed (x : Float) (places : ℕ) : Text.IsWord (fixed x places) := by
  refine ⟨?_, fun c hc => (printed_fixed x places c hc).not_blank.1⟩
  rcases exact_cases x with hx | ⟨s, hx⟩ | ⟨s, q, hx⟩
  · rw [fixed_nan hx]
    exact List.cons_ne_nil _ _
  · rw [fixed_infinite hx]
    cases s <;> exact List.cons_ne_nil _ _
  · obtain ⟨whole, point, fraction, hparts⟩ := exists_parts (nearestTo .toEven (q * 10 ^ places)) places
    rw [hx.fixed, hparts.eq]
    cases s <;> simp [signed, hparts.whole_ne]

end Toolpath.Number

namespace Toolpath.Scene

open Number Program Text

def Point.written (p : Point) : ℚ × ℚ := (nearestHundredth p.x, nearestHundredth p.y)

structure Stroke where
  start : ℚ × ℚ
  finish : ℚ × ℚ
  deriving DecidableEq, Repr

namespace Stroke

def ofSegment (s : Segment) : Stroke := ⟨s.start.written, s.finish.written⟩

/-- The strokes of path data, with the pen at a point or nowhere; nothing if it is not of commands with two
coordinates, or draws from nowhere. -/
def read? : Option (ℚ × ℚ) → List Text → Option (List Stroke)
  | _, [] => some []
  | pen?, c :: x :: y :: r => do
    let p := (← decimalValue? x, ← decimalValue? y)
    if c = ['M'] then read? (some p) r
    else if c = ['L'] then return ⟨← pen?, p⟩ :: (← read? (some p) r)
    else none
  | _, _ => none

end Stroke

variable {p q : Point} {pen? : Option (ℚ × ℚ)} {at? : Option Point} {r : List Text}

lemma isFinite_coordinates (h : p.isFinite) : p.x.isFinite ∧ p.y.isFinite := by
  simpa [Point.isFinite] using h

lemma written_of_same (hp : p.isFinite) (hq : q.isFinite) (h : p.same q) : p.written = q.written := by
  obtain ⟨hx, hy⟩ := isFinite_coordinates hp
  obtain ⟨hx', hy'⟩ := isFinite_coordinates hq
  simp only [Point.same, Bool.and_eq_true] at h
  exact Prod.ext (nearestHundredth_of_beq hx hx' h.1) (nearestHundredth_of_beq hy hy' h.2)

lemma read?_move (h : p.isFinite) (pen? : Option (ℚ × ℚ)) (r : List Text) :
    Stroke.read? pen? ((Pen.move p).words ++ r) = Stroke.read? (some p.written) r := by
  obtain ⟨hx, hy⟩ := isFinite_coordinates h
  simp [Pen.words, Stroke.read?, decimalValue?_fixed hx, decimalValue?_fixed hy, Point.written]

lemma read?_line (h : p.isFinite) (a : ℚ × ℚ) (r : List Text) :
    Stroke.read? (some a) ((Pen.line p).words ++ r) =
      (Stroke.read? (some p.written) r).map (⟨a, p.written⟩ :: ·) := by
  obtain ⟨hx, hy⟩ := isFinite_coordinates h
  simp [Pen.words, Stroke.read?, decimalValue?_fixed hx, decimalValue?_fixed hy, Point.written, Option.map_eq_bind]

def Segment.isFinite (s : Segment) : Bool := s.start.isFinite && s.finish.isFinite

lemma draw_cons_finite {s : Segment} (h : s.isFinite) (at? : Option Point) (segments : List Segment) :
    Pen.draw at? (s :: segments) =
      (if at?.any (·.same s.start) then [.line s.finish] else [.move s.start, .line s.finish]) ++
        Pen.draw (some s.finish) segments :=
  if_pos h

lemma draw_cons_other {s : Segment} (h : ¬ s.isFinite) (at? : Option Point) (segments : List Segment) :
    Pen.draw at? (s :: segments) = Pen.draw none segments :=
  if_neg h

-- The pen stands where the last edge ended, unless that is not known.
lemma read?_draw (segments : List Segment) (h : ∀ q ∈ at?, q.isFinite ∧ pen? = some q.written) :
    Stroke.read? pen? ((Pen.draw at? segments).flatMap Pen.words) =
      some ((segments.filter Segment.isFinite).map Stroke.ofSegment) := by
  induction segments generalizing pen? at? with
  | nil => rfl
  | cons s segments ih =>
    by_cases hs : s.isFinite
    · obtain ⟨hstart, hfinish⟩ : s.start.isFinite ∧ s.finish.isFinite := by simpa [Segment.isFinite] using hs
      have hrest : Stroke.read? (some s.finish.written) ((Pen.draw (some s.finish) segments).flatMap Pen.words) =
          some ((segments.filter Segment.isFinite).map Stroke.ofSegment) :=
        ih fun q hq => Option.some.inj hq ▸ ⟨hfinish, rfl⟩
      rw [draw_cons_finite hs, List.flatMap_append, List.filter_cons_of_pos hs, List.map_cons]
      split_ifs with hat
      · obtain ⟨q, rfl, hsame⟩ := (Option.any_eq_true ..).mp hat
        obtain ⟨hq, rfl⟩ := h q rfl
        rw [List.flatMap_singleton, read?_line hfinish, hrest, written_of_same hq hstart hsame]
        rfl
      · rw [List.flatMap_cons, List.flatMap_singleton, List.append_assoc, read?_move hstart, read?_line hfinish, hrest]
        rfl
    · rw [draw_cons_other hs, List.filter_cons_of_neg hs]
      exact ih nofun

lemma draw_of_not_finite {segments : List Segment} (h : ∀ s ∈ segments, ¬ s.isFinite) (at? : Option Point) :
    Pen.draw at? segments = [] := by
  induction segments generalizing at? with
  | nil => rfl
  | cons s segments ih =>
    obtain ⟨hs, hrest⟩ := List.forall_mem_cons.mp h
    rw [draw_cons_other hs, ih hrest]

def drawnSegments (segments : List Segment) (m : Motion) : List Segment :=
  segments.filter fun s => s.isFinite && s.motion = m

variable {segments : List Segment} {m : Motion}

lemma drawnSegments_eq (segments : List Segment) (m : Motion) :
    (segments.filter (·.motion = m)).filter Segment.isFinite = drawnSegments segments m :=
  List.filter_filter

lemma isWord_of_mem_words {c : Pen} {w : Text} (h : w ∈ c.words) : IsWord w := by
  cases c with
  | move p | line p =>
    simp only [Pen.words, List.mem_cons, List.not_mem_nil, or_false] at h
    rcases h with rfl | rfl | rfl
    · exact ⟨List.cons_ne_nil _ _, List.forall_mem_singleton.mpr (by decide)⟩
    · exact isWord_fixed ..
    · exact isWord_fixed ..

lemma words_pathData (segments : List Segment) (m : Motion) : words (pathData segments m) =
    (Pen.draw none (segments.filter (·.motion = m))).flatMap Pen.words := by
  refine words_join fun w hw => ?_
  obtain ⟨c, -, hw⟩ := List.mem_flatMap.mp hw
  exact isWord_of_mem_words hw

lemma read?_pathData (segments : List Segment) (m : Motion) : Stroke.read? none (words (pathData segments m)) =
    some ((drawnSegments segments m).map Stroke.ofSegment) := by
  have hlifted : ∀ q ∈ (none : Option Point), q.isFinite ∧ (none : Option (ℚ × ℚ)) = some q.written := nofun
  rw [words_pathData, read?_draw _ hlifted, drawnSegments_eq]

lemma pathData_eq_nil : pathData segments m = [] ↔ drawnSegments segments m = [] := by
  constructor
  · intro h
    have hread := read?_pathData segments m
    rw [h] at hread
    exact List.map_eq_nil_iff.mp (Option.some.inj hread).symm
  · intro h
    rw [← drawnSegments_eq, List.filter_eq_nil_iff] at h
    rw [pathData, draw_of_not_finite h]
    rfl

lemma pathLine_of_not_drawn (h : drawnSegments segments m = []) : pathLine segments m = [] := by
  rw [pathLine, pathData_eq_nil.mpr h]
  rfl

lemma pathLine_of_drawn (h : drawnSegments segments m ≠ []) :
    ∃ rest, pathLine segments m = ["  <path".toList ++ attr "d" (pathData segments m) ++ rest] := by
  have hdata : ¬ (pathData segments m).isEmpty := fun he => h (pathData_eq_nil.mp (List.isEmpty_iff.mp he))
  refine ⟨attr "fill" "none".toList ++ (attr "stroke" m.color ++
    ((if m.isDashed then attr "stroke-dasharray" "5 5".toList else []) ++ "/>".toList)), ?_⟩
  rw [pathLine]
  dsimp only
  rw [if_neg hdata]
  simp only [List.append_assoc]

def Marker.IsPlain (k : Marker) : Prop := '\n' ∉ k.label ∧ ∀ b ∈ k.badge, '\n' ∉ b

lemma newline_not_mem_fixed (x : Float) (places : ℕ) : '\n' ∉ fixed x places := fun h =>
  (printed_fixed x places _ h).not_blank.1 (by decide)

lemma newline_not_mem_pathData (segments : List Segment) (m : Motion) : '\n' ∉ pathData segments m := by
  intro h
  rcases mem_join h with h | ⟨w, hw, h⟩
  · revert h
    decide
  · obtain ⟨c, -, hw⟩ := List.mem_flatMap.mp hw
    exact (isWord_of_mem_words hw).2 _ h (by decide)

lemma newline_not_mem_pathLine {l : Text} (h : l ∈ pathLine segments m) : '\n' ∉ l := by
  rw [pathLine] at h
  dsimp only at h
  split at h
  · cases h
  · rw [List.mem_singleton] at h
    subst h
    have hdata := newline_not_mem_pathData segments m
    cases m <;> simp [attr, hdata, Motion.color, Motion.isDashed]

def isPathLine (l : Text) : Bool := "  <path".toList.isPrefixOf l

lemma isPathLine_of_mem_pathLine {l : Text} (h : l ∈ pathLine segments m) : isPathLine l := by
  by_cases hd : drawnSegments segments m = []
  · rw [pathLine_of_not_drawn hd] at h
    cases h
  · obtain ⟨rest, hl⟩ := pathLine_of_drawn hd
    rw [hl, List.mem_singleton, List.append_assoc] at h
    rw [isPathLine, List.isPrefixOf_iff_prefix, h]
    exact List.prefix_append ..

lemma plain_of_mem_markerLines {k : Marker} (hk : k.IsPlain) {l : Text} (h : l ∈ markerLines k) :
    '\n' ∉ l ∧ ¬ isPathLine l := by
  have hfixed := newline_not_mem_fixed
  obtain ⟨hlabel, hbadge⟩ := hk
  simp only [markerLines, List.mem_append, List.mem_singleton, Option.mem_toList,
    Option.map_eq_some_iff] at h
  rcases h with ((rfl | h) | rfl) | ⟨b, hb, rfl⟩
  · split_ifs <;> simp [attr, isPathLine, hfixed]
  · split_ifs at h
    · rw [List.mem_singleton] at h
      subst h
      simp [attr, isPathLine, hfixed]
    · cases h
  · simp [attr, isPathLine, hfixed, hlabel]
  · simp [attr, isPathLine, hfixed, hbadge b hb]

lemma svg_eq (p : Projection) (width height : Float) : ∃ head, '\n' ∉ head ∧ ¬ isPathLine head ∧
    svg p width height = unlines ([head] ++ (pathLine p.segments .rapid ++ pathLine p.segments .linear ++
      p.markers.flatMap markerLines) ++ ["</svg>".toList]) ++ ['\n'] := by
  have hfixed := newline_not_mem_fixed
  refine ⟨_, ?_, ?_, rfl⟩
  · simp [attr, hfixed]
  · simp [isPathLine]

lemma lines_svg {p : Projection} (hp : ∀ k ∈ p.markers, k.IsPlain) (width height : Float) :
    ∃ head, ¬ isPathLine head ∧ lines (svg p width height) =
      [head] ++ (pathLine p.segments .rapid ++ pathLine p.segments .linear ++ p.markers.flatMap markerLines) ++
        ["</svg>".toList, []] := by
  obtain ⟨head, hplain, hhead, hsvg⟩ := svg_eq p width height
  refine ⟨head, hhead, ?_⟩
  rw [hsvg, unlines_newline (by simp), lines_unlines (by simp), List.append_assoc _ ["</svg>".toList]]
  · rfl
  · intro l hl
    simp only [List.mem_append, List.mem_singleton, List.mem_flatMap] at hl
    rcases hl with ((rfl | (hl | hl) | ⟨k, hk, hl⟩) | rfl) | rfl
    · exact hplain
    · exact newline_not_mem_pathLine hl
    · exact newline_not_mem_pathLine hl
    · exact (plain_of_mem_markerLines (hp k hk) hl).1
    · decide
    · exact List.not_mem_nil

lemma pathLines_svg {p : Projection} (hp : ∀ k ∈ p.markers, k.IsPlain) (width height : Float) :
    (lines (svg p width height)).filter isPathLine = pathLine p.segments .rapid ++ pathLine p.segments .linear := by
  obtain ⟨head, hhead, hlines⟩ := lines_svg hp width height
  have hpath : ∀ m, (pathLine p.segments m).filter isPathLine = pathLine p.segments m := fun m =>
    List.filter_eq_self.mpr fun l hl => isPathLine_of_mem_pathLine hl
  have hmarkers : (p.markers.flatMap markerLines).filter isPathLine = [] := by
    refine List.filter_eq_nil_iff.mpr fun l hl => ?_
    obtain ⟨k, hk, hl⟩ := List.mem_flatMap.mp hl
    exact (plain_of_mem_markerLines (hp k hk) hl).2
  have hfirst : [head].filter isPathLine = [] := List.filter_cons_of_neg hhead
  have hend : ["</svg>".toList, []].filter isPathLine = [] := by simp [isPathLine]
  simp only [hlines, List.filter_append, hfirst, hpath, hmarkers, hend, List.nil_append, List.append_nil]

theorem isPlain_of_mem_markers {t : Trace} {f : Transform} {k : Marker} (h : k ∈ (project t f).markers) :
    k.IsPlain := by
  obtain ⟨⟨c, i⟩, -, hk⟩ := List.mem_filterMap.mp h
  obtain ⟨d, -, rfl⟩ := Option.map_eq_some_iff.mp hk
  have hnumber : ∀ n, '\n' ∉ Text.ofNat n := fun n hn => (printed_ofNat n _ hn).not_blank.1 (by decide)
  refine ⟨hnumber _, fun b hb => ?_⟩
  simp only [Cluster.badge?, Option.mem_def] at hb
  split_ifs at hb
  cases hb
  simp [hnumber]

/-- Read with a pen, the path data of a kind of edges is a stroke for each of them with finite ends, in order and as it
is printed, and no other; a document has the path if there is such an edge, and none if not. -/
theorem paths_draw_segments (p : Projection) (m : Motion) :
    let drawn := drawnSegments p.segments m
    Stroke.read? none (words (pathData p.segments m)) = some (drawn.map Stroke.ofSegment) ∧
    (∀ s ∈ drawn, ∀ q ∈ [s.start, s.finish], decimalValue? (fixed q.x 2) = some q.written.1 ∧
      decimalValue? (fixed q.y 2) = some q.written.2) ∧
    (drawn = [] → pathLine p.segments m = []) ∧
    (drawn ≠ [] → ∃ rest, pathLine p.segments m = ["  <path".toList ++ attr "d" (pathData p.segments m) ++ rest]) ∧
    ∀ width height, (∀ k ∈ p.markers, k.IsPlain) → (lines (svg p width height)).filter isPathLine =
      pathLine p.segments .rapid ++ pathLine p.segments .linear := by
  refine ⟨read?_pathData .., fun s hs q hq => ?_, pathLine_of_not_drawn, pathLine_of_drawn,
    fun width height hp => pathLines_svg hp width height⟩
  have hfinite : s.start.isFinite ∧ s.finish.isFinite := by
    have := (List.mem_filter.mp hs).2
    simp_all [Segment.isFinite]
  have hq : q.isFinite := by
    rcases List.mem_pair.mp hq with rfl | rfl
    · exact hfinite.1
    · exact hfinite.2
  obtain ⟨hx, hy⟩ := isFinite_coordinates hq
  exact ⟨decimalValue?_fixed hx, decimalValue?_fixed hy⟩

end Toolpath.Scene
