import Toolpath.Program.Check
import Toolpath.Proofs.Number.Casing
import Toolpath.Proofs.Scene.Cutoff
import Toolpath.Proofs.Table.LastFeed

/-!
Only the words before the comment count, and not their case. Lines with the same code are read alike, and
programs whose lines are read alike have the same trace, rows, check and scene.
-/

namespace Toolpath.Program

open Text Table

def code (x : Text) : List Text := (codeWords x).map (·.map upperAscii)

lemma upperChar_upperAscii (c : Char) : upperChar (upperAscii c) = upperChar c :=
  upperAscii_cases (P := fun c d => upperChar d = upperChar c) (fun _ => rfl) (by decide +kernel) c

lemma upper_map_upperAscii (w : Text) : upper (w.map upperAscii) = upper w := by
  simp only [upper, List.flatMap_map, upperChar_upperAscii]

lemma beginsWith_map (a : Char) (w : Text) : beginsWith a (w.map upperAscii) = beginsWith a w := by
  cases w <;> simp [beginsWith]

lemma parseNumber_map (w : Text) : Number.parseNumber (w.map upperAscii) = Number.parseNumber w := by
  rw [Number.map_upperAscii_eq_flatMap, Number.parseNumber_flatMap casing_upperAscii]

lemma mnemonic?_eq_code (x : Text) : mnemonic? x = (code x).head?.map upper := by
  cases h : codeWords x <;> simp [mnemonic?, code, h, upper_map_upperAscii]

lemma lastWord?_eq_code (a : Char) (x : Text) :
    lastWord? a x = ((code x).tail.reverse.find? (beginsWith a)).map fun w => Number.parseNumber w.tail := by
  have hb : beginsWith a ∘ (·.map upperAscii) = beginsWith a := funext (beginsWith_map a)
  rw [lastWord?, code, ← List.map_tail, ← List.map_reverse, List.find?_map, hb, Option.map_map]
  congr 1
  funext w
  rw [Function.comp_apply, ← List.map_tail, parseNumber_map]

def reading? (x : Text) : Option (Motion × AxisWords) :=
  (motionOf? x).map fun m => (m, ⟨lastWord? 'X' x, lastWord? 'Y' x, lastWord? 'Z' x, lastWord? 'F' x⟩)

lemma reading?_eq_code {x y : Text} (h : code x = code y) : reading? x = reading? y := by
  simp only [reading?, motionOf?, mnemonic?_eq_code, lastWord?_eq_code, h]

lemma step_read (t : Tracker) (l : Nat) (x : Text) : t.step ⟨l, x, .read x⟩ =
    match reading? x with
    | none => (none, t)
    | some (m, w) =>
      if w.hasAxis then
        (some ⟨t.count, l, w.apply t.position, m⟩, ⟨w.apply t.position, t.count + 1⟩)
      else (none, t) := by
  simp only [Tracker.step, Statement.kind_mk, motion?_read, reading?]
  cases hm : motionOf? x with
  | none => rfl
  | some m => simp [axisWords_read hm]

lemma feedAfter_eq_reading (feed : Option Float) (l : Nat) (x : Text) :
    feedAfter feed ⟨l, x, .read x⟩ = ((reading? x).bind (·.2.feed)).or feed := by
  rw [feedAfter_read, reading?]
  cases motionOf? x <;> rfl

lemma rowsFrom_congr {xs ys : List Text} (h : xs.map reading? = ys.map reading?) (t : Tracker)
    (feed : Option Float) (k : Nat) :
    rowsFrom t feed (Statement.ofLines (xs.zipIdx k)) = rowsFrom t feed (Statement.ofLines (ys.zipIdx k)) := by
  induction xs generalizing ys t feed k with
  | nil =>
    rw [List.map_eq_nil_iff.mp h.symm]
  | cons x xs ih =>
    obtain ⟨y, ys, rfl, hy, hys⟩ := List.map_eq_cons_iff.mp h.symm
    have hstep : t.step ⟨k, x, .read x⟩ = t.step ⟨k, y, .read y⟩ := by rw [step_read, step_read, hy]
    have hfeed : feedAfter feed ⟨k, x, .read x⟩ = feedAfter feed ⟨k, y, .read y⟩ := by
      rw [feedAfter_eq_reading, feedAfter_eq_reading, hy]
    rw [List.zipIdx_cons, List.zipIdx_cons, rowsFrom_cons, rowsFrom_cons, hstep, hfeed, ih hys.symm]

lemma asksRelative_eq_of_code {x y : Text} (h : code x = code y) : asksRelative x = asksRelative y := by
  simp only [asksRelative, mnemonic?_eq_code, h]

lemma map_eq_of_code {α : Type} {f : Text → α} (hf : ∀ {x y}, code x = code y → f x = f y) {xs ys : List Text}
    (h : xs.map code = ys.map code) : xs.map f = ys.map f := by
  induction xs generalizing ys with
  | nil => rw [List.map_eq_nil_iff.mp h.symm]
  | cons x xs ih =>
    obtain ⟨y, ys, rfl, hy, hys⟩ := List.map_eq_cons_iff.mp h.symm
    rw [List.map_cons, List.map_cons, hf hy, ih hys.symm]

lemma relativeLine_of_code {t u : Text} (h : (lines t).map code = (lines u).map code) :
    (trace t).relativeLine = (trace u).relativeLine := by
  have hfind : ∀ xs : List Text, xs.findIdx? asksRelative = (xs.map asksRelative).findIdx? id := fun xs => by
    rw [List.findIdx?_map]
    rfl
  rw [relativeLine_trace, relativeLine_trace, hfind, hfind, map_eq_of_code asksRelative_eq_of_code h]

/-- Texts with the same code on each line are the same program. -/
theorem same_program_of_code {t u : Text} (h : (lines t).map code = (lines u).map code) :
    trace t = trace u ∧ toRows t = toRows u ∧ findDuplicates t = findDuplicates u ∧
      ∀ f : Scene.Transform, Scene.project (trace t) f = Scene.project (trace u) f := by
  have hrows : toRows t = toRows u := rowsFrom_congr (map_eq_of_code reading?_eq_code h) .start none 0
  have htrace : trace t = trace u := trace_eq_of_rows hrows (relativeLine_of_code h)
  refine ⟨htrace, hrows, ?_, fun f => by rw [htrace]⟩
  rw [findDuplicates_eq, htrace, findDuplicates_eq]

theorem same_program_of_layout_and_comments :
    let t := "G1 X1.5E1 F20 ; G91\n;start\nG91\ng0 y2".toList
    let u := "\t g1  x1.5e1 f20;G0 X3\r\n\r\ng91 \r\n  G0\tY2 ; y3".toList
    (lines t).map code = (lines u).map code ∧ trace t = trace u ∧ toRows t = toRows u ∧
      findDuplicates t = findDuplicates u ∧ Scene.project (trace t) .default = Scene.project (trace u) .default := by
  intro t u
  have h : (lines t).map code = (lines u).map code := by decide +kernel
  obtain ⟨htrace, hrows, hcheck, hscene⟩ := same_program_of_code h
  exact ⟨h, htrace, hrows, hcheck, hscene _⟩

end Toolpath.Program
