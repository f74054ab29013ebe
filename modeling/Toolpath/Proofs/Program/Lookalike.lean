import Toolpath.Program.Layout
import Toolpath.Proofs.Program.CodeOnly
import Toolpath.Proofs.Text.CapitalTwice

/-!
What the normal layout does to a line. Its words get their capital forms, by which a word that begins with one
of a few letters beyond ASCII gets to be a word for an address, without a number. Such a word is a look-alike;
where none is the last of its kind, the line is read as before.
-/

namespace Toolpath.Text

lemma exists_upperChar_eq_cons (c : Char) : ∃ d r, upperChar c = d :: r := by
  obtain ⟨d, r, h, -⟩ := casing_upperChar.exists_cons c
  exact ⟨d, r, h⟩

lemma not_isBlank_of_mem_upperChar {c d : Char} (hc : ¬ isBlank c) (h : d ∈ upperChar c) : ¬ isBlank d := by
  rcases upperChar_cases c with hu | ⟨first, rest, hu⟩
  · rw [hu, List.mem_singleton] at h
    rwa [h, (alike_upperAscii c).blank]
  · have hd := not_isNumeral_of_isCapital (hu.capitals d (hu.upperChar_eq ▸ h))
    simp only [isNumeral, Bool.or_eq_true, not_or] at hd
    exact hd.1.2

lemma IsWord.upper {w : Text} (h : IsWord w) : IsWord (Text.upper w) := by
  refine ⟨fun hn => ?_, fun d hd => ?_⟩
  · cases w with
    | nil => exact h.1 rfl
    | cons c w =>
      obtain ⟨d, r, hd⟩ := exists_upperChar_eq_cons c
      simp [Text.upper, hd] at hn
  · obtain ⟨c, hc, hd⟩ := List.mem_flatMap.mp hd
    exact not_isBlank_of_mem_upperChar (h.2 c hc) hd

lemma semicolon_mem_upper (w : Text) : ';' ∈ upper w ↔ ';' ∈ w := by
  have hchar : ∀ c, ';' ∈ upperChar c ↔ c = ';' := fun c => by
    rcases upperChar_cases c with hu | ⟨first, rest, hu⟩
    · rw [hu, List.mem_singleton, eq_comm]
      exact upperAscii_cases (P := fun c d => d = ';' ↔ c = ';') (fun _ => Iff.rfl) (by decide +kernel) c
    · constructor
      · intro h
        exact absurd (hu.capitals ';' (hu.upperChar_eq ▸ h)) (by decide)
      · rintro rfl
        exact absurd hu.beyond (by decide)
  simp [upper, hchar]

lemma upper_eq_iff {u : Text} (hu : ∀ c ∈ u, c.toNat < 128 ∧ c ∉ strays) (w : Text) :
    upper w = u ↔ w.map upperAscii = u := by
  induction w generalizing u with
  | nil => rfl
  | cons c w ih =>
    rw [upper, List.flatMap_cons, ← upper, List.map_cons]
    rcases upperChar_cases c with hc | ⟨first, rest, hc⟩
    · cases u with
      | nil => simp [hc]
      | cons d u =>
        rw [hc, List.singleton_append, List.cons.injEq, List.cons.injEq, ih fun e he => hu e (List.mem_cons_of_mem _ he)]
    · rw [hc.upperChar_eq, upperAscii_of_beyond hc.beyond]
      constructor
      · rintro rfl
        obtain ⟨hlt, hs⟩ := hu first List.mem_cons_self
        rcases beyond_or_stray (hc.capitals first List.mem_cons_self) with h | h
        · exact absurd hlt (Nat.not_lt.mpr h)
        · exact absurd h hs
      · rintro rfl
        exact absurd (hu c List.mem_cons_self).1 (Nat.not_lt.mpr hc.beyond)

def looksLike (a : Char) (w : Text) : Bool := w.head?.any fun c => strayHeads.contains (c.toNat, a)

end Toolpath.Text

namespace Toolpath.Number

open Text

lemma parseNumber_of_not_isNumeral {c : Char} (h : ¬ isNumeral c) (r : Text) : parseNumber (c :: r) = nan := by
  obtain ⟨hd, hb, hm⟩ := not_isNumeral_iff.mp h
  have hstart : trimStart (c :: r) = c :: r := by simp [trimStart, hb]
  have hsign : cutSign (c :: r) = ([], c :: r) := by
    rw [cutSign_eq]
    simp_all
  have hmantissa : cutMantissa? (c :: r) = none := by
    rw [cutMantissa?_eq]
    simp_all
  rw [parseNumber, hstart, numberPrefix?, hsign]
  simp [hmantissa]

end Toolpath.Number

namespace Toolpath.Program

open Text

lemma upperChar_of_stray {c a : Char} (h : (c.toNat, a) ∈ strayHeads) : (upperChar c).head? = some a ∧
    (a ∈ addresses → (upperChar c).tail.head?.any fun d => !isNumeral d) := by
  have hall : ∀ e ∈ strayHeads, (upperChar (Char.ofNat e.1)).head? = some e.2 ∧
      (e.2 ∈ addresses → (upperChar (Char.ofNat e.1)).tail.head?.any fun d => !isNumeral d) := by decide +kernel
  have hc := hall _ h
  rwa [Char.ofNat_toNat] at hc

lemma address_plain {a : Char} (ha : a ∈ addresses) : a.toNat < 128 ∧ upperAscii a = a := by
  have hall : ∀ a ∈ addresses, a.toNat < 128 ∧ upperAscii a = a := List.all_iff_forall_prop.mp (by decide)
  exact hall a ha

lemma beginsWith_upper {a : Char} (ha : a ∈ addresses) (w : Text) :
    beginsWith a (upper w) = (beginsWith a w || looksLike a w) := by
  obtain ⟨hlt, hself⟩ := address_plain ha
  cases w with
  | nil => rfl
  | cons c w =>
    rw [upper, List.flatMap_cons, ← upper, Bool.eq_iff_iff]
    simp only [beginsWith, looksLike, List.head?_cons, Option.map_some, Option.any_some, Bool.or_eq_true,
      decide_eq_true_eq, Option.some.injEq, List.contains_iff_mem]
    by_cases hs : (c.toNat, a) ∈ strayHeads
    · simp [(upperChar_of_stray hs).1, hs, hself]
    · rcases upperChar_cases c with hc | ⟨first, rest, hc⟩
      · simp [hc, hs]
      · have hfirst : upperAscii first ≠ a := by
          rw [upperAscii_of_isCapital (hc.capitals first List.mem_cons_self)]
          rintro rfl
          rcases hc.first_beyond with h | h
          · exact absurd hlt (Nat.not_lt.mpr h)
          · exact hs h
        have hbegin : upperAscii c ≠ a := by
          rw [upperAscii_of_beyond hc.beyond]
          rintro rfl
          exact absurd hlt (Nat.not_lt.mpr hc.beyond)
        simp [hc.upperChar_eq, hs, hfirst, hbegin]

lemma parseNumber_tail_upper {a : Char} (ha : a ∈ addresses) {w : Text} (h : beginsWith a (upper w)) :
    Number.parseNumber (upper w).tail = if looksLike a w then Number.nan else Number.parseNumber w.tail := by
  have hb := beginsWith_upper ha w ▸ h
  cases w with
  | nil => cases h
  | cons c w =>
    rw [upper, List.flatMap_cons, ← upper]
    by_cases hs : (c.toNat, a) ∈ strayHeads
    · have hu := (upperChar_of_stray hs).2 ha
      obtain ⟨d, r, hd⟩ := exists_upperChar_eq_cons c
      rw [hd, List.tail_cons] at hu
      cases r with
      | nil => cases hu
      | cons e r =>
        have he : ¬ isNumeral e := by simpa using hu
        have hl : looksLike a (c :: w) := by simpa [looksLike] using hs
        rw [if_pos hl, hd]
        exact Number.parseNumber_of_not_isNumeral he _
    · have hl : looksLike a (c :: w) = false := by simpa [looksLike] using hs
      rw [hl, Bool.or_false] at hb
      have hc : upperAscii c = a := by simpa [beginsWith] using hb
      have hlt : c.toNat < 128 := by
        by_contra hge
        rw [upperAscii_of_beyond (Nat.not_lt.mp hge)] at hc
        exact hge (hc ▸ (address_plain ha).1)
      rw [upperChar_of_ascii hlt, hl]
      exact Number.parseNumber_flatMap casing_upperChar w

lemma codeWords_trim (x : Text) : codeWords (trim x) = codeWords x := by
  rw [codeWords, trim, words_takeWhile_trimEnd, words_takeWhile_trimStart, codeWords]

lemma mem_codeWords {w x : Text} (h : w ∈ codeWords x) : IsWord w ∧ ';' ∉ w := by
  obtain ⟨hw, hmem⟩ := mem_words h
  exact ⟨hw, fun hs => by simpa using List.mem_takeWhile_imp (hmem _ hs)⟩

lemma comment_of_splitComment {x c : Text} (h : (splitComment x).2 = some c) : (∃ r, c = ';' :: r) ∧ c <:+ x := by
  have hsuffix := List.dropWhile_suffix (· ≠ ';') (l := x)
  have hne := List.head?_dropWhile_not (· ≠ ';') x
  rw [splitComment, List.span_eq_takeWhile_dropWhile] at h
  cases hd : x.dropWhile (· ≠ ';') with
  | nil =>
    rw [hd] at h
    cases h
  | cons d r =>
    rw [hd] at h hne hsuffix
    cases h
    exact ⟨⟨r, by simpa using hne⟩, hsuffix⟩

lemma codeWords_join_append {ws : List Text} (h : ∀ w ∈ ws, IsWord w ∧ ';' ∉ w) {b : Text}
    (hb : ∀ c ∈ b.takeWhile (· ≠ ';'), isBlank c) : codeWords (join [' '] ws ++ b) = ws := by
  have hcode : ∀ c ∈ join [' '] ws, decide (c ≠ ';') = true := by
    intro c hc
    rw [decide_eq_true_eq]
    rintro rfl
    rcases mem_join hc with hc | ⟨w, hw, hc⟩
    · revert hc
      decide
    · exact (h w hw).2 hc
  rw [codeWords, List.takeWhile_append_of_pos hcode, words_append_blanks hb, words_join fun w hw => (h w hw).1]

lemma codeWords_layoutLine (x : Text) : codeWords (layoutLine x) = (codeWords x).map upper := by
  have hws : ∀ w ∈ (codeWords x).map upper, IsWord w ∧ ';' ∉ w := by
    intro u hu
    obtain ⟨w, hw, rfl⟩ := List.mem_map.mp hu
    exact ⟨(mem_codeWords hw).1.upper, mt (semicolon_mem_upper w).mp (mem_codeWords hw).2⟩
  rw [layoutLine]
  dsimp only
  split
  · rename_i hi
    rw [codeWords_of_isInert hi, ← codeWords_trim, codeWords_of_isInert hi]
    rfl
  · rw [words_splitComment]
    cases hc : (splitComment (trim x)).2 with
    | none => simpa using codeWords_join_append hws (b := []) (by simp)
    | some c =>
      obtain ⟨⟨r, rfl⟩, -⟩ := comment_of_splitComment hc
      dsimp only
      split
      · rename_i he
        have hnil := codeWords_join_append hws (b := ';' :: r) (by simp)
        rwa [List.isEmpty_iff.mp he] at hnil
      · exact codeWords_join_append hws (by simp; decide)

def masked (a : Char) (x : Text) : Bool :=
  ((codeWords x).tail.reverse.find? fun w => beginsWith a w || looksLike a w).any (looksLike a)

lemma exists_mem_of_masked {a : Char} {x : Text} (h : masked a x) : ∃ c ∈ x, (c.toNat, a) ∈ strayHeads := by
  obtain ⟨w, hw, hl⟩ := (Option.any_eq_true _ _).mp h
  have hmem : w ∈ codeWords x := List.mem_of_mem_tail (List.mem_reverse.mp (List.mem_of_find?_eq_some hw))
  obtain ⟨c, hc, hs⟩ := (Option.any_eq_true _ _).mp hl
  refine ⟨c, ?_, List.contains_iff_mem.mp hs⟩
  exact (List.takeWhile_subset _) ((mem_words hmem).2 c (List.mem_of_mem_head? hc))

lemma find?_of_or {p q : Text → Bool} {ws : List Text} {w : Text}
    (h : ws.find? (fun v => p v || q v) = some w) (hq : ¬ q w) : ws.find? p = some w := by
  obtain ⟨hp, us, vs, rfl, hus⟩ := List.find?_eq_some_iff_append.mp h
  refine List.find?_eq_some_iff_append.mpr ⟨by simpa [hq] using hp, us, vs, rfl, fun v hv => ?_⟩
  have hv := hus v hv
  rw [Bool.not_eq_true', Bool.or_eq_false_iff] at hv
  rw [hv.1, Bool.not_false]

lemma lastWord?_layoutLine {a : Char} (ha : a ∈ addresses) (x : Text) :
    lastWord? a (layoutLine x) = if masked a x then some Number.nan else lastWord? a x := by
  have hb : beginsWith a ∘ upper = fun w => beginsWith a w || looksLike a w := funext (beginsWith_upper ha)
  rw [lastWord?, codeWords_layoutLine, ← List.map_tail, ← List.map_reverse, List.find?_map, hb, Option.map_map,
    masked, lastWord?]
  generalize (codeWords x).tail.reverse = ws
  cases hw : ws.find? fun w => beginsWith a w || looksLike a w with
  | none =>
    have hnone : ws.find? (beginsWith a) = none := by
      rw [List.find?_eq_none] at hw ⊢
      exact fun v hv h => hw v hv (by simp [h])
    simp [hnone]
  | some w =>
    have hup : beginsWith a (upper w) := by
      have hp := List.find?_some hw
      rwa [beginsWith_upper ha]
    simp only [Option.map_some, Function.comp_apply, parseNumber_tail_upper ha hup, Option.any_some]
    split
    · rfl
    · rename_i hl
      rw [find?_of_or hw hl]
      rfl

@[simp] lemma mnemonic?_layoutLine (x : Text) : mnemonic? (layoutLine x) = mnemonic? x := by
  rw [mnemonic?, codeWords_layoutLine, mnemonic?]
  cases codeWords x with
  | nil => rfl
  | cons w ws => simp

@[simp] lemma motionOf?_layoutLine (x : Text) : motionOf? (layoutLine x) = motionOf? x := by
  rw [motionOf?, mnemonic?_layoutLine, motionOf?]

lemma asksRelative_layoutLine (x : Text) : asksRelative (layoutLine x) = asksRelative x := by
  rw [asksRelative, mnemonic?_layoutLine, asksRelative]

lemma not_masked {a : Char} (ha : a ∈ ['X', 'Z']) (x : Text) : masked a x = false := by
  have hall : ∀ a ∈ ['X', 'Z'], ∀ e ∈ strayHeads, e.2 ≠ a := List.all_iff_forall_prop.mp (by decide)
  rw [Bool.eq_false_iff]
  intro h
  obtain ⟨c, -, hs⟩ := exists_mem_of_masked h
  exact hall a ha _ hs rfl

lemma moves_layoutLine (x : Text) : moves (layoutLine x) = (moves x || ((motionOf? x).isSome && masked 'Y' x)) := by
  rw [moves_eq, moves_eq, motionOf?_layoutLine, lastWord?_layoutLine (by decide), lastWord?_layoutLine (by decide),
    lastWord?_layoutLine (by decide), not_masked (a := 'X') (by decide), not_masked (a := 'Z') (by decide)]
  cases (motionOf? x).isSome <;> cases masked 'Y' x <;> simp

lemma newline_not_mem_layoutLine {x : Text} (h : '\n' ∉ x) : '\n' ∉ layoutLine x := by
  have htrim : '\n' ∉ trim x := mt mem_of_mem_trim h
  have hcode : '\n' ∉ join [' '] ((codeWords x).map upper) := by
    intro hmem
    rcases mem_join hmem with hmem | ⟨u, hu, hmem⟩
    · revert hmem
      decide
    · obtain ⟨w, hw, rfl⟩ := List.mem_map.mp hu
      exact (mem_codeWords hw).1.upper.2 _ hmem (by decide)
  rw [layoutLine]
  dsimp only
  split
  · exact htrim
  · rw [words_splitComment]
    cases hc : (splitComment (trim x)).2 with
    | none => exact hcode
    | some c =>
      have hcomment : '\n' ∉ c := fun hmem => htrim ((comment_of_splitComment hc).2.subset hmem)
      dsimp only
      split
      · exact hcomment
      · simp [hcode, hcomment]

lemma lines_layout (t : Text) : lines (layout t) = (lines t).map layoutLine := by
  refine lines_unlines (by simpa using lines_ne_nil t) fun l hl => ?_
  obtain ⟨x, hx, rfl⟩ := List.mem_map.mp hl
  exact newline_not_mem_layoutLine (newline_not_mem_lines hx)

end Toolpath.Program
