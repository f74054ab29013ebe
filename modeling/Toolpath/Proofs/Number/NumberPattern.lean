import Toolpath.Proofs.Number.Numeral
import Toolpath.Proofs.Pattern.Preferred
import Toolpath.Proofs.Text.Members

/-!
The pattern of numbers. Its preferred match, greedy part by greedy part and with the first alternative before the
second, is the longest start of a text that writes a number.
-/

namespace Toolpath.Number

open Pattern Text

def numberText : Text := "^[+-]?(\\d+\\.?\\d*|\\.\\d+)([eE][+-]?\\d+)?".toList

def signPattern : Pattern := optional (.chars (.ofChars ['+', '-']))

def pointPattern : Pattern := .chars (.ofChars ['.'])

def digitsPattern (digits : Ranges) : Pattern := .rep (.chars digits) 1 none true

def mantissaPattern (digits : Ranges) : Pattern :=
  .alt (.seq (.seq (digitsPattern digits) (optional pointPattern)) (.rep (.chars digits) 0 none true))
    (.seq pointPattern (digitsPattern digits))

def exponentPattern (digits : Ranges) : Pattern :=
  .seq (.seq (.chars (.ofChars ['e', 'E'])) signPattern) (digitsPattern digits)

def numberPatternOf (digits : Ranges) : Pattern :=
  .seq (.seq (.seq (.look .textStart) signPattern) (.group true (mantissaPattern digits)))
    (optional (.group true (exponentPattern digits)))

def numberPattern : Pattern := numberPatternOf (Category.ranges [.nd])

section

variable {c d : Cursor} {p q : Pattern} {k : Ranges}

lemma contains_signs (x : Char) : (Ranges.ofChars ['+', '-']).contains x ↔ x ∈ ['+', '-'] :=
  Ranges.contains_iff_mem (by decide) (by decide) x

lemma contains_point (x : Char) : (Ranges.ofChars ['.']).contains x ↔ x ∈ ['.'] :=
  Ranges.contains_iff_mem (by decide) (by decide) x

lemma contains_letters (x : Char) : (Ranges.ofChars ['e', 'E']).contains x ↔ x ∈ ['E', 'e'] :=
  Ranges.contains_iff_mem (by decide) (by decide) x

lemma ends_signPattern (c : Cursor) :
    signPattern.ends c = if (cutSign c.rest).1 = [] then [c] else [c.past (cutSign c.rest).1, c] := by
  rw [signPattern, ends_optional_chars]
  cases hr : c.rest with
  | nil => simp [ends_chars_nil hr, cutSign]
  | cons x r =>
    rw [ends_chars_cons hr, cutSign_eq]
    by_cases hp : x = '+'
    · simp [contains_signs, hp]
    · by_cases hm : x = '-' <;> simp [contains_signs, hp, hm]

lemma preferred_signed (hp : p.ends c = [d]) (hq : ∀ e : Cursor, (cutSign e.rest).1 ≠ [] → q.preferred e = none) :
    (seq (seq p signPattern) q).preferred c = q.preferred (d.past (cutSign d.rest).1) := by
  have hends : (seq p signPattern).ends c = signPattern.ends d := by
    have hnodup : ((signPattern.ends d).map (·.index)).Nodup := by
      rw [ends_signPattern]
      split_ifs with h
      · simp
      · simp [Cursor.past, h]
    rw [ends, andThen, hp, List.flatMap_singleton, distinct_eq_self hnodup]
  rw [preferred_seq, hends, ends_signPattern]
  split_ifs with h
  · rw [h, List.findSome?_singleton, Cursor.past_nil]
  · rw [List.findSome?_cons, List.findSome?_singleton, hq d h]
    cases q.preferred (d.past (cutSign d.rest).1) <;> rfl

lemma head_of_cutSign {t : Text} (h : (cutSign t).1 ≠ []) : t.head? = some '+' ∨ t.head? = some '-' := by
  rw [cutSign_eq] at h
  split_ifs at h with hp hm
  · exact .inl hp
  · exact .inr hm
  · exact absurd rfl h

lemma takeWhile_of_sign {t : Text} (h : (cutSign t).1 ≠ []) : t.takeWhile isDigit = [] := by
  rcases head_of_cutSign h with hx | hx
  all_goals
    obtain ⟨r, rfl⟩ := List.head?_eq_some_iff.mp hx
    exact List.takeWhile_cons_of_neg (by decide)

lemma takeWhile_dropWhile (f : Char → Bool) (t : Text) : (t.dropWhile f).takeWhile f = [] := by
  have hhead := List.head?_dropWhile_not f t
  cases hr : t.dropWhile f with
  | nil => rfl
  | cons x r =>
    rw [hr] at hhead
    exact List.takeWhile_cons_of_neg (by simpa using hhead)

lemma cutMantissa?_of_sign {t : Text} (h : (cutSign t).1 ≠ []) : cutMantissa? t = none := by
  have hw := takeWhile_of_sign h
  have ht := List.takeWhile_append_dropWhile (p := isDigit) (l := t)
  rw [hw, List.nil_append] at ht
  have hdot : t.head? ≠ some '.' := by
    rcases head_of_cutSign h with hx | hx <;> rw [hx] <;> decide
  rw [cutMantissa?_eq]
  dsimp only
  rw [ht, if_neg hdot, if_pos hw]

lemma ends_pointPattern (c : Cursor) :
    pointPattern.ends c = if c.rest.head? = some '.' then [c.past ['.']] else [] := by
  rw [pointPattern]
  cases hr : c.rest with
  | nil => simp [ends_chars_nil hr]
  | cons x r =>
    rw [ends_chars_cons hr]
    by_cases hdot : x = '.' <;> simp [contains_point, hdot]

lemma preferred_optional_point (c : Cursor) :
    (optional pointPattern).preferred c = some (if c.rest.head? = some '.' then c.past ['.'] else c) := by
  rw [preferred_optional, preferred, ends_pointPattern]
  split_ifs <;> rfl

variable (hk : ∀ x, k.contains x = isDigit x)

include hk

lemma run_eq (c : Cursor) : c.run k = c.rest.takeWhile isDigit := by
  rw [Cursor.run, funext hk]

lemma preferred_digits (c : Cursor) : (digitsPattern k).preferred c =
    if c.rest.takeWhile isDigit = [] then none else some (c.past (c.rest.takeWhile isDigit)) := by
  rw [digitsPattern, preferred_plus, run_eq hk]

lemma preferred_whole (c : Cursor) :
    (seq (seq (digitsPattern k) (optional pointPattern)) (rep (chars k) 0 none true)).preferred c =
      let w := c.rest.takeWhile isDigit
      let r := c.rest.dropWhile isDigit
      if w = [] then none
      else if r.head? = some '.' then some (c.past (w ++ '.' :: r.tail.takeWhile isDigit)) else some (c.past w) := by
  have hdigits := preferred_digits hk c
  have hrest : (c.past (c.rest.takeWhile isDigit)).rest = c.rest.dropWhile isDigit :=
    Cursor.rest_past List.takeWhile_append_dropWhile.symm
  dsimp only
  split_ifs at hdigits ⊢ with hw hdot
  · exact preferred_seq_of_none (preferred_seq_of_none hdigits)
  all_goals
    have hpoint := preferred_optional_point (c.past (c.rest.takeWhile isDigit))
    have hwhole := preferred_seq_of_some hdigits hpoint
    rw [hrest] at hwhole
  · obtain ⟨u, hu⟩ := List.head?_eq_some_iff.mp hdot
    have hafter : ((c.past (c.rest.takeWhile isDigit)).past ['.']).rest = u := Cursor.rest_past (hrest.trans hu)
    rw [if_pos hdot] at hwhole
    rw [preferred_seq_of_some hwhole (preferred_star ..), run_eq hk, hafter, hu, List.tail_cons, Cursor.past_past,
      Cursor.past_past]
    rfl
  · rw [if_neg hdot] at hwhole
    rw [preferred_seq_of_some hwhole (preferred_star ..), run_eq hk, hrest, takeWhile_dropWhile, Cursor.past_nil]

lemma preferred_pointed (c : Cursor) : (seq pointPattern (digitsPattern k)).preferred c =
    if c.rest.head? = some '.' then
      let f := c.rest.tail.takeWhile isDigit
      if f = [] then none else some (c.past ('.' :: f))
    else none := by
  have hends := ends_pointPattern c
  split_ifs at hends ⊢ with hdot
  · obtain ⟨u, hu⟩ := List.head?_eq_some_iff.mp hdot
    have hafter : (c.past ['.']).rest = u := Cursor.rest_past hu
    rw [preferred_seq_of_ends hends, preferred_digits hk, hafter, hu, List.tail_cons, Cursor.past_past]
    rfl
  · rw [preferred_seq, hends]
    rfl

lemma preferred_mantissa (c : Cursor) :
    (mantissaPattern k).preferred c = (cutMantissa? c.rest).map fun m => c.past m.1 := by
  have hsplit := List.takeWhile_append_dropWhile (p := isDigit) (l := c.rest)
  rw [mantissaPattern, preferred_alt, preferred_whole hk, preferred_pointed hk, cutMantissa?_eq]
  dsimp only
  by_cases hw : c.rest.takeWhile isDigit = []
  · rw [hw, List.nil_append] at hsplit
    rw [hw, hsplit, if_pos rfl, Option.none_or]
    split_ifs <;> simp_all
  · split_ifs <;> simp_all

lemma preferred_exponent (c : Cursor) : (exponentPattern k).preferred c =
    if (cutExponent c.rest).1 = [] then none else some (c.past (cutExponent c.rest).1) := by
  rw [exponentPattern]
  cases hr : c.rest with
  | nil =>
    have hnone : (Pattern.chars (.ofChars ['e', 'E'])).preferred c = none := by rw [preferred, ends_chars_nil hr]; rfl
    rw [preferred_seq_of_none (preferred_seq_of_none hnone)]
    rfl
  | cons x r =>
    have hends := ends_chars_cons (k := .ofChars ['e', 'E']) hr
    rw [cutExponent_cons]
    by_cases hx : x = 'e' ∨ x = 'E'
    · have hletter : (Ranges.ofChars ['e', 'E']).contains x := (contains_letters x).mpr (by simpa [or_comm] using hx)
      rw [if_pos hletter] at hends
      have hsign : ∀ e : Cursor, (cutSign e.rest).1 ≠ [] → (digitsPattern k).preferred e = none := fun e he => by
        rw [preferred_digits hk, if_pos (takeWhile_of_sign he)]
      have hafter : (c.past [x]).rest = r := Cursor.rest_past hr
      have hrest : ((c.past [x]).past (cutSign r).1).rest = (cutSign r).2 :=
        Cursor.rest_past (hafter.trans (cutSign_sign r).2.symm)
      rw [preferred_signed hends hsign, preferred_digits hk, hafter, hrest, if_pos hx]
      dsimp only
      by_cases hf : (cutSign r).2.takeWhile isDigit = []
      · rw [if_pos hf, if_pos hf, if_pos rfl]
      · rw [if_neg hf, if_neg hf, Cursor.past_past, Cursor.past_past]
        exact (if_neg (List.cons_ne_nil _ _)).symm
    · have hletter : ¬ (Ranges.ofChars ['e', 'E']).contains x := by
        rw [contains_letters]
        simpa [or_comm] using hx
      rw [if_neg hletter] at hends
      have hnone : (Pattern.chars (.ofChars ['e', 'E'])).preferred c = none := by rw [preferred, hends]; rfl
      rw [preferred_seq_of_none (preferred_seq_of_none hnone), if_neg hx, if_pos rfl]

lemma preferred_numberPatternOf (t : Text) :
    (numberPatternOf k).preferred (.start t) = (numberPrefix? t).map (Cursor.start t).past := by
  have hstart : (look .textStart).ends (.start t) = [.start t] := rfl
  have hsign : ∀ e : Cursor, (cutSign e.rest).1 ≠ [] → (group true (mantissaPattern k)).preferred e = none := by
    intro e he
    rw [preferred_group, preferred_mantissa hk, cutMantissa?_of_sign he]
    rfl
  have hrest : ((Cursor.start t).past (cutSign t).1).rest = (cutSign t).2 := Cursor.rest_past (cutSign_sign t).2.symm
  have hmantissa : (seq (seq (look .textStart) signPattern) (group true (mantissaPattern k))).preferred (.start t) =
      (cutMantissa? (cutSign t).2).map fun m => (Cursor.start t).past ((cutSign t).1 ++ m.1) := by
    rw [preferred_signed hstart hsign, preferred_group, preferred_mantissa hk]
    simp only [Cursor.past_past]
    rw [show ((Cursor.start t).past (cutSign (Cursor.start t).rest).1).rest = (cutSign t).2 from hrest]
    rfl
  rw [numberPatternOf, numberPrefix?]
  dsimp only
  cases hm : cutMantissa? (cutSign t).2 with
  | none =>
    rw [hm] at hmantissa
    exact preferred_seq_of_none hmantissa
  | some m =>
    obtain ⟨w, r⟩ := m
    obtain ⟨-, -, -, -, -, -, hr⟩ := exists_mantissa hm
    have hafter : ((Cursor.start t).past ((cutSign t).1 ++ w)).rest = r := by
      refine Cursor.rest_past ?_
      rw [List.append_assoc, hr]
      exact (cutSign_sign t).2.symm
    have hexponent := preferred_optional (group true (exponentPattern k)) ((Cursor.start t).past ((cutSign t).1 ++ w))
    rw [hm] at hmantissa
    rw [preferred_seq_of_some hmantissa hexponent, preferred_group, preferred_exponent hk, hafter]
    simp only [Option.bind_eq_bind, Option.bind_some, Option.pure_def, Option.map_some]
    split_ifs with he
    · rw [he, List.append_nil]
      rfl
    · rw [Option.getD_some, Cursor.past_past]

end

-- The digits stay a choice on the flags here, so that their table is not evaluated.
set_option maxRecDepth 10000 in
lemma finish_numberText : Reading.finish (numberText.length + 1) ⟨.plain, .new, [], []⟩ numberText =
    .ok (.part (numberPatternOf (if Flags.plain.unicode then Category.ranges [.nd] else Class.asciiDigit)) 7) := by
  have htext : numberText = ['^', '[', '+', '-', ']', '?', '(', '\\', 'd', '+', '\\', '.', '?', '\\', 'd', '*', '|',
      '\\', '.', '\\', 'd', '+', ')', '(', '[', 'e', 'E', ']', '[', '+', '-', ']', '?', '\\', 'd', '+', ')', '?'] :=
    toList_of_eq_ofList rfl
  rw [htext]
  rfl

lemma read_of_finish {f : Flags} {t : Text} {p : Pattern} {d : ℕ}
    (h : Reading.finish (t.length + 1) ⟨f, .new, [], []⟩ t = .ok (.part p d)) (hd : d ≤ depthLimit) :
    Pattern.read f t = if p.form.fits then .ok p else .error .tooLarge := by
  rw [Pattern.read, h]
  change (if depthLimit < d then _ else if !p.form.fits then _ else _) = _
  rw [if_neg (Nat.not_lt.mpr hd)]
  cases p.form.fits <;> rfl

theorem read_numberText :
    Pattern.read .plain numberText = if numberPattern.form.fits then .ok numberPattern else .error .tooLarge := by
  have hunicode : Flags.plain.unicode = true := rfl
  have h := finish_numberText
  rw [if_pos hunicode, ← numberPattern] at h
  exact read_of_finish h (by decide)

lemma first?_numberPattern (t : Text) :
    (numberPattern.first? (.start t)).map (·.1) = (numberPrefix? t).map fun w => ⟨0, w.length⟩ := by
  have hanchored : numberPattern.Anchored := anchored_textStart.seq _ |>.seq _ |>.seq _
  rw [hanchored.first?, numberPattern, preferred_numberPatternOf contains_nd, Option.map_map]
  congr 1
  funext w
  simp [Cursor.past, Cursor.start]

/-- The pattern's match in a text without its first blanks is the longest start that writes a number. Reading takes
that start, whatever follows it: it gives the nearest double, infinite beyond the range, or a NaN if a digit is not
one of ASCII. If no start writes a number there is no match, and reading gives a NaN. -/
theorem parseNumber_longest (t : Text) :
    ((¬ ∃ n : Numeral, n.text <+: trimStart t) →
      numberPattern.first? (.start (trimStart t)) = none ∧ parseNumber t = nan) ∧
    ((∃ n : Numeral, n.text <+: trimStart t) → ∃ n : Numeral, n.LongestIn (trimStart t)) ∧
    ∀ n : Numeral, n.LongestIn (trimStart t) →
      (numberPattern.first? (.start (trimStart t))).map (·.1) = some ⟨0, n.text.length⟩ ∧
      parseNumber t = parseNumber n.text ∧
      (¬ n.IsAscii → parseNumber t = nan) ∧ (n.IsAscii → Rounds (parseNumber t) n.isNegative n.magnitude) := by
  have hmatch := first?_numberPattern (trimStart t)
  refine ⟨fun h => ?_, Numeral.exists_longestIn, fun n hn => ?_⟩
  · have hnone := Numeral.numberPrefix?_eq_none h
    rw [hnone] at hmatch
    refine ⟨Option.map_eq_none_iff.mp hmatch, ?_⟩
    rw [parseNumber, hnone]
    rfl
  · rw [hn.numberPrefix?_eq] at hmatch
    have hread := hn.parseNumber_eq
    refine ⟨hmatch, hread.trans n.parseNumber_text.symm, fun h => ?_, fun h => ?_⟩
    · rw [hread, Numeral.readDecimal?_foreign h]
      rfl
    · rw [hread, Numeral.readDecimal?_text h, ← n.magnitude_decimal]
      exact n.decimal.rounds_toFloat

end Toolpath.Number
