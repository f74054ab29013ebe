import Mathlib.Data.List.TakeDrop
import Toolpath.Number.Decimal
import Toolpath.Proofs.Text.Capital

/-!
Numbers are read alike in any case. A change of case keeps what looks like a number at the start of a text,
but for the case of the exponent letter, and what follows it does not begin to look like a part of it.
-/

namespace Toolpath.Text

structure Casing (k : Char → Text) : Prop where
  numeral : ∀ {c}, isNumeral c → k c = [upperAscii c]
  other : ∀ {c}, ¬ isNumeral c → ∃ d r, k c = d :: r ∧ ¬ isNumeral d

structure Alike (c d : Char) : Prop where
  digit : isDigit d = isDigit c
  blank : isBlank d = isBlank c
  mark : ∀ m ∈ ['+', '-', '.'], d = m ↔ c = m
  exponent : d = 'e' ∨ d = 'E' ↔ c = 'e' ∨ c = 'E'

lemma upperAscii_cases {P : Char → Char → Prop} (hself : ∀ c, P c c)
    (h : ∀ n < 128, P (Char.ofNat n) (upperAscii (Char.ofNat n))) (c : Char) : P c (upperAscii c) := by
  rcases Nat.lt_or_ge c.toNat 128 with hc | hc
  · exact forall_ascii (P := fun c => P c (upperAscii c)) h hc
  · rw [upperAscii_of_beyond hc]
    exact hself c

lemma alike_upperAscii (c : Char) : Alike c (upperAscii c) where
  digit := upperAscii_cases (P := fun c d => isDigit d = isDigit c) (fun _ => rfl) (by decide +kernel) c
  blank := upperAscii_cases (P := fun c d => isBlank d = isBlank c) (fun _ => rfl) (by decide +kernel) c
  mark := List.all_iff_forall_prop.mp <|
    upperAscii_cases (P := fun c d => ['+', '-', '.'].all fun m => d = m ↔ c = m) (fun _ => by simp) (by decide +kernel) c
  exponent := upperAscii_cases (P := fun c d => d = 'e' ∨ d = 'E' ↔ c = 'e' ∨ c = 'E') (fun _ => Iff.rfl)
    (by decide +kernel) c

lemma not_isNumeral_iff {c : Char} : ¬ isNumeral c ↔
    isDigit c = false ∧ isBlank c = false ∧ c ∉ ['+', '-', '.', 'e', 'E'] := by
  simp [isNumeral, and_assoc]

lemma alike_of_not_isNumeral {c d : Char} (hc : ¬ isNumeral c) (hd : ¬ isNumeral d) : Alike c d := by
  obtain ⟨hcd, hcb, hcm⟩ := not_isNumeral_iff.mp hc
  obtain ⟨hdd, hdb, hdm⟩ := not_isNumeral_iff.mp hd
  refine ⟨hdd.trans hcd.symm, hdb.trans hcb.symm, fun m hm => ?_, ?_⟩
  · have hm' : m ∈ ['+', '-', '.', 'e', 'E'] := List.mem_append_left ['e', 'E'] hm
    exact ⟨fun h => absurd (h ▸ hm') hdm, fun h => absurd (h ▸ hm') hcm⟩
  · simp_all

lemma isNumeral_upperAscii (c : Char) : isNumeral (upperAscii c) = isNumeral c :=
  upperAscii_cases (P := fun c d => isNumeral d = isNumeral c) (fun _ => rfl) (by decide +kernel) c

lemma casing_upperAscii : Casing fun c => [upperAscii c] where
  numeral _ := rfl
  other {c} h := ⟨upperAscii c, [], rfl, by rwa [isNumeral_upperAscii]⟩

lemma casing_upperChar : Casing upperChar where
  numeral {c} h := (upperChar_cases c).resolve_right fun ⟨_, _, hc⟩ => hc.not_numeral h
  other {c} h := by
    rcases upperChar_cases c with hc | ⟨d, r, hc⟩
    · exact ⟨upperAscii c, [], hc, by rwa [isNumeral_upperAscii]⟩
    · exact ⟨d, r, hc.upperChar_eq, not_isNumeral_of_isCapital (hc.capitals d List.mem_cons_self)⟩

namespace Casing

variable {k : Char → Text}

lemma exists_cons (hk : Casing k) (c : Char) :
    ∃ d r, k c = d :: r ∧ Alike c d ∧ (isNumeral c → d = upperAscii c ∧ r = []) := by
  by_cases h : isNumeral c
  · exact ⟨upperAscii c, [], hk.numeral h, alike_upperAscii c, fun _ => ⟨rfl, rfl⟩⟩
  · obtain ⟨d, r, he, hd⟩ := hk.other h
    exact ⟨d, r, he, alike_of_not_isNumeral h hd, fun hc => absurd hc h⟩

lemma of_mark (hk : Casing k) {m : Char} (hm : m ∈ ['+', '-', '.']) : k m = [m] := by
  have hall : ∀ m ∈ ['+', '-', '.'], isNumeral m ∧ upperAscii m = m := List.all_iff_forall_prop.mp (by decide)
  rw [hk.numeral (hall m hm).1, (hall m hm).2]

lemma takeWhile_isDigit (hk : Casing k) (t : Text) :
    (t.flatMap k).takeWhile isDigit = (t.takeWhile isDigit).map upperAscii := by
  induction t with
  | nil => rfl
  | cons c t ih =>
    obtain ⟨d, r, he, ha, hn⟩ := hk.exists_cons c
    rw [List.flatMap_cons, he]
    by_cases hc : isDigit c
    · obtain ⟨rfl, rfl⟩ := hn (by simp [isNumeral, hc])
      simp [hc, ha.digit, ih]
    · simp [hc, ha.digit]

lemma dropWhile_isDigit (hk : Casing k) (t : Text) :
    (t.flatMap k).dropWhile isDigit = (t.dropWhile isDigit).flatMap k := by
  induction t with
  | nil => rfl
  | cons c t ih =>
    obtain ⟨d, r, he, ha, hn⟩ := hk.exists_cons c
    by_cases hc : isDigit c
    · obtain ⟨rfl, rfl⟩ := hn (by simp [isNumeral, hc])
      simp [hc, he, ha.digit, ih]
    · simp [hc, he, ha.digit]

lemma trimStart (hk : Casing k) (t : Text) : Text.trimStart (t.flatMap k) = (Text.trimStart t).flatMap k := by
  induction t with
  | nil => rfl
  | cons c t ih =>
    obtain ⟨d, r, he, ha, hn⟩ := hk.exists_cons c
    rw [Text.trimStart, Text.trimStart] at *
    by_cases hc : isBlank c
    · obtain ⟨rfl, rfl⟩ := hn (by simp [isNumeral, hc])
      simpa [hc, he, ha.blank] using ih
    · simp [hc, he, ha.blank]

lemma head?_eq_mark_iff (hk : Casing k) {m : Char} (hm : m ∈ ['+', '-', '.']) (t : Text) :
    (t.flatMap k).head? = some m ↔ t.head? = some m := by
  cases t with
  | nil => simp
  | cons c t =>
    obtain ⟨d, r, he, ha, -⟩ := hk.exists_cons c
    simpa [he] using ha.mark m hm

lemma tail_of_mark (hk : Casing k) {m : Char} (hm : m ∈ ['+', '-', '.']) {t : Text} (h : t.head? = some m) :
    (t.flatMap k).tail = t.tail.flatMap k := by
  cases t with
  | nil => rfl
  | cons c t =>
    cases h
    simp [hk.of_mark hm]

end Casing

end Toolpath.Text

namespace Toolpath.Number

open Text

lemma head?_ne {t : Text} {m : Char} (h : ∀ r, t ≠ m :: r) : t.head? ≠ some m := by
  cases t with
  | nil => simp
  | cons c r =>
    rintro ⟨⟩
    exact h r rfl

lemma cutSign_eq (t : Text) : cutSign t =
    if t.head? = some '+' then (['+'], t.tail) else if t.head? = some '-' then (['-'], t.tail) else ([], t) := by
  rw [cutSign.eq_def]
  split
  · rfl
  · rfl
  · rename_i hp hm
    rw [if_neg (head?_ne hp), if_neg (head?_ne hm)]

lemma cutMantissa?_eq (t : Text) : cutMantissa? t =
    let w := t.takeWhile isDigit
    let r := t.dropWhile isDigit
    if r.head? = some '.' then
      let f := r.tail.takeWhile isDigit
      if w = [] ∧ f = [] then none else some (w ++ '.' :: f, r.tail.dropWhile isDigit)
    else if w = [] then none else some (w, r) := by
  rw [cutMantissa?, List.span_eq_takeWhile_dropWhile]
  generalize t.takeWhile isDigit = w
  generalize t.dropWhile isDigit = r
  dsimp only
  split
  · rename_i r' h
    cases h
    simp only [List.span_eq_takeWhile_dropWhile, List.head?_cons, List.tail_cons, if_true, true_and]
    generalize r'.takeWhile isDigit = f
    cases f <;> simp
  · rename_i r' hr h
    cases h
    rw [if_neg (head?_ne hr)]
    rfl
  · rename_i whole r' hw h
    cases h
    simp_all [List.span_eq_takeWhile_dropWhile]
  · rename_i whole r' hw hr h
    cases h
    rw [if_neg (head?_ne hr), if_neg (fun hn => hw hn)]

lemma map_cutSign (t : Text) : (cutSign t).1.map upperAscii = (cutSign t).1 := by
  rw [cutSign_eq]
  split_ifs <;> rfl

lemma cutExponent_cons (c : Char) (r : Text) : cutExponent (c :: r) =
    if c = 'e' ∨ c = 'E' then
      let s := cutSign r
      let f := s.2.takeWhile isDigit
      if f = [] then ([], c :: r) else (c :: s.1 ++ f, s.2.dropWhile isDigit)
    else ([], c :: r) := by
  rw [cutExponent]
  split
  · simp only [List.span_eq_takeWhile_dropWhile]
    generalize (cutSign r).2.takeWhile isDigit = f
    cases f <;> simp
  · rfl

end Toolpath.Number

namespace Toolpath.Text.Casing

open Number

variable {k : Char → Text}

lemma cutSign (hk : Casing k) (t : Text) :
    Number.cutSign (t.flatMap k) = ((Number.cutSign t).1, (Number.cutSign t).2.flatMap k) := by
  simp only [cutSign_eq, hk.head?_eq_mark_iff (m := '+') (by decide), hk.head?_eq_mark_iff (m := '-') (by decide)]
  split_ifs with hp hm
  · rw [hk.tail_of_mark (by decide) hp]
  · rw [hk.tail_of_mark (by decide) hm]
  · rfl

lemma cutMantissa? (hk : Casing k) (t : Text) : Number.cutMantissa? (t.flatMap k) =
    (Number.cutMantissa? t).map (Prod.map (List.map upperAscii) (List.flatMap k)) := by
  have hdot : upperAscii '.' = '.' := by decide
  simp only [cutMantissa?_eq, hk.takeWhile_isDigit, hk.dropWhile_isDigit,
    hk.head?_eq_mark_iff (m := '.') (by decide), List.map_eq_nil_iff]
  split
  · rename_i hp
    simp only [hk.tail_of_mark (by decide) hp, hk.takeWhile_isDigit, hk.dropWhile_isDigit, List.map_eq_nil_iff]
    split <;> simp [hdot]
  · split <;> simp

lemma cutExponent (hk : Casing k) (t : Text) :
    (Number.cutExponent (t.flatMap k)).1 = (Number.cutExponent t).1.map upperAscii := by
  cases t with
  | nil => rfl
  | cons c t =>
    obtain ⟨d, r, he, ha, hn⟩ := hk.exists_cons c
    rw [List.flatMap_cons, he, List.cons_append, cutExponent_cons, cutExponent_cons]
    simp only [ha.exponent]
    split
    · rename_i hc
      obtain ⟨rfl, rfl⟩ := hn (by rcases hc with rfl | rfl <;> decide)
      simp only [List.nil_append, hk.cutSign, hk.takeWhile_isDigit, List.map_eq_nil_iff]
      split
      · rfl
      · simp [map_cutSign]
    · rfl

lemma numberPrefix? (hk : Casing k) (t : Text) :
    Number.numberPrefix? (t.flatMap k) = (Number.numberPrefix? t).map (·.map upperAscii) := by
  simp only [Number.numberPrefix?, hk.cutSign, hk.cutMantissa?]
  cases Number.cutMantissa? (Number.cutSign t).2 with
  | none => rfl
  | some m => simp [hk.cutExponent, map_cutSign]

end Toolpath.Text.Casing

namespace Toolpath.Number

open Text

lemma map_upperAscii_eq_flatMap (t : Text) : t.map upperAscii = t.flatMap fun c => [upperAscii c] :=
  List.map_eq_flatMap

lemma lowerAscii_upperAscii (c : Char) : lowerAscii (upperAscii c) = lowerAscii c :=
  upperAscii_cases (P := fun c d => lowerAscii d = lowerAscii c) (fun _ => rfl) (by decide +kernel) c

lemma isAsciiDigit_upperAscii (c : Char) : isAsciiDigit (upperAscii c) = isAsciiDigit c :=
  upperAscii_cases (P := fun c d => isAsciiDigit d = isAsciiDigit c) (fun _ => rfl) (by decide +kernel) c

lemma upperAscii_of_isAsciiDigit {c : Char} (h : isAsciiDigit c) : upperAscii c = c :=
  upperAscii_cases (P := fun c d => isAsciiDigit c → d = c) (fun _ _ => rfl) (by decide +kernel) c h

lemma cutSign_map (t : Text) : cutSign (t.map upperAscii) = ((cutSign t).1, (cutSign t).2.map upperAscii) := by
  rw [map_upperAscii_eq_flatMap, casing_upperAscii.cutSign, ← map_upperAscii_eq_flatMap]

lemma digitsValue?_map (t : Text) : digitsValue? (t.map upperAscii) = digitsValue? t := by
  rw [digitsValue?, List.foldl_map, digitsValue?]
  congr 1
  funext acc c
  rw [isAsciiDigit_upperAscii]
  by_cases hc : isAsciiDigit c
  · rw [upperAscii_of_isAsciiDigit hc]
  · simp [hc]

lemma span_map (t : Text) : (t.map upperAscii).span isAsciiDigit =
    ((t.span isAsciiDigit).1.map upperAscii, (t.span isAsciiDigit).2.map upperAscii) := by
  have hdigit : isAsciiDigit ∘ upperAscii = isAsciiDigit := funext isAsciiDigit_upperAscii
  simp only [List.span_eq_takeWhile_dropWhile, List.takeWhile_map, List.dropWhile_map, hdigit]

def cutFraction (t : Text) : Text × Text :=
  if t.head? = some '.' then t.tail.span isAsciiDigit else ([], t)

def readShift? : Text → Option Int
  | [] => some 0
  | c :: r =>
    if c = 'e' ∨ c = 'E' then
      let (s, r) := cutSign r
      if r.isEmpty then none
      else (digitsValue? r).map fun n => if s = ['-'] then -(n : Int) else n
    else none

lemma readDecimal?_eq (t : Text) : readDecimal? t =
    let s := cutSign t
    let w := s.2.span isAsciiDigit
    let f := cutFraction w.2
    if w.1.isEmpty ∧ f.1.isEmpty then none
    else (digitsValue? (w.1 ++ f.1)).bind fun digits => (readShift? f.2).map fun shift =>
      ⟨s.1 = ['-'], digits, shift - f.1.length⟩ := by
  dsimp only [readDecimal?]
  generalize (cutSign t).1 = sign, (cutSign t).2.span isAsciiDigit = w
  obtain ⟨whole, r⟩ := w
  -- where the fraction ends decides what the shift is read from
  rcases r with _ | ⟨c, r⟩
  · cases whole <;> rfl
  · by_cases hc : c = '.'
    · subst hc
      simp only [cutFraction, List.head?_cons, List.tail_cons, if_true]
      obtain ⟨fraction, _ | ⟨c, r⟩⟩ := r.span isAsciiDigit
      · simp only [readShift?]
        split <;> rfl
      · simp only [readShift?]
        cases digitsValue? (whole ++ fraction) <;> cases digitsValue? (cutSign r).2 <;> split_ifs <;> rfl
    · simp only [hc, cutFraction, readShift?, List.head?_cons, Option.some_inj, if_false, List.cons.injEq, false_and,
        implies_true, imp_false, not_false_eq_true]
      cases digitsValue? (whole ++ []) <;> cases digitsValue? (cutSign r).2 <;> split_ifs <;> rfl

lemma cutFraction_map (t : Text) : cutFraction (t.map upperAscii) =
    ((cutFraction t).1.map upperAscii, (cutFraction t).2.map upperAscii) := by
  have hdot : (t.map upperAscii).head? = some '.' ↔ t.head? = some '.' := by
    rw [map_upperAscii_eq_flatMap, casing_upperAscii.head?_eq_mark_iff (by decide)]
  simp only [cutFraction, hdot, ← List.map_tail, span_map]
  split <;> rfl

lemma readShift?_map (t : Text) : readShift? (t.map upperAscii) = readShift? t := by
  cases t with
  | nil => rfl
  | cons c t =>
    simp only [List.map_cons, readShift?, (alike_upperAscii c).exponent, cutSign_map, List.isEmpty_map,
      digitsValue?_map]

lemma readDecimal?_map (t : Text) : readDecimal? (t.map upperAscii) = readDecimal? t := by
  simp only [readDecimal?_eq, cutSign_map, span_map, cutFraction_map, List.isEmpty_map, ← List.map_append,
    digitsValue?_map, readShift?_map, List.length_map]

lemma readFloat?_map (t : Text) : readFloat? (t.map upperAscii) = readFloat? t := by
  have hlower : lowerAscii ∘ upperAscii = lowerAscii := funext lowerAscii_upperAscii
  simp only [readFloat?, cutSign_map, List.map_map, hlower, readDecimal?_map]

theorem parseNumber_flatMap {k : Char → Text} (hk : Casing k) (t : Text) :
    parseNumber (t.flatMap k) = parseNumber t := by
  rw [parseNumber, hk.trimStart, hk.numberPrefix?, parseNumber]
  cases numberPrefix? (trimStart t) with
  | none => rfl
  | some p => simp [readFloat?_map]

end Toolpath.Number
