import Toolpath.Proofs.Number.Casing
import Toolpath.Proofs.Number.Decimal
import Toolpath.Proofs.Number.Reading

/-!
Texts that write a number: an optional sign, digits with an optional point and further digits or a point with
digits, and an optional exponent. What is cut off the start of a text is the longest of its starts that write a
number, and it is read as the double nearest to that number.
-/

namespace Toolpath.Number

open Text

def DigitRun (t : Text) : Prop := ∀ c ∈ t, isDigit c

def IsSign (t : Text) : Prop := t ∈ [[], ['+'], ['-']]

structure Exponent where
  letter : Char
  sign : Text
  digits : Text
  letter_eq : letter = 'e' ∨ letter = 'E'
  isSign : IsSign sign
  digitRun : DigitRun digits
  digits_ne_nil : digits ≠ []

def Exponent.text (e : Exponent) : Text := e.letter :: e.sign ++ e.digits

/-- The parts of a text that writes a number; there is a point if there is a fraction, which may be empty. -/
structure Numeral where
  sign : Text
  whole : Text
  fraction : Option Text
  exponent : Option Exponent
  isSign : IsSign sign
  whole_run : DigitRun whole
  fraction_run : ∀ f ∈ fraction, DigitRun f
  digits_ne_nil : whole ++ fraction.getD [] ≠ []

namespace Numeral

def mantissa (n : Numeral) : Text := n.whole ++ n.fraction.elim [] ('.' :: ·)

def text (n : Numeral) : Text := n.sign ++ n.mantissa ++ n.exponent.elim [] Exponent.text

end Numeral

variable {t w r d : Text} {c : Char}

lemma sign_cases (h : IsSign t) : t = [] ∨ t = ['+'] ∨ t = ['-'] := by simpa [IsSign] using h

lemma takeWhile_append_digits (h : DigitRun w) (t : Text) : (w ++ t).takeWhile isDigit = w ++ t.takeWhile isDigit :=
  List.takeWhile_append_of_pos h

lemma dropWhile_append_digits (h : DigitRun w) (t : Text) : (w ++ t).dropWhile isDigit = t.dropWhile isDigit :=
  List.dropWhile_append_of_pos h

lemma digitRun_takeWhile (t : Text) : DigitRun (t.takeWhile isDigit) := fun _ h => List.mem_takeWhile_imp h

def StartsUnsigned (t : Text) : Prop := ∃ c r, t = c :: r ∧ (isDigit c ∨ c = '.')

lemma cutSign_append (hw : IsSign w) (ht : StartsUnsigned t) : cutSign (w ++ t) = (w, t) := by
  obtain ⟨c, r, rfl, hc⟩ := ht
  have hp : c ≠ '+' := by rintro rfl; revert hc; decide
  have hm : c ≠ '-' := by rintro rfl; revert hc; decide
  rcases sign_cases hw with rfl | rfl | rfl
  · rw [cutSign_eq]
    simp [hp, hm]
  · rfl
  · rfl

lemma cutSign_sign (t : Text) : IsSign (cutSign t).1 ∧ (cutSign t).1 ++ (cutSign t).2 = t := by
  rw [cutSign.eq_def]
  split <;> simp [IsSign]

lemma startsUnsigned_of_digits (hd : DigitRun d) (hne : d ≠ []) (t : Text) : StartsUnsigned (d ++ t) := by
  obtain ⟨c, r, rfl⟩ := List.exists_cons_of_ne_nil hne
  exact ⟨c, r ++ t, rfl, .inl (hd c List.mem_cons_self)⟩

namespace Exponent

lemma not_isDigit_letter (e : Exponent) : ¬ isDigit e.letter ∧ e.letter ≠ '.' := by
  rcases e.letter_eq with h | h <;> rw [h] <;> decide

lemma cutExponent_append (e : Exponent) (t : Text) :
    cutExponent (e.text ++ t) = (e.text ++ t.takeWhile isDigit, t.dropWhile isDigit) := by
  have hsign : cutSign (e.sign ++ (e.digits ++ t)) = (e.sign, e.digits ++ t) :=
    cutSign_append e.isSign (startsUnsigned_of_digits e.digitRun e.digits_ne_nil t)
  rw [text, List.cons_append, List.cons_append, List.append_assoc, cutExponent_cons, if_pos e.letter_eq, hsign]
  simp [takeWhile_append_digits e.digitRun, dropWhile_append_digits e.digitRun, e.digits_ne_nil]

end Exponent

lemma exists_exponent (t : Text) : ∃ e : Option Exponent, (cutExponent t).1 = e.elim [] Exponent.text ∧
    (cutExponent t).1 ++ (cutExponent t).2 = t := by
  cases t with
  | nil => exact ⟨none, rfl, rfl⟩
  | cons c r =>
    rw [cutExponent_cons]
    split_ifs with hc
    · obtain ⟨hsign, hr⟩ := cutSign_sign r
      dsimp only
      split_ifs with hne
      · exact ⟨none, rfl, rfl⟩
      · refine ⟨some ⟨c, _, _, hc, hsign, digitRun_takeWhile _, hne⟩, rfl, ?_⟩
        rw [List.cons_append, List.cons_append, List.append_assoc, List.takeWhile_append_dropWhile, hr]
    · exact ⟨none, rfl, rfl⟩

lemma exists_mantissa (h : cutMantissa? t = some (w, r)) : ∃ (whole : Text) (fraction : Option Text), DigitRun whole ∧
    (∀ f ∈ fraction, DigitRun f) ∧ whole ++ fraction.getD [] ≠ [] ∧ w = whole ++ fraction.elim [] ('.' :: ·) ∧
    w ++ r = t := by
  have hrun := List.takeWhile_append_dropWhile (p := isDigit) (l := t)
  rw [cutMantissa?_eq] at h
  dsimp only at h
  split_ifs at h with hdot hnil hnil
  · simp only [Option.some.injEq, Prod.mk.injEq] at h
    obtain ⟨rfl, rfl⟩ := h
    obtain ⟨u, hu⟩ := List.head?_eq_some_iff.mp hdot
    refine ⟨_, some ((t.dropWhile isDigit).tail.takeWhile isDigit), digitRun_takeWhile t, ?_, ?_, rfl, ?_⟩
    · rintro f ⟨⟩
      exact digitRun_takeWhile _
    · simpa [List.append_eq_nil_iff] using hnil
    · rw [List.append_assoc, List.cons_append, List.takeWhile_append_dropWhile, hu, List.tail_cons, ← hu, hrun]
  · simp only [Option.some.injEq, Prod.mk.injEq] at h
    obtain ⟨rfl, rfl⟩ := h
    exact ⟨_, none, digitRun_takeWhile t, nofun, by simpa using hnil, by simp, hrun⟩

lemma exists_numeral (h : numberPrefix? t = some w) : (∃ n : Numeral, n.text = w) ∧ w <+: t := by
  simp only [numberPrefix?, Option.bind_eq_bind, Option.pure_def, Option.bind_eq_some_iff, Option.some.injEq] at h
  obtain ⟨⟨m, r⟩, hm, rfl⟩ := h
  obtain ⟨hsign, ht⟩ := cutSign_sign t
  obtain ⟨whole, fraction, hwhole, hfraction, hne, rfl, hr⟩ := exists_mantissa hm
  obtain ⟨e, he, hrest⟩ := exists_exponent r
  refine ⟨⟨⟨_, whole, fraction, e, hsign, hwhole, hfraction, hne⟩, by rw [Numeral.text, Numeral.mantissa, he]⟩, ?_⟩
  refine ⟨(cutExponent r).2, ?_⟩
  rw [List.append_assoc, hrest, List.append_assoc, hr, ht]

namespace Numeral

variable (n : Numeral)

lemma startsUnsigned (t : Text) : StartsUnsigned (n.mantissa ++ t) := by
  rw [mantissa]
  cases hw : n.whole with
  | cons c r => exact ⟨c, _, rfl, .inl (n.whole_run c (hw ▸ List.mem_cons_self))⟩
  | nil =>
    have hne := n.digits_ne_nil
    rw [hw] at hne
    cases hf : n.fraction with
    | none => simp [hf] at hne
    | some f => exact ⟨'.', f ++ t, rfl, .inr rfl⟩

lemma cutMantissa?_append (t : Text) (ht : ∀ c ∈ t.head?, ¬ isDigit c ∧ c ≠ '.') :
    cutMantissa? (n.mantissa ++ t) = some (n.mantissa, t) := by
  have hstop : t.takeWhile isDigit = [] ∧ t.dropWhile isDigit = t := by
    cases t with
    | nil => exact ⟨rfl, rfl⟩
    | cons c t => simp [(ht c rfl).1]
  have hpoint : t.head? ≠ some '.' := fun h => (ht '.' h).2 rfl
  have hne := n.digits_ne_nil
  have hwhole := n.whole_run
  have hfraction := n.fraction_run
  rw [cutMantissa?_eq, mantissa]
  cases hf : n.fraction with
  | none =>
    rw [hf] at hne
    simp only [Option.getD_none, List.append_nil] at hne
    simp [takeWhile_append_digits hwhole, dropWhile_append_digits hwhole, hstop, hpoint, hne]
  | some f =>
    rw [hf] at hne
    have hfr := hfraction f hf
    have hdot : ¬ isDigit '.' := by decide
    simp only [Option.getD_some, ne_eq, List.append_eq_nil_iff] at hne
    simp [takeWhile_append_digits hwhole, dropWhile_append_digits hwhole, takeWhile_append_digits hfr,
      dropWhile_append_digits hfr, hdot, hstop, hne]

lemma exists_cutMantissa? (t : Text) : ∃ w r, cutMantissa? (n.mantissa ++ t) = some (w, r) ∧ n.mantissa <+: w := by
  have hne := n.digits_ne_nil
  have hwhole := n.whole_run
  have hfraction := n.fraction_run
  rw [cutMantissa?_eq, mantissa]
  cases hf : n.fraction with
  | none =>
    rw [hf] at hne
    simp only [Option.getD_none, List.append_nil] at hne
    simp only [Option.elim_none, List.append_nil, takeWhile_append_digits hwhole, dropWhile_append_digits hwhole]
    split_ifs with h₁ h₂ h₂
    · simp [hne] at h₂
    · exact ⟨_, _, rfl, by rw [List.append_assoc]; exact List.prefix_append ..⟩
    · simp [hne] at h₂
    · exact ⟨_, _, rfl, List.prefix_append ..⟩
  | some f =>
    rw [hf] at hne
    have hfr := hfraction f hf
    have hdot : ¬ isDigit '.' := by decide
    simp only [Option.getD_some, ne_eq, List.append_eq_nil_iff] at hne
    refine ⟨n.whole ++ '.' :: f ++ t.takeWhile isDigit, t.dropWhile isDigit, ?_, List.prefix_append ..⟩
    simp [takeWhile_append_digits hwhole, dropWhile_append_digits hwhole, takeWhile_append_digits hfr,
      dropWhile_append_digits hfr, hdot]
    tauto

lemma exists_numberPrefix? (t : Text) : ∃ w, numberPrefix? (n.text ++ t) = some w ∧ n.text.length ≤ w.length := by
  have hsign : cutSign (n.text ++ t) = (n.sign, n.mantissa ++ (n.exponent.elim [] Exponent.text ++ t)) := by
    rw [text, List.append_assoc, List.append_assoc]
    exact cutSign_append n.isSign (n.startsUnsigned _)
  simp only [numberPrefix?, hsign, Option.bind_eq_bind, Option.pure_def]
  cases he : n.exponent with
  | none =>
    obtain ⟨w, r, hm, hw⟩ := n.exists_cutMantissa? t
    refine ⟨n.sign ++ w ++ (cutExponent r).1, by simp [hm], ?_⟩
    have := hw.length_le
    simp [text, he]
    omega
  | some e =>
    have hm := n.cutMantissa?_append (e.text ++ t) (by
      rintro c ⟨⟩
      exact e.not_isDigit_letter)
    refine ⟨_, by rw [Option.elim_some, hm]; rfl, ?_⟩
    simp [text, he, e.cutExponent_append]

end Numeral

def digitsValue (t : Text) : ℕ := Nat.ofDigitChars 10 t 0

def Exponent.value (e : Exponent) : ℤ := if e.sign = ['-'] then -digitsValue e.digits else digitsValue e.digits

namespace Numeral

def isNegative (n : Numeral) : Bool := n.sign = ['-']

def magnitude (n : Numeral) : ℚ :=
  (digitsValue n.whole + digitsValue (n.fraction.getD []) / 10 ^ (n.fraction.getD []).length) *
    10 ^ n.exponent.elim 0 Exponent.value

def IsAscii (n : Numeral) : Prop := ∀ c ∈ n.text, isDigit c → isAsciiDigit c

def decimal (n : Numeral) : Decimal :=
  ⟨n.isNegative, digitsValue (n.whole ++ n.fraction.getD []),
    n.exponent.elim 0 Exponent.value - (n.fraction.getD []).length⟩

end Numeral

lemma digitsValue_append (t u : Text) : digitsValue (t ++ u) = digitsValue t * 10 ^ u.length + digitsValue u := by
  rw [digitsValue, Nat.ofDigitChars_append, Nat.ofDigitChars_eq_ofDigitChars_zero, mul_comm]
  rfl

lemma Numeral.magnitude_decimal (n : Numeral) :
    (n.decimal.digits : ℚ) * 10 ^ n.decimal.exponent = n.magnitude := by
  rw [decimal, magnitude, digitsValue_append, zpow_sub₀ (by norm_num), zpow_natCast]
  push_cast
  field_simp

lemma toNat_of_foreign (h : isDigit c) (hc : ¬ isAsciiDigit c) :
    128 ≤ c.toNat ∧ ∃ z ∈ digitZeros, ∃ k < 10, c.toNat = z + k := by
  rw [isDigit] at h
  split at h
  · exact absurd h hc
  · rename_i hge
    simp only [List.any_eq_true, Bool.and_eq_true, decide_eq_true_eq] at h
    obtain ⟨z, hz, hl, hu⟩ := h
    exact ⟨not_lt.mp hge, z, hz, c.toNat - z, by omega, by omega⟩

lemma not_isBlank_of_isDigit (h : isDigit c) : ¬ isBlank c := by
  by_cases hc : isAsciiDigit c
  · exact not_isBlank_of_digit hc
  · obtain ⟨hge, z, hz, k, hk, he⟩ := toNat_of_foreign h hc
    have hall : ∀ z ∈ digitZeros, ∀ k < 10, ¬ isBlank (Char.ofNat (z + k)) := by decide +kernel
    rw [← Char.ofNat_toNat c, he]
    exact hall z hz k hk

lemma lowerAscii_of_beyond (h : 128 ≤ c.toNat) : lowerAscii c = c := by
  refine if_neg fun hc => ?_
  have : c.toNat ≤ 'Z'.toNat := hc.2
  exact absurd (h.trans this) (by decide)

lemma lowerAscii_of_isDigit (h : isDigit c) : lowerAscii c = c := by
  by_cases hc : isAsciiDigit c
  · exact lowerAscii_of_digit hc
  · exact lowerAscii_of_beyond (toNat_of_foreign h hc).1

lemma foldl_digits_none (t : Text) : t.foldl (fun acc c => acc.bind fun n =>
    if isAsciiDigit c then some (10 * n + (c.toNat - 48)) else none) none = none := by
  induction t with
  | nil => rfl
  | cons c t ih => exact ih

lemma allDigits_of_digitsValue? {k : ℕ} (h : digitsValue? t = some k) : AllDigits t := by
  rw [digitsValue?] at h
  generalize some 0 = acc at h
  induction t generalizing acc with
  | nil => exact fun _ hc => absurd hc List.not_mem_nil
  | cons c t ih =>
    rw [List.foldl_cons] at h
    refine List.forall_mem_cons.mpr ⟨?_, ih _ h⟩
    by_contra hc
    simp only [hc, if_false, Option.bind_fun_none, foldl_digits_none] at h
    cases h

def NoForeign (t : Text) : Prop := ∀ c ∈ t, isDigit c → isAsciiDigit c

lemma noForeign_nil : NoForeign [] := fun _ h => absurd h List.not_mem_nil

lemma NoForeign.append (ht : NoForeign t) (hw : NoForeign w) : NoForeign (t ++ w) := by
  intro c hc
  rcases List.mem_append.mp hc with hc | hc
  · exact ht c hc
  · exact hw c hc

lemma AllDigits.noForeign (h : AllDigits t) : NoForeign t := fun c hc _ => h c hc

lemma noForeign_of_isSign (h : IsSign t) : NoForeign t := by
  rcases sign_cases h with rfl | rfl | rfl <;> simp [NoForeign] <;> decide

lemma noForeign_of_readShift? {k : ℤ} (h : readShift? t = some k) : NoForeign t := by
  cases t with
  | nil => exact noForeign_nil
  | cons c t =>
    obtain ⟨hsign, ht⟩ := cutSign_sign t
    rw [readShift?] at h
    dsimp only at h
    rcases em (c = 'e' ∨ c = 'E') with hc | hc
    swap
    · simp [hc] at h
    have hdigits : AllDigits (cutSign t).2 := by
      cases hm : digitsValue? (cutSign t).2 with
      | none =>
        rw [hm, if_pos hc] at h
        split at h <;> cases h
      | some m => exact allDigits_of_digitsValue? hm
    have hletter : NoForeign [c] := by rcases hc with rfl | rfl <;> simp [NoForeign] <;> decide
    rw [← ht]
    exact hletter.append ((noForeign_of_isSign hsign).append hdigits.noForeign)

lemma cutFraction_append (t : Text) : ∃ p, NoForeign p ∧ p ++ (cutFraction t).1 ++ (cutFraction t).2 = t := by
  rw [cutFraction]
  split_ifs with h
  · obtain ⟨r, rfl⟩ := List.head?_eq_some_iff.mp h
    refine ⟨['.'], by simp [NoForeign]; decide, ?_⟩
    simp [List.span_eq_takeWhile_dropWhile]
  · exact ⟨[], noForeign_nil, rfl⟩

lemma noForeign_of_readDecimal? {k : Decimal} (h : readDecimal? t = some k) : NoForeign t := by
  rw [readDecimal?_eq] at h
  dsimp only at h
  split_ifs at h
  obtain ⟨m, hm, hshift⟩ := Option.bind_eq_some_iff.mp h
  obtain ⟨e, he, -⟩ := Option.map_eq_some_iff.mp hshift
  obtain ⟨hsign, ht⟩ := cutSign_sign t
  rw [List.span_eq_takeWhile_dropWhile] at hm he
  dsimp only at hm he
  obtain ⟨p, hp, hrest⟩ := cutFraction_append ((cutSign t).2.dropWhile isAsciiDigit)
  have hdigits := (allDigits_of_digitsValue? hm).noForeign
  have hfraction : NoForeign (cutFraction ((cutSign t).2.dropWhile isAsciiDigit)).1 :=
    fun c hc => hdigits c (List.mem_append_right _ hc)
  have hwhole : NoForeign ((cutSign t).2.takeWhile isAsciiDigit) := fun c hc => hdigits c (List.mem_append_left _ hc)
  rw [← ht, ← List.takeWhile_append_dropWhile (p := isAsciiDigit) (l := (cutSign t).2), ← hrest]
  exact (noForeign_of_isSign hsign).append
    (hwhole.append ((hp.append hfraction).append (noForeign_of_readShift? he)))

namespace Numeral

variable (n : Numeral)

lemma cutSign_text : cutSign n.text = (n.sign, n.mantissa ++ n.exponent.elim [] Exponent.text) := by
  rw [text, List.append_assoc]
  exact cutSign_append n.isSign (n.startsUnsigned _)

variable {n}

lemma IsAscii.whole (h : n.IsAscii) : AllDigits n.whole :=
  fun c hc => h c (by simp [text, mantissa, hc]) (n.whole_run c hc)

lemma IsAscii.fraction (h : n.IsAscii) : AllDigits (n.fraction.getD []) := by
  intro c hc
  cases hf : n.fraction with
  | none => simp [hf] at hc
  | some f =>
    rw [hf, Option.getD_some] at hc
    exact h c (by simp [text, mantissa, hf, hc]) (n.fraction_run f hf c hc)

lemma IsAscii.exponent (h : n.IsAscii) {e : Exponent} (he : n.exponent = some e) : AllDigits e.digits :=
  fun c hc => h c (by simp [text, Exponent.text, he, hc]) (e.digitRun c hc)

lemma readShift?_exponent (h : n.IsAscii) :
    readShift? (n.exponent.elim [] Exponent.text) = some (n.exponent.elim 0 Exponent.value) := by
  cases he : n.exponent with
  | none => rfl
  | some e =>
    have hstart := startsUnsigned_of_digits e.digitRun e.digits_ne_nil []
    have hsign := cutSign_append e.isSign hstart
    rw [List.append_nil] at hsign
    rw [Option.elim_some, Exponent.text, List.cons_append, readShift?, if_pos e.letter_eq, hsign]
    simp [e.digits_ne_nil, digitsValue?_eq (h.exponent he), Exponent.value, digitsValue]

lemma readDecimal?_text (h : n.IsAscii) : readDecimal? n.text = some n.decimal := by
  have hdigits : AllDigits (n.whole ++ n.fraction.getD []) := by
    intro c hc
    rcases List.mem_append.mp hc with hc | hc
    · exact h.whole c hc
    · exact h.fraction c hc
  have hne := n.digits_ne_nil
  have hexp := readShift?_exponent h
  have hstop : ∀ c ∈ (n.exponent.elim [] Exponent.text).head?, ¬ isAsciiDigit c ∧ c ≠ '.' := by
    cases n.exponent with
    | none => nofun
    | some e =>
      rintro c ⟨⟩
      exact ⟨fun hc => e.not_isDigit_letter.1 (isDigit_of_ascii hc), e.not_isDigit_letter.2⟩
  have hpoint : (n.exponent.elim [] Exponent.text).head? ≠ some '.' := fun hc => (hstop _ hc).2 rfl
  rw [readDecimal?_eq, n.cutSign_text, mantissa]
  cases hf : n.fraction with
  | none =>
    rw [hf] at hne hdigits
    simp only [Option.getD_none, List.append_nil] at hne hdigits
    have hspan := span_append hdigits fun c hc => (hstop c hc).1
    simp only [Option.elim_none, List.append_nil, hspan, cutFraction, if_neg hpoint, List.isEmpty_iff, hne, false_and,
      if_false, digitsValue?_eq hdigits, hexp]
    simp [decimal, hf, digitsValue, isNegative]
  | some f =>
    rw [hf, Option.getD_some] at hne hdigits
    have hw := h.whole
    have hfraction := h.fraction
    rw [hf, Option.getD_some] at hfraction
    have hspan := span_append hw (r := '.' :: (f ++ n.exponent.elim [] Exponent.text)) (by rintro c ⟨⟩; decide)
    have hspan' := span_append hfraction fun c hc => (hstop c hc).1
    simp only [ne_eq, List.append_eq_nil_iff] at hne
    simp only [Option.elim_some, List.append_assoc, List.cons_append, hspan, cutFraction, List.head?_cons,
      List.tail_cons, if_true, hspan', List.isEmpty_iff, hne, if_false, digitsValue?_eq hdigits, hexp]
    simp [decimal, hf, digitsValue, isNegative]

lemma readDecimal?_foreign (h : ¬ n.IsAscii) : readDecimal? n.text = none := by
  cases hd : readDecimal? n.text with
  | none => rfl
  | some d => exact absurd (noForeign_of_readDecimal? hd) h

lemma readFloat?_text (n : Numeral) : readFloat? n.text = (readDecimal? n.text).map Decimal.toFloat := by
  obtain ⟨c, r, hr, hc⟩ := n.startsUnsigned (n.exponent.elim [] Exponent.text)
  have hlower : lowerAscii c ≠ 'i' ∧ lowerAscii c ≠ 'n' := by
    rcases hc with hc | rfl
    · rw [lowerAscii_of_isDigit hc]
      constructor <;> rintro rfl <;> revert hc <;> decide
    · decide
  have hword : ∀ d w, lowerAscii c ≠ d → String.ofList ((c :: r).map lowerAscii) ≠ String.ofList (d :: w) := by
    intro d w hd he
    exact hd (List.cons.inj (String.ofList_injective he)).1
  rw [readFloat?, n.cutSign_text, hr]
  dsimp only
  rw [if_neg, if_neg]
  · exact hword 'n' ['a', 'n'] hlower.2
  · rintro (he | he)
    · exact hword 'i' ['n', 'f'] hlower.1 he
    · exact hword 'i' ['n', 'f', 'i', 'n', 'i', 't', 'y'] hlower.1 he

end Numeral

structure Numeral.LongestIn (n : Numeral) (t : Text) : Prop where
  prefix_text : n.text <+: t
  length_le : ∀ m : Numeral, m.text <+: t → m.text.length ≤ n.text.length

namespace Numeral

lemma numberPrefix?_eq_none (h : ¬ ∃ n : Numeral, n.text <+: t) : numberPrefix? t = none := by
  cases hw : numberPrefix? t with
  | none => rfl
  | some w =>
    obtain ⟨⟨n, rfl⟩, hp⟩ := exists_numeral hw
    exact absurd ⟨n, hp⟩ h

lemma LongestIn.numberPrefix?_eq {n : Numeral} (h : n.LongestIn t) : numberPrefix? t = some n.text := by
  obtain ⟨r, hr⟩ := h.prefix_text
  obtain ⟨w, hw, hle⟩ := n.exists_numberPrefix? r
  rw [hr] at hw
  obtain ⟨⟨m, rfl⟩, hm⟩ := exists_numeral hw
  have hlen := h.length_le m hm
  rw [hw, Option.some_inj]
  exact (List.prefix_of_prefix_length_le hm h.prefix_text hlen).eq_of_length_le hle

lemma longestIn_text (n : Numeral) : n.LongestIn n.text := ⟨List.prefix_rfl, fun _ hm => hm.length_le⟩

lemma trimStart_text (n : Numeral) : trimStart n.text = n.text := by
  have hmark : ∀ m ∈ ['+', '-', '.'], ¬ isBlank m := List.all_iff_forall_prop.mp (by decide)
  have hhead : ∃ c r, n.text = c :: r ∧ ¬ isBlank c := by
    rw [text, List.append_assoc]
    obtain ⟨c, r, hr, hc⟩ := n.startsUnsigned (n.exponent.elim [] Exponent.text)
    rcases sign_cases n.isSign with hs | hs | hs <;> rw [hs, hr]
    · refine ⟨c, r, rfl, ?_⟩
      rcases hc with hc | rfl
      · exact not_isBlank_of_isDigit hc
      · exact hmark _ (by decide)
    · exact ⟨'+', c :: r, rfl, hmark _ (by decide)⟩
    · exact ⟨'-', c :: r, rfl, hmark _ (by decide)⟩
  obtain ⟨c, r, hr, hc⟩ := hhead
  simp [trimStart, hr, hc]

lemma exists_longestIn (h : ∃ n : Numeral, n.text <+: t) : ∃ n : Numeral, n.LongestIn t := by
  obtain ⟨m, r, hr⟩ := h
  obtain ⟨w, hw, -⟩ := m.exists_numberPrefix? r
  rw [hr] at hw
  obtain ⟨⟨n, rfl⟩, hn⟩ := exists_numeral hw
  refine ⟨n, hn, fun k ⟨r, hr⟩ => ?_⟩
  obtain ⟨w, hw', hle⟩ := k.exists_numberPrefix? r
  rw [hr, hw] at hw'
  cases hw'
  exact hle

lemma LongestIn.parseNumber_eq {n : Numeral} (h : n.LongestIn (trimStart t)) :
    parseNumber t = ((readDecimal? n.text).map Decimal.toFloat).getD nan := by
  rw [parseNumber, h.numberPrefix?_eq, Option.bind_some, n.readFloat?_text]

lemma parseNumber_text (n : Numeral) : parseNumber n.text = ((readDecimal? n.text).map Decimal.toFloat).getD nan := by
  have hn : n.LongestIn (trimStart n.text) := n.trimStart_text.symm ▸ n.longestIn_text
  exact hn.parseNumber_eq

end Numeral

end Toolpath.Number
