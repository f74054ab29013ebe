import Toolpath.Number.Decimal
import Toolpath.Proofs.Number.Fixed

/-!
Printed numbers are read again: the digits that were printed, with the point where it was, and so the double
nearest to the printed decimal. The words for what is no number are not read as numbers.
-/

namespace Toolpath.Number

def AllDigits (t : Text) : Prop := ∀ c ∈ t, Text.isAsciiDigit c

lemma digits_ofNat (n : ℕ) : AllDigits (Text.ofNat n) := by
  intro c hc
  have h := Nat.isDigit_of_mem_toDigits (by norm_num) (by norm_num) hc
  simpa [Text.isAsciiDigit, Char.isDigit, Char.le_def] using h

lemma digits_padLeft {t : Text} (ht : AllDigits t) (width : ℕ) : AllDigits (padLeft width '0' t) := by
  intro c hc
  rcases List.mem_append.mp hc with h | h
  · rw [List.eq_of_mem_replicate h]
    decide
  · exact ht c h

lemma span_append {f : Char → Bool} {t : Text} (ht : ∀ c ∈ t, f c) {r : Text} (hr : ∀ c ∈ r.head?, ¬ f c) :
    (t ++ r).span f = (t, r) := by
  rw [List.span_eq_takeWhile_dropWhile, List.takeWhile_append_of_pos ht, List.dropWhile_append_of_pos ht]
  cases r with
  | nil => simp
  | cons c r => simp [hr c rfl]

lemma digitsValue?_eq {t : Text} (ht : AllDigits t) : digitsValue? t = some (Nat.ofDigitChars 10 t 0) := by
  have h : ∀ n, t.foldl (fun acc c => acc.bind fun n =>
      if Text.isAsciiDigit c then some (10 * n + (c.toNat - 48)) else none) (some n) =
        some (Nat.ofDigitChars 10 t n) := by
    induction t with
    | nil => intro n; rfl
    | cons c t ih =>
      intro n
      have hc := ht c List.mem_cons_self
      simp only [List.foldl_cons, Option.bind_some, hc, if_true]
      rw [ih fun d hd => ht d (List.mem_cons_of_mem _ hd), Nat.ofDigitChars_cons]
      rfl
  exact h 0

structure Parts (k places : ℕ) (whole point fraction : Text) : Prop where
  eq : withPoint k places = whole ++ point ++ fraction
  digits : AllDigits whole ∧ AllDigits fraction
  whole_ne : whole ≠ []
  point_eq : point = ['.'] ∨ point = [] ∧ fraction = []
  length_eq : fraction.length = places
  value : Nat.ofDigitChars 10 (whole ++ fraction) 0 = k

lemma parts_of_pos {k places : ℕ} (hp : 0 < places) : Parts k places (Text.ofNat (k / 10 ^ places)) ['.']
    (padLeft places '0' (Text.ofNat (k % 10 ^ places))) := by
  have hlen : (Text.ofNat (k % 10 ^ places)).length ≤ places :=
    (Nat.length_toDigits_le_iff (by norm_num) hp).mpr (Nat.mod_lt _ (by positivity))
  refine ⟨?_, ⟨digits_ofNat _, digits_padLeft (digits_ofNat _) _⟩, Nat.toDigits_ne_nil, .inl rfl, ?_, ?_⟩
  · simp [withPoint, hp.ne']
  · rw [padLeft, List.length_append, List.length_replicate, Nat.sub_add_cancel hlen]
  · rw [padLeft, Nat.ofDigitChars_append, Nat.ofDigitChars_append, Nat.ofDigitChars_replicate_zero,
      Nat.ofDigitChars_eq_ofDigitChars_zero]
    simp only [Text.ofNat, Nat.ofDigitChars_ten_toDigits] at hlen ⊢
    rw [← mul_assoc, ← pow_add, Nat.add_sub_cancel' hlen, Nat.div_add_mod]

lemma exists_parts (k places : ℕ) : ∃ whole point fraction, Parts k places whole point fraction := by
  rcases places.eq_zero_or_pos with rfl | hp
  · refine ⟨Text.ofNat k, [], [], ⟨?_, ⟨digits_ofNat k, nofun⟩, Nat.toDigits_ne_nil, .inr ⟨rfl, rfl⟩, rfl, ?_⟩⟩
    · simp [withPoint]
    · simp [Text.ofNat]
  · exact ⟨_, _, _, parts_of_pos hp⟩

variable {k places : ℕ} {whole point fraction : Text}

lemma Parts.exists_head (h : Parts k places whole point fraction) :
    ∃ c r, whole = c :: r ∧ Text.isAsciiDigit c := by
  obtain ⟨c, r, hw⟩ := List.exists_cons_of_ne_nil h.whole_ne
  exact ⟨c, r, hw, h.digits.1 c (hw ▸ List.mem_cons_self)⟩

lemma toNat_of_digit {c : Char} (h : Text.isAsciiDigit c) : 48 ≤ c.toNat ∧ c.toNat ≤ 57 := by
  simp only [Text.isAsciiDigit, Bool.and_eq_true, decide_eq_true_eq, Char.le_def, UInt32.le_iff_toNat_le] at h
  exact h

lemma ne_of_digit {c d : Char} (h : Text.isAsciiDigit c) (hd : d.toNat < 48 ∨ 57 < d.toNat) : c ≠ d := by
  rintro rfl
  have := toNat_of_digit h
  omega

lemma not_isBlank_of_digit {c : Char} (h : Text.isAsciiDigit c) : ¬ Text.isBlank c := by
  have := toNat_of_digit h
  simp [Text.isBlank]
  omega

lemma lowerAscii_of_digit {c : Char} (h : Text.isAsciiDigit c) : Text.lowerAscii c = c := by
  have hc := toNat_of_digit h
  have hA : ¬ 'A' ≤ c := by
    rw [Char.le_def, UInt32.le_iff_toNat_le]
    change ¬ 65 ≤ c.toNat
    omega
  rw [Text.lowerAscii, if_neg fun hAZ => hA hAZ.1]

lemma cutSign_signed {c : Char} (hc : Text.isAsciiDigit c) (s : Bool) (r : Text) :
    cutSign (signed s (c :: r)) = (if s then ['-'] else [], c :: r) := by
  have hp : c ≠ '+' := ne_of_digit hc (by decide)
  have hm : c ≠ '-' := ne_of_digit hc (by decide)
  cases s with
  | true => rfl
  | false =>
    simp only [signed, Bool.false_eq_true, if_false]
    rw [cutSign.eq_def]
    split <;> simp_all

lemma cutMantissa?_parts (h : Parts k places whole point fraction) :
    cutMantissa? (whole ++ point ++ fraction) = some (whole ++ point ++ fraction, []) := by
  obtain ⟨c, r, rfl, hc⟩ := h.exists_head
  have hwhole : ∀ d ∈ c :: r, Text.isDigit d := fun d hd => Text.isDigit_of_ascii (h.digits.1 d hd)
  have hfrac : ∀ d ∈ fraction, Text.isDigit d := fun d hd => Text.isDigit_of_ascii (h.digits.2 d hd)
  rw [cutMantissa?]
  rcases h.point_eq with rfl | ⟨rfl, rfl⟩
  · have hs : (c :: r ++ ['.'] ++ fraction).span Text.isDigit = (c :: r, '.' :: fraction) := by
      rw [List.append_assoc]
      refine span_append hwhole ?_
      intro d hd
      cases hd
      decide
    have hf : fraction.span Text.isDigit = (fraction, []) := by
      have := span_append hfrac (r := []) nofun
      rwa [List.append_nil] at this
    rw [hs]
    simp only [hf]
    simp
  · have hs : (c :: r ++ [] ++ []).span Text.isDigit = (c :: r, []) := by
      rw [List.append_assoc]
      exact span_append hwhole nofun
    rw [hs]
    simp

lemma numberPrefix?_parts (h : Parts k places whole point fraction) (s : Bool) :
    numberPrefix? (signed s (whole ++ point ++ fraction)) = some (signed s (whole ++ point ++ fraction)) := by
  have hm := cutMantissa?_parts h
  obtain ⟨c, r, rfl, hc⟩ := h.exists_head
  rw [numberPrefix?]
  have hsign := cutSign_signed hc s (r ++ point ++ fraction)
  simp only [List.cons_append] at hm ⊢ hsign
  rw [hsign]
  simp only [hm, Option.bind_eq_bind, Option.bind_some]
  cases s <;> simp [cutExponent, signed]

lemma readDecimal?_parts (h : Parts k places whole point fraction) (s : Bool) :
    readDecimal? (signed s (whole ++ point ++ fraction)) = some ⟨s, k, -places⟩ := by
  obtain ⟨c, r, rfl, hc⟩ := h.exists_head
  have hsign := cutSign_signed hc s (r ++ point ++ fraction)
  have hdigits : AllDigits (c :: r ++ fraction) := by
    intro d hd
    rcases List.mem_append.mp hd with hd | hd
    · exact h.digits.1 d hd
    · exact h.digits.2 d hd
  have hvalue := digitsValue?_eq hdigits
  rw [h.value] at hvalue
  rw [readDecimal?]
  simp only [List.cons_append, hsign]
  rcases h.point_eq with rfl | ⟨rfl, rfl⟩
  · have hs : (c :: (r ++ ['.'] ++ fraction)).span Text.isAsciiDigit = (c :: r, '.' :: fraction) := by
      have := span_append h.digits.1 (r := '.' :: fraction) (by intro d hd; cases hd; decide)
      simpa using this
    have hf : fraction.span Text.isAsciiDigit = (fraction, []) := by
      have := span_append h.digits.2 (r := []) nofun
      rwa [List.append_nil] at this
    rw [hs]
    simp only [hf]
    simp only [List.cons_append] at hvalue
    simp [hvalue, h.length_eq]
  · have hs : (c :: (r ++ [] ++ [])).span Text.isAsciiDigit = (c :: r, []) := by
      have := span_append h.digits.1 (r := []) nofun
      simpa using this
    rw [hs]
    rw [List.append_nil] at hvalue
    simp [hvalue, ← h.length_eq]

lemma readFloat?_parts (h : Parts k places whole point fraction) (s : Bool) :
    readFloat? (signed s (whole ++ point ++ fraction)) = some (Decimal.toFloat ⟨s, k, -places⟩) := by
  have hd := readDecimal?_parts h s
  obtain ⟨c, r, rfl, hc⟩ := h.exists_head
  have hsign := cutSign_signed hc s (r ++ point ++ fraction)
  simp only [List.cons_append] at hd ⊢
  have hword : ∀ d w, d.toNat < 48 ∨ 57 < d.toNat →
      String.ofList ((c :: (r ++ point ++ fraction)).map Text.lowerAscii) ≠ String.ofList (d :: w) := by
    intro d w hdw he
    have := String.ofList_injective he
    rw [List.map_cons, lowerAscii_of_digit hc, List.cons.injEq] at this
    exact ne_of_digit hc hdw this.1
  rw [readFloat?, hsign]
  dsimp only
  rw [if_neg, if_neg, hd]
  · rfl
  · exact hword 'n' ['a', 'n'] (by decide)
  · rintro (he | he)
    · exact hword 'i' ['n', 'f'] (by decide) he
    · exact hword 'i' ['n', 'f', 'i', 'n', 'i', 't', 'y'] (by decide) he

theorem parseNumber_printed (s : Bool) (k places : ℕ) :
    parseNumber (signed s (withPoint k places)) = Decimal.toFloat ⟨s, k, -places⟩ := by
  obtain ⟨whole, point, fraction, h⟩ := exists_parts k places
  have htrim : Text.trimStart (signed s (whole ++ point ++ fraction)) = signed s (whole ++ point ++ fraction) := by
    obtain ⟨c, r, rfl, hc⟩ := h.exists_head
    have hb := not_isBlank_of_digit hc
    have hm : ¬ Text.isBlank '-' := by decide
    cases s <;> simp [signed, Text.trimStart, hb, hm]
  rw [h.eq, parseNumber, htrim, numberPrefix?_parts h, Option.bind_some, readFloat?_parts h, Option.getD_some]

lemma parseNumber_infinite (s : Bool) : parseNumber (signed s ['i', 'n', 'f']) = nan := by
  cases s <;> rfl

lemma parseNumber_nan : parseNumber ['N', 'a', 'N'] = nan := rfl

end Toolpath.Number
