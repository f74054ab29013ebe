import Toolpath.Json.Reader
import Toolpath.Proofs.Number.ShortestText

/-!
The numbers of a JSON text. Every number that is written is one, and reading stops where it ends.
-/

namespace Toolpath.Json

open Number Text

variable {t r whole fraction exponent u v w : Text} {x : Float} {n : ℕ}

def IsFraction (t : Text) : Prop := t = [] ∨ ∃ ds, AllDigits ds ∧ ds ≠ [] ∧ t = '.' :: ds

def IsExponent (t : Text) : Prop :=
  t = [] ∨ ∃ sign ds, (sign = '+' ∨ sign = '-') ∧ AllDigits ds ∧ ds ≠ [] ∧ t = 'e' :: sign :: ds

structure IsNumber (t : Text) : Prop where
  parts : ∃ s whole fraction exponent, t = signed s (whole ++ fraction ++ exponent) ∧
    AllDigits whole ∧ whole ≠ [] ∧ (whole.head? = some '0' → whole = ['0']) ∧ IsFraction fraction ∧ IsExponent exponent

def Follows (r : Text) : Prop := ∀ c ∈ r.head?, c = ',' ∨ c = '\n'

lemma readDigits?_append (ht : AllDigits t) (hne : t ≠ []) (hr : ∀ c ∈ r.head?, ¬ isAsciiDigit c) :
    readDigits? (t ++ r) = some (t, r) := by
  obtain ⟨c, u, rfl⟩ := List.exists_cons_of_ne_nil hne
  rw [readDigits?, span_append ht hr]

def readFraction? : Text → Option (Text × Text)
  | '.' :: r => (readDigits? r).map fun (d, r) => ('.' :: d, r)
  | t => some ([], t)

def readExponent? : Text → Option (Text × Text)
  | c :: r =>
    if c = 'e' ∨ c = 'E' then
      let (sign, r) := cutSign r
      (readDigits? r).map fun (d, r) => (c :: sign ++ d, r)
    else some ([], c :: r)
  | [] => some ([], [])

lemma bind_readExponent? {β : Type} (f : Text → Text → Option β) : ((readExponent? v).bind fun p => f p.1 p.2) =
    match v with
    | c :: r =>
      if c = 'e' ∨ c = 'E' then
        (Option.map (fun x : Text × Text => (c :: (cutSign r).1 ++ x.1, x.2)) (readDigits? (cutSign r).2)).bind
          fun p => f p.1 p.2
      else f [] v
    | [] => f [] [] := by
  cases v with
  | nil => rfl
  | cons c r =>
    rw [readExponent?]
    dsimp only
    split <;> rfl

lemma readNumber?_of_parts (s : Bool) (ht : ¬ t.head? = some '-') (hd : readDigits? t = some (whole, u))
    (hz : ¬ (1 < whole.length ∧ whole.head? = some '0')) (hf : readFraction? u = some (fraction, v))
    (he : readExponent? v = some (exponent, w)) :
    readNumber? (signed s t) = some (signed s (whole ++ fraction ++ exponent), w) := by
  have hresult (fraction exponent : Text) : signed s (whole ++ fraction ++ exponent) =
      (if s then ['-'] else []) ++ whole ++ fraction ++ exponent := by
    cases s <;> simp [signed]
  unfold readNumber?
  split
  rename_i minus rest hsign
  obtain ⟨rfl, rfl⟩ : (if s then ['-'] else []) = minus ∧ t = rest := by
    cases s with
    | true => simpa [signed] using hsign
    | false =>
      dsimp only [signed, Bool.false_eq_true, if_false] at hsign
      split at hsign <;> simp_all
  rw [hd]
  simp only [Option.bind_eq_bind, Option.bind_some, if_neg hz, ← hresult]
  have htail := bind_readExponent? (v := v) fun e r => pure (signed s (whole ++ fraction ++ e), r)
  rw [he] at htail
  split
  · rw [readFraction?] at hf
    rw [hf]
    exact htail.symm
  · rename_i hdot
    rw [readFraction?] at hf
    · cases hf
      exact htail.symm
    · exact hdot

lemma readExponent?_append (h : IsExponent exponent) (hr : Follows r) : readExponent? (exponent ++ r) = some (exponent, r) := by
  rcases h with rfl | ⟨sign, ds, hsign, hds, hne, rfl⟩
  · cases r with
    | nil => rfl
    | cons c r =>
      rw [List.nil_append, readExponent?, if_neg]
      rcases hr c rfl with rfl | rfl <;> decide
  · have hcut : cutSign (sign :: (ds ++ r)) = ([sign], ds ++ r) := by rcases hsign with rfl | rfl <;> rfl
    have hdigits := readDigits?_append hds hne (r := r) fun c hc => by rcases hr c hc with rfl | rfl <;> decide
    rw [List.cons_append, List.cons_append, readExponent?, if_pos (.inl rfl), hcut]
    dsimp only
    rw [hdigits]
    rfl

lemma head_exponent_append (h : IsExponent exponent) (hr : Follows r) {c : Char} (hc : c ∈ (exponent ++ r).head?) :
    c = 'e' ∨ c = ',' ∨ c = '\n' := by
  rcases h with rfl | ⟨sign, ds, -, -, -, rfl⟩
  · exact .inr (hr c hc)
  · exact .inl (Option.some.inj hc).symm

lemma readFraction?_append (h : IsFraction fraction) (he : IsExponent exponent) (hr : Follows r) :
    readFraction? (fraction ++ (exponent ++ r)) = some (fraction, exponent ++ r) := by
  rcases h with rfl | ⟨ds, hds, hne, rfl⟩
  · rw [List.nil_append]
    cases hu : exponent ++ r with
    | nil => rfl
    | cons c u =>
      have hc := head_exponent_append he hr (c := c) (by rw [hu]; rfl)
      rw [readFraction?]
      intro _ hdot
      cases hdot
      revert hc
      decide
  · have hdigits := readDigits?_append hds hne (r := exponent ++ r) fun c hc => by
      rcases head_exponent_append he hr hc with rfl | rfl | rfl <;> decide
    rw [List.cons_append, readFraction?, hdigits]
    rfl

lemma AllDigits.head (h : AllDigits whole) (hne : whole ≠ []) (r : Text) : ∀ c ∈ (whole ++ r).head?, isAsciiDigit c := by
  obtain ⟨c, w, rfl⟩ := List.exists_cons_of_ne_nil hne
  intro d hd
  cases hd
  exact h c List.mem_cons_self

theorem IsNumber.readNumber?_append (h : IsNumber t) (hr : Follows r) : readNumber? (t ++ r) = some (t, r) := by
  obtain ⟨s, whole, fraction, exponent, rfl, hwhole, hne, hzero, hfraction, hexponent⟩ := h
  have happend : signed s (whole ++ fraction ++ exponent) ++ r = signed s (whole ++ (fraction ++ (exponent ++ r))) := by
    cases s <;> simp [signed]
  have hnext : ∀ c ∈ (fraction ++ (exponent ++ r)).head?, ¬ isAsciiDigit c := by
    intro c hc
    rcases hfraction with rfl | ⟨ds, -, -, rfl⟩
    · rcases head_exponent_append hexponent hr hc with rfl | rfl | rfl <;> decide
    · cases hc
      decide
  rw [happend]
  refine readNumber?_of_parts s ?_ (readDigits?_append hwhole hne hnext) ?_ (readFraction?_append hfraction hexponent hr)
    (readExponent?_append hexponent hr)
  · intro hminus
    exact absurd (AllDigits.head hwhole hne _ '-' hminus) (by decide)
  · rintro ⟨hlen, hhead⟩
    rw [hzero hhead] at hlen
    exact absurd hlen (by decide)

lemma IsNumber.exists_head (h : IsNumber t) : ∃ c u, t = c :: u ∧ (c = '-' ∨ isAsciiDigit c) := by
  obtain ⟨s, whole, fraction, exponent, rfl, hwhole, hne, -⟩ := h
  obtain ⟨c, w, rfl⟩ := List.exists_cons_of_ne_nil hne
  cases s with
  | true => exact ⟨_, _, rfl, .inl rfl⟩
  | false => exact ⟨_, _, rfl, .inr (hwhole c List.mem_cons_self)⟩

lemma le_ofDigitChars (t : Text) (n : ℕ) : n ≤ Nat.ofDigitChars 10 t n := by
  induction t generalizing n with
  | nil => exact le_rfl
  | cons c t ih =>
    rw [Nat.ofDigitChars_cons]
    exact le_trans (by omega) (ih _)

lemma takeDigits_eq (t : Text) (n : ℕ) (h : Nat.ofDigitChars 10 t n < 0x10000000000000000) :
    takeDigits n t = (Nat.ofDigitChars 10 t n, 0) := by
  induction t generalizing n with
  | nil => rfl
  | cons c t ih =>
    have hzero : '0'.toNat = 48 := rfl
    rw [Nat.ofDigitChars_cons, hzero] at h ⊢
    rw [takeDigits, if_pos ((le_ofDigitChars t _).trans_lt h)]
    exact ih _ h

theorem natValue?_ofNat (hn : n < 2 ^ 64) : natValue? (Text.ofNat n) = some n := by
  have hdigits := digits_ofNat n
  have hvalue : Nat.ofDigitChars 10 (Text.ofNat n) 0 = n := Nat.ofDigitChars_ten_toDigits
  have htake := takeDigits_eq (Text.ofNat n) 0 (by rw [hvalue]; exact hn)
  have hspan : (Text.ofNat n).span isAsciiDigit = (Text.ofNat n, []) := by
    simpa using span_append hdigits (r := []) nofun
  have hminus (r : Text) : Text.ofNat n ≠ '-' :: r := fun h =>
    absurd (hdigits '-' (h ▸ List.mem_cons_self)) (by decide)
  have hscaled : scaled (Text.ofNat n) = .whole n := by
    unfold scaled
    split
    rename_i negative t hsign
    obtain ⟨rfl, rfl⟩ : negative = false ∧ t = Text.ofNat n := by
      split at hsign
      · rename_i r h
        exact absurd h (hminus r)
      · exact ⟨(Prod.mk.inj hsign).1.symm, (Prod.mk.inj hsign).2.symm⟩
    simp only [hspan, htake, hvalue, takeDigits]
    rfl
  rw [natValue?, hscaled]
  simp

lemma isNumber_ofNat (n : ℕ) : IsNumber (Text.ofNat n) :=
  ⟨false, Text.ofNat n, [], [], by simp [signed], digits_ofNat n, Nat.toDigits_ne_nil, ofNat_of_head, .inl rfl, .inl rfl⟩

lemma isNumber_withPoint (s : Bool) (k : ℕ) {places : ℕ} (hp : 0 < places) : IsNumber (signed s (withPoint k places)) := by
  have h := parts_of_pos (k := k) hp
  refine ⟨s, _, '.' :: padLeft places '0' (Text.ofNat (k % 10 ^ places)), [], ?_, h.digits.1, h.whole_ne, ofNat_of_head,
    .inr ⟨_, h.digits.2, ?_, rfl⟩, .inl rfl⟩
  · rw [h.eq]
    simp
  · rw [← List.length_pos_iff, h.length_eq]
    exact hp

lemma isNumber_scientific (s : Bool) (d : Digits) : IsNumber (signed s d.scientific) := by
  have hdigits := digits_ofNat d.digits
  obtain ⟨c, r, hr⟩ := List.exists_cons_of_ne_nil (Nat.toDigits_ne_nil (b := 10) (n := d.digits))
  rw [← Text.ofNat] at hr
  rw [hr] at hdigits
  have hc : AllDigits [c] := fun a ha => hdigits a (List.mem_cons.mpr (.inl (List.mem_singleton.mp ha)))
  have hzero : [c].head? = some '0' → [c] = ['0'] := fun h => by rw [Option.some.inj h]
  rw [Digits.scientific, hr]
  generalize d.exponent + ((c :: r).length : ℤ) - 1 = e
  have hexponent : IsExponent ('e' :: (if e < 0 then '-' else '+') :: Text.ofNat e.natAbs) :=
    .inr ⟨_, _, (ite_eq_or_eq ..).symm, digits_ofNat _, Nat.toDigits_ne_nil, rfl⟩
  cases r with
  | nil => exact ⟨s, [c], [], _, by simp, hc, List.cons_ne_nil _ _, hzero, .inl rfl, hexponent⟩
  | cons x r =>
    have hr' : AllDigits (x :: r) := fun a ha => hdigits a (List.mem_cons_of_mem c ha)
    exact ⟨s, [c], '.' :: x :: r, _, by simp, hc, List.cons_ne_nil _ _, hzero,
      .inr ⟨_, hr', List.cons_ne_nil _ _, rfl⟩, hexponent⟩

theorem isNumber_floatText (h : floatText x = some t) : IsNumber t := by
  rw [floatText] at h
  split at h
  · rename_i d hx
    split_ifs at h with hz
    · obtain rfl := Option.some.inj h
      exact isNumber_withPoint d.negative 0 one_pos
    · obtain rfl := Option.some.inj h
      split
      · obtain ⟨k, places, hp, he, -⟩ := readFloat?_plain hx (Nat.pos_of_ne_zero hz) .toEven
        rw [he]
        exact isNumber_withPoint d.negative k hp
      · exact isNumber_scientific d.negative _
  · cases h

end Toolpath.Json
