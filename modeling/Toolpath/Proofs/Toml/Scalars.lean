import Toolpath.Proofs.Number.ShortestText
import Toolpath.Toml.Scalar

/-!
Numbers without exponents are read back as TOML values: doubles with a point, the infinite ones, and whole numbers
of 63 bits.
-/

namespace Toolpath.Toml

open Number
open Text (isAsciiDigit)

variable {t r ds : Text} {x : Float} {n : ℕ} {p : Char → Bool}

lemma digitGroups?_eq (ht : ∀ c ∈ t, p c) (hne : t ≠ []) (hp : ¬ p '_') : digitGroups? p t = some t := by
  induction t with
  | nil => exact absurd rfl hne
  | cons c t ih =>
    have hc := ht c List.mem_cons_self
    have ht' : ∀ a ∈ t, p a := fun a ha => ht a (List.mem_cons_of_mem c ha)
    cases t with
    | nil => rw [digitGroups?, if_pos hc]
    | cons d t =>
      rw [digitGroups?, if_pos hc, ih ht' (List.cons_ne_nil d t)]
      · rfl
      · exact nofun
      · intro r hr
        exact hp ((List.cons.inj hr).1 ▸ ht' d List.mem_cons_self)

lemma mem_of_digitGroups? (h : digitGroups? p t = some ds) : ∀ c ∈ t, p c ∨ c = '_' := by
  fun_induction digitGroups? p t generalizing ds with
  | case1 => exact nofun
  | case2 c hc => exact fun a ha => .inl (List.mem_singleton.mp ha ▸ hc)
  | case4 c r hc ih =>
    obtain ⟨ds, hds, -⟩ := Option.map_eq_some_iff.mp h
    intro a ha
    rcases List.mem_cons.mp ha with rfl | ha
    · exact .inl hc
    · rcases List.mem_cons.mp ha with rfl | ha
      · exact .inr rfl
      · exact ih hds a ha
  | case6 c r _ _ hc ih =>
    obtain ⟨ds, hds, -⟩ := Option.map_eq_some_iff.mp h
    intro a ha
    rcases List.mem_cons.mp ha with rfl | ha
    · exact .inl hc
    · exact ih hds a ha
  | case3 | case5 | case7 => cases h

lemma fixedDigits?_rest {count : ℕ} (h : fixedDigits? count t = some (n, r)) : r = t.drop count := by
  rw [fixedDigits?] at h
  split_ifs at h
  · cases h
  · obtain ⟨_, -, h⟩ := Option.bind_eq_some_iff.mp h
    exact ((Prod.mk.inj (Option.some.inj h)).2).symm

lemma mem_of_expect? {c : Char} (h : expect? c t = some r) : c ∈ t := by
  rw [expect?] at h
  split_ifs at h with hc
  exact List.mem_of_head? hc

lemma date?_mem (h : date? t = some r) : '-' ∈ t.drop 1 := by
  obtain ⟨⟨y, u⟩, hy, h⟩ := Option.bind_eq_some_iff.mp h
  obtain ⟨v, hv, -⟩ := Option.bind_eq_some_iff.mp h
  have hu := mem_of_expect? hv
  rw [fixedDigits?_rest hy] at hu
  exact List.mem_of_mem_drop (i := 3) (by rwa [List.drop_drop])

lemma time?_mem (h : time? t = some r) : ':' ∈ t := by
  obtain ⟨⟨y, u⟩, hy, h⟩ := Option.bind_eq_some_iff.mp h
  obtain ⟨v, hv, -⟩ := Option.bind_eq_some_iff.mp h
  have hu := mem_of_expect? hv
  rw [fixedDigits?_rest hy] at hu
  exact List.mem_of_mem_drop hu

lemma isMoment_eq_false (hminus : '-' ∉ t.drop 1) (hcolon : ':' ∉ t) : isMoment t = false := by
  have hdate : date? t = none := Option.eq_none_iff_forall_ne_some.mpr fun r h => hminus (date?_mem h)
  have htime : time? t = none := Option.eq_none_iff_forall_ne_some.mpr fun r h => hcolon (time?_mem h)
  rw [isMoment, hdate, htime]
  rfl

lemma not_isBaseDigit_point (base : ℕ) : ¬ isBaseDigit base '.' := by
  have h : isBaseDigit base '.' = (false && decide (hexValue '.' < base)) := rfl
  rw [h, Bool.false_and]
  exact Bool.false_ne_true

lemma baseInteger?_eq_none {base : ℕ} (h : '.' ∈ t) : baseInteger? base t = none := by
  have hgroups : digitGroups? (isBaseDigit base) t = none := by
    refine Option.eq_none_iff_forall_ne_some.mpr fun ds hds => ?_
    rcases mem_of_digitGroups? hds '.' h with hc | hc
    · exact not_isBaseDigit_point base hc
    · cases hc
  rw [baseInteger?, hgroups]
  rfl

lemma wholeDigits?_eq_none (h : '.' ∈ t) : wholeDigits? t = none := by
  rw [wholeDigits?]
  split
  · rfl
  · refine Option.eq_none_iff_forall_ne_some.mpr fun ds hds => ?_
    rcases mem_of_digitGroups? hds '.' h with hc | hc <;> cases hc

lemma mem_cutSign {c : Char} (h : c ∈ t) (hp : c ≠ '+') (hm : c ≠ '-') : c ∈ (cutSign t).2 := by
  fun_cases cutSign t with
  | case1 r => exact List.mem_of_ne_of_mem hp h
  | case2 r => exact List.mem_of_ne_of_mem hm h
  | case3 => exact h

lemma integer?_eq_none (h : '.' ∈ t) : integer? t = none := by
  fun_cases integer? t with
  | case4 =>
    rename_i hcut
    have hr := mem_cutSign h (by decide) (by decide)
    rw [hcut] at hr
    rw [wholeDigits?_eq_none hr]
    rfl
  | _ => exact baseInteger?_eq_none (List.mem_of_ne_of_mem (by decide) (List.mem_of_ne_of_mem (by decide) h))

lemma wholeDigits?_eq (ht : AllDigits t) (hne : t ≠ []) (hzero : t.head? = some '0' → t = ['0']) : wholeDigits? t = some t := by
  rw [wholeDigits?, if_neg, digitGroups?_eq ht hne (by decide)]
  rintro ⟨hhead, hlen⟩
  rw [hzero hhead] at hlen
  exact absurd hlen (by decide)

lemma cutSign_of_digits (ht : AllDigits t) (hne : t ≠ []) (s : Bool) (r : Text) :
    cutSign (signed s (t ++ r)) = (if s then ['-'] else [], t ++ r) := by
  obtain ⟨c, u, rfl⟩ := List.exists_cons_of_ne_nil hne
  exact cutSign_signed (ht c List.mem_cons_self) s (u ++ r)

lemma integer?_decimal (h : ∀ c r, t ≠ '0' :: c :: r) : integer? t =
    (wholeDigits? (cutSign t).2).bind fun ds => (digitsValue? ds).bind fun n =>
      within64? (if (cutSign t).1 = ['-'] then -(n : ℤ) else n) := by
  rw [integer?]
  · rfl
  all_goals exact h _

lemma integer?_ofNat (hn : n < 0x8000000000000000) : integer? (Text.ofNat n) = some (n : ℤ) := by
  have hdigits := digits_ofNat n
  have hne : Text.ofNat n ≠ [] := Nat.toDigits_ne_nil
  have hvalue : digitsValue? (Text.ofNat n) = some n := by
    rw [digitsValue?_eq hdigits, Text.ofNat, Nat.ofDigitChars_ten_toDigits]
  have hbase (c : Char) (r : Text) : Text.ofNat n ≠ '0' :: c :: r := by
    intro h
    have hzero := ofNat_of_head (n := n) (by rw [h]; rfl)
    rw [h] at hzero
    cases hzero
  have hsign : cutSign (Text.ofNat n) = ([], Text.ofNat n) := by
    simpa [signed] using cutSign_of_digits hdigits hne false []
  rw [integer?_decimal hbase, hsign, wholeDigits?_eq hdigits hne ofNat_of_head, Option.bind_some, hvalue, Option.bind_some,
    if_neg (List.cons_ne_nil _ _).symm, within64?, if_pos (by omega)]

lemma notMem_of_digits {c : Char} (ht : AllDigits t) (hc : ¬ isAsciiDigit c) : c ∉ t := fun h => hc (ht c h)

lemma ne_of_digits (ht : AllDigits t) {w : Text} (hw : w.any (! isAsciiDigit ·)) : t ≠ w := by
  rintro rfl
  obtain ⟨c, hc, hc'⟩ := List.any_eq_true.mp hw
  rw [ht c hc] at hc'
  cases hc'

theorem scalar?_ofNat (hn : n < 0x8000000000000000) : scalar? (Text.ofNat n) = some (.integer n) := by
  have hdigits := digits_ofNat n
  have hminus : '-' ∉ (Text.ofNat n).drop 1 := fun h => notMem_of_digits hdigits (by decide) (List.mem_of_mem_drop h)
  rw [scalar?, if_neg (ne_of_digits hdigits (by decide)), if_neg (ne_of_digits hdigits (by decide)),
    isMoment_eq_false hminus (notMem_of_digits hdigits (by decide)), if_neg Bool.false_ne_true, integer?_ofNat hn]

lemma not_beq_infinity (hx : x.isFinite) : ¬ x == infinity false := by
  have hinf := exact_infinity false
  intro h
  have hvalue := (beq_iff (ne_nan_of_isFinite hx) (by rw [hinf]; exact nofun)).mp h
  rw [value_of_infinite hinf, withSign, if_neg Bool.false_ne_true] at hvalue
  exact absurd (hvalue ▸ abs_value_lt_top hx) (by rw [abs_of_pos top_pos]; exact lt_irrefl _)

structure Pointed (whole fraction : Text) : Prop where
  before : AllDigits whole
  before_ne : whole ≠ []
  zero : whole.head? = some '0' → whole = ['0']
  behind : AllDigits fraction
  behind_ne : fraction ≠ []

lemma exists_pointed (k : ℕ) {places : ℕ} (hp : 0 < places) :
    ∃ whole fraction, Pointed whole fraction ∧ withPoint k places = whole ++ '.' :: fraction := by
  have h := parts_of_pos (k := k) hp
  have hne : padLeft places '0' (Text.ofNat (k % 10 ^ places)) ≠ [] := by
    rw [← List.length_pos_iff, h.length_eq]
    exact hp
  exact ⟨_, _, ⟨h.digits.1, h.whole_ne, ofNat_of_head, h.digits.2, hne⟩, by rw [h.eq, List.append_assoc]; rfl⟩

namespace Pointed

variable {whole fraction : Text} (h : Pointed whole fraction) (s : Bool)

include h

lemma float?_eq (hread : readFloat? (signed s (whole ++ '.' :: fraction)) = some x) (hx : x.isFinite) :
    float? (signed s (whole ++ '.' :: fraction)) = some x := by
  have hword (w : Text) (hw : w.all (· ≠ '.')) : whole ++ '.' :: fraction ≠ w := by
    rintro rfl
    simp at hw
  have hgroup {ds : Text} (hds : AllDigits ds) : ∀ c ∈ ds, isGroupChar c := fun c hc => by
    rw [isGroupChar, hds c hc, Bool.true_or]
  have hspan : (whole ++ '.' :: fraction).span isGroupChar = (whole, '.' :: fraction) :=
    span_append (hgroup h.before) fun c hc => by cases hc; decide
  have hspan' : fraction.span isGroupChar = (fraction, []) := by
    simpa using span_append (hgroup h.behind) (r := []) nofun
  have happend : (if s then ['-'] else []) ++ whole ++ '.' :: fraction ++ [] = signed s (whole ++ '.' :: fraction) := by
    cases s <;> simp [signed]
  rw [float?, cutSign_of_digits h.before h.before_ne]
  dsimp only
  rw [if_neg (hword _ (by decide)), if_neg (hword _ (by decide)), hspan]
  simp only [wholeDigits?_eq h.before h.before_ne h.zero, Option.bind_eq_bind, Option.bind_some, hspan',
    digitGroups?_eq h.behind h.behind_ne (by decide), Option.map_some, exponent?, happend, hread]
  exact if_neg (not_beq_infinity hx)

lemma isMoment_eq : isMoment (signed s (whole ++ '.' :: fraction)) = false := by
  have hnot {c : Char} (hc : ¬ isAsciiDigit c) (hp : c ≠ '.') : c ∉ whole ++ '.' :: fraction := by
    simp [notMem_of_digits h.before hc, notMem_of_digits h.behind hc, hp]
  refine isMoment_eq_false ?_ ?_
  · cases s with
    | true => exact hnot (by decide) (by decide)
    | false => exact fun hc => hnot (by decide) (by decide) (List.mem_of_mem_drop hc)
  · cases s with
    | true => exact List.not_mem_cons_of_ne_of_not_mem (by decide) (hnot (by decide) (by decide))
    | false => exact hnot (by decide) (by decide)

theorem scalar?_eq (hread : readFloat? (signed s (whole ++ '.' :: fraction)) = some x) (hx : x.isFinite) :
    scalar? (signed s (whole ++ '.' :: fraction)) = some (.float x) := by
  have hpoint : '.' ∈ signed s (whole ++ '.' :: fraction) := by cases s <;> simp [signed]
  have hword (w : Text) (hw : w.all (· ≠ '.')) : signed s (whole ++ '.' :: fraction) ≠ w := by
    intro he
    exact absurd (List.all_eq_true.mp hw '.' (he ▸ hpoint)) (by decide)
  rw [scalar?, if_neg (hword _ (by decide)), if_neg (hword _ (by decide)), h.isMoment_eq s, if_neg Bool.false_ne_true,
    integer?_eq_none hpoint, h.float?_eq s hread hx]
  rfl

end Pointed

theorem scalar?_infinite (s : Bool) : scalar? (signed s "inf".toList) = some (.float (infinity s)) := by
  cases s <;> rfl

end Toolpath.Toml
