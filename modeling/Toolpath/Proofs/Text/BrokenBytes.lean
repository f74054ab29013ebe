import Mathlib.Data.List.Forall2
import Toolpath.Proofs.Text.Utf8

/-!
Bytes that are no text. Where no character begins, one replacement character stands for the longest run of
bytes with which a character could have begun, or for a single byte if there is no such run. There is only one
text that bytes are told apart into by this rule, and it is the one that the decoder gives.
-/

namespace Toolpath.Text.Utf8

def Opens (p : Bytes) : Prop := ∃ c, p <+: String.utf8EncodeChar c

/-- No character stands at the start of `b`, and `p` is the piece of `b` that is replaced there. -/
structure IsBroken (p b : Bytes) : Prop where
  noCharacter : ∀ c, ¬ String.utf8EncodeChar c <+: b
  begins : p <+: b
  nonempty : p ≠ []
  opens : Opens p ∨ p.length = 1
  longest : ∀ q, q <+: b → Opens q → q.length ≤ p.length

/-- A text for any bytes: characters where they are, replacement characters for the broken pieces between them. -/
inductive Decodes : Bytes → Text → Prop
  | nil : Decodes [] []
  | character {b r : Bytes} {t : Text} (c : Char) (hb : b = String.utf8EncodeChar c ++ r) (hr : Decodes r t) :
    Decodes b (c :: t)
  | replaced {b p r : Bytes} {t : Text} (hb : b = p ++ r) (hp : IsBroken p b) (hr : Decodes r t) :
    Decodes b ('\uFFFD' :: t)

def InRange (range : Nat × Nat) (b : UInt8) : Prop := range.1 ≤ b.toNat ∧ b.toNat ≤ range.2

variable {b : UInt8} {c : Char} {value n : Nat} {ranges : List (Nat × Nat)} {p q r bs cs : Bytes} {t u : Text}

lemma exists_forall₂ (h : ∀ x ∈ ranges, ∃ b, InRange x b) : ∃ cs, List.Forall₂ InRange ranges cs := by
  induction ranges with
  | nil => exact ⟨[], .nil⟩
  | cons range ranges ih =>
    obtain ⟨b, hb⟩ := h range List.mem_cons_self
    obtain ⟨cs, hcs⟩ := ih fun x hx => h x (List.mem_cons_of_mem _ hx)
    exact ⟨b :: cs, .cons hb hcs⟩

lemma follow_spec (h : ∀ x ∈ ranges, ∃ b, InRange x b) (value : Nat) (r : Bytes) :
    ∃ bs cs, r = bs ++ (follow value ranges r).2 ∧ List.Forall₂ InRange ranges (bs ++ cs) ∧
      ((follow value ranges r).1.isSome → cs = []) := by
  induction ranges generalizing value r with
  | nil => exact ⟨[], [], rfl, .nil, fun _ => rfl⟩
  | cons range ranges ih =>
    have hstuck : ∃ cs, List.Forall₂ InRange (range :: ranges) ([] ++ cs) := exists_forall₂ h
    cases r with
    | nil =>
      obtain ⟨cs, hcs⟩ := hstuck
      exact ⟨[], cs, rfl, hcs, fun h => absurd h Bool.false_ne_true⟩
    | cons b r =>
      rw [follow]
      split
      · rename_i hb
        obtain ⟨bs, cs, hr, hcs, hend⟩ := ih (fun x hx => h x (List.mem_cons_of_mem _ hx))
          (64 * value + (b.toNat - 0x80)) r
        exact ⟨b :: bs, cs, congrArg (b :: ·) hr, .cons hb hcs, hend⟩
      · obtain ⟨cs, hcs⟩ := hstuck
        exact ⟨[], cs, rfl, hcs, fun h => absurd h Bool.false_ne_true⟩

lemma length_le_of_follow (h : (follow value ranges r).1 = none) (hq : q <+: r) (hcs : List.Forall₂ InRange ranges cs)
    (hqc : q <+: cs) : q.length + (follow value ranges r).2.length ≤ r.length := by
  induction hcs generalizing value r q with
  | nil => cases h
  | @cons range x ranges cs hx hcs ih =>
    cases r with
    | nil =>
      rw [List.prefix_nil.mp hq]
      exact Nat.le_refl _
    | cons b r =>
      cases q with
      | nil =>
        rw [List.length_nil, Nat.zero_add]
        exact length_follow_le ..
      | cons y q =>
        obtain ⟨rfl, hqr⟩ := List.cons_prefix_cons.mp hq
        obtain ⟨rfl, hqs⟩ := List.cons_prefix_cons.mp hqc
        have hx : range.1 ≤ y.toNat ∧ y.toNat ≤ range.2 := hx
        rw [follow, if_pos hx] at h ⊢
        have hle := ih h hqr hqs
        rw [List.length_cons, List.length_cons]
        omega

lemma lead?_cases (h : lead? n = some (value, ranges)) :
    n < 0x80 ∧ ranges = [] ∨
    0xC2 ≤ n ∧ n < 0xE0 ∧ ranges = [(0x80, 0xBF)] ∨
    0xE0 ≤ n ∧ n < 0xF0 ∧
      ranges = [(if n = 0xE0 then 0xA0 else 0x80, if n = 0xED then 0x9F else 0xBF), (0x80, 0xBF)] ∨
    0xF0 ≤ n ∧ n ≤ 0xF4 ∧
      ranges = [(if n = 0xF0 then 0x90 else 0x80, if n = 0xF4 then 0x8F else 0xBF), (0x80, 0xBF), (0x80, 0xBF)] := by
  have hsame : ∀ {v rs}, lead? n = some (v, rs) → ranges = rs := by
    intro v rs hl
    rw [h] at hl
    exact (Prod.mk.inj (Option.some.inj hl)).2
  by_cases hone : n < 0x80
  · exact .inl ⟨hone, hsame (if_pos hone)⟩
  by_cases hlow : n < 0xC2
  · rw [lead?, if_neg hone, if_pos hlow] at h
    cases h
  by_cases htwo : n < 0xE0
  · exact .inr (.inl ⟨by omega, htwo, hsame (lead?_two (by omega) htwo)⟩)
  by_cases hthree : n < 0xF0
  · exact .inr (.inr (.inl ⟨by omega, hthree, hsame (lead?_three (by omega) hthree)⟩))
  by_cases hfour : n ≤ 0xF4
  · exact .inr (.inr (.inr ⟨by omega, hfour, hsame (lead?_four (by omega) hfour)⟩))
  · rw [lead?] at h
    split_ifs at h <;> omega

lemma exists_inRange {low high : Nat} (h : low ≤ high) (hh : high < 256) : ∃ b, InRange (low, high) b := by
  refine ⟨UInt8.ofNat low, ?_⟩
  rw [InRange, UInt8.toNat_ofNat_of_lt' (Nat.lt_of_le_of_lt h hh)]
  exact ⟨Nat.le_refl _, h⟩

lemma lead?_inRange (h : lead? n = some (value, ranges)) : ∀ x ∈ ranges, ∃ b, InRange x b := by
  have htail : ∃ b, InRange (0x80, 0xBF) b := exists_inRange (by decide) (by decide)
  rcases lead?_cases h with ⟨-, rfl⟩ | ⟨-, -, rfl⟩ | ⟨-, -, rfl⟩ | ⟨-, -, rfl⟩
  · exact fun x hx => nomatch hx
  · simpa using htail
  · simp only [List.forall_mem_cons]
    exact ⟨exists_inRange (by split_ifs <;> omega) (by split_ifs <;> omega), htail, fun x hx => nomatch hx⟩
  · simp only [List.forall_mem_cons]
    exact ⟨exists_inRange (by split_ifs <;> omega) (by split_ifs <;> omega), htail, htail, fun x hx => nomatch hx⟩

lemma exists_toNat_eq (hn : n.isValidChar) : ∃ c : Char, c.val.toNat = n := ⟨Char.ofNatAux n hn, rfl⟩

lemma ofNat_eq_iff (hn : n < 256) : UInt8.ofNat n = b ↔ n = b.toNat := by
  rw [← UInt8.toNat_inj, UInt8.toNat_ofNat_of_lt' hn]

lemma exists_char (h : lead? b.toNat = some (value, ranges)) (hbs : List.Forall₂ InRange ranges bs) :
    ∃ c, String.utf8EncodeChar c = b :: bs := by
  rcases lead?_cases h with ⟨hb, rfl⟩ | ⟨hl, hh, rfl⟩ | ⟨hl, hh, rfl⟩ | ⟨hl, hh, rfl⟩
  · obtain _ | _ := hbs
    obtain ⟨c, hc⟩ := exists_toNat_eq (n := b.toNat) (.inl (by omega))
    refine ⟨c, ?_⟩
    simp only [String.utf8EncodeChar, hc, if_pos (show b.toNat ≤ 127 by omega), UInt8.ofNat_toNat]
  · obtain _ | @⟨_, x, _, _, hx, _ | _⟩ := hbs
    obtain ⟨hxl, hxh⟩ : 0x80 ≤ x.toNat ∧ x.toNat ≤ 0xBF := hx
    obtain ⟨c, hc⟩ := exists_toNat_eq (n := 64 * (b.toNat - 0xC0) + (x.toNat - 0x80)) (.inl (by omega))
    refine ⟨c, ?_⟩
    simp only [String.utf8EncodeChar, hc]
    rw [if_neg (by omega), if_pos (by omega)]
    simp (disch := omega) only [List.cons.injEq, ofNat_eq_iff, and_true]
    omega
  · obtain _ | @⟨_, x, _, _, hx, _ | @⟨_, y, _, _, hy, _ | _⟩⟩ := hbs
    obtain ⟨hyl, hyh⟩ : 0x80 ≤ y.toNat ∧ y.toNat ≤ 0xBF := hy
    have hx : 0x80 ≤ x.toNat ∧ x.toNat ≤ 0xBF ∧ (b.toNat = 0xE0 → 0xA0 ≤ x.toNat) ∧
        (b.toNat = 0xED → x.toNat ≤ 0x9F) := by
      simp only [InRange] at hx
      split_ifs at hx <;> omega
    obtain ⟨c, hc⟩ := exists_toNat_eq
      (n := 64 * (64 * (b.toNat - 0xE0) + (x.toNat - 0x80)) + (y.toNat - 0x80)) (by rw [Nat.isValidChar]; omega)
    refine ⟨c, ?_⟩
    simp only [String.utf8EncodeChar, hc]
    rw [if_neg (by omega), if_neg (by omega), if_pos (by omega)]
    simp (disch := omega) only [List.cons.injEq, ofNat_eq_iff, and_true]
    omega
  · obtain _ | @⟨_, x, _, _, hx, _ | @⟨_, y, _, _, hy, _ | @⟨_, z, _, _, hz, _ | _⟩⟩⟩ := hbs
    obtain ⟨hyl, hyh⟩ : 0x80 ≤ y.toNat ∧ y.toNat ≤ 0xBF := hy
    obtain ⟨hzl, hzh⟩ : 0x80 ≤ z.toNat ∧ z.toNat ≤ 0xBF := hz
    have hx : 0x80 ≤ x.toNat ∧ x.toNat ≤ 0xBF ∧ (b.toNat = 0xF0 → 0x90 ≤ x.toNat) ∧
        (b.toNat = 0xF4 → x.toNat ≤ 0x8F) := by
      simp only [InRange] at hx
      split_ifs at hx <;> omega
    obtain ⟨c, hc⟩ := exists_toNat_eq
      (n := 64 * (64 * (64 * (b.toNat - 0xF0) + (x.toNat - 0x80)) + (y.toNat - 0x80)) + (z.toNat - 0x80))
      (by rw [Nat.isValidChar]; omega)
    refine ⟨c, ?_⟩
    simp only [String.utf8EncodeChar, hc]
    rw [if_neg (by omega), if_neg (by omega), if_neg (by omega)]
    simp (disch := omega) only [List.cons.injEq, ofNat_eq_iff, and_true]
    omega

lemma inRange_of_next (h : next b r = (some c, q)) : ∃ value ranges bs, lead? b.toNat = some (value, ranges) ∧
    List.Forall₂ InRange ranges bs ∧ r = bs ++ q := by
  rw [next] at h
  split at h
  · rename_i value ranges hl
    obtain ⟨hsome, hrest⟩ := Prod.mk.inj h
    obtain ⟨bs, cs, hr, hcs, hend⟩ := follow_spec (lead?_inRange hl) value r
    have hnil : cs = [] := hend (by rw [← Option.isSome_map, hsome]; rfl)
    rw [hnil, List.append_nil] at hcs
    rw [hrest] at hr
    exact ⟨value, ranges, bs, hl, hcs, hr⟩
  · cases h

lemma exists_lead (c : Char) : ∃ b bs value ranges, String.utf8EncodeChar c = b :: bs ∧
    lead? b.toNat = some (value, ranges) ∧ List.Forall₂ InRange ranges bs := by
  obtain ⟨b, bs, hc, hn⟩ := next_encode c []
  obtain ⟨value, ranges, cs, hl, hcs, hbs⟩ := inRange_of_next hn
  rw [List.append_cancel_right hbs] at hc
  exact ⟨b, cs, value, ranges, hc, hl, hcs⟩

lemma Opens.exists_lead (h : Opens (b :: q)) : ∃ value ranges cs, lead? b.toNat = some (value, ranges) ∧
    List.Forall₂ InRange ranges cs ∧ q <+: cs := by
  obtain ⟨c, hc⟩ := h
  obtain ⟨b', cs, value, ranges, he, hl, hcs⟩ := Utf8.exists_lead c
  rw [he] at hc
  obtain ⟨rfl, hq⟩ := List.cons_prefix_cons.mp hc
  exact ⟨value, ranges, cs, hl, hcs, hq⟩

lemma eq_of_next (h : next b r = (some c, q)) : b :: r = String.utf8EncodeChar c ++ q := by
  obtain ⟨value, ranges, bs, hl, hbs, hr⟩ := inRange_of_next h
  obtain ⟨d, hd⟩ := exists_char hl hbs
  obtain ⟨a, as, he, hn⟩ := next_encode d q
  obtain ⟨rfl, rfl⟩ := List.cons.inj (hd.symm.trans he)
  rw [← hr, h] at hn
  rw [Option.some.inj (Prod.mk.inj hn).1, hd, hr]
  rfl

lemma not_prefix_of_next (h : (next b r).1 = none) (c : Char) : ¬ String.utf8EncodeChar c <+: b :: r := by
  rintro ⟨q, hq⟩
  obtain ⟨a, as, he, hn⟩ := next_encode c q
  rw [he, List.cons_append] at hq
  obtain ⟨rfl, rfl⟩ := List.cons.inj hq
  rw [hn] at h
  cases h

lemma broken_of_next (h : (next b r).1 = none) : ∃ p, b :: r = p ++ (next b r).2 ∧ IsBroken p (b :: r) := by
  have hno := not_prefix_of_next h
  cases hl : lead? b.toNat with
  | none =>
    have hrest : (next b r).2 = r := by rw [next, hl]
    refine ⟨[b], by rw [hrest]; rfl, hno, List.prefix_append [b] r, List.cons_ne_nil _ _, .inr rfl, ?_⟩
    rintro (_ | ⟨a, q⟩) hq ho
    · exact Nat.zero_le _
    · obtain ⟨rfl, -⟩ := List.cons_prefix_cons.mp hq
      obtain ⟨value, ranges, cs, hl', -⟩ := ho.exists_lead
      rw [hl] at hl'
      cases hl'
  | some x =>
    obtain ⟨value, ranges⟩ := x
    have hnext : next b r = ((follow value ranges r).1.map Char.ofNat, (follow value ranges r).2) := by rw [next, hl]
    rw [hnext] at h ⊢
    have hstop : (follow value ranges r).1 = none := Option.map_eq_none_iff.mp h
    obtain ⟨bs, cs, hr, hcs, -⟩ := follow_spec (lead?_inRange hl) value r
    obtain ⟨c, hc⟩ := exists_char hl hcs
    have hb : b :: r = b :: bs ++ (follow value ranges r).2 := congrArg (b :: ·) hr
    refine ⟨b :: bs, hb, hno, ⟨_, hb.symm⟩, List.cons_ne_nil _ _, .inl ⟨c, cs, hc.symm⟩, ?_⟩
    rintro (_ | ⟨a, q⟩) hq ho
    · exact Nat.zero_le _
    · obtain ⟨rfl, hqr⟩ := List.cons_prefix_cons.mp hq
      obtain ⟨value', ranges', cs', hl', hcs', hqc⟩ := ho.exists_lead
      rw [hl] at hl'
      cases hl'
      have hle := length_le_of_follow hstop hqr hcs' hqc
      have hlen := congrArg List.length hr
      rw [List.length_append] at hlen
      rw [List.length_cons, List.length_cons]
      omega

theorem decodes_decodeLossy (b : Bytes) : Decodes b (decodeLossy b) := by
  induction b using characters.induct with
  | case1 =>
    rw [decodeLossy, characters]
    exact .nil
  | case2 b r ih =>
    rw [decodeLossy, characters, List.map_cons]
    cases hn : (next b r).1 with
    | some c => exact .character c (eq_of_next (Prod.ext hn rfl)) ih
    | none =>
      obtain ⟨p, hb, hp⟩ := broken_of_next hn
      exact .replaced hb hp ih

lemma IsBroken.length_le {s : Bytes} (hp : IsBroken p s) (hq : IsBroken q s) : p.length ≤ q.length := by
  rcases hp.opens with ho | hone
  · exact hq.longest p hp.begins ho
  · rw [hone]
    exact List.length_pos_of_ne_nil hq.nonempty

lemma IsBroken.unique {s : Bytes} (hp : IsBroken p s) (hq : IsBroken q s) : p = q := by
  have hpq : p <+: q := List.prefix_of_prefix_length_le hp.begins hq.begins (hp.length_le hq)
  exact hpq.eq_of_length (Nat.le_antisymm (hp.length_le hq) (hq.length_le hp))

lemma encodeChar_append_inj {d : Char} (h : String.utf8EncodeChar c ++ r = String.utf8EncodeChar d ++ q) :
    c = d ∧ r = q := by
  obtain ⟨a, as, hc, hnc⟩ := next_encode c r
  obtain ⟨b, bs, hd, hnd⟩ := next_encode d q
  rw [hc, hd, List.cons_append, List.cons_append] at h
  obtain ⟨rfl, hr⟩ := List.cons.inj h
  rw [hr, hnd] at hnc
  obtain ⟨hcd, hqr⟩ := Prod.mk.inj hnc
  exact ⟨(Option.some.inj hcd).symm, hqr.symm⟩

lemma encodeChar_ne_nil (c : Char) : String.utf8EncodeChar c ≠ [] := by
  obtain ⟨b, bs, hc, -⟩ := next_encode c []
  rw [hc]
  exact List.cons_ne_nil _ _

theorem Decodes.unique {s : Bytes} (ht : Decodes s t) (hu : Decodes s u) : t = u := by
  induction ht generalizing u with
  | nil =>
    cases hu with
    | nil => rfl
    | character c hb => exact absurd (List.append_eq_nil_iff.mp hb.symm).1 (encodeChar_ne_nil c)
    | replaced hb hp => exact absurd (List.append_eq_nil_iff.mp hb.symm).1 hp.nonempty
  | character c hb hr ih =>
    cases hu with
    | nil => exact absurd (List.append_eq_nil_iff.mp hb.symm).1 (encodeChar_ne_nil c)
    | character d hd hu =>
      obtain ⟨rfl, rfl⟩ := encodeChar_append_inj (hb.symm.trans hd)
      rw [ih hu]
    | replaced hd hp => exact absurd ⟨_, hb.symm⟩ (hp.noCharacter c)
  | replaced hb hp hr ih =>
    cases hu with
    | nil => exact absurd (List.append_eq_nil_iff.mp hb.symm).1 hp.nonempty
    | character d hd => exact absurd ⟨_, hd.symm⟩ (hp.noCharacter d)
    | replaced hd hq hu =>
      obtain rfl := hp.unique hq
      obtain rfl := List.append_cancel_left (hb.symm.trans hd)
      rw [ih hu]

theorem decodes_iff {s : Bytes} : Decodes s t ↔ t = decodeLossy s :=
  ⟨fun h => h.unique (decodes_decodeLossy s), fun h => h ▸ decodes_decodeLossy s⟩

example : decodeLossy [0xE2, 0x82, 0xE2, 0x28, 0x80] = ['\uFFFD', '\uFFFD', '(', '\uFFFD'] := by
  decide +kernel

lemma decodeLossy_encode (t : Text) : decodeLossy (encode t) = t := by
  have h := characters_encode_append t []
  rw [List.append_nil, characters, List.append_nil] at h
  rw [decodeLossy, h, List.map_map]
  exact List.map_id t

lemma eq_encode_of_decode? {s : Bytes} (h : decode? s = some t) : s = encode t := by
  induction s using characters.induct generalizing t with
  | case1 =>
    rw [decode?, characters] at h
    rw [← Option.some.inj h]
    rfl
  | case2 b r ih =>
    rw [decode?, characters, List.mapM_cons] at h
    obtain ⟨c, hc, h⟩ := Option.bind_eq_some_iff.mp h
    obtain ⟨u, hu, h⟩ := Option.bind_eq_some_iff.mp h
    rw [← Option.some.inj h]
    exact (eq_of_next (Prod.ext hc rfl)).trans (congrArg (String.utf8EncodeChar c ++ ·) (ih hu))

lemma decode?_eq_some_iff {s : Bytes} : decode? s = some t ↔ s = encode t :=
  ⟨eq_encode_of_decode?, fun h => h ▸ decode?_encode t⟩

end Toolpath.Text.Utf8
