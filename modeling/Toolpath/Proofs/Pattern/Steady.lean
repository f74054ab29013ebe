import Mathlib.Data.List.Infix
import Mathlib.Data.List.TakeWhile
import Mathlib.Tactic.Lemma
import Toolpath.Pattern.Reader

/-!
Reading with more text behind. A closing parenthesis put after a text is left over by what reads a part of the text,
unless the part is not complete without it or ends within a comment. Readers put together of such readers do the same.
-/

namespace Toolpath.Pattern

abbrev Reader (α : Type) := Text → Except Flaw (α × Text)

variable {α β : Type} {z : Text}

namespace Reader

def done (x : α) : Reader α := fun t => .ok (x, t)

def fail (e : Flaw) : Reader α := fun _ => .error e

def given (x : Except Flaw α) (next : α → Reader β) : Reader β := fun t => x >>= fun a => next a t

def chain (first : Reader α) (next : α → Reader β) : Reader β := fun t => first t >>= fun a => next a.1 a.2

def item (e : Flaw) (next : Char → Reader α) : Reader α
  | [] => .error e
  | c :: r => next c r

def peek (c₀ : Char) (yes no : Reader α) : Reader α
  | [] => no []
  | c :: r => if c = c₀ then yes r else no (c :: r)

def branch (ahead : Text → Bool) (yes no : Reader α) : Reader α := fun t => if ahead t then yes t else no t

def attempt (read? : Text → Option (α × Text)) (yes : α → Reader β) (no : Reader β) : Reader β := fun t =>
  match read? t with
  | some (a, r) => yes a r
  | none => no t

def skipping (f : Flags) (read : Reader α) : Reader α := fun t => read (skip f t)

def trimming (read : Reader α) : Reader α := fun t => read (Text.trimStart t)

def run (f : Flags) (p : Char → Bool) : Reader Text := fun t => .ok (takeRun f p t.length t)

def through (f : Flags) (p : Char → Bool) (e : Flaw) (next : Text → Reader α) : Reader α := fun t =>
  match takeRun f p t.length t with
  | (_, []) => .error e
  | (run, _ :: r) => next run r

section

variable {c₀ c : Char} {yes no : Reader α} {t : Text}

lemma ok_bind (a : α) (g : α → Except Flaw β) : (.ok a >>= g : Except Flaw β) = g a := rfl

lemma toOption_bind (a : Except Flaw α) (g : α → Except Flaw β) :
    (a >>= g).toOption = a.toOption.bind fun x => (g x).toOption := by
  cases a <;> rfl

lemma given_ok (a : α) (next : α → Reader β) : given (.ok a) next t = next a t := rfl

lemma peek_self : peek c₀ yes no (c₀ :: t) = yes t := if_pos rfl

lemma peek_cons (h : c ≠ c₀) : peek c₀ yes no (c :: t) = no (c :: t) := if_neg h

lemma peek_other (h : ∀ r, t = c₀ :: r → False) : peek c₀ yes no t = no t := by
  cases t with
  | nil => rfl
  | cons c r => exact peek_cons fun hc => h r (by rw [hc])

lemma peek_fail {e : Flaw} : peek c₀ (fail e) (fail e) t = (.error e : Except Flaw (α × Text)) := by
  rw [peek.eq_def]
  split
  · rfl
  · split <;> rfl

end

end Reader

open Reader

/-- How a reader does on a text, and on the same text with a closing parenthesis and `z` after it. -/
inductive ReadsOn (z : Text) : Except Flaw (α × Text) → Except Flaw (α × Text) → Prop
  | same (x : α) (r : Text) : ReadsOn z (.ok (x, r)) (.ok (x, r ++ ')' :: z))
  | fails (e e' : Flaw) : ReadsOn z (.error e) (.error e')
  -- What comes after is taken for a missing part.
  | beyond (e : Flaw) (x : α) (r : Text) (h : r <:+ z) : ReadsOn z (.error e) (.ok (x, r))
  -- What comes after is part of a comment.
  | comment (x : α) : ReadsOn z (.ok (x, [])) (.ok (x, []))

lemma ReadsOn.map {a a' : Except Flaw (α × Text)} (h : ReadsOn z a a') (g : α → β) :
    ReadsOn z (a.map fun x => (g x.1, x.2)) (a'.map fun x => (g x.1, x.2)) := by
  cases h with
  | same x r => exact .same (g x) r
  | fails e e' => exact .fails e e'
  | beyond e x r h => exact .beyond e (g x) r h
  | comment x => exact .comment (g x)

/-- A reader that leaves an end of its text over, and the same parenthesis whether it sees it or not. -/
structure Steady (z : Text) (read : Reader α) : Prop where
  suffix : ∀ t x r, read t = .ok (x, r) → r <:+ t
  readsOn : ∀ t, ReadsOn z (read t) (read (t ++ ')' :: z))

namespace Steady

lemma readsOn_error {read : Reader α} (h : Steady z read) (e : Flaw) {t : Text} (ht : t <:+ z) :
    ReadsOn z (.error e) (read t) := by
  cases hr : read t with
  | error e' => exact .fails e e'
  | ok a => exact .beyond e a.1 a.2 ((h.suffix _ _ _ hr).trans ht)

lemma readsOn_nil {read : Reader α} (h : Steady z read) : ReadsOn z (read []) (read []) := by
  cases hr : read [] with
  | error e => exact .fails e e
  | ok a =>
    obtain ⟨x, r⟩ := a
    obtain rfl := List.suffix_nil.mp (h.suffix _ _ _ hr)
    exact .comment x

lemma done (x : α) : Steady z (done x) := by
  refine ⟨?_, fun t => .same x t⟩
  rintro t _ r ⟨⟩
  exact List.suffix_rfl

lemma never {read : Reader α} (h : ∀ t a, read t ≠ .ok a) : Steady z read := by
  refine ⟨fun t x r hr => absurd hr (h t _), fun t => ?_⟩
  cases hr : read t with
  | ok a => exact absurd hr (h t a)
  | error e =>
    cases hr' : read (t ++ ')' :: z) with
    | ok a => exact absurd hr' (h _ a)
    | error e' => exact .fails e e'

lemma fail (e : Flaw) : Steady z (fail e : Reader α) := never fun _ _ => nofun

lemma congr {read read' : Reader α} (h : Steady z read) (heq : ∀ t, (read' t).toOption = (read t).toOption) :
    Steady z read' := by
  have hok : ∀ t a, read' t = .ok a ↔ read t = .ok a := by
    intro t a
    have := heq t
    cases hr : read t <;> cases hr' : read' t <;> rw [hr, hr'] at this <;> simp_all [Except.toOption]
  have herror : ∀ t e, read t = .error e → ∃ e', read' t = .error e' := by
    intro t e he
    cases hr' : read' t with
    | error e' => exact ⟨e', rfl⟩
    | ok a =>
      rw [(hok t a).mp hr'] at he
      cases he
  refine ⟨fun t x r hr => h.suffix t x r ((hok _ _).mp hr), fun t => ?_⟩
  have hread := h.readsOn t
  generalize ha : read t = a, ha' : read (t ++ ')' :: z) = a' at hread
  cases hread with
  | same x r =>
    rw [(hok _ _).mpr ha, (hok _ _).mpr ha']
    exact .same x r
  | fails e e' =>
    obtain ⟨e₁, h₁⟩ := herror _ _ ha
    obtain ⟨e₂, h₂⟩ := herror _ _ ha'
    rw [h₁, h₂]
    exact .fails e₁ e₂
  | beyond e x r hr =>
    obtain ⟨e₁, h₁⟩ := herror _ _ ha
    rw [h₁, (hok _ _).mpr ha']
    exact .beyond e₁ x r hr
  | comment x =>
    rw [(hok _ _).mpr ha, (hok _ _).mpr ha']
    exact .comment x

lemma given {next : α → Reader β} (x : Except Flaw α) (hnext : ∀ a, Steady z (next a)) : Steady z (given x next) := by
  cases x with
  | error e => exact fail e
  | ok a => exact hnext a

lemma chain {first : Reader α} {next : α → Reader β} (h : Steady z first) (hnext : ∀ a, Steady z (next a)) :
    Steady z (chain first next) := by
  refine ⟨fun t y r hr => ?_, fun t => ?_⟩
  · rw [Reader.chain] at hr
    cases hf : first t with
    | error e =>
      rw [hf] at hr
      cases hr
    | ok a =>
      rw [hf] at hr
      exact ((hnext a.1).suffix _ _ _ hr).trans (h.suffix _ _ _ hf)
  · have hread := h.readsOn t
    rw [Reader.chain, Reader.chain]
    generalize first t = a, first (t ++ ')' :: z) = a' at hread
    cases hread with
    | same x r => exact (hnext x).readsOn r
    | fails e e' => exact .fails e e'
    | beyond e x r hr => exact (hnext x).readsOn_error e hr
    | comment x => exact (hnext x).readsOn_nil

lemma item {next : Char → Reader α} (e : Flaw) (hnext : ∀ c, Steady z (next c)) : Steady z (item e next) := by
  refine ⟨fun t x r hr => ?_, fun t => ?_⟩
  · cases t with
    | nil => cases hr
    | cons c t => exact ((hnext c).suffix _ _ _ hr).trans (List.suffix_cons c t)
  · cases t with
    | nil => exact (hnext ')').readsOn_error e List.suffix_rfl
    | cons c t => exact (hnext c).readsOn t

lemma peek {c₀ : Char} (hc₀ : c₀ ≠ ')') {yes no : Reader α} (hyes : Steady z yes) (hno : Steady z no) :
    Steady z (peek c₀ yes no) := by
  refine ⟨fun t x r hr => ?_, fun t => ?_⟩
  · cases t with
    | nil => exact hno.suffix _ _ _ hr
    | cons c t =>
      by_cases hc : c = c₀
      · rw [hc, peek_self] at hr
        exact (hyes.suffix _ _ _ hr).trans (List.suffix_cons c t)
      · rw [peek_cons hc] at hr
        exact hno.suffix _ _ _ hr
  · cases t with
    | nil =>
      rw [List.nil_append, peek_cons hc₀.symm]
      exact hno.readsOn []
    | cons c t =>
      rw [List.cons_append]
      by_cases hc : c = c₀
      · rw [hc, peek_self, peek_self]
        exact hyes.readsOn t
      · rw [peek_cons hc, peek_cons hc]
        exact hno.readsOn (c :: t)

lemma branch {ahead : Text → Bool} (h : ∀ t, ahead (t ++ ')' :: z) = ahead t) {yes no : Reader α}
    (hyes : Steady z yes) (hno : Steady z no) : Steady z (branch ahead yes no) := by
  refine ⟨fun t x r hr => ?_, fun t => ?_⟩
  · rw [Reader.branch] at hr
    split at hr
    · exact hyes.suffix _ _ _ hr
    · exact hno.suffix _ _ _ hr
  · rw [Reader.branch, Reader.branch, h]
    split
    · exact hyes.readsOn t
    · exact hno.readsOn t

lemma attempt {read? : Text → Option (α × Text)} (hsuffix : ∀ t a r, read? t = some (a, r) → r <:+ t)
    (h : ∀ t, read? (t ++ ')' :: z) = (read? t).map fun a => (a.1, a.2 ++ ')' :: z))
    {yes : α → Reader β} {no : Reader β} (hyes : ∀ a, Steady z (yes a)) (hno : Steady z no) :
    Steady z (attempt read? yes no) := by
  refine ⟨fun t x r hr => ?_, fun t => ?_⟩
  · rw [Reader.attempt] at hr
    split at hr
    · rename_i a rest ha
      exact ((hyes a).suffix _ _ _ hr).trans (hsuffix t a rest ha)
    · exact hno.suffix _ _ _ hr
  · rw [Reader.attempt, Reader.attempt, h]
    cases read? t with
    | some a => exact (hyes a.1).readsOn a.2
    | none => exact hno.readsOn t

end Steady

lemma dropSpace_suffix (open_ : Bool) (t : Text) : dropSpace open_ t <:+ t := by
  fun_induction dropSpace open_ t with
  | case1 => exact List.suffix_rfl
  | case2 c r ih => exact ih.trans (List.suffix_cons c r)
  | case3 r ih => exact ih.trans (List.suffix_cons _ r)
  | case4 c r _ _ ih => exact ih.trans (List.suffix_cons c r)
  | case5 => exact List.suffix_rfl

lemma skip_suffix (f : Flags) (t : Text) : skip f t <:+ t := by
  rw [skip]
  split
  · exact dropSpace_suffix false t
  · exact List.suffix_rfl

lemma dropSpace_comment (hz : '\n' ∉ z) : dropSpace true (')' :: z) = [] := by
  have h : ∀ t : Text, '\n' ∉ t → dropSpace true t = [] := by
    intro t ht
    induction t with
    | nil => rfl
    | cons c r ih =>
      rw [List.mem_cons, not_or] at ht
      simpa [dropSpace, Ne.symm ht.1] using ih ht.2
  exact h _ (by simpa using hz)

lemma dropSpace_append (hz : '\n' ∉ z) (open_ : Bool) (t : Text) :
    dropSpace open_ (t ++ ')' :: z) = dropSpace open_ t ++ ')' :: z ∨
      dropSpace open_ t = [] ∧ dropSpace open_ (t ++ ')' :: z) = [] := by
  fun_induction dropSpace open_ t with
  | case1 open_ =>
    cases open_ with
    | true => exact .inr ⟨rfl, dropSpace_comment hz⟩
    | false => exact .inl rfl
  | case2 c r ih => simpa [dropSpace] using ih
  | case3 r ih => simpa [dropSpace] using ih
  | case4 c r hc hb ih => simpa [dropSpace, hc, hb] using ih
  | case5 c r hc hb => exact .inl (by simp [dropSpace, hc, hb])

lemma skip_append (hz : '\n' ∉ z) (f : Flags) (t : Text) :
    skip f (t ++ ')' :: z) = skip f t ++ ')' :: z ∨ skip f t = [] ∧ skip f (t ++ ')' :: z) = [] := by
  rw [skip, skip]
  split
  · exact dropSpace_append hz false t
  · exact .inl rfl

lemma Steady.skipping (hz : '\n' ∉ z) (f : Flags) {read : Reader α} (h : Steady z read) :
    Steady z (skipping f read) := by
  refine ⟨fun t x r hr => (h.suffix _ _ _ hr).trans (skip_suffix f t), fun t => ?_⟩
  rw [Reader.skipping, Reader.skipping]
  rcases skip_append hz f t with hs | ⟨hs, hs'⟩
  · rw [hs]
    exact h.readsOn _
  · rw [hs, hs']
    exact h.readsOn_nil

lemma trimStart_append (t : Text) : Text.trimStart (t ++ ')' :: z) = Text.trimStart t ++ ')' :: z := by
  rw [Text.trimStart, Text.trimStart, List.dropWhile_append]
  split
  · rename_i h
    rw [List.isEmpty_iff.mp h]
    rfl
  · rfl

lemma Steady.trimming {read : Reader α} (h : Steady z read) : Steady z (trimming read) := by
  refine ⟨fun t x r hr => (h.suffix _ _ _ hr).trans (List.dropWhile_suffix _), fun t => ?_⟩
  rw [Reader.trimming, Reader.trimming, trimStart_append]
  exact h.readsOn _

lemma span_append {d : Char} (hd : d ∉ ')' :: z) (t : Text) :
    (t.span (· ≠ d)).2 = [] ∧ ((t ++ ')' :: z).span (· ≠ d)).2 = [] ∨
      (t ++ ')' :: z).span (· ≠ d) = ((t.span (· ≠ d)).1, (t.span (· ≠ d)).2 ++ ')' :: z) := by
  have hend : (')' :: z).dropWhile (· ≠ d) = [] := by
    rw [List.dropWhile_eq_nil_iff]
    exact fun c hc => decide_eq_true fun he => hd (he ▸ hc)
  simp only [List.span_eq_takeWhile_dropWhile, List.dropWhile_append]
  cases hdrop : t.dropWhile (· ≠ d) with
  | nil => exact .inl ⟨rfl, hend⟩
  | cons c rest =>
    refine .inr ?_
    rw [List.takeWhile_append, if_neg]
    · rfl
    · intro hlength
      have := congrArg List.length (List.takeWhile_append_dropWhile (p := (· ≠ d)) (l := t))
      rw [hdrop, List.length_append, List.length_cons] at this
      omega

lemma span_suffix (d : Char) (t : Text) : (t.span (· ≠ d)).2 <:+ t := by
  rw [List.span_eq_takeWhile_dropWhile]
  exact List.dropWhile_suffix _

section

variable (f : Flags) (p : Char → Bool)

lemma takeRun_suffix (n : ℕ) (t : Text) : (takeRun f p n t).2 <:+ t := by
  induction n generalizing t with
  | zero => exact List.suffix_rfl
  | succ n ih =>
    cases t with
    | nil => exact List.suffix_rfl
    | cons c r =>
      rw [takeRun]
      split
      · exact (ih _).trans ((skip_suffix f r).trans (List.suffix_cons c r))
      · exact List.suffix_rfl

lemma takeRun_congr {n m : ℕ} {t : Text} (hn : t.length ≤ n) (hm : t.length ≤ m) :
    takeRun f p n t = takeRun f p m t := by
  induction n generalizing m t with
  | zero =>
    obtain rfl := List.length_eq_zero_iff.mp (Nat.le_zero.mp hn)
    cases m <;> rfl
  | succ n ih =>
    cases t with
    | nil => cases m <;> rfl
    | cons c r =>
      have hskip := (skip_suffix f r).length_le
      rw [List.length_cons] at hn hm
      obtain ⟨m, rfl⟩ := Nat.exists_eq_add_of_le' (Nat.le_of_add_left_le hm)
      rw [takeRun, takeRun, ih (m := m) (by omega) (by omega)]

lemma takeRun_append (hz : '\n' ∉ z) (n : ℕ) (t : Text) :
    takeRun f p n (t ++ ')' :: z) = ((takeRun f p n t).1, (takeRun f p n t).2 ++ ')' :: z) ∨
      (takeRun f p n t).2 = [] ∧ (takeRun f p n (t ++ ')' :: z)).2 <:+ z ∧
        (p ')' = false → takeRun f p n (t ++ ')' :: z) = ((takeRun f p n t).1, [])) := by
  induction n generalizing t with
  | zero => exact .inl rfl
  | succ n ih =>
    cases t with
    | nil =>
      -- A run that takes in the parenthesis may take in more of `z`.
      by_cases hp : p ')'
      · refine .inr ⟨rfl, ?_, fun h => absurd hp (by simp [h])⟩
        rw [List.nil_append, takeRun, if_pos hp]
        exact (takeRun_suffix f p n _).trans (skip_suffix f z)
      · exact .inl (by simp [takeRun, hp])
    | cons c r =>
      rw [List.cons_append, takeRun, takeRun]
      by_cases hc : p c
      · rw [if_pos hc, if_pos hc]
        rcases skip_append hz f r with hs | ⟨hs, hs'⟩
        · rw [hs]
          rcases ih (skip f r) with h | ⟨h, hsuffix, hrun⟩
          · exact .inl (by rw [h])
          · exact .inr ⟨h, hsuffix, fun hp => by rw [hrun hp]⟩
        · have hnil : takeRun f p n [] = ([], []) := by cases n <;> rfl
          rw [hs, hs', hnil]
          exact .inr ⟨rfl, List.nil_suffix, fun _ => rfl⟩
      · rw [if_neg hc, if_neg hc]
        exact .inl rfl

lemma Steady.takeRun (hz : '\n' ∉ z) (hp : p ')' = false) (n : ℕ) :
    Steady z fun t => .ok (takeRun f p n t) := by
  refine ⟨fun t x r hr => ?_, fun t => ?_⟩
  · have he : (Pattern.takeRun f p n t).2 = r := congrArg Prod.snd (Except.ok.inj hr)
    exact he ▸ takeRun_suffix f p n t
  · rcases takeRun_append f p hz n t with h | ⟨hrest, -, h⟩
    · rw [h]
      exact .same _ _
    · rw [h hp]
      generalize Pattern.takeRun f p n t = a at hrest
      obtain ⟨run, rest⟩ := a
      obtain rfl : rest = [] := hrest
      exact .comment run

lemma Steady.run (hz : '\n' ∉ z) (hp : p ')' = false) : Steady z (run f p) := by
  refine ⟨fun t x r hr => (Steady.takeRun f p hz hp t.length).suffix t x r hr, fun t => ?_⟩
  rw [Reader.run, Reader.run, takeRun_congr f p (n := t.length) le_rfl (m := (t ++ ')' :: z).length) (by simp)]
  exact (Steady.takeRun f p hz hp _).readsOn t

lemma Steady.through (hz : '\n' ∉ z) (e : Flaw) {next : Text → Reader α} (hnext : ∀ run, Steady z (next run)) :
    Steady z (through f p e next) := by
  refine ⟨fun t x r hr => ?_, fun t => ?_⟩
  · have hsuffix := takeRun_suffix f p t.length t
    rw [Reader.through] at hr
    generalize Pattern.takeRun f p t.length t = a at hr hsuffix
    obtain ⟨run, _ | ⟨c, rest⟩⟩ := a
    · cases hr
    · exact ((hnext run).suffix _ _ _ hr).trans ((List.suffix_cons c rest).trans hsuffix)
  · rw [Reader.through, Reader.through,
      takeRun_congr f p (n := t.length) le_rfl (m := (t ++ ')' :: z).length) (by simp)]
    rcases takeRun_append f p hz (t ++ ')' :: z).length t with h | ⟨hrest, hsuffix, -⟩
    · rw [h]
      generalize Pattern.takeRun f p (t ++ ')' :: z).length t = a
      obtain ⟨run, _ | ⟨c, rest⟩⟩ := a
      · exact (hnext run).readsOn_error e List.suffix_rfl
      · exact (hnext run).readsOn rest
    · generalize Pattern.takeRun f p (t ++ ')' :: z).length t = a,
        Pattern.takeRun f p (t ++ ')' :: z).length (t ++ ')' :: z) = a' at hrest hsuffix
      obtain ⟨run, rest⟩ := a
      obtain rfl : rest = [] := hrest
      obtain ⟨run', _ | ⟨c, rest'⟩⟩ := a'
      · exact .fails e e
      · exact (hnext run').readsOn_error e ((List.suffix_cons c rest').trans hsuffix)

end

end Toolpath.Pattern
