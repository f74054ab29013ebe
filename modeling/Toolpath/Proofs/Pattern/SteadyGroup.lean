import Toolpath.Proofs.Pattern.SteadyBracket

/-!
What opens a group leaves a closing parenthesis over, as does every operator that adds to the innermost group.
-/

namespace Toolpath.Pattern

open Reader

variable {z : Text} (f : Flags)

def flagsOf (seen : List Char) (negated dangling : Bool) : Reader (Flags × Bool × Char) := fun t =>
  (Flags.read seen negated dangling f t).map fun a => ((a.1, a.2.1, a.2.2.1), a.2.2.2)

lemma flagsOf_cons (seen : List Char) (negated dangling : Bool) (c : Char) (t : Text) :
    flagsOf f seen negated dangling (c :: t) =
      if c = ':' ∨ c = ')' then if dangling then .error .badFlag else .ok ((f, seen.isEmpty, c), t)
      else if c = '-' then if negated then .error .badFlag else flagsOf f seen true true t
      else match f.set? c !negated with
        | none => .error .badFlag
        | some g => if seen.contains c then .error .badFlag else flagsOf g (c :: seen) negated false t := by
  rw [flagsOf, Flags.read]
  split
  · split <;> rfl
  · split
    · split <;> rfl
    · cases f.set? c !negated with
      | none => rfl
      | some g =>
        dsimp only
        split <;> rfl

lemma steady_flagsOf (seen : List Char) (negated dangling : Bool) : Steady z (flagsOf f seen negated dangling) := by
  refine ⟨fun t x r hr => ?_, fun t => ?_⟩
  · induction t generalizing f seen negated dangling with
    | nil => cases hr
    | cons c t ih =>
      rw [flagsOf_cons] at hr
      refine List.IsSuffix.trans ?_ (List.suffix_cons c t)
      split at hr
      · split at hr
        · cases hr
        · cases hr
          exact List.suffix_rfl
      · split at hr
        · split at hr
          · cases hr
          · exact ih _ _ _ _ hr
        · split at hr
          · cases hr
          · split at hr
            · cases hr
            · exact ih _ _ _ _ hr
  · induction t generalizing f seen negated dangling with
    | nil =>
      -- The parenthesis ends the flags, as a colon would.
      rw [List.nil_append, flagsOf_cons, if_pos (.inr rfl)]
      split
      · exact .fails _ _
      · exact .beyond _ _ z List.suffix_rfl
    | cons c t ih =>
      rw [List.cons_append, flagsOf_cons, flagsOf_cons]
      split
      · split
        · exact .fails _ _
        · exact .same _ _
      · split
        · split
          · exact .fails _ _
          · exact ih _ _ _ _
        · split
          · exact .fails _ _
          · split
            · exact .fails _ _
            · exact ih _ _ _ _

lemma steady_readName (hangle : '>' ∉ z) : Steady z readName := by
  refine ⟨fun t x r hr => ?_, fun t => ?_⟩
  · have hsuffix := span_suffix '>' t
    rw [readName] at hr
    split at hr
    · rename_i hspan
      rw [hspan] at hsuffix
      split at hr
      · cases hr
        exact (List.suffix_cons _ _).trans hsuffix
      · cases hr
    · cases hr
  · have hspan := span_append (z := z) (d := '>') (by simpa using hangle) t
    rw [readName, readName]
    generalize t.span (· ≠ '>') = a, (t ++ ')' :: z).span (· ≠ '>') = a' at hspan
    obtain ⟨name, rest⟩ := a
    obtain ⟨name', rest'⟩ := a'
    rcases hspan with ⟨h, h'⟩ | h
    · obtain rfl : rest = [] := h
      obtain rfl : rest' = [] := h'
      cases name <;> cases name' <;> exact .fails _ _
    · obtain ⟨rfl, rfl⟩ := Prod.mk.inj h
      cases name' with
      | nil => exact .fails _ _
      | cons c name =>
        cases rest with
        | nil =>
          dsimp only [List.nil_append]
          split
          · exact .beyond _ _ z List.suffix_rfl
          · exact .fails _ _
        | cons d rest =>
          dsimp only [List.cons_append]
          split
          · exact .same _ _
          · exact .fails _ _

def namedOpening : Reader Opening := chain readName fun name => done (.group f true (some name))

def flagsOpening : Reader Opening := chain (flagsOf f [] false false) fun a =>
  if a.2.2 = ':' then done (.group a.1 false none)
  else if a.2.1 then fail .nothingToRepeat
  else done (.setting a.1)

lemma readOpening_eq : readOpening f = skipping f (peek '?'
    (peek '=' (fail .lookAround) (peek '!' (fail .lookAround)
      (peek '<' (peek '=' (fail .lookAround) (peek '!' (fail .lookAround) (namedOpening f)))
        (peek 'P' (peek '<' (namedOpening f) (fail .badFlag)) (flagsOpening f)))))
    (done (.group f true none))) := by
  funext t
  rw [readOpening, skipping]
  split
  · rename_i ht
    rw [ht]
    rfl
  · rename_i ht
    rw [ht]
    rfl
  · rename_i ht
    rw [ht]
    rfl
  · rename_i ht
    rw [ht]
    rfl
  · rename_i ht
    rw [ht]
    rfl
  · rename_i r h₁ h₂ ht
    rw [ht, peek_self, peek_cons (by decide), peek_cons (by decide), peek_self, peek_other h₁, peek_other h₂]
    rfl
  · rename_i r h₁ h₂ _ _ hnamed h₃ ht
    rw [ht, peek_self, peek_other h₁, peek_other h₂, peek_other h₃]
    by_cases hP : ∃ u, r = 'P' :: u
    · obtain ⟨u, rfl⟩ := hP
      rw [peek_self, peek_other fun v hv => hnamed v (by rw [hv])]
      rfl
    · rw [peek_other fun u hu => hP ⟨u, hu⟩, flagsOpening, chain, flagsOf]
      cases Flags.read [] false false f r with
      | error e => rfl
      | ok a =>
        rw [ok_bind]
        dsimp only [Except.map]
        rw [ok_bind]
        split
        · rfl
        · split <;> rfl
  · rename_i hne
    rw [peek_other hne]
    rfl

section

variable (hz : '\n' ∉ z) (hangle : '>' ∉ z)

include hz hangle

lemma steady_readOpening : Steady z (readOpening f) := by
  have hnamed : Steady z (namedOpening f) := .chain (steady_readName hangle) fun name => .done _
  have hflags : Steady z (flagsOpening f) := by
    refine .chain (steady_flagsOf f _ _ _) fun a => ?_
    split
    · exact .done _
    · split
      · exact .fail _
      · exact .done _
  rw [readOpening_eq]
  refine .skipping hz f (.peek (by decide) (.peek (by decide) (.fail _) (.peek (by decide) (.fail _) ?_)) (.done _))
  refine .peek (by decide) (.peek (by decide) (.fail _) (.peek (by decide) (.fail _) hnamed)) ?_
  exact .peek (by decide) (.peek (by decide) hnamed (.fail _)) hflags

end

def repetition (g : Group) (least : ℕ) (most : Option ℕ) : Reader Group :=
  peek '?' (given (g.repeatLast f least most false) done) (given (g.repeatLast f least most true) done)

def Group.addPrimitive (g : Group) (f : Flags) : Primitive → Group
  | .char c => g.add (.part (literal f c) 0)
  | .set k => g.add (.part (.chars k) 0)
  | .condition l => g.add (.part (.look l) 0)

def groupOp (g : Group) (c : Char) : Reader Group :=
  match c with
  | '|' => done g.divide
  | '[' => chain (readBracket f) fun b => done (g.add (.part (.chars b.set) b.depth))
  | '?' => repetition f g 0 (some 1)
  | '*' => repetition f g 0 none
  | '+' => repetition f g 1 none
  | '\x7b' => if !(g.items.head?.any fun i => i matches .part _ _) then fail .nothingToRepeat
    else chain (boundsOf f) fun b => skipping f (repetition f g b.1 b.2)
  | '\\' => chain (readEscape f) fun p => done (g.addPrimitive f p)
  | '.' => given (anyChar f) fun p => done (g.add (.part p 0))
  | '^' => done (g.add (.part (.look (atLineStart f)) 0))
  | '$' => done (g.add (.part (.look (atLineEnd f)) 0))
  | c => done (g.add (.part (literal f c) 0))

def Reading.withGroup (s : Reading) (g : Group) : Reading := { s with group := g }

lemma repetition_eq (s : Reading) (least : ℕ) (most : Option ℕ) (t : Text) :
    chain (repetition s.flags s.group least most) (fun g => done (s.withGroup g)) t =
      (s.group.repeatLast s.flags least most (readGreed t).1 >>= fun g => .ok (s.withGroup g, (readGreed t).2)) := by
  rw [chain, repetition]
  by_cases ht : ∃ r, t = '?' :: r
  · obtain ⟨r, rfl⟩ := ht
    rw [peek_self, readGreed, given]
    cases s.group.repeatLast s.flags least most false <;> rfl
  · have hgreed : readGreed t = (true, t) := by
      unfold readGreed
      split
      · exact absurd ⟨_, rfl⟩ ht
      · rfl
    rw [peek_other fun r hr => ht ⟨r, hr⟩, hgreed, given]
    cases s.group.repeatLast s.flags least most true <;> rfl

lemma step_eq {s : Reading} {c : Char} (ho : c ≠ '(') (hc : c ≠ ')') :
    s.step c = chain (groupOp s.flags s.group c) fun g => done (s.withGroup g) := by
  funext t
  unfold Reading.step
  split
  case h_1 => exact absurd rfl ho
  case h_2 => exact absurd rfl hc
  case h_3 => rfl
  case h_4 =>
    rw [groupOp, chain, chain]
    dsimp only
    cases readBracket s.flags t <;> rfl
  case h_5 => exact (repetition_eq s 0 (some 1) t).symm
  case h_6 => exact (repetition_eq s 0 none t).symm
  case h_7 => exact (repetition_eq s 1 none t).symm
  case h_8 =>
    obtain ⟨f, ⟨alternatives, items⟩, outer, names⟩ := s
    cases items with
    | nil => rfl
    | cons i items =>
      cases i with
      | setting => rfl
      | part p d =>
        have hop : groupOp f ⟨alternatives, .part p d :: items⟩ '\x7b' =
            chain (boundsOf f) fun b => skipping f (repetition f ⟨alternatives, .part p d :: items⟩ b.1 b.2) := rfl
        rw [hop, chain, chain, boundsOf]
        dsimp only
        cases readBounds f t with
        | error e => rfl
        | ok b => exact (repetition_eq ⟨f, ⟨alternatives, .part p d :: items⟩, outer, names⟩ _ _ _).symm
  case h_9 =>
    rw [groupOp, chain, chain]
    dsimp only
    cases readEscape s.flags t with
    | error e => rfl
    | ok a =>
      obtain ⟨p, r⟩ := a
      cases p <;> rfl
  case h_10 =>
    rw [groupOp, chain, given]
    dsimp only
    cases anyChar s.flags <;> rfl
  case h_11 => rfl
  case h_12 => rfl
  case h_13 =>
    unfold groupOp
    split
    case h_11 => rfl
    all_goals contradiction

lemma step_escape (s : Reading) (t : Text) : s.step '\\' t =
    (readEscape s.flags t).map fun a => (s.withGroup (s.group.addPrimitive s.flags a.1), a.2) := by
  rw [step_eq (by decide) (by decide), groupOp, chain, chain]
  cases readEscape s.flags t <;> rfl

def Reading.enter (s : Reading) : Opening → Reader Reading
  | .setting f => done { s with flags := f, group := s.group.add .setting }
  | .group f kept name =>
    if name.any s.names.contains then fail .badGroupName
    else done ⟨f, .new, ⟨s.flags, s.group, kept⟩ :: s.outer, name.toList ++ s.names⟩

lemma step_open (s : Reading) : s.step '(' = chain (readOpening s.flags) s.enter := by
  funext t
  change s.openGroup t = _
  rw [Reading.openGroup, chain]
  cases readOpening s.flags t with
  | error e => rfl
  | ok a =>
    obtain ⟨o, r⟩ := a
    cases o with
    | setting f => rfl
    | group f kept name =>
      rw [ok_bind, ok_bind, Reading.enter]
      dsimp only
      split <;> rfl

lemma step_close (s : Reading) : s.step ')' = given s.closeGroup done := by
  funext t
  rfl

lemma steady_repetition (g : Group) (least : ℕ) (most : Option ℕ) : Steady z (repetition f g least most) :=
  .peek (by decide) (.given _ .done) (.given _ .done)

lemma steady_enter (s : Reading) (o : Opening) : Steady z (s.enter o) := by
  cases o with
  | setting f => exact .done _
  | group f kept name =>
    rw [Reading.enter]
    split
    · exact .fail _
    · exact .done _

section

variable (hz : '\n' ∉ z) (hcolon : ':' ∉ z) (hangle : '>' ∉ z)

include hz hcolon

lemma steady_groupOp (g : Group) {c : Char} (hc : c ≠ '\\') : Steady z (groupOp f g c) := by
  unfold groupOp
  split
  case h_1 => exact .done _
  case h_2 => exact .chain (steady_readBracket f hz hcolon) fun b => .done _
  case h_6 =>
    split
    · exact .fail _
    · exact .chain (steady_boundsOf f hz) fun b => .skipping hz f (steady_repetition f g _ _)
  case h_7 => exact absurd rfl hc
  case h_8 => exact .given _ fun p => .done _
  case h_3 | h_4 | h_5 => exact steady_repetition f g _ _
  case h_9 | h_10 | h_11 => exact .done _

include hangle

lemma steady_step (s : Reading) {c : Char} (hc : c ≠ '\\') : Steady z (s.step c) := by
  by_cases ho : c = '('
  · subst ho
    rw [step_open]
    exact .chain (steady_readOpening s.flags hz hangle) (steady_enter s)
  · by_cases hp : c = ')'
    · subst hp
      rw [step_close]
      exact .given _ .done
    · rw [step_eq ho hp]
      exact .chain (steady_groupOp s.flags hz hcolon s.group hc) fun g => .done _

lemma step_append (s : Reading) (c : Char) (t : Text) : ReadsOn z (s.step c t) (s.step c (t ++ ')' :: z)) ∨
    (∃ e, s.step c t = .error e) ∧ ∃ s' u, s.step c (t ++ ')' :: z) = .ok (s', '\x7b' :: u ++ ')' :: z) ∧
      s'.outer = s.outer ∧ skip s'.flags u = [] := by
  -- Where the text ends in the brace of a boundary, a parenthesis makes a condition of it, and the brace is read as
  -- a repetition without bounds.
  by_cases hc : c = '\\'
  · subst hc
    rw [step_escape, step_escape]
    rcases readEscape_append s.flags hz t with h | ⟨u, hu, ⟨e, he⟩, hmore⟩
    · exact .inl (h.map fun p => s.withGroup (s.group.addPrimitive s.flags p))
    · let boundary := Primitive.condition (.boundary !s.flags.unicode)
      refine .inr ⟨⟨e, by rw [he]; rfl⟩, s.withGroup (s.group.addPrimitive s.flags boundary), u, ?_, rfl, hu⟩
      rw [hmore]
      rfl
  · exact .inl ((steady_step hz hcolon hangle s hc).readsOn t)

end

lemma step_suffix {s s' : Reading} {c : Char} {t r : Text} (h : s.step c t = .ok (s', r)) : r <:+ t := by
  have hempty : ∀ c : Char, c ∉ ([] : Text) := fun c => List.not_mem_nil
  by_cases hc : c = '\\'
  · subst hc
    rw [step_escape] at h
    cases hr : readEscape s.flags t with
    | error e =>
      rw [hr] at h
      cases h
    | ok a =>
      rw [hr] at h
      cases h
      exact readEscape_suffix s.flags hr
  · exact (steady_step (hempty _) (hempty _) (hempty _) s hc).suffix _ _ _ h

def Reading.within (s : Reading) (o : List Outer) : Reading := { s with outer := s.outer ++ o }

lemma step_within (s : Reading) (o : List Outer) {c : Char} (h : c = ')' → s.outer ≠ []) (t : Text) :
    (s.within o).step c t = (s.step c t).map fun a => (a.1.within o, a.2) := by
  by_cases ho : c = '('
  · subst ho
    rw [step_open, step_open, chain, chain]
    change (readOpening s.flags t >>= _) = _
    cases readOpening s.flags t with
    | error e => rfl
    | ok a =>
      obtain ⟨opening, r⟩ := a
      rw [ok_bind, ok_bind]
      cases opening with
      | setting f => rfl
      | group f kept name =>
        rw [Reading.enter, Reading.enter]
        change (if name.any s.names.contains then _ else _ : Reader Reading) r = _
        split <;> rfl
  · by_cases hp : c = ')'
    · subst hp
      rw [step_close, step_close, given, given]
      obtain ⟨f, g, outer, names⟩ := s
      cases outer with
      | nil => exact absurd rfl (h rfl)
      | cons p outer => rfl
    · rw [step_eq ho hp, step_eq ho hp, chain, chain]
      change (groupOp s.flags s.group c t >>= _) = _
      cases groupOp s.flags s.group c t <;> rfl

lemma step_outer {s s' : Reading} {c : Char} {t r : Text} (h : s.step c t = .ok (s', r)) :
    s.outer.length ≤ s'.outer.length + [c].count ')' := by
  by_cases ho : c = '('
  · subst ho
    rw [step_open, chain] at h
    cases hr : readOpening s.flags t with
    | error e =>
      rw [hr] at h
      cases h
    | ok a =>
      obtain ⟨opening, r⟩ := a
      rw [hr, ok_bind] at h
      cases opening with
      | setting f =>
        cases h
        exact Nat.le_add_right _ _
      | group f kept name =>
        rw [Reading.enter] at h
        split at h
        · cases h
        · cases h
          exact (Nat.le_succ _).trans (Nat.le_add_right _ _)
  · by_cases hp : c = ')'
    · subst hp
      obtain ⟨f, g, outer, names⟩ := s
      cases outer with
      | nil => exact Nat.zero_le _
      | cons p outer =>
        rw [step_close] at h
        cases h
        exact le_rfl
    · rw [step_eq ho hp, chain] at h
      cases hr : groupOp s.flags s.group c t with
      | error e =>
        rw [hr] at h
        cases h
      | ok a =>
        rw [hr] at h
        cases h
        exact Nat.le_add_right _ _

end Toolpath.Pattern
