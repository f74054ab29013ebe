import Toolpath.Proofs.Pattern.SteadyEscape

/-!
Classes leave a closing parenthesis over. Within the brackets it is an item like others, so a class that is not closed
goes on into what comes after, but one that is closed does not.
-/

namespace Toolpath.Pattern

open Reader
open Text (Ranges)

variable {α : Type} {z : Text} (f : Flags)

def negation (t : Text) : Bool × Text :=
  match t with
  | '^' :: r => (true, r)
  | r => (false, r)

def namedTail? (negated : Bool) (t : Text) : Option (Except Flaw Ranges × Text) :=
  match t.span (· ≠ ':') with
  | (name, ':' :: ']' :: r) =>
    (Class.named? (String.ofList name)).map fun k =>
      (if !negated then .ok (foldCase f k) else if f.unicode then .ok (foldCase f k).complement else .error .notInText, r)
  | _ => none

lemma readNamed?_eq (t : Text) : readNamed? f (':' :: t) = namedTail? f (negation t).1 (negation t).2 := rfl

lemma readNamed?_of_ne {t : Text} (h : ∀ r, t = ':' :: r → False) : readNamed? f t = none := by
  unfold readNamed?
  split
  · exact absurd rfl (h _)
  · rfl

lemma negation_suffix (t : Text) : (negation t).2 <:+ t := by
  unfold negation
  split
  · exact List.suffix_cons _ _
  · exact List.suffix_rfl

lemma negation_append (t : Text) : negation (t ++ ')' :: z) = ((negation t).1, (negation t).2 ++ ')' :: z) := by
  cases t with
  | nil => rfl
  | cons c t =>
    by_cases hc : c = '^'
    · subst hc
      rfl
    · have hplain : ∀ t, negation (c :: t) = (false, c :: t) := by
        intro t
        unfold negation
        split
        · rename_i heq
          exact absurd (List.cons.inj heq).1 hc
        · rfl
      rw [List.cons_append, hplain, hplain]
      rfl

lemma namedTail?_suffix {negated : Bool} {t r : Text} {k : Except Flaw Ranges}
    (h : namedTail? f negated t = some (k, r)) : r <:+ t := by
  have hsuffix := span_suffix ':' t
  rw [namedTail?] at h
  split at h
  · rename_i name rest hspan
    obtain ⟨_, _, ha⟩ := Option.map_eq_some_iff.mp h
    obtain rfl : rest = r := congrArg Prod.snd ha
    rw [hspan] at hsuffix
    exact ((List.suffix_cons _ _).trans (List.suffix_cons _ _)).trans hsuffix
  · cases h

lemma namedTail?_append (hcolon : ':' ∉ z) (negated : Bool) (t : Text) :
    namedTail? f negated (t ++ ')' :: z) = (namedTail? f negated t).map fun a => (a.1, a.2 ++ ')' :: z) := by
  have hspan := span_append (z := z) (d := ':') (by simpa using hcolon) t
  rw [namedTail?, namedTail?]
  generalize t.span (· ≠ ':') = a, (t ++ ')' :: z).span (· ≠ ':') = a' at hspan
  obtain ⟨name, rest⟩ := a
  obtain ⟨name', rest'⟩ := a'
  rcases hspan with ⟨h, h'⟩ | h
  · obtain rfl : rest = [] := h
    obtain rfl : rest' = [] := h'
    rfl
  · obtain ⟨rfl, rfl⟩ := Prod.mk.inj h
    dsimp only
    split
    · rename_i name r heq
      obtain ⟨rfl, hlist⟩ := Prod.mk.inj heq
      obtain ⟨rest, rfl⟩ : ∃ u, rest = ':' :: ']' :: u := by
        match rest with
        | [] => exact absurd (List.cons.inj hlist).1 (by decide)
        | [_] => exact absurd (List.cons.inj (List.cons.inj hlist).2).1 (by decide)
        | c :: d :: u => exact ⟨u, by rw [(List.cons.inj hlist).1, (List.cons.inj (List.cons.inj hlist).2).1]⟩
      obtain rfl : rest ++ ')' :: z = r := (List.cons.inj (List.cons.inj hlist).2).2
      simp only [Option.map_map]
      rfl
    · rename_i hne
      split
      · rename_i name r heq
        obtain ⟨rfl, rfl⟩ := Prod.mk.inj heq
        exact absurd rfl (hne _ (r ++ ')' :: z))
      · rfl

lemma readNamed?_suffix {t r : Text} {k : Except Flaw Ranges} (h : readNamed? f t = some (k, r)) : r <:+ t := by
  by_cases hc : ∃ u, t = ':' :: u
  · obtain ⟨u, rfl⟩ := hc
    rw [readNamed?_eq] at h
    exact ((namedTail?_suffix f h).trans (negation_suffix u)).trans (List.suffix_cons _ _)
  · rw [readNamed?_of_ne f fun u hu => hc ⟨u, hu⟩] at h
    cases h

lemma readNamed?_append (hcolon : ':' ∉ z) (t : Text) :
    readNamed? f (t ++ ')' :: z) = (readNamed? f t).map fun a => (a.1, a.2 ++ ')' :: z) := by
  cases t with
  | nil => rfl
  | cons c t =>
    by_cases hc : c = ':'
    · subst hc
      rw [List.cons_append, readNamed?_eq, readNamed?_eq, negation_append, namedTail?_append f hcolon]
    · have hnone : ∀ t, readNamed? f (c :: t) = none := fun t =>
        readNamed?_of_ne f fun u hu => hc (List.cons.inj hu).1
      rw [List.cons_append, hnone, hnone]
      rfl

def opOf? (c d : Char) : Option SetOp :=
  if c = '&' ∧ d = '&' then some .inter
  else if c = '-' ∧ d = '-' then some .minus
  else if c = '~' ∧ d = '~' then some .symmDiff
  else none

lemma setOp?_cons (c d : Char) (t : Text) : setOp? (c :: d :: t) = (opOf? c d).map fun op => (op, t) := by
  unfold setOp?
  split
  case h_4 h₁ h₂ h₃ =>
    rw [opOf?, if_neg, if_neg, if_neg]
    · rfl
    · rintro ⟨rfl, rfl⟩
      exact h₃ t rfl
    · rintro ⟨rfl, rfl⟩
      exact h₂ t rfl
    · rintro ⟨rfl, rfl⟩
      exact h₁ t rfl
  all_goals
    rename_i heq
    cases heq
    rfl

lemma setOp?_single (c : Char) : setOp? [c] = none := by
  unfold setOp?
  split
  case h_4 => rfl
  all_goals
    rename_i heq
    cases heq

lemma setOp?_suffix {c : Char} {t r : Text} {op : SetOp} (h : setOp? (c :: t) = some (op, r)) : r <:+ t := by
  cases t with
  | nil =>
    rw [setOp?_single] at h
    cases h
  | cons d t =>
    rw [setOp?_cons] at h
    obtain ⟨_, _, ha⟩ := Option.map_eq_some_iff.mp h
    obtain rfl : t = r := congrArg Prod.snd ha
    exact List.suffix_cons d t

lemma setOp?_append (c : Char) (t : Text) :
    setOp? (c :: (t ++ ')' :: z)) = (setOp? (c :: t)).map fun a => (a.1, a.2 ++ ')' :: z) := by
  cases t with
  | nil =>
    have hparen : opOf? c ')' = none := by simp [opOf?]
    rw [List.nil_append, setOp?_cons, hparen, setOp?_single]
    rfl
  | cons d t =>
    rw [List.cons_append, setOp?_cons, setOp?_cons, Option.map_map]
    rfl

def leading : Reader (List Bracket) := chain (run f (· = '-')) fun dashes =>
  if dashes.isEmpty then peek ']' (skipping f (done [⟨.ofChars [']'], 0⟩])) (done [])
  else done (dashes.map fun _ => ⟨.ofChars ['-'], 0⟩)

lemma leading_eq (t : Text) : leading f t = .ok (readLeading f t) := by
  rw [leading, chain, run, ok_bind, readLeading]
  generalize takeRun f (· = '-') t.length t = a
  obtain ⟨_ | ⟨c, dashes⟩, r⟩ := a
  · refine (congrFun (if_pos rfl) r).trans ?_
    split
    · rename_i r' hr
      obtain ⟨-, rfl⟩ := Prod.mk.inj hr
      rw [peek_self]
      rfl
    · rename_i hne heq
      cases heq
      rw [peek_other fun r' hr' => hne r' rfl hr']
      rfl
  · rfl

def bracketOpening : Reader Open := skipping f (peek '^'
  (skipping f (chain (leading f) fun items => done ⟨true, none, items⟩))
  (chain (leading f) fun items => done ⟨false, none, items⟩))

lemma bracketOpening_eq (t : Text) : bracketOpening f t = .ok (openBracket f t) := by
  rw [bracketOpening, skipping, openBracket]
  split
  · rename_i r hr
    rw [hr, peek_self, skipping, chain, leading_eq]
    rfl
  · rename_i hne
    rw [peek_other hne, chain, leading_eq]
    rfl

def classChar (p : Primitive) : Reader Primitive :=
  match p with
  | .char c => if !f.unicode && 127 < c.toNat then fail .notInText else done (.char c)
  | p => done p

def noCondition (p : Primitive) : Reader Primitive :=
  match p with
  | .condition _ => fail .notInClass
  | p => done p

def anyItemAfter (c : Char) : Reader Primitive :=
  chain (if c = '\\' then readEscape f else done (.char c)) (classChar f)

def itemAfter (c : Char) : Reader Primitive := chain (anyItemAfter f c) noCondition

lemma anyItemAfter_eq (c : Char) (t : Text) : anyItemAfter f c t = readItem f (c :: t) := by
  have hchar : ∀ c t, classChar f (.char c) t =
      if !f.unicode && 127 < c.toNat then .error .notInText else .ok (.char c, t) := by
    intro c t
    rw [classChar]
    split <;> rfl
  unfold readItem
  dsimp only
  split
  · rename_i heq
    cases heq
  · rename_i heq
    obtain ⟨rfl, rfl⟩ := List.cons.inj heq
    rw [anyItemAfter, chain, if_pos rfl]
    cases readEscape f t with
    | error e => rfl
    | ok a =>
      obtain ⟨p, r⟩ := a
      cases p with
      | char c => exact hchar c r
      | set k => rfl
      | condition l => rfl
  · rename_i hne heq
    obtain ⟨rfl, rfl⟩ := List.cons.inj heq
    rw [anyItemAfter, chain, if_neg hne]
    exact hchar c t

def single (p : Primitive) : Reader Ranges :=
  match p with
  | .char c => done (.ofChars [c])
  | .set k => done k
  | .condition _ => fail .notInClass

def between (p q : Primitive) : Reader Ranges :=
  match p, q with
  | .char a, .char b => if a ≤ b then done (.range a.toNat b.toNat) else fail .badRange
  | _, _ => fail .badRange

def minusAhead (t : Text) : Bool :=
  t.head? = some '-' && decide ((skip f t.tail).head? = some ']' ∨ (skip f t.tail).head? = some '-')

lemma minusAhead_minus (t : Text) :
    minusAhead f ('-' :: t) = decide ((skip f t).head? = some ']' ∨ (skip f t).head? = some '-') := rfl

lemma minusAhead_other {t : Text} (h : ∀ r, t = '-' :: r → False) : minusAhead f t = false := by
  cases t with
  | nil => rfl
  | cons c t => simp [minusAhead, show c ≠ '-' from fun hc => h t (by rw [hc])]

def strictTail (first : Primitive) : Reader Ranges := fun t =>
  if t.isEmpty then .error .unclosedClass
  else branch (minusAhead f) (single first) (peek '-' (skipping f fun u =>
    if u.isEmpty then .error .unclosedClass else chain (readItem f) (between first) u) (single first)) t

def rangeTail (first : Primitive) : Reader Ranges := branch (minusAhead f) (single first)
  (peek '-' (skipping f (chain (item .unclosedClass (itemAfter f)) (between first))) (single first))

def rangeAfter (c : Char) : Reader Ranges := chain (itemAfter f c) fun first => skipping f (rangeTail f first)

lemma readRange_eq : readRange f = chain (readItem f) fun first => skipping f (strictTail f first) := by
  have hsingle : ∀ first t, single first t = match first with
      | .char c => .ok (.ofChars [c], t)
      | .set k => .ok (k, t)
      | .condition _ => .error .notInClass := by
    intro first t
    cases first <;> rfl
  have hbetween : ∀ first last t, between first last t = match first, last with
      | .char a, .char b => if a ≤ b then .ok (.range a.toNat b.toNat, t) else .error .badRange
      | _, _ => .error .badRange := by
    intro first last t
    cases first with
    | char a =>
      cases last with
      | char b =>
        rw [between]
        dsimp only
        split <;> rfl
      | set k => rfl
      | condition l => rfl
    | set k => rfl
    | condition l => rfl
  funext t
  rw [readRange, chain]
  congr 1
  funext a
  obtain ⟨first, r⟩ := a
  rw [skipping]
  dsimp only
  generalize skip f r = r
  rw [strictTail]
  split
  · rfl
  · split
    · rename_i u
      rw [branch, peek_self, minusAhead_minus, skipping, hsingle]
      simp only [decide_eq_true_eq, chain, hbetween]
      split
      · rfl
      · split <;> rfl
    · rename_i hne
      rw [branch, peek_other hne, minusAhead_other f hne, hsingle]
      rfl

lemma between_condition (first : Primitive) (l : Look) (t : Text) :
    between first (.condition l) t = .error .badRange := by
  cases first <;> rfl

lemma strictTail_condition (l : Look) (t : Text) : ∃ e, strictTail f (.condition l) t = .error e := by
  rw [strictTail]
  split
  · exact ⟨_, rfl⟩
  · rw [branch]
    split
    · exact ⟨_, rfl⟩
    · by_cases ht : ∃ u, t = '-' :: u
      · obtain ⟨u, rfl⟩ := ht
        rw [peek_self, skipping]
        split
        · exact ⟨_, rfl⟩
        · rw [chain]
          cases readItem f (skip f u) with
          | error e => exact ⟨e, rfl⟩
          | ok a => exact ⟨_, rfl⟩
      · rw [peek_other fun u hu => ht ⟨u, hu⟩]
        exact ⟨_, rfl⟩

lemma toOption_strictTail (first : Primitive) {t : Text} (ht : t ≠ []) :
    (strictTail f first t).toOption = (rangeTail f first t).toOption := by
  rw [strictTail, if_neg (by simpa using ht), rangeTail, branch, branch]
  split
  · rfl
  · by_cases hminus : ∃ u, t = '-' :: u
    · obtain ⟨u, rfl⟩ := hminus
      rw [peek_self, peek_self, skipping, skipping]
      cases skip f u with
      | nil => rfl
      | cons c u =>
        rw [List.isEmpty_cons, if_neg (by decide), chain, chain, item, itemAfter, chain, anyItemAfter_eq]
        cases readItem f (c :: u) with
        | error e => rfl
        | ok a =>
          obtain ⟨last, r⟩ := a
          cases last with
          | char b => rfl
          | set k => rfl
          | condition l =>
            rw [ok_bind, between_condition]
            rfl
    · rw [peek_other fun u hu => hminus ⟨u, hu⟩, peek_other fun u hu => hminus ⟨u, hu⟩]

lemma readRange_chain {next : Ranges → Reader α} (hnext : ∀ k, ∃ e, next k [] = .error e) (c : Char) (t : Text) :
    (chain (readRange f) next (c :: t)).toOption = (chain (rangeAfter f c) next t).toOption := by
  have hrest : ∀ first r, (strictTail f first r >>= fun a => next a.1 a.2).toOption =
      (rangeTail f first r >>= fun a => next a.1 a.2).toOption := by
    intro first r
    cases r with
    | nil =>
      -- The text ends after the range: one reader refuses the range and the other what is next.
      have hnone : ∀ k, (next k []).toOption = none := by
        intro k
        obtain ⟨e, he⟩ := hnext k
        rw [he]
        rfl
      cases first with
      | char b => exact (hnone _).symm
      | set k => exact (hnone _).symm
      | condition l => rfl
    | cons c r => rw [toOption_bind, toOption_bind, toOption_strictTail f first (List.cons_ne_nil c r)]
  rw [readRange_eq, chain, chain, chain, rangeAfter, chain, itemAfter, chain, anyItemAfter_eq]
  cases readItem f (c :: t) with
  | error e => rfl
  | ok a =>
    obtain ⟨first, r⟩ := a
    rw [ok_bind, ok_bind]
    cases first with
    | char b => exact hrest _ _
    | set k => exact hrest _ _
    | condition l =>
      obtain ⟨e, he⟩ := strictTail_condition f l (skip f r)
      rw [skipping, he]
      rfl

def bracketItem (next : Open → List Open → Reader Bracket) (o : Open) (outer : List Open) (c : Char) :
    Reader Bracket :=
  if c = '[' then attempt (readNamed? f) (fun k => given k fun k => next (o.add ⟨k, 0⟩) outer)
    (chain (bracketOpening f) fun inner => next inner (o :: outer))
  else if c = ']' then given (o.close f) fun b =>
    match outer with
    | [] => done b
    | p :: outer => next (p.add b) outer
  else attempt (fun t => setOp? (c :: t)) (fun op => next ⟨o.negated, some (o.operand f, op), []⟩ outer) fun t =>
    chain (readRange f) (fun k => next (o.add ⟨k, 0⟩) outer) (c :: t)

lemma readOpen_succ (n : ℕ) (o : Open) (outer : List Open) : readOpen f (n + 1) o outer =
    skipping f (item .unclosedClass (bracketItem f (readOpen f n) o outer)) := by
  funext t
  rw [readOpen, skipping]
  split
  · rename_i ht
    rw [ht]
    rfl
  · rename_i r hr
    rw [hr, item, bracketItem, if_pos rfl, attempt]
    split <;> rename_i hnamed <;> rw [hnamed]
    · rfl
    · rw [chain, bracketOpening_eq]
      rfl
  · rename_i r hr
    rw [hr, item, bracketItem, if_neg (by decide), if_pos rfl, given]
    cases o.close f with
    | error e => rfl
    | ok b =>
      cases outer with
      | nil => rfl
      | cons p outer => rfl
  · rename_i hnil hopen hclose
    cases hs : skip f t with
    | nil => exact absurd hs hnil
    | cons c r =>
      have hne : c ≠ '[' ∧ c ≠ ']' :=
        ⟨fun hc => hopen r (by rw [hs, hc]), fun hc => hclose r (by rw [hs, hc])⟩
      rw [item, bracketItem, if_neg hne.1, if_neg hne.2, attempt]
      split <;> rename_i hop <;> rw [hop]
      rfl

lemma readOpen_nil (n : ℕ) (o : Open) (outer : List Open) : ∃ e, readOpen f n o outer [] = .error e := by
  cases n with
  | zero => exact ⟨_, rfl⟩
  | succ n =>
    have hskip : skip f [] = [] := List.suffix_nil.mp (skip_suffix f [])
    rw [readOpen_succ, skipping, hskip]
    exact ⟨_, rfl⟩

lemma steady_classChar (p : Primitive) : Steady z (classChar f p) := by
  cases p with
  | char c =>
    rw [classChar]
    split
    · exact .fail _
    · exact .done _
  | set k => exact .done _
  | condition l => exact .done _

lemma steady_noCondition (p : Primitive) : Steady z (noCondition p) := by
  cases p with
  | char c => exact .done _
  | set k => exact .done _
  | condition l => exact .fail _

lemma steady_single (p : Primitive) : Steady z (single p) := by
  cases p with
  | char c => exact .done _
  | set k => exact .done _
  | condition l => exact .fail _

lemma steady_between (p q : Primitive) : Steady z (between p q) := by
  rw [between.eq_def]
  split
  · split
    · exact .done _
    · exact .fail _
  · exact .fail _

section

variable (hz : '\n' ∉ z)

include hz

lemma steady_leading : Steady z (leading f) := by
  refine .chain (.run f _ hz rfl) fun dashes => ?_
  split
  · exact .peek (by decide) (.skipping hz f (.done _)) (.done _)
  · exact .done _

lemma steady_bracketOpening : Steady z (bracketOpening f) :=
  .skipping hz f (.peek (by decide) (.skipping hz f (.chain (steady_leading f hz) fun _ => .done _))
    (.chain (steady_leading f hz) fun _ => .done _))

lemma steady_itemAfter (c : Char) : Steady z (itemAfter f c) := by
  rw [itemAfter, anyItemAfter]
  split
  · have heq : chain (chain (readEscape f) (classChar f)) noCondition = item .unfinishedEscape fun c =>
        chain (chain (fun r => readEscape f (c :: r)) (classChar f)) noCondition := by
      funext t
      cases t <;> rfl
    rw [heq]
    refine .item _ fun c => ?_
    by_cases hc : c = 'b'
    · subst hc
      -- The letter of the boundary may not be steady, but what it gives is no part of a class.
      refine .never fun t a h => ?_
      rw [chain, chain] at h
      cases hr : readEscape f ('b' :: t) with
      | error e =>
        rw [hr] at h
        cases h
      | ok b =>
        obtain ⟨p, r⟩ := b
        obtain ⟨l, rfl⟩ := exists_condition_of_boundary f hr
        rw [hr] at h
        cases h
    · exact .chain (.chain (steady_readEscape f hz hc) (steady_classChar f)) steady_noCondition
  · exact .chain (.chain (.done _) (steady_classChar f)) steady_noCondition

lemma minusAhead_append (t : Text) : minusAhead f (t ++ ')' :: z) = minusAhead f t := by
  cases t with
  | nil => rfl
  | cons c t =>
    rw [minusAhead, minusAhead, List.cons_append, List.head?_cons, List.tail_cons, List.tail_cons, List.head?_cons]
    rcases skip_append hz f t with h | ⟨h, h'⟩
    · rw [h]
      cases skip f t <;> rfl
    · rw [h, h']

lemma steady_rangeAfter (c : Char) : Steady z (rangeAfter f c) := by
  refine .chain (steady_itemAfter f hz c) fun first => .skipping hz f (.branch (minusAhead_append f hz) ?_ ?_)
  · exact steady_single first
  · refine .peek (by decide) (.skipping hz f ?_) (steady_single first)
    exact .chain (.item _ (steady_itemAfter f hz)) (steady_between first)

variable (hcolon : ':' ∉ z)

include hcolon

lemma steady_bracketItem {next : Open → List Open → Reader Bracket} (hnext : ∀ o outer, Steady z (next o outer))
    (hnil : ∀ o outer, ∃ e, next o outer [] = .error e) (o : Open) (outer : List Open) (c : Char) :
    Steady z (bracketItem f next o outer c) := by
  rw [bracketItem]
  split
  · exact .attempt (fun t a r => readNamed?_suffix f) (readNamed?_append f hcolon)
      (fun k => .given _ fun k => hnext _ _) (.chain (steady_bracketOpening f hz) fun inner => hnext _ _)
  · split
    · refine .given _ fun b => ?_
      split
      · exact .done b
      · exact hnext _ _
    · refine .attempt (fun t a r => setOp?_suffix) (setOp?_append c) (fun op => hnext _ _) ?_
      exact (Steady.chain (steady_rangeAfter f hz c) fun k => hnext _ _).congr fun t =>
        readRange_chain f (fun k => hnil _ _) c t

lemma steady_readOpen (n : ℕ) (o : Open) (outer : List Open) : Steady z (readOpen f n o outer) := by
  induction n generalizing o outer with
  | zero => exact .never fun _ _ => nofun
  | succ n ih =>
    rw [readOpen_succ]
    exact .skipping hz f (.item _ (steady_bracketItem f hz hcolon ih (readOpen_nil f n) o outer))

end

lemma readRange_suffix {c : Char} {t r : Text} {k : Ranges} (h : readRange f (c :: t) = .ok (k, r)) : r <:+ t := by
  rcases eq_or_ne r [] with rfl | hr
  · exact List.nil_suffix
  · let next : Ranges → Reader Ranges := fun k r => if r = [] then .error .unclosedClass else .ok (k, r)
    have hchain := readRange_chain f (fun k => (⟨_, rfl⟩ : ∃ e, next k [] = .error e)) c t
    have hnext : next k r = .ok (k, r) := if_neg hr
    rw [chain, h, ok_bind, hnext, chain] at hchain
    cases ha : rangeAfter f c t with
    | error e =>
      rw [ha] at hchain
      cases hchain
    | ok a =>
      have hempty : '\n' ∉ ([] : Text) := List.not_mem_nil
      rw [ha, ok_bind] at hchain
      unfold next at hchain
      split at hchain
      · cases hchain
      · cases hchain
        exact (steady_rangeAfter f hempty c).suffix _ _ _ ha

lemma openBracket_suffix (t : Text) : (openBracket f t).2 <:+ t := by
  have hempty : '\n' ∉ ([] : Text) := List.not_mem_nil
  exact (steady_bracketOpening f hempty).suffix _ _ _ (bracketOpening_eq f t)

lemma bracketItem_congr {next next' : Open → List Open → Reader Bracket} {t : Text}
    (h : ∀ o outer r, r <:+ t → next o outer r = next' o outer r) (o : Open) (outer : List Open) (c : Char) :
    bracketItem f next o outer c t = bracketItem f next' o outer c t := by
  rw [bracketItem, bracketItem]
  split
  · rw [attempt, attempt]
    split
    · rename_i k r hk
      cases k with
      | error e => rfl
      | ok k => exact h _ _ _ (readNamed?_suffix f hk)
    · rw [chain, chain, bracketOpening_eq, ok_bind, ok_bind, h]
      exact openBracket_suffix f t
  · split
    · cases o.close f with
      | error e => rfl
      | ok b =>
        cases outer with
        | nil => rfl
        | cons p outer => exact h _ _ _ List.suffix_rfl
    · rw [attempt, attempt]
      split
      · rename_i op r hop
        exact h _ _ _ (setOp?_suffix hop)
      · rw [chain, chain]
        cases hr : readRange f (c :: t) with
        | error e => rfl
        | ok a => exact h _ _ _ (readRange_suffix f hr)

lemma readOpen_congr {n m : ℕ} {t : Text} (hn : t.length < n) (hm : t.length < m) (o : Open) (outer : List Open) :
    readOpen f n o outer t = readOpen f m o outer t := by
  induction n generalizing m o outer t with
  | zero => omega
  | succ n ih =>
    obtain ⟨m, rfl⟩ := Nat.exists_eq_add_of_le' (Nat.one_le_of_lt hm)
    rw [readOpen_succ, readOpen_succ, skipping, skipping]
    have hskip := (skip_suffix f t).length_le
    cases hs : skip f t with
    | nil => rfl
    | cons c r =>
      rw [hs, List.length_cons] at hskip
      refine bracketItem_congr f (fun o outer r' hr' => ?_) o outer c
      have := hr'.length_le
      exact ih (by omega) (by omega) o outer

lemma readBracket_eq {n : ℕ} {t : Text} (hn : t.length < n) :
    readBracket f t = chain (bracketOpening f) (fun o => readOpen f n o []) t := by
  have hsuffix := (openBracket_suffix f t).length_le
  rw [chain, bracketOpening_eq, ok_bind]
  exact readOpen_congr f (Nat.lt_succ_of_le hsuffix) (hsuffix.trans_lt hn) _ _

lemma steady_readBracket (hz : '\n' ∉ z) (hcolon : ':' ∉ z) : Steady z (readBracket f) := by
  have hchain : ∀ n, Steady z (chain (bracketOpening f) fun o => readOpen f n o []) := fun n =>
    .chain (steady_bracketOpening f hz) fun o => steady_readOpen f hz hcolon n o []
  refine ⟨fun t x r hr => ?_, fun t => ?_⟩
  · rw [readBracket_eq f (Nat.lt_succ_self _)] at hr
    exact (hchain _).suffix t x r hr
  · rw [readBracket_eq f (t := t ++ ')' :: z) (Nat.lt_succ_self _), readBracket_eq f (n := (t ++ ')' :: z).length + 1)]
    · exact (hchain _).readsOn t
    · rw [List.length_append]
      omega

end Toolpath.Pattern
