import Mathlib.Tactic.Common
import Toolpath.Proofs.Pattern.Offsets

/-!
The match that is preferred at a position. A sequence goes back to the next end of its first part where the second
does not match, a choice takes its second part where the first does not match, and a greedy repetition of a set of
characters takes all that follow.
-/

namespace Toolpath.Pattern

open Text (Ranges)

variable {p q : Pattern} {k : Ranges} {c d : Cursor}

def Cursor.past (c : Cursor) (w : Text) : Cursor := ⟨c.index + w.length, w.getLast?.or c.before, c.rest.drop w.length⟩

namespace Cursor

@[simp] lemma past_nil (c : Cursor) : c.past [] = c := rfl

lemma past_past (c : Cursor) (u w : Text) : (c.past u).past w = c.past (u ++ w) := by
  simp only [past, List.length_append, List.getLast?_append, List.drop_drop, Option.or_assoc, Nat.add_assoc]

lemma rest_past {w r : Text} (h : c.rest = w ++ r) : (c.past w).rest = r := by
  rw [past, h, List.drop_left]

end Cursor

def preferred (p : Pattern) (c : Cursor) : Option Cursor := (p.ends c).head?

lemma head?_distinct (cs : List Cursor) : (distinct cs).head? = cs.head? := by
  cases cs with
  | nil => rfl
  | cons c cs => simp [distinct, distinctFrom]

lemma testBit_mark (seen i j : ℕ) (h : j ≠ i) : (seen ||| (1 <<< i)).testBit j = seen.testBit j := by
  rw [Nat.testBit_or, Nat.one_shiftLeft, Nat.testBit_two_pow_of_ne (Ne.symm h), Bool.or_false]

lemma distinctFrom_eq_self {cs : List Cursor} {seen : ℕ} (hseen : ∀ c ∈ cs, ¬ seen.testBit c.index)
    (hcs : (cs.map (·.index)).Nodup) : distinctFrom seen cs = cs := by
  induction cs generalizing seen with
  | nil => rfl
  | cons c cs ih =>
    obtain ⟨hc, hrest⟩ := List.forall_mem_cons.mp hseen
    obtain ⟨hnot, hcs⟩ := List.nodup_cons.mp hcs
    rw [distinctFrom, if_neg hc, ih (fun d hd => ?_) hcs]
    have hne : d.index ≠ c.index := fun he => hnot (List.mem_map.mpr ⟨d, hd, he⟩)
    rw [testBit_mark _ _ _ hne]
    exact hrest d hd

lemma distinct_eq_self {cs : List Cursor} (h : (cs.map (·.index)).Nodup) : distinct cs = cs :=
  distinctFrom_eq_self (by simp) h

lemma preferred_seq (p q : Pattern) (c : Cursor) : (seq p q).preferred c = (p.ends c).findSome? q.preferred := by
  rw [preferred, ends, andThen, head?_distinct, List.head?_flatMap]
  rfl

lemma preferred_seq_of_some {e : Cursor} (h : p.preferred c = some d) (hq : q.preferred d = some e) :
    (seq p q).preferred c = some e := by
  obtain ⟨ds, hds⟩ := List.head?_eq_some_iff.mp h
  rw [preferred_seq, hds, List.findSome?_cons, hq]

lemma preferred_seq_of_ends (h : p.ends c = [d]) : (seq p q).preferred c = q.preferred d := by
  rw [preferred_seq, h, List.findSome?_singleton]

lemma ends_of_preferred_none (h : p.preferred c = none) : p.ends c = [] := List.head?_eq_none_iff.mp h

lemma preferred_seq_of_none (h : p.preferred c = none) : (seq p q).preferred c = none := by
  rw [preferred_seq, ends_of_preferred_none h]
  rfl

lemma preferred_alt (p q : Pattern) (c : Cursor) : (alt p q).preferred c = (p.preferred c).or (q.preferred c) := by
  rw [preferred, ends, head?_distinct, List.head?_append]
  rfl

lemma preferred_group (kept : Bool) (p : Pattern) : (group kept p).preferred = p.preferred := rfl

lemma ends_chars_nil (h : c.rest = []) : (chars k).ends c = [] := by
  simp [ends, Cursor.next?, h]

lemma ends_chars_cons {x : Char} {r : Text} (h : c.rest = x :: r) :
    (chars k).ends c = if k.contains x then [c.past [x]] else [] := by
  have hpast : c.past [x] = ⟨c.index + 1, some x, r⟩ := by simp [Cursor.past, h]
  rw [hpast]
  split_ifs with hx <;> simp [ends, Cursor.next?, h, hx]

def optional (p : Pattern) : Pattern := rep p 0 (some 1) true

lemma found_foldl_emit (w : Walk) (cs : List Cursor) : (cs.foldl Walk.emit w).found = cs.reverse ++ w.found := by
  induction cs generalizing w with
  | nil => rfl
  | cons c cs ih =>
    rw [List.foldl_cons, ih, List.reverse_cons, List.append_assoc]
    rfl

lemma ends_optional (p : Pattern) (c : Cursor) : (optional p).ends c = distinct (distinct (p.ends c ++ [c])) := by
  have hwalk : upTo p.ends true 1 c = distinct (p.ends c ++ [c]) := by
    rw [upTo, Walk.rounds]
    dsimp only
    rw [if_neg (by simp), if_pos rfl]
    change distinct (c :: ((p.ends c).foldl Walk.emit _).found).reverse = _
    rw [found_foldl_emit, List.reverse_cons, List.reverse_append, List.reverse_reverse]
    rfl
  change distinct ([c].flatMap (upTo p.ends true 1)) = _
  rw [List.flatMap_singleton, hwalk]

lemma preferred_optional (p : Pattern) (c : Cursor) : (optional p).preferred c = some ((p.preferred c).getD c) := by
  rw [preferred, ends_optional, head?_distinct, head?_distinct, List.head?_append, preferred]
  cases (p.ends c).head? <;> rfl

lemma ends_optional_chars (k : Ranges) (c : Cursor) : (optional (chars k)).ends c = (chars k).ends c ++ [c] := by
  have hdistinct : ((chars k).ends c ++ [c]).map (·.index) |>.Nodup := by
    cases hr : c.rest with
    | nil => simp [ends_chars_nil hr]
    | cons x r =>
      rw [ends_chars_cons hr]
      split_ifs <;> simp [Cursor.past]
  rw [ends_optional, distinct_eq_self hdistinct, distinct_eq_self hdistinct]

def Cursor.run (c : Cursor) (k : Ranges) : Text := c.rest.takeWhile k.contains

-- Each round goes one character on, to a position that was not visited; the deepest one ends first.
lemma exists_found_rounds {n : ℕ} {w : Walk} (hn : c.rest.length < n) (hw : ∀ i ≥ c.index, ¬ w.seen.testBit i) :
    ∃ l, (w.rounds (chars k).ends true (fun _ c => c.index) n c).found = l ++ w.found ∧
      l.getLast? = some (c.past (c.run k)) := by
  induction n generalizing w c with
  | zero => omega
  | succ n ih =>
    have hunseen := hw c.index (Nat.le_refl _)
    rw [Walk.rounds]
    dsimp only
    rw [if_neg hunseen, if_pos rfl, Cursor.run]
    cases hr : c.rest with
    | nil =>
      rw [ends_chars_nil hr]
      exact ⟨[c], rfl, rfl⟩
    | cons x r =>
      rw [ends_chars_cons hr, List.takeWhile_cons]
      split_ifs with hx
      · have hrest : (c.past [x]).rest = r := Cursor.rest_past hr
        have hlen : (c.past [x]).rest.length < n := by
          rw [hrest]
          rw [hr, List.length_cons] at hn
          omega
        have hseen : ∀ i ≥ (c.past [x]).index, ¬ (w.mark c.index).seen.testBit i := by
          intro i hi
          have hlt : c.index < i := hi
          rw [Walk.mark, testBit_mark _ _ _ (Nat.ne_of_gt hlt)]
          exact hw i (Nat.le_of_lt hlt)
        obtain ⟨l, hl, hlast⟩ := ih hlen hseen
        rw [Cursor.run, hrest, Cursor.past_past, List.singleton_append] at hlast
        refine ⟨c :: l, congrArg (c :: ·) hl, ?_⟩
        rw [List.getLast?_cons, hlast]
        rfl
      · exact ⟨[c], rfl, rfl⟩

lemma head?_oneOrMore (k : Ranges) (c : Cursor) : (oneOrMore (chars k).ends true c).head? =
    if c.run k = [] then none else some (c.past (c.run k)) := by
  rw [oneOrMore, Cursor.run]
  cases hr : c.rest with
  | nil =>
    rw [ends_chars_nil hr]
    rfl
  | cons x r =>
    rw [ends_chars_cons hr, List.takeWhile_cons]
    by_cases hx : k.contains x
    · have hrest : (c.past [x]).rest = r := Cursor.rest_past hr
      have hlen : (c.past [x]).rest.length < (x :: r).length + 1 := by
        rw [hrest, List.length_cons]
        omega
      have hmoved : (c.past [x]).index ≠ c.index := Nat.succ_ne_self c.index
      obtain ⟨l, hl, hlast⟩ := exists_found_rounds (k := k) (w := ⟨0, []⟩) hlen (by simp)
      rw [if_pos hx, if_pos hx, List.foldl_cons, List.foldl_nil, if_neg hmoved, Walk.ends, head?_distinct, hl,
        List.append_nil, List.head?_reverse, hlast, Cursor.run, hrest, Cursor.past_past, List.singleton_append,
        if_neg (List.cons_ne_nil _ _)]
    · rw [if_neg hx, if_neg hx, if_pos rfl]
      rfl

lemma preferred_plus (k : Ranges) (c : Cursor) : (rep (chars k) 1 none true).preferred c =
    if c.run k = [] then none else some (c.past (c.run k)) := by
  rw [← head?_oneOrMore, preferred]
  change (distinct ([c].flatMap (oneOrMore (chars k).ends true))).head? = _
  rw [head?_distinct, List.flatMap_singleton]

lemma preferred_star (k : Ranges) (c : Cursor) : (rep (chars k) 0 none true).preferred c = some (c.past (c.run k)) := by
  rw [preferred]
  change (distinct (oneOrMore (chars k).ends true c ++ [c])).head? = _
  rw [head?_distinct, List.head?_append, head?_oneOrMore]
  split_ifs with h
  · rw [h]
    rfl
  · rfl

def Anchored (p : Pattern) : Prop := ∀ c : Cursor, c.before.isSome → p.ends c = []

lemma anchored_textStart : (look .textStart).Anchored := by
  intro c hc
  have hnot : ¬ Look.holds .textStart c := by
    rw [Look.holds, Option.isNone_iff_eq_none]
    exact Option.isSome_iff_ne_none.mp hc
  exact if_neg hnot

lemma Anchored.seq (h : p.Anchored) (q : Pattern) : (seq p q).Anchored := by
  intro c hc
  rw [ends, h c hc]
  rfl

lemma Anchored.firstFrom? (h : p.Anchored) (n : ℕ) (hc : c.before.isSome) : p.firstFrom? n c = none := by
  induction n generalizing c with
  | zero => rfl
  | succ n ih =>
    rw [Pattern.firstFrom?, h c hc]
    dsimp only
    rw [Cursor.next?]
    split
    · rfl
    · exact ih rfl

lemma Anchored.first? (h : p.Anchored) (t : Text) : (p.first? (.start t)).map (·.1) =
    (p.preferred (.start t)).map fun d => ⟨0, d.index⟩ := by
  rw [Pattern.first?, Pattern.firstFrom?, preferred]
  split
  · rename_i d ds he
    rw [he]
    rfl
  · rename_i he
    rw [he]
    cases t with
    | nil => rfl
    | cons x r =>
      have hnext : (Cursor.start (x :: r)).next? = some ⟨1, some x, r⟩ := rfl
      rw [hnext, Option.bind_some, h.firstFrom? _ rfl]
      rfl

end Toolpath.Pattern
