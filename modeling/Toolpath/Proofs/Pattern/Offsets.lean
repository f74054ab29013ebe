import Mathlib.Tactic.Lemma
import Toolpath.Editor.Search

/-!
Matches lie within their text and do not overlap: a pattern moves a cursor forward only, and never beyond
the end.
-/

namespace Toolpath.Pattern

structure Cursor.From (t : Text) (i : Nat) (c : Cursor) : Prop where
  le_index : i ≤ c.index
  index_le : c.index ≤ t.length
  before : c.before = (t.take c.index).getLast?
  rest : c.rest = t.drop c.index

def Advances (t : Text) (step : Cursor → List Cursor) : Prop :=
  ∀ i c, Cursor.From t i c → ∀ d ∈ step c, Cursor.From t i d

variable {t : Text} {i : Nat}

lemma Cursor.from_start (t : Text) : Cursor.From t 0 (.start t) := ⟨Nat.le_refl 0, Nat.zero_le _, rfl, rfl⟩

lemma Cursor.From.self {c : Cursor} (h : Cursor.From t i c) : Cursor.From t c.index c :=
  ⟨Nat.le_refl _, h.index_le, h.before, h.rest⟩

lemma Cursor.From.mono {j : Nat} {c : Cursor} (h : Cursor.From t j c) (hi : i ≤ j) : Cursor.From t i c :=
  ⟨Nat.le_trans hi h.le_index, h.index_le, h.before, h.rest⟩

lemma Cursor.From.next {c d : Cursor} (h : Cursor.From t i c) (hd : c.next? = some d) :
    Cursor.From t (c.index + 1) d := by
  rw [Cursor.next?] at hd
  split at hd
  · cases hd
  · rename_i x r hr
    cases hd
    have hx : t.drop c.index = x :: r := h.rest ▸ hr
    have hl : c.index < t.length := by
      have hh := congrArg List.length hx
      rw [List.length_drop, List.length_cons] at hh
      omega
    refine ⟨Nat.le_refl _, hl, ?_, ?_⟩
    · have hget : t[c.index]? = some x := by rw [← List.head?_drop, hx, List.head?_cons]
      simp [List.take_add_one, hget]
    · simpa using (congrArg List.tail hx).symm

lemma mem_distinctFrom {c : Cursor} {cs : List Cursor} {seen : Nat} (h : c ∈ distinctFrom seen cs) :
    c ∈ cs := by
  induction cs generalizing seen with
  | nil => simp [distinctFrom] at h
  | cons d r ih =>
    rw [distinctFrom] at h
    split at h
    · exact List.mem_cons_of_mem _ (ih h)
    · rcases List.mem_cons.mp h with rfl | h
      · exact List.mem_cons_self
      · exact List.mem_cons_of_mem _ (ih h)

lemma exists_of_mem_andThen {step : Cursor → List Cursor} {cs : List Cursor} {d : Cursor} (h : d ∈ andThen step cs) :
    ∃ c ∈ cs, d ∈ step c :=
  List.mem_flatMap.mp (mem_distinctFrom h)

lemma Advances.andThen {step : Cursor → List Cursor} (hs : Advances t step) {cs : List Cursor}
    (hc : ∀ c ∈ cs, Cursor.From t i c) : ∀ d ∈ andThen step cs, Cursor.From t i d := by
  intro d hd
  obtain ⟨c, hm, hd⟩ := exists_of_mem_andThen hd
  exact hs i c (hc c hm) d hd

lemma Advances.exactly {step : Cursor → List Cursor} (hs : Advances t step) (n : Nat) {cs : List Cursor}
    (hc : ∀ c ∈ cs, Cursor.From t i c) : ∀ d ∈ exactly step n cs, Cursor.From t i d := by
  induction n generalizing cs with
  | zero => exact hc
  | succ n ih =>
    rw [Pattern.exactly]
    split
    · exact hc
    · exact ih (hs.andThen hc)

def Walk.On (t : Text) (i : Nat) (w : Walk) : Prop := ∀ d ∈ w.found, Cursor.From t i d

namespace Walk.On

variable {w : Walk} {step : Cursor → List Cursor}

lemma emit (h : w.On t i) {c : Cursor} (hc : Cursor.From t i c) : (w.emit c).On t i := by
  intro d hd
  rcases List.mem_cons.mp hd with rfl | hd
  · exact hc
  · exact h d hd

lemma foldl {f : Walk → Cursor → Walk} (hf : ∀ w c, w.On t i → Cursor.From t i c → (f w c).On t i)
    (h : w.On t i) {cs : List Cursor} (hc : ∀ c ∈ cs, Cursor.From t i c) : (cs.foldl f w).On t i := by
  induction cs generalizing w with
  | nil => exact h
  | cons c cs ih =>
    exact ih (hf w c h (hc c List.mem_cons_self)) fun d hd => hc d (List.mem_cons_of_mem _ hd)

lemma rounds (hs : Advances t step) (greedy : Bool) (key : Nat → Cursor → Nat) (n : Nat) (h : w.On t i)
    {c : Cursor} (hc : Cursor.From t i c) : (w.rounds step greedy key n c).On t i := by
  induction n generalizing w c with
  | zero => exact h.emit hc
  | succ n ih =>
    rw [Walk.rounds]
    dsimp only
    split
    · exact h
    · have hn : (w.mark (key n c)).On t i := h
      split
      · exact (foldl (fun _ _ hw hd => ih hw hd) hn (hs i c hc)).emit hc
      · exact foldl (fun _ _ hw hd => ih hw hd) (hn.emit hc) (hs i c hc)

lemma ends (h : w.On t i) : ∀ d ∈ w.ends, Cursor.From t i d :=
  fun d hd => h d (List.mem_reverse.mp (mem_distinctFrom hd))

end Walk.On

lemma Walk.on_empty (t : Text) (i : Nat) : Walk.On t i ⟨0, []⟩ := fun _ hd => by cases hd

lemma Advances.upTo {step : Cursor → List Cursor} (hs : Advances t step) (greedy : Bool) (n : Nat) :
    Advances t (upTo step greedy n) :=
  fun i _ hc => ((Walk.on_empty t i).rounds hs greedy _ n hc).ends

lemma Advances.oneOrMore {step : Cursor → List Cursor} (hs : Advances t step) (greedy : Bool) :
    Advances t (oneOrMore step greedy) := by
  intro i c hc
  refine (Walk.On.foldl ?_ (Walk.on_empty t i) (hs i c hc)).ends
  intro w d hw hd
  split
  · exact Walk.On.emit (w := w.mark d.index) hw hd
  · exact hw.rounds hs greedy _ _ hd

lemma Advances.repeated {step : Cursor → List Cursor} (hs : Advances t step) (least : Nat)
    (most : Option Nat) (greedy : Bool) : Advances t (repeated step least most greedy) := by
  intro i c hc
  have h₁ : ∀ d ∈ [c], Cursor.From t i d := by simpa using hc
  cases most with
  | some m => exact (hs.upTo greedy _).andThen (hs.exactly least h₁)
  | none =>
    cases least with
    | zero =>
      intro d hd
      have hm : d ∈ Pattern.oneOrMore step greedy c ∨ d = c := by
        have hd := mem_distinctFrom hd
        cases greedy <;> simpa [or_comm] using hd
      rcases hm with hm | rfl
      · exact hs.oneOrMore greedy i c hc d hm
      · exact hc
    | succ n => exact (hs.oneOrMore greedy).andThen (hs.exactly n h₁)

lemma advances_ends (t : Text) (p : Pattern) : Advances t p.ends := by
  induction p with
  | empty =>
    intro i c hc d hd
    rw [List.mem_singleton.mp hd]
    exact hc
  | chars k =>
    intro i c hc d hd
    simp only [ends, List.mem_filter, Option.mem_toList] at hd
    exact (hc.next hd.1).mono (Nat.le_succ_of_le hc.le_index)
  | look l =>
    intro i c hc d hd
    simp only [ends] at hd
    split at hd
    · rw [List.mem_singleton.mp hd]
      exact hc
    · cases hd
  | seq p q hp hq => exact fun i c hc => hq.andThen (hp i c hc)
  | alt p q hp hq =>
    intro i c hc d hd
    rcases List.mem_append.mp (mem_distinctFrom hd) with hd | hd
    · exact hp i c hc d hd
    · exact hq i c hc d hd
  | rep p least most greedy hp => exact hp.repeated least most greedy
  | group _ p hp => exact hp

structure Match.Within (t : Text) (i : Nat) (m : Match) : Prop where
  le_start : i ≤ m.start
  start_le : m.start ≤ m.stop
  stop_le : m.stop ≤ t.length

lemma Match.within_of_ends {p : Pattern} {c d : Cursor} (hc : Cursor.From t i c) (hd : d ∈ p.ends c) :
    Match.Within t i ⟨c.index, d.index⟩ ∧ Cursor.From t i d := by
  have h : Cursor.From t c.index d := advances_ends t p _ c hc.self d hd
  exact ⟨⟨hc.le_index, h.le_index, h.index_le⟩, h.mono hc.le_index⟩

lemma firstFrom?_ends {p : Pattern} {n : Nat} {c d : Cursor} {m : Match} (hc : Cursor.From t i c)
    (h : p.firstFrom? n c = some (m, d)) : ∃ c', Cursor.From t i c' ∧ d ∈ p.ends c' ∧ m = ⟨c'.index, d.index⟩ := by
  induction n generalizing c with
  | zero => cases h
  | succ n ih =>
    rw [firstFrom?] at h
    split at h
    · rename_i d' _ he
      obtain ⟨rfl, rfl⟩ := Prod.mk.inj (Option.some.inj h)
      exact ⟨c, hc, by simp [he], rfl⟩
    · obtain ⟨c', hn, h⟩ := Option.bind_eq_some_iff.mp h
      exact ih ((hc.next hn).mono (Nat.le_succ_of_le hc.le_index)) h

lemma firstFrom?_within {p : Pattern} {n : Nat} {c d : Cursor} {m : Match} (hc : Cursor.From t i c)
    (h : p.firstFrom? n c = some (m, d)) : m.Within t i ∧ Cursor.From t i d := by
  obtain ⟨c', hc', hd, rfl⟩ := firstFrom?_ends hc h
  exact Match.within_of_ends hc' hd

lemma index_of_firstFrom? {p : Pattern} {n : Nat} {c d : Cursor} {m : Match} (hc : Cursor.From t i c)
    (h : p.firstFrom? n c = some (m, d)) : d.index = m.stop := by
  obtain ⟨c', -, -, rfl⟩ := firstFrom?_ends hc h
  rfl

lemma matchesFrom_ends (p : Pattern) (n : Nat) (last : Option Nat) {c : Cursor} (hc : Cursor.From t i c) :
    ∀ m ∈ p.matchesFrom n last c, ∃ c' d, Cursor.From t i c' ∧ d ∈ p.ends c' ∧ m = ⟨c'.index, d.index⟩ := by
  induction n generalizing last c with
  | zero => exact fun _ hm => by cases hm
  | succ n ih =>
    intro m hm
    rw [matchesFrom] at hm
    split at hm
    · cases hm
    · rename_i m₁ d hf
      split at hm
      · split at hm
        · cases hm
        · rename_i c' hn
          exact ih last ((hc.next hn).mono (Nat.le_succ_of_le hc.le_index)) m hm
      · rcases List.mem_cons.mp hm with rfl | hm
        · obtain ⟨c', hc', hd⟩ := firstFrom?_ends hc hf
          exact ⟨c', d, hc', hd⟩
        · exact ih _ (firstFrom?_within hc hf).2 m hm

lemma matchesFrom_within (p : Pattern) (n : Nat) (last : Option Nat) {c : Cursor} (hc : Cursor.From t i c) :
    ∀ m ∈ p.matchesFrom n last c, m.Within t i := by
  intro m hm
  obtain ⟨c', d, hc', hd, rfl⟩ := matchesFrom_ends p n last hc m hm
  exact (Match.within_of_ends hc' hd).1

lemma pairwise_matchesFrom (p : Pattern) (n : Nat) (last : Option Nat) {c : Cursor} (hc : Cursor.From t i c) :
    (p.matchesFrom n last c).Pairwise (·.stop ≤ ·.start) := by
  induction n generalizing last c i with
  | zero => exact List.Pairwise.nil
  | succ n ih =>
    rw [matchesFrom]
    split
    · exact List.Pairwise.nil
    · rename_i m d hf
      obtain ⟨-, hd⟩ := firstFrom?_within hc hf
      split
      · split
        · exact List.Pairwise.nil
        · rename_i c' hn
          exact ih last (hc.next hn)
      · refine List.pairwise_cons.mpr ⟨fun m' hm' => ?_, ih _ hd⟩
        rw [← index_of_firstFrom? hc hf]
        exact (matchesFrom_within p n _ hd.self m' hm').le_start

lemma allMatches_ends (p : Pattern) (t : Text) :
    ∀ m ∈ p.allMatches t, ∃ c d, Cursor.From t 0 c ∧ d ∈ p.ends c ∧ m = ⟨c.index, d.index⟩ :=
  matchesFrom_ends p _ _ (Cursor.from_start t)

theorem allMatches_within (p : Pattern) (t : Text) : ∀ m ∈ p.allMatches t, m.Within t 0 :=
  matchesFrom_within p _ _ (Cursor.from_start t)

theorem pairwise_allMatches (p : Pattern) (t : Text) : (p.allMatches t).Pairwise (·.stop ≤ ·.start) :=
  pairwise_matchesFrom p _ _ (Cursor.from_start t)

end Toolpath.Pattern

namespace Toolpath.Editor

open Pattern

lemma findMatches_eq {t query : Text} {o : SearchOptions} {ms : List Match} (h : findMatches t query o = .ok ms) :
    ms = [] ∨ ∃ p : Pattern, ms = (p.allMatches t).filter fun m => m.start < m.stop := by
  rw [findMatches] at h
  split at h
  · exact .inl (Except.ok.inj h).symm
  · cases hp : compile query o with
    | error e => simp [hp, Except.map] at h
    | ok p =>
      simp only [hp, Except.map, Except.ok.injEq] at h
      exact .inr ⟨p, h.symm⟩

theorem findMatches_within {t query : Text} {o : SearchOptions} {ms : List Match}
    (h : findMatches t query o = .ok ms) : ∀ m ∈ ms, m.start < m.stop ∧ m.stop ≤ t.length := by
  intro m hm
  rcases findMatches_eq h with rfl | ⟨p, rfl⟩
  · cases hm
  · obtain ⟨hm, hlt⟩ := List.mem_filter.mp hm
    exact ⟨of_decide_eq_true hlt, (allMatches_within p t m hm).stop_le⟩

theorem pairwise_findMatches {t query : Text} {o : SearchOptions} {ms : List Match}
    (h : findMatches t query o = .ok ms) : ms.Pairwise (·.stop ≤ ·.start) := by
  rcases findMatches_eq h with rfl | ⟨p, rfl⟩
  · exact List.Pairwise.nil
  · exact (pairwise_allMatches p t).filter _

end Toolpath.Editor
