import Toolpath.Proofs.Pattern.SteadyGroup

/-!
Patterns with a closing parenthesis after them. A pattern that is complete is read on with what comes after, unless it
ends within a comment; one that is not is not completed by the parenthesis, unless it closes a group it has not opened.
-/

namespace Toolpath.Pattern.Reading

open Reader

variable {s : Reading} {t z : Text}

lemma finish_nil (n : ℕ) (ht : skip s.flags t = []) :
    finish (n + 1) s t = if s.outer.isEmpty then .ok s.group.close else .error .unclosedGroup := by
  rw [finish, ht]

lemma finish_cons (n : ℕ) {c : Char} {r : Text} (ht : skip s.flags t = c :: r) :
    finish (n + 1) s t = s.step c r >>= fun a => finish n a.1 a.2 := by
  rw [finish, ht]

lemma finish_skip {t' : Text} (n : ℕ) (h : skip s.flags t = skip s.flags t') : finish n s t = finish n s t' := by
  cases n with
  | zero => rfl
  | succ n => rw [finish, finish, h]

lemma finish_congr {n m : ℕ} (hn : t.length < n) (hm : t.length < m) : finish n s t = finish m s t := by
  induction n generalizing m s t with
  | zero => omega
  | succ n ih =>
    obtain ⟨m, rfl⟩ := Nat.exists_eq_add_of_le' (Nat.one_le_of_lt hm)
    have hskip := (skip_suffix s.flags t).length_le
    cases ht : skip s.flags t with
    | nil => rw [finish_nil n ht, finish_nil m ht]
    | cons c r =>
      rw [ht, List.length_cons] at hskip
      rw [finish_cons n ht, finish_cons m ht]
      cases hstep : s.step c r with
      | error e => rfl
      | ok a =>
        have hrest := (step_suffix hstep).length_le
        exact ih (by omega) (by omega)

lemma outer_le_count {n : ℕ} {i : Item} (h : finish n s t = .ok i) : s.outer.length ≤ t.count ')' := by
  induction n generalizing s t with
  | zero => cases h
  | succ n ih =>
    cases ht : skip s.flags t with
    | nil =>
      rw [finish_nil n ht] at h
      split at h
      · rename_i hempty
        rw [List.isEmpty_iff.mp hempty]
        exact Nat.zero_le _
      · cases h
    | cons c r =>
      rw [finish_cons n ht] at h
      cases hstep : s.step c r with
      | error e =>
        rw [hstep] at h
        cases h
      | ok a =>
        obtain ⟨s', r'⟩ := a
        rw [hstep] at h
        calc s.outer.length ≤ s'.outer.length + [c].count ')' := step_outer hstep
          _ ≤ r'.count ')' + [c].count ')' := Nat.add_le_add_right (ih h) _
          _ ≤ r.count ')' + [c].count ')' := Nat.add_le_add_right ((step_suffix hstep).sublist.count_le ')') _
          _ = ([c] ++ r).count ')' := by rw [List.count_append, Nat.add_comm]
          _ ≤ t.count ')' := by
            rw [List.singleton_append, ← ht]
            exact (skip_suffix s.flags t).sublist.count_le ')'

lemma exists_error_of_count {n : ℕ} (h : t.count ')' < s.outer.length) : ∃ e, finish n s t = .error e := by
  cases hf : finish n s t with
  | error e => exact ⟨e, rfl⟩
  | ok i => exact absurd (outer_le_count hf) (not_le.mpr h)

lemma skip_of_plain (f : Flags) {c : Char} (hc : c ≠ '#') (hb : Text.isBlank c = false) (t : Text) :
    skip f (c :: t) = c :: t := by
  rw [skip]
  split
  · rw [dropSpace, if_neg hc, if_neg (by simp [hb])]
  · rfl

lemma boundsOf_paren {f : Flags} {u : Text} (h : skip f u = [] ∨ skip f u = ')' :: z) :
    boundsOf f u = .error .badCount := by
  rw [boundsOf_eq, skipping, counting_eq]
  rcases h with h | h <;> rw [h] <;> rfl

lemma exists_error_of_openBrace (hz : '\n' ∉ z) {u : Text} (hu : skip s.flags u = []) (n : ℕ) :
    ∃ e, finish n s ('\x7b' :: u ++ ')' :: z) = .error e := by
  cases n with
  | zero => exact ⟨_, rfl⟩
  | succ n =>
    have hbounds : boundsOf s.flags (u ++ ')' :: z) = .error .badCount := by
      refine boundsOf_paren (z := z) ?_
      rcases skip_append hz s.flags u with h | ⟨-, h⟩
      · exact .inr (by rw [h, hu]; rfl)
      · exact .inl h
    have hop : ∃ e, groupOp s.flags s.group '\x7b' (u ++ ')' :: z) = .error e := by
      rw [groupOp]
      split
      · exact ⟨_, rfl⟩
      · rw [chain, hbounds]
        exact ⟨_, rfl⟩
    obtain ⟨e, he⟩ := hop
    rw [List.cons_append, finish_cons n (skip_of_plain s.flags (by decide) rfl _), step_eq (by decide) (by decide),
      chain, he]
    exact ⟨e, rfl⟩

/-- How a text is read alone, and with a closing parenthesis and `z` after it, within the groups `o`. -/
inductive Encloses (z : Text) : Except Flaw Item → (List Outer → Except Flaw Item) → Prop
  -- The parenthesis is read next.
  | closed (s : Reading) (h : s.outer = []) :
    Encloses z (.ok s.group.close) fun o => finish (z.length + 2) (s.within o) (')' :: z)
  -- The parenthesis is part of a comment.
  | comment (s : Reading) (h : s.outer = []) :
    Encloses z (.ok s.group.close) fun o => if o.isEmpty then .ok s.group.close else .error .unclosedGroup
  -- The text closes a group that it has not opened.
  | escapes (more : List Outer → Except Flaw Item) : Encloses z (.error .unopenedGroup) more
  -- The text fails for another reason, and is not completed by what comes after.
  | fails (e : Flaw) {more : List Outer → Except Flaw Item} (h : ∀ o ≠ [], ∃ e', more o = .error e') :
    Encloses z (.error e) more

lemma outer_within (s : Reading) (o : List Outer) : (s.within o).outer = s.outer ++ o := rfl

lemma encloses_end {n : ℕ} (hn : n ≠ 0) (ht : skip s.flags t = []) :
    Encloses z (finish n s t) fun o => finish n (s.within o) t := by
  obtain ⟨n, rfl⟩ := Nat.exists_eq_succ_of_ne_zero hn
  have hmore : ∀ o, finish (n + 1) (s.within o) t =
      if (s.outer ++ o).isEmpty then .ok s.group.close else .error .unclosedGroup :=
    fun o => finish_nil n (s := s.within o) ht
  simp only [hmore, finish_nil n ht]
  split
  · rename_i ho
    rw [List.isEmpty_iff.mp ho]
    exact .comment s (List.isEmpty_iff.mp ho)
  · rename_i ho
    refine .fails _ fun o _ => ⟨.unclosedGroup, if_neg fun h => ho ?_⟩
    rw [List.isEmpty_iff] at h ⊢
    exact (List.append_eq_nil_iff.mp h).1

section

variable (hz : '\n' ∉ z) (hcolon : ':' ∉ z) (hangle : '>' ∉ z) (hparen : ')' ∉ z)

include hparen

lemma count_paren : (')' :: z).count ')' = 1 := by
  rw [List.count_cons_self, List.count_eq_zero_of_not_mem hparen]

include hz hcolon hangle

lemma encloses_append {n : ℕ} (hn : (t ++ ')' :: z).length < n) :
    Encloses z (finish n s t) fun o => finish n (s.within o) (t ++ ')' :: z) := by
  -- The groups `o` stay around the state, so both texts are in step until the one alone ends or fails.
  induction n generalizing s t with
  | zero => omega
  | succ n ih =>
    rw [List.length_append, List.length_cons] at hn
    cases ht : skip s.flags t with
    | nil =>
      rcases skip_append hz s.flags t with h | ⟨-, h⟩
      · have hplain : ∀ o, skip (s.within o).flags (t ++ ')' :: z) = skip (s.within o).flags (')' :: z) := by
          intro o
          rw [skip_of_plain (s.within o).flags (by decide) rfl]
          exact h.trans (by rw [ht]; rfl)
        have hfuel : ∀ o, finish (n + 1) (s.within o) (')' :: z) = finish (z.length + 2) (s.within o) (')' :: z) :=
          fun o => finish_congr (by rw [List.length_cons]; omega) (by rw [List.length_cons]; omega)
        simp only [fun o => finish_skip (n + 1) (hplain o), hfuel]
        rw [finish_nil n ht]
        split
        · rename_i ho
          exact .closed s (List.isEmpty_iff.mp ho)
        · rename_i ho
          -- Two groups at least are open, and one parenthesis is left.
          refine .fails _ fun o hne => exists_error_of_count ?_
          have := List.length_pos_of_ne_nil hne
          have := List.length_pos_of_ne_nil (by simpa using ho)
          rw [count_paren hparen, outer_within, List.length_append]
          omega
      · have hend : ∀ o, finish (n + 1) (s.within o) (t ++ ')' :: z) = finish (n + 1) (s.within o) t :=
          fun o => finish_skip (n + 1) (s := s.within o) (h.trans ht.symm)
        simp only [hend]
        exact encloses_end (Nat.succ_ne_zero n) ht
    | cons c r =>
      have hlength := (skip_suffix s.flags t).length_le
      rw [ht, List.length_cons] at hlength
      have ht' : ∀ o, skip (s.within o).flags (t ++ ')' :: z) = c :: (r ++ ')' :: z) := by
        intro o
        rcases skip_append hz s.flags t with h | ⟨h, -⟩
        · exact h.trans (by rw [ht]; rfl)
        · rw [ht] at h
          cases h
      simp only [finish_cons n ht, fun o => finish_cons n (ht' o)]
      by_cases hc : c = ')' → s.outer ≠ []
      · simp only [fun o => step_within s o hc]
        rcases step_append hz hcolon hangle s c r with h | ⟨⟨e, he⟩, s', u, hmore, -, hu⟩
        · generalize hstep : s.step c r = a, s.step c (r ++ ')' :: z) = a' at h
          cases h with
          | same x r' =>
            have hrest := (step_suffix hstep).length_le
            refine ih (s := x) (t := r') ?_
            rw [List.length_append, List.length_cons]
            omega
          | fails e e' => exact .fails e fun o _ => ⟨e', rfl⟩
          | beyond e x r' hr =>
            -- The parenthesis has gone into the part that was missing.
            refine .fails e fun o hne => exists_error_of_count ?_
            have := List.length_pos_of_ne_nil hne
            have := hr.sublist.count_le ')'
            rw [List.count_eq_zero_of_not_mem hparen] at this
            dsimp only
            rw [outer_within, List.length_append]
            omega
          | comment x => exact encloses_end (by omega) (List.suffix_nil.mp (skip_suffix x.flags []))
        · rw [he, hmore]
          exact .fails e fun o _ => exists_error_of_openBrace (s := s'.within o) hz hu n
      · obtain ⟨rfl, ho⟩ := Classical.not_imp.mp hc
        rw [step_close, given, closeGroup, not_not.mp ho]
        exact .escapes _

end

end Toolpath.Pattern.Reading
