import Toolpath.Proofs.Pattern.Offsets

/-!
A pattern between two word boundaries. What it matches begins and ends where a word does.
-/

namespace Toolpath

def Text.IsWordBoundary (t : Text) (i : Nat) : Prop := (t.take i).getLast?.any isWordChar ≠ t[i]?.any isWordChar

instance (t : Text) (i : Nat) : Decidable (t.IsWordBoundary i) := inferInstanceAs (Decidable (_ ≠ _))

namespace Pattern

def asWord (p : Pattern) : Pattern := .seq (.seq (.look (.boundary false)) (.group false p)) (.look (.boundary false))

lemma holds_of_mem_ends {l : Look} {c d : Cursor} (h : d ∈ (Pattern.look l).ends c) : l.holds c ∧ d = c := by
  rw [ends] at h
  split at h
  · rename_i hl
    exact ⟨hl, List.mem_singleton.mp h⟩
  · cases h

lemma ends_asWord {p : Pattern} {c d : Cursor} (h : d ∈ p.asWord.ends c) :
    (Look.boundary false).holds c ∧ d ∈ p.ends c ∧ (Look.boundary false).holds d := by
  obtain ⟨d', hbefore, hlast⟩ := exists_of_mem_andThen h
  obtain ⟨c', hfirst, hinner⟩ := exists_of_mem_andThen hbefore
  obtain ⟨hstart, rfl⟩ := holds_of_mem_ends hfirst
  obtain ⟨hstop, rfl⟩ := holds_of_mem_ends hlast
  exact ⟨hstart, hinner, hstop⟩

lemma Cursor.From.isWordBoundary {t : Text} {i : Nat} {c : Cursor} (h : Cursor.From t i c)
    (hc : (Look.boundary false).holds c) : t.IsWordBoundary c.index := by
  have hafter : c.after = t[c.index]? := by rw [Cursor.after, h.rest, List.head?_drop]
  rw [Text.IsWordBoundary, ← h.before, ← hafter]
  simpa [Look.holds, isWord] using hc

lemma isWordBoundary_of_mem_asWord {p : Pattern} {t : Text} {m : Match} (h : m ∈ p.asWord.allMatches t) :
    t.IsWordBoundary m.start ∧ t.IsWordBoundary m.stop := by
  obtain ⟨c, d, hc, hd, rfl⟩ := allMatches_ends p.asWord t m h
  obtain ⟨hstart, -, hstop⟩ := ends_asWord hd
  exact ⟨hc.isWordBoundary hstart, (Match.within_of_ends hc hd).2.isWordBoundary hstop⟩

end Pattern

end Toolpath
