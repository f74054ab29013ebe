import Toolpath.Proofs.Editor.Coherence
import Toolpath.Proofs.Pattern.Offsets

/-!
Fresh searches. Formatting and the table write the document without searching it again. What was found
before then stands for the new text, and unless the query finds the same there, the next replacement
hits other characters. Every other way to change the document keeps the search fresh.
-/

namespace Toolpath.Editor

open Pattern

namespace Search

variable {q : Search} {t : Text}

def Fresh (q : Search) (t : Text) : Prop :=
  q.query ≠ [] → q.error = Option.none → findMatches t q.query q.options = .ok q.found

def Pointed (q : Search) : Prop := q.found ≠ [] → ∃ m ∈ q.found, q.currentMatch = some m

lemma fresh_none (t : Text) : none.Fresh t := fun h => absurd rfl h

lemma pointed_none : none.Pointed := fun h => absurd rfl h

lemma fresh_run (t query : Text) (o : SearchOptions) : (run t query o).2.Fresh t := by
  intro _ he
  rw [run] at he ⊢
  cases hf : findMatches t query o with
  | ok ms => exact hf
  | error e => simp [hf] at he

lemma pointed_run (t query : Text) (o : SearchOptions) : (run t query o).2.Pointed := by
  rw [run]
  rcases findMatches t query o with e | _ | ⟨m, ms⟩
  · exact fun h => absurd rfl h
  · exact fun h => absurd rfl h
  · exact fun _ => ⟨m, List.mem_cons_self, rfl⟩

lemma fresh_renew (q : Search) (t : Text) : (q.renew t).Fresh t := by
  rw [renew]
  split
  · exact fresh_run t q.query q.options
  · rename_i ha
    have hq : q.query = [] := by simpa [isActive] using ha
    exact fun h => absurd hq h

lemma Pointed.renew (h : q.Pointed) (t : Text) : (q.renew t).Pointed := by
  rw [Search.renew]
  split
  · exact pointed_run t q.query q.options
  · exact h

lemma pointed_of_lt {i : Nat} (hi : i < q.found.length) : Pointed { q with current := some i } :=
  fun _ => ⟨q.found[i], List.getElem_mem hi, List.getElem?_eq_getElem hi⟩

lemma Pointed.next (h : q.Pointed) : q.next.2.Pointed := by
  rw [Search.next]
  dsimp only
  split
  · exact h
  · rename_i hn
    have hp : 0 < q.found.length := Nat.pos_of_ne_zero hn
    cases q.current with
    | none => exact pointed_of_lt hp
    | some i => exact pointed_of_lt (Nat.mod_lt _ hp)

lemma Pointed.previous (h : q.Pointed) : q.previous.2.Pointed := by
  rw [Search.previous]
  dsimp only
  split
  · exact h
  · rename_i hn
    have hp : 0 < q.found.length := Nat.pos_of_ne_zero hn
    cases q.current with
    | none => exact pointed_of_lt (Nat.sub_one_lt hn)
    | some i => exact pointed_of_lt (Nat.mod_lt _ hp)

lemma Fresh.next (h : q.Fresh t) : q.next.2.Fresh t := by
  rw [Search.next]
  dsimp only
  split <;> exact h

lemma Fresh.previous (h : q.Fresh t) : q.previous.2.Fresh t := by
  rw [Search.previous]
  dsimp only
  split <;> exact h

lemma Fresh.seek (h : q.Fresh t) (r : Request) : (r.seek q t).Fresh t := by
  cases r with
  | find query o => exact fresh_run t query o
  | findNext => exact h.next
  | findPrevious => exact h.previous
  | _ => exact h

lemma Pointed.seek (h : q.Pointed) (r : Request) (t : Text) : (r.seek q t).Pointed := by
  cases r with
  | find query o => exact pointed_run t query o
  | findNext => exact h.next
  | findPrevious => exact h.previous
  | _ => exact h

end Search

def Request.overwrites : Request → Bool
  | .format | .updateCell _ _ _ | .addRow | .deleteRow | .applyTable => true
  | _ => false

lemma Buffer.replace_within (b : Buffer) {x : Span} (hx : x.start ≤ x.stop) (hb : x.stop ≤ b.size) (w : Text) :
    (b.replace x w).text = b.text.take x.start ++ w ++ b.text.drop x.stop := by
  have h₁ : min x.start b.size = x.start := Nat.min_eq_left (Nat.le_trans hx hb)
  have h₂ : max (min x.stop b.size) x.start = x.stop := by rw [Nat.min_eq_left hb, Nat.max_eq_left hx]
  simp [Buffer.replace, h₁, h₂]

namespace Session

variable {c : SessionConfig} {s : Session}

@[simp] lemma search_write (s : Session) (t : Text) : (s.write t).search = s.search := by
  rw [write]
  split <;> rfl

lemma search_refreshSearch (s : Session) : s.refreshSearch.search = s.search.renew s.refreshSearch.text := by
  rw [refreshSearch_eq]
  rfl

lemma Coherent.search_redrawn (h : Coherent c s) (m : Option Table.Model) :
    (s.redrawn m).search = s.search := by
  cases m with
  | none => rfl
  | some m =>
    rw [redrawn_some h.idle]
    split
    · rfl
    · exact search_write ..

lemma Coherent.search_overwrites (h : Coherent c s) {r : Request} (hr : r.overwrites) :
    (s.after r).search = s.search := by
  cases r with
  | format =>
    rw [after_format h.idle]
    exact search_write ..
  | updateCell _ _ _ | addRow | deleteRow | applyTable =>
    rw [after_redraws h.idle rfl]
    exact h.search_redrawn _
  | _ => cases hr

def Searches (s s' : Session) (q : Search) : Prop :=
  s'.text = s.text ∧ s'.search = q ∨ s'.search = .none ∨ s'.search = s.search.renew s'.text

lemma searches_looks {r : Request} (hr : r.looks) : s.Searches (s.after r) (r.seek s.search s.text) := by
  obtain ⟨m, b, -, he⟩ := after_looks (s := s) hr
  exact .inl (he ▸ ⟨rfl, rfl⟩)

lemma searches_shown (x : Option History) : s.Searches (s.shown x) s.search := by
  cases x with
  | none => exact .inl ⟨rfl, rfl⟩
  | some x => exact .inr (.inr (search_refreshSearch _))

lemma searches_replaced (x : Option Text) : s.Searches (s.replaced x) s.search := by
  cases x with
  | none => exact .inl ⟨rfl, rfl⟩
  | some t =>
    have hs := search_refreshSearch (s.write t)
    rw [search_write] at hs
    exact .inr (.inr hs)

lemma Coherent.searches_after (h : Coherent c s) {r : Request} (hr : ¬ r.overwrites) :
    s.Searches (s.after r) (r.seek s.search s.text) := by
  cases r with
  | load t =>
    rw [after_load h.idle]
    exact .inr (.inl rfl)
  | edit t =>
    rw [after_edit h.idle]
    split
    · exact .inl ⟨rfl, rfl⟩
    · exact .inr (.inr (search_refreshSearch _))
  | undo | redo =>
    rw [after_recalls h.idle rfl]
    exact searches_shown _
  | replaceCurrent _ | replaceAll _ =>
    rw [after_replaces h.idle rfl]
    exact searches_replaced _
  | format | updateCell _ _ _ | addRow | deleteRow | applyTable => exact absurd rfl hr
  | check | selectRow _ | find _ _ | findNext | findPrevious => exact searches_looks rfl
  | pointerMove _ | pointerLeave | click _ => exact searches_looks rfl

lemma Coherent.pointed_after (h : Coherent c s) (hp : s.search.Pointed) (r : Request) :
    (s.after r).search.Pointed := by
  by_cases hr : r.overwrites
  · rwa [h.search_overwrites hr]
  · rcases h.searches_after hr with ⟨-, hs⟩ | hs | hs
    · exact hs ▸ hp.seek _ _
    · exact hs ▸ Search.pointed_none
    · exact hs ▸ hp.renew _

lemma search_pointed (c : SessionConfig) (t : Text) (rs : List Request) :
    ((new c t).run rs).search.Pointed := by
  induction rs using List.reverseRecOn with
  | nil => rw [run_nil, new_eq]; exact Search.pointed_none
  | append_singleton rs r ih =>
    rw [run_concat]
    exact (Coherent.run c t rs).pointed_after ih r

/-- The request changes what the query finds, and the session does not look. -/
def Blind (s : Session) (r : Request) : Prop :=
  r.overwrites ∧ s.search.query ≠ [] ∧ s.search.error = none ∧
    findMatches (s.after r).text s.search.query s.search.options ≠
      findMatches s.text s.search.query s.search.options

lemma Coherent.fresh_after_iff (h : Coherent c s) (hf : s.search.Fresh s.text) (r : Request) :
    (s.after r).search.Fresh (s.after r).text ↔ ¬ s.Blind r := by
  by_cases hr : r.overwrites
  · rw [h.search_overwrites hr]
    constructor
    · rintro ha ⟨-, hq, he, hn⟩
      exact hn ((ha hq he).trans (hf hq he).symm)
    · intro hb hq he
      by_contra hn
      exact hb ⟨hr, hq, he, fun heq => hn (heq.trans (hf hq he))⟩
  · refine iff_of_true ?_ fun hb => hr hb.1
    rcases h.searches_after hr with ⟨ht, hs⟩ | hs | hs
    · exact ht ▸ hs ▸ hf.seek r
    · exact hs ▸ Search.fresh_none _
    · exact hs ▸ Search.fresh_renew _ _

lemma fresh_new (c : SessionConfig) (t : Text) : (new c t).search.Fresh (new c t).text := by
  rw [new_eq]
  exact Search.fresh_none _

lemma Coherent.text_replaceCurrent (h : Coherent c s) {m : Match} (hm : s.search.currentMatch = some m)
    (w : Text) : (s.replaceCurrent w).2.text = (s.buffer.replace ⟨m.start, m.stop⟩ w).text := by
  have hr : s.after (.replaceCurrent w) = _ := after_replaces h.idle rfl
  rw [Request.replacement?, hm, Option.map_some, Session.replaced, refreshSearch_eq] at hr
  change (s.after (.replaceCurrent w)).text = _
  rw [hr]
  exact h.text_write _

/-- The search is fresh all along a run if no request is blind, and not otherwise. A fresh search with
matches replaces one of them and nothing else. -/
theorem search_fresh_iff (c : SessionConfig) (t : Text) (rs : List Request) :
    let s := (new c t).run
    ((∀ rs', rs' <+: rs → (s rs').search.Fresh (s rs').text) ↔
      ∀ rs' r, rs' ++ [r] <+: rs → ¬ (s rs').Blind r) ∧
    ∀ ms w, findMatches (s rs).text (s rs).search.query (s rs).search.options = .ok ms →
      (s rs).search.found = ms → ms ≠ [] → ∃ m ∈ ms, m.start < m.stop ∧ m.stop ≤ (s rs).text.length ∧
        ((s rs).replaceCurrent w).2.text = (s rs).text.take m.start ++ w ++ (s rs).text.drop m.stop := by
  intro s
  refine ⟨forall_prefix_iff (P := fun s => s.search.Fresh s.text) (fresh_new c t) (fun rs r hf => ?_) rs, ?_⟩
  · rw [run_concat]
    exact (Coherent.run c t rs).fresh_after_iff hf r
  rintro ms w hms rfl hne
  have h : Coherent c (s rs) := Coherent.run c t rs
  obtain ⟨m, hm, hcur⟩ := search_pointed c t rs hne
  obtain ⟨hlt, hle⟩ := findMatches_within hms m hm
  refine ⟨m, hm, hlt, hle, ?_⟩
  rw [h.text_replaceCurrent hcur]
  exact Buffer.replace_within _ (Nat.le_of_lt hlt) hle w

-- Formatting closes a gap before a match, and the replacement then hits other characters.
theorem search_stale_after_format :
    let s := (new .default "G1  X1".toList).run [.find "X1".toList ⟨true, false⟩, .format]
    findMatches s.text s.search.query s.search.options ≠ .ok s.search.found ∧
      (s.replaceCurrent "X2".toList).2.text = "G1 XX2".toList := by
  decide

end Session

end Toolpath.Editor
