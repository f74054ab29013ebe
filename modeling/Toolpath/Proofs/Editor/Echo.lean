import Toolpath.Proofs.Editor.Coherence

/-!
The awaited echo. What the session writes by itself comes back from the surface once, and that is no
edit. Undo and redo move the text away from what was written without settling the echo, so that an edit
to that very text is then taken for it and lost; there is no other way to lose one.
-/

namespace Toolpath.Editor

def Request.writes : Request → Bool
  | .format | .updateCell _ _ _ | .addRow | .deleteRow | .applyTable => true
  | .replaceCurrent _ | .replaceAll _ => true
  | _ => false

def Request.brings : Request → Bool
  | .load _ | .edit _ => true
  | _ => false

lemma Request.looks_or (r : Request) : r.looks ∨ r.writes ∨ r.brings ∨ r.recalls := by
  cases r <;> simp [looks, writes, brings, recalls]

lemma Request.not_writes_of_brings {r : Request} (hb : r.brings) : ¬ r.writes := by
  cases r with
  | load _ | edit _ => exact Bool.false_ne_true
  | _ => cases hb

namespace Session

def Writes (s : Session) (r : Request) (t : Text) : Prop :=
  r.writes ∧ s.text ≠ t ∧ (s.after r).text = t

/-- After a run the surface has still to echo `t`: this was written last, and since then nothing was
brought from outside and nothing else written. -/
inductive Awaits (s : Session) : List Request → Text → Prop
  | written {rs : List Request} {r : Request} {t : Text} : (s.run rs).Writes r t → Awaits s (rs ++ [r]) t
  | still {rs : List Request} {r : Request} {t : Text} : Awaits s rs t → ¬ r.brings →
      (∀ u, ¬ (s.run rs).Writes r u) → Awaits s (rs ++ [r]) t

def Follows (s s' : Session) : Prop :=
  s'.text = s.text ∧ s'.pendingEcho = s.pendingEcho ∨
    s'.text ≠ s.text ∧ s'.pendingEcho = some s'.text

variable {c : SessionConfig} {s : Session}

lemma Coherent.follows_write (h : Coherent c s) (t : Text) : s.Follows (s.write t) := by
  rw [Session.write]
  split
  · exact .inl ⟨rfl, rfl⟩
  · rename_i ht
    have hx : (s.adopt (s.history.record t).2 (some t) .core).text = t := History.record_current ..
    refine .inr ⟨?_, ?_⟩
    · rwa [hx, h.text]
    · rw [hx]; rfl

lemma Coherent.follows_redrawn (h : Coherent c s) (m : Option Table.Model) : s.Follows (s.redrawn m) := by
  cases m with
  | none => exact .inl ⟨rfl, rfl⟩
  | some m =>
    have hm : Coherent c { s with table := m } := h.congr ..
    rw [redrawn_some h.idle]
    split
    · exact .inl ⟨rfl, rfl⟩
    · exact hm.follows_write _

lemma Coherent.follows_replaced (h : Coherent c s) (x : Option Text) : s.Follows (s.replaced x) := by
  cases x with
  | none => exact .inl ⟨rfl, rfl⟩
  | some t =>
    rw [Session.replaced, refreshSearch_eq]
    exact h.follows_write t

lemma Coherent.follows_after (h : Coherent c s) {r : Request} (hr : r.writes) : s.Follows (s.after r) := by
  cases r with
  | format =>
    rw [after_format h.idle]
    exact h.follows_write _
  | updateCell _ _ _ | addRow | deleteRow | applyTable =>
    rw [after_redraws h.idle rfl]
    exact h.follows_redrawn _
  | replaceCurrent _ | replaceAll _ =>
    rw [after_replaces h.idle rfl]
    exact h.follows_replaced _
  | _ => cases hr

lemma pendingEcho_shown (x : Option History) : (s.shown x).pendingEcho = s.pendingEcho := by
  cases x with
  | none => rfl
  | some x => rw [shown, refreshSearch_eq]; rfl

lemma Coherent.pendingEcho_after (h : Coherent c s) {r : Request} (hw : ¬ r.writes) (hb : ¬ r.brings) :
    (s.after r).pendingEcho = s.pendingEcho := by
  rcases r.looks_or with hl | hr | hr | hr
  · obtain ⟨m, b, -, he⟩ := after_looks (s := s) hl
    rw [he]
  · exact absurd hr hw
  · exact absurd hr hb
  · rw [after_recalls h.idle hr, pendingEcho_shown]

lemma Coherent.pendingEcho_brings (h : Coherent c s) {r : Request} (hb : r.brings) :
    (s.after r).pendingEcho = none := by
  cases r with
  | load t => rw [after_load h.idle]; rfl
  | edit t =>
    rw [after_edit h.idle]
    split
    · rfl
    · rw [refreshSearch_eq]; rfl
  | _ => cases hb

lemma Coherent.pendingEcho_after_iff (h : Coherent c s) (r : Request) (t : Text) :
    (s.after r).pendingEcho = some t ↔
      s.Writes r t ∨ s.pendingEcho = some t ∧ ¬ r.brings ∧ ∀ u, ¬ s.Writes r u := by
  by_cases hb : r.brings
  · have hw : ∀ u, ¬ s.Writes r u := fun u hu => Request.not_writes_of_brings hb hu.1
    simp [h.pendingEcho_brings hb, hb, hw]
  by_cases hw : r.writes
  · rcases h.follows_after hw with ⟨ht, he⟩ | ⟨ht, he⟩
    · have hu : ∀ u, ¬ s.Writes r u := fun u hu => hu.2.1 (ht ▸ hu.2.2)
      simp [he, hb, hu]
    · have hu : s.Writes r (s.after r).text := ⟨hw, Ne.symm ht, rfl⟩
      have hh : ¬ ∀ u, ¬ s.Writes r u := fun hn => hn _ hu
      simp only [he, hh, and_false, or_false, Option.some.injEq]
      exact ⟨fun e => e ▸ hu, fun hv => hv.2.2⟩
  · have hu : ∀ u, ¬ s.Writes r u := fun u hu => hw hu.1
    simp [h.pendingEcho_after hw hb, hb, hu]

theorem pendingEcho_run_iff (c : SessionConfig) (t₀ : Text) (rs : List Request) (t : Text) :
    ((new c t₀).run rs).pendingEcho = some t ↔ Awaits (new c t₀) rs t := by
  constructor
  · intro he
    induction rs using List.reverseRecOn with
    | nil =>
      rw [run_nil, new_eq] at he
      cases he
    | append_singleton rs r ih =>
      rw [run_concat, (Coherent.run c t₀ rs).pendingEcho_after_iff] at he
      rcases he with hw | ⟨he, hb, hw⟩
      · exact .written hw
      · exact .still (ih he) hb hw
  · intro ha
    induction ha with
    | @written rs r t hw =>
      rw [run_concat, (Coherent.run c t₀ rs).pendingEcho_after_iff]
      exact .inl hw
    | @still rs r t _ hb hw ih =>
      rw [run_concat, (Coherent.run c t₀ rs).pendingEcho_after_iff]
      exact .inr ⟨ih, hb, hw⟩

/-- An edit ends with its text in the document unless that text is awaited while another one stands there;
then it is taken for the echo and changes nothing. -/
theorem edit_taken_iff (c : SessionConfig) (t₀ : Text) (rs : List Request) (t : Text) :
    let s := (new c t₀).run rs
    (∃ b, (s.edit t).1 = .ok b) ∧
      ((s.edit t).2.text = t ↔ s.text = t ∨ ¬ Awaits (new c t₀) rs t) ∧
      ((s.edit t).2.text ≠ t → s.edit t = (.ok false, { s with pendingEcho := none })) := by
  intro s
  have h : Coherent c s := Coherent.run c t₀ rs
  have ha : s.pendingEcho = some t ↔ Awaits (new c t₀) rs t := pendingEcho_run_iff c t₀ rs t
  rw [edit_eq h.idle, ← ha]
  split
  · rename_i hi
    refine ⟨⟨false, rfl⟩, ?_, fun _ => rfl⟩
    rcases hi with he | ht
    · simp only [he, not_true_eq_false, or_false]
      rfl
    · have hs : s.text = t := h.text.trans ht.symm
      exact ⟨fun _ => .inl hs, fun _ => hs⟩
  · rename_i hi
    obtain ⟨he, -⟩ := not_or.mp hi
    have ht : (s.adopt (s.history.record t).2 none .user).refreshSearch.text = t := by
      rw [refreshSearch_eq]
      exact History.record_current ..
    exact ⟨⟨true, rfl⟩, ⟨fun _ => .inr he, fun _ => ht⟩, fun hn => absurd ht hn⟩

-- The surface edits the text that was written and then undone.
theorem edit_lost_after_undo :
    let s := (new .default "g1 x1".toList).run [.format, .undo]
    (s.edit "G1 X1".toList).1 = .ok false ∧ (s.edit "G1 X1".toList).2.text ≠ "G1 X1".toList := by
  decide

lemma Coherent.text_after (h : Coherent c s) {r : Request} (hb : ¬ r.brings) (hw : ∀ u, ¬ s.Writes r u)
    (hu : ¬ r.recalls) : (s.after r).text = s.text := by
  rcases r.looks_or with hl | hr | hr | hr
  · obtain ⟨m, b, -, he⟩ := after_looks (s := s) hl
    rw [he]
    rfl
  · rcases h.follows_after hr with ⟨ht, -⟩ | ⟨ht, -⟩
    · exact ht
    · exact absurd ⟨hr, Ne.symm ht, rfl⟩ (hw (s.after r).text)
  · exact absurd hr hb
  · exact absurd hr hu

lemma text_of_awaits {t₀ : Text} {rs : List Request} {t : Text} (ha : Awaits (new c t₀) rs t)
    (hrs : ∀ r ∈ rs, ¬ r.recalls) : ((new c t₀).run rs).text = t := by
  induction ha with
  | written hw =>
    rw [run_concat]
    exact hw.2.2
  | @still rs r t _ hb hw ih =>
    rw [run_concat, (Coherent.run c t₀ rs).text_after hb hw (hrs r (by simp))]
    exact ih fun q hq => hrs q (by simp [hq])

theorem text_edit_of_no_history (c : SessionConfig) (t₀ : Text) {rs : List Request}
    (hrs : ∀ r ∈ rs, ¬ r.recalls) (t : Text) : (((new c t₀).run rs).edit t).2.text = t := by
  have h := Coherent.run c t₀ rs
  rw [edit_eq h.idle]
  split
  · rename_i hi
    rcases hi with he | ht
    · exact text_of_awaits ((pendingEcho_run_iff c t₀ rs t).mp he) hrs
    · exact h.text.trans ht.symm
  · rw [refreshSearch_eq]
    exact History.record_current ..

end Session

end Toolpath.Editor
