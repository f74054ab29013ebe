import Toolpath.Proofs.Editor.Freshness
import Toolpath.Text.Offset

/-!
Ways to replace. One pass over the matches, in characters or in bytes, does the same as to replace them one by
one from the last to the first. The buffer, which keeps a range within its text, replaces like the search.
-/

namespace Toolpath.Pattern

open Text

namespace Match

def bytes (t : Text) (m : Match) : Match := ⟨byteOffset t m.start, byteOffset t m.stop⟩

def chars (t : Text) (m : Match) : Match := ⟨charOffset t m.start, charOffset t m.stop⟩

def replace {α : Type} (m : Match) (xs ws : List α) : List α := xs.take m.start ++ ws ++ xs.drop (max m.start m.stop)

/-- One pass from offset `pos` on, over characters or bytes. -/
def replaceFrom {α : Type} (xs ws : List α) : Nat → List Match → List α
  | pos, [] => xs.drop pos
  | pos, m :: ms => (xs.take m.start).drop pos ++ ws ++ replaceFrom xs ws m.stop ms

variable {t : Text} {m : Match} {ms : List Match}

lemma Within.chars_bytes (h : m.Within t 0) : (m.bytes t).chars t = m := by
  have hstart := charOffset_byteOffset (Nat.le_trans h.start_le h.stop_le)
  have hstop := charOffset_byteOffset h.stop_le
  simp [bytes, chars, hstart, hstop]

lemma encode_replace (t w : Text) (m : Match) :
    Utf8.encode (m.replace t w) = (m.bytes t).replace (Utf8.encode t) (Utf8.encode w) := by
  simp [replace, bytes, encode_take, encode_drop, (byteOffset_mono t).map_max]

lemma encode_replaceFrom (t w : Text) (pos : Nat) (ms : List Match) :
    Utf8.encode (replaceFrom t w pos ms) =
      replaceFrom (Utf8.encode t) (Utf8.encode w) (byteOffset t pos) (ms.map (·.bytes t)) := by
  induction ms generalizing pos with
  | nil => exact encode_drop t pos
  | cons m ms ih =>
    simp [replaceFrom, encode_slice, ih, bytes]

structure Ascend (t : Text) (pos : Nat) (ms : List Match) : Prop where
  within : ∀ m ∈ ms, m.Within t pos
  disjoint : ms.Pairwise (·.stop ≤ ·.start)

lemma Ascend.tail {pos : Nat} (h : Ascend t pos (m :: ms)) : Ascend t m.stop ms := by
  obtain ⟨hm, hd⟩ := List.pairwise_cons.mp h.disjoint
  refine ⟨fun m' hm' => ⟨hm m' hm', ?_, ?_⟩, hd⟩
  · exact (h.within m' (List.mem_cons_of_mem _ hm')).start_le
  · exact (h.within m' (List.mem_cons_of_mem _ hm')).stop_le

lemma Ascend.foldr {pos : Nat} (h : Ascend t pos ms) (w : Text) :
    ms.foldr (fun m u => m.replace u w) t = t.take pos ++ replaceFrom t w pos ms := by
  induction ms generalizing pos with
  | nil => exact (List.take_append_drop pos t).symm
  | cons m ms ih =>
    obtain ⟨hpos, hle, hlen⟩ := h.within m List.mem_cons_self
    -- The later matches, replaced first, leave the text up to `m.stop` as it is.
    have hstop : (t.take m.stop).length = m.stop := List.length_take_of_le hlen
    have hbefore : (t.take m.stop ++ replaceFrom t w m.stop ms).take m.start = t.take m.start := by
      rw [List.take_append_of_le_length (by omega), List.take_take, Nat.min_eq_left hle]
    have hafter : (t.take m.stop ++ replaceFrom t w m.stop ms).drop m.stop = replaceFrom t w m.stop ms :=
      List.drop_left' hstop
    have hkept : t.take m.start = t.take pos ++ (t.take m.start).drop pos := by
      have htake : (t.take m.start).take pos = t.take pos := by rw [List.take_take, Nat.min_eq_left hpos]
      rw [← htake, List.take_append_drop]
    calc (m :: ms).foldr (fun m u => m.replace u w) t
        = m.replace (t.take m.stop ++ replaceFrom t w m.stop ms) w := by rw [List.foldr_cons, ih h.tail]
      _ = t.take m.start ++ w ++ replaceFrom t w m.stop ms := by
        rw [replace, Nat.max_eq_right hle, hbefore, hafter]
      _ = t.take pos ++ replaceFrom t w pos (m :: ms) := by
        rw [replaceFrom, ← List.append_assoc, ← List.append_assoc, ← hkept]

end Match

end Toolpath.Pattern

namespace Toolpath.Editor

open Pattern Text

variable {t : Text} {ms : List Match}

lemma splice_eq {pos : Nat} (h : Match.Ascend t pos ms) (w : Text) :
    splice w pos ms (t.drop pos) = Match.replaceFrom t w pos ms := by
  induction ms generalizing pos with
  | nil => rfl
  | cons m ms ih =>
    have hm := h.within m List.mem_cons_self
    have hpos : pos + (m.stop - pos) = m.stop := Nat.add_sub_cancel' (Nat.le_trans hm.le_start hm.start_le)
    rw [splice, Match.replaceFrom, List.drop_drop, hpos, ih h.tail, List.drop_take]

lemma ascend_findMatches {query : Text} {o : SearchOptions} (h : findMatches t query o = .ok ms) :
    Match.Ascend t 0 ms := by
  refine ⟨fun m hm => ?_, pairwise_findMatches h⟩
  obtain ⟨hlt, hle⟩ := findMatches_within h m hm
  exact ⟨Nat.zero_le _, Nat.le_of_lt hlt, hle⟩

lemma text_replace (t w : Text) (m : Match) : ((Buffer.mk t).replace ⟨m.start, m.stop⟩ w).text = replaceMatch t m w := by
  have hstop : max (min m.stop t.length) (min m.start t.length) = min (max m.start m.stop) t.length := by omega
  rw [replaceMatch, List.take_eq_take_min, List.drop_eq_drop_min, ← hstop]
  rfl

lemma Session.text_replaceCurrent (c : SessionConfig) (t : Text) (rs : List Request) (w : Text) :
    let s := (new c t).run rs
    (s.replaceCurrent w).2.text = (s.search.replaceCurrent s.text w).getD s.text := by
  intro s
  rw [Search.replaceCurrent]
  cases hm : s.search.currentMatch with
  | none =>
    rw [Session.replaceCurrent, hm]
    rfl
  | some m =>
    rw [(Coherent.run c t rs).text_replaceCurrent hm]
    exact text_replace s.text w m

lemma replaceAll_eq {query : Text} {o : SearchOptions} (h : findMatches t query o = .ok ms) (w : Text) :
    replaceAll t query o w = .ok (ms.foldr (fun m u => replaceMatch u m w) t, ms.length) := by
  have hsplice : splice w 0 ms t = ms.foldr (fun m u => replaceMatch u m w) t :=
    (splice_eq (ascend_findMatches h) w).trans ((ascend_findMatches h).foldr w).symm
  rw [replaceAll, h, ← hsplice]
  rfl

lemma findMatches_of_compile {query : Text} {o : SearchOptions} {p : Pattern} (h : compile query o = .ok p) (t : Text) :
    ∃ ms, findMatches t query o = .ok ms := by
  rw [findMatches, h]
  split
  · exact ⟨_, rfl⟩
  · exact ⟨_, rfl⟩

/-- All matches of a query are replaced as if one by one, from the last to the first, and so in bytes. The buffer
replaces any range like the search, and so does a session with the current match. -/
theorem replaceAll_last_to_first (t w : Text) :
    (∀ query o p, compile query o = .ok p → ∃ ms, findMatches t query o = .ok ms ∧
      let u := ms.foldr (fun m u => replaceMatch u m w) t
      replaceAll t query o w = .ok (u, ms.length) ∧ (∀ m ∈ ms, (m.bytes t).chars t = m) ∧
      Utf8.encode u = Match.replaceFrom (Utf8.encode t) (Utf8.encode w) 0 (ms.map (·.bytes t))) ∧
    (∀ m, ((Buffer.mk t).replace ⟨m.start, m.stop⟩ w).text = replaceMatch t m w ∧
      Utf8.encode (replaceMatch t m w) = (m.bytes t).replace (Utf8.encode t) (Utf8.encode w)) ∧
    ∀ c rs, let s := (Session.new c t).run rs
      (s.replaceCurrent w).2.text = (s.search.replaceCurrent s.text w).getD s.text := by
  refine ⟨fun query o p hp => ?_, fun m => ⟨text_replace t w m, Match.encode_replace t w m⟩,
    fun c rs => Session.text_replaceCurrent c t rs w⟩
  obtain ⟨ms, hms⟩ := findMatches_of_compile hp t
  have hascend := ascend_findMatches hms
  refine ⟨ms, hms, replaceAll_eq hms w, fun m hm => (hascend.within m hm).chars_bytes, ?_⟩
  have hfold : ms.foldr (fun m u => replaceMatch u m w) t = Match.replaceFrom t w 0 ms := hascend.foldr w
  rw [hfold, Match.encode_replaceFrom, byteOffset_eq]
  rfl

theorem replaceAll_last_to_first_accents :
    let o : SearchOptions := ⟨true, false⟩
    ∃ p, compile "é?".toList o = .ok p ∧ ∃ ms, findMatches "Xéé→é".toList "é?".toList o = .ok ms ∧
      ms.map (·.bytes "Xéé→é".toList) = [⟨1, 3⟩, ⟨3, 5⟩, ⟨8, 10⟩] ∧
      replaceAll "Xéé→é".toList "é?".toList o "$0é".toList = .ok ("X$0é$0é→$0é".toList, 3) := by
  intro o
  obtain ⟨p, hp⟩ : ∃ p, compile "é?".toList o = .ok p := ⟨_, rfl⟩
  obtain ⟨ms, hms, hall, -⟩ := (replaceAll_last_to_first "Xéé→é".toList "$0é".toList).1 _ o p hp
  have hfound : findMatches "Xéé→é".toList "é?".toList o = .ok [⟨1, 2⟩, ⟨2, 3⟩, ⟨4, 5⟩] := by decide
  obtain rfl := Except.ok.inj (hfound.symm.trans hms)
  exact ⟨p, hp, _, hfound, by decide, hall⟩

end Toolpath.Editor
