import Toolpath.Proofs.Editor.Replacement
import Toolpath.Proofs.Pattern.Boundary

/-!
Matches in bytes. The table of a text's characters turns ranges of bytes into ranges of characters, by a search that
halves the table; what a query reports are the ranges of bytes that its pattern finds, turned so, without the empty ones.
-/

namespace Toolpath.Text

open Utf8

def bisect (xs : List ℕ) (x lo hi : ℕ) : ℕ :=
  if lo < hi then
    let mid := (lo + hi) / 2
    let y := xs[mid]?.getD 0
    if y = x then mid else if y < x then bisect xs x (mid + 1) hi else bisect xs x lo mid
  else lo
termination_by hi - lo

lemma findIdx_eq_of_getElem? {xs : List ℕ} (hxs : xs.Pairwise (· < ·)) {x k : ℕ} (hk : xs[k]? = some x) :
    xs.findIdx (x ≤ ·) = k := by
  obtain ⟨hlt, rfl⟩ := List.getElem?_eq_some_iff.mp hk
  rw [List.findIdx_eq hlt]
  refine ⟨decide_eq_true le_rfl, fun j hj => decide_eq_false (not_le.mpr ?_)⟩
  exact List.pairwise_iff_getElem.mp hxs j k _ hlt hj

lemma lt_findIdx {xs : List ℕ} (hxs : xs.Pairwise (· < ·)) {x k : ℕ} (hlt : k < xs.length) (hk : xs[k] < x) :
    k < xs.findIdx (x ≤ ·) := by
  by_contra h
  have hle : xs.findIdx (x ≤ ·) ≤ k := not_lt.mp h
  have hfound : x ≤ xs[xs.findIdx (x ≤ ·)] := of_decide_eq_true (List.findIdx_getElem (w := hle.trans_lt hlt))
  rcases hle.eq_or_lt with he | hlt'
  · simp only [he] at hfound
    exact not_le.mpr hk hfound
  · exact not_le.mpr hk (hfound.trans (List.pairwise_iff_getElem.mp hxs _ k _ hlt hlt').le)

lemma findIdx_le {xs : List ℕ} {x k : ℕ} (hlt : k < xs.length) (hk : x ≤ xs[k]) : xs.findIdx (x ≤ ·) ≤ k := by
  by_contra h
  exact of_decide_eq_false (List.not_of_lt_findIdx (not_le.mp h)) hk

lemma bisect_eq {xs : List ℕ} (hxs : xs.Pairwise (· < ·)) {x lo hi : ℕ} (hhi : hi ≤ xs.length)
    (h₁ : lo ≤ xs.findIdx (x ≤ ·)) (h₂ : xs.findIdx (x ≤ ·) ≤ hi) : bisect xs x lo hi = xs.findIdx (x ≤ ·) := by
  fun_induction bisect xs x lo hi with
  | case1 lo hi hlt mid y he =>
    have hmid : mid < xs.length := by omega
    have hy : xs[mid]? = some x := by rw [← he, List.getElem?_eq_getElem hmid]; simp [y, hmid]
    exact (findIdx_eq_of_getElem? hxs hy).symm
  | case2 lo hi hlt mid y he hy ih =>
    have hmid : mid < xs.length := by omega
    have hy' : xs[mid] < x := by simpa [y, hmid] using hy
    exact ih hhi (lt_findIdx hxs hmid hy') h₂
  | case3 lo hi hlt mid y he hy ih =>
    have hmid : mid < xs.length := by omega
    have hy' : x ≤ xs[mid] := by simpa [y, hmid] using hy
    exact ih (by omega) h₁ (findIdx_le hmid hy')
  | case4 lo hi hlt => omega

variable {t : Text} {b b' : ℕ}

lemma pairwise_byteStarts (t : Text) : (byteStarts t).Pairwise (· < ·) := by
  rw [List.pairwise_iff_getElem]
  intro i j hi hj hij
  have hget : ∀ {k} (hk : k < (byteStarts t).length), k ≤ t.length ∧ (byteStarts t)[k] = byteOffset t k := by
    intro k hk
    have hsome : (startsFrom 0 t)[k]? = some (byteStarts t)[k] := List.getElem?_eq_getElem hk
    rw [getElem?_startsFrom] at hsome
    split at hsome
    · rename_i hle
      exact ⟨hle, by rw [byteOffset_eq, ← Option.some.inj hsome, Nat.zero_add]⟩
    · cases hsome
  rw [(hget hi).2, (hget hj).2]
  exact byteOffset_lt hij (hget hj).1

lemma bisect_byteStarts (t : Text) (b : ℕ) :
    bisect (byteStarts t) (min b (encode t).length) 0 (byteStarts t).length = charOffset t b :=
  bisect_eq (pairwise_byteStarts t) le_rfl (Nat.zero_le _) List.findIdx_le_length

def IsByteBoundary (t : Text) (b : ℕ) : Prop := ∃ u, u <+: t ∧ (encode u).length = b

lemma isByteBoundary_iff : t.IsByteBoundary b ↔ ∃ i ≤ t.length, byteOffset t i = b := by
  constructor
  · rintro ⟨u, ⟨v, rfl⟩, rfl⟩
    exact ⟨u.length, by simp, by rw [byteOffset_eq, List.take_left]⟩
  · rintro ⟨i, -, rfl⟩
    exact ⟨t.take i, List.take_prefix i t, (byteOffset_eq t i).symm⟩

lemma IsByteBoundary.byteOffset_charOffset (h : t.IsByteBoundary b) : byteOffset t (charOffset t b) = b := by
  obtain ⟨i, hi, rfl⟩ := isByteBoundary_iff.mp h
  rw [Text.charOffset_byteOffset hi]

lemma IsByteBoundary.charOffset_le (h : t.IsByteBoundary b) : charOffset t b ≤ t.length := by
  obtain ⟨i, hi, rfl⟩ := isByteBoundary_iff.mp h
  rwa [Text.charOffset_byteOffset hi]

lemma IsByteBoundary.charOffset_lt (h : t.IsByteBoundary b) (h' : t.IsByteBoundary b') (hlt : b < b') :
    charOffset t b < charOffset t b' := by
  by_contra hle
  have hmono := byteOffset_mono t (not_lt.mp hle)
  rw [h.byteOffset_charOffset, h'.byteOffset_charOffset] at hmono
  exact not_le.mpr hlt hmono

lemma IsByteBoundary.charOffset_mono (h : t.IsByteBoundary b) (h' : t.IsByteBoundary b') (hle : b ≤ b') :
    charOffset t b ≤ charOffset t b' := by
  rcases hle.eq_or_lt with rfl | hlt
  · exact le_rfl
  · exact (h.charOffset_lt h' hlt).le

end Toolpath.Text

namespace Toolpath.Pattern

open Text

def byteMatches (p : Pattern) (t : Text) : List Match := (p.allMatches t).map (·.bytes t)

namespace Match

variable {t : Text} {bs : List Match}

/-- Ranges of bytes that begin and end between characters, each at the end of the one before or after it. -/
structure Cuts (t : Text) (bs : List Match) : Prop where
  range : ∀ b ∈ bs, t.IsByteBoundary b.start ∧ t.IsByteBoundary b.stop ∧ b.start ≤ b.stop
  disjoint : bs.Pairwise (·.stop ≤ ·.start)

def inChars (t : Text) (bs : List Match) : List Match := (bs.filter fun b => b.start < b.stop).map (·.chars t)

/-- Each range of bytes that is not empty is reported once and in order, as the range of its characters. -/
structure Reports (t : Text) (bs ms : List Match) : Prop where
  bytes_eq : ms.map (·.bytes t) = bs.filter fun b => b.start < b.stop
  range : ∀ m ∈ ms, m.start < m.stop ∧ m.stop ≤ t.length
  disjoint : ms.Pairwise (·.stop ≤ ·.start)
  increasing : ms.Pairwise fun m m' => m.start < m'.start ∧ m.stop < m'.stop
  cut : ∀ m ∈ ms, Utf8.encode ((t.take m.stop).drop m.start) =
    ((Utf8.encode t).take (m.bytes t).stop).drop (m.bytes t).start

lemma Cuts.bytes_chars (h : Cuts t bs) {b : Match} (hb : b ∈ bs) : (b.chars t).bytes t = b := by
  obtain ⟨hstart, hstop, -⟩ := h.range b hb
  simp [chars, bytes, hstart.byteOffset_charOffset, hstop.byteOffset_charOffset]

lemma Cuts.reports (h : Cuts t bs) : Reports t bs (inChars t bs) := by
  have hmem : ∀ {b}, b ∈ bs.filter (fun b => b.start < b.stop) → b ∈ bs ∧ b.start < b.stop := fun hb => by
    simpa using hb
  have hrange : ∀ m ∈ inChars t bs, m.start < m.stop ∧ m.stop ≤ t.length := by
    intro m hm
    obtain ⟨b, hb, rfl⟩ := List.mem_map.mp hm
    obtain ⟨hb, hlt⟩ := hmem hb
    obtain ⟨hstart, hstop, -⟩ := h.range b hb
    exact ⟨hstart.charOffset_lt hstop hlt, hstop.charOffset_le⟩
  have hdisjoint : (inChars t bs).Pairwise (·.stop ≤ ·.start) := by
    rw [inChars, List.pairwise_map]
    refine (h.disjoint.filter _).imp_of_mem fun hb hb' hle => ?_
    exact (h.range _ (hmem hb).1).2.1.charOffset_mono (h.range _ (hmem hb').1).1 hle
  refine ⟨?_, hrange, hdisjoint, ?_, fun m _ => encode_slice t m.start m.stop⟩
  · rw [inChars, List.map_map]
    refine (List.map_congr_left fun b hb => ?_).trans (List.map_id _)
    exact h.bytes_chars (hmem hb).1
  · refine hdisjoint.imp_of_mem fun hm hm' hle => ?_
    have hlt := (hrange _ hm).1
    have hlt' := (hrange _ hm').1
    omega

end Match

lemma cuts_byteMatches (p : Pattern) (t : Text) : Match.Cuts t (p.byteMatches t) := by
  refine ⟨fun b hb => ?_, ?_⟩
  · obtain ⟨m, hm, rfl⟩ := List.mem_map.mp hb
    obtain ⟨-, hle, hstop⟩ := allMatches_within p t m hm
    exact ⟨isByteBoundary_iff.mpr ⟨m.start, hle.trans hstop, rfl⟩, isByteBoundary_iff.mpr ⟨m.stop, hstop, rfl⟩,
      byteOffset_mono t hle⟩
  · rw [byteMatches, List.pairwise_map]
    exact (pairwise_allMatches p t).imp fun h => byteOffset_mono t h

lemma inChars_byteMatches (p : Pattern) (t : Text) :
    Match.inChars t (p.byteMatches t) = (p.allMatches t).filter fun m => m.start < m.stop := by
  have hkeep : (p.allMatches t).filter ((fun b : Match => decide (b.start < b.stop)) ∘ (·.bytes t)) =
      (p.allMatches t).filter fun m => m.start < m.stop := by
    refine List.filter_congr fun m hm => decide_eq_decide.mpr ?_
    obtain ⟨-, -, hstop⟩ := allMatches_within p t m hm
    exact ⟨fun hlt => not_le.mp fun hle => not_le.mpr hlt (byteOffset_mono t hle), fun hlt => byteOffset_lt hlt hstop⟩
  rw [Match.inChars, byteMatches, List.filter_map, List.map_map, hkeep]
  refine (List.map_congr_left fun m hm => ?_).trans (List.map_id _)
  exact (allMatches_within p t m (List.mem_filter.mp hm).1).chars_bytes

end Toolpath.Pattern

namespace Toolpath.Editor

open Pattern Text

variable {query : Text} {o : SearchOptions} {p : Pattern}

lemma empty_of_compile_nil (h : compile [] o = .ok p) (t : Text) : ∀ m ∈ p.allMatches t, ¬ m.start < m.stop := by
  have hp : p = .empty ∨ p = asWord .empty := by
    obtain ⟨c, w⟩ := o
    cases w
    · have he : compile [] ⟨c, false⟩ = .ok .empty := by cases c <;> rfl
      exact .inl (Except.ok.inj (h.symm.trans he))
    · have he : compile [] ⟨c, true⟩ = .ok (asWord .empty) := by cases c <;> rfl
      exact .inr (Except.ok.inj (h.symm.trans he))
  intro m hm
  obtain ⟨c, d, -, hd, rfl⟩ := allMatches_ends p t m hm
  have hend : d ∈ Pattern.empty.ends c := by
    rcases hp with rfl | rfl
    · exact hd
    · exact (ends_asWord hd).2.1
  rw [List.mem_singleton.mp hend]
  exact lt_irrefl _

lemma findMatches_eq_ok (h : compile query o = .ok p) (t : Text) :
    findMatches t query o = .ok ((p.allMatches t).filter fun m => m.start < m.stop) := by
  rw [findMatches]
  split
  · rename_i hq
    obtain rfl := List.isEmpty_iff.mp hq
    rw [List.filter_eq_nil_iff.mpr fun m hm => by simpa using empty_of_compile_nil h t m hm]
  · rw [h]
    rfl

/-- The table of characters and the halving search turn byte offsets between characters into character offsets and
back; so of any ranges of bytes that a pattern finds, all that are not empty are reported as the ranges of their
characters, and these are what a query finds. -/
theorem findMatches_reports (t : Text) :
    ((∀ b, bisect (byteStarts t) (min b (Utf8.encode t).length) 0 (byteStarts t).length = charOffset t b) ∧
      (∀ i ≤ t.length, charOffset t (byteOffset t i) = i) ∧
      ∀ b, t.IsByteBoundary b → byteOffset t (charOffset t b) = b) ∧
    (∀ bs, Match.Cuts t bs → Match.Reports t bs (Match.inChars t bs)) ∧
    ∀ query o p, compile query o = .ok p → Match.Cuts t (p.byteMatches t) ∧
      findMatches t query o = .ok (Match.inChars t (p.byteMatches t)) := by
  refine ⟨⟨bisect_byteStarts t, fun _ => charOffset_byteOffset, fun _ => IsByteBoundary.byteOffset_charOffset⟩,
    fun _ => Match.Cuts.reports, fun query o p hp => ⟨cuts_byteMatches p t, ?_⟩⟩
  rw [inChars_byteMatches, findMatches_eq_ok hp]

theorem findMatches_reports_wide :
    let t := "→é𝄞é→".toList
    let bs : List Match := [⟨0, 0⟩, ⟨3, 5⟩, ⟨9, 11⟩, ⟨14, 14⟩]
    let o : SearchOptions := ⟨true, false⟩
    (1 ≤ t.length ∧ charOffset t (byteOffset t 1) = 1) ∧ (IsByteBoundary t 9 ∧ byteOffset t (charOffset t 9) = 9) ∧
      (Match.Cuts t bs ∧ Match.inChars t bs = [⟨1, 2⟩, ⟨3, 4⟩] ∧ Match.Reports t bs (Match.inChars t bs)) ∧
      ∃ p, compile "é?".toList o = .ok p ∧ p.byteMatches t = bs ∧ findMatches t "é?".toList o = .ok (Match.inChars t bs) := by
  intro t bs o
  obtain ⟨p, hp, hbytes⟩ : ∃ p, compile "é?".toList o = .ok p ∧ p.byteMatches t = bs := ⟨_, rfl, by decide⟩
  obtain ⟨⟨-, hchars, hoffsets⟩, hreports, hfound⟩ := findMatches_reports t
  obtain ⟨hcuts, hfind⟩ := hfound _ o p hp
  rw [hbytes] at hcuts hfind
  have hboundary : IsByteBoundary t 9 := (hcuts.range ⟨9, 11⟩ (by decide)).1
  exact ⟨⟨by decide, hchars 1 (by decide)⟩, ⟨hboundary, hoffsets 9 hboundary⟩, ⟨hcuts, by decide, hreports bs hcuts⟩,
    p, hp, hbytes, hfind⟩

end Toolpath.Editor
