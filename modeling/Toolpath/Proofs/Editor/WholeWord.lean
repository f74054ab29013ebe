import Toolpath.Proofs.Editor.ByteRanges
import Toolpath.Proofs.Pattern.Enclosed

/-!
Search for whole words. A query is put into a group between two word boundaries as it is written, so that it means the
same there unless its last comment takes in what stands after it, or it closes the group itself.
-/

namespace Toolpath.Pattern

open Reading

def queryFlags (caseSensitive : Bool) : Flags := { Flags.plain with ignoreCase := !caseSensitive }

def Reading.start (f : Flags) : Reading := ⟨f, .new, [], []⟩

def wordGroup (f : Flags) : Outer := ⟨f, ⟨[], [.part (.look (.boundary false)) 0]⟩, false⟩

def wordStart : Text := "\\b(?:".toList

def wordEnd : Text := "\\b".toList

lemma finish_wordStart (cs : Bool) (n : ℕ) (t : Text) : finish (n + 2) (start (queryFlags cs)) (wordStart ++ t) =
    finish n ((start (queryFlags cs)).within [wordGroup (queryFlags cs)]) t := rfl

lemma finish_wordEnd (cs : Bool) {s : Reading} (h : s.outer = []) :
    ∃ d, finish 4 (s.within [wordGroup (queryFlags cs)]) (')' :: wordEnd) =
      .ok (.part s.group.close.pattern.asWord d) := by
  obtain ⟨f, g, outer, names⟩ := s
  obtain rfl : outer = [] := h
  rw [finish_cons 3 (skip_of_plain _ (by decide) rfl _)]
  exact ⟨_, rfl⟩

lemma finish_unopened {s : Reading} (h : s.outer = []) (n : ℕ) (z : Text) :
    finish (n + 1) (s.within []) (')' :: z) = .error .unopenedGroup := by
  obtain ⟨f, g, outer, names⟩ := s
  obtain rfl : outer = [] := h
  rw [finish_cons n (skip_of_plain _ (by decide) rfl _)]
  rfl

lemma within_nil (s : Reading) : s.within [] = s := by rw [within, List.append_nil]

def limited (i : Item) : Except Flaw Pattern :=
  if depthLimit < i.depth then .error .tooDeep
  else if !i.pattern.form.fits then .error .tooLarge
  else .ok i.pattern

lemma limited_cases (i : Item) :
    limited i = .ok i.pattern ∨ limited i = .error .tooDeep ∨ limited i = .error .tooLarge := by
  rw [limited]
  split
  · exact .inr (.inl rfl)
  · split
    · exact .inr (.inr rfl)
    · exact .inl rfl

lemma read_eq (f : Flags) {n : ℕ} {t : Text} (hn : t.length < n) : read f t = finish n (start f) t >>= limited := by
  rw [read, finish_congr (Nat.lt_succ_self t.length) hn, start]
  cases finish n ⟨f, .new, [], []⟩ t with
  | error e => rfl
  | ok i =>
    rw [Reader.ok_bind, Reader.ok_bind, limited]
    split
    · rfl
    · split <;> rfl

inductive ReadsWord : (alone behind whole : Except Flaw Pattern) → Prop
  | enclosed (i : Item) (d : ℕ) : ReadsWord (limited i) (.error .unopenedGroup) (limited (.part i.pattern.asWord d))
  | comment (i : Item) : ReadsWord (limited i) (limited i) (.error .unclosedGroup)
  | escapes (behind whole : Except Flaw Pattern) : ReadsWord (.error .unopenedGroup) behind whole
  | fails (e e' : Flaw) (behind : Except Flaw Pattern) : ReadsWord (.error e) behind (.error e')

lemma readsWord (cs : Bool) (q : Text) : ReadsWord (read (queryFlags cs) q) (read (queryFlags cs) (q ++ ')' :: wordEnd))
    (read (queryFlags cs) (wordStart ++ (q ++ ')' :: wordEnd))) := by
  let f := queryFlags cs
  have hlength : (q ++ ')' :: wordEnd).length = q.length + 3 := List.length_append
  have hlength' : (wordStart ++ (q ++ ')' :: wordEnd)).length = q.length + 8 := by
    rw [List.length_append, hlength, Nat.add_comm]
    rfl
  obtain ⟨n, hn₀⟩ : ∃ n, n = q.length + 7 := ⟨_, rfl⟩
  have hn : (q ++ ')' :: wordEnd).length < n := by omega
  have hn' : (wordStart ++ (q ++ ')' :: wordEnd)).length < n + 2 := by omega
  have hencloses := encloses_append (z := wordEnd) (s := start f) (by decide) (by decide) (by decide) (by decide) hn
  generalize hmore : (fun o => finish n ((start f).within o) (q ++ ')' :: wordEnd)) = more at hencloses
  have hbehind : read f (q ++ ')' :: wordEnd) = more [] >>= limited := by
    rw [read_eq f hn, ← hmore]
    dsimp only
    rw [within_nil]
  have hwhole : read f (wordStart ++ (q ++ ')' :: wordEnd)) = more [wordGroup f] >>= limited := by
    rw [read_eq f hn', finish_wordStart, ← hmore]
  rw [read_eq (queryFlags cs) (show q.length < n by omega), hbehind, hwhole]
  generalize finish n (start (queryFlags cs)) q = alone at hencloses
  cases hencloses with
  | closed s h =>
    obtain ⟨d, hd⟩ := finish_wordEnd cs h
    change ReadsWord (limited s.group.close) (finish 4 (s.within []) (')' :: wordEnd) >>= limited)
      (finish 4 (s.within [wordGroup (queryFlags cs)]) (')' :: wordEnd) >>= limited)
    rw [finish_unopened h, hd]
    exact .enclosed _ d
  | comment s h => exact .comment _
  | escapes => exact .escapes _ _
  | fails e h =>
    obtain ⟨e', he⟩ := h [wordGroup f] (List.cons_ne_nil _ _)
    rw [he]
    exact .fails e e' _

end Toolpath.Pattern

namespace Toolpath.Editor

open Pattern

variable {query : Text} {cs : Bool}

/-- The query is valid, and so it is with what is put after it for whole words, which its last comment takes in. -/
def EndsInComment (query : Text) (cs : Bool) : Prop :=
  (∃ p, compile query ⟨cs, false⟩ = .ok p) ∧ ∃ p, compile (query ++ ")\\b".toList) ⟨cs, false⟩ = .ok p

/-- The query closes a group that it has not opened, and is read for whole words all the same. -/
def Escapes (query : Text) (cs : Bool) : Prop :=
  compile query ⟨cs, false⟩ = .error ⟨query, Flaw.unopenedGroup.message⟩ ∧ ∃ p, compile query ⟨cs, true⟩ = .ok p

def WithinLimits (query : Text) (cs : Bool) : Prop := ∀ w e, compile query ⟨cs, w⟩ = .error e →
  e.reason ≠ Flaw.tooDeep.message ∧ e.reason ≠ Flaw.tooLarge.message

structure FindsWords (query : Text) (cs : Bool) : Prop where
  fails_iff : ∀ t, (∃ e, findMatches t query ⟨cs, true⟩ = .error e) ↔ ∃ e, findMatches t query ⟨cs, false⟩ = .error e
  boundaries : ∀ t ms, findMatches t query ⟨cs, true⟩ = .ok ms →
    ∀ m ∈ ms, t.IsWordBoundary m.start ∧ t.IsWordBoundary m.stop

def compiled (query : Text) (r : Except Flaw Pattern) : Except InvalidExpression Pattern :=
  match r with
  | .ok p => .ok p
  | .error e => .error ⟨query, e.message⟩

lemma compile_alone (query : Text) (cs : Bool) :
    compile query ⟨cs, false⟩ = compiled query (read (queryFlags cs) query) := rfl

lemma compile_whole (query : Text) (cs : Bool) : compile query ⟨cs, true⟩ =
    compiled query (read (queryFlags cs) (wordStart ++ (query ++ ')' :: wordEnd))) := by
  rw [compile, patternText, if_pos rfl, List.append_assoc]
  rfl

lemma compile_behind (query : Text) (cs : Bool) : compile (query ++ ")\\b".toList) ⟨cs, false⟩ =
    compiled (query ++ ")\\b".toList) (read (queryFlags cs) (query ++ ')' :: wordEnd)) := rfl

lemma limited_eq_ok {i : Item} (h : ∀ e, compiled query (limited i) = .error e →
    e.reason ≠ Flaw.tooDeep.message ∧ e.reason ≠ Flaw.tooLarge.message) : limited i = .ok i.pattern := by
  rcases limited_cases i with hi | hi | hi
  · exact hi
  · rw [hi] at h
    exact absurd rfl (h _ rfl).1
  · rw [hi] at h
    exact absurd rfl (h _ rfl).2

inductive ComparesWords (query : Text) (cs : Bool) : Prop
  | same (p : Pattern) (halone : compile query ⟨cs, false⟩ = .ok p) (hwhole : compile query ⟨cs, true⟩ = .ok p.asWord)
    (hcomment : ¬ EndsInComment query cs)
  | comment (hcomment : EndsInComment query cs) (e : InvalidExpression) (hwhole : compile query ⟨cs, true⟩ = .error e)
  | escapes (h : Escapes query cs)
  | fails (e e' : InvalidExpression) (halone : compile query ⟨cs, false⟩ = .error e)
    (hwhole : compile query ⟨cs, true⟩ = .error e')

lemma comparesWords (hl : WithinLimits query cs) : ComparesWords query cs := by
  have hread := readsWord cs query
  have halone := compile_alone query cs
  have hbehind := compile_behind query cs
  have hwhole := compile_whole query cs
  generalize read (queryFlags cs) query = alone, read (queryFlags cs) (query ++ ')' :: wordEnd) = behind,
    read (queryFlags cs) (wordStart ++ (query ++ ')' :: wordEnd)) = whole at hread halone hbehind hwhole
  cases hread with
  | enclosed i d =>
    rw [limited_eq_ok fun e he => hl false e (halone.trans he)] at halone
    rw [limited_eq_ok fun e he => hl true e (hwhole.trans he)] at hwhole
    refine .same i.pattern halone hwhole ?_
    rintro ⟨-, p, hp⟩
    rw [hbehind] at hp
    cases hp
  | comment i =>
    have hi := limited_eq_ok fun e he => hl false e (halone.trans he)
    rw [hi] at halone hbehind
    exact .comment ⟨⟨_, halone⟩, _, hbehind⟩ _ hwhole
  | escapes =>
    cases hw : compile query ⟨cs, true⟩ with
    | error e => exact .fails _ e halone hw
    | ok p => exact .escapes ⟨halone, p, hw⟩
  | fails e e' => exact .fails _ _ halone hwhole

lemma exists_error_iff (hq : query ≠ []) (t : Text) (o : SearchOptions) :
    (∃ e, findMatches t query o = .error e) ↔ ∃ e, compile query o = .error e := by
  rw [findMatches, if_neg (by simpa using hq)]
  cases compile query o with
  | error e => exact ⟨fun _ => ⟨e, rfl⟩, fun _ => ⟨e, rfl⟩⟩
  | ok p =>
    constructor
    · rintro ⟨e, ⟨⟩⟩
    · rintro ⟨e, ⟨⟩⟩

lemma FindsWords.error_iff (h : FindsWords query cs) (hq : query ≠ []) :
    (∃ e, compile query ⟨cs, true⟩ = .error e) ↔ ∃ e, compile query ⟨cs, false⟩ = .error e := by
  rw [← exists_error_iff hq [], ← exists_error_iff hq []]
  exact h.fails_iff []

lemma findsWords_of_same (hq : query ≠ []) {p : Pattern} (halone : compile query ⟨cs, false⟩ = .ok p)
    (hwhole : compile query ⟨cs, true⟩ = .ok p.asWord) : FindsWords query cs := by
  refine ⟨fun t => ?_, fun t ms hms m hm => ?_⟩
  · rw [exists_error_iff hq, exists_error_iff hq, halone, hwhole]
    constructor
    · rintro ⟨e, ⟨⟩⟩
    · rintro ⟨e, ⟨⟩⟩
  · rw [findMatches_eq_ok hwhole] at hms
    obtain rfl := Except.ok.inj hms
    exact isWordBoundary_of_mem_asWord (List.mem_filter.mp hm).1

lemma findsWords_of_fails (hq : query ≠ []) {e e' : InvalidExpression} (halone : compile query ⟨cs, false⟩ = .error e)
    (hwhole : compile query ⟨cs, true⟩ = .error e') : FindsWords query cs := by
  refine ⟨fun t => ?_, fun t ms hms => ?_⟩
  · rw [exists_error_iff hq, exists_error_iff hq]
    exact ⟨fun _ => ⟨e, halone⟩, fun _ => ⟨e', hwhole⟩⟩
  · obtain ⟨e'', he''⟩ := (exists_error_iff hq t _).mpr ⟨e', hwhole⟩
    cases hms.symm.trans he''

/-- A query is valid for whole words exactly when it is without, unless its last comment takes in what stands after it
or it closes the group around it; and where it is, what it matches begins and ends where words do. -/
theorem findsWords_iff (hq : query ≠ []) (hl : WithinLimits query cs) :
    (FindsWords query cs ↔ ¬ EndsInComment query cs ∧ ¬ Escapes query cs) ∧
      ∀ p, compile query ⟨cs, false⟩ = .ok p → ¬ EndsInComment query cs → compile query ⟨cs, true⟩ = .ok p.asWord := by
  cases comparesWords hl with
  | same p halone hwhole hcomment =>
    refine ⟨iff_of_true (findsWords_of_same hq halone hwhole) ⟨hcomment, fun h => ?_⟩, fun p' hp' _ => ?_⟩
    · cases halone.symm.trans h.1
    · rwa [Except.ok.inj (hp'.symm.trans halone)]
  | comment hcomment e hwhole =>
    refine ⟨iff_of_false (fun h => ?_) fun h => h.1 hcomment, fun _ _ h => absurd hcomment h⟩
    obtain ⟨p, hp⟩ := hcomment.1
    obtain ⟨e', he'⟩ := (h.error_iff hq).mp ⟨e, hwhole⟩
    cases hp.symm.trans he'
  | escapes h =>
    obtain ⟨halone, p, hwhole⟩ := h
    refine ⟨iff_of_false (fun h => ?_) fun h => h.2 ⟨halone, p, hwhole⟩, fun p' hp' => ?_⟩
    · obtain ⟨e', he'⟩ := (h.error_iff hq).mpr ⟨_, halone⟩
      cases hwhole.symm.trans he'
    · cases hp'.symm.trans halone
  | fails e e' halone hwhole =>
    refine ⟨iff_of_true (findsWords_of_fails hq halone hwhole) ⟨fun h => ?_, fun h => ?_⟩, fun p hp => ?_⟩
    · obtain ⟨p, hp⟩ := h.1
      cases hp.symm.trans halone
    · obtain ⟨p, hp⟩ := h.2
      cases hp.symm.trans hwhole
    · cases hp.symm.trans halone

theorem findsWords_alternation : "a|b".toList ≠ [] ∧ WithinLimits "a|b".toList true ∧
    (FindsWords "a|b".toList true ↔ ¬ EndsInComment "a|b".toList true ∧ ¬ Escapes "a|b".toList true) ∧
    FindsWords "a|b".toList true ∧
    ∃ p, compile "a|b".toList ⟨true, false⟩ = .ok p ∧ compile "a|b".toList ⟨true, true⟩ = .ok p.asWord := by
  obtain ⟨p, hp⟩ : ∃ p, compile "a|b".toList ⟨true, false⟩ = .ok p := ⟨_, rfl⟩
  obtain ⟨p', hp'⟩ : ∃ p, compile "a|b".toList ⟨true, true⟩ = .ok p := ⟨_, rfl⟩
  have hlimits : WithinLimits "a|b".toList true := by
    intro w e he
    cases w with
    | false => cases hp.symm.trans he
    | true => cases hp'.symm.trans he
  have hcomment : ¬ EndsInComment "a|b".toList true := by
    rintro ⟨-, q, hq⟩
    exact absurd hq nofun
  have hescapes : ¬ Escapes "a|b".toList true := fun h => absurd (hp.symm.trans h.1) nofun
  obtain ⟨hiff, hword⟩ := findsWords_iff (by decide : "a|b".toList ≠ []) hlimits
  exact ⟨by decide, hlimits, hiff, hiff.mpr ⟨hcomment, hescapes⟩, p, hp, hword p hp hcomment⟩

theorem wholeWord_accepts_unopened :
    findMatches "ax".toList "a)|(b".toList ⟨true, false⟩ = .error ⟨"a)|(b".toList, Flaw.unopenedGroup.message⟩ ∧
    findMatches "ax".toList "a)|(b".toList ⟨true, true⟩ = .ok [⟨0, 1⟩] ∧ ¬ Text.IsWordBoundary "ax".toList 1 ∧
    findMatches "a".toList "(?x)a#".toList ⟨true, false⟩ = .ok [⟨0, 1⟩] ∧
    findMatches "a".toList "(?x)a#".toList ⟨true, true⟩ =
      .error ⟨"(?x)a#".toList, Flaw.unclosedGroup.message⟩ :=
  -- A query that is not valid is found as whole words, and not between word boundaries; one that is valid is not.
  ⟨by decide, by decide, by decide, by decide, by decide⟩

end Toolpath.Editor
