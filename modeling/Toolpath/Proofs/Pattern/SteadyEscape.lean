import Toolpath.Proofs.Pattern.Steady

/-!
Counts and escapes leave a closing parenthesis over. Only the beginning of a named word boundary is not read the same
with more text behind: where it ends after its opening brace, a parenthesis makes a plain boundary of it.
-/

namespace Toolpath.Pattern

open Reader
open Text (Ranges)

variable {α : Type} {z : Text} (f : Flags)

def countOf (digits : Text) : Option (Except Flaw ℕ) :=
  if digits.isEmpty then none
  else
    let n := digits.foldl (fun n c => 10 * n + (c.toNat - 48)) 0
    some (if n < 0x100000000 then .ok n else .error .badCount)

def counting (next : Except Flaw ℕ → Reader α) : Reader α :=
  trimming (chain (run f Text.isAsciiDigit) fun digits => trimming (next ((countOf digits).getD (.error .badCount))))

lemma counting_eq (next : Except Flaw ℕ → Reader α) (t : Text) :
    counting f next t = next ((readCount f t).1.getD (.error .badCount)) (readCount f t).2 := by
  rw [counting, trimming, chain, run, ok_bind, readCount, countOf, trimming]
  dsimp only
  split <;> rfl

def boundsOf : Reader (ℕ × Option ℕ) := fun t => (readBounds f t).map fun b => ((b.1, b.2.1), b.2.2)

lemma boundsOf_eq : boundsOf f = skipping f (counting f fun low =>
    peek ','
      (skipping f (peek '\x7d' (given low fun n => done (n, none))
        (given low fun n => counting f fun high => given high fun m =>
          peek '\x7d' (if m < n then fail .badCount else done (n, some m)) (fail .badCount))))
      (peek '\x7d' (given low fun n => done (n, some n)) (fail .badCount))) := by
  funext t
  rw [boundsOf, readBounds, skipping, counting_eq]
  dsimp only
  generalize (readCount f (skip f t)).1.getD (.error .badCount) = low
  split
  · rename_i r hr
    rw [hr, peek_self, skipping]
    split
    · rename_i hhead
      obtain ⟨r', hr'⟩ := List.head?_eq_some_iff.mp hhead
      rw [hr', peek_self]
      cases low <;> rfl
    · rename_i hhead
      rw [peek_other fun r' hr' => hhead (by rw [hr']; rfl)]
      cases low with
      | error e => rfl
      | ok n =>
        rw [ok_bind, given_ok, counting_eq]
        cases (readCount f (skip f r)).1.getD (.error .badCount) with
        | error e => rfl
        | ok m =>
          rw [ok_bind, given_ok]
          split
          · rename_i r' hr'
            rw [hr', peek_self]
            split <;> rfl
          · rename_i hne
            rw [peek_other hne]
            rfl
  · rename_i r hr
    rw [hr, peek_other (by simp), peek_self]
    cases low <;> rfl
  · rename_i hcomma hbrace
    rw [peek_other hcomma, peek_other hbrace]
    rfl

lemma readProperty_eq : readProperty f = skipping f (peek '\x7b'
    (skipping f (through f (· ≠ '\x7d') .unfinishedEscape fun name => given (propertyNamed name) done))
    (item .unfinishedEscape fun c =>
      if c = '\\' then fail .unknownProperty else given (propertyNamed [c]) fun k => skipping f (done k))) := by
  funext t
  rw [readProperty, skipping]
  split
  · rename_i ht
    rw [ht]
    rfl
  · rename_i r hr
    rw [hr, peek_self, skipping, through]
    dsimp only
    split <;> rename_i hrun <;> rw [hrun] <;> rfl
  · rename_i c r hne hr
    rw [peek_other (by rw [hr]; simpa using hne), hr, item]
    split <;> rfl

def codePointOf (count : ℕ) : Reader (Primitive × Bool) :=
  skipping f (peek '\x7b'
    (skipping f (chain (run f isHex) fun digits =>
      peek '\x7d' (given (ofCodePoint digits) fun p => skipping f (done (p, true))) (fail .badCodePoint)))
    (chain (fun t => .ok (takeRun f isHex count t)) fun digits =>
      if digits.length = count then given (ofCodePoint digits) fun p => done (p, false) else fail .badCodePoint))

lemma codePointOf_eq (count : ℕ) (t : Text) : codePointOf f count t =
    (readCodePoint f count t).map fun a => ((a.1, decide ((skip f t).head? = some '\x7b')), a.2) := by
  rw [readCodePoint, codePointOf, skipping]
  split
  · rename_i r hr
    rw [hr, peek_self, skipping, chain, run, ok_bind]
    dsimp only
    split
    · rename_i digits rest hrun
      rw [hrun, peek_self, given]
      cases ofCodePoint digits <;> rfl
    · rename_i hrun
      exact peek_other fun r hr => hrun _ r (Prod.ext rfl hr)
  · rename_i hne
    have hhead : (skip f t).head? ≠ some '\x7b' := by
      rw [Ne, List.head?_eq_some_iff]
      rintro ⟨r, hr⟩
      exact hne r hr
    rw [peek_other hne, chain, ok_bind]
    dsimp only
    split
    · rw [given]
      cases ofCodePoint (takeRun f isHex count (skip f t)).1 with
      | error e => rfl
      | ok p => simp [ok_bind, hhead, done, Except.map]
    · rfl

lemma readCodePoint_eq (count : ℕ) : readCodePoint f count = chain (codePointOf f count) fun a => done a.1 := by
  funext t
  rw [chain, codePointOf_eq]
  cases readCodePoint f count t <;> rfl

lemma readByte_eq : readByte f = chain (codePointOf f 2) fun a => match a.1 with
    | .char c => if !f.unicode && 127 < c.toNat && !a.2 then fail .notInText else done a.1
    | _ => done a.1 := by
  funext t
  rw [chain, codePointOf_eq, readByte]
  cases readCodePoint f 2 t with
  | error e => rfl
  | ok a =>
    obtain ⟨p, r⟩ := a
    cases p with
    | char c =>
      simp only [ok_bind, Except.map, decide_not, ne_eq]
      split <;> rfl
    | set k => rfl
    | condition l => rfl

lemma readEscape_property {c : Char} (hc : c = 'p' ∨ c = 'P') : (fun r => readEscape f (c :: r)) =
    if !f.unicode then fail .notInText
    else chain (readProperty f) fun a => done (.set
      (if a.2 != (c = 'P') then (foldCase f a.1).complement else foldCase f a.1)) := by
  funext r
  by_cases hu : (!f.unicode) = true
  · rw [if_pos hu]
    rcases hc with rfl | rfl <;> exact if_pos hu
  · rw [if_neg hu]
    rcases hc with rfl | rfl <;> exact if_neg hu

def escapeLetters : List Char :=
  ['x', 'u', 'U', 'p', 'P', 'a', 'f', 't', 'n', 'r', 'v', 'A', 'z', 'B', '<', '>']

lemma readEscape_other {c : Char} (hc : c ∉ 'b' :: escapeLetters) (hd : ¬ Text.isAsciiDigit c) :
    (fun r => readEscape f (c :: r)) = match letterClass f c with
      | some k => given k fun k => done (.set k)
      | none => if isMeta c || (c.toNat < 128 && !Text.isAsciiLetter c) then done (.char c) else fail .unknownEscape := by
  funext r
  unfold readEscape
  dsimp only
  rw [if_neg hd]
  split
  case h_18 =>
    cases letterClass f c with
    | some k => rfl
    | none =>
      dsimp only
      split <;> rfl
  all_goals exact absurd (by decide) hc

def isBoundaryChar (c : Char) : Bool := Text.isAsciiLetter c || c = '-'

def boundaryNamed? (name : Text) : Option Look :=
  match String.ofList name with
  | "start" => some (.wordStart !f.unicode)
  | "end" => some (.wordEnd !f.unicode)
  | "start-half" => some (.noWordBefore !f.unicode)
  | "end-half" => some (.noWordAfter !f.unicode)
  | _ => none

def namedBoundary : Reader Look := chain (run f isBoundaryChar) fun name =>
  peek '\x7d' (match boundaryNamed? f name with
    | some l => done l
    | none => fail .unknownEscape) (fail .unknownEscape)

def OpensBrace (t : Text) : Prop := ∃ u, t = '\x7b' :: u ∧ skip f u = []

def nameAhead (t : Text) : Bool := t.head? = some '\x7b' && (skip f t.tail).head?.any isBoundaryChar

def boundaryOf : Reader Primitive := branch (nameAhead f)
  (peek '\x7b' (skipping f (chain (namedBoundary f) fun l => done (.condition l))) (fail .badCount))
  (done (Primitive.condition (.boundary !f.unicode)))

lemma readEscape_boundary_eq (t : Text) : readEscape f ('b' :: t) =
    match readBoundaryName f t with
    | some found => found >>= fun a => .ok (Primitive.condition a.1, a.2)
    | none => .ok (.condition (.boundary !f.unicode), t) := rfl

lemma exists_condition_of_boundary {t : Text} {a : Primitive × Text} (h : readEscape f ('b' :: t) = .ok a) :
    ∃ l, a.1 = .condition l := by
  rw [readEscape_boundary_eq] at h
  split at h
  · rename_i found _
    cases found with
    | error e => cases h
    | ok b =>
      cases h
      exact ⟨b.1, rfl⟩
  · cases h
    exact ⟨_, rfl⟩

lemma readBoundaryName_brace {u r : Text} {c : Char} (hs : skip f u = c :: r) : readBoundaryName f ('\x7b' :: u) =
    if isBoundaryChar c then some (namedBoundary f (c :: r)) else none := by
  rw [readBoundaryName, hs]
  by_cases hc : isBoundaryChar c
  · refine (if_neg (show ¬ (!isBoundaryChar c) = true by simp [hc])).trans ?_
    rw [if_pos hc, namedBoundary, chain, run, ok_bind]
    dsimp only
    split
    · rename_i rest l hrest hl
      have hrest' : (takeRun f isBoundaryChar (c :: r).length (c :: r)).2 = '\x7d' :: rest := hrest
      have hl' : boundaryNamed? f (takeRun f isBoundaryChar (c :: r).length (c :: r)).1 = some l := hl
      rw [hl', hrest', peek_self]
      rfl
    · rename_i hne
      split
      · rename_i l hl
        have hbrace : ∀ rest, (takeRun f isBoundaryChar (c :: r).length (c :: r)).2 = '\x7d' :: rest → False :=
          fun rest hrest => hne rest l hrest hl
        rw [peek_other hbrace]
        rfl
      · rw [peek_fail]
  · rw [if_neg hc]
    exact if_pos (show (!isBoundaryChar c) = true by simp [hc])

lemma readEscape_boundary {t : Text} (h : ¬ OpensBrace f t) : readEscape f ('b' :: t) = boundaryOf f t := by
  rw [readEscape_boundary_eq, boundaryOf, branch]
  cases t with
  | nil => rfl
  | cons c u =>
    by_cases hc : c = '\x7b'
    · subst hc
      cases hs : skip f u with
      | nil => exact absurd ⟨u, rfl, hs⟩ h
      | cons c r =>
        have hahead : nameAhead f ('\x7b' :: u) = isBoundaryChar c := by simp [nameAhead, hs]
        rw [readBoundaryName_brace f hs, hahead]
        by_cases hname : isBoundaryChar c
        · rw [if_pos hname, if_pos hname, peek_self, skipping, hs]
          rfl
        · rw [if_neg hname, if_neg hname]
          rfl
    · have hahead : nameAhead f (c :: u) = false := by simp [nameAhead, hc]
      have hnone : readBoundaryName f (c :: u) = none := by
        unfold readBoundaryName
        split
        · rename_i heq
          exact absurd (List.cons.inj heq).1 hc
        · rfl
      rw [hnone, hahead]
      rfl

section

variable (hz : '\n' ∉ z)

include hz

lemma Steady.counting {next : Except Flaw ℕ → Reader α} (hnext : ∀ n, Steady z (next n)) :
    Steady z (counting f next) :=
  .trimming (.chain (.run f _ hz rfl) fun _ => .trimming (hnext _))

lemma steady_boundsOf : Steady z (boundsOf f) := by
  rw [boundsOf_eq]
  refine .skipping hz f (.counting f hz fun low => .peek (by decide) (.skipping hz f ?_) ?_)
  · refine .peek (by decide) (.given _ fun _ => .done _) (.given _ fun n => .counting f hz fun high => ?_)
    refine .given _ fun m => .peek (by decide) ?_ (.fail _)
    split
    · exact .fail _
    · exact .done _
  · exact .peek (by decide) (.given _ fun _ => .done _) (.fail _)

lemma steady_readProperty : Steady z (readProperty f) := by
  rw [readProperty_eq]
  refine .skipping hz f (.peek (by decide) (.skipping hz f ?_) (.item _ fun c => ?_))
  · exact .through f _ hz _ fun _ => .given _ .done
  · split
    · exact .fail _
    · exact .given _ fun k => .skipping hz f (.done k)

lemma steady_codePointOf (count : ℕ) : Steady z (codePointOf f count) := by
  refine .skipping hz f (.peek (by decide) (.skipping hz f ?_) ?_)
  · exact .chain (.run f _ hz rfl) fun _ =>
      .peek (by decide) (.given _ fun _ => .skipping hz f (.done _)) (.fail _)
  · refine .chain (.takeRun f _ hz rfl count) fun digits => ?_
    split
    · exact .given _ fun _ => .done _
    · exact .fail _

lemma steady_readCodePoint (count : ℕ) : Steady z (readCodePoint f count) := by
  rw [readCodePoint_eq]
  exact .chain (steady_codePointOf f hz count) fun a => .done a.1

lemma steady_readByte : Steady z (readByte f) := by
  rw [readByte_eq]
  refine .chain (steady_codePointOf f hz 2) fun a => ?_
  split
  · split
    · exact .fail _
    · exact .done _
  · exact .done _

lemma steady_readEscape_property {c : Char} (hc : c = 'p' ∨ c = 'P') : Steady z fun r => readEscape f (c :: r) := by
  rw [readEscape_property f hc]
  split
  · exact .fail _
  · exact .chain (steady_readProperty f hz) fun a => .done _

lemma steady_readEscape_letter {c : Char} (hc : c ∈ escapeLetters) : Steady z fun r => readEscape f (c :: r) := by
  rw [escapeLetters] at hc
  simp only [List.mem_cons, List.not_mem_nil, or_false] at hc
  rcases hc with rfl | rfl | rfl | rfl | rfl | rfl | rfl | rfl | rfl | rfl | rfl | rfl | rfl | rfl | rfl | rfl
  · exact steady_readByte f hz
  · exact steady_readCodePoint f hz 4
  · exact steady_readCodePoint f hz 8
  · exact steady_readEscape_property f hz (.inl rfl)
  · exact steady_readEscape_property f hz (.inr rfl)
  all_goals exact .done _

lemma steady_readEscape {c : Char} (hb : c ≠ 'b') : Steady z fun r => readEscape f (c :: r) := by
  by_cases hc : c ∈ escapeLetters
  · exact steady_readEscape_letter f hz hc
  · by_cases hd : Text.isAsciiDigit c
    · refine .never fun t a h => ?_
      unfold readEscape at h
      dsimp only at h
      rw [if_pos hd] at h
      cases h
    · rw [readEscape_other f (by simp [hb, hc]) hd]
      split
      · exact .given _ fun k => .done _
      · split
        · exact .done _
        · exact .fail _

lemma steady_boundaryOf : Steady z (boundaryOf f) := by
  refine .branch (fun t => ?_) (.peek (by decide) (.skipping hz f (.chain ?_ fun l => .done _)) (.fail _)) (.done _)
  · cases t with
    | nil => rfl
    | cons c t =>
      rw [nameAhead, nameAhead, List.cons_append, List.head?_cons, List.tail_cons, List.tail_cons, List.head?_cons]
      rcases skip_append hz f t with h | ⟨h, h'⟩
      · rw [h]
        cases skip f t <;> rfl
      · rw [h, h']
  · refine .chain (.run f _ hz rfl) fun name => .peek (by decide) ?_ (.fail _)
    split
    · exact .done _
    · exact .fail _

lemma readEscape_openBrace {t : Text} (h : OpensBrace f t) : readEscape f ('b' :: t) = .error .badCount ∧
    ((∃ e, readEscape f ('b' :: (t ++ ')' :: z)) = .error e) ∨
      readEscape f ('b' :: (t ++ ')' :: z)) = .ok (.condition (.boundary !f.unicode), t ++ ')' :: z)) := by
  obtain ⟨u, rfl, hu⟩ := h
  have hend : ∀ {u}, skip f u = [] → readEscape f ('b' :: '\x7b' :: u) = .error .badCount := by
    intro u hu
    rw [readEscape_boundary_eq, readBoundaryName, hu]
    rfl
  refine ⟨hend hu, ?_⟩
  cases hs : skip f (u ++ ')' :: z) with
  | nil => exact .inl ⟨_, hend hs⟩
  | cons c r =>
    have hparen : c :: r = ')' :: z := by
      rcases skip_append hz f u with h | ⟨-, h⟩
      · rwa [hu, hs] at h
      · rw [hs] at h
        cases h
    obtain ⟨rfl, rfl⟩ := List.cons.inj hparen
    refine .inr ?_
    rw [List.cons_append, readEscape_boundary_eq, readBoundaryName_brace f hs]
    rfl

end

lemma OpensBrace.of_append (hz : '\n' ∉ z) {t : Text} (h : OpensBrace f (t ++ ')' :: z)) : OpensBrace f t := by
  obtain ⟨u, ht, hu⟩ := h
  cases t with
  | nil => exact absurd (List.cons.inj ht).1 (by decide)
  | cons c t =>
    obtain ⟨rfl, rfl⟩ := List.cons.inj ht
    rcases skip_append hz f t with hs | ⟨hs, -⟩
    · rw [List.append_eq, hs] at hu
      exact absurd hu (by simp)
    · exact ⟨t, rfl, hs⟩

lemma readEscape_append (hz : '\n' ∉ z) (t : Text) : ReadsOn z (readEscape f t) (readEscape f (t ++ ')' :: z)) ∨
    ∃ u, skip f u = [] ∧ (∃ e, readEscape f t = .error e) ∧
      readEscape f (t ++ ')' :: z) = .ok (.condition (.boundary !f.unicode), '\x7b' :: u ++ ')' :: z) := by
  cases t with
  | nil =>
    have hparen : Steady z fun r => readEscape f (')' :: r) := steady_readEscape f hz (by decide)
    exact .inl (hparen.readsOn_error _ List.suffix_rfl)
  | cons c t =>
    by_cases hc : c = 'b'
    · subst hc
      by_cases hbrace : OpensBrace f t
      · obtain ⟨halone, ⟨e, he⟩ | hmore⟩ := readEscape_openBrace f hz hbrace
        · rw [List.cons_append, halone, he]
          exact .inl (.fails _ _)
        · obtain ⟨u, rfl, hu⟩ := hbrace
          exact .inr ⟨u, hu, ⟨_, halone⟩, hmore⟩
      · rw [List.cons_append, readEscape_boundary f hbrace, readEscape_boundary f fun h => hbrace (h.of_append f hz)]
        exact .inl ((steady_boundaryOf f hz).readsOn t)
    · exact .inl ((steady_readEscape f hz hc).readsOn t)

lemma readEscape_suffix {t r : Text} {x : Primitive} (h : readEscape f t = .ok (x, r)) : r <:+ t := by
  have hempty : '\n' ∉ ([] : Text) := List.not_mem_nil
  cases t with
  | nil => cases h
  | cons c t =>
    refine List.IsSuffix.trans ?_ (List.suffix_cons c t)
    by_cases hc : c = 'b'
    · subst hc
      by_cases hbrace : OpensBrace f t
      · rw [(readEscape_openBrace f hempty hbrace).1] at h
        cases h
      · rw [readEscape_boundary f hbrace] at h
        exact (steady_boundaryOf f hempty).suffix _ _ _ h
    · exact (steady_readEscape f hempty hc).suffix _ _ _ h

end Toolpath.Pattern
