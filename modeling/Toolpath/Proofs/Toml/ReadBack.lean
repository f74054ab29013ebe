import Toolpath.Proofs.Toml.Scalars
import Toolpath.Toml.Reader

/-!
Documents of headers and of lines with numbers are read back: each header opens a table, and each line adds its key
to the table of the last header.
-/

namespace Toolpath.Toml

open Number

variable {t r : Text} {v : Node} {fuel depth : ℕ} {d : Document}

structure IsBare (t : Text) : Prop where
  ne : t ≠ []
  chars : ∀ c ∈ t, isBareKey c

structure IsWord (t : Text) (v : Node) : Prop where
  ne : t ≠ []
  chars : ∀ c ∈ t, isScalarChar c
  read : scalar? t = some v

lemma isScalarChar_of_digit {c : Char} (h : Text.isAsciiDigit c) : isScalarChar c := by
  simp [isScalarChar, isBareKey, h]

lemma isWord_ofNat {n : ℕ} (hn : n < 0x8000000000000000) : IsWord (Text.ofNat n) (.integer n) :=
  ⟨Nat.toDigits_ne_nil, fun c hc => isScalarChar_of_digit (digits_ofNat n c hc), scalar?_ofNat hn⟩

lemma isWord_infinite (s : Bool) : IsWord (signed s "inf".toList) (.float (infinity s)) := by
  refine ⟨?_, ?_, scalar?_infinite s⟩
  · cases s <;> exact List.cons_ne_nil _ _
  · cases s <;> exact List.all_iff_forall_prop.mp (by decide)

lemma isWord_nan : IsWord "nan".toList (.float nan) :=
  ⟨List.cons_ne_nil _ _, List.all_iff_forall_prop.mp (by decide), rfl⟩

lemma Pointed.isWord {whole fraction : Text} (h : Pointed whole fraction) {x : Float} (s : Bool)
    (hread : readFloat? (signed s (whole ++ '.' :: fraction)) = some x) (hx : x.isFinite) :
    IsWord (signed s (whole ++ '.' :: fraction)) (.float x) := by
  refine ⟨?_, ?_, h.scalar?_eq s hread hx⟩
  · cases s <;> simp [signed]
  · have hunsigned : ∀ c ∈ whole ++ '.' :: fraction, isScalarChar c := by
      intro c hc
      rcases List.mem_append.mp hc with hc | hc
      · exact isScalarChar_of_digit (h.before c hc)
      · rcases List.mem_cons.mp hc with rfl | hc
        · decide
        · exact isScalarChar_of_digit (h.behind c hc)
    cases s with
    | true => exact List.forall_mem_cons.mpr ⟨by decide, hunsigned⟩
    | false => exact hunsigned

lemma skipSpace_of_head {c : Char} (hc : ¬ isSpace c) (t : Text) : skipSpace (c :: t) = c :: t :=
  List.dropWhile_cons_of_neg hc

lemma isBareKey_of {c : Char} (h : isBareKey c) :
    ¬ isSpace c ∧ c ≠ '"' ∧ c ≠ '\'' ∧ c ≠ '[' ∧ c ≠ '#' ∧ c ≠ '\n' ∧ c ≠ '\r' := by
  simp only [isSpace, Bool.or_eq_true, decide_eq_true_eq]
  refine ⟨?_, ?_, ?_, ?_, ?_, ?_, ?_⟩
  · rintro (rfl | rfl) <;> exact absurd h (by decide)
  all_goals
    rintro rfl
    exact absurd h (by decide)

lemma readKey?_append (ht : IsBare t) (hr : ∀ c ∈ r.head?, ¬ isBareKey c) (hdot : (skipSpace r).head? ≠ some '.') :
    readKey? (t ++ r) = some ([t], skipSpace r) := by
  obtain ⟨c, u, rfl⟩ := List.exists_cons_of_ne_nil ht.ne
  obtain ⟨hspace, hquote, happ, -⟩ := isBareKey_of (ht.chars c List.mem_cons_self)
  have hpart : readPart? (c :: u ++ r) = some (c :: u, r) := by
    rw [List.cons_append, readPart?]
    · rw [← List.cons_append, span_append ht.chars hr]
    · exact fun _ h => hquote (List.cons.inj h).1
    · exact fun _ h => happ (List.cons.inj h).1
  have hskip : skipSpace (c :: u ++ r) = c :: u ++ r := skipSpace_of_head hspace _
  rw [readKey?, depthLimit, readParts?, hskip, hpart]
  simp only [Option.bind_eq_bind, Option.bind_some]
  split
  · rename_i hs
    rw [hs] at hdot
    exact absurd rfl hdot
  · rfl

lemma isScalarChar_of {c : Char} (h : isScalarChar c) : ¬ isSpace c ∧ c ≠ '"' ∧ c ≠ '\'' ∧ c ≠ '[' ∧ c ≠ '\x7b' := by
  simp only [isSpace, Bool.or_eq_true, decide_eq_true_eq]
  refine ⟨?_, ?_, ?_, ?_, ?_⟩
  · rintro (rfl | rfl) <;> exact absurd h (by decide)
  all_goals
    rintro rfl
    exact absurd h (by decide)

lemma readValue?_append (ht : IsWord t v) (r : Text) :
    readValue? (fuel + 1) depth (t ++ '\n' :: r) = some (v, '\n' :: r) := by
  obtain ⟨c, u, rfl⟩ := List.exists_cons_of_ne_nil ht.ne
  obtain ⟨-, hquote, happ, hbracket, hbrace⟩ := isScalarChar_of (ht.chars c List.mem_cons_self)
  have hspan : (c :: u ++ '\n' :: r).span isScalarChar = (c :: u, '\n' :: r) :=
    span_append ht.chars fun a ha => by cases ha; decide
  have hscalar : readScalar? (c :: u ++ '\n' :: r) = some (v, '\n' :: r) := by
    rw [readScalar?, hspan]
    dsimp only
    rw [ht.read]
    rfl
  rw [List.cons_append] at hscalar ⊢
  rw [readValue?]
  · exact hscalar
  · exact fun _ h => hquote (List.cons.inj h).1
  · exact fun _ h => happ (List.cons.inj h).1
  · exact fun _ h => hbracket (List.cons.inj h).1
  · exact fun _ h => hbrace (List.cons.inj h).1

structure Line where
  name : Text
  value : Text
  node : Node

namespace Line

def text (l : Line) : Text := l.name ++ " = ".toList ++ l.value ++ ['\n']

def field (l : Line) : Text × Node := (l.name, l.node)

structure Valid (l : Line) : Prop where
  name : IsBare l.name
  value : IsWord l.value l.node

end Line

structure Section where
  header : Text
  lines : List Line

namespace Section

def text (s : Section) : Text := '[' :: s.header ++ [']', '\n'] ++ s.lines.flatMap Line.text

def field (s : Section) : Text × Node := (s.header, .table .explicit (s.lines.map Line.field))

structure Valid (s : Section) : Prop where
  header : IsBare s.header
  lines : ∀ l ∈ s.lines, l.Valid
  nodup : (s.lines.map Line.name).Nodup

end Section

lemma finish?_blank (d : Document) (r : Text) : d.finish? (fuel + 1) ('\n' :: r) = d.finish? fuel r := rfl

lemma finish?_bracket (d : Document) (r : Text) : d.finish? (fuel + 1) ('[' :: r) =
    (d.readHeader? r).bind fun (d, r) => Document.finish? fuel d r := rfl

lemma readHeader?_append {h : Text} (hh : IsBare h) (d : Document) (r : Text) :
    d.readHeader? (h ++ ']' :: '\n' :: r) = (Fields.openTable? [h] d.root).map fun root => (⟨root, [h]⟩, r) := by
  have hkey : readKey? (h ++ ']' :: '\n' :: r) = some ([h], ']' :: '\n' :: r) :=
    readKey?_append hh (fun c hc => by cases hc; decide) nofun
  obtain ⟨c, u, rfl⟩ := List.exists_cons_of_ne_nil hh.ne
  obtain ⟨-, -, -, hbracket, -⟩ := isBareKey_of (hh.chars c List.mem_cons_self)
  have hexpect : expect? ']' (']' :: '\n' :: r) = some ('\n' :: r) := rfl
  have hend : endLine? ('\n' :: r) = some r := rfl
  rw [List.cons_append] at hkey ⊢
  rw [Document.readHeader?]
  · rw [hkey]
    simp only [Option.bind_eq_bind, Option.bind_some, hexpect, hend, Option.map_eq_bind]
    rfl
  · exact fun _ h => hbracket (List.cons.inj h).1

lemma finish?_header {h : Text} (hh : IsBare h) (d : Document) (r : Text) :
    d.finish? (fuel + 1) ('[' :: (h ++ ']' :: '\n' :: r)) =
      (Fields.openTable? [h] d.root).bind fun root => Document.finish? fuel ⟨root, [h]⟩ r := by
  rw [finish?_bracket, readHeader?_append hh, Option.bind_map]
  rfl

lemma readPair?_append {l : Line} (hl : l.Valid) (d : Document) (r : Text) :
    d.readPair? (l.text ++ r) =
      (Fields.assign? d.header [] l.name l.node d.root).map fun root => ({ d with root := root }, r) := by
  have htext : l.text ++ r = l.name ++ (' ' :: '=' :: ' ' :: (l.value ++ '\n' :: r)) := by simp [Line.text]
  have hkey : readKey? (l.name ++ (' ' :: '=' :: ' ' :: (l.value ++ '\n' :: r))) =
      some ([l.name], '=' :: ' ' :: (l.value ++ '\n' :: r)) :=
    readKey?_append hl.name (fun c hc => by cases hc; decide) nofun
  have hexpect : expect? '=' ('=' :: ' ' :: (l.value ++ '\n' :: r)) = some (' ' :: (l.value ++ '\n' :: r)) := rfl
  have hskip : skipSpace (' ' :: (l.value ++ '\n' :: r)) = l.value ++ '\n' :: r := by
    obtain ⟨c, u, hv⟩ := List.exists_cons_of_ne_nil hl.value.ne
    have hc := (isScalarChar_of (hl.value.chars c (hv ▸ List.mem_cons_self))).1
    rw [hv]
    exact skipSpace_of_head hc (u ++ '\n' :: r)
  have hend : endLine? ('\n' :: r) = some r := rfl
  rw [htext, Document.readPair?, hkey]
  simp only [Option.bind_eq_bind, Option.bind_some, hexpect, hskip, readValue?_append hl.value, hend, Option.map_eq_bind]
  rfl

lemma finish?_line {l : Line} (hl : l.Valid) (d : Document) (r : Text) :
    d.finish? (fuel + 1) (l.text ++ r) =
      (Fields.assign? d.header [] l.name l.node d.root).bind fun root => Document.finish? fuel { d with root := root } r := by
  have hread := readPair?_append hl d r
  obtain ⟨c, u, hu, hc⟩ : ∃ c u, l.text ++ r = c :: u ∧ isBareKey c := by
    obtain ⟨c, u, hn⟩ := List.exists_cons_of_ne_nil hl.name.ne
    exact ⟨c, _, by rw [Line.text, hn]; rfl, hl.name.chars c (hn ▸ List.mem_cons_self)⟩
  obtain ⟨hspace, -, -, hbracket, hhash, hfeed, hreturn⟩ := isBareKey_of hc
  rw [hu] at hread ⊢
  rw [Document.finish?, skipSpace_of_head hspace]
  split
  · rename_i h
    cases h
  · rename_i h
    exact absurd (List.cons.inj h).1 hhash
  · rename_i h
    exact absurd (List.cons.inj h).1 hbracket
  · rename_i h
    obtain ⟨rfl, rfl⟩ := List.cons.inj h
    rw [if_neg (not_or.mpr ⟨hfeed, hreturn⟩), hread, Option.bind_map]
    rfl

variable {fs inner : Fields} {key h : Text}

lemma lookup_eq_none (hkey : key ∉ fs.map Prod.fst) : fs.lookup key = none := by
  rw [List.lookup_eq_none_iff]
  intro p hp
  rw [bne_iff_ne]
  rintro rfl
  exact hkey (List.mem_map_of_mem hp)

lemma lookup_concat (hkey : key ∉ fs.map Prod.fst) (v : Node) : (fs ++ [(key, v)]).lookup key = some v := by
  rw [List.lookup_append, lookup_eq_none hkey, List.lookup_cons_self]
  rfl

lemma put_concat (hkey : key ∉ fs.map Prod.fst) (v w : Node) : Fields.put key w (fs ++ [(key, v)]) = fs ++ [(key, w)] := by
  have happend : Fields.put key w (fs ++ [(key, v)]) = Fields.put key w fs ++ Fields.put key w [(key, v)] := List.map_append
  have hfs : Fields.put key w fs = fs := by
    refine (List.map_congr_left fun p hp => ?_).trans (List.map_id fs)
    have hp' : p.1 ≠ key := fun he => hkey (he ▸ List.mem_map_of_mem hp)
    exact if_neg hp'
  have hlast : Fields.put key w [(key, v)] = [(key, w)] := congrArg ([·]) (if_pos rfl)
  rw [happend, hfs, hlast]

lemma openTable?_eq (hkey : h ∉ fs.map Prod.fst) : Fields.openTable? [h] fs = some (fs ++ [(h, .table .explicit [])]) := by
  rw [Fields.openTable?, Fields.change?, lookup_eq_none hkey]
  rfl

lemma assign?_eq (hh : h ∉ fs.map Prod.fst) (hkey : key ∉ inner.map Prod.fst) (v : Node) :
    Fields.assign? [h] [] key v (fs ++ [(h, .table .explicit inner)]) =
      some (fs ++ [(h, .table .explicit (inner ++ [(key, v)]))]) := by
  have hset : Fields.set? key v true inner [] = some (inner ++ [(key, v)]) := by
    rw [Fields.set?, lookup_eq_none hkey]
    rfl
  rw [Fields.assign?, if_neg (by simp), Fields.change?, lookup_concat hh]
  dsimp only
  rw [hset, Option.map_some, put_concat hh]

lemma map_fst_fields (ls : List Line) : (ls.map Line.field).map Prod.fst = ls.map Line.name := by
  rw [List.map_map]
  rfl

lemma finish?_lines {ls done : List Line} (hls : ∀ l ∈ ls, l.Valid) (hnodup : ((done ++ ls).map Line.name).Nodup)
    (hh : h ∉ fs.map Prod.fst) (r : Text) :
    Document.finish? (fuel + ls.length) ⟨fs ++ [(h, .table .explicit (done.map Line.field))], [h]⟩ (ls.flatMap Line.text ++ r) =
      Document.finish? fuel ⟨fs ++ [(h, .table .explicit ((done ++ ls).map Line.field))], [h]⟩ r := by
  induction ls generalizing done with
  | nil => simp
  | cons l ls ih =>
    have hkey : l.name ∉ (done.map Line.field).map Prod.fst := by
      rw [map_fst_fields]
      rw [List.map_append, List.map_cons] at hnodup
      exact fun hmem => (List.disjoint_of_nodup_append hnodup) hmem List.mem_cons_self
    have hdone : done.map Line.field ++ [(l.name, l.node)] = (done ++ [l]).map Line.field := by
      rw [List.map_append]
      rfl
    have happend : done ++ l :: ls = done ++ [l] ++ ls := by simp
    rw [happend] at hnodup ⊢
    rw [List.flatMap_cons, List.append_assoc, List.length_cons, ← Nat.add_assoc,
      finish?_line (hls l List.mem_cons_self), assign?_eq hh hkey, Option.bind_some, hdone]
    exact ih (fun a ha => hls a (List.mem_cons_of_mem l ha)) hnodup

lemma finish?_section {s : Section} (hs : s.Valid) (hh : s.header ∉ fs.map Prod.fst) (hd : List Text) (r : Text) :
    Document.finish? (fuel + s.lines.length + 1) ⟨fs, hd⟩ (s.text ++ r) =
      Document.finish? fuel ⟨fs ++ [s.field], [s.header]⟩ r := by
  have htext : s.text ++ r = '[' :: (s.header ++ ']' :: '\n' :: (s.lines.flatMap Line.text ++ r)) := by simp [Section.text]
  have hlines := @finish?_lines fuel fs s.header s.lines [] hs.lines (by simpa using hs.nodup) hh r
  rw [htext, finish?_header hs.header, openTable?_eq hh, Option.bind_some]
  exact hlines

lemma length_lines_le (ls : List Line) : ls.length ≤ (ls.flatMap Line.text).length := by
  induction ls with
  | nil => exact Nat.zero_le _
  | cons l ls ih =>
    rw [List.flatMap_cons, List.length_append, Line.text, List.length_append, List.length_singleton, List.length_cons]
    omega

lemma length_lines_lt (s : Section) : s.lines.length < s.text.length := by
  have h := length_lines_le s.lines
  rw [Section.text, List.length_append, List.length_append, List.length_cons]
  omega

lemma finish?_unlines {ss : List Section} (hss : ∀ s ∈ ss, s.Valid) (hnodup : (fs.map Prod.fst ++ ss.map Section.header).Nodup)
    (hfuel : (Text.unlines (ss.map Section.text)).length < fuel) (hd : List Text) :
    Document.finish? fuel ⟨fs, hd⟩ (Text.unlines (ss.map Section.text)) = some (fs ++ ss.map Section.field) := by
  induction ss generalizing fs fuel hd with
  | nil =>
    obtain ⟨fuel, rfl⟩ := Nat.exists_eq_succ_of_ne_zero (Nat.ne_zero_of_lt hfuel)
    rw [List.map_nil, List.map_nil, List.append_nil]
    rfl
  | cons s ss ih =>
    have hs := hss s List.mem_cons_self
    have hh : s.header ∉ fs.map Prod.fst := fun hmem => (List.disjoint_of_nodup_append hnodup) hmem List.mem_cons_self
    have hlength := length_lines_lt s
    cases ss with
    | nil =>
      rw [List.map_singleton, List.map_singleton, Text.unlines, Text.join] at *
      obtain ⟨fuel, rfl⟩ : ∃ k, fuel = k + 1 + s.lines.length + 1 := ⟨fuel - s.lines.length - 2, by omega⟩
      rw [← List.append_nil s.text, finish?_section hs hh]
      rfl
    | cons s' ss =>
      have hnext (fuel : ℕ) := @ih fuel (fs ++ [s.field]) (fun a ha => hss a (List.mem_cons_of_mem s ha))
        (by simpa [Section.field] using hnodup)
      have hjoin : Text.unlines ((s :: s' :: ss).map Section.text) =
        s.text ++ '\n' :: Text.unlines ((s' :: ss).map Section.text) := by simp [Text.unlines, Text.join]
      rw [hjoin, List.length_append, List.length_cons] at hfuel
      obtain ⟨fuel, rfl⟩ : ∃ k, fuel = k + 1 + s.lines.length + 1 := ⟨fuel - s.lines.length - 2, by omega⟩
      rw [hjoin, finish?_section hs hh, finish?_blank, hnext fuel (by omega)]
      simp

theorem read?_unlines {ss : List Section} (hss : ∀ s ∈ ss, s.Valid) (hnodup : (ss.map Section.header).Nodup) :
    read? (Text.unlines (ss.map Section.text)) = some (ss.map Section.field) := by
  have hread := @finish?_unlines _ [] ss hss (by simpa using hnodup) (Nat.lt_succ_self _) []
  have hmark : (Text.unlines (ss.map Section.text)).head? ≠ some '\uFEFF' := by
    rcases ss with _ | ⟨s, _ | ⟨s', ss⟩⟩
    · exact nofun
    · exact nofun
    · exact nofun
  rw [read?, if_neg hmark]
  exact hread

end Toolpath.Toml
