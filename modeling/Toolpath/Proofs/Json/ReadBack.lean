import Toolpath.Proofs.Json.Numbers

/-!
Every value that is printed is read back, whatever its strings hold: characters are escaped so that they are read
as themselves, and the line breaks between values are skipped.
-/

namespace Toolpath.Json

open Text

variable {t r : Text} {fuel depth : ℕ} {j : Json}

lemma hexDigit?_hexDigit : ∀ n < 16, hexDigit? (hexDigit n) = some n := by decide

lemma readHex4?_escape {n : ℕ} (hn : n < 32) (r : Text) :
    readHex4? ('0' :: '0' :: hexDigit (n / 16) :: hexDigit (n % 16) :: r) = some (n, r) := by
  have hzero : hexDigit? '0' = some 0 := by decide
  rw [readHex4?, hzero, hexDigit?_hexDigit _ (by omega), hexDigit?_hexDigit _ (by omega)]
  simp only [Option.bind_eq_bind, Option.bind_some]
  have h : 4096 * 0 + 256 * 0 + 16 * (n / 16) + n % 16 = n := by omega
  rw [h]
  rfl

lemma readString?_escape (c : Char) (r : Text) : readString? (fuel + 1) (escape c ++ r) =
    (readString? fuel r).map fun (s, ok, r) => (c :: s, ok, r) := by
  rw [escape.eq_def]
  split
  iterate 7 simp [readString?]
  rename_i h₁ h₂ h₃ h₄ h₅ h₆ h₇
  split
  · rename_i hc
    have hhigh : isHighHalf c.toNat = false := by simp [isHighHalf]; omega
    have hlow : isLowHalf c.toNat = false := by simp [isLowHalf]; omega
    simp only [List.cons_append, List.nil_append, readString?, readHex4?_escape hc, Option.bind_eq_bind, Option.bind_some,
      hhigh, hlow, Bool.false_eq_true, if_false, Char.ofNat_toNat]
  · rename_i hc
    rw [List.singleton_append, readString?]
    · rw [if_neg hc]
    · exact h₁
    · exact fun _ hc' => absurd hc' h₂
    · exact fun _ _ hc' => absurd hc' h₂

lemma readString?_quote (t : Text) (hfuel : t.length < fuel) (r : Text) :
    readString? fuel (t.flatMap escape ++ '"' :: r) = some (t, true, r) := by
  induction t generalizing fuel with
  | nil =>
    obtain ⟨fuel, rfl⟩ := Nat.exists_eq_succ_of_ne_zero hfuel.ne'
    rw [List.flatMap_nil, List.nil_append, Nat.succ_eq_add_one, readString?]
  | cons c t ih =>
    obtain ⟨fuel, rfl⟩ := Nat.exists_eq_succ_of_ne_zero (Nat.ne_zero_of_lt hfuel)
    rw [List.flatMap_cons, List.append_assoc, Nat.succ_eq_add_one, readString?_escape, ih (Nat.lt_of_succ_lt_succ hfuel)]
    rfl

lemma escape_ne_nil (c : Char) : escape c ≠ [] := by
  rw [escape.eq_def]
  split
  iterate 7 exact List.cons_ne_nil _ _
  split <;> exact List.cons_ne_nil _ _

lemma length_le_escaped (t : Text) : t.length ≤ (t.flatMap escape).length := by
  induction t with
  | nil => exact Nat.zero_le _
  | cons c t ih =>
    have := List.length_pos_of_ne_nil (escape_ne_nil c)
    rw [List.flatMap_cons, List.length_append, List.length_cons]
    omega

lemma readString?_rest (t r : Text) :
    readString? ((t.flatMap escape ++ '"' :: r).length + 1) (t.flatMap escape ++ '"' :: r) = some (t, true, r) := by
  refine readString?_quote t ?_ r
  have := length_le_escaped t
  rw [List.length_append]
  omega

def IsBlank (t : Text) : Prop := ∀ c ∈ t, isSpace c

lemma isBlank_indent (depth : ℕ) : IsBlank (indent depth) := by
  intro c hc
  rcases List.mem_cons.mp hc with rfl | hc
  · decide
  · rw [List.eq_of_mem_replicate hc]
    decide

lemma follows_indent (depth : ℕ) (r : Text) : Follows (indent depth ++ r) := fun _ hc => .inr (Option.some.inj hc).symm

lemma follows_comma (r : Text) : Follows (',' :: r) := fun _ hc => .inl (Option.some.inj hc).symm

variable {s : Text}

lemma skipSpace_append (hs : IsBlank s) (t : Text) : skipSpace (s ++ t) = skipSpace t := List.dropWhile_append_of_pos hs

lemma readValue?_append (hs : IsBlank s) (t : Text) : readValue? fuel (s ++ t) = readValue? fuel t := by
  cases fuel with
  | zero => rfl
  | succ fuel => rw [readValue?, readValue?, skipSpace_append hs]

lemma readItems?_append (hs : IsBlank s) (t : Text) : readItems? fuel (s ++ t) = readItems? fuel t := by
  cases fuel with
  | zero => rfl
  | succ fuel => rw [readItems?, readItems?, readValue?_append hs]

lemma readFields?_append (hs : IsBlank s) (t : Text) : readFields? fuel (s ++ t) = readFields? fuel t := by
  cases fuel with
  | zero => rfl
  | succ fuel => rw [readFields?, readFields?, skipSpace_append hs]

lemma readItems?_closing (h : skipSpace t = ']' :: r) : readItems? fuel t = none := by
  cases fuel with
  | zero => rfl
  | succ fuel =>
    cases fuel with
    | zero => rfl
    | succ fuel =>
      rw [readItems?, readValue?, h]
      rfl

lemma readFields?_closing (h : skipSpace t = '\x7d' :: r) : readFields? fuel t = none := by
  cases fuel with
  | zero => rfl
  | succ fuel =>
    rw [readFields?, h]
    rfl

def ReadsBack (j : Json) : Prop := ∀ (depth fuel : ℕ) (r : Text), (render depth j).length ≤ fuel → Follows r →
  readValue? (fuel + 1) (render depth j ++ r) = some (j, r)

lemma renderItems_eq (depth : ℕ) (items : List Json) : renderItems depth items = items.map (render (depth + 1)) := by
  induction items with
  | nil => rfl
  | cons j items ih => rw [renderItems, ih, List.map_cons]

def renderField (depth : ℕ) (f : Text × Json) : Text := quote f.1 ++ ':' :: ' ' :: render depth f.2

lemma renderFields_eq (depth : ℕ) (fields : List (Text × Json)) :
    renderFields depth fields = fields.map (renderField (depth + 1)) := by
  induction fields with
  | nil => rfl
  | cons f fields ih =>
    obtain ⟨name, j⟩ := f
    rw [renderFields, ih, List.map_cons, renderField]

lemma readItems?_item {depth : ℕ} (hj : ReadsBack j) (hfuel : (render depth j).length ≤ fuel) (hr : Follows r) :
    readItems? (fuel + 2) (render depth j ++ r) = match skipSpace r with
      | ']' :: r => some ([j], r)
      | ',' :: r => (readItems? (fuel + 1) r).map fun (js, r) => (j :: js, r)
      | _ => none := by
  rw [readItems?, hj depth fuel r hfuel hr]
  rfl

lemma readFields?_field {depth : ℕ} {f : Text × Json} (hf : ReadsBack f.2) (hfuel : (renderField depth f).length ≤ fuel)
    (hr : Follows r) : readFields? (fuel + 2) (renderField depth f ++ r) = match skipSpace r with
      | '\x7d' :: r => some (some [f], r)
      | ',' :: r => (readFields? (fuel + 1) r).map fun (fs, r) => (List.cons f <$> fs, r)
      | _ => none := by
  have happend : renderField depth f ++ r =
      '"' :: (f.1.flatMap escape ++ '"' :: (':' :: ([' '] ++ (render depth f.2 ++ r)))) := by
    simp [renderField, quote]
  have hlength : (render depth f.2).length ≤ fuel := by
    rw [renderField, List.length_append, List.length_cons, List.length_cons] at hfuel
    omega
  have hquote (t : Text) : skipSpace ('"' :: t) = '"' :: t := rfl
  have hcolon (t : Text) : skipSpace (':' :: t) = ':' :: t := rfl
  have hblank : IsBlank [' '] := fun c hc => by rw [List.mem_singleton.mp hc]; decide
  rw [happend, readFields?, hquote]
  simp only [readString?_rest, Option.bind_eq_bind, Option.bind_some, hcolon, readValue?_append hblank,
    hf depth fuel r hlength hr]
  rfl

lemma read_join {α β : Type} {read : ℕ → Text → Option (β × Text)} {text : α → Text} {f : List α → β}
    {separator closing : Text} {items : List α}
    (hlast : ∀ x ∈ items, ∀ k, (text x).length ≤ k → ∀ r, read (k + 2) (text x ++ (closing ++ r)) = some (f [x], r))
    (hmore : ∀ x ∈ items, ∀ k, (text x).length ≤ k → ∀ xs t r, read (k + 1) t = some (f xs, r) →
      read (k + 2) (text x ++ (separator ++ t)) = some (f (x :: xs), r))
    (hseparator : separator ≠ []) (hne : items ≠ []) (hfuel : (join separator (items.map text)).length + 1 < fuel)
    (r : Text) : read fuel (join separator (items.map text) ++ (closing ++ r)) = some (f items, r) := by
  induction items generalizing fuel with
  | nil => exact absurd rfl hne
  | cons x items ih =>
    obtain ⟨fuel, rfl⟩ : ∃ k, fuel = k + 2 := Nat.exists_eq_add_of_le' (by omega)
    cases items with
    | nil =>
      rw [List.map_singleton, join] at hfuel ⊢
      exact hlast x List.mem_cons_self fuel (by omega) r
    | cons y items =>
      have hrest := @ih (fuel + 1) (fun z hz => hlast z (List.mem_cons_of_mem x hz))
        (fun z hz => hmore z (List.mem_cons_of_mem x hz)) (List.cons_ne_nil y items)
      have hlength := List.length_pos_of_ne_nil hseparator
      rw [List.map_cons, List.map_cons, join, ← List.map_cons] at hfuel ⊢
      rw [List.length_append, List.length_append] at hfuel
      rw [List.append_assoc, List.append_assoc]
      exact hmore x List.mem_cons_self fuel (by omega) _ _ r (hrest (by omega))

lemma readItems?_join {items : List Json} (hitems : ∀ j ∈ items, ReadsBack j) (hne : items ≠ []) {depth fuel : ℕ}
    (hfuel : (join (',' :: indent (depth + 1)) (items.map (render (depth + 1)))).length + 1 < fuel) (r : Text) :
    readItems? fuel (join (',' :: indent (depth + 1)) (items.map (render (depth + 1))) ++ (indent depth ++ [']'] ++ r)) =
      some (items, r) := by
  refine read_join (f := id) (fun j hj k hk r => ?_) (fun j hj k hk js t r hread => ?_) (List.cons_ne_nil _ _) hne hfuel r
  · rw [List.append_assoc, readItems?_item (hitems j hj) hk (follows_indent _ _), skipSpace_append (isBlank_indent depth)]
    rfl
  · have hcomma (t : Text) : skipSpace (',' :: t) = ',' :: t := rfl
    rw [List.cons_append, readItems?_item (hitems j hj) hk (follows_comma _), hcomma]
    simp only [readItems?_append (isBlank_indent _), hread, Option.map_some, id]

lemma readFields?_join {fields : List (Text × Json)} (hfields : ∀ f ∈ fields, ReadsBack f.2) (hne : fields ≠ [])
    {depth fuel : ℕ}
    (hfuel : (join (',' :: indent (depth + 1)) (fields.map (renderField (depth + 1)))).length + 1 < fuel) (r : Text) :
    readFields? fuel
      (join (',' :: indent (depth + 1)) (fields.map (renderField (depth + 1))) ++ (indent depth ++ ['\x7d'] ++ r)) =
      some (some fields, r) := by
  refine read_join (f := some) (fun f hf k hk r => ?_) (fun f hf k hk fs t r hread => ?_) (List.cons_ne_nil _ _) hne hfuel r
  · rw [List.append_assoc, readFields?_field (hfields f hf) hk (follows_indent _ _), skipSpace_append (isBlank_indent depth)]
    rfl
  · have hcomma (t : Text) : skipSpace (',' :: t) = ',' :: t := rfl
    rw [List.cons_append, readFields?_field (hfields f hf) hk (follows_comma _), hcomma]
    simp only [readFields?_append (isBlank_indent _), hread, Option.map_some, Option.map_eq_map]

inductive Printable : Json → Prop
  | null : Printable null
  | bool (b : Bool) : Printable (bool b)
  | number {t : Text} (h : IsNumber t) : Printable (number t)
  | string (t : Text) : Printable (string t)
  | array {items : List Json} (h : ∀ j ∈ items, Printable j) : Printable (array items)
  | object {fields : List (Text × Json)} (h : ∀ f ∈ fields, Printable f.2) : Printable (object fields)

lemma readsBack_null : ReadsBack null := fun _ _ _ _ _ => rfl

lemma readsBack_bool (b : Bool) : ReadsBack (bool b) := by
  intro depth fuel r _ _
  cases b <;> rfl

lemma readsBack_string (t : Text) : ReadsBack (string t) := by
  intro depth fuel r _ _
  have happend : render depth (string t) ++ r = '"' :: (t.flatMap escape ++ '"' :: r) := by simp [render, quote]
  have hquote (t : Text) : skipSpace ('"' :: t) = '"' :: t := rfl
  rw [happend, readValue?, hquote]
  simp only [readString?_rest, Option.map_some]

lemma readsBack_number (h : IsNumber t) : ReadsBack (number t) := by
  intro depth fuel r _ hr
  have hread := h.readNumber?_append hr
  obtain ⟨c, u, rfl, hc⟩ := h.exists_head
  have hspace : ¬ isSpace c := by
    simp only [isSpace, Bool.or_eq_true, decide_eq_true_eq]
    rintro (((rfl | rfl) | rfl) | rfl) <;> exact absurd hc (by decide)
  have hskip : skipSpace (render depth (number (c :: u)) ++ r) = c :: (u ++ r) := List.dropWhile_cons_of_neg hspace
  rw [List.cons_append] at hread
  rw [readValue?, hskip]
  split
  case h_7 => rw [hread]; rfl
  all_goals
    rename_i hmark
    obtain ⟨rfl, -⟩ := List.cons.inj hmark
    exact absurd hc (by decide)

lemma enclose_append {items : List Text} (hne : items ≠ []) (opening closing : Char) (depth : ℕ) (r : Text) :
    enclose opening closing depth items ++ r =
      opening :: (indent (depth + 1) ++ (join (',' :: indent (depth + 1)) items ++ (indent depth ++ [closing] ++ r))) := by
  rw [enclose, if_neg (by simpa using hne)]
  simp

lemma length_join_lt_enclose {items : List Text} (hne : items ≠ []) (opening closing : Char) (depth : ℕ) :
    (join (',' :: indent (depth + 1)) items).length + 1 < (enclose opening closing depth items).length := by
  have h := congrArg List.length (enclose_append hne opening closing depth [])
  simp only [List.append_nil, List.length_cons, List.length_append, List.length_nil] at h
  omega

lemma readValue?_bracket (t : Text) : readValue? (fuel + 1) ('[' :: t) = match skipSpace t with
    | ']' :: r => some (array [], r)
    | _ => (readItems? fuel t).map fun (items, r) => (array items, r) := rfl

lemma readValue?_brace (t : Text) : readValue? (fuel + 1) ('\x7b' :: t) = match skipSpace t with
    | '\x7d' :: r => some (object [], r)
    | _ => (readFields? fuel t).map fun (fields, r) => ((fields.map object).getD unnamed, r) := rfl

lemma readsBack_array {items : List Json} (h : ∀ j ∈ items, ReadsBack j) : ReadsBack (array items) := by
  intro depth fuel r hfuel hr
  rw [render, renderItems_eq] at hfuel ⊢
  by_cases hne : items = []
  · rw [hne]
    rfl
  · have hmap : items.map (render (depth + 1)) ≠ [] := by simpa using hne
    have hread := readItems?_join h hne ((length_join_lt_enclose hmap '[' ']' depth).trans_le hfuel) r
    rw [← readItems?_append (isBlank_indent (depth + 1))] at hread
    rw [enclose_append hmap, readValue?_bracket]
    split
    · rename_i hclose
      rw [readItems?_closing hclose] at hread
      cases hread
    · rw [hread]
      rfl

lemma readsBack_object {fields : List (Text × Json)} (h : ∀ f ∈ fields, ReadsBack f.2) : ReadsBack (object fields) := by
  intro depth fuel r hfuel hr
  rw [render, renderFields_eq] at hfuel ⊢
  by_cases hne : fields = []
  · rw [hne]
    rfl
  · have hmap : fields.map (renderField (depth + 1)) ≠ [] := by simpa using hne
    have hread := readFields?_join h hne ((length_join_lt_enclose hmap '\x7b' '\x7d' depth).trans_le hfuel) r
    rw [← readFields?_append (isBlank_indent (depth + 1))] at hread
    rw [enclose_append hmap, readValue?_brace]
    split
    · rename_i hclose
      rw [readFields?_closing hclose] at hread
      cases hread
    · rw [hread]
      rfl

lemma Printable.readsBack (h : Printable j) : ReadsBack j := by
  induction h with
  | null => exact readsBack_null
  | bool b => exact readsBack_bool b
  | number h => exact readsBack_number h
  | string t => exact readsBack_string t
  | array _ ih => exact readsBack_array ih
  | object _ ih => exact readsBack_object ih

/-- What is printed is read back. -/
theorem Printable.read?_pretty (h : Printable j) : read? j.pretty = some j := by
  have hread := h.readsBack 0 (2 * j.pretty.length + 1) [] (by rw [pretty]; omega) nofun
  rw [List.append_nil, ← pretty] at hread
  rw [read?, hread]
  rfl

end Toolpath.Json
