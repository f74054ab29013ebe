import Toolpath.Proofs.Json.ReadBack
import Toolpath.Proofs.Toml.ReadBack
import Toolpath.Settings.Writer

/-!
What the text of a configuration is read as. TOML has every double; JSON has the finite ones, and its reader may
take the digits of one for a neighbour.
-/

namespace Toolpath.Settings

open Number Scene Editor

section

variable {α : Type} {v : Values α} {a : α}

lemma readView?_eq_some {s w h x y : Option α} (ha : v.settings? View.names a = some [s, w, h, x, y])
    {view : View} :
    readView? v a = some view ↔ Values.get? v.real? View.default.scale s = some view.scale ∧
      Values.get? v.real? View.default.canvasWidth w = some view.canvasWidth ∧
      Values.get? v.real? View.default.canvasHeight h = some view.canvasHeight ∧
      Values.get? v.offset? View.default.offsetX x = some view.offsetX ∧
      Values.get? v.offset? View.default.offsetY y = some view.offsetY := by
  rw [readView?, ha]
  simp only [Option.bind_eq_bind, Option.bind_some, Option.bind_eq_some_iff, Option.pure_def, Option.some.injEq]
  constructor
  · rintro ⟨s, hs, w, hw, h, hh, x, hx, y, hy, rfl⟩
    exact ⟨hs, hw, hh, hx, hy⟩
  · rintro ⟨hs, hw, hh, hx, hy⟩
    exact ⟨_, hs, _, hw, _, hh, _, hx, _, hy, rfl⟩

lemma readRadii?_eq_some {h r s c : Option α} (ha : v.settings? radiusNames a = some [h, r, s, c])
    {radii : Radii} :
    readRadii? v a = some radii ↔ Values.get? v.real? Radii.default.hit h = some radii.hit ∧
      Values.get? v.real? Radii.default.ring r = some radii.ring ∧
      Values.get? v.real? Radii.default.subNode s = some radii.subNode ∧
      Values.get? v.real? Radii.default.center c = some radii.center := by
  rw [readRadii?, ha]
  simp only [Option.bind_eq_bind, Option.bind_some, Option.bind_eq_some_iff, Option.pure_def, Option.some.injEq]
  constructor
  · rintro ⟨h, hh, r, hr, s, hs, c, hc, rfl⟩
    exact ⟨hh, hr, hs, hc⟩
  · rintro ⟨hh, hr, hs, hc⟩
    exact ⟨_, hh, _, hr, _, hs, _, hc, rfl⟩

lemma readDepth?_eq {d : Option α} (ha : v.settings? editorNames a = some [d]) :
    readDepth? v a = Values.get? v.count? History.defaultDepth d := by
  rw [readDepth?, ha]
  rfl

lemma readConfig?_eq_some {view radii editor : α}
    (ha : v.settings? Config.names a = some [some view, some radii, some editor]) {c : Config} :
    readConfig? v a = some c ↔ readView? v view = some c.view ∧ readRadii? v radii = some c.radii ∧
      readDepth? v editor = some c.historyDepth := by
  rw [readConfig?, ha]
  simp only [Option.bind_eq_bind, Option.bind_some, Option.bind_eq_some_iff, Option.pure_def, Option.some.injEq,
    Values.get?]
  constructor
  · rintro ⟨w, hw, r, hr, d, hd, rfl⟩
    exact ⟨hw, hr, hd⟩
  · rintro ⟨hw, hr, hd⟩
    exact ⟨_, hw, _, hr, _, hd, rfl⟩

end

namespace Config

variable {c : Config} {x : Float}

def numbers (c : Config) : List Float :=
  [c.view.scale, c.view.canvasWidth, c.view.canvasHeight] ++ c.view.offsetX.toList ++ c.view.offsetY.toList ++
    [c.radii.hit, c.radii.ring, c.radii.subNode, c.radii.center]

lemma forall_numbers {P : Float → Prop} : (∀ x ∈ c.numbers, P x) ↔
    (P c.view.scale ∧ P c.view.canvasWidth ∧ P c.view.canvasHeight ∧ (∀ x ∈ c.view.offsetX, P x) ∧
      ∀ y ∈ c.view.offsetY, P y) ∧
      P c.radii.hit ∧ P c.radii.ring ∧ P c.radii.subNode ∧ P c.radii.center := by
  simp only [numbers, List.forall_mem_append, List.forall_mem_cons, Option.mem_toList, Option.mem_def, List.not_mem_nil,
    false_implies, implies_true, and_true, and_assoc]

lemma printable_ofFloat (x : Float) : (Json.ofFloat x).Printable := by
  rw [Json.ofFloat]
  split
  · rename_i h
    exact .number (Json.isNumber_floatText h)
  · exact .null

lemma printable_ofOption (o : Option Float) : (Json.ofOption .ofFloat o).Printable := by
  cases o with
  | none => exact .null
  | some x => exact printable_ofFloat x

lemma printable_section {names : List Text} {values : List Json} (h : ∀ j ∈ values, j.Printable) :
    (Json.object (names.zip values)).Printable := .object fun f hf => h f.2 (List.of_mem_zip hf).2

lemma printable_toJson (c : Config) : c.toJson.Printable := by
  refine printable_section fun j hj => ?_
  simp only [List.mem_cons, List.not_mem_nil, or_false] at hj
  rcases hj with rfl | rfl | rfl <;> refine printable_section fun j hj => ?_
  · simp only [List.mem_cons, List.not_mem_nil, or_false] at hj
    rcases hj with rfl | rfl | rfl | rfl | rfl <;> first | exact printable_ofFloat _ | exact printable_ofOption _
  · obtain ⟨x, -, rfl⟩ := List.mem_map.mp hj
    exact printable_ofFloat x
  · rw [List.mem_singleton.mp hj]
    exact .number (Json.isNumber_ofNat _)

/-- JSON has the number, and reads the digits that are written for it as the same double. -/
def JsonKeeps (x : Float) : Prop := x.isFinite ∧ ∀ t ∈ Json.floatText x, Json.floatValue? t = some x

instance (x : Float) : Decidable (JsonKeeps x) :=
  inferInstanceAs (Decidable (x.isFinite ∧ ∀ t ∈ Json.floatText x, Json.floatValue? t = some x))

lemma floatText_eq_none (hx : ¬ x.isFinite) : Json.floatText x = none := by
  rw [Bool.not_eq_true] at hx
  rw [Json.floatText]
  rcases exact_of_not_isFinite hx with h | ⟨s, h⟩ <;> rw [h]

lemma exists_floatText (hx : x.isFinite) : ∃ t, Json.floatText x = some t := by
  obtain ⟨s, q, m, e, hd, -⟩ := isFinite_iff.mp hx
  rw [Json.floatText, hd]
  dsimp only
  split
  · exact ⟨_, rfl⟩
  · exact ⟨_, rfl⟩

lemma real?_ofFloat : Values.json.real? (.ofFloat x) = some x ↔ JsonKeeps x := by
  by_cases hx : x.isFinite
  · obtain ⟨t, ht⟩ := exists_floatText hx
    have hread : Values.json.real? (.ofFloat x) = Json.floatValue? t := by
      rw [Json.ofFloat, ht]
      rfl
    rw [hread, JsonKeeps, ht]
    exact ⟨fun h => ⟨hx, fun u hu => Option.some.inj hu ▸ h⟩, fun h => h.2 t rfl⟩
  · have hread : Values.json.real? (.ofFloat x) = none := by
      rw [Json.ofFloat, floatText_eq_none hx]
      rfl
    rw [hread]
    exact iff_of_false nofun fun h => hx h.1

lemma offset?_ofOption {o : Option Float} : Values.json.offset? (.ofOption .ofFloat o) = some o ↔ ∀ x ∈ o, JsonKeeps x := by
  cases o with
  | none => exact iff_of_true rfl nofun
  | some x =>
    have hmem : (∀ y ∈ some x, JsonKeeps y) ↔ JsonKeeps x := by simp
    rw [hmem, ← real?_ofFloat, Json.ofOption, Values.offset?]
    split
    · rename_i hnull
      cases hx : Json.ofFloat x with
      | null => exact iff_of_false nofun nofun
      | _ =>
        rw [hx] at hnull
        cases hnull
    · rw [Option.map_eq_some_iff]
      simp

lemma filter_eq_nil {fields : List (Text × Json)} {name : Text} (h : name ∉ fields.map Prod.fst) :
    fields.filter (·.1 = name) = [] := by
  rw [List.filter_eq_nil_iff]
  intro f hf
  rw [decide_eq_true_eq]
  rintro rfl
  exact h (List.mem_map_of_mem hf)

lemma once?_eq {fields : List (Text × Json)} (h : (fields.map Prod.fst).Nodup) (name : Text) :
    Values.once? fields name = some (fields.lookup name) := by
  induction fields with
  | nil => rfl
  | cons f fields ih =>
    obtain ⟨key, j⟩ := f
    rw [List.map_cons, List.nodup_cons] at h
    rw [Values.once?]
    by_cases hkey : key = name
    · subst hkey
      rw [List.filter_cons_of_pos (by simp), filter_eq_nil h.1, List.lookup_cons_self]
    · have hlookup : List.lookup name ((key, j) :: fields) = fields.lookup name := by
        rw [List.lookup_cons, beq_false_of_ne (Ne.symm hkey)]
      rw [List.filter_cons_of_neg (by simpa using hkey), hlookup]
      exact ih h.2

lemma map_lookup_zip {α : Type} {names : List Text} {values : List α} (hnodup : names.Nodup)
    (hlength : names.length = values.length) : names.map (List.lookup · (names.zip values)) = values.map some := by
  induction names generalizing values with
  | nil =>
    obtain rfl := List.length_eq_zero_iff.mp hlength.symm
    rfl
  | cons name names ih =>
    obtain ⟨a, values, rfl⟩ := List.exists_cons_of_length_eq_add_one hlength.symm
    rw [List.nodup_cons] at hnodup
    have hrest : names.map (List.lookup · ((name, a) :: names.zip values)) = names.map (List.lookup · (names.zip values)) := by
      refine List.map_congr_left fun n hn => ?_
      have hne : n ≠ name := fun h => hnodup.1 (h ▸ hn)
      rw [List.lookup_cons, beq_false_of_ne hne]
    rw [List.zip_cons_cons, List.map_cons, List.lookup_cons_self, hrest, ih hnodup.2 (Nat.succ.inj hlength)]
    rfl

lemma settings?_json {names : List Text} {values : List Json} (hnodup : names.Nodup) (hlength : names.length = values.length) :
    Values.json.settings? names (.object (names.zip values)) = some (values.map some) := by
  have hkeys : ((names.zip values).map Prod.fst).Nodup := by
    rwa [List.map_fst_zip hlength.le]
  have honce : Values.once? (names.zip values) = fun name => pure ((names.zip values).lookup name) := funext (once?_eq hkeys)
  change names.mapM (Values.once? (names.zip values)) = _
  rw [honce, List.mapM_pure, map_lookup_zip hnodup hlength]
  rfl

theorem parse_json (hdepth : c.historyDepth < 2 ^ 64) :
    parse .json c.toJson.pretty = .ok c ↔ ∀ x ∈ c.numbers, JsonKeeps x := by
  have hread : (Json.read? c.toJson.pretty).bind (readConfig? Values.json) = readConfig? Values.json c.toJson := by
    rw [(printable_toJson c).read?_pretty, Option.bind_some]
  have hdepth' : Values.json.count? (.ofNat c.historyDepth) = some c.historyDepth := Json.natValue?_ofNat hdepth
  have hparse : parse .json c.toJson.pretty = .ok c ↔ readConfig? Values.json c.toJson = some c := by
    rw [parse, hread]
    cases readConfig? Values.json c.toJson <;> simp
  rw [hparse, toJson, readConfig?_eq_some (settings?_json (by decide) rfl), readView?_eq_some (settings?_json (by decide) rfl),
    readRadii?_eq_some (settings?_json (by decide) rfl), readDepth?_eq (settings?_json (by decide) rfl)]
  simp only [Values.get?, real?_ofFloat, offset?_ofOption, hdepth', and_true, forall_numbers]

lemma exists_withPoint {d : Number.Dyadic} (hx : exact x = .finite d) : ∃ k places, 0 < places ∧
    tomlFloat x = signed d.negative (withPoint k places) ∧ readFloat? (signed d.negative (withPoint k places)) = some x := by
  rw [tomlFloat, hx]
  dsimp only
  split
  · rename_i hz
    have hd : Denotes x d.negative 0 := ⟨_, _, hx, by rw [hz, Nat.cast_zero, zero_mul]⟩
    refine ⟨0, 1, one_pos, rfl, hd.readFloat?_withPoint one_pos ?_⟩
    rw [Nat.cast_zero, zero_div, rounded_of_representable representable_zero]
  · rename_i hm
    obtain ⟨k, places, hp, hplain, hread⟩ := readFloat?_plain hx (Nat.pos_of_ne_zero hm) .awayFromZero
    exact ⟨k, places, hp, by rw [hplain], hread⟩

lemma isWord_tomlFloat (x : Float) : Toml.IsWord (tomlFloat x) (.float x) := by
  cases hx : exact x with
  | nan =>
    obtain rfl : x = nan := exact_inj (hx.trans exact_nan.symm)
    rw [tomlFloat, hx]
    exact Toml.isWord_nan
  | infinite s =>
    obtain rfl : x = infinity s := exact_inj (hx.trans (exact_infinity s).symm)
    rw [tomlFloat, hx]
    exact Toml.isWord_infinite s
  | finite d =>
    obtain ⟨k, places, hp, htext, hread⟩ := exists_withPoint hx
    obtain ⟨whole, fraction, h, hw⟩ := Toml.exists_pointed k hp
    rw [hw] at htext hread
    rw [htext]
    exact h.isWord d.negative hread (isFinite_iff.mpr ⟨_, _, d.mantissa, d.exponent, hx, rfl⟩)

def given (names : List Text) (values : List (Option (Text × Toml.Node))) : List Toml.Line :=
  (names.zip values).filterMap fun (name, v) => v.map fun (t, node) => ⟨name, t, node⟩

section

variable {name : Text} {names : List Text} {v : Option (Text × Toml.Node)} {values : List (Option (Text × Toml.Node))}

lemma given_cons : given (name :: names) (v :: values) =
    (v.map fun (t, node) => (⟨name, t, node⟩ : Toml.Line)).toList ++ given names values := by
  cases v <;> rfl

lemma tomlSection_eq (header : Text) (names : List Text) (values : List (Option (Text × Toml.Node))) :
    tomlSection header names (values.map (Option.map Prod.fst)) = Toml.Section.text ⟨header, given names values⟩ := by
  have hlines : (names.zip (values.map (Option.map Prod.fst))).flatMap (fun p => (p.2.map (tomlLine p.1)).getD []) =
      (given names values).flatMap Toml.Line.text := by
    induction names generalizing values with
    | nil => rfl
    | cons name names ih =>
      cases values with
      | nil => rfl
      | cons v values =>
        rw [List.map_cons, List.zip_cons_cons, List.flatMap_cons, ih, given_cons, List.flatMap_append]
        cases v <;> simp [tomlLine, Toml.Line.text]
  exact congrArg ('[' :: header ++ [']', '\n'] ++ ·) hlines

lemma names_given_sublist : ((given names values).map Toml.Line.name).Sublist names := by
  induction names generalizing values with
  | nil => exact .slnil
  | cons name names ih =>
    cases values with
    | nil => exact List.nil_sublist _
    | cons v values =>
      rw [given_cons, List.map_append]
      cases v with
      | none => exact ih.cons name
      | some v => exact ih.cons_cons name

lemma valid_given (hnames : ∀ n ∈ names, Toml.IsBare n) (hvalues : ∀ v ∈ values, ∀ p ∈ v, Toml.IsWord p.1 p.2) :
    ∀ l ∈ given names values, l.Valid := by
  intro l hl
  obtain ⟨⟨n, v⟩, hmem, hline⟩ := List.mem_filterMap.mp hl
  obtain ⟨p, hp, rfl⟩ := Option.map_eq_some_iff.mp hline
  obtain ⟨hn, hv⟩ := List.of_mem_zip hmem
  exact ⟨hnames n hn, hvalues v hv p hp⟩

lemma notMem_given {key : Text} (h : key ∉ names) : key ∉ ((given names values).map Toml.Line.field).map Prod.fst := by
  rw [Toml.map_fst_fields]
  exact fun hmem => h (names_given_sublist.subset hmem)

lemma map_lookup_given (hnodup : names.Nodup) (hlength : names.length = values.length) :
    names.map (List.lookup · ((given names values).map Toml.Line.field)) = values.map (Option.map Prod.snd) := by
  induction names generalizing values with
  | nil =>
    obtain rfl := List.length_eq_zero_iff.mp hlength.symm
    rfl
  | cons name names ih =>
    obtain ⟨v, values, rfl⟩ := List.exists_cons_of_length_eq_add_one hlength.symm
    obtain ⟨hname, hnodup⟩ := List.nodup_cons.mp hnodup
    have hrest : names.map (List.lookup · ((given (name :: names) (v :: values)).map Toml.Line.field)) =
        names.map (List.lookup · ((given names values).map Toml.Line.field)) := by
      refine List.map_congr_left fun n hn => ?_
      have hne : n ≠ name := fun h => hname (h ▸ hn)
      rw [given_cons]
      cases v with
      | none => rfl
      | some v => exact List.lookup_cons.trans (by rw [beq_false_of_ne hne]; rfl)
    have hfirst : List.lookup name ((given (name :: names) (v :: values)).map Toml.Line.field) = v.map Prod.snd := by
      rw [given_cons]
      cases v with
      | none => exact Toml.lookup_eq_none (notMem_given hname)
      | some v => exact List.lookup_cons_self
    rw [List.map_cons, hfirst, hrest, ih hnodup (Nat.succ.inj hlength), List.map_cons]

end

def value (x : Float) : Text × Toml.Node := (tomlFloat x, .float x)

lemma isWord_values (l : List (Option Float)) : ∀ v ∈ l.map (Option.map value), ∀ p ∈ v, Toml.IsWord p.1 p.2 := by
  intro v hv p hp
  obtain ⟨o, -, rfl⟩ := List.mem_map.mp hv
  obtain ⟨x, -, rfl⟩ := Option.map_eq_some_iff.mp hp
  exact isWord_tomlFloat x

def viewNumbers (v : View) : List (Option Float) := [some v.scale, some v.canvasWidth, some v.canvasHeight, v.offsetX, v.offsetY]

def radiusNumbers (r : Radii) : List (Option Float) := [some r.hit, some r.ring, some r.subNode, some r.center]

def sections (c : Config) : List Toml.Section := [
  ⟨"view".toList, given View.names ((viewNumbers c.view).map (Option.map value))⟩,
  ⟨"interaction".toList, given radiusNames ((radiusNumbers c.radii).map (Option.map value))⟩,
  ⟨"editor".toList, given editorNames [some (Text.ofNat c.historyDepth, .integer c.historyDepth)]⟩]

lemma text_sections (c : Config) : c.sections.map Toml.Section.text = [
    tomlSection "view".toList View.names ((viewNumbers c.view).map (Option.map tomlFloat)),
    tomlSection "interaction".toList radiusNames ((radiusNumbers c.radii).map (Option.map tomlFloat)),
    tomlSection "editor".toList editorNames [some (Text.ofNat c.historyDepth)]] := by
  have hfst (l : List (Option Float)) : l.map (Option.map tomlFloat) = (l.map (Option.map value)).map (Option.map Prod.fst) := by
    rw [List.map_map, Option.map_comp_map]
    rfl
  have hdepth : [some (Text.ofNat c.historyDepth)] =
      [some (Text.ofNat c.historyDepth, Toml.Node.integer c.historyDepth)].map (Option.map Prod.fst) := rfl
  rw [hfst, hfst, hdepth, tomlSection_eq, tomlSection_eq, tomlSection_eq]
  rfl

lemma toToml?_eq_some {t : Text} (h : c.toToml? = some t) :
    c.historyDepth ≤ tomlGreatest ∧ t = Text.unlines (c.sections.map Toml.Section.text) := by
  rw [toToml?] at h
  split at h
  · cases h
  · rename_i hle
    refine ⟨not_lt.mp hle, (Option.some.inj h).symm.trans ?_⟩
    rw [text_sections]
    rfl

lemma isBare_of_mem {name : Text} (h : name ∈ names ++ View.names ++ radiusNames ++ editorNames) : Toml.IsBare name := by
  have hall : (names ++ View.names ++ radiusNames ++ editorNames).all fun n => !n.isEmpty && n.all Toml.isBareKey := by
    decide +kernel
  have hname := List.all_eq_true.mp hall name h
  rw [Bool.and_eq_true, Bool.not_eq_true', List.isEmpty_eq_false_iff] at hname
  exact ⟨hname.1, List.all_eq_true.mp hname.2⟩

lemma valid_section {header : Text} {names : List Text} {values : List (Option (Text × Toml.Node))}
    (hheader : Toml.IsBare header) (hnames : ∀ n ∈ names, Toml.IsBare n) (hnodup : names.Nodup)
    (hvalues : ∀ v ∈ values, ∀ p ∈ v, Toml.IsWord p.1 p.2) :
    Toml.Section.Valid ⟨header, given names values⟩ :=
  ⟨hheader, valid_given hnames hvalues, names_given_sublist.nodup hnodup⟩

lemma valid_sections (hdepth : c.historyDepth ≤ tomlGreatest) : ∀ s ∈ c.sections, s.Valid := by
  have hdepth' : ∀ v ∈ [some (Text.ofNat c.historyDepth, Toml.Node.integer c.historyDepth)],
      ∀ p ∈ v, Toml.IsWord p.1 p.2 := by
    rw [List.forall_mem_singleton]
    intro p hp
    obtain rfl := Option.some.inj hp
    exact Toml.isWord_ofNat (Nat.lt_succ_of_le hdepth)
  rw [sections, List.forall_mem_cons, List.forall_mem_cons, List.forall_mem_singleton]
  refine ⟨valid_section (isBare_of_mem ?_) (fun n hn => isBare_of_mem ?_) (by decide) (isWord_values _),
    valid_section (isBare_of_mem ?_) (fun n hn => isBare_of_mem ?_) (by decide) (isWord_values _),
    valid_section (isBare_of_mem ?_) (fun n hn => isBare_of_mem ?_) (by decide) hdepth'⟩
  all_goals simp [names, *]

lemma settings?_given {names : List Text} {values : List (Option (Text × Toml.Node))} (hnodup : names.Nodup)
    (hlength : names.length = values.length) :
    Values.toml.settings? names (.table .explicit ((given names values).map Toml.Line.field)) =
      some (values.map (Option.map Prod.snd)) :=
  congrArg some (map_lookup_given hnodup hlength)

lemma get?_offset (o : Option Float) :
    Values.get? Values.toml.offset? none ((o.map value).map Prod.snd) = some o := by
  cases o <;> rfl

lemma readConfig?_sections (c : Config) : readConfig? Values.toml (.inline (c.sections.map Toml.Section.field)) = some c := by
  have htop (v r e : Toml.Node) : Values.toml.settings? names (.inline (names.zip [v, r, e])) = some [some v, some r, some e] :=
    congrArg some (map_lookup_zip (by decide) rfl)
  have hdepth : Values.get? Values.toml.count? History.defaultDepth (some (.integer c.historyDepth)) = some c.historyDepth := rfl
  refine (readConfig?_eq_some (htop _ _ _)).mpr ⟨?_, ?_, ?_⟩
  · exact (readView?_eq_some (settings?_given (by decide) rfl)).mpr ⟨rfl, rfl, rfl, get?_offset _, get?_offset _⟩
  · exact (readRadii?_eq_some (settings?_given (by decide) rfl)).mpr ⟨rfl, rfl, rfl, rfl⟩
  · exact (readDepth?_eq (settings?_given (by decide) rfl)).trans hdepth

theorem parse_toml {t : Text} (h : c.toToml? = some t) : parse .toml t = .ok c := by
  obtain ⟨hdepth, rfl⟩ := toToml?_eq_some h
  rw [parse, Toml.read?_unlines (valid_sections hdepth) (by simp [sections]), Option.bind_some, readConfig?_sections]

end Config

end Toolpath.Settings
