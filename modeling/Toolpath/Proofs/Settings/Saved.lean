import Toolpath.Proofs.Files.ReadBack
import Toolpath.Proofs.Settings.Written
import Toolpath.Proofs.Text.Utf8
import Toolpath.Settings.Store

/-!
What a saved configuration is loaded as. TOML keeps every configuration; JSON has no infinite numbers, and keeps a
finite one only if the digits that are written for it are read as the same double.
-/

namespace Toolpath.Files.Directory

variable {d d' : Directory} {p : Path} {t : Text}

lemma update_eq_ok {f : Directory → Except DiskError Directory} (h : (update f).run d = (.ok (), d')) : f d = .ok d' := by
  rw [StateT.run, update] at h
  cases hf : f d with
  | error e =>
    rw [hf] at h
    cases (Prod.mk.inj h).1
  | ok d₁ =>
    rw [hf] at h
    rw [(Prod.mk.inj h).2]

lemma readText_run (h : d.read p = .ok (Text.Utf8.encode t)) : (disk.readText p).run d = (.ok t, d) := by
  have hread : (disk.read p).run d = (.ok (Text.Utf8.encode t), d) := congrArg (·, d) h
  rw [Disk.readText, StateT.run_bind, hread]
  dsimp only [bind, pure, StateT.run, StateT.pure, Except.bind]
  rw [Text.Utf8.decode?_encode]

end Toolpath.Files.Directory

namespace Toolpath.Settings

open Files Number Scene

namespace Config

variable {c c' : Config} {p : Path} {d d' : Directory} {f : Format} {t : Text}

lemma load_run (hf : Format.ofPath p = .ok f) (h : d.read p = .ok (Text.Utf8.encode t)) :
    (load Directory.disk p).run d = ((parse f t).bind checked, d) := by
  rw [load, hf]
  dsimp only
  rw [StateT.run_bind, Directory.readText_run h]
  rfl

lemma checked_eq_ok_iff : c.checked = .ok c' ↔ c.validate = .ok () ∧ c = c' := by
  rw [checked]
  cases c.validate with
  | error e => exact iff_of_false nofun nofun
  | ok u => exact ⟨fun h => ⟨rfl, Except.ok.inj h⟩, fun h => congrArg Except.ok h.2⟩

lemma written_eq_ok (h : c.written p = .ok t) :
    ∃ f, Format.ofPath p = .ok f ∧ c.validate = .ok () ∧ c.write f = .ok t := by
  rw [written] at h
  cases hc : c.checked with
  | error e =>
    rw [hc] at h
    cases h
  | ok c' =>
    obtain ⟨hv, rfl⟩ := checked_eq_ok_iff.mp hc
    rw [hc] at h
    cases hf : Format.ofPath p with
    | error e =>
      rw [hf] at h
      cases h
    | ok f =>
      rw [hf] at h
      exact ⟨f, rfl, hv, h⟩

lemma bind_checked_iff {r : Except SettingsError Config} (hc : c.validate = .ok ()) : r.bind checked = .ok c ↔ r = .ok c := by
  cases r with
  | error e => exact Iff.rfl
  | ok c' =>
    refine Iff.trans checked_eq_ok_iff ⟨fun h => congrArg Except.ok h.2, fun h => ?_⟩
    obtain rfl := Except.ok.inj h
    exact ⟨hc, rfl⟩

lemma save_run_eq_ok (h : (c.save Directory.disk p).run d = (.ok (), d')) :
    ∃ t, c.written p = .ok t ∧ d'.read p = .ok (Text.Utf8.encode t) := by
  have hwrite {d : Directory} {t : Text}
      (h : (do return (← Directory.disk.writeText p t).mapError fun e => SettingsError.save (located p e)).run d =
        (Except.ok (), d')) : d'.read p = .ok (Text.Utf8.encode t) := by
    rw [StateT.run_bind] at h
    cases hu : (Directory.disk.writeText p t).run d with
    | mk r d₁ =>
      rw [hu] at h
      obtain ⟨hr, rfl⟩ := Prod.mk.inj h
      cases r with
      | error e => cases hr
      | ok u => exact Directory.read_of_write (Directory.update_eq_ok hu)
  unfold save at h
  split at h
  · cases (Prod.mk.inj h).1
  · rename_i t ht
    refine ⟨t, ht, ?_⟩
    dsimp only at h
    split_ifs at h
    · exact hwrite h
    · rw [StateT.run_bind] at h
      cases hm : (Directory.disk.makeFolders (Path.parent p)).run d with
      | mk r d₁ =>
        rw [hm] at h
        cases r with
        | error e => cases (Prod.mk.inj h).1
        | ok u => exact hwrite h

/-- A configuration that is saved is loaded again, unless JSON does not keep one of its numbers. -/
theorem load_save_iff (hdepth : c.historyDepth < 2 ^ 64) (h : (c.save Directory.disk p).run d = (.ok (), d')) :
    (load Directory.disk p).run d' = (.ok c, d') ↔ (Format.ofPath p = .ok .json → ∀ x ∈ c.numbers, JsonKeeps x) := by
  obtain ⟨t, ht, hread⟩ := save_run_eq_ok h
  obtain ⟨f, hf, hv, hw⟩ := written_eq_ok ht
  have hload : (load Directory.disk p).run d' = (.ok c, d') ↔ parse f t = .ok c := by
    rw [load_run hf hread, Prod.mk.injEq, bind_checked_iff hv]
    exact and_iff_left rfl
  rw [hload, hf]
  cases f with
  | json =>
    obtain rfl := Except.ok.inj hw
    rw [parse_json hdepth]
    exact ⟨fun h _ => h, fun h => h rfl⟩
  | toml =>
    rw [write] at hw
    split at hw
    · rename_i u hu
      obtain rfl := Except.ok.inj hw
      exact iff_of_true (parse_toml hu) nofun
    · cases hw

-- The default configuration with an infinite ring radius is saved as JSON, and that file is no configuration.
theorem not_load_save :
    let c : Config := { default with radii := { Radii.default with ring := infinity false } }
    let saved := (c.save Directory.disk "a.json".toList).run .empty
    saved.1 = .ok () ∧ ((load Directory.disk "a.json".toList).run saved.2).1 = .error .unreadableJson := by
  decide +kernel

theorem load_save_default :
    let c : Config := { default with radii := { Radii.default with ring := infinity false } }
    let d := ((default.save Directory.disk "a.json".toList).run .empty).2
    let d' := ((c.save Directory.disk "a.toml".toList).run .empty).2
    (load Directory.disk "a.json".toList).run d = (.ok default, d) ∧
      (load Directory.disk "a.toml".toList).run d' = (.ok c, d') := by
  intro c d d'
  have hd : (default.save Directory.disk "a.json".toList).run .empty = (.ok (), d) := Prod.ext (by decide +kernel) rfl
  have hd' : (c.save Directory.disk "a.toml".toList).run .empty = (.ok (), d') := Prod.ext (by decide +kernel) rfl
  exact ⟨(load_save_iff (by decide) hd).mpr fun _ => by decide +kernel,
    (load_save_iff (by decide) hd').mpr fun h => absurd h (by decide +kernel)⟩

end Config

end Toolpath.Settings
