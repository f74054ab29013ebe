import Mathlib.Tactic.Lemma
import Mathlib.Data.List.Basic
import Toolpath.Files.Directory

/-!
What was written to a path is read from it. Writing a file changes no folder, so that every path leads where it led.
-/

namespace Toolpath.Files.Directory

open Text.Utf8 (Bytes)

variable {d d' : Directory} {p : Path} {b : Bytes} {place q : List Text} {piece : Text} {pieces : List Text}

lemma bind_eq_ok {α β : Type} {x : Except DiskError α} {f : α → Except DiskError β} {y : β} :
    x >>= f = .ok y ↔ ∃ a, x = .ok a ∧ f a = .ok y := by
  cases x with
  | ok a => exact ⟨fun h => ⟨a, rfl, h⟩, fun ⟨_, ha, h⟩ => Except.ok.inj ha ▸ h⟩
  | error e => exact ⟨nofun, nofun⟩

def IsFolder (d : Directory) (place : List Text) : Prop := place.isEmpty ∨ place ∈ d.folders

lemma isFolder_iff : d.kindAt? place = some .folder ↔ d.IsFolder place := by
  rw [kindAt?]
  split
  · rename_i h
    exact iff_of_true rfl h
  · rename_i h
    refine iff_of_false ?_ h
    split <;> nofun

lemma enter_eq_ok_iff {u : Unit} : d.enter place = .ok u ↔ d.IsFolder place := by
  rw [← isFolder_iff, enter]
  split <;> rename_i h <;> rw [h] <;> simp

lemma walk_cons_eq_ok_iff :
    d.walk place (piece :: pieces) = .ok q ↔ d.IsFolder place ∧ d.walk (step place piece) pieces = .ok q := by
  rw [walk, bind_eq_ok, exists_and_right]
  simp only [enter_eq_ok_iff, exists_const]

lemma walk_concat_eq_ok_iff :
    d.walk place (pieces ++ [piece]) = .ok q ↔ ∃ r, d.walk place pieces = .ok r ∧ d.IsFolder r ∧ step r piece = q := by
  induction pieces generalizing place with
  | nil =>
    rw [List.nil_append, walk_cons_eq_ok_iff]
    simp [walk]
  | cons a pieces ih =>
    rw [List.cons_append, walk_cons_eq_ok_iff, ih]
    simp only [walk_cons_eq_ok_iff]
    constructor
    · rintro ⟨hf, r, hr, hr'⟩
      exact ⟨r, ⟨hf, hr⟩, hr'⟩
    · rintro ⟨r, ⟨hf, hr⟩, hr'⟩
      exact ⟨hf, r, hr, hr'⟩

lemma walk_put (h : d.walk place pieces = .ok q) (target : List Text) : (d.put target b).walk place pieces = .ok q := by
  induction pieces generalizing place with
  | nil => exact h
  | cons a pieces ih =>
    obtain ⟨hf, hw⟩ := walk_cons_eq_ok_iff.mp h
    exact walk_cons_eq_ok_iff.mpr ⟨hf, ih hw⟩

lemma kindAt?_put (h : ¬ d.IsFolder place) : (d.put place b).kindAt? place = some .file := by
  have h' : ¬ (place.isEmpty ∨ place ∈ (d.put place b).folders) := h
  rw [kindAt?, if_neg h', put, List.lookup_cons_self, Option.isSome_some, if_pos rfl]

lemma pieces_ne_nil (p : Path) : Path.pieces p ≠ [] := by
  induction p with
  | nil => exact List.cons_ne_nil _ _
  | cons c p ih =>
    obtain ⟨t, r, h⟩ := List.exists_cons_of_ne_nil ih
    rw [Path.pieces]
    split
    · exact List.cons_ne_nil _ _
    · rw [h]
      exact List.cons_ne_nil _ _

lemma dropWhile_reverse_eq (hp : p.getLast? ≠ some '/') : (p.reverse.dropWhile (· = '/')).reverse = p := by
  rw [← List.head?_reverse] at hp
  have h : p.reverse.dropWhile (· = '/') = p.reverse := by
    cases hr : p.reverse with
    | nil => rfl
    | cons c r =>
      rw [hr] at hp
      exact List.dropWhile_cons_of_neg (by simpa using hp)
  rw [h, List.reverse_reverse]

lemma locate_of_target? (h : d.target? p = .ok (some place)) (hp : p.getLast? ≠ some '/') : d.locate p = .ok place := by
  rw [target?, dropWhile_reverse_eq hp] at h
  rw [locate]
  split_ifs at h ⊢
  obtain ⟨piece, hpiece⟩ : ∃ piece, (Path.pieces p).getLast? = some piece :=
    ⟨_, List.getLast?_eq_some_getLast (pieces_ne_nil p)⟩
  rw [← List.dropLast_append_getLast? piece hpiece, walk_concat_eq_ok_iff]
  obtain ⟨r, hr, h⟩ := bind_eq_ok.mp h
  obtain ⟨_, hf, h⟩ := bind_eq_ok.mp h
  obtain ⟨_, hlast, hstep⟩ := Option.map_eq_some_iff.mp (Except.ok.inj h)
  obtain rfl := Option.some.inj (hpiece.symm.trans (Option.eq_some_of_filter_eq_some hlast))
  exact ⟨r, hr, enter_eq_ok_iff.mp hf, hstep⟩

lemma write_eq_ok (h : d.write p b = .ok d') : ∃ place, d.locate p = .ok place ∧ ¬ d.IsFolder place ∧ d' = d.put place b := by
  obtain ⟨target, ht, h⟩ := bind_eq_ok.mp h
  cases target with
  | none => cases h
  | some place =>
    dsimp only at h
    split_ifs at h with hbad
    rw [not_or, isFolder_iff] at hbad
    exact ⟨place, locate_of_target? ht hbad.1, hbad.2, (Except.ok.inj h).symm⟩

theorem read_of_write (h : d.write p b = .ok d') : d'.read p = .ok b := by
  obtain ⟨place, hp, hf, rfl⟩ := write_eq_ok h
  have hp' : (d.put place b).locate p = .ok place := by
    rw [locate] at hp ⊢
    split_ifs at hp ⊢
    exact walk_put hp place
  have hlookup : (d.put place b).files.lookup place = some b := List.lookup_cons_self
  rw [read, hp']
  simp only [bind, Except.bind]
  rw [hlookup, kindAt?_put hf]

end Toolpath.Files.Directory
