/-!
Finite maps as lists of their entries, one for each key, in the order in which the keys were inserted.
-/

namespace Toolpath

abbrev Entries (κ ν : Type) := List (κ × ν)

namespace Entries

variable {κ ν : Type} [BEq κ]

def insert (key : κ) (value : ν) : Entries κ ν → Entries κ ν
  | [] => [(key, value)]
  | e :: r => if e.1 == key then (key, value) :: r else e :: insert key value r

theorem lookup_insert [LawfulBEq κ] (key k : κ) (value : ν) (m : Entries κ ν) :
    List.lookup k (insert key value m) = if k == key then some value else List.lookup k m := by
  induction m with
  | nil =>
    rw [insert, List.lookup_cons]
    cases k == key <;> rfl
  | cons e r ih =>
    obtain ⟨j, w⟩ := e
    rw [insert, List.lookup_cons]
    split
    · rename_i hj
      rw [List.lookup_cons, ← eq_of_beq hj]
      cases k == j <;> rfl
    · rename_i hj
      rw [List.lookup_cons, ih]
      cases hk : k == j with
      | false => rfl
      | true => exact (if_neg (eq_of_beq hk ▸ hj)).symm

end Entries

end Toolpath
