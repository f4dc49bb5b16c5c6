/-!
Finite sets of names, kept as ascending lists.
-/

namespace Tabletop

/-- A set of names, in ascending order. -/
structure NameSet where
  toList : List String
  ascending : toList.Pairwise (· < ·)
deriving DecidableEq

namespace NameSet

/-- Puts a name into an ascending list, unless it is there. -/
def insertInto (name : String) : List String → List String
  | [] => [name]
  | head :: rest =>
      if name < head then name :: head :: rest
      else if head < name then head :: insertInto name rest
      else head :: rest

theorem mem_insertInto {name other : String} {names : List String} :
    other ∈ insertInto name names → other = name ∨ other ∈ names := by
  induction names with
  | nil => simp [insertInto]
  | cons head rest inductive_step =>
      unfold insertInto
      split
      · simp
      · split
        · intro member
          rcases List.mem_cons.1 member with equal | later
          · exact .inr (equal ▸ List.mem_cons_self ..)
          · exact (inductive_step later).imp id (List.mem_cons_of_mem _)
        · exact .inr

theorem pairwise_insertInto {name : String} {names : List String}
    (ascending : names.Pairwise (· < ·)) : (insertInto name names).Pairwise (· < ·) := by
  induction names with
  | nil => simp [insertInto]
  | cons head rest inductive_step =>
      obtain ⟨below, restAscending⟩ := List.pairwise_cons.1 ascending
      unfold insertInto
      split
      next before =>
        refine List.pairwise_cons.2 ⟨fun other member => ?_, ascending⟩
        rcases List.mem_cons.1 member with equal | later
        · exact equal ▸ before
        · exact String.lt_trans before (below other later)
      next =>
        split
        next after =>
          refine List.pairwise_cons.2 ⟨fun other member => ?_, inductive_step restAscending⟩
          rcases mem_insertInto member with equal | later
          · exact equal ▸ after
          · exact below other later
        next => exact ascending

/-- The set without names. -/
def empty : NameSet := ⟨[], .nil⟩

/-- A set with one name more. -/
def insert (name : String) (set : NameSet) : NameSet :=
  ⟨insertInto name set.toList, pairwise_insertInto set.ascending⟩

/-- The set of the names of a list. -/
def ofList (names : List String) : NameSet :=
  names.foldr insert empty

/-- Whether a name is in a set. -/
def contains (set : NameSet) (name : String) : Bool :=
  set.toList.contains name

end NameSet

end Tabletop
