import Mathlib.Data.List.Basic

/-!
Paths as texts, and the directories they lead to: repeated separators and `.` lead nowhere, `..`
leads back to the parent.
-/

namespace Paths

abbrev Name := List Char

def components (path : List Char) : List Name := (path.splitOn '/').filter (· ≠ [])

def enter (directories : List Name) (name : Name) : List Name :=
  if name = ['.'] then directories
  else if name = ['.', '.'] then directories.tail
  else name :: directories

def resolve (path : List Char) : List Name := ((components path).foldl enter []).reverse

structure Plain (name : Name) : Prop where
  nonempty : name ≠ []
  single : '/' ∉ name
  current : name ≠ ['.']
  parent : name ≠ ['.', '.']

instance (name : Name) : Decidable (Plain name) :=
  decidable_of_iff (name ≠ [] ∧ '/' ∉ name ∧ name ≠ ['.'] ∧ name ≠ ['.', '.'])
    ⟨fun ⟨nonempty, single, current, parent⟩ => ⟨nonempty, single, current, parent⟩,
      fun plain => ⟨plain.nonempty, plain.single, plain.current, plain.parent⟩⟩

theorem components_append (base rest : List Char) :
    components (base ++ '/' :: rest) = components base ++ components rest := by
  rw [components, List.splitOn_append_cons_self, List.filter_append]
  rfl

theorem components_plain (name : Name) (plain : Plain name) : components name = [name] := by
  rw [components, List.splitOn_eq_singleton plain.single]
  simp [plain.nonempty]

theorem resolve_child (base : List Char) (name : Name) (plain : Plain name) :
    resolve (base ++ '/' :: name) = resolve base ++ [name] := by
  have entered (directories : List Name) : enter directories name = name :: directories := by
    simp [enter, plain.current, plain.parent]
  rw [resolve, components_append, components_plain name plain, List.foldl_append,
    List.foldl_cons, List.foldl_nil, entered, List.reverse_cons]
  rfl

end Paths
