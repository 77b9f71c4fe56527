import Mathlib.Data.List.Nodup

/-!
A combo box over a list of values: the position it shows for a value, and the value that a
picked label stands for, by the labels of the values or by a list of labels beside them.
-/

namespace Choices

variable {Value Label : Type*}

section Positions

variable [DecidableEq Value]

def position (values : List Value) (value : Value) : Nat := (values.idxOf? value).getD 0

theorem idxOf?_found (values : List Value) (value : Value) (listed : value ∈ values) :
    ∃ index, values.idxOf? value = some index ∧ values[index]? = some value := by
  obtain ⟨index, found⟩ := Option.isSome_iff_exists.mp (List.isSome_idxOf?.mpr listed)
  obtain ⟨bound, same, -⟩ := List.idxOf?_eq_some_iff.mp found
  exact ⟨index, found, by rw [List.getElem?_eq_getElem bound, same]⟩

theorem idxOf?_distinct (values : List Value) (distinct : values.Nodup) (index : Nat)
    (value : Value) (found : values[index]? = some value) :
    values.idxOf? value = some index := by
  obtain ⟨first, located, shown⟩ := idxOf?_found values value (List.mem_of_getElem? found)
  obtain ⟨firstBound, firstValue⟩ := List.getElem?_eq_some_iff.mp shown
  obtain ⟨bound, same⟩ := List.getElem?_eq_some_iff.mp found
  rw [located, Option.some.injEq]
  exact (distinct.getElem_inj_iff).mp (firstValue.trans same.symm)

theorem position_shows (values : List Value) (value : Value) (listed : value ∈ values) :
    values[position values value]? = some value := by
  obtain ⟨index, located, shown⟩ := idxOf?_found values value listed
  rw [position, located]
  exact shown

theorem position_distinct (values : List Value) (distinct : values.Nodup) (index : Nat)
    (value : Value) (found : values[index]? = some value) : position values value = index := by
  rw [position, idxOf?_distinct values distinct index value found]
  rfl

theorem position_inj (values : List Value) (left right : Value) (leftListed : left ∈ values)
    (rightListed : right ∈ values) (same : position values left = position values right) :
    left = right := by
  have shown := position_shows values left leftListed
  rw [same, position_shows values right rightListed] at shown
  exact (Option.some.inj shown).symm

end Positions

section Labels

variable [DecidableEq Label]

def labelled (values : List Value) (label : Value → Label) (picked : Label) : Option Value :=
  values.find? (label · = picked)

def aligned (labels : List Label) (values : List Value) (picked : Label) : Option Value :=
  (labels.idxOf? picked).bind (values[·]?)

theorem labelled_shown (values : List Value) (label : Value → Label) (value : Value)
    (listed : value ∈ values)
    (apart : ∀ other ∈ values, label other = label value → other = value) :
    labelled values label (label value) = some value := by
  cases found : labelled values label (label value) with
  | none =>
      have missing := List.find?_eq_none.mp found value listed
      simp at missing
  | some other =>
      have same : label other = label value := by simpa using List.find?_some found
      rw [apart other (List.mem_of_find?_eq_some found) same]

theorem aligned_shown (labels : List Label) (values : List Value) (distinct : labels.Nodup)
    (index : Nat) (label : Label) (found : labels[index]? = some label) :
    aligned labels values label = values[index]? := by
  rw [aligned, idxOf?_distinct labels distinct index label found]
  rfl

variable [DecidableEq Value]

theorem labelled_picked (values : List Value) (label : Value → Label) (distinct : values.Nodup)
    (apart : Function.Injective label) (index : Nat) (picked : Label)
    (found : (values.map label)[index]? = some picked) :
    ∃ value ∈ values, labelled values label picked = some value ∧
      position values value = index := by
  rw [List.getElem?_map, Option.map_eq_some_iff] at found
  obtain ⟨value, shown, rfl⟩ := found
  have listed := List.mem_of_getElem? shown
  exact ⟨value, listed, labelled_shown values label value listed fun _ _ same => apart same,
    position_distinct values distinct index value shown⟩

theorem aligned_picked (labels : List Label) (values : List Value) (labelsDistinct : labels.Nodup)
    (distinct : values.Nodup) (beside : labels.length = values.length) (index : Nat)
    (picked : Label) (found : labels[index]? = some picked) :
    ∃ value, aligned labels values picked = some value ∧ position values value = index := by
  obtain ⟨bound, -⟩ := List.getElem?_eq_some_iff.mp found
  have shown := List.getElem?_eq_getElem (beside ▸ bound)
  exact ⟨_, (aligned_shown labels values labelsDistinct index picked found).trans shown,
    position_distinct values distinct index _ shown⟩

end Labels

end Choices
