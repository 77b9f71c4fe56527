import Mathlib.Data.List.Nodup
import Mathlib.Logic.Function.Iterate

/-!
Lists whose items carry keys: finding an item by its key, and changing the item that is found.
-/

namespace Keyed

variable {Item Key : Type*} [DecidableEq Key] (items : List Item) (key : Item → Key)

theorem find?_key (distinct : (items.map key).Nodup) (item : Item) (member : item ∈ items) :
    items.find? (key · = key item) = some item := by
  cases found : items.find? (key · = key item) with
  | none =>
      have missing := List.find?_eq_none.mp found item member
      simp at missing
  | some other =>
      have same : key other = key item := by simpa using List.find?_some found
      rw [List.inj_on_of_nodup_map distinct (List.mem_of_find?_eq_some found) member same]

theorem find?_perm {other : List Item} (order : items.Perm other)
    (distinct : (items.map key).Nodup) (value : Key) :
    items.find? (key · = value) = other.find? (key · = value) := by
  cases found : items.find? (key · = value) with
  | none =>
      refine (List.find?_eq_none.mpr fun item member => ?_).symm
      exact List.find?_eq_none.mp found item (order.mem_iff.mpr member)
  | some item =>
      obtain rfl : key item = value := by simpa using List.find?_some found
      have distinctToo := (order.map key).nodup_iff.mp distinct
      exact (find?_key other key distinctToo item
        (order.mem_iff.mp (List.mem_of_find?_eq_some found))).symm

theorem front_perm (front : List Item) (once : front.Nodup) (distinct : (items.map key).Nodup)
    (included : ∀ item ∈ front, item ∈ items) :
    (front ++ items.filter (key · ∉ front.map key)).Perm items := by
  refine (List.perm_ext_iff_of_nodup ?_ distinct.of_map).mpr fun item => ?_
  · refine List.Nodup.append once (distinct.of_map.filter _) ?_
    intro item inFront behind
    have apart := (List.mem_filter.mp behind).2
    simp only [decide_not, Bool.not_eq_true', decide_eq_false_iff_not] at apart
    exact apart (List.mem_map_of_mem inFront)
  · constructor
    · intro member
      rcases List.mem_append.mp member with inFront | behind
      · exact included item inFront
      · exact (List.mem_filter.mp behind).1
    · intro member
      by_cases named : key item ∈ front.map key
      · obtain ⟨other, inFront, same⟩ := List.mem_map.mp named
        obtain rfl := List.inj_on_of_nodup_map distinct (included other inFront) member same
        exact List.mem_append_left _ inFront
      · exact List.mem_append_right _ (List.mem_filter.mpr ⟨member, by simpa using named⟩)

theorem eq_of_count_one (item other : Item) (member : item ∈ items)
    (once : (items.map key).count (key item) = 1) (otherMember : other ∈ items)
    (same : key other = key item) : other = item := by
  have single : (items.filter (key · = key item)).length = 1 := by
    rw [← once, List.count, List.countP_map, List.countP_eq_length_filter]
    congr 1
  obtain ⟨only, eq⟩ := List.length_eq_one_iff.mp single
  have first : item ∈ items.filter (key · = key item) := by simp [member]
  have second : other ∈ items.filter (key · = key item) := by simp [otherMember, same]
  rw [eq, List.mem_singleton] at first second
  rw [first, second]

theorem findIdx?_key (value : Key) :
    items.findIdx? (key · = value) = (items.map key).findIdx? (· = value) := by
  rw [List.findIdx?_map]
  rfl

omit [DecidableEq Key] in
theorem modify_keys (change : Item → Item) (index : Nat)
    (same : ∀ item, key (change item) = key item) :
    (items.modify index change).map key = items.map key := by
  apply List.ext_getElem
  · simp
  · intro position _ bound
    simp only [List.getElem_map, List.getElem_modify]
    split
    · exact same _
    · rfl

theorem modify_congr (index : Nat) (first second : Item → Item)
    (same : ∀ item, items[index]? = some item → first item = second item) :
    items.modify index first = items.modify index second := by
  apply List.ext_getElem
  · simp
  · intro position _ bound
    simp only [List.length_modify] at bound
    simp only [List.getElem_modify]
    split
    · rename_i here
      subst here
      exact same _ (List.getElem?_eq_getElem bound)
    · rfl

theorem map_absent (change : Item → Item) (value : Key) (absent : value ∉ items.map key) :
    (items.map fun item => if key item = value then change item else item) = items := by
  have kept : ∀ item ∈ items, (if key item = value then change item else item) = id item := by
    intro item member
    have differs : key item ≠ value := by
      rintro rfl
      exact absent (List.mem_map_of_mem member)
    exact if_neg differs
  rw [List.map_congr_left kept, List.map_id]

theorem modify_findIdx (change : Item → Item) (value : Key) (distinct : (items.map key).Nodup) :
    items.modify (items.findIdx (key · = value)) change =
      items.map fun item => if key item = value then change item else item := by
  induction items with
  | nil => simp
  | cons item items ih =>
      obtain ⟨apart, rest⟩ := List.nodup_cons.mp distinct
      by_cases here : key item = value
      · have others := map_absent items key change value (here ▸ apart)
        simp [List.findIdx_cons, here, others]
      · simpa [List.findIdx_cons, here] using ih rest

/-- A run of changes at positions changes each item as often as its position was named. -/
theorem foldl_modify (change : Item → Item) (positions : List Nat) :
    positions.foldl (fun items position => items.modify position change) items =
      items.mapIdx fun index item => change^[positions.countP (· = index)] item := by
  induction positions generalizing items with
  | nil =>
      apply List.ext_getElem
      · simp
      · simp
  | cons position positions ih =>
      rw [List.foldl_cons, ih]
      apply List.ext_getElem
      · simp
      · intro index bound _
        simp only [List.getElem_mapIdx, List.getElem_modify, List.countP_cons]
        by_cases here : position = index
        · simp [here, Function.iterate_succ_apply]
        · simp [here]

end Keyed
