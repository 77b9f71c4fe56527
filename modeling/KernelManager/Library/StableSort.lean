import Mathlib.Data.List.Sort
import Mathlib.Order.RelClasses

/-!
Stable sorting: what it means for a list to be the stable sort of another, that there is at
most one, and that insertion sort computes it.
-/

namespace Sorting

variable {Element : Type*} (le : Element → Element → Prop) [DecidableRel le]

/-- The elements in order, with those that tie in the order of the input. -/
structure IsStableSort (input output : List Element) : Prop where
  perm : output.Perm input
  sorted : output.Pairwise le
  ties : ∀ element,
    output.filter (fun other => le element other ∧ le other element) =
      input.filter fun other => le element other ∧ le other element

variable {le}

theorem filter_orderedInsert (element : Element) (elements : List Element)
    (kept : Element → Bool)
    (below : ∀ other, kept element = true → kept other = true → le element other) :
    (elements.orderedInsert le element).filter kept = (element :: elements).filter kept := by
  induction elements with
  | nil => rfl
  | cons other elements ih =>
      rw [List.orderedInsert_cons]
      split
      · rfl
      · rename_i above
        rw [List.filter_cons, ih]
        by_cases keptOther : kept other = true
        · have dropped : kept element ≠ true :=
            fun keptElement => above (below other keptElement keptOther)
          simp [keptOther, dropped]
        · simp [List.filter_cons, keptOther]

theorem insertionSort_ties [IsTrans Element le] (element : Element) (elements : List Element) :
    (elements.insertionSort le).filter (fun other => le element other ∧ le other element) =
      elements.filter fun other => le element other ∧ le other element := by
  induction elements with
  | nil => rfl
  | cons first elements ih =>
      rw [List.insertionSort_cons, filter_orderedInsert, List.filter_cons, List.filter_cons, ih]
      intro other tiedFirst tiedOther
      simp only [decide_eq_true_eq] at tiedFirst tiedOther
      exact trans_of le tiedFirst.2 tiedOther.1

theorem insertionSort_isStableSort [Std.Total le] [IsTrans Element le]
    (elements : List Element) : IsStableSort le elements (elements.insertionSort le) where
  perm := List.perm_insertionSort le elements
  sorted := List.pairwise_insertionSort le elements
  ties element := insertionSort_ties element elements

theorem sorted_unique [Std.Total le] (first second : List Element) (perm : first.Perm second)
    (firstSorted : first.Pairwise le) (secondSorted : second.Pairwise le)
    (ties : ∀ element,
      first.filter (fun other => le element other ∧ le other element) =
        second.filter fun other => le element other ∧ le other element) : first = second := by
  induction first generalizing second with
  | nil => exact perm.nil_eq
  | cons element first ih =>
      cases second with
      | nil => exact perm.eq_nil
      | cons other second =>
          have reflexive : ∀ element : Element, le element element :=
            fun element => (total_of le element element).elim id id
          have below : le element other := by
            rcases List.mem_cons.mp (perm.mem_iff.mpr List.mem_cons_self) with rfl | later
            · exact reflexive _
            · exact (List.pairwise_cons.mp firstSorted).1 other later
          have above : le other element := by
            rcases List.mem_cons.mp (perm.mem_iff.mp List.mem_cons_self) with rfl | later
            · exact reflexive _
            · exact (List.pairwise_cons.mp secondSorted).1 element later
          -- Both heads tie, so the ties of either list start with its head.
          have heads := ties element
          simp only [List.filter_cons, reflexive, below, above, and_self, decide_true, ↓reduceIte,
            List.cons.injEq] at heads
          obtain rfl := heads.1
          have rest := ih second (List.perm_cons element |>.mp perm)
            (List.pairwise_cons.mp firstSorted).2 (List.pairwise_cons.mp secondSorted).2 (by
              intro tied
              have filtered := ties tied
              simp only [List.filter_cons] at filtered
              split at filtered
              · exact (List.cons.inj filtered).2
              · exact filtered)
          rw [rest]

theorem IsStableSort.unique [Std.Total le] {input first second : List Element}
    (left : IsStableSort le input first) (right : IsStableSort le input second) :
    first = second :=
  sorted_unique first second (left.perm.trans right.perm.symm) left.sorted right.sorted
    fun element => (left.ties element).trans (right.ties element).symm

theorem isStableSort_iff [Std.Total le] [IsTrans Element le] (input output : List Element) :
    IsStableSort le input output ↔ output = input.insertionSort le := by
  constructor
  · intro stable
    exact stable.unique (insertionSort_isStableSort input)
  · rintro rfl
    exact insertionSort_isStableSort input

section Comparison

variable {Key : Type*} (cmp : Element → Element → Ordering)

theorem total_of_cmp [Std.OrientedCmp cmp] :
    Std.Total fun left right => cmp left right ≠ .gt where
  total left right := by
    have swapped : cmp left right = (cmp right left).swap := Std.OrientedCmp.eq_swap
    rw [swapped]
    cases cmp right left <;> simp

theorem trans_of_cmp [Std.TransCmp cmp] :
    IsTrans Element fun left right => cmp left right ≠ .gt where
  trans _ _ _ first second :=
    Ordering.isLE_iff_ne_gt.mp
      (Std.TransCmp.isLE_trans (Ordering.isLE_iff_ne_gt.mpr first)
        (Ordering.isLE_iff_ne_gt.mpr second))

theorem transCmp_key (key : Key → Element) [Std.TransCmp cmp] :
    Std.TransCmp fun left right => cmp (key left) (key right) where
  eq_swap := Std.OrientedCmp.eq_swap
  isLE_trans := Std.TransCmp.isLE_trans

theorem transCmp_swap [Std.TransCmp cmp] :
    Std.TransCmp fun left right => (cmp left right).swap := by
  have opposite : (fun left right => (cmp left right).swap) = fun left right => cmp right left := by
    funext left right
    exact Std.OrientedCmp.eq_swap.symm
  rw [opposite]
  exact Std.TransCmp.opposite

end Comparison

end Sorting
