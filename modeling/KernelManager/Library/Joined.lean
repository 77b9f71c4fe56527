import KernelManager.Library.Scan
import Mathlib.Data.List.Perm.Basic
import Mathlib.Order.RelClasses

/-!
Lists and the texts that are made of them: words that are joined are read back, and words that
are sorted first are read back up to their order.
-/

namespace Joined

variable {Element Item : Type*}

theorem mergeSort_sorted (le : Element → Element → Prop) [DecidableRel le] [Std.Total le]
    [IsTrans Element le] (elements : List Element) :
    (elements.mergeSort fun first second => decide (le first second)).Pairwise le := by
  let below := fun first second => decide (le first second)
  have trans : ∀ first second third, below first second = true → below second third = true →
      below first third = true := by
    intro first second third firstBelow secondBelow
    rw [decide_eq_true_eq] at firstBelow secondBelow ⊢
    exact trans_of le firstBelow secondBelow
  have total : ∀ first second, (below first second || below second first) = true := by
    intro first second
    rw [Bool.or_eq_true, decide_eq_true_eq, decide_eq_true_eq]
    exact total_of le first second
  exact (List.pairwise_mergeSort trans total elements).imp fun ordered =>
    decide_eq_true_eq.mp ordered

theorem mergeSort_eq_iff (le : Element → Element → Prop) [DecidableRel le] [Std.Total le]
    [IsTrans Element le] [Std.Antisymm le] (left right : List Element) :
    left.mergeSort (fun first second => decide (le first second)) =
        right.mergeSort (fun first second => decide (le first second)) ↔
      left.Perm right := by
  have leftPerm := List.mergeSort_perm left fun first second => decide (le first second)
  have rightPerm := List.mergeSort_perm right fun first second => decide (le first second)
  constructor
  · intro same
    rw [same] at leftPerm
    exact leftPerm.symm.trans rightPerm
  · intro perm
    apply List.Perm.eq_of_pairwise (fun first second _ _ => antisymm) (mergeSort_sorted le left)
      (mergeSort_sorted le right)
    exact leftPerm.trans (perm.trans rightPerm.symm)

theorem intercalate_inj [DecidableEq Element] (separator : Element)
    (left right : List (List Element))
    (leftPlain : ∀ word ∈ left, word ≠ [] ∧ separator ∉ word)
    (rightPlain : ∀ word ∈ right, word ≠ [] ∧ separator ∉ word) :
    [separator].intercalate left = [separator].intercalate right ↔ left = right := by
  have back : ∀ words : List (List Element),
      (∀ word ∈ words, word ≠ [] ∧ separator ∉ word) →
        (([separator].intercalate words).splitOn separator).filter (· ≠ []) = words := by
    intro words plain
    cases words with
    | nil => rfl
    | cons first rest =>
        rw [List.splitOn_intercalate separator (fun word member => (plain word member).2)
          (List.cons_ne_nil first rest), List.filter_eq_self]
        intro word member
        simpa using (plain word member).1
  constructor
  · intro same
    rw [← back left leftPlain, same, back right rightPlain]
  · exact fun same => congrArg _ same

theorem append_perm_append_iff (kind : Element → Bool)
    (left right leftRest rightRest : List Element)
    (leftKind : ∀ element ∈ left, kind element = true)
    (rightKind : ∀ element ∈ right, kind element = true)
    (leftOther : ∀ element ∈ leftRest, kind element = false)
    (rightOther : ∀ element ∈ rightRest, kind element = false) :
    (left ++ leftRest).Perm (right ++ rightRest) ↔
      left.Perm right ∧ leftRest.Perm rightRest := by
  have none : ∀ rest : List Element, (∀ element ∈ rest, kind element = false) →
      rest.filter kind = [] ∧ rest.filter (!kind ·) = rest := by
    intro rest other
    rw [List.filter_eq_nil_iff, List.filter_eq_self]
    exact ⟨fun element member => by simp [other element member],
      fun element member => by simp [other element member]⟩
  have all : ∀ part : List Element, (∀ element ∈ part, kind element = true) →
      part.filter kind = part ∧ part.filter (!kind ·) = [] := by
    intro part same
    rw [List.filter_eq_nil_iff, List.filter_eq_self]
    exact ⟨same, fun element member => by simp [same element member]⟩
  constructor
  · intro perm
    have first := perm.filter kind
    have second := perm.filter (!kind ·)
    rw [List.filter_append, List.filter_append, (all left leftKind).1, (all right rightKind).1,
      (none leftRest leftOther).1, (none rightRest rightOther).1, List.append_nil,
      List.append_nil] at first
    rw [List.filter_append, List.filter_append, (all left leftKind).2, (all right rightKind).2,
      (none leftRest leftOther).2, (none rightRest rightOther).2, List.nil_append,
      List.nil_append] at second
    exact ⟨first, second⟩
  · rintro ⟨first, second⟩
    exact first.append second

theorem map_perm_map_iff (function : Element → Item) (left right : List Element)
    (injective : ∀ first ∈ left, ∀ second ∈ right, function first = function second →
      first = second) :
    (left.map function).Perm (right.map function) ↔ left.Perm right := by
  constructor
  · intro perm
    induction left generalizing right with
    | nil =>
        rw [List.map_nil, List.nil_perm, List.map_eq_nil_iff] at perm
        rw [perm]
    | cons first left ih =>
        have member : function first ∈ right.map function :=
          perm.mem_iff.mp List.mem_cons_self
        obtain ⟨second, inside, same⟩ := List.mem_map.mp member
        obtain rfl := injective first List.mem_cons_self second inside same.symm
        obtain ⟨before, after, rfl⟩ := List.append_of_mem inside
        rw [List.map_append, List.map_cons, List.map_cons] at perm
        have rest := (perm.trans List.perm_middle).cons_inv
        rw [← List.map_append] at rest
        have apart := ih (before ++ after) (by
          intro other otherMember another anotherMember
          apply injective other (List.mem_cons_of_mem _ otherMember)
          rcases List.mem_append.mp anotherMember with earlier | later
          · exact List.mem_append_left _ earlier
          · exact List.mem_append_right _ (List.mem_cons_of_mem _ later)) rest
        exact (apart.cons first).trans List.perm_middle.symm
  · exact fun perm => perm.map function

end Joined
