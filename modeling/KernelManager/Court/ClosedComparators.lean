import KernelManager.Court.ChainDocuments
import KernelManager.Court.InterfaceDocuments

/-! When the comparators of JSON documents fail closed on documents without their fields. -/

namespace KernelManager

open Json (Value)

/-- A comparator fails closed exactly on documents of which one shows something of each field, or
that differ in what it reads of them. -/
theorem comparators_closed_iff (printing : Printing) (court introspection : String)
    (oracle candidate properties interface readback : Value) :
    ((compareMachines court oracle candidate = [] →
          HasList "installed_packages" oracle ∧ HasList "installed_packages" candidate) ↔
        HasList "installed_packages" oracle ∨ HasList "installed_packages" candidate) ∧
      ((compareTerminalMatrix printing court oracle candidate = [] →
          HasList "scenarios" oracle ∧ HasList "scenarios" candidate) ↔
        (HasList "scenarios" oracle ∧ HasList "scenarios" candidate) ∨
          scenariosOf oracle ≠ [] ∨ scenariosOf candidate ≠ []) ∧
      ((compareVmTransactions printing court oracle candidate = [] →
          CarryChains oracle candidate) ↔
        ShowChains oracle candidate ∨ ¬SameChains oracle candidate) ∧
      ((compareScxInterface printing court introspection properties interface readback = [] →
          CarryInterface properties interface readback) ↔
        ShowInterface properties interface readback ∨
          ¬FaithfulInterface introspection properties interface readback) := by
  refine ⟨compareMachines_closed court oracle candidate,
    compareTerminalMatrix_closed printing court oracle candidate, ?_, ?_⟩
  · rw [compareVmTransactions_nil]
    by_cases same : SameChains oracle candidate
    · simp [same, same.carried]
    · simp [same]
  · rw [compareScxInterface_nil]
    by_cases faithful : FaithfulInterface introspection properties interface readback
    · simp [faithful, faithful.carried]
    · simp [faithful]

namespace Sample

def unprinted : Printing where
  json _ := ""
  chains _ := ""
  terminal _ := ""

def emptyDocument : Value := Value.objectOf []

end Sample

theorem emptyDocument_bare (key : String) : ¬HasList key Sample.emptyDocument := by
  intro listed
  cases listed

theorem emptyDocument_lists (key : String) (item : Value) :
    ¬Lists key Sample.emptyDocument item := by
  rintro ⟨items, listed, _⟩
  cases listed

theorem emptyDocuments_pass :
    ¬(compareMachines "court" Sample.emptyDocument Sample.emptyDocument = [] →
        HasList "installed_packages" Sample.emptyDocument ∧
          HasList "installed_packages" Sample.emptyDocument) ∧
      ¬(compareTerminalMatrix Sample.unprinted "court" Sample.emptyDocument
          Sample.emptyDocument = [] →
        HasList "scenarios" Sample.emptyDocument ∧ HasList "scenarios" Sample.emptyDocument) ∧
      ¬(compareVmTransactions Sample.unprinted "court" Sample.emptyDocument
          Sample.emptyDocument = [] →
        CarryChains Sample.emptyDocument Sample.emptyDocument) ∧
      ¬(compareScxInterface Sample.unprinted "court" "" Sample.emptyDocument
          Sample.emptyDocument Sample.emptyDocument = [] →
        CarryInterface Sample.emptyDocument Sample.emptyDocument Sample.emptyDocument) := by
  refine ⟨?_, ?_, ?_, ?_⟩
  · intro closed
    exact emptyDocument_bare _ (closed ((compareMachines_nil _ _ _).mpr rfl)).1
  · intro closed
    exact emptyDocument_bare _ (closed ((compareTerminalMatrix_nil _ _ _ _).mpr rfl)).1
  · intro closed
    have same : SameChains Sample.emptyDocument Sample.emptyDocument :=
      ⟨trivial, trivial, trivial⟩
    exact emptyDocument_bare _ (closed ((compareVmTransactions_nil _ _ _ _).mpr same)).1.1
  · intro closed
    have faithful : FaithfulInterface "" Sample.emptyDocument Sample.emptyDocument
        Sample.emptyDocument := by
      refine ⟨?_, ?_, fun keys _ => rfl⟩
      · intro method listed
        exact absurd listed (emptyDocument_lists _ _)
      · intro property listed
        exact absurd listed (emptyDocument_lists _ _)
    exact emptyDocument_bare _ (closed ((compareScxInterface_nil _ _ _ _ _ _).mpr faithful)).1.1

end KernelManager
