import KernelManager.Court.Case
import KernelManager.Library.Json

/-! The comparison of the kernel rows that the oracle and the candidate show. -/

namespace KernelManager

structure CompanionRow where
  zfs : Option String
  nvidia : Option String
  nvidiaOpen : Option String
  deriving DecidableEq, Repr

structure KernelRowObservable where
  raw : String
  version : String
  category : String
  checked : Bool
  companions : Option CompanionRow
  deriving DecidableEq, Repr

structure Observation where
  rows : List KernelRowObservable
  dialogs : List String
  deriving DecidableEq, Repr

structure CompanionExpectation where
  zfs : Option String := none
  nvidia : Option String := none
  nvidiaOpen : Option String := none
  deriving DecidableEq, Repr

abbrev CompanionModel := Std.TreeMap String CompanionExpectation

def emptyDialogText : String := "No kernels found"

def rowMismatch (court : String) (row : Nat) (field oracle candidate : String) : Residual :=
  deterministicMismatch (court ++ "-row" ++ toString row ++ "-" ++ field) court "kernel-rows" oracle
    candidate

section

variable (court : String) (model : CompanionModel)

def fieldMismatch {Value : Type} [DecidableEq Value] (row : Nat) (field : String)
    (text : Value → String) (oracle candidate : Value) : List Residual :=
  if oracle ≠ candidate then [rowMismatch court row field (text oracle) (text candidate)] else []

/-- The oracle shows no companions, so those of the candidate are compared with the model. -/
def companionMismatches (row : Nat) (candidate : KernelRowObservable) : List Residual :=
  match model[candidate.raw]?, candidate.companions with
  | some expected, some companions =>
      let text := fun name : Option String => name.getD ""
      fieldMismatch court row "companion-zfs" text expected.zfs companions.zfs ++
        fieldMismatch court row "companion-nvidia" text expected.nvidia companions.nvidia ++
          fieldMismatch court row "companion-nvidia_open" text expected.nvidiaOpen
            companions.nvidiaOpen
  | _, _ => []

def rowMismatches (row : Nat) (oracle candidate : KernelRowObservable) : List Residual :=
  fieldMismatch court row "raw" id oracle.raw candidate.raw ++
    fieldMismatch court row "version" id oracle.version candidate.version ++
      fieldMismatch court row "category" id oracle.category candidate.category ++
        fieldMismatch court row "checked" toString oracle.checked candidate.checked ++
          companionMismatches court model row candidate

def compareRowsFrom (row : Nat) :
    List KernelRowObservable → List KernelRowObservable → List Residual
  | [], [] => []
  | oracle :: oracles, candidate :: candidates =>
      rowMismatches court model row oracle candidate ++
        compareRowsFrom (row + 1) oracles candidates
  | oracle :: oracles, [] =>
      rowMismatch court row "row" oracle.raw "<missing>" :: compareRowsFrom (row + 1) oracles []
  | [], candidate :: candidates =>
      rowMismatch court row "row" "<missing>" candidate.raw ::
        compareRowsFrom (row + 1) [] candidates

def rowCountMismatch (oracle candidate : Nat) : List Residual :=
  if oracle ≠ candidate then
    [deterministicMismatch (court ++ "-row-count") court "kernel-rows" (toString oracle)
      (toString candidate)]
  else []

def Observation.showsEmptyDialog (observation : Observation) : Bool :=
  observation.dialogs.any fun dialog => contains dialog emptyDialogText

/-- The candidate has no window, so its rows are compared with the dialog of the oracle. -/
def dialogMismatch (oracle candidate : Observation) : List Residual :=
  fieldMismatch court 0 "empty-discovery-dialog-condition" toString oracle.showsEmptyDialog
    candidate.rows.isEmpty

def compareObservations (oracle candidate : Observation) : List Residual :=
  rowCountMismatch court oracle.rows.length candidate.rows.length ++
    compareRowsFrom court model 0 oracle.rows candidate.rows ++
      dialogMismatch court oracle candidate

end

def KernelRowObservable.shown (row : KernelRowObservable) : String × String × String × Bool :=
  (row.raw, row.version, row.category, row.checked)

def CompanionRow.Meets (companions : CompanionRow) (expected : CompanionExpectation) : Prop :=
  companions.zfs = expected.zfs ∧ companions.nvidia = expected.nvidia ∧
    companions.nvidiaOpen = expected.nvidiaOpen

def RowsAgree (oracle candidate : Observation) : Prop :=
  oracle.rows.map (·.shown) = candidate.rows.map (·.shown)

def KernelRowObservable.MeetsModel (row : KernelRowObservable) (model : CompanionModel) : Prop :=
  ∀ expected companions, model[row.raw]? = some expected → row.companions = some companions →
    companions.Meets expected

def DialogAgrees (oracle candidate : Observation) : Prop :=
  (∃ dialog ∈ oracle.dialogs, contains dialog emptyDialogText = true) ↔ candidate.rows = []

structure ObservationsAgree (oracle candidate : Observation) (model : CompanionModel) : Prop where
  rows : RowsAgree oracle candidate
  companions : ∀ row ∈ candidate.rows, ∀ expected, model[row.raw]? = some expected →
    ∃ companions, row.companions = some companions ∧ companions.Meets expected
  dialog : DialogAgrees oracle candidate

def KernelRowObservable.Uncompanioned (row : KernelRowObservable) (model : CompanionModel) :
    Prop :=
  row.raw ∈ model ∧ row.companions = none

def OnlyUncompanioned (oracle candidate : Observation) (model : CompanionModel) : Prop :=
  RowsAgree oracle candidate ∧ (∀ row ∈ candidate.rows, row.MeetsModel model) ∧
    DialogAgrees oracle candidate ∧ ∃ row ∈ candidate.rows, row.Uncompanioned model

section

variable (court : String) (model : CompanionModel)

theorem fieldMismatch_nil {Value : Type} [DecidableEq Value] (row : Nat) (field : String)
    (text : Value → String) (oracle candidate : Value) :
    fieldMismatch court row field text oracle candidate = [] ↔ oracle = candidate :=
  unlessSame_nil _ oracle candidate

theorem companionMismatches_nil (row : Nat) (candidate : KernelRowObservable) :
    companionMismatches court model row candidate = [] ↔ candidate.MeetsModel model := by
  unfold companionMismatches KernelRowObservable.MeetsModel CompanionRow.Meets
  cases model[candidate.raw]? with
  | none => simp
  | some expected =>
      cases candidate.companions with
      | none => simp
      | some companions =>
          simp only [List.append_eq_nil_iff, fieldMismatch_nil, Option.some.injEq, and_assoc]
          constructor
          · rintro ⟨zfs, nvidia, nvidiaOpen⟩ _ _ rfl rfl
            exact ⟨zfs.symm, nvidia.symm, nvidiaOpen.symm⟩
          · intro meets
            obtain ⟨zfs, nvidia, nvidiaOpen⟩ := meets expected companions rfl rfl
            exact ⟨zfs.symm, nvidia.symm, nvidiaOpen.symm⟩

theorem rowMismatches_nil (row : Nat) (oracle candidate : KernelRowObservable) :
    rowMismatches court model row oracle candidate = [] ↔
      oracle.shown = candidate.shown ∧ candidate.MeetsModel model := by
  simp only [rowMismatches, List.append_eq_nil_iff, fieldMismatch_nil, companionMismatches_nil,
    KernelRowObservable.shown, Prod.mk.injEq, and_assoc]

theorem compareRowsFrom_nil (row : Nat) (oracles candidates : List KernelRowObservable) :
    compareRowsFrom court model row oracles candidates = [] ↔
      oracles.map (·.shown) = candidates.map (·.shown) ∧
        ∀ candidate ∈ candidates, candidate.MeetsModel model := by
  induction oracles generalizing row candidates with
  | nil =>
      cases candidates with
      | nil => simp [compareRowsFrom]
      | cons candidate candidates => simp [compareRowsFrom]
  | cons oracle oracles ih =>
      cases candidates with
      | nil => simp [compareRowsFrom]
      | cons candidate candidates =>
          rw [compareRowsFrom, List.append_eq_nil_iff, rowMismatches_nil, ih, List.map_cons,
            List.map_cons, List.cons.injEq, List.forall_mem_cons]
          constructor
          · rintro ⟨⟨first, firstMeets⟩, rest, restMeet⟩
            exact ⟨⟨first, rest⟩, firstMeets, restMeet⟩
          · rintro ⟨⟨first, rest⟩, firstMeets, restMeet⟩
            exact ⟨⟨first, firstMeets⟩, rest, restMeet⟩

theorem rowCountMismatch_nil (oracle candidate : Nat) :
    rowCountMismatch court oracle candidate = [] ↔ oracle = candidate :=
  unlessSame_nil _ oracle candidate

theorem dialogMismatch_nil (oracle candidate : Observation) :
    dialogMismatch court oracle candidate = [] ↔ DialogAgrees oracle candidate := by
  rw [dialogMismatch, fieldMismatch_nil, DialogAgrees, Bool.eq_iff_iff, List.isEmpty_iff,
    Observation.showsEmptyDialog, List.any_eq_true]

theorem compareObservations_nil (oracle candidate : Observation) :
    compareObservations court model oracle candidate = [] ↔
      RowsAgree oracle candidate ∧ (∀ row ∈ candidate.rows, row.MeetsModel model) ∧
        DialogAgrees oracle candidate := by
  simp only [compareObservations, List.append_eq_nil_iff, rowCountMismatch_nil,
    compareRowsFrom_nil, dialogMismatch_nil, RowsAgree]
  constructor
  · rintro ⟨⟨_, rows, companions⟩, dialog⟩
    exact ⟨rows, companions, dialog⟩
  · rintro ⟨rows, companions, dialog⟩
    refine ⟨⟨?_, rows, companions⟩, dialog⟩
    simpa using congrArg List.length rows

theorem companions_iff (row : KernelRowObservable) :
    (∀ expected, model[row.raw]? = some expected →
        ∃ companions, row.companions = some companions ∧ companions.Meets expected) ↔
      row.MeetsModel model ∧ ¬row.Uncompanioned model := by
  unfold KernelRowObservable.MeetsModel KernelRowObservable.Uncompanioned
  rw [Std.TreeMap.mem_iff_isSome_getElem?]
  cases model[row.raw]? with
  | none => simp
  | some expected => cases row.companions <;> simp

/-- The comparison is exact unless it is only companions that are missing altogether. -/
theorem compareObservations_exact_iff (oracle candidate : Observation) :
    (compareObservations court model oracle candidate = [] ↔
        ObservationsAgree oracle candidate model) ↔
      ¬OnlyUncompanioned oracle candidate model := by
  rw [compareObservations_nil]
  have agree : ObservationsAgree oracle candidate model ↔
      (RowsAgree oracle candidate ∧ (∀ row ∈ candidate.rows, row.MeetsModel model) ∧
        DialogAgrees oracle candidate) ∧
          ∀ row ∈ candidate.rows, ¬row.Uncompanioned model := by
    constructor
    · rintro ⟨rows, companions, dialog⟩
      have both := fun row member => (companions_iff model row).mp (companions row member)
      exact ⟨⟨rows, fun row member => (both row member).1, dialog⟩,
        fun row member => (both row member).2⟩
    · rintro ⟨⟨rows, meets, dialog⟩, companioned⟩
      exact ⟨rows, fun row member =>
        (companions_iff model row).mpr ⟨meets row member, companioned row member⟩, dialog⟩
  rw [agree, OnlyUncompanioned]
  constructor
  · rintro complete ⟨rows, meets, dialog, row, member, bare⟩
    exact (complete.mp ⟨rows, meets, dialog⟩).2 row member bare
  · intro notOnly
    constructor
    · rintro ⟨rows, meets, dialog⟩
      refine ⟨⟨rows, meets, dialog⟩, ?_⟩
      intro row member bare
      exact notOnly ⟨rows, meets, dialog, row, member, bare⟩
    · exact And.left

end

namespace Sample

def courtRow : KernelRowObservable where
  raw := "fixtures/linux-cachyos-court2"
  version := "1.0-1"
  category := "stable"
  checked := false
  companions := none

def courtRows : Observation where
  rows := [courtRow]
  dialogs := []

def courtModel : CompanionModel :=
  (∅ : CompanionModel).insert "fixtures/linux-cachyos-court2"
    { zfs := some "linux-cachyos-court2-zfs" }

end Sample

/-- A row without companions passes the model that expects one. -/
theorem bareRow_passes :
    ¬(compareObservations "court" Sample.courtModel Sample.courtRows Sample.courtRows = [] ↔
      ObservationsAgree Sample.courtRows Sample.courtRows Sample.courtModel) := by
  have known : Sample.courtModel[Sample.courtRow.raw]? =
      some { zfs := some "linux-cachyos-court2-zfs" } := by
    simp [Sample.courtModel, Sample.courtRow]
  intro complete
  have nothing : compareObservations "court" Sample.courtModel Sample.courtRows
      Sample.courtRows = [] := by
    rw [compareObservations_nil]
    refine ⟨rfl, ?_, by simp [DialogAgrees, Sample.courtRows]⟩
    intro row member expected companions _ carried
    obtain rfl := List.mem_singleton.mp member
    cases carried
  obtain ⟨companions, carried, _⟩ :=
    (complete.mp nothing).companions Sample.courtRow List.mem_cons_self _ known
  cases carried

end KernelManager
