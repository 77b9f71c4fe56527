import KernelManager.Library.StableSort
import KernelManager.Ui.CatalogView

/-! Whether sorting the kernel list changes what is selected. -/

namespace KernelManager

inductive TableMessage
  | kernelToggled (raw : String)
  | sortRequested (column : Nat)
  deriving DecidableEq, Repr

namespace TableMessage

def received : TableMessage → UiMessage
  | .kernelToggled raw => .semantic (.kernelToggled raw)
  | .sortRequested column => .sortRequested column

def sorts : TableMessage → Bool
  | .sortRequested _ => true
  | .kernelToggled _ => false

end TableMessage

def runTable (vercmp : String → String → Ordering) (app : App)
    (messages : List TableMessage) : App :=
  Machine.run (step vercmp) app (messages.map (·.received))

def KernelRow.toggledBy (messages : List TableMessage) (row : KernelRow) : KernelRow :=
  { row with checked := row.checked ^^ messages.count (.kernelToggled row.raw) % 2 == 1 }

def RowsOrdered (vercmp : String → String → Ordering) (column : Nat) (ascending : Bool)
    (left right : KernelRowView) : Prop :=
  compareRows vercmp column ascending left right ≠ .gt

instance (vercmp : String → String → Ordering) (column : Nat) (ascending : Bool) :
    DecidableRel (RowsOrdered vercmp column ascending) :=
  fun _ _ => inferInstanceAs (Decidable (_ ≠ _))

theorem compareRows_transCmp (vercmp : String → String → Ordering) [Std.TransCmp vercmp]
    (column : Nat) (ascending : Bool) : Std.TransCmp (compareRows vercmp column ascending) := by
  let keyed (left right : KernelRowView) : Ordering :=
    if column = 2 then
      vercmp (versionSortKey left.versionText) (versionSortKey right.versionText)
    else compare (sortText left column) (sortText right column)
  have ordered : Std.TransCmp keyed := by
    by_cases version : column = 2
    · simp only [keyed, version, ↓reduceIte]
      exact Sorting.transCmp_key vercmp _
    · simp only [keyed, version, ↓reduceIte]
      exact Sorting.transCmp_key compare _
  cases ascending with
  | true => exact ordered
  | false => exact Sorting.transCmp_swap keyed

structure Consistent (app : App) : Prop where
  view : OneView app
  distinct : DistinctRaws app

theorem received_consistent (vercmp : String → String → Ordering) (app : App)
    (message : TableMessage) (consistent : Consistent app) :
    Consistent (step vercmp app message.received) := by
  have distinct : DistinctRaws (step vercmp app message.received) := by
    apply step_distinct vercmp app _ consistent.distinct
    cases message <;> trivial
  refine ⟨(step_oneView vercmp app _ consistent.view consistent.distinct).mpr ?_, distinct⟩
  cases message <;> trivial

theorem loaded_consistent (vercmp : String → String → Ordering) (app : App)
    (payload : CatalogPayload) (distinct : (payload.rows.map (·.raw)).Nodup) :
    Consistent (step vercmp app (.catalogLoaded payload)) := by
  refine ⟨?_, ?_⟩
  · exact (oneView_congr _ _ (catalogLoaded_view vercmp app payload)).mpr
      (loadCatalog_oneView vercmp app payload)
  · rw [DistinctRaws, (catalogLoaded_rows vercmp app payload).1]
    exact distinct

theorem runTable_consistent (vercmp : String → String → Ordering) (app : App)
    (messages : List TableMessage) (consistent : Consistent app) :
    Consistent (runTable vercmp app messages) := by
  induction messages generalizing app with
  | nil => exact consistent
  | cons message messages ih => exact ih _ (received_consistent vercmp app message consistent)

theorem toggledBy_toggle (raw : String) (messages : List TableMessage) (row : KernelRow) :
    (row.toggled raw).toggledBy messages =
      row.toggledBy (.kernelToggled raw :: messages) := by
  by_cases here : row.raw = raw
  · have flipped : row.toggled raw = { row with checked := !row.checked } := if_pos here
    have once := toggledTimes_succ (messages.count (.kernelToggled raw)) row
    have counted : (TableMessage.kernelToggled raw :: messages).count (.kernelToggled raw) =
        messages.count (.kernelToggled raw) + 1 := List.count_cons_self
    rw [flipped]
    subst here
    rw [KernelRow.toggledBy, KernelRow.toggledBy, counted]
    exact once
  · have kept : row.toggled raw = row := if_neg here
    have other : TableMessage.kernelToggled raw ≠ .kernelToggled row.raw := by
      rintro ⟨⟩
      exact here rfl
    simp [KernelRow.toggledBy, kept, List.count_cons_of_ne other]

theorem toggledBy_sort (column : Nat) (messages : List TableMessage) (row : KernelRow) :
    row.toggledBy (.sortRequested column :: messages) = row.toggledBy messages := by
  simp [KernelRow.toggledBy]

theorem toggledBy_filter (messages : List TableMessage) (row : KernelRow) :
    row.toggledBy (messages.filter (!·.sorts)) = row.toggledBy messages := by
  have counted := List.count_filter (p := (!TableMessage.sorts ·)) (l := messages)
    (a := .kernelToggled row.raw) rfl
  rw [KernelRow.toggledBy, counted, KernelRow.toggledBy]

theorem runTable_selection (vercmp : String → String → Ordering) (app : App)
    (messages : List TableMessage) (consistent : Consistent app) :
    (runTable vercmp app messages).state.selection.rows =
      app.state.selection.rows.map (·.toggledBy messages) := by
  induction messages generalizing app with
  | nil =>
      have kept : (fun row : KernelRow => row.toggledBy []) = id := by
        funext row
        simp [KernelRow.toggledBy]
      rw [kept, List.map_id]
      rfl
  | cons message messages ih =>
      have rest := ih _ (received_consistent vercmp app message consistent)
      refine rest.trans ?_
      cases message with
      | kernelToggled raw =>
          have toggled := kernelToggled_rowToggled vercmp app raw consistent.view
            consistent.distinct
          rw [TableMessage.received, toggled.selected, List.map_map]
          exact List.map_congr_left fun row _ => toggledBy_toggle raw messages row
      | sortRequested column =>
          rw [TableMessage.received, sortRequested_eq]
          exact List.map_congr_left fun row _ => (toggledBy_sort column messages row).symm

theorem received_context (vercmp : String → String → Ordering) (app : App)
    (message : TableMessage) :
    (step vercmp app message.received).kernels = app.kernels ∧
      (step vercmp app message.received).hardware = app.hardware ∧
        (step vercmp app message.received).flags = app.flags := by
  cases message with
  | kernelToggled raw =>
      simp only [TableMessage.received, step, update, Message.cancelsBuild, Bool.false_and,
        Bool.false_eq_true, ↓reduceIte, App.onSemantic]
      cases app.rows.findIdx? (·.raw = raw) <;> exact ⟨rfl, rfl, rfl⟩
  | sortRequested column =>
      rw [TableMessage.received, sortRequested_eq]
      exact ⟨rfl, rfl, rfl⟩

theorem runTable_context (vercmp : String → String → Ordering) (app : App)
    (messages : List TableMessage) :
    (runTable vercmp app messages).kernels = app.kernels ∧
      (runTable vercmp app messages).hardware = app.hardware ∧
        (runTable vercmp app messages).flags = app.flags := by
  induction messages generalizing app with
  | nil => exact ⟨rfl, rfl, rfl⟩
  | cons message messages ih =>
      obtain ⟨kernels, hardware, flags⟩ := received_context vercmp app message
      obtain ⟨laterKernels, laterHardware, laterFlags⟩ := ih (step vercmp app message.received)
      exact ⟨laterKernels.trans kernels, laterHardware.trans hardware, laterFlags.trans flags⟩

theorem recomputeSort_stable (vercmp : String → String → Ordering) [Std.TransCmp vercmp]
    (app : App) (view : OneView app) (displayed : List KernelRowView) :
    Sorting.IsStableSort (RowsOrdered vercmp app.sortColumn app.sortAscending) app.sortedRows
        displayed ↔
      displayed = (app.recomputeSort vercmp).sortedRows := by
  have := compareRows_transCmp vercmp app.sortColumn app.sortAscending
  have total : Std.Total (RowsOrdered vercmp app.sortColumn app.sortAscending) :=
    Sorting.total_of_cmp _
  have trans : IsTrans KernelRowView (RowsOrdered vercmp app.sortColumn app.sortAscending) :=
    Sorting.trans_of_cmp _
  have base : (if app.sortedRows.isEmpty then app.rows else app.sortedRows) = app.sortedRows := by
    split
    · rename_i empty
      have none := List.isEmpty_iff.mp empty
      rw [none]
      exact (none ▸ view.displayed).nil_eq.symm
    · rfl
  rw [Sorting.isStableSort_iff, App.recomputeSort, base]
  rfl

/-- Sorting changes the display only: the selection is as if no sort had been requested, each
row has been flipped once for each toggle that names it, and each sort shows the stable sort of
what was displayed before. -/
theorem sorting_keepsSelection (vercmp : String → String → Ordering) (app : App)
    (payload : CatalogPayload) (messages : List TableMessage)
    (distinct : (payload.rows.map (·.raw)).Nodup) :
    let loaded := step vercmp app (.catalogLoaded payload)
    let sorted := runTable vercmp loaded messages
    let unsorted := runTable vercmp loaded (messages.filter (!·.sorts))
    unsorted.state.selection.rows = sorted.state.selection.rows ∧
      unsorted.transactionTask = sorted.transactionTask ∧
      sorted.state.selection.rows =
        (payload.rows.map (App.kernelRow payload.installed)).map (·.toggledBy messages) ∧
      (Std.TransCmp vercmp → ∀ column,
        let next := step vercmp sorted (.sortRequested column)
        next.sortColumn = column ∧
          next.sortAscending =
            (if sorted.sortColumn = column then !sorted.sortAscending else true) ∧
          ∀ displayed,
            Sorting.IsStableSort (RowsOrdered vercmp column next.sortAscending) sorted.sortedRows
                displayed ↔
              displayed = next.sortedRows) := by
  intro loaded sorted unsorted
  have consistent := loaded_consistent vercmp app payload distinct
  have start := (catalogLoaded_rows vercmp app payload).2
  have selected := runTable_selection vercmp loaded messages consistent
  have selectedUnsorted := runTable_selection vercmp loaded (messages.filter (!·.sorts)) consistent
  have same : unsorted.state.selection.rows = sorted.state.selection.rows := by
    rw [selected, selectedUnsorted]
    exact List.map_congr_left fun row _ => toggledBy_filter messages row
  have sameSelection : unsorted.state.selection = sorted.state.selection :=
    congrArg SelectionState.mk same
  refine ⟨same, ?_, ?_, ?_⟩
  · obtain ⟨kernels, hardware, flags⟩ := runTable_context vercmp loaded messages
    obtain ⟨kernels', hardware', flags'⟩ :=
      runTable_context vercmp loaded (messages.filter (!·.sorts))
    simp only [App.transactionTask, Task.transaction.injEq, TransactionJob.mk.injEq]
    exact ⟨sameSelection, kernels'.trans kernels.symm, hardware'.trans hardware.symm,
      congrArg Flags.aurEnabled (flags'.trans flags.symm)⟩
  · rw [selected, start]
  · intro ordered column
    simp only [sortRequested_eq]
    refine ⟨rfl, rfl, ?_⟩
    have view := (runTable_consistent vercmp loaded messages consistent).view
    exact recomputeSort_stable vercmp (sorted.sortBy column) ⟨view.selected, view.displayed⟩

namespace Sample

def otherKernel : DiscoveredKernel where
  repo := "core"
  name := "linux"
  headers := "linux-headers"
  version := "6.13.2-1"
  companions := {}
  raw := "core/linux"

def twoKernels : CatalogPayload :=
  kernelCatalog [kernel, otherKernel] (installedFrom "cachyos") compare {}

def tableSession : List TableMessage :=
  [.sortRequested 2, .kernelToggled "core/linux", .sortRequested 2,
    .kernelToggled "cachyos/linux-cachyos", .sortRequested 1, .kernelToggled "core/linux"]

end Sample

theorem sorting_keepsSelection_tableSession :
    let loaded := step compare Sample.app (.catalogLoaded Sample.twoKernels)
    (runTable compare loaded Sample.tableSession).state.selection.rows =
        (Sample.twoKernels.rows.map (App.kernelRow Sample.twoKernels.installed)).map
          (·.toggledBy Sample.tableSession) ∧
      Sorting.IsStableSort (RowsOrdered compare 2 true)
        (runTable compare loaded Sample.tableSession).sortedRows
        (step compare (runTable compare loaded Sample.tableSession)
          (.sortRequested 2)).sortedRows := by
  obtain ⟨_, _, selected, sorts⟩ :=
    sorting_keepsSelection compare Sample.app Sample.twoKernels Sample.tableSession (by decide)
  obtain ⟨_, ascending, stable⟩ := sorts inferInstance 2
  refine ⟨selected, ?_⟩
  have sorted := (stable _).mpr rfl
  rw [ascending] at sorted
  exact sorted

end KernelManager
