import KernelManager.Library.Keyed
import KernelManager.Plan.Transaction
import KernelManager.Ui.Controls

/-! Whether a row the user keeps checked can be scheduled for removal. -/

namespace KernelManager

def FirstChanged (rows : List KernelRow) : Prop :=
  rows.Pairwise fun earlier later => earlier.raw = later.raw → ¬later.Changed

theorem checkedOnce_removal (selection : SelectionState) (row : KernelRow)
    (member : row ∈ selection.rows) (once : (selection.rows.map (·.raw)).count row.raw = 1)
    (checked : row.checked = true) (removed : row.raw ∈ selection.removalSet) :
    row.installed = true ∧ row.immutable = false := by
  obtain ⟨listed, installedRow, installedMember, installedRaw, installed⟩ :=
    (mem_removalSet_iff selection row.raw).mp removed
  obtain ⟨last, found, changed⟩ := (mem_changeList_iff selection row.raw).mp listed
  have lastMember : last ∈ selection.rows := by
    simpa using List.mem_of_find?_eq_some found
  have lastRaw : last.raw = row.raw := by simpa using List.find?_some found
  obtain rfl := Keyed.eq_of_count_one selection.rows KernelRow.raw row last member once lastMember
    lastRaw
  obtain rfl := Keyed.eq_of_count_one selection.rows KernelRow.raw last installedRow member once
    installedMember installedRaw
  refine ⟨installed, ?_⟩
  simpa [KernelRow.Changed, checked] using changed

theorem changed_once (rows : List KernelRow) (first : FirstChanged rows) (raw : String)
    (listed : raw ∈ (SelectionState.mk rows).changeList) :
    (rows.map (·.raw)).count raw = 1 := by
  obtain ⟨last, found, changed⟩ := (mem_changeList_iff ⟨rows⟩ raw).mp listed
  obtain ⟨matched, front, back, split, unmatched⟩ := List.find?_eq_some_iff_append.mp found
  have lastRaw : last.raw = raw := by simpa using matched
  have rowsEq : rows = back.reverse ++ last :: front.reverse := by
    have reversed := congrArg List.reverse split
    simpa using reversed
  have noneAfter : ∀ later ∈ front.reverse, later.raw ≠ raw := by
    intro later member
    simpa using unmatched later (by simpa using member)
  -- The last row decides, and it has changed: an earlier twin would contradict `first`.
  have noneBefore : ∀ earlier ∈ back.reverse, earlier.raw ≠ raw := by
    intro earlier member same
    rw [rowsEq] at first
    have apart := (List.pairwise_append.mp first).2.2 earlier member last (by simp)
    exact apart (same.trans lastRaw.symm) changed
  have countBefore : (back.reverse.map (·.raw)).count raw = 0 := by
    rw [List.count_eq_zero]
    intro listed
    obtain ⟨earlier, member, same⟩ := List.mem_map.mp listed
    exact noneBefore earlier member same
  have countAfter : (front.reverse.map (·.raw)).count raw = 0 := by
    rw [List.count_eq_zero]
    intro listed
    obtain ⟨later, member, same⟩ := List.mem_map.mp listed
    exact noneAfter later member same
  rw [rowsEq, List.map_append, List.map_cons, List.count_append, List.count_cons, countBefore,
    countAfter, lastRaw]
  simp

theorem toggleRow_firstChanged (rows : List KernelRow) (first : FirstChanged rows)
    (raw : String) (index : Nat) (found : rows.findIdx? (·.raw = raw) = some index) :
    FirstChanged (toggleRow ⟨rows⟩ index).rows := by
  obtain ⟨bound, here, before⟩ := List.findIdx?_eq_some_iff_getElem.mp found
  simp only [decide_eq_true_eq] at here before
  simp only [FirstChanged, toggleRow, List.pairwise_iff_getElem] at first ⊢
  intro earlier later earlierBound laterBound ordered same
  simp only [List.length_modify] at earlierBound laterBound
  simp only [List.getElem_modify] at same ⊢
  have apart := first earlier later earlierBound laterBound ordered
  have rawKept : ∀ position (bound : position < rows.length),
      (if index = position then { rows[position] with checked := !rows[position].checked }
        else rows[position]).raw = rows[position].raw := by
    intro position bound
    split <;> rfl
  rw [rawKept earlier earlierBound, rawKept later laterBound] at same
  -- The toggled row is the first of its identity, so it is never the later one of a pair.
  by_cases toggled : index = later
  · subst toggled
    exact absurd (same.trans here) (before earlier ordered)
  · simpa [toggled] using apart same

/-- The displayed rows and the selection list the same identities, of which only the first
row may have been changed. -/
structure ToggleInvariant (app : App) : Prop where
  aligned : app.rows.map (·.raw) = app.state.selection.rows.map (·.raw)
  first : FirstChanged app.state.selection.rows

def KernelRow.InstalledElsewhere (row : KernelRow) : Prop :=
  row.installed = true ∧ row.immutable = false

instance (row : KernelRow) : Decidable row.InstalledElsewhere :=
  inferInstanceAs (Decidable (_ ∧ _))

/-- The row is not scheduled for removal, and no plan removes a package on its account. -/
def KeptByPlan (selection : SelectionState) (row : KernelRow) : Prop :=
  row.raw ∉ selection.removalSet ∧
    ∀ hardware kernels, ∃ plan,
      TransactionPlan.fromSelection selection hardware kernels = some plan ∧
      plan.remove =
        ((selection.removalSet.filter (· ≠ row.raw)).filterMap kernels).flatMap
          (removal hardware)

theorem projectChecked_raws (app : App) (row : Nat) (raw : String) :
    (app.projectChecked row raw).rows.map (·.raw) = app.rows.map (·.raw) := by
  unfold App.projectChecked
  cases app.state.selection.rows[row]? with
  | none => rfl
  | some core => exact Keyed.modify_keys app.rows _ _ row fun _ => rfl

theorem toggleInvariant_step (vercmp : String → String → Ordering) (app : App) (raw : String)
    (invariant : ToggleInvariant app) :
    ToggleInvariant (step vercmp app (.semantic (.kernelToggled raw))) := by
  simp only [step, update, Message.cancelsBuild, Bool.false_and, Bool.false_eq_true, ↓reduceIte,
    App.onSemantic]
  cases found : app.rows.findIdx? (·.raw = raw) with
  | none => exact invariant
  | some row =>
      have foundRow : app.state.selection.rows.findIdx? (·.raw = raw) = some row := by
        rw [Keyed.findIdx?_key _ KernelRowView.raw] at found
        rw [Keyed.findIdx?_key _ KernelRow.raw, ← invariant.aligned]
        exact found
      have toggledRaws :
          (toggleRow app.state.selection row).rows.map (·.raw) =
            app.state.selection.rows.map (·.raw) :=
        Keyed.modify_keys app.state.selection.rows _ _ row fun _ => rfl
      refine ⟨?_, ?_⟩
      · calc
          _ = (App.projectChecked (app.onEvent (.kernelToggled row)).1 row raw).rows.map
              (·.raw) := rfl
          _ = app.rows.map (·.raw) := projectChecked_raws _ row raw
          _ = app.state.selection.rows.map (·.raw) := invariant.aligned
          _ = _ := toggledRaws.symm
      · exact toggleRow_firstChanged app.state.selection.rows invariant.first raw row foundRow

def kernelCatalog (kernels : List DiscoveredKernel) (installed : String → Option Provenance)
    (versions : String → String → Ordering) (hardware : HardwareProfile) : CatalogPayload where
  rows := rows kernels installed versions
  kernels := kernelsByRaw kernels
  installed := installed
  hardware := hardware

theorem catalogLoaded_field {Field : Type*} (field : App → Field)
    (dialogs : ∀ app dialogs, field (app.setDialogs dialogs) = field app)
    (vercmp : String → String → Ordering) (app : App) (payload : CatalogPayload) :
    field (step vercmp app (.catalogLoaded payload)) =
      field
        { app.loadCatalog vercmp payload with
          state := (transition (app.loadCatalog vercmp payload).state .discoveryFinished).1 } := by
  have hidden : ∀ loaded : App,
      field (if loaded.state.dialogs.isProgress then loaded.setDialogs .none else loaded) =
        field loaded := by
    intro loaded
    split
    · exact dialogs _ _
    · rfl
  simp only [step, update]
  split
  · exact (dialogs _ _).trans (hidden _)
  · exact hidden _

theorem catalogLoaded_rows (vercmp : String → String → Ordering) (app : App)
    (payload : CatalogPayload) :
    (step vercmp app (.catalogLoaded payload)).rows = payload.rows ∧
      (step vercmp app (.catalogLoaded payload)).state.selection.rows =
        payload.rows.map (App.kernelRow payload.installed) :=
  ⟨catalogLoaded_field App.rows (fun _ _ => rfl) vercmp app payload,
    catalogLoaded_field (·.state.selection.rows) (fun _ _ => rfl) vercmp app payload⟩

theorem loaded_toggleInvariant (vercmp versions : String → String → Ordering) (app : App)
    (kernels : List DiscoveredKernel) (installed : String → Option Provenance)
    (hardware : HardwareProfile) :
    ToggleInvariant
      (step vercmp app (.catalogLoaded (kernelCatalog kernels installed versions hardware))) := by
  obtain ⟨shown, selected⟩ :=
    catalogLoaded_rows vercmp app (kernelCatalog kernels installed versions hardware)
  refine ⟨?_, ?_⟩
  · rw [shown, selected, List.map_map]
    rfl
  · rw [FirstChanged, selected]
    apply List.pairwise_of_forall_mem_list
    intro earlier _ later member _ changed
    simp only [kernelCatalog, rows, List.map_map, List.mem_map] at member
    obtain ⟨kernel, _, rfl⟩ := member
    exact changed (rowView_unchanged installed versions kernel)

theorem run_toggleInvariant (vercmp : String → String → Ordering) (app : App)
    (toggles : List String) (invariant : ToggleInvariant app) :
    ToggleInvariant (Machine.run (step vercmp) app
      (toggles.map fun raw => .semantic (.kernelToggled raw))) := by
  induction toggles generalizing app with
  | nil => exact invariant
  | cons raw toggles ih => exact ih _ (toggleInvariant_step vercmp app raw invariant)

theorem keptByPlan (selection : SelectionState) (row : KernelRow)
    (kept : row.raw ∉ selection.removalSet) : KeptByPlan selection row := by
  refine ⟨kept, fun hardware kernels => ⟨_, TransactionPlan.fromSelection_eq _ _ _, ?_⟩⟩
  have untouched : selection.removalSet.filter (· ≠ row.raw) = selection.removalSet := by
    rw [List.filter_eq_self]
    intro raw member
    simpa using ne_of_mem_of_not_mem member kept
  rw [untouched]

/-- A kernel that stays checked is not removed on its row's account, unless it is installed
from another repository. -/
theorem checkedRow_kept (vercmp versions : String → String → Ordering) (app : App)
    (kernels : List DiscoveredKernel) (installed : String → Option Provenance)
    (hardware : HardwareProfile) :
    let loaded :=
      step vercmp app (.catalogLoaded (kernelCatalog kernels installed versions hardware))
    (∀ toggles : List String,
      let selection := (Machine.run (step vercmp) loaded
        (toggles.map fun raw => .semantic (.kernelToggled raw))).state.selection
      ∀ row ∈ selection.rows, row.checked = true → ¬row.InstalledElsewhere →
        KeptByPlan selection row) ∧
    ∀ toggles : List Nat,
      let selection := toggles.foldl toggleRow loaded.state.selection
      ∀ row ∈ selection.rows, (selection.rows.map (·.raw)).count row.raw = 1 →
        row.checked = true → ¬row.InstalledElsewhere → KeptByPlan selection row := by
  intro loaded
  refine ⟨?_, ?_⟩
  · intro toggles selection row member checked here
    have invariant := run_toggleInvariant vercmp loaded toggles
      (loaded_toggleInvariant vercmp versions app kernels installed hardware)
    apply keptByPlan
    intro removed
    have listed := ((mem_removalSet_iff selection row.raw).mp removed).1
    have once := changed_once selection.rows invariant.first row.raw listed
    exact here (checkedOnce_removal selection row member once checked removed)
  · intro toggles selection row member once checked here
    apply keptByPlan
    intro removed
    exact here (checkedOnce_removal selection row member once checked removed)

namespace Sample

def installedFrom (repo : String) (name : String) : Option Provenance :=
  if name = "linux-cachyos" then some (some repo, "6.14.1-1") else none

def loaded (kernels : List DiscoveredKernel) (repo : String) : App :=
  step vercmp app (.catalogLoaded (kernelCatalog kernels (installedFrom repo) vercmp {}))

def checkedElsewhere : SelectionState :=
  (Machine.run (step vercmp) (loaded [kernel] "core")
    [.semantic (.kernelToggled "cachyos/linux-cachyos")]).state.selection

def uncheckedTwin : SelectionState :=
  toggleRow (loaded [kernel, kernel] "cachyos").state.selection 1

end Sample

/-- A checked row installed from another repository is removed; and where a kernel is listed
twice, so is a row whose twin is unchecked. -/
theorem checkedRow_removed :
    (¬∀ (vercmp versions : String → String → Ordering) (app : App)
      (kernels : List DiscoveredKernel) (installed : String → Option Provenance)
      (hardware : HardwareProfile) (toggles : List String),
      let selection := (Machine.run (step vercmp)
        (step vercmp app (.catalogLoaded (kernelCatalog kernels installed versions hardware)))
        (toggles.map fun raw => .semantic (.kernelToggled raw))).state.selection
      ∀ row ∈ selection.rows, row.checked = true → row.raw ∉ selection.removalSet) ∧
    ¬∀ (vercmp versions : String → String → Ordering) (app : App)
      (kernels : List DiscoveredKernel) (installed : String → Option Provenance)
      (hardware : HardwareProfile) (toggles : List Nat),
      let selection := toggles.foldl toggleRow (step vercmp app
        (.catalogLoaded (kernelCatalog kernels installed versions hardware))).state.selection
      ∀ row ∈ selection.rows, row.checked = true → ¬row.InstalledElsewhere →
        row.raw ∉ selection.removalSet := by
  constructor
  · intro kept
    have missing : ∀ row ∈ Sample.checkedElsewhere.rows, row.checked = true →
        row.raw ∉ Sample.checkedElsewhere.removalSet :=
      kept Sample.vercmp Sample.vercmp Sample.app [Sample.kernel] (Sample.installedFrom "core") {}
        ["cachyos/linux-cachyos"]
    revert missing
    decide
  · intro kept
    have missing : ∀ row ∈ Sample.uncheckedTwin.rows, row.checked = true →
        ¬row.InstalledElsewhere → row.raw ∉ Sample.uncheckedTwin.removalSet :=
      kept Sample.vercmp Sample.vercmp Sample.app [Sample.kernel, Sample.kernel]
        (Sample.installedFrom "cachyos") {} [1]
    revert missing
    decide

end KernelManager
