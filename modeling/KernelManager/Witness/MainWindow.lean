import KernelManager.Library.Keyed
import KernelManager.Ui.App

/-! The main-window witness of the candidate against the reference tool, over the same corpus. -/

namespace KernelManager

structure MainWindowCorpus where
  kernels : List DiscoveredKernel := []
  installed : String → Option Provenance := fun _ => none
  /-- The rows to toggle, in this order, before the change list is built. -/
  toggles : List Nat := []
  stateFileExists : Bool := false
  transactionRunning : Bool := false

structure MainWindowReport where
  rows : List KernelRowView
  executeEnabled : Bool
  schedextVisible : Bool
  changeList : List String
  versionSortKeys : List String
  toggleAllowed : Bool
  deriving DecidableEq, Repr

namespace WitnessMainWindow

def executeEnabled (selection : SelectionState) (transactionInProgress : Bool) : Bool :=
  !transactionInProgress && !selection.changeList.isEmpty

def schedextVisible (stateFileExists : Bool) : Bool := stateFileExists

def toggleAllowed (rowIsLeaf hasFocus : Bool) : Bool := hasFocus && rowIsLeaf

def flip (row : KernelRowView) : KernelRowView := { row with checked := !row.checked }

def viewRows (vercmp : String → String → Ordering) (corpus : MainWindowCorpus) :
    List KernelRowView :=
  corpus.toggles.foldl (fun views row => views.modify row flip)
    (rows corpus.kernels corpus.installed vercmp)

/-- `main` of `cachyos-kernel-manager-mainwindow`. -/
def report (vercmp : String → String → Ordering) (corpus : MainWindowCorpus) :
    MainWindowReport :=
  let views := viewRows vercmp corpus
  let selection : SelectionState := { rows := views.map (App.kernelRow corpus.installed) }
  { rows := views
    executeEnabled := executeEnabled selection corpus.transactionRunning
    schedextVisible := schedextVisible corpus.stateFileExists
    changeList := selection.changeList
    versionSortKeys := views.map fun view => versionSortKey view.versionText
    toggleAllowed := toggleAllowed true true }

end WitnessMainWindow

namespace OracleMainWindow

def versionText (vercmp : String → String → Ordering) (kernel : DiscoveredKernel)
    (installedVersion : Option String) : String × Bool :=
  if kernel.repo = "aur" then ("unknown-version", false)
  else
    match installedVersion with
    | some localVersion =>
        match vercmp localVersion kernel.version with
        | .gt => ("∨" ++ localVersion, false)
        | .lt => ("∧" ++ kernel.version, true)
        | .eq => (kernel.version, false)
    | none => (kernel.version, false)

def needles : List (String × String) :=
  [("lto", "lto optimized"), ("lts", "longterm"), ("zen", "zen-kernel"),
    ("hardened", "hardened kernel"), ("deckify", "handheld kernel"),
    ("server", "server kernel"), ("next", "next release"), ("mainline", "mainline branch"),
    ("git", "master branch"), ("rc", "release candidate")]

def category (name : String) : String :=
  match needles.find? (fun entry => contains name entry.1) with
  | some (_, display) => display
  | none => "stable"

def immutable (corpus : MainWindowCorpus) (kernel : DiscoveredKernel) : Bool :=
  match corpus.installed kernel.name with
  | some (none, _) => true
  | some (some db, _) => decide (db = kernel.repo)
  | none => false

def checkedAfter (corpus : MainWindowCorpus) (index : Nat) (kernel : DiscoveredKernel) : Bool :=
  let checked := (corpus.installed kernel.name).isSome && immutable corpus kernel
  let toggled := corpus.toggles.countP (· = index) % 2 == 1
  checked != toggled

def viewRow (vercmp : String → String → Ordering) (corpus : MainWindowCorpus) (index : Nat)
    (kernel : DiscoveredKernel) : KernelRowView :=
  let (text, update) :=
    match corpus.installed kernel.name with
    | some (_, version) => versionText vercmp kernel (some version)
    | none => versionText vercmp kernel none
  { raw := kernel.raw
    versionText := text
    category := category kernel.name
    checked := checkedAfter corpus index kernel
    immutable := immutable corpus kernel
    updateAvailable := update }

/-- `build_change_list`, over the kernels and their final states. -/
def record (corpus : MainWindowCorpus) (list : List String) :
    DiscoveredKernel × Bool → List String
  | (kernel, checkedAfter) =>
      let immutable := immutable corpus kernel
      if immutable && !checkedAfter then list ++ [kernel.raw]
      else if immutable && checkedAfter then list.filter (· ≠ kernel.raw)
      else if checkedAfter then list ++ [kernel.raw]
      else list.filter (· ≠ kernel.raw)

def stripped (text : String) : String :=
  match stripStart text "∨" with
  | some rest => rest
  | none => (stripStart text "∧").getD text

/-- `main` of the reference tool. -/
def report (vercmp : String → String → Ordering) (corpus : MainWindowCorpus) :
    MainWindowReport :=
  let rows := corpus.kernels.mapIdx (viewRow vercmp corpus)
  let finalChecked := corpus.kernels.mapIdx (checkedAfter corpus)
  let changeList := (corpus.kernels.zip finalChecked).foldl (record corpus) []
  { rows := rows
    executeEnabled := !corpus.transactionRunning && !changeList.isEmpty
    schedextVisible := corpus.stateFileExists
    changeList := changeList
    versionSortKeys := rows.map fun row => stripped row.versionText
    toggleAllowed := true }

end OracleMainWindow

section Agreement

variable (vercmp : String → String → Ordering) (corpus : MainWindowCorpus)

theorem oracleVersionText_eq (kernel : DiscoveredKernel) (installed : Option String) :
    OracleMainWindow.versionText vercmp kernel installed =
      versionText kernel installed vercmp := by
  unfold OracleMainWindow.versionText versionText
  split
  · rfl
  · cases installed with
    | none => rfl
    | some localVersion =>
        simp only [DisplayVersion.compute]
        cases vercmp localVersion kernel.version <;> rfl

theorem oracleCategory_eq (name : String) :
    OracleMainWindow.category name = (classifyCategory name).display := by
  have table : OracleMainWindow.needles =
      categoryNeedles.map fun entry => (entry.1, entry.2.display) := by decide
  rw [OracleMainWindow.category, table, List.find?_map, classifyCategory]
  simp only [Function.comp_def]
  cases categoryNeedles.find? fun entry => contains name entry.1 <;> rfl

theorem oracleStripped_eq (text : String) :
    OracleMainWindow.stripped text = versionSortKey text := by
  have down : ("∨" : String).toList = [downgradeMarker] := by decide
  have up : ("∧" : String).toList = [updateMarker] := by decide
  simp only [OracleMainWindow.stripped, stripStart, versionSortKey, down, up]
  cases text.toList with
  | nil => rfl
  | cons symbol rest =>
      by_cases first : symbol = downgradeMarker
      · simp [Lines.strip, first]
      · by_cases second : symbol = updateMarker
        · simp [Lines.strip, second, downgradeMarker, updateMarker]
        · simp [Lines.strip, first, second, Ne.symm first, Ne.symm second]

theorem flip_iterate (times : Nat) (row : KernelRowView) :
    WitnessMainWindow.flip^[times] row =
      { row with checked := row.checked != (times % 2 == 1) } := by
  induction times generalizing row with
  | zero => simp
  | succ times ih =>
      rw [Function.iterate_succ_apply, ih]
      rcases Nat.mod_two_eq_zero_or_one times with even | odd
      · simp [WitnessMainWindow.flip, Nat.add_mod, even]
      · simp [WitnessMainWindow.flip, Nat.add_mod, odd]

theorem viewRow_eq (index : Nat) (kernel : DiscoveredKernel) :
    WitnessMainWindow.flip^[corpus.toggles.countP (· = index)]
        (rowView corpus.installed vercmp kernel) =
      OracleMainWindow.viewRow vercmp corpus index kernel := by
  rw [flip_iterate]
  simp only [rowView, OracleMainWindow.viewRow, OracleMainWindow.checkedAfter,
    OracleMainWindow.immutable, oracleVersionText_eq, oracleCategory_eq]
  rcases corpus.installed kernel.name with _ | ⟨_ | db, version⟩ <;> rfl

theorem viewRows_eq :
    WitnessMainWindow.viewRows vercmp corpus =
      corpus.kernels.mapIdx (OracleMainWindow.viewRow vercmp corpus) := by
  rw [WitnessMainWindow.viewRows, Keyed.foldl_modify, rows]
  apply List.ext_getElem
  · simp
  · intro index _ _
    simp only [List.getElem_mapIdx, List.getElem_map]
    exact viewRow_eq vercmp corpus index _

theorem record_eq_oracle (list : List String) (index : Nat) (kernel : DiscoveredKernel) :
    KernelRow.record list
        (App.kernelRow corpus.installed (OracleMainWindow.viewRow vercmp corpus index kernel)) =
      OracleMainWindow.record corpus list
        (kernel, OracleMainWindow.checkedAfter corpus index kernel) := by
  have raw : (OracleMainWindow.viewRow vercmp corpus index kernel).raw = kernel.raw := rfl
  have locked : (OracleMainWindow.viewRow vercmp corpus index kernel).immutable =
      OracleMainWindow.immutable corpus kernel := rfl
  have checked : (OracleMainWindow.viewRow vercmp corpus index kernel).checked =
      OracleMainWindow.checkedAfter corpus index kernel := rfl
  simp only [KernelRow.record, App.kernelRow, OracleMainWindow.record, raw, locked, checked]
  rcases Bool.eq_false_or_eq_true (OracleMainWindow.immutable corpus kernel) with first | first <;>
    rcases Bool.eq_false_or_eq_true (OracleMainWindow.checkedAfter corpus index kernel) with
      second | second <;>
    rw [first, second] <;> rfl

theorem changeList_eq_oracle (kernels : List DiscoveredKernel) :
    SelectionState.changeList
        { rows := (kernels.mapIdx (OracleMainWindow.viewRow vercmp corpus)).map
            (App.kernelRow corpus.installed) } =
      (kernels.zip (kernels.mapIdx (OracleMainWindow.checkedAfter corpus))).foldl
        (OracleMainWindow.record corpus) [] := by
  have numbered : kernels = kernels.zipIdx.map Prod.fst := List.zipIdx_map_fst 0 kernels |>.symm
  rw [SelectionState.changeList, List.mapIdx_eq_zipIdx_map, List.mapIdx_eq_zipIdx_map]
  nth_rewrite 2 [numbered]
  rw [List.zip_map', List.map_map, List.foldl_map, List.foldl_map]
  congr 1
  funext list entry
  exact record_eq_oracle vercmp corpus list entry.2 entry.1

/-- The candidate prints the payload of the reference for every corpus, whatever it toggles and
however versions compare. -/
theorem mainWindowReport_eq :
    WitnessMainWindow.report vercmp corpus = OracleMainWindow.report vercmp corpus := by
  have keys : (fun row : KernelRowView => OracleMainWindow.stripped row.versionText) =
      fun row => versionSortKey row.versionText := funext fun row => oracleStripped_eq _
  simp only [WitnessMainWindow.report, OracleMainWindow.report, viewRows_eq,
    changeList_eq_oracle, WitnessMainWindow.executeEnabled, WitnessMainWindow.schedextVisible,
    WitnessMainWindow.toggleAllowed, keys, Bool.and_self]

end Agreement

end KernelManager
