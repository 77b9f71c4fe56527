import KernelManager.Ui.Sorting

/-! The change list of a loaded catalog is the list of the rows that the user has changed. -/

namespace KernelManager

def loadedSelection (kernels : List DiscoveredKernel) (installed : String → Option Provenance)
    (vercmp : String → String → Ordering) (provenance : String → Option Provenance) :
    SelectionState where
  rows := (rows kernels installed vercmp).map (App.kernelRow provenance)

namespace SelectionState

def raws (selection : SelectionState) : List String := selection.rows.map (·.raw)

def toggleAll (selection : SelectionState) (toggles : List Nat) : SelectionState :=
  Machine.run toggleRow selection toggles

def timesToggled (selection : SelectionState) (toggles : List Nat) (raw : String) : Nat :=
  toggles.countP fun index => selection.raws[index]? = some raw

def ListsChanges (selection : SelectionState) (indexes : List Nat) : Prop :=
  indexes.Nodup ∧
    ∀ index, index ∈ indexes ↔
      ∃ raw ∈ selection.changeList, selection.raws[index]? = some raw

end SelectionState

theorem loaded_raws (kernels : List DiscoveredKernel) (installed : String → Option Provenance)
    (vercmp : String → String → Ordering) (provenance : String → Option Provenance) :
    (loadedSelection kernels installed vercmp provenance).raws = kernels.map (·.raw) := by
  simp only [SelectionState.raws, loadedSelection, rows, List.map_map]
  exact List.map_congr_left fun _ _ => rfl

theorem loaded_unchanged (kernels : List DiscoveredKernel)
    (installed : String → Option Provenance) (vercmp : String → String → Ordering)
    (provenance : String → Option Provenance) :
    ∀ row ∈ (loadedSelection kernels installed vercmp provenance).rows, ¬row.Changed := by
  intro row member
  simp only [loadedSelection, rows, List.map_map, List.mem_map] at member
  obtain ⟨kernel, _, rfl⟩ := member
  exact not_not.mpr (rowView_unchanged installed vercmp kernel)

theorem toggleRow_raws (selection : SelectionState) (index : Nat) :
    (toggleRow selection index).raws = selection.raws :=
  Keyed.modify_keys selection.rows KernelRow.raw _ index fun _ => rfl

theorem hit_iff (selection : SelectionState) (position : Nat) (raw : String)
    (distinct : selection.raws.Nodup) (found : selection.raws[position]? = some raw)
    (index : Nat) : selection.raws[index]? = some raw ↔ index = position := by
  constructor
  · intro hit
    have inside : position < selection.raws.length := (List.getElem?_eq_some_iff.mp found).1
    exact ((List.getElem?_inj inside distinct).mp (found.trans hit.symm)).symm
  · rintro rfl
    exact found

theorem toggleRow_rows (selection : SelectionState) (index : Nat)
    (distinct : selection.raws.Nodup) :
    (toggleRow selection index).rows =
      selection.rows.map fun row =>
        row.toggledTimes (selection.timesToggled [index] row.raw) := by
  have once : ∀ row : KernelRow, selection.timesToggled [index] row.raw =
      if selection.raws[index]? = some row.raw then 1 else 0 := by
    intro row
    by_cases here : selection.raws[index]? = some row.raw <;>
      simp [SelectionState.timesToggled, here]
  simp only [once]
  apply List.ext_getElem
  · simp [toggleRow]
  · intro position bound _
    simp only [toggleRow, List.length_modify] at bound
    simp only [toggleRow, List.getElem_modify, List.getElem_map]
    have raw : selection.raws[position]? = some selection.rows[position].raw := by
      simp [SelectionState.raws, bound]
    have same := hit_iff selection position _ distinct raw index
    by_cases here : index = position
    · rw [if_pos here, if_pos (same.mpr here)]
      simp [KernelRow.toggledTimes]
    · rw [if_neg here, if_neg (mt same.mp here)]
      simp [KernelRow.toggledTimes]

theorem toggledTimes_add (first second : Nat) (row : KernelRow) :
    (row.toggledTimes first).toggledTimes second = row.toggledTimes (first + second) := by
  induction first generalizing row with
  | zero => simp [KernelRow.toggledTimes]
  | succ first ih =>
      rw [← toggledTimes_succ, ih, Nat.add_right_comm, ← toggledTimes_succ]

theorem timesToggled_append (selection : SelectionState) (first second : List Nat)
    (raw : String) :
    selection.timesToggled (first ++ second) raw =
      selection.timesToggled first raw + selection.timesToggled second raw :=
  List.countP_append

theorem timesToggled_congr (left right : SelectionState) (same : left.raws = right.raws) :
    left.timesToggled = right.timesToggled := by
  unfold SelectionState.timesToggled
  rw [same]

theorem toggleAll_rows (selection : SelectionState) (toggles : List Nat)
    (distinct : selection.raws.Nodup) :
    (selection.toggleAll toggles).raws = selection.raws ∧
      (selection.toggleAll toggles).rows =
        selection.rows.map fun row =>
          row.toggledTimes (selection.timesToggled toggles row.raw) := by
  induction toggles generalizing selection with
  | nil =>
      refine ⟨rfl, ?_⟩
      have kept : (fun row : KernelRow => row.toggledTimes (selection.timesToggled [] row.raw)) =
          id := by
        funext row
        simp [KernelRow.toggledTimes, SelectionState.timesToggled]
      rw [kept, List.map_id]
      rfl
  | cons index toggles ih =>
      have raws := toggleRow_raws selection index
      obtain ⟨laterRaws, laterRows⟩ := ih (toggleRow selection index) (raws ▸ distinct)
      refine ⟨laterRaws.trans raws, laterRows.trans ?_⟩
      rw [toggleRow_rows selection index distinct, List.map_map,
        timesToggled_congr _ selection raws]
      refine List.map_congr_left fun row _ => ?_
      have split := timesToggled_append selection [index] toggles row.raw
      rw [List.singleton_append] at split
      rw [split, ← toggledTimes_add]
      rfl

theorem toggleAll_changeList (selection : SelectionState) (toggles : List Nat)
    (distinct : selection.raws.Nodup) (unchanged : ∀ row ∈ selection.rows, ¬row.Changed) :
    (selection.toggleAll toggles).changeList =
      selection.raws.filter fun raw => selection.timesToggled toggles raw % 2 = 1 := by
  obtain ⟨raws, toggled⟩ := toggleAll_rows selection toggles distinct
  rw [changeList_eq _ (raws.symm ▸ distinct : (selection.toggleAll toggles).raws.Nodup), toggled,
    List.filter_map, List.map_map, SelectionState.raws, List.filter_map]
  have odd : ∀ row ∈ selection.rows,
      (decide (row.toggledTimes (selection.timesToggled toggles row.raw)).Changed) =
        decide (selection.timesToggled toggles row.raw % 2 = 1) := by
    intro row member
    exact decide_eq_decide.mpr (toggledTimes_changed _ row (unchanged row member))
  exact congrArg (List.map KernelRow.raw) (List.filter_congr odd)

theorem timesToggled_again (selection : SelectionState) (toggles again : List Nat)
    (distinct : selection.raws.Nodup) (unchanged : ∀ row ∈ selection.rows, ¬row.Changed)
    (changes : (selection.toggleAll toggles).ListsChanges again) (raw : String)
    (listed : raw ∈ selection.raws) :
    selection.timesToggled (toggles ++ again) raw % 2 = 0 := by
  obtain ⟨once, named⟩ := changes
  obtain ⟨raws, _⟩ := toggleAll_rows selection toggles distinct
  rw [raws, toggleAll_changeList selection toggles distinct unchanged] at named
  obtain ⟨position, found⟩ := List.mem_iff_getElem?.mp listed
  have counted : selection.timesToggled again raw = again.count position := by
    simp only [SelectionState.timesToggled, hit_iff selection position raw distinct found,
      List.count]
    rfl
  have changed : position ∈ again ↔ selection.timesToggled toggles raw % 2 = 1 := by
    rw [named position, found]
    simp [listed]
  rw [timesToggled_append, counted]
  by_cases member : position ∈ again
  · rw [List.count_eq_one_of_mem once member]
    have odd := changed.mp member
    omega
  · rw [List.count_eq_zero_of_not_mem member]
    have even := mt changed.mpr member
    omega

theorem phases_sublist (selection : SelectionState) :
    selection.installSet.Sublist selection.changeList ∧
      selection.removalSet.Sublist selection.changeList :=
  ⟨List.filter_sublist, List.filter_sublist⟩

theorem phases_cover (selection : SelectionState) (raw : String)
    (member : raw ∈ selection.changeList) :
    raw ∈ selection.installSet ∨ raw ∈ selection.removalSet := by
  obtain ⟨last, found, _⟩ := (mem_changeList_iff selection raw).mp member
  have listed : last ∈ selection.rows := List.mem_reverse.mp (List.mem_of_find?_eq_some found)
  have named : last.raw = raw := by simpa using List.find?_some found
  cases first : selection.rows.find? (·.raw = raw) with
  | none =>
      have missing := List.find?_eq_none.mp first last listed
      simp [named] at missing
  | some row =>
      have rowListed := List.mem_of_find?_eq_some first
      have rowNamed : row.raw = raw := by simpa using List.find?_some first
      by_cases installed : row.installed = true
      · right
        exact (mem_removalSet_iff selection raw).mpr ⟨member, row, rowListed, rowNamed, installed⟩
      · left
        simp [SelectionState.installSet, member, first, installed]

/-- Before any toggle nothing is on the change list; afterwards it holds, in the order of the
rows, what was toggled an odd number of times, and toggling that once more empties it. -/
theorem changeList_toggled (kernels : List DiscoveredKernel)
    (installed : String → Option Provenance) (vercmp : String → String → Ordering)
    (provenance : String → Option Provenance) (distinct : (kernels.map (·.raw)).Nodup)
    (toggles : List Nat) :
    let loaded := loadedSelection kernels installed vercmp provenance
    let toggled := loaded.toggleAll toggles
    loaded.changeList = [] ∧
      toggled.changeList =
        (kernels.map (·.raw)).filter (fun raw => loaded.timesToggled toggles raw % 2 = 1) ∧
      toggled.installSet.Sublist toggled.changeList ∧
      toggled.removalSet.Sublist toggled.changeList ∧
      (∀ raw, raw ∈ toggled.changeList ↔ raw ∈ toggled.installSet ∨ raw ∈ toggled.removalSet) ∧
      ∀ again, toggled.ListsChanges again →
        let restored := toggled.toggleAll again
        restored.changeList = [] ∧ restored.installSet = [] ∧ restored.removalSet = [] := by
  intro loaded toggled
  have raws : loaded.raws = kernels.map (·.raw) := loaded_raws kernels installed vercmp provenance
  have apart : loaded.raws.Nodup := raws ▸ distinct
  have unchanged := loaded_unchanged kernels installed vercmp provenance
  obtain ⟨installs, removes⟩ := phases_sublist toggled
  refine ⟨?_, ?_, installs, removes, ?_, ?_⟩
  · have untouched := toggleAll_changeList loaded [] apart unchanged
    have nothing : (loaded.raws.filter fun raw => loaded.timesToggled [] raw % 2 = 1) = [] := by
      simp [SelectionState.timesToggled]
    exact untouched.trans nothing
  · rw [← raws]
    exact toggleAll_changeList loaded toggles apart unchanged
  · intro raw
    constructor
    · exact phases_cover toggled raw
    · rintro (install | remove)
      · exact installs.subset install
      · exact removes.subset remove
  · intro again changes restored
    have whole : restored = loaded.toggleAll (toggles ++ again) :=
      (List.foldl_append (f := toggleRow)).symm
    have empty : restored.changeList = [] := by
      rw [whole, toggleAll_changeList loaded (toggles ++ again) apart unchanged,
        List.filter_eq_nil_iff]
      intro raw listed
      have even := timesToggled_again loaded toggles again apart unchanged changes raw listed
      simp [even]
    obtain ⟨noInstalls, noRemoves⟩ := phases_sublist restored
    rw [empty] at noInstalls noRemoves
    exact ⟨empty, List.sublist_nil.mp noInstalls, List.sublist_nil.mp noRemoves⟩

namespace Sample

def loadedKernels : SelectionState :=
  loadedSelection [kernel, otherKernel] (installedFrom "cachyos") compare (installedFrom "cachyos")

end Sample

theorem changeList_toggled_twoKernels :
    Sample.loadedKernels.changeList = [] ∧
      (Sample.loadedKernels.toggleAll [1, 0, 1]).changeList =
        ([Sample.kernel, Sample.otherKernel].map (·.raw)).filter fun raw =>
          Sample.loadedKernels.timesToggled [1, 0, 1] raw % 2 = 1 := by
  obtain ⟨before, after, _⟩ := changeList_toggled [Sample.kernel, Sample.otherKernel]
    (Sample.installedFrom "cachyos") compare (Sample.installedFrom "cachyos") (by decide) [1, 0, 1]
  exact ⟨before, after⟩

end KernelManager
