import KernelManager.Library.Machine
import KernelManager.Ui.ConfigureWindow

/-!
The variant-switch and Configure-window witnesses of the candidate against their reference
tools. The references hold texts where the candidate holds enumerations.
-/

namespace KernelManager

structure OracleControls where
  ltoItems : List String := ["none", "full", "thin", "thin-dist"]
  ltoSelected : String := "thin"
  preemptItems : List String := ["full", "lazy"]
  preemptSelected : String := "full"
  hzSelected : String := "1000"
  cachyConfigChecked : Bool := true
  zfsChecked : Bool := false
  zfsEnabled : Bool := true
  deriving DecidableEq, Repr

/-- The handler of the variant combo: items are added and taken away by their number. -/
def OracleControls.switchTo (controls : OracleControls) (variant : String) : OracleControls :=
  let hasThinDist : Bool := variant ≠ "lts" && variant ≠ "hardened"
  let hasExtended : Bool := variant = "hardened" || variant = "lts"
  { ltoItems :=
      if hasThinDist && controls.ltoItems.length = 3 then controls.ltoItems ++ ["thin-dist"]
      else if !hasThinDist && controls.ltoItems.length = 4 then controls.ltoItems.dropLast
      else controls.ltoItems
    ltoSelected := if variant = "cachyos" || variant = "rc" then "thin" else "none"
    preemptItems :=
      if hasExtended && controls.preemptItems.length = 2 then
        controls.preemptItems ++ ["voluntary"] ++ ["none"]
      else if !hasExtended && controls.preemptItems.length = 4 then
        controls.preemptItems.dropLast.dropLast
      else controls.preemptItems
    preemptSelected := if variant = "server" then "lazy" else "full"
    hzSelected := if variant = "server" then "300" else "1000"
    cachyConfigChecked := variant ≠ "server"
    zfsChecked := if variant = "rt" then false else controls.zfsChecked
    zfsEnabled := variant ≠ "rt" }

def VariantSwitchState.printed (controls : VariantSwitchState) : OracleControls where
  ltoItems := controls.ltoItems.map LtoMode.value
  ltoSelected := controls.ltoSelected.value
  preemptItems := controls.preemptItems.map PreemptMode.value
  preemptSelected := controls.preemptSelected.value
  hzSelected := controls.hzSelected.value
  cachyConfigChecked := controls.cachyConfigChecked
  zfsChecked := controls.zfsChecked
  zfsEnabled := controls.zfsEnabled

def variantById (name : String) : Option KernelVariant :=
  KernelVariant.all.find? (·.id = name)

theorem variantById_eq_some (name : String) (variant : KernelVariant) :
    variantById name = some variant ↔ variant.id = name := by
  constructor
  · intro found
    simpa using List.find?_some found
  · rintro rfl
    cases variant <;> decide

theorem id_eq_iff (variant : KernelVariant) :
    (variant.id = "lts" ↔ variant = .lts) ∧ (variant.id = "hardened" ↔ variant = .hardened) ∧
      (variant.id = "cachyos" ↔ variant = .cachyos) ∧ (variant.id = "rc" ↔ variant = .rc) ∧
      (variant.id = "server" ↔ variant = .server) ∧ (variant.id = "rt" ↔ variant = .rt) := by
  cases variant <;> decide

theorem map_byNumber {Item : Type} (value : Item → String) (items dropped added : List Item)
    (wanted : Bool) (few many : Nat) :
    (if wanted ∧ items.length = few then items ++ added
      else if ¬wanted ∧ items.length = many then dropped else items).map value =
    if wanted && (items.map value).length = few then items.map value ++ added.map value
    else if !wanted && (items.map value).length = many then dropped.map value
    else items.map value := by
  rw [apply_ite (List.map value), apply_ite (List.map value), List.map_append, List.length_map]
  cases wanted <;> simp

theorem printed_switchTo (controls : VariantSwitchState) (variant : KernelVariant) :
    (controls.switchTo variant).printed = controls.printed.switchTo variant.id := by
  obtain ⟨lts, hardened, cachyos, rc, server, rt⟩ := id_eq_iff variant
  simp only [VariantSwitchState.printed, VariantSwitchState.switchTo, OracleControls.switchTo,
    OracleControls.mk.injEq, ne_eq, lts, hardened, cachyos, rc, server, rt, map_byNumber,
    List.map_dropLast, apply_ite LtoMode.value, apply_ite PreemptMode.value,
    apply_ite HzTick.value]
  simp only [Bool.decide_and, Bool.decide_or, Bool.or_eq_true, decide_eq_true_eq,
    List.append_assoc]
  exact ⟨rfl, rfl, rfl, rfl, rfl, trivial, trivial, trivial⟩

structure SwitchRow where
  variant : String
  controls : OracleControls
  deriving DecidableEq, Repr

def oracleSwitch (state : OracleControls × List SwitchRow) (kernel : String) :
    OracleControls × List SwitchRow :=
  let controls := state.1.switchTo kernel
  (controls, state.2 ++ [⟨kernel, controls⟩])

/-- `main` of `options-oracle-ref`. -/
def oracleSwitches (switches : List String) : List SwitchRow :=
  (switches.foldl oracleSwitch ({}, [⟨"initial", {}⟩])).2

def witnessSwitch (state : VariantSwitchState × List SwitchRow) (kernel : String) :
    Except String (VariantSwitchState × List SwitchRow) :=
  match variantById kernel with
  | none => .error kernel
  | some variant =>
      let controls := state.1.switchTo variant
      .ok (controls, state.2 ++ [⟨kernel, controls.printed⟩])

/-- `main` of `cachyos-kernel-manager-variant-switch`; an unknown name ends it. -/
def witnessSwitches (switches : List String) : Except String (List SwitchRow) := do
  let (_, rows) ← switches.foldlM witnessSwitch ({}, [⟨"initial", VariantSwitchState.printed {}⟩])
  return rows

inductive PatchOp
  | reset (sourceArray : List String)
  | addLocal (files : List String)
  | addRemote (url : String)
  | remove (index : Nat)
  | moveUp (index : Nat)
  | moveDown (index : Nat)
  deriving DecidableEq, Repr

structure SwitchStep where
  variant : String
  sourceArray : List String := []
  deriving DecidableEq, Repr

structure ConfigureCorpus where
  variant : String := ""
  switches : List SwitchStep := []
  patchOps : List PatchOp := []
  customName : Option String := none
  deriving DecidableEq, Repr

structure SavedState where
  variant : String
  hardly : Bool
  cachyConfig : Bool
  lto : String
  preempt : String
  hzTicks : String
  customName : String
  deriving DecidableEq, Repr

structure ConfigureReport where
  variant : String
  variantLabel : String
  hardlyChecked : Bool
  controls : OracleControls
  patches : List String
  customName : String
  useLtoSuffix : Bool
  save : SavedState
  deriving DecidableEq, Repr

namespace OracleWindow

structure State where
  variant : String := "cachyos"
  hardlyChecked : Bool := true
  controls : OracleControls := {}
  patches : List String := []
  customName : String := "$pkgbase-custom"
  deriving DecidableEq, Repr

def variantId (name : String) : Option String :=
  if name ∈ ["cachyos", "bore", "rc", "rt", "lts", "eevdf", "bmq", "hardened", "deckify",
    "server"] then some name else none

def variantLabel (id : String) : String :=
  if id = "cachyos" then "CachyOS default Scheduler (tuned EEVDF)"
  else if id = "bore" then "BORE - Burst-Oriented Response Enhancer"
  else if id = "rc" then "RC - Release Candidate"
  else if id = "rt" then "RT - Realtime kernel"
  else if id = "lts" then "LTS - Long-term support kernel"
  else if id = "eevdf" then "EEVDF"
  else if id = "bmq" then "BMQ (BitMap Queue)"
  else if id = "hardened" then "Hardened - Hardened Linux kernel"
  else if id = "deckify" then "Deckify - Handheld optimized kernel"
  else if id = "server" then "Server - Server optimized kernel"
  else "CachyOS default Scheduler (tuned EEVDF)"

def State.switchTo (state : State) (variant : String) : State :=
  { state with variant := variant, controls := state.controls.switchTo variant }

def State.resetPatches (state : State) (sourceArray : List String) : State :=
  { state with patches := sourceArray.filter (endsWith · ".patch") }

def swap (patches : List String) (left right : Nat) : List String :=
  match patches[left]?, patches[right]? with
  | some first, some second => (patches.set left second).set right first
  | _, _ => patches

def State.patch (state : State) : PatchOp → State
  | .reset sourceArray => state.resetPatches sourceArray
  | .addLocal files =>
      { state with
        patches := files.foldl (fun patches file => patches ++ ["file://" ++ file]) state.patches }
  | .addRemote url => { state with patches := state.patches ++ [url] }
  | .remove index =>
      if index < state.patches.length then { state with patches := state.patches.eraseIdx index }
      else state
  | .moveUp index =>
      if 0 < index ∧ index < state.patches.length then
        { state with patches := swap state.patches index (index - 1) }
      else state
  | .moveDown index =>
      if index + 1 < state.patches.length then
        { state with patches := swap state.patches index (index + 1) }
      else state

def State.useLtoSuffix (state : State) : Bool :=
  state.controls.ltoSelected ≠ "none" && state.customName ≠ "$pkgbase"

def State.report (state : State) : ConfigureReport where
  variant := state.variant
  variantLabel := variantLabel state.variant
  hardlyChecked := state.hardlyChecked
  controls := state.controls
  patches := state.patches
  customName := state.customName
  useLtoSuffix := state.useLtoSuffix
  save :=
    { variant := state.variant
      hardly := state.hardlyChecked
      cachyConfig := state.controls.cachyConfigChecked
      lto := state.controls.ltoSelected
      preempt := state.controls.preemptSelected
      hzTicks := state.controls.hzSelected
      customName := state.customName }

def State.start (corpus : ConfigureCorpus) : State :=
  let state : State :=
    match variantId corpus.variant with
    | some variant => State.switchTo {} variant
    | none => {}
  { state with customName := corpus.customName.getD state.customName }

def State.step (state : State) (step : SwitchStep) : Except String State :=
  match variantId step.variant with
  | none => .error step.variant
  | some variant => .ok ((state.switchTo variant).resetPatches step.sourceArray)

/-- `main` of `confwindow-oracle-ref`; an unknown name in a switch ends it. -/
def report (corpus : ConfigureCorpus) : Except String ConfigureReport := do
  let state ← corpus.switches.foldlM State.step (State.start corpus)
  return (corpus.patchOps.foldl State.patch state).report

end OracleWindow

namespace ConfigureWindowModel

def useLtoSuffix (window : ConfigureWindowModel) : Bool :=
  window.switch.ltoSelected ≠ .none && window.customName ≠ pkgbaseSentinel

def saveUiState (window : ConfigureWindowModel) : SavedState where
  variant := window.variant.id
  hardly := window.hardlyChecked
  cachyConfig := window.switch.cachyConfigChecked
  lto := window.switch.ltoSelected.value
  preempt := window.switch.preemptSelected.value
  hzTicks := window.switch.hzSelected.value
  customName := window.customName

def patch (window : ConfigureWindowModel) : PatchOp → ConfigureWindowModel
  | .reset sourceArray => window.resetPatches sourceArray
  | .addLocal files => window.addLocalPatches files
  | .addRemote url => window.addRemotePatch url
  | .remove index => window.removePatch index
  | .moveUp index => window.moveUp index
  | .moveDown index => window.moveDown index

def report (window : ConfigureWindowModel) : ConfigureReport where
  variant := window.variant.id
  variantLabel := window.variantLabel
  hardlyChecked := window.hardlyChecked
  controls := window.switch.printed
  patches := window.patches
  customName := window.customName
  useLtoSuffix := window.useLtoSuffix
  save := window.saveUiState

def start (corpus : ConfigureCorpus) : ConfigureWindowModel :=
  let window : ConfigureWindowModel :=
    match variantById corpus.variant with
    | some variant => onVariantChanged {} variant []
    | none => {}
  { window with customName := corpus.customName.getD window.customName }

def witnessStep (window : ConfigureWindowModel) (step : SwitchStep) :
    Except String ConfigureWindowModel :=
  match variantById step.variant with
  | none => .error step.variant
  | some variant => .ok (window.onVariantChanged variant step.sourceArray)

/-- `main` of `cachyos-kernel-manager-confwindow`. -/
def witnessReport (corpus : ConfigureCorpus) : Except String ConfigureReport := do
  let window ← corpus.switches.foldlM witnessStep (start corpus)
  return (corpus.patchOps.foldl patch window).report

end ConfigureWindowModel

theorem witnessSwitch_fold (switches : List String) (controls : VariantSwitchState)
    (rows : List SwitchRow)
    (known : ∀ name ∈ switches, (variantById name).isSome = true) :
    ∃ final, switches.foldlM witnessSwitch (controls, rows) =
      .ok (final, (switches.foldl oracleSwitch (controls.printed, rows)).2) := by
  induction switches generalizing controls rows with
  | nil => exact ⟨controls, rfl⟩
  | cons name switches ih =>
      obtain ⟨first, rest⟩ := List.forall_mem_cons.mp known
      obtain ⟨variant, found⟩ := Option.isSome_iff_exists.mp first
      have named := (variantById_eq_some name variant).mp found
      have same : oracleSwitch (controls.printed, rows) name =
          ((controls.switchTo variant).printed,
            rows ++ [⟨name, (controls.switchTo variant).printed⟩]) := by
        rw [printed_switchTo, named]
        rfl
      rw [List.foldlM_cons, List.foldl_cons, same, witnessSwitch, found]
      exact ih (controls.switchTo variant) _ rest

theorem witnessSwitch_unknown (switches : List String)
    (state : VariantSwitchState × List SwitchRow) (name : String)
    (first : switches.find? (fun name => (variantById name).isNone) = some name) :
    switches.foldlM witnessSwitch state = .error name := by
  induction switches generalizing state with
  | nil => cases first
  | cons head switches ih =>
      rw [List.foldlM_cons, witnessSwitch]
      rw [List.find?_cons] at first
      cases found : variantById head with
      | none =>
          rw [found] at first
          obtain rfl := Option.some.inj first
          rfl
      | some variant =>
          rw [found] at first
          exact ih _ first

/-- The candidate prints the states of the reference, unless one of the names is no variant: the
reference takes such a name for a variant without particular controls. -/
theorem witnessSwitches_eq (switches : List String) :
    witnessSwitches switches =
      match switches.find? fun name => (variantById name).isNone with
      | some name => .error name
      | none => .ok (oracleSwitches switches) := by
  rw [witnessSwitches]
  cases first : switches.find? fun name => (variantById name).isNone with
  | some name =>
      rw [witnessSwitch_unknown switches _ name first]
      rfl
  | none =>
      have known : ∀ name ∈ switches, (variantById name).isSome = true := by
        intro name member
        have here := List.find?_eq_none.mp first name member
        simpa [Option.isSome_iff_ne_none] using here
      obtain ⟨final, ends⟩ := witnessSwitch_fold switches {} [⟨"initial", _⟩] known
      rw [ends]
      rfl

namespace ConfigureWindowModel

def shown (window : ConfigureWindowModel) : OracleWindow.State where
  variant := window.variant.id
  hardlyChecked := window.hardlyChecked
  controls := window.switch.printed
  patches := window.patches
  customName := window.customName

def Shows (window : ConfigureWindowModel) (state : OracleWindow.State) : Prop :=
  window.variantLabel = KernelManager.variantLabel window.variant ∧ state = window.shown

theorem variantId_eq (name : String) :
    OracleWindow.variantId name = (variantById name).map KernelVariant.id := by
  have ids : ["cachyos", "bore", "rc", "rt", "lts", "eevdf", "bmq", "hardened", "deckify",
      "server"] = KernelVariant.all.map KernelVariant.id := rfl
  rw [OracleWindow.variantId, ids]
  cases found : variantById name with
  | some variant =>
      have named := (variantById_eq_some name variant).mp found
      have member : name ∈ KernelVariant.all.map KernelVariant.id := by
        rw [← named]
        cases variant <;> decide
      rw [if_pos member, ← named]
      rfl
  | none =>
      have absent : name ∉ KernelVariant.all.map KernelVariant.id := by
        rintro member
        obtain ⟨variant, _, named⟩ := List.mem_map.mp member
        rw [(variantById_eq_some name variant).mpr named] at found
        cases found
      rw [if_neg absent]
      rfl

theorem Shows.report {window : ConfigureWindowModel} {state : OracleWindow.State}
    (shown : window.Shows state) : state.report = window.report := by
  obtain ⟨label, rfl⟩ := shown
  have labels : OracleWindow.variantLabel window.variant.id = window.variantLabel := by
    rw [label]
    cases window.variant <;> rfl
  have suffix : window.shown.useLtoSuffix = window.useLtoSuffix := by
    have none : (decide (window.switch.ltoSelected.value ≠ "none")) =
        decide (window.switch.ltoSelected ≠ .none) := by
      cases window.switch.ltoSelected <;> rfl
    have selected : window.shown.controls.ltoSelected = window.switch.ltoSelected.value := rfl
    rw [OracleWindow.State.useLtoSuffix, useLtoSuffix, selected, none]
    rfl
  have variant : window.shown.variant = window.variant.id := rfl
  rw [OracleWindow.State.report, suffix, variant, labels]
  rfl

theorem Shows.swap {window : ConfigureWindowModel}
    (label : window.variantLabel = KernelManager.variantLabel window.variant) (left right : Nat) :
    (window.swapPatches left right).Shows
      { window.shown with patches := OracleWindow.swap window.patches left right } := by
  unfold swapPatches OracleWindow.swap
  cases window.patches[left]? with
  | none => exact ⟨label, rfl⟩
  | some first =>
      cases window.patches[right]? with
      | none => exact ⟨label, rfl⟩
      | some second => exact ⟨label, rfl⟩

theorem Shows.patch {window : ConfigureWindowModel} {state : OracleWindow.State}
    (shown : window.Shows state) (op : PatchOp) : (window.patch op).Shows (state.patch op) := by
  obtain ⟨label, rfl⟩ := shown
  cases op with
  | reset sourceArray => exact ⟨label, rfl⟩
  | addLocal files =>
      refine ⟨label, ?_⟩
      have appended : ∀ patches : List String,
          files.foldl (fun patches file => patches ++ ["file://" ++ file]) patches =
            patches ++ files.map ("file://" ++ ·) := by
        induction files with
        | nil => simp
        | cons file files ih => intro patches; simp [ih]
      simp only [OracleWindow.State.patch, ConfigureWindowModel.patch, addLocalPatches, shown,
        appended]
  | addRemote url => exact ⟨label, rfl⟩
  | remove index =>
      by_cases inside : index < window.patches.length
      · exact ⟨label, if_pos inside⟩
      · have same := List.eraseIdx_of_length_le (Nat.le_of_not_lt inside)
        refine ⟨label, (if_neg inside).trans ?_⟩
        simp only [ConfigureWindowModel.patch, removePatch, shown, same]
  | moveUp index =>
      by_cases inside : 0 < index ∧ index < window.patches.length
      · have moved : window.patch (.moveUp index) = window.swapPatches index (index - 1) :=
          if_pos inside
        have swapped := Shows.swap label index (index - 1)
        rw [moved]
        exact ⟨swapped.1, (if_pos inside).trans swapped.2⟩
      · have kept : window.patch (.moveUp index) = window := if_neg inside
        rw [kept]
        exact ⟨label, if_neg inside⟩
  | moveDown index =>
      by_cases inside : index + 1 < window.patches.length
      · have moved : window.patch (.moveDown index) = window.swapPatches index (index + 1) :=
          if_pos inside
        have swapped := Shows.swap label index (index + 1)
        rw [moved]
        exact ⟨swapped.1, (if_pos inside).trans swapped.2⟩
      · have kept : window.patch (.moveDown index) = window := if_neg inside
        rw [kept]
        exact ⟨label, if_neg inside⟩

theorem Shows.changed {window : ConfigureWindowModel} {state : OracleWindow.State}
    (shown : window.Shows state) (variant : KernelVariant) (sourceArray : List String) :
    (window.onVariantChanged variant sourceArray).Shows
      ((state.switchTo variant.id).resetPatches sourceArray) := by
  obtain ⟨_, rfl⟩ := shown
  refine ⟨rfl, ?_⟩
  have controls := printed_switchTo window.switch variant
  simp only [onVariantChanged, resetPatches, ConfigureWindowModel.shown, controls]
  rfl

theorem Shows.patches {window : ConfigureWindowModel} {state : OracleWindow.State}
    (shown : window.Shows state) (ops : List PatchOp) :
    (ops.foldl ConfigureWindowModel.patch window).Shows
      (ops.foldl OracleWindow.State.patch state) := by
  induction ops generalizing window state with
  | nil => exact shown
  | cons op ops ih => exact ih (shown.patch op)

theorem Shows.start (corpus : ConfigureCorpus) :
    (ConfigureWindowModel.start corpus).Shows (OracleWindow.State.start corpus) := by
  have fresh : ConfigureWindowModel.Shows {} {} := ⟨rfl, rfl⟩
  rw [ConfigureWindowModel.start, OracleWindow.State.start, variantId_eq]
  cases variantById corpus.variant with
  | none => exact ⟨rfl, rfl⟩
  | some variant =>
      obtain ⟨label, same⟩ := fresh.changed variant []
      have switched : OracleWindow.State.switchTo {} variant.id =
          (onVariantChanged {} variant []).shown := same
      simp only [Option.map_some, switched]
      exact ⟨label, rfl⟩

theorem Shows.step {window : ConfigureWindowModel} {state : OracleWindow.State}
    (shown : window.Shows state) (step : SwitchStep) :
    (∃ error, witnessStep window step = .error error ∧ state.step step = .error error) ∨
      ∃ window' state', witnessStep window step = .ok window' ∧ state.step step = .ok state' ∧
        window'.Shows state' := by
  rw [witnessStep, OracleWindow.State.step, variantId_eq]
  cases variantById step.variant with
  | none => exact .inl ⟨step.variant, rfl, rfl⟩
  | some variant =>
      exact .inr ⟨_, _, rfl, rfl, shown.changed variant step.sourceArray⟩

end ConfigureWindowModel

/-- The candidate prints the window of the reference, or fails with it, for every corpus. -/
theorem configureReport_eq (corpus : ConfigureCorpus) :
    ConfigureWindowModel.witnessReport corpus = OracleWindow.report corpus := by
  rw [ConfigureWindowModel.witnessReport, OracleWindow.report]
  obtain ⟨error, fails, oracleFails⟩ | ⟨window, state, ends, oracleEnds, shown⟩ :=
    Machine.foldlM_simulated ConfigureWindowModel.Shows
      (fun _ _ step shown => shown.step step) (ConfigureWindowModel.Shows.start corpus)
      corpus.switches
  · rw [fails, oracleFails]
    rfl
  · rw [ends, oracleEnds]
    exact congrArg Except.ok (shown.patches corpus.patchOps).report.symm

end KernelManager
