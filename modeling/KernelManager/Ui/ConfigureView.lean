import KernelManager.Library.Choices
import KernelManager.Ui.Combos
import KernelManager.Ui.OptionsMirror

/-! What the Configure window shows, and what its callbacks send. -/

namespace KernelManager

namespace TrCtx

def confOptions : String := "ConfOptionsPage"

end TrCtx

namespace ComboOptions

def hzTicks : List String :=
  ["1000HZ", "750Hz", "600Hz", "500Hz", "300Hz", "250Hz", "100Hz"]

def tickless : List String := ["Full", "Idle", "Periodic"]

def cpuOpt : List String :=
  ["Disabled", "Native CPU", "Generic / x86_64", "x86_64_v2", "x86_64_v3", "x86_64_v4", "Zen4"]

def hugePage : List String := ["Always", "Madvise"]

end ComboOptions

def ltoLabel : LtoMode → String
  | .none => "No"
  | .full => "Full"
  | .thin => "Thin"
  | .thinDist => "Thin-dist"

def preemptLabel : PreemptMode → String
  | .full => "Full"
  | .lazy => "Lazy"
  | .voluntary => "Voluntary"
  | .none => "None"

def hzIndexOf (hz : HzTick) : Nat := Choices.position HzTick.all hz
def ticklessIndexOf (mode : TicklessMode) : Nat := Choices.position TicklessMode.all mode
def hugepageIndexOf (mode : HugepageMode) : Nat := Choices.position HugepageMode.all mode
def cpuOptIndexOf (mode : CpuOptMode) : Nat := Choices.position CpuOptMode.all mode

def confCheckAt : Nat → Option ConfCheck
  | 0 => some .cachyConfig
  | 1 => some .nconfig
  | 2 => some .xconfig
  | 3 => some .localmodcfg
  | 4 => some .useCurrent
  | 5 => some .hardly
  | 6 => some .perGov
  | 7 => some .tcpBbr3
  | 8 => some .zfs
  | 9 => some .nvidiaOpen
  | 10 => some .buildDebug
  | _ => none

structure DialogOverlay where
  progressVisible : Bool
  progressMessage : String
  errorVisible : Bool
  errorMessage : String
  confirmVisible : Bool
  confirmMessage : String
  pathVisible : Bool
  pathTitle : String
  pathValue : String
  deriving DecidableEq, Repr

def App.dialogOverlayValues (app : App) : DialogOverlay :=
  let (progress, error, confirm) : Option String × Option String × Option String :=
    match app.state.dialogs with
    | .progress message => (some message, none, none)
    | .error message => (none, some message, none)
    | .confirm message => (none, none, some message)
    | .none => (none, none, none)
  { progressVisible := progress.isSome
    progressMessage := progress.getD ""
    errorVisible := error.isSome
    errorMessage := error.getD ""
    confirmVisible := confirm.isSome
    confirmMessage := confirm.getD ""
    pathVisible := app.pathDialog.isSome
    pathTitle := (app.pathDialog.map (·.title)).getD ""
    pathValue := (app.pathDialog.map (·.value)).getD "" }

structure ComboView where
  items : List String
  index : Nat
  deriving DecidableEq, Repr

structure ConfCheckRow where
  label : String
  checked : Bool
  enabled : Bool
  deriving DecidableEq, Repr

inductive OptionCombo
  | lto | preempt | hz | tickless | hugepage | cpuOpt
  deriving DecidableEq, Repr

structure ConfigureView where
  variants : ComboView
  checksTop : List ConfCheckRow
  checksBottom : List ConfCheckRow
  options : OptionCombo → ComboView
  customName : String
  patches : List String
  selectedPatch : Int
  buildRunning : Bool
  overlay : DialogOverlay

namespace ConfigureWindowModel

def checks (window : ConfigureWindowModel) : List (String × Bool × Bool) :=
  [("Enable CachyOS config", window.switch.cachyConfigChecked, true),
    ("Tweak kernel options prior to a build via nconfig", window.nconfigChecked, true),
    ("Tweak kernel options prior to a build via xconfig", window.xconfigChecked, true),
    ("Use Modprobed-db", window.localmodcfgChecked, true),
    ("Use the current kernel's config", window.useCurrentChecked, true),
    ("Enable KBUILD_CFLAGS -O3", window.hardlyChecked, true),
    ("Set performance governor as default", window.perGovChecked, true),
    ("Enable TCP_CONG_BBR3", window.tcpBbr3Checked, true),
    ("Build the ZFS module", window.switch.zfsChecked, window.switch.zfsEnabled),
    ("Build the open NVIDIA module", window.builtinNvidiaOpenChecked, true),
    ("Include vmlinux with debug informations/symbols", window.buildDebugChecked, true)]

def optionCombo (window : ConfigureWindowModel) : OptionCombo → ComboView
  | .lto =>
      { items := window.switch.ltoItems.map ltoLabel
        index := Choices.position window.switch.ltoItems window.switch.ltoSelected }
  | .preempt =>
      { items := window.switch.preemptItems.map preemptLabel
        index := Choices.position window.switch.preemptItems window.switch.preemptSelected }
  | .hz => { items := ComboOptions.hzTicks, index := hzIndexOf window.switch.hzSelected }
  | .tickless => { items := ComboOptions.tickless, index := ticklessIndexOf window.tickless }
  | .hugepage => { items := ComboOptions.hugePage, index := hugepageIndexOf window.hugepage }
  | .cpuOpt => { items := ComboOptions.cpuOpt, index := cpuOptIndexOf window.cpuOpt }

end ConfigureWindowModel

def App.checkRows (app : App) : List ConfCheckRow :=
  app.configure.checks.map fun (label, checked, enabled) =>
    { label := app.locale.tr TrCtx.confOptions label, checked := checked, enabled := enabled }

def App.variantLabels (app : App) : List String :=
  KernelVariant.all.map fun variant => app.locale.tr TrCtx.conf (variantLabel variant)

/-- What `sync_configure_window` pushes, from the patch that the window has selected. -/
def App.openView (app : App) (selectedPatch : Int) : ConfigureView where
  variants :=
    { items := app.variantLabels
      index := Choices.position KernelVariant.all app.configure.variant }
  checksTop := app.checkRows.take 8
  checksBottom := app.checkRows.drop 8
  options := app.configure.optionCombo
  customName := app.configure.customName
  patches := app.configure.patches
  selectedPatch := max (min selectedPatch (app.configure.patches.length - 1 : Nat)) 0
  buildRunning := app.state.build.inFlight
  overlay := app.dialogOverlayValues

def App.configureView (app : App) (selectedPatch : Int) : Option ConfigureView :=
  match app.state.configuration with
  | .closed => none
  | .preparing | .editing => some (app.openView selectedPatch)

inductive ConfigureInput
  | variantSelected (label : String)
  | checkToggled (index : Nat)
  | optionSelected (combo : OptionCombo) (label : String)
  | customNameChanged (value : String)
  | patchesAddLocal
  | patchesAddRemote
  | patchRemove (index : Nat)
  | patchUp (index : Nat)
  | patchDown (index : Nat)
  | saveClicked
  | loadClicked
  | executeClicked
  | cancelClicked
  | dialogErrorDismissed
  | dialogConfirmAnswered (yes : Bool)
  | dialogPathDismissed
  | dialogPathSubmitted (value : String)
  | closeRequested
  deriving DecidableEq, Repr

namespace App

/-- The variant is looked up by its label in the context of the options page. -/
def variantOf (app : App) (label : String) : Option KernelVariant :=
  Choices.labelled KernelVariant.all
    (fun variant => app.locale.tr TrCtx.confOptions (variantLabel variant)) label

def optionOf (app : App) (label : String) : OptionCombo → Option UiMessage
  | .lto => (Choices.labelled app.configure.switch.ltoItems ltoLabel label).map .ltoPicked
  | .preempt =>
      (Choices.labelled app.configure.switch.preemptItems preemptLabel label).map .preemptPicked
  | .hz => (Choices.aligned ComboOptions.hzTicks HzTick.all label).map .hzPicked
  | .tickless =>
      (Choices.aligned ComboOptions.tickless TicklessMode.all label).map .ticklessPicked
  | .hugepage =>
      (Choices.aligned ComboOptions.hugePage HugepageMode.all label).map .hugepagePicked
  | .cpuOpt => (Choices.aligned ComboOptions.cpuOpt CpuOptMode.all label).map .cpuOptPicked

def wireConfigureWindow (app : App) : ConfigureInput → List UiMessage
  | .variantSelected label => ((app.variantOf label).map .variantPicked).toList
  | .checkToggled index => ((confCheckAt index).map .checkToggled).toList
  | .optionSelected combo label => (app.optionOf label combo).toList
  | .customNameChanged value => [.customNameChanged value]
  | .patchesAddLocal => [.pathDialogOpened .addLocalPatch]
  | .patchesAddRemote => [.pathDialogOpened .addRemotePatch]
  | .patchRemove index => [.patchOp (.remove index)]
  | .patchUp index => [.patchOp (.moveUp index)]
  | .patchDown index => [.patchOp (.moveDown index)]
  | .saveClicked => [.pathDialogOpened .saveConfig]
  | .loadClicked => [.pathDialogOpened .loadConfig]
  | .executeClicked => [.semantic .buildRequested]
  | .cancelClicked => [.semantic .configurationCancelRequested]
  | .dialogErrorDismissed => [.dialogDismissed]
  | .dialogConfirmAnswered yes => [.installQuestion yes]
  | .dialogPathDismissed => [.pathDialogDismissed]
  | .dialogPathSubmitted value => [.pathDialogChanged value, .pathDialogSubmitted]
  | .closeRequested => [.semantic .configurationCloseRequested]

end App

inductive WindowInput
  | configure (input : ConfigureInput)
  | message (message : UiMessage)

def windowStep (vercmp : String → String → Ordering) (app : App) : WindowInput → App
  | .configure input => Machine.run (step vercmp) app (app.wireConfigureWindow input)
  | .message message => step vercmp app message

def UiMessage.picksCombo : UiMessage → Bool
  | .variantPicked _ | .ltoPicked _ | .preemptPicked _ => true
  | _ => false

def OtherMessage (_app : App) : WindowInput → Prop
  | .configure _ => True
  | .message message => message.wired = true ∧ message.picksCombo = false

instance (app : App) : ∀ input, Decidable (OtherMessage app input)
  | .configure _ => instDecidableTrue
  | .message _ => inferInstanceAs (Decidable (_ ∧ _))

namespace ConfigureView

def choose (view : ConfigureView) (combo : OptionCombo) (index : Nat) : ConfigureView :=
  { view with
    options := Function.update view.options combo { view.options combo with index := index } }

def toggle (view : ConfigureView) (index : Nat) : ConfigureView :=
  let flip (row : ConfCheckRow) : ConfCheckRow := { row with checked := !row.checked }
  if index < 8 then { view with checksTop := view.checksTop.modify index flip }
  else { view with checksBottom := view.checksBottom.modify (index - 8) flip }

end ConfigureView

theorem ltoLabel_injective : Function.Injective ltoLabel := by
  intro left right same
  revert same
  cases left <;> cases right <;> decide

theorem preemptLabel_injective : Function.Injective preemptLabel := by
  intro left right same
  revert same
  cases left <;> cases right <;> decide

theorem ltoItems_nodup (variant : KernelVariant) : variant.transitions.ltoItems.Nodup := by
  cases variant <;> decide

theorem preemptItems_nodup (variant : KernelVariant) :
    variant.transitions.preemptItems.Nodup := by
  cases variant <;> decide

structure SameAround (app later : App) : Prop where
  configuration : later.state.configuration = app.state.configuration
  build : later.state.build = app.state.build
  dialogs : later.state.dialogs = app.state.dialogs
  pathDialog : later.pathDialog = app.pathDialog
  locale : later.locale = app.locale
  variant : later.configure.variant = app.configure.variant
  patches : later.configure.patches = app.configure.patches
  customName : later.configure.customName = app.configure.customName

theorem overlay_same (app later : App) (around : SameAround app later) :
    later.dialogOverlayValues = app.dialogOverlayValues := by
  simp only [App.dialogOverlayValues, around.dialogs, around.pathDialog]

theorem clamp_again (selectedPatch : Int) (last : Nat) :
    max (min (max (min selectedPatch last) 0) last) 0 = max (min selectedPatch last) 0 := by
  omega

theorem openView_around (app later : App) (selectedPatch : Int) (around : SameAround app later) :
    later.openView (app.openView selectedPatch).selectedPatch =
      { app.openView selectedPatch with
        checksTop := later.checkRows.take 8
        checksBottom := later.checkRows.drop 8
        options := later.configure.optionCombo } := by
  simp only [App.openView, App.variantLabels, around.locale, around.build, around.variant,
    around.patches, around.customName, overlay_same app later around, clamp_again]

theorem configureView_open (app : App) (selectedPatch : Int) (view : ConfigureView)
    (shown : app.configureView selectedPatch = some view) :
    app.state.configuration ≠ .closed ∧ view = app.openView selectedPatch := by
  simp only [App.configureView] at shown
  split at shown
  · cases shown
  · rename_i preparing
    exact ⟨by simp [preparing], (Option.some.inj shown).symm⟩
  · rename_i editing
    exact ⟨by simp [editing], (Option.some.inj shown).symm⟩

theorem configureView_of_open (app : App) (selectedPatch : Int)
    (opened : app.state.configuration ≠ .closed) :
    app.configureView selectedPatch = some (app.openView selectedPatch) := by
  simp only [App.configureView]
  split
  · contradiction
  · rfl
  · rfl

theorem optionCombo_shows (window : ConfigureWindowModel) (canonical : window.Canonical)
    (combo : OptionCombo) :
    (window.optionCombo combo).index < (window.optionCombo combo).items.length := by
  cases combo with
  | lto =>
      have shown := Choices.position_shows _ _ canonical.lto
      obtain ⟨bound, -⟩ := List.getElem?_eq_some_iff.mp shown
      simpa [ConfigureWindowModel.optionCombo] using bound
  | preempt =>
      have shown := Choices.position_shows _ _ canonical.preempt
      obtain ⟨bound, -⟩ := List.getElem?_eq_some_iff.mp shown
      simpa [ConfigureWindowModel.optionCombo] using bound
  | hz =>
      simp only [ConfigureWindowModel.optionCombo]
      cases window.switch.hzSelected <;> decide
  | tickless =>
      simp only [ConfigureWindowModel.optionCombo]
      cases window.tickless <;> decide
  | hugepage =>
      simp only [ConfigureWindowModel.optionCombo]
      cases window.hugepage <;> decide
  | cpuOpt =>
      simp only [ConfigureWindowModel.optionCombo]
      cases window.cpuOpt <;> decide

structure MovesCombo (vercmp : String → String → Ordering) (app : App) (combo : OptionCombo)
    (index : Nat) (message : UiMessage) : Prop where
  combos :
    (step vercmp app message).configure.optionCombo =
      Function.update app.configure.optionCombo combo
        { app.configure.optionCombo combo with index := index }
  checks : (step vercmp app message).checkRows = app.checkRows
  around : SameAround app (step vercmp app message)

theorem optionCombo_update (before after : ConfigureWindowModel) (combo : OptionCombo)
    (index : Nat)
    (chosen : after.optionCombo combo = { before.optionCombo combo with index := index })
    (others : ∀ other, other ≠ combo → after.optionCombo other = before.optionCombo other) :
    after.optionCombo = Function.update before.optionCombo combo
      { before.optionCombo combo with index := index } := by
  funext other
  by_cases same : other = combo
  · subst same
    rw [Function.update_self, chosen]
  · rw [Function.update_of_ne same, others other same]

theorem optionSelected_moves (vercmp : String → String → Ordering) (app : App)
    (canonical : app.configure.Canonical) (combo : OptionCombo) (index : Nat) (label : String)
    (shown : (app.configure.optionCombo combo).items[index]? = some label) :
    ∃ message, app.optionOf label combo = some message ∧
      MovesCombo vercmp app combo index message := by
  cases combo with
  | lto =>
      obtain ⟨lto, -, found, placed⟩ :=
        Choices.labelled_picked app.configure.switch.ltoItems ltoLabel
          (by rw [canonical.ltoItems]; exact ltoItems_nodup _) ltoLabel_injective index label shown
      refine ⟨.ltoPicked lto, by simp only [App.optionOf, found, Option.map_some], ?_, rfl,
        ⟨rfl, rfl, rfl, rfl, rfl, rfl, rfl, rfl⟩⟩
      refine optionCombo_update app.configure _ .lto index ?_ ?_
      · subst placed
        rfl
      · intro other different
        cases other <;> first | rfl | exact absurd rfl different
  | preempt =>
      obtain ⟨preempt, -, found, placed⟩ :=
        Choices.labelled_picked app.configure.switch.preemptItems preemptLabel
          (by rw [canonical.preemptItems]; exact preemptItems_nodup _) preemptLabel_injective
          index label shown
      refine ⟨.preemptPicked preempt, by simp only [App.optionOf, found, Option.map_some], ?_,
        rfl, ⟨rfl, rfl, rfl, rfl, rfl, rfl, rfl, rfl⟩⟩
      refine optionCombo_update app.configure _ .preempt index ?_ ?_
      · subst placed
        rfl
      · intro other different
        cases other <;> first | rfl | exact absurd rfl different
  | hz =>
      obtain ⟨hz, found, placed⟩ :=
        Choices.aligned_picked ComboOptions.hzTicks HzTick.all (by decide) (by decide) rfl index
          label shown
      refine ⟨.hzPicked hz, by simp only [App.optionOf, found, Option.map_some], ?_, rfl,
        ⟨rfl, rfl, rfl, rfl, rfl, rfl, rfl, rfl⟩⟩
      refine optionCombo_update app.configure _ .hz index ?_ ?_
      · subst placed
        rfl
      · intro other different
        cases other <;> first | rfl | exact absurd rfl different
  | tickless =>
      obtain ⟨mode, found, placed⟩ :=
        Choices.aligned_picked ComboOptions.tickless TicklessMode.all (by decide) (by decide) rfl
          index label shown
      refine ⟨.ticklessPicked mode, by simp only [App.optionOf, found, Option.map_some], ?_, rfl,
        ⟨rfl, rfl, rfl, rfl, rfl, rfl, rfl, rfl⟩⟩
      refine optionCombo_update app.configure _ .tickless index ?_ ?_
      · subst placed
        rfl
      · intro other different
        cases other <;> first | rfl | exact absurd rfl different
  | hugepage =>
      obtain ⟨mode, found, placed⟩ :=
        Choices.aligned_picked ComboOptions.hugePage HugepageMode.all (by decide) (by decide) rfl
          index label shown
      refine ⟨.hugepagePicked mode, by simp only [App.optionOf, found, Option.map_some], ?_, rfl,
        ⟨rfl, rfl, rfl, rfl, rfl, rfl, rfl, rfl⟩⟩
      refine optionCombo_update app.configure _ .hugepage index ?_ ?_
      · subst placed
        rfl
      · intro other different
        cases other <;> first | rfl | exact absurd rfl different
  | cpuOpt =>
      obtain ⟨mode, found, placed⟩ :=
        Choices.aligned_picked ComboOptions.cpuOpt CpuOptMode.all (by decide) (by decide) rfl index
          label shown
      refine ⟨.cpuOptPicked mode, by simp only [App.optionOf, found, Option.map_some], ?_, rfl,
        ⟨rfl, rfl, rfl, rfl, rfl, rfl, rfl, rfl⟩⟩
      refine optionCombo_update app.configure _ .cpuOpt index ?_ ?_
      · subst placed
        rfl
      · intro other different
        cases other <;> first | rfl | exact absurd rfl different

theorem confCheckAt_bounded :
    ∀ index, (∃ check, confCheckAt index = some check) ∨ 11 ≤ index ∧ confCheckAt index = none
  | 0 | 1 | 2 | 3 | 4 | 5 | 6 | 7 | 8 | 9 | 10 => .inl ⟨_, rfl⟩
  | index + 11 => .inr ⟨by omega, rfl⟩

theorem checkToggled_around (vercmp : String → String → Ordering) (app : App)
    (check : ConfCheck) :
    SameAround app (step vercmp app (.checkToggled check)) ∧
      (step vercmp app (.checkToggled check)).configure.optionCombo =
        app.configure.optionCombo := by
  constructor
  · cases check <;> exact ⟨rfl, rfl, rfl, rfl, rfl, rfl, rfl, rfl⟩
  · funext combo
    cases check <;> cases combo <;> rfl

theorem checkToggled_view (vercmp : String → String → Ordering) (app : App) (index : Nat)
    (check : ConfCheck) (found : confCheckAt index = some check) (selectedPatch : Int) :
    (step vercmp app (.checkToggled check)).openView (app.openView selectedPatch).selectedPatch =
      (app.openView selectedPatch).toggle index := by
  obtain ⟨around, combos⟩ := checkToggled_around vercmp app check
  rw [openView_around app _ selectedPatch around, combos]
  simp only [confCheckAt] at found
  split at found <;> cases found <;> rfl

theorem toggle_beyond (app : App) (selectedPatch : Int) (index : Nat) (beyond : 11 ≤ index) :
    (app.openView selectedPatch).toggle index = app.openView selectedPatch := by
  have bottom : ¬index < 8 := by omega
  have rows : app.checkRows.length = 11 := rfl
  simp only [ConfigureView.toggle, if_neg bottom]
  rw [List.modify_eq_self]
  simp only [App.openView, List.length_drop, rows]
  omega

/-- A pick that the window shows, and a toggle, move that control and nothing else. -/
theorem windowStep_view (vercmp : String → String → Ordering) (app : App)
    (canonical : app.configure.Canonical) (selectedPatch : Int) (view : ConfigureView)
    (shown : app.configureView selectedPatch = some view) :
    (∀ combo index label, (view.options combo).items[index]? = some label →
      (windowStep vercmp app (.configure (.optionSelected combo label))).configureView
          view.selectedPatch = some (view.choose combo index)) ∧
      ∀ index,
        (windowStep vercmp app (.configure (.checkToggled index))).configureView
          view.selectedPatch = some (view.toggle index) := by
  obtain ⟨opened, rfl⟩ := configureView_open app selectedPatch view shown
  refine ⟨?_, ?_⟩
  · intro combo index label offered
    obtain ⟨message, found, moved⟩ :=
      optionSelected_moves vercmp app canonical combo index label offered
    have stepped : windowStep vercmp app (.configure (.optionSelected combo label)) =
        step vercmp app message := by
      simp only [windowStep, App.wireConfigureWindow, found, Option.toList, Machine.run_cons,
        Machine.run_nil]
    rw [stepped, configureView_of_open _ _ (by rwa [moved.around.configuration]),
      openView_around app _ selectedPatch moved.around, moved.combos, moved.checks]
    rfl
  · intro index
    obtain ⟨check, found⟩ | ⟨beyond, missing⟩ := confCheckAt_bounded index
    · have stepped : windowStep vercmp app (.configure (.checkToggled index)) =
          step vercmp app (.checkToggled check) := by
        simp only [windowStep, App.wireConfigureWindow, found, Option.map_some, Option.toList,
          Machine.run_cons, Machine.run_nil]
      have around := (checkToggled_around vercmp app check).1
      rw [stepped, configureView_of_open _ _ (by rwa [around.configuration]),
        checkToggled_view vercmp app index check found selectedPatch]
    · have stepped : windowStep vercmp app (.configure (.checkToggled index)) = app := by
        simp only [windowStep, App.wireConfigureWindow, missing, Option.map_none, Option.toList,
          Machine.run_nil]
      rw [stepped, toggle_beyond app selectedPatch index beyond, configureView_of_open app _ opened]
      simp only [App.openView, clamp_again]

/-- What the view relies on: the combos are the variant's, and the build options are those of
the window. -/
structure ViewSettled (app : App) : Prop where
  canonical : app.configure.Canonical
  mirrored : Mirrored app

theorem step_viewSettled (vercmp : String → String → Ordering) (app : App) (message : UiMessage)
    (settled : ViewSettled app) (wired : message.wired = true) (offered : message.PickOffered app) :
    ViewSettled (step vercmp app message) where
  canonical := update_canonical vercmp app message settled.canonical offered
  mirrored := update_mirrored vercmp app message settled.mirrored wired

theorem pickOffered_other (app : App) (message : UiMessage)
    (other : message.picksCombo = false) : message.PickOffered app := by
  cases message with
  | ltoPicked lto | preemptPicked preempt => cases other
  | _ => trivial

theorem optionOf_offered (app : App) (label : String) (combo : OptionCombo)
    (message : UiMessage) (found : app.optionOf label combo = some message) :
    message.wired = true ∧ message.PickOffered app := by
  cases combo with
  | lto =>
      obtain ⟨lto, picked, rfl⟩ := Option.map_eq_some_iff.mp found
      exact ⟨rfl, List.mem_of_find?_eq_some picked⟩
  | preempt =>
      obtain ⟨preempt, picked, rfl⟩ := Option.map_eq_some_iff.mp found
      exact ⟨rfl, List.mem_of_find?_eq_some picked⟩
  | hz | tickless | hugepage | cpuOpt =>
      obtain ⟨value, -, rfl⟩ := Option.map_eq_some_iff.mp found
      exact ⟨rfl, trivial⟩

/-- The one callback that sends two messages is the path dialog's. -/
theorem wireConfigureWindow_cases (app : App) (input : ConfigureInput) :
    app.wireConfigureWindow input = [] ∨
      (∃ message, app.wireConfigureWindow input = [message] ∧ message.wired = true ∧
        message.PickOffered app) ∨
      ∃ value,
        app.wireConfigureWindow input = [.pathDialogChanged value, .pathDialogSubmitted] := by
  cases input with
  | variantSelected label =>
      simp only [App.wireConfigureWindow]
      cases found : app.variantOf label with
      | none => exact .inl rfl
      | some variant => exact .inr (.inl ⟨.variantPicked variant, rfl, rfl, trivial⟩)
  | checkToggled index =>
      simp only [App.wireConfigureWindow]
      cases found : confCheckAt index with
      | none => exact .inl rfl
      | some check => exact .inr (.inl ⟨.checkToggled check, rfl, rfl, trivial⟩)
  | optionSelected combo label =>
      simp only [App.wireConfigureWindow]
      cases found : app.optionOf label combo with
      | none => exact .inl rfl
      | some message =>
          exact .inr (.inl ⟨message, rfl, optionOf_offered app label combo message found⟩)
  | dialogPathSubmitted value => exact .inr (.inr ⟨value, rfl⟩)
  | _ => exact .inr (.inl ⟨_, rfl, rfl, trivial⟩)

theorem windowStep_viewSettled (vercmp : String → String → Ordering) (app : App)
    (input : WindowInput) (settled : ViewSettled app) (other : OtherMessage app input) :
    ViewSettled (windowStep vercmp app input) := by
  cases input with
  | message message =>
      exact step_viewSettled vercmp app message settled other.1
        (pickOffered_other app message other.2)
  | configure input =>
      simp only [windowStep]
      obtain same | ⟨message, same, wired, offered⟩ | ⟨value, same⟩ :=
        wireConfigureWindow_cases app input
      · rw [same]
        exact settled
      · rw [same]
        exact step_viewSettled vercmp app message settled wired offered
      · rw [same]
        exact step_viewSettled vercmp _ .pathDialogSubmitted
          (step_viewSettled vercmp app (.pathDialogChanged value) settled rfl trivial) rfl trivial

theorem initial_viewSettled (flags : Flags) (locale : ResolvedLocale) :
    ViewSettled (App.initial flags locale) where
  canonical := by
    have window := onEvent_configure { locale := locale, flags := flags } .started
    have same : (App.initial flags locale).configure = {} := window
    rw [same]
    exact default_canonical
  mirrored := initial_mirrored flags locale

/-- In every state that the windows and workers lead to, each option combo shows the value of
the model, and picking an item, a stale one aside, or toggling a check moves just that control
of the window. -/
theorem configureView_direct (vercmp : String → String → Ordering) (flags : Flags)
    (locale : ResolvedLocale) (inputs : List WindowInput)
    (others : Machine.Admissible (windowStep vercmp) OtherMessage (App.initial flags locale) inputs)
    (selectedPatch : Int) (view : ConfigureView)
    (shown : (Machine.run (windowStep vercmp) (App.initial flags locale) inputs).configureView
      selectedPatch = some view) :
    let app := Machine.run (windowStep vercmp) (App.initial flags locale) inputs
    (∀ combo, (view.options combo).index < (view.options combo).items.length) ∧
      (∀ combo index label, (view.options combo).items[index]? = some label →
        (windowStep vercmp app (.configure (.optionSelected combo label))).configureView
          view.selectedPatch = some (view.choose combo index)) ∧
      ∀ index,
        (windowStep vercmp app (.configure (.checkToggled index))).configureView
          view.selectedPatch = some (view.toggle index) := by
  intro app
  have settled : ViewSettled app :=
    Machine.run_invariant ViewSettled (windowStep_viewSettled vercmp)
      (initial_viewSettled flags locale) others
  refine ⟨?_, windowStep_view vercmp app settled.canonical selectedPatch view shown⟩
  intro combo
  obtain ⟨-, rfl⟩ := configureView_open app selectedPatch view shown
  exact optionCombo_shows app.configure settled.canonical combo

namespace Sample

def viewSession : List WindowInput :=
  [.message (.semantic .configureRequested), .message (.configurePrepared 1 ["0001-a.patch"]),
    .configure (.variantSelected (variantLabel .hardened)),
    .configure (.optionSelected .preempt "Voluntary"), .configure (.checkToggled 9)]

def otherViewSession : List WindowInput :=
  [.message (.semantic .configureRequested), .message (.configurePrepared 1 []),
    .configure (.checkToggled 9), .configure (.optionSelected .lto "Thin-dist"),
    .configure (.checkToggled 9), .configure (.variantSelected (variantLabel .hardened)),
    .configure (.checkToggled 9), .configure (.optionSelected .preempt "Voluntary"),
    .configure (.optionSelected .preempt "Realtime")]

def viewOf (inputs : List WindowInput) : ConfigureView :=
  (Machine.run (windowStep vercmp) (App.initial flags locale) inputs).openView 0

end Sample

theorem configureView_direct_viewSession :
    let app := Machine.run (windowStep Sample.vercmp) (App.initial Sample.flags Sample.locale)
      Sample.viewSession
    let view := Sample.viewOf Sample.viewSession
    (∀ combo, (view.options combo).index < (view.options combo).items.length) ∧
      (∀ combo index label, (view.options combo).items[index]? = some label →
        (windowStep Sample.vercmp app (.configure (.optionSelected combo label))).configureView
          view.selectedPatch = some (view.choose combo index)) ∧
      ∀ index,
        (windowStep Sample.vercmp app (.configure (.checkToggled index))).configureView
          view.selectedPatch = some (view.toggle index) :=
  configureView_direct Sample.vercmp Sample.flags Sample.locale Sample.viewSession (by decide) 0
    _ rfl

def App.setup (app : App) : Flags × ResolvedLocale := (app.flags, app.locale)

theorem runEffect_setup (app : App) (effect : Effect) :
    (app.runEffect effect).1.setup = app.setup := by
  cases effect with
  | hideProgress =>
      simp only [App.runEffect]
      split <;> rfl
  | _ => rfl

theorem step_setup (vercmp : String → String → Ordering) (app : App) (message : UiMessage) :
    (step vercmp app message).setup = app.setup := by
  refine update_field vercmp App.setup app message ?_ rfl
    fun app event => runEffects_field App.setup runEffect_setup _ _
  intro part _
  cases part with
  | options | patchEpoch | sorted => exact fun _ same => same
  | variant | checked | sorting => exact fun _ _ _ same => same
  | catalog => exact ⟨fun _ _ same => same, fun _ _ same => same⟩
  | _ => exact fun _ _ same => same

theorem windowStep_setup (vercmp : String → String → Ordering) (app : App)
    (input : WindowInput) : (windowStep vercmp app input).setup = app.setup := by
  cases input with
  | message message => exact step_setup vercmp app message
  | configure input =>
      exact Machine.run_preserves (fun later : App => later.setup = app.setup)
        (fun later message same => (step_setup vercmp later message).trans same) rfl _

theorem run_setup (vercmp : String → String → Ordering) (app : App)
    (inputs : List WindowInput) :
    (Machine.run (windowStep vercmp) app inputs).setup = app.setup :=
  Machine.run_preserves (fun later : App => later.setup = app.setup)
    (fun later input same => (windowStep_setup vercmp later input).trans same) rfl inputs

theorem option_determined {Value : Type} [DecidableEq Value] (values : List Value)
    (all : ∀ value : Value, value ∈ values) (left right : Value)
    (same : Choices.position values left = Choices.position values right) : left = right :=
  Choices.position_inj values left right (all left) (all right) same

/-- Two windows that look the same hold the same options. -/
theorem openView_determines (left right : App) (leftPatch rightPatch : Int)
    (leftSettled : ViewSettled left) (rightSettled : ViewSettled right)
    (same : left.openView leftPatch = right.openView rightPatch) :
    left.syncBuildOptions.state.buildOptions = right.syncBuildOptions.state.buildOptions ∧
      left.configure.variant = right.configure.variant ∧
      left.configure.patches = right.configure.patches ∧
      left.configure.customName = right.configure.customName := by
  have variant : left.configure.variant = right.configure.variant :=
    option_determined KernelVariant.all (by intro variant; cases variant <;> decide) _ _
      (congrArg (fun view => view.variants.index) same)
  have combo (combo : OptionCombo) :
      (left.configure.optionCombo combo).index = (right.configure.optionCombo combo).index :=
    congrArg (fun view => (view.options combo).index) same
  have lto : left.configure.switch.ltoSelected = right.configure.switch.ltoSelected := by
    have leftItems := leftSettled.canonical.ltoItems
    have rightItems := rightSettled.canonical.ltoItems
    have places := combo .lto
    have leftListed := leftSettled.canonical.lto
    have rightListed := rightSettled.canonical.lto
    simp only [ConfigureWindowModel.optionCombo, leftItems, rightItems, variant] at places
    rw [leftItems, variant] at leftListed
    rw [rightItems] at rightListed
    exact Choices.position_inj _ _ _ leftListed rightListed places
  have preempt :
      left.configure.switch.preemptSelected = right.configure.switch.preemptSelected := by
    have leftItems := leftSettled.canonical.preemptItems
    have rightItems := rightSettled.canonical.preemptItems
    have places := combo .preempt
    have leftListed := leftSettled.canonical.preempt
    have rightListed := rightSettled.canonical.preempt
    simp only [ConfigureWindowModel.optionCombo, leftItems, rightItems, variant] at places
    rw [leftItems, variant] at leftListed
    rw [rightItems] at rightListed
    exact Choices.position_inj _ _ _ leftListed rightListed places
  have hz : left.configure.switch.hzSelected = right.configure.switch.hzSelected :=
    option_determined HzTick.all (by intro hz; cases hz <;> decide) _ _ (combo .hz)
  have tickless : left.configure.tickless = right.configure.tickless :=
    option_determined TicklessMode.all (by intro mode; cases mode <;> decide) _ _
      (combo .tickless)
  have hugepage : left.configure.hugepage = right.configure.hugepage :=
    option_determined HugepageMode.all (by intro mode; cases mode <;> decide) _ _
      (combo .hugepage)
  have cpuOpt : left.configure.cpuOpt = right.configure.cpuOpt :=
    option_determined CpuOptMode.all (by intro mode; cases mode <;> decide) _ _ (combo .cpuOpt)
  have top : (left.checkRows.take 8).map (·.checked) = (right.checkRows.take 8).map (·.checked) :=
    congrArg (fun view => view.checksTop.map (·.checked)) same
  have bottom :
      (left.checkRows.drop 8).map (·.checked) = (right.checkRows.drop 8).map (·.checked) :=
    congrArg (fun view => view.checksBottom.map (·.checked)) same
  have customName : left.configure.customName = right.configure.customName :=
    congrArg (fun view => view.customName) same
  have patches : left.configure.patches = right.configure.patches :=
    congrArg (fun view => view.patches) same
  simp only [App.checkRows, ConfigureWindowModel.checks, List.map_cons, List.map_nil,
    List.take_succ_cons, List.take_zero, List.drop_succ_cons, List.drop_zero, List.cons.injEq,
    and_true] at top bottom
  obtain ⟨cachyConfig, nconfig, xconfig, localmodcfg, useCurrent, hardly, perGov, tcpBbr3⟩ := top
  obtain ⟨zfs, nvidiaOpen, buildDebug⟩ := bottom
  refine ⟨?_, variant, patches, customName⟩
  simp only [App.syncBuildOptions, variant, lto, preempt, hz, tickless, hugepage, cpuOpt,
    cachyConfig, nconfig, xconfig, localmodcfg, useCurrent, hardly, perGov, tcpBbr3, zfs,
    nvidiaOpen, buildDebug, customName]

/-- What the Configure window shows is what Build builds: in any two runs under the same
flags, whatever led there and whatever the languages, windows that look the same start the
same build. -/
theorem configureView_builds (vercmp : String → String → Ordering) (flags : Flags)
    (leftLocale rightLocale : ResolvedLocale) (leftInputs rightInputs : List WindowInput)
    (leftOthers : Machine.Admissible (windowStep vercmp) OtherMessage
      (App.initial flags leftLocale) leftInputs)
    (rightOthers : Machine.Admissible (windowStep vercmp) OtherMessage
      (App.initial flags rightLocale) rightInputs)
    (leftPatch rightPatch : Int) (view : ConfigureView) :
    let left := Machine.run (windowStep vercmp) (App.initial flags leftLocale) leftInputs
    let right := Machine.run (windowStep vercmp) (App.initial flags rightLocale) rightInputs
    left.configureView leftPatch = some view → right.configureView rightPatch = some view →
      ∀ epoch, left.buildJob epoch = right.buildJob epoch := by
  intro left right leftShown rightShown epoch
  have leftSettled : ViewSettled left :=
    Machine.run_invariant ViewSettled (windowStep_viewSettled vercmp)
      (initial_viewSettled flags leftLocale) leftOthers
  have rightSettled : ViewSettled right :=
    Machine.run_invariant ViewSettled (windowStep_viewSettled vercmp)
      (initial_viewSettled flags rightLocale) rightOthers
  have sameFlags : left.flags = right.flags := by
    have leftSetup := run_setup vercmp (App.initial flags leftLocale) leftInputs
    have rightSetup := run_setup vercmp (App.initial flags rightLocale) rightInputs
    have leftFlags : left.flags = flags := congrArg Prod.fst leftSetup
    exact leftFlags.trans (congrArg Prod.fst rightSetup).symm
  obtain ⟨-, leftView⟩ := configureView_open left leftPatch view leftShown
  obtain ⟨-, rightView⟩ := configureView_open right rightPatch view rightShown
  obtain ⟨options, variant, patches, customName⟩ :=
    openView_determines left right leftPatch rightPatch leftSettled rightSettled
      (leftView.symm.trans rightView)
  have mirrored : left.state.buildOptions = right.state.buildOptions :=
    leftSettled.mirrored.trans (options.trans rightSettled.mirrored.symm)
  simp only [App.buildJob, sameFlags, mirrored, variant, patches, customName]

theorem configureView_builds_twoWays :
    (Machine.run (windowStep Sample.vercmp) (App.initial Sample.flags Sample.locale)
        Sample.viewSession).buildJob 1 =
      (Machine.run (windowStep Sample.vercmp) (App.initial Sample.flags Sample.locale)
        Sample.otherViewSession).buildJob 1 :=
  configureView_builds Sample.vercmp Sample.flags Sample.locale Sample.locale Sample.viewSession
    Sample.otherViewSession (by decide) (by decide) 0 0 (Sample.viewOf Sample.viewSession) rfl
    (by
      have combos : ∀ combo, (Sample.viewOf Sample.otherViewSession).options combo =
          (Sample.viewOf Sample.viewSession).options combo := by
        intro combo
        cases combo <;> decide
      exact congrArg some (congrArg (fun options =>
        { Sample.viewOf Sample.viewSession with options := options }) (funext combos)))
    1

end KernelManager
