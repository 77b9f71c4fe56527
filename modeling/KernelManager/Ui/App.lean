import KernelManager.Ui.Message

/-! The application model and its update function. -/

namespace KernelManager

structure ResolvedLocale where
  tr : String → String → String

namespace TrCtx

def main : String := "MainWindow"
def conf : String := "ConfWindow"

end TrCtx

def noKernels : String :=
  "No kernels found!\nPlease run `pacman -Sy` to update DB!\n" ++
    "This is needed for the app to work properly"

def failedAlpmInit : String := "Failed to initialize alpm handle (%1)"

def installBuildPackages : String := "Do you want to install build packages?"

structure App where
  state : AppState := {}
  rows : List KernelRowView := []
  kernels : KernelsByRaw := fun _ => none
  installed : String → Option Provenance := fun _ => none
  hardware : HardwareProfile := {}
  configure : ConfigureWindowModel := {}
  scx : Option ScxWindowModel := none
  locale : ResolvedLocale
  sortColumn : Nat := 0
  sortAscending : Bool := true
  sortedRows : List KernelRowView := []
  confTab : ConfTab := .options
  pathDialog : Option PathDialog := none
  flags : Flags
  patchEpoch : Nat := 0
  buildEpoch : Nat := 0
  /-- The child in the shared process slot, by its identity. -/
  buildProc : Option Nat := none

namespace App

def setDialogs (app : App) (dialogs : DialogsState) : App :=
  { app with state := { app.state with dialogs := dialogs } }

def setConfigure (app : App) (configure : ConfigureWindowModel) : App :=
  { app with configure := configure }

def recomputeSort (vercmp : String → String → Ordering) (app : App) : App :=
  let base := if app.sortedRows.isEmpty then app.rows else app.sortedRows
  { app with sortedRows := sortRows vercmp app.sortColumn app.sortAscending base }

def syncBuildOptions (app : App) : App :=
  let window := app.configure
  { app with
    state :=
      { app.state with
        buildOptions :=
          { variant := window.variant
            hardly := window.hardlyChecked
            perGov := window.perGovChecked
            tcpBbr3 := window.tcpBbr3Checked
            cachyConfig := window.switch.cachyConfigChecked
            nconfig := window.nconfigChecked
            xconfig := window.xconfigChecked
            localmodcfg := window.localmodcfgChecked
            useCurrent := window.useCurrentChecked
            builtinZfs := window.switch.zfsChecked
            builtinNvidiaOpen := window.builtinNvidiaOpenChecked
            buildDebug := window.buildDebugChecked
            hzTicks := window.switch.hzSelected
            tickless := window.tickless
            preempt := window.switch.preemptSelected
            hugepage := window.hugepage
            lto := window.switch.ltoSelected
            cpuOpt := window.cpuOpt
            customName := window.customName } } }

def transactionTask (app : App) : Task :=
  .transaction
    { selection := app.state.selection
      kernels := app.kernels
      cachedHardware := app.hardware
      aurEnabled := app.flags.aurEnabled }

def probeJob (app : App) (generation : Nat) : ProbeJob where
  generation := generation
  home := app.flags.home
  options := app.state.buildOptions
  variant := app.configure.variant

def configureTask (app : App) : App × Task :=
  let app := { app with patchEpoch := app.patchEpoch + 1 }
  (app, .configure (app.probeJob app.patchEpoch))

def refreshPatchesTask (app : App) (generation : Nat) : Task :=
  .refreshPatches (app.probeJob generation)

def buildJob (app : App) (epoch : Nat) : BuildJob where
  epoch := epoch
  home := app.flags.home
  options := app.state.buildOptions
  variant := app.configure.variant
  patches := app.configure.patches
  customName := app.configure.customName

def artifactsJob (app : App) (epoch : Nat) : ArtifactsJob where
  epoch := epoch
  home := app.flags.home
  variantDir := app.configure.variant.dirName

def runEffect (app : App) : Effect → App × List Task
  | .showProgress message => (app.setDialogs (.progress message), [])
  | .hideProgress =>
      (if app.state.dialogs.isProgress then app.setDialogs .none else app, [])
  | .showError message => (app.setDialogs (.error message), [])
  | .refreshKernels => (app, [.discovery app.flags])
  | .runTransaction => (app, [app.transactionTask])
  | .authenticate => (app, [])
  | .prepareConfiguration =>
      let (app, task) := app.configureTask
      (app, [task])
  | .runBuild _ =>
      let app := { app with buildEpoch := app.buildEpoch + 1 }
      (app, [.build (app.buildJob app.buildEpoch)])
  | .installArtifacts => (app, [.artifacts (app.artifactsJob app.buildEpoch)])
  | .showScxWindow => (app, [.scxInit app.flags.configPath])
  | .close => (app, [.exit])

def runEffects (app : App) : List Effect → App × List Task
  | [] => (app, [])
  | effect :: effects =>
      let (app, tasks) := app.runEffect effect
      let (app, later) := app.runEffects effects
      (app, tasks ++ later)

def onEvent (app : App) (event : AppEvent) : App × List Task :=
  let (next, effects) := transition app.state event
  { app with state := next }.runEffects effects

def projectChecked (app : App) (row : Nat) (raw : String) : App :=
  let rows := match app.state.selection.rows[row]? with
    | some core => app.rows.modify row fun view => { view with checked := core.checked }
    | none => app.rows
  let sortedRows := match rows[row]? with
    | some shown =>
        app.sortedRows.modify (app.sortedRows.findIdx (·.raw = raw)) fun view =>
          { view with checked := shown.checked }
    | none => app.sortedRows
  { app with rows := rows, sortedRows := sortedRows }

def onSemantic (vercmp : String → String → Ordering) (app : App) :
    Message → App × List Task
  | .variantChanged variant =>
      ({ app with
          configure := app.configure.onVariantChanged variant []
          state :=
            { app.state with buildOptions := { app.state.buildOptions with variant := variant } } },
        [])
  | .patchAdded entry => (app.setConfigure (app.configure.addRemotePatch entry), [])
  | .patchRemoved index => (app.setConfigure (app.configure.removePatch index), [])
  | .patchMoved _ _ => (app, [])
  | .configLoaded config =>
      let (configure, outdated) := app.configure.loadConfig config
      let app := app.setConfigure configure
      if outdated then
        (app.setDialogs (.error (app.locale.tr TrCtx.conf "Config file(%1) is outdated")), [])
      else (app, [])
  | .schedulerChanged scheduler _ =>
      ({ app with scx := app.scx.map (·.onSchedChanged scheduler defaultConfig) }, [])
  | .kernelToggled raw =>
      match app.rows.findIdx? (·.raw = raw) with
      | none => (app, [])
      | some row =>
          let (app, tasks) := app.onEvent (.kernelToggled row)
          ((app.projectChecked row raw).recomputeSort vercmp, tasks)
  | .executeRequested => app.onEvent .executeRequested
  | .configureRequested => app.onEvent .configureRequested
  | .buildRequested => app.onEvent .buildRequested
  | .installArtifactsRequested => app.onEvent .installArtifactsRequested
  | .closeRequested => app.onEvent .closeRequested
  | .cancelRequested => app.onEvent .closeRequested
  | .configurationCancelRequested => app.onEvent .configurationCancelRequested
  | .configurationCloseRequested => app.onEvent .configurationCloseRequested
  | .schedextRequested => app.onEvent .scxShowRequested
  | .scxCloseRequested => app.onEvent .scxWindowClosed

def new (flags : Flags) (locale : ResolvedLocale) : App × List Task :=
  App.onEvent { locale := locale, flags := flags } .started

def cancelBuildProcess (app : App) : App :=
  { app with buildEpoch := app.buildEpoch + 1, buildProc := none }

def rawName (raw : String) : String :=
  match (raw.toList.splitOn '/')[1]? with
  | some name => String.ofList name
  | none => raw

def kernelRow (installed : String → Option Provenance) (view : KernelRowView) : KernelRow where
  raw := view.raw
  name := rawName view.raw
  installed := (installed (rawName view.raw)).isSome
  immutable := view.immutable
  updateAvailable := view.updateAvailable
  checked := view.checked

def loadCatalog (vercmp : String → String → Ordering) (app : App) (payload : CatalogPayload) :
    App :=
  let app :=
    { app with
      state :=
        { app.state with selection := { rows := payload.rows.map (kernelRow payload.installed) } }
      rows := payload.rows
      kernels := payload.kernels
      installed := payload.installed
      hardware := payload.hardware
      sortedRows := payload.rows }
  app.recomputeSort vercmp

def clearCatalog (app : App) (message : String) : App :=
  { app with
    rows := []
    kernels := fun _ => none
    installed := fun _ => none
    hardware := {}
    state :=
      { app.state with
        selection := { rows := [] }
        dialogs := .error (replace (app.locale.tr TrCtx.main failedAlpmInit) "%1" message) } }

end App

namespace ConfigureWindowModel

def toggleCheck (window : ConfigureWindowModel) : ConfCheck → ConfigureWindowModel
  | .hardly => { window with hardlyChecked := !window.hardlyChecked }
  | .perGov => { window with perGovChecked := !window.perGovChecked }
  | .tcpBbr3 => { window with tcpBbr3Checked := !window.tcpBbr3Checked }
  | .cachyConfig =>
      { window with
        switch :=
          { window.switch with cachyConfigChecked := !window.switch.cachyConfigChecked } }
  | .nconfig => { window with nconfigChecked := !window.nconfigChecked }
  | .xconfig => { window with xconfigChecked := !window.xconfigChecked }
  | .localmodcfg => { window with localmodcfgChecked := !window.localmodcfgChecked }
  | .useCurrent => { window with useCurrentChecked := !window.useCurrentChecked }
  | .zfs =>
      { window with switch := { window.switch with zfsChecked := !window.switch.zfsChecked } }
  | .nvidiaOpen =>
      { window with builtinNvidiaOpenChecked := !window.builtinNvidiaOpenChecked }
  | .buildDebug => { window with buildDebugChecked := !window.buildDebugChecked }

def applyPatchOp (window : ConfigureWindowModel) : ConfPatchOp → ConfigureWindowModel
  | .moveUp index => window.moveUp index
  | .moveDown index => window.moveDown index
  | .remove index => window.removePatch index

end ConfigureWindowModel

namespace App

def bumpPatchEpoch (app : App) : App := { app with patchEpoch := app.patchEpoch + 1 }

def refreshPatches (app : App) : App × List Task :=
  let app := app.bumpPatchEpoch
  (app, [app.refreshPatchesTask app.patchEpoch])

def editOptions (app : App) (configure : ConfigureWindowModel) : App :=
  (app.setConfigure configure).syncBuildOptions

def scxApply (app : App) : App × List Task :=
  match app.scx with
  | none => (app, [])
  | some scx =>
      match SupportedSched.fromStr scx.scheduler with
      | .error message => (app.setDialogs (.error message), [])
      | .ok _ =>
          (app,
            [.scxApply
              { scheduler := scx.scheduler
                mode := scx.scxMode
                flags := trim scx.flags
                config := scx.config
                configPath := scx.configPath }])

def pathDialogTitle (app : App) : PathDialogKind → String
  | .loadConfig => app.locale.tr TrCtx.conf "Load from"
  | .saveConfig => app.locale.tr TrCtx.conf "Save file as"
  | .addRemotePatch => app.locale.tr TrCtx.conf "Enter URL patch"
  | .addLocalPatch => app.locale.tr TrCtx.conf "Select one or more patch files"

def pathDialogSubmitted (app : App) : App × List Task :=
  match app.pathDialog with
  | none => (app, [])
  | some dialog =>
      let app := { app with pathDialog := none }
      match dialog.onSubmit with
      | .loadConfig => (app, [.loadConfig dialog.value])
      | .saveConfig => (app, [.saveConfig dialog.value app.configure.toConfig])
      | .addRemotePatch =>
          if (trim dialog.value).isEmpty then (app, [])
          else
            ((app.setConfigure (app.configure.addRemotePatch dialog.value)).bumpPatchEpoch, [])
      | .addLocalPatch =>
          if (trim dialog.value).isEmpty then (app, [])
          else
            ((app.setConfigure (app.configure.addLocalPatches [dialog.value])).bumpPatchEpoch,
              [])

end App

def Message.cancelsBuild : Message → Bool
  | .configurationCancelRequested | .configurationCloseRequested => true
  | _ => false

/-- One message to the courted transition, the model updates around it and the tasks to
start. `vercmp` is the package manager's version comparison. -/
def update (vercmp : String → String → Ordering) (app : App) :
    UiMessage → App × List Task
  | .semantic message =>
      -- The Configure window's Cancel and Close own the build in flight.
      let app :=
        if message.cancelsBuild && app.state.build.inFlight then app.cancelBuildProcess else app
      app.onSemantic vercmp message
  | .catalogLoaded payload =>
      let (app, tasks) := (app.loadCatalog vercmp payload).onEvent .discoveryFinished
      if payload.rows.isEmpty then
        (app.setDialogs (.error (app.locale.tr TrCtx.main noKernels)), tasks)
      else (app, tasks)
  | .discoveryFailed message => (app.clearCatalog message).onEvent .discoveryFinished
  | .configureFailed message =>
      (app.setDialogs (.error message)).onEvent .configurationCancelRequested
  | .taskFailed message => (app.setDialogs (.error message), [])
  | .transactionStarted => app.onEvent .transactionStarted
  | .transactionFinished changed => app.onEvent (.transactionFinished changed)
  | .transactionFailed message => app.onEvent (.transactionFailed message)
  | .configError message => (app.setDialogs (.error message), [])
  | .configurePrepared generation patches =>
      -- The list belongs to the newest probe; an edit made meanwhile outdates this one too.
      if generation ≠ app.patchEpoch then (app, [])
      else (app.editOptions (app.configure.resetPatches patches)).onEvent .configurePrepared
  | .patchesRefreshed generation patches =>
      if generation ≠ app.patchEpoch then (app, [])
      else (app.setConfigure (app.configure.resetPatches patches), [])
  | .buildFinished success =>
      let (app, tasks) := app.onEvent (.buildFinished success)
      if success then
        (app.setDialogs (.confirm (app.locale.tr TrCtx.conf installBuildPackages)), tasks)
      else (app, tasks)
  | .artifactsInstalled => app.onEvent .artifactsInstalled
  | .scxInit model =>
      let app := match model.critical with
        | some critical => app.setDialogs (.error critical)
        | none => app
      ({ app with scx := some { model with critical := none } }, [])
  | .scxApplied ok =>
      match ok, app.scx with
      | false, some scx =>
          match scx.applyDecision false with
          | some critical => (app.setDialogs (.error critical), [])
          | none => (app, [])
      | _, _ => (app, [])
  | .scxDisabled ok =>
      match ok, app.scx with
      | false, some scx =>
          match scx.disableCritical false with
          | some critical => (app.setDialogs (.error critical), [])
          | none => (app, [])
      | _, _ => (app, [])
  | .dialogDismissed =>
      let app := app.setDialogs .none
      if app.state.transaction = .failed then app.onEvent .transactionErrorAcknowledged
      else (app, [])
  | .installQuestion yes =>
      let app := app.setDialogs .none
      if yes then app.onEvent .installArtifactsRequested else app.onEvent .installDeclined
  | .customNameChanged value =>
      (app.editOptions { app.configure with customName := value }, [])
  | .scxFlagsChanged value =>
      ({ app with scx := app.scx.map fun scx => { scx with flags := value } }, [])
  | .configLoaded config =>
      let (app, tasks) := app.onSemantic vercmp (.configLoaded config)
      let (app, refresh) := app.syncBuildOptions.refreshPatches
      (app, tasks ++ refresh)
  | .exit => (app, [.exit])
  | .sortRequested column =>
      let app :=
        if app.sortColumn = column then { app with sortAscending := !app.sortAscending }
        else { app with sortColumn := column, sortAscending := true }
      (app.recomputeSort vercmp, [])
  | .confTabClicked tab => ({ app with confTab := tab }, [])
  | .checkToggled check =>
      let app := app.editOptions (app.configure.toggleCheck check)
      if check = .nvidiaOpen then app.refreshPatches else (app, [])
  | .patchOp op =>
      ((app.setConfigure (app.configure.applyPatchOp op)).bumpPatchEpoch, [])
  | .variantPicked variant =>
      let (app, tasks) := app.onSemantic vercmp (.variantChanged variant)
      let (app, refresh) := app.syncBuildOptions.refreshPatches
      (app, tasks ++ refresh)
  | .ltoPicked lto =>
      let switch := { app.configure.switch with ltoSelected := lto }
      (app.editOptions { app.configure with switch := switch }).refreshPatches
  | .preemptPicked preempt =>
      let switch := { app.configure.switch with preemptSelected := preempt }
      (app.editOptions { app.configure with switch := switch }, [])
  | .hzPicked hz =>
      let switch := { app.configure.switch with hzSelected := hz }
      (app.editOptions { app.configure with switch := switch }, [])
  | .ticklessPicked tickless =>
      (app.editOptions { app.configure with tickless := tickless }, [])
  | .hugepagePicked hugepage =>
      (app.editOptions { app.configure with hugepage := hugepage }, [])
  | .cpuOptPicked cpuOpt => (app.editOptions { app.configure with cpuOpt := cpuOpt }, [])
  | .scxWindowClosed => app.onEvent .scxWindowClosed
  | .scxApply => app.scxApply
  | .scxDisable =>
      match app.scx with
      | some scx => (app, [.scxDisable scx.config scx.configPath])
      | none => (app, [])
  | .scxSchedulerPicked scheduler =>
      ({ app with scx := app.scx.map fun scx => scx.onSchedChanged scheduler scx.config }, [])
  | .scxProfilePicked profile =>
      ({ app with scx := app.scx.map fun scx => scx.onProfileChanged profile scx.config }, [])
  | .pathDialogOpened kind =>
      ({ app with
          pathDialog := some { title := app.pathDialogTitle kind, value := "", onSubmit := kind } },
        [])
  | .pathDialogChanged value =>
      ({ app with
          pathDialog := app.pathDialog.map fun dialog => { dialog with value := value } }, [])
  | .pathDialogDismissed => ({ app with pathDialog := none }, [])
  | .pathDialogSubmitted => app.pathDialogSubmitted

end KernelManager
