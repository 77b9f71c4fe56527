import KernelManager.Library.Machine
import KernelManager.Ui.App

/-! Which messages can arrive: those of the controls a window offers, and the results of
background tasks. -/

namespace KernelManager

def App.overlayUp (app : App) : Bool :=
  app.state.dialogs ≠ .none || app.pathDialog.isSome

def App.configureShown (app : App) : Bool := app.state.configuration ≠ .closed

def App.scxEnabled (app : App) : Bool :=
  app.state.scx = .visible && app.scx.any (·.enabled)

/-- The controls a user can reach: while the overlay is up only its own buttons and the
closing of windows. -/
def offers (app : App) : UiMessage → Bool
  | .semantic (.kernelToggled _) | .semantic .configureRequested | .semantic .cancelRequested
  | .semantic .schedextRequested | .sortRequested _ => !app.overlayUp
  | .semantic .executeRequested => !app.overlayUp && app.state.executeEnabled
  | .semantic .buildRequested =>
      !app.overlayUp && app.configureShown && !app.state.build.inFlight
  | .semantic .configurationCancelRequested | .customNameChanged _ | .confTabClicked _
  | .checkToggled _ | .patchOp _ | .variantPicked _ | .ltoPicked _ | .preemptPicked _
  | .hzPicked _ | .ticklessPicked _ | .hugepagePicked _ | .cpuOptPicked _
  | .pathDialogOpened _ => !app.overlayUp && app.configureShown
  | .scxFlagsChanged _ | .scxApply | .scxDisable | .scxSchedulerPicked _
  | .scxProfilePicked _ => !app.overlayUp && app.scxEnabled
  | .semantic .configurationCloseRequested => app.configureShown
  | .semantic .scxCloseRequested | .scxWindowClosed => app.state.scx = .visible
  | .semantic .closeRequested => true
  | .dialogDismissed => app.state.dialogs.isError
  | .installQuestion _ => app.state.dialogs.isConfirm
  | .pathDialogChanged _ | .pathDialogDismissed | .pathDialogSubmitted => app.pathDialog.isSome
  | _ => false

/-- What background tasks send back; a config save reports success as `dialogDismissed`. -/
def workerResult : UiMessage → Bool
  | .catalogLoaded _ | .discoveryFailed _ | .configureFailed _ | .taskFailed _
  | .transactionStarted | .transactionFinished _ | .transactionFailed _ | .configError _
  | .configurePrepared _ _ | .patchesRefreshed _ _ | .buildFinished _ | .artifactsInstalled
  | .scxInit _ | .scxApplied _ | .scxDisabled _ | .configLoaded _ | .dialogDismissed => true
  | _ => false

def permitted (app : App) (message : UiMessage) : Prop :=
  offers app message = true ∨ workerResult message = true

instance (app : App) (message : UiMessage) : Decidable (permitted app message) :=
  inferInstanceAs (Decidable (_ ∨ _))

def step (vercmp : String → String → Ordering) (app : App) (message : UiMessage) : App :=
  (update vercmp app message).1

def App.initial (flags : Flags) (locale : ResolvedLocale) : App := (App.new flags locale).1

namespace Sample

def flags : Flags where
  home := "/home/user"
  systemLocale := "C"
  configPath := "/etc/scx_loader.toml"
  aurEnabled := false

def locale : ResolvedLocale where
  tr := fun _ source => source

def vercmp (_left _right : String) : Ordering := .eq

def app : App := App.initial flags locale

def kernel : DiscoveredKernel where
  repo := "cachyos"
  name := "linux-cachyos"
  headers := "linux-cachyos-headers"
  version := "6.14.1-1"
  companions := {}
  raw := "cachyos/linux-cachyos"

def catalog : CatalogPayload where
  rows := KernelManager.rows [kernel] (fun _ => none) vercmp
  kernels := kernelsByRaw [kernel]

end Sample

end KernelManager
