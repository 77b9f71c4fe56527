import KernelManager.Ui.Captured

/-! The generation of the patch list: which messages advance it, which of them start a prepare
and when the progress dialog of the prepare is up. -/

namespace KernelManager

def UiMessage.requestsConfigure : UiMessage → Bool
  | .semantic .configureRequested => true
  | _ => false

/-- The messages after which an earlier probe of the source array is stale. -/
def UiMessage.bumpsPatchEpoch (app : App) : UiMessage → Bool
  | .semantic .configureRequested | .configLoaded _ | .variantPicked _ | .ltoPicked _
  | .patchOp _ => true
  | .checkToggled check => check = .nvidiaOpen
  | .pathDialogSubmitted => app.pathDialog.any fun dialog => !dialog.patches.isEmpty
  | _ => false

def DialogsState.isPreparing : DialogsState → Bool
  | .progress message => message == preparingConfiguration
  | _ => false

def Task.prepareGeneration : Task → Option Nat
  | .configure job => some job.generation
  | _ => none

structure PrepareView where
  epoch : Nat
  preparing : Bool
  prepares : List Nat

def prepareView (result : App × List Task) : PrepareView where
  epoch := result.1.patchEpoch
  preparing := result.1.state.dialogs.isPreparing
  prepares := result.2.filterMap Task.prepareGeneration

def AppEvent.prepares : AppEvent → Bool
  | .configureRequested => true
  | _ => false

def AppEvent.showsPreparing (preparing : Bool) : AppEvent → Bool
  | .configureRequested => true
  | .started | .discoveryFinished | .transactionFinished _ | .transactionFailed _
  | .configurePrepared | .configurationCancelRequested | .configurationCloseRequested => false
  | _ => preparing

def Impact.showsPreparing (preparing : Bool) (impact : Impact) : Bool :=
  impact.posts.isNone &&
    match impact.event with
    | some event => event.showsPreparing preparing
    | none => preparing

def advanced (app : App) (bumps prepares preparing : Bool) : PrepareView where
  epoch := app.patchEpoch + bumps.toNat
  preparing := preparing
  prepares := if prepares then [app.patchEpoch + 1] else []

theorem hideProgress_prepareView (app : App) :
    prepareView (if app.state.dialogs.isProgress then app.setDialogs .none else app, []) =
      advanced app false false false := by
  rcases dialogs : app.state.dialogs with _ | _ | _ | _ <;>
    simp [prepareView, advanced, DialogsState.isProgress, DialogsState.isPreparing,
      App.setDialogs, dialogs]

theorem onEvent_prepareView (app : App) (event : AppEvent) :
    prepareView (app.onEvent event) =
      advanced app event.prepares event.prepares
        (event.showsPreparing app.state.dialogs.isPreparing) := by
  cases event with
  | started => rfl
  | discoveryFinished => exact hideProgress_prepareView _
  | executeRequested =>
      simp only [App.onEvent, transition]
      split <;> rfl
  | transactionFinished changed =>
      cases changed with
      | true => rfl
      | false => exact hideProgress_prepareView _
  | configurePrepared => exact hideProgress_prepareView _
  | buildRequested =>
      simp only [App.onEvent, transition]
      split <;> rfl
  | configureRequested => rfl
  | configurationCancelRequested => exact hideProgress_prepareView _
  | configurationCloseRequested => exact hideProgress_prepareView _
  | _ => rfl

theorem onSemantic_prepareView (vercmp : String → String → Ordering) (app : App)
    (message : Message) :
    prepareView (app.onSemantic vercmp message) =
      advanced app (UiMessage.semantic message).requestsConfigure
        (UiMessage.semantic message).requestsConfigure
        ((message.impact app).showsPreparing app.state.dialogs.isPreparing) := by
  cases message with
  | kernelToggled raw =>
      simp only [App.onSemantic, Message.impact]
      cases app.rows.findIdx? (·.raw = raw) <;> rfl
  | configLoaded config =>
      simp only [App.onSemantic, Message.impact]
      cases (app.configure.loadConfig config).2 <;> rfl
  | patchAdded entry => rfl
  | patchRemoved index => rfl
  | patchMoved source target => rfl
  | schedulerChanged scheduler mode => rfl
  | variantChanged variant => rfl
  | _ => exact onEvent_prepareView app _

theorem cancelled_prepareView (app : App) (cancelled bumps prepares preparing : Bool) :
    advanced (if cancelled then app.cancelBuildProcess else app) bumps prepares preparing =
      advanced app bumps prepares preparing := by
  cases cancelled <;> rfl

theorem cancelled_dialogs (app : App) (cancelled : Bool) :
    (if cancelled then app.cancelBuildProcess else app).state.dialogs = app.state.dialogs := by
  cases cancelled <;> rfl

theorem cancelled_impact (app : App) (message : Message) (cancelled : Bool) :
    message.impact (if cancelled then app.cancelBuildProcess else app) = message.impact app := by
  cases cancelled
  · rfl
  · exact message_impact_congr _ _ message rfl rfl

theorem update_prepareView (vercmp : String → String → Ordering) (app : App)
    (message : UiMessage) :
    prepareView (update vercmp app message) =
      advanced app (message.bumpsPatchEpoch app) message.requestsConfigure
        ((message.impact app).showsPreparing app.state.dialogs.isPreparing) := by
  cases message with
  | semantic message =>
      have bumps : (UiMessage.semantic message).bumpsPatchEpoch app =
          (UiMessage.semantic message).requestsConfigure := by
        cases message <;> rfl
      simp only [update, UiMessage.impact]
      rw [onSemantic_prepareView, cancelled_prepareView, cancelled_dialogs, cancelled_impact, bumps]
  | catalogLoaded payload =>
      have finished := onEvent_prepareView (app.loadCatalog vercmp payload) .discoveryFinished
      simp only [update, UiMessage.impact]
      cases payload.rows.isEmpty
      · exact finished
      · exact congrArg (fun view : PrepareView => { view with preparing := false }) finished
  | discoveryFailed text => rfl
  | configureFailed text => rfl
  | transactionStarted => exact onEvent_prepareView _ _
  | transactionFinished changed => exact onEvent_prepareView _ _
  | transactionFailed text => exact onEvent_prepareView _ _
  | configurePrepared generation patches =>
      simp only [update, UiMessage.impact]
      split
      · rfl
      · exact onEvent_prepareView _ _
  | patchesRefreshed generation patches =>
      simp only [update]
      split <;> rfl
  | buildFinished success => cases success <;> rfl
  | artifactsInstalled => exact onEvent_prepareView _ _
  | scxInit model =>
      simp only [update, UiMessage.impact]
      cases model.critical <;> rfl
  | scxApplied ok =>
      simp only [update, UiMessage.impact]
      cases ok <;> cases app.scx <;> rfl
  | scxDisabled ok =>
      simp only [update, UiMessage.impact]
      cases ok <;> cases app.scx <;> rfl
  | dialogDismissed =>
      have kept : (app.setDialogs .none).state.transaction = app.state.transaction := rfl
      simp only [update, UiMessage.impact, kept]
      by_cases failed : app.state.transaction = .failed
      · simp only [failed, ↓reduceIte]
        rfl
      · simp only [failed, ↓reduceIte]
        rfl
  | installQuestion yes => cases yes <;> rfl
  | configLoaded config =>
      simp only [update, App.onSemantic, UiMessage.impact]
      cases (app.configure.loadConfig config).2 <;> rfl
  | sortRequested column =>
      simp only [update]
      split <;> rfl
  | checkToggled check =>
      cases check <;> rfl
  | scxWindowClosed => exact onEvent_prepareView _ _
  | scxApply =>
      simp only [update, App.scxApply, UiMessage.impact, App.unknownScheduler]
      cases app.scx with
      | none => rfl
      | some scx =>
          cases parsed : SupportedSched.fromStr scx.scheduler <;> simp only [parsed] <;> rfl
  | scxDisable =>
      simp only [update]
      cases app.scx <;> rfl
  | pathDialogSubmitted =>
      simp only [update, App.pathDialogSubmitted, UiMessage.bumpsPatchEpoch]
      cases app.pathDialog with
      | none => rfl
      | some dialog =>
          cases kind : dialog.onSubmit with
          | loadConfig => simp only [Option.any_some, PathDialog.patches, kind]; rfl
          | saveConfig => simp only [Option.any_some, PathDialog.patches, kind]; rfl
          | addRemotePatch =>
              simp only [Option.any_some, PathDialog.patches, kind]
              split <;> rfl
          | addLocalPatch =>
              simp only [Option.any_some, PathDialog.patches, kind]
              split <;> rfl
  | _ => rfl

theorem update_patchEpoch (vercmp : String → String → Ordering) (app : App)
    (message : UiMessage) :
    (update vercmp app message).1.patchEpoch =
      app.patchEpoch + (message.bumpsPatchEpoch app).toNat :=
  congrArg PrepareView.epoch (update_prepareView vercmp app message)

theorem update_prepares (vercmp : String → String → Ordering) (app : App)
    (message : UiMessage) :
    (update vercmp app message).2.filterMap Task.prepareGeneration =
      if message.requestsConfigure then [app.patchEpoch + 1] else [] :=
  congrArg PrepareView.prepares (update_prepareView vercmp app message)

end KernelManager
