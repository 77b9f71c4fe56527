import KernelManager.Ui.App

/-!
The control components of the application: what one message does to the catalog,
transaction, configuration and build states, to the single dialog slot, and which
operations it starts.
-/

namespace KernelManager

inductive Slot
  | free | progress | error | confirm
  deriving DecidableEq, Repr

def DialogsState.slot : DialogsState → Slot
  | .none => .free
  | .progress _ => .progress
  | .error _ => .error
  | .confirm _ => .confirm

def Slot.hideProgress (slot : Slot) : Slot := if slot = .progress then .free else slot

structure Control where
  catalog : CatalogState
  transaction : TransactionState
  configuration : ConfigurationState
  build : BuildState
  slot : Slot
  deriving DecidableEq, Repr

def AppState.control (state : AppState) : Control where
  catalog := state.catalog
  transaction := state.transaction
  configuration := state.configuration
  build := state.build
  slot := state.dialogs.slot

inductive Operation
  | discovery | transaction | build | artifacts
  deriving DecidableEq, Repr

def Task.operation : Task → Option Operation
  | .discovery _ => some .discovery
  | .transaction _ => some .transaction
  | .build _ => some .build
  | .artifacts _ => some .artifacts
  | _ => none

namespace Control

def transactionInProgress (control : Control) : Bool :=
  match control.transaction with
  | .planning | .authenticating | .running => true
  | _ => false

def react (control : Control) : AppEvent → Control
  | .started => { control with slot := .progress }
  | .discoveryFinished =>
      { control with
        catalog := .loaded
        transaction :=
          if control.catalog = .refreshPending then .idle else control.transaction
        slot := control.slot.hideProgress }
  | .executeRequested =>
      if control.transactionInProgress then control else { control with transaction := .planning }
  | .transactionStarted => { control with transaction := .running }
  | .transactionFinished changed =>
      if changed then
        { control with
          transaction := .complete changed, catalog := .refreshPending, slot := .progress }
      else
        { control with
          transaction := .idle, catalog := .loaded, slot := control.slot.hideProgress }
  | .transactionFailed _ => { control with transaction := .failed, slot := .error }
  | .transactionErrorAcknowledged => { control with transaction := .idle }
  | .configureRequested => { control with configuration := .preparing, slot := .progress }
  | .configurePrepared =>
      { control with configuration := .editing, slot := control.slot.hideProgress }
  | .buildRequested =>
      if control.build.inFlight then control else { control with build := .running }
  | .buildFinished success =>
      { control with build := if success then .awaitingInstallDecision else .failed }
  | .installArtifactsRequested => { control with build := .installing }
  | .installDeclined => { control with build := .idle }
  | .artifactsInstalled => { control with build := .idle }
  | .configurationCancelRequested =>
      { control with configuration := .closed, slot := control.slot.hideProgress }
  | .configurationCloseRequested =>
      { control with configuration := .closed, slot := control.slot.hideProgress }
  | .kernelToggled _ | .scxShowRequested | .closeRequested | .scxWindowClosed => control

def operations (control : Control) : AppEvent → List Operation
  | .started => [.discovery]
  | .executeRequested => if control.transactionInProgress then [] else [.transaction]
  | .transactionFinished changed => if changed then [.discovery] else []
  | .buildRequested => if control.build.inFlight then [] else [.build]
  | .installArtifactsRequested => [.artifacts]
  | _ => []

end Control

/-- The core event that a message raises, and the dialog that it puts up itself. -/
structure Impact where
  event : Option AppEvent := none
  posts : Option Slot := none

def Control.after (control : Control) (impact : Impact) : Control :=
  let control := match impact.event with
    | some event => control.react event
    | none => control
  { control with slot := impact.posts.getD control.slot }

def Control.started (control : Control) (impact : Impact) : List Operation :=
  match impact.event with
  | some event => control.operations event
  | none => []

def postsIf (condition : Bool) (slot : Slot) : Option Slot :=
  if condition then some slot else none

def Message.impact (app : App) : Message → Impact
  | .kernelToggled raw => { event := (app.rows.findIdx? (·.raw = raw)).map .kernelToggled }
  | .executeRequested => { event := some .executeRequested }
  | .configureRequested => { event := some .configureRequested }
  | .configLoaded config => { posts := postsIf (app.configure.loadConfig config).2 .error }
  | .cancelRequested => { event := some .closeRequested }
  | .configurationCancelRequested => { event := some .configurationCancelRequested }
  | .configurationCloseRequested => { event := some .configurationCloseRequested }
  | .closeRequested => { event := some .closeRequested }
  | .buildRequested => { event := some .buildRequested }
  | .installArtifactsRequested => { event := some .installArtifactsRequested }
  | .schedextRequested => { event := some .scxShowRequested }
  | .scxCloseRequested => { event := some .scxWindowClosed }
  | .patchAdded _ | .patchRemoved _ | .patchMoved _ _ | .schedulerChanged _ _
  | .variantChanged _ => {}

def App.unknownScheduler (app : App) : Bool :=
  match app.scx with
  | some scx =>
      match SupportedSched.fromStr scx.scheduler with
      | .error _ => true
      | .ok _ => false
  | none => false

def UiMessage.impact (app : App) : UiMessage → Impact
  | .semantic message => message.impact app
  | .catalogLoaded payload =>
      { event := some .discoveryFinished, posts := postsIf payload.rows.isEmpty .error }
  | .discoveryFailed _ => { event := some .discoveryFinished, posts := some .error }
  | .configureFailed _ =>
      { event := some .configurationCancelRequested, posts := some .error }
  | .taskFailed _ | .configError _ => { posts := some .error }
  | .transactionStarted => { event := some .transactionStarted }
  | .transactionFinished changed => { event := some (.transactionFinished changed) }
  | .transactionFailed message => { event := some (.transactionFailed message) }
  | .configurePrepared generation _ =>
      { event := if generation ≠ app.patchEpoch then none else some .configurePrepared }
  | .buildFinished success =>
      { event := some (.buildFinished success), posts := postsIf success .confirm }
  | .artifactsInstalled => { event := some .artifactsInstalled }
  | .scxInit model => { posts := postsIf model.critical.isSome .error }
  | .scxApplied ok | .scxDisabled ok => { posts := postsIf (!ok && app.scx.isSome) .error }
  | .dialogDismissed =>
      { event :=
          if app.state.transaction = .failed then some .transactionErrorAcknowledged else none
        posts := some .free }
  | .installQuestion yes =>
      { event := some (if yes then .installArtifactsRequested else .installDeclined)
        posts := some .free }
  | .configLoaded config => { posts := postsIf (app.configure.loadConfig config).2 .error }
  | .scxWindowClosed => { event := some .scxWindowClosed }
  | .scxApply => { posts := postsIf app.unknownScheduler .error }
  | _ => {}

def UiMessage.refreshesPatches : UiMessage → Bool
  | .configLoaded _ | .variantPicked _ | .ltoPicked _ => true
  | .checkToggled check => check = .nvidiaOpen
  | _ => false

/-- The tasks that a message starts without a core event and without a refresh. -/
def UiMessage.ownTasks (app : App) : UiMessage → List Task
  | .exit => [.exit]
  | .scxApply => app.scxApply.2
  | .scxDisable =>
      match app.scx with
      | some scx => [.scxDisable scx.config scx.configPath]
      | none => []
  | .pathDialogSubmitted => app.pathDialogSubmitted.2
  | _ => []

/-- A tasks list is started by an event of an app that agrees on what the event's tasks are
gated by, by a refresh of the patches, or by the message itself. -/
inductive Starts (app : App) (message : UiMessage) : List Task → Prop
  | event (base : App) (event : AppEvent) (raised : (message.impact app).event = some event)
      (transaction : base.state.transaction = app.state.transaction)
      (build : base.state.build = app.state.build) (patchEpoch : base.patchEpoch = app.patchEpoch)
      (quiet : message.refreshesPatches = false) :
      Starts app message (base.onEvent event).2
  | refresh (base : App) (silent : (message.impact app).event = none)
      (refreshes : message.refreshesPatches = true) :
      Starts app message [base.refreshPatchesTask (app.patchEpoch + 1)]
  | own (silent : (message.impact app).event = none)
      (quiet : message.refreshesPatches = false) : Starts app message (message.ownTasks app)

theorem runEffects_field {Field : Type*} (field : App → Field)
    (kept : ∀ app effect, field (App.runEffect app effect).1 = field app) (app : App)
    (effects : List Effect) : field (app.runEffects effects).1 = field app := by
  induction effects generalizing app with
  | nil => rfl
  | cons effect effects ih =>
      simp only [App.runEffects]
      rw [ih, kept]

theorem hideProgress_slot (app : App) :
    (if app.state.dialogs.isProgress then app.setDialogs .none else app).state.control =
      { app.state.control with slot := app.state.control.slot.hideProgress } := by
  rcases dialogs : app.state.dialogs with _ | _ | _ | _ <;>
    simp [AppState.control, DialogsState.isProgress, DialogsState.slot, Slot.hideProgress,
      App.setDialogs, dialogs]

theorem control_transactionInProgress (state : AppState) :
    state.control.transactionInProgress = state.transactionInProgress := rfl

theorem onEvent_control (app : App) (event : AppEvent) :
    (app.onEvent event).1.state.control = app.state.control.react event := by
  cases event with
  | discoveryFinished => exact hideProgress_slot _
  | executeRequested =>
      cases busy : app.state.transactionInProgress <;>
        simp only [App.onEvent, transition, Control.react, control_transactionInProgress, busy,
          Bool.false_eq_true, ↓reduceIte] <;> rfl
  | transactionFinished changed =>
      cases changed with
      | true => rfl
      | false => exact hideProgress_slot _
  | configurePrepared => exact hideProgress_slot _
  | buildRequested =>
      cases busy : app.state.build.inFlight <;>
        simp only [App.onEvent, transition, Control.react, AppState.control, busy,
          Bool.false_eq_true, ↓reduceIte] <;> rfl
  | configurationCancelRequested => exact hideProgress_slot _
  | configurationCloseRequested => exact hideProgress_slot _
  | _ => rfl

theorem onEvent_operations (app : App) (event : AppEvent) :
    (app.onEvent event).2.filterMap Task.operation = app.state.control.operations event := by
  cases event with
  | executeRequested =>
      cases busy : app.state.transactionInProgress <;>
        simp only [App.onEvent, transition, Control.operations, control_transactionInProgress, busy,
          Bool.false_eq_true, ↓reduceIte] <;> rfl
  | transactionFinished changed => cases changed <;> rfl
  | buildRequested =>
      cases busy : app.state.build.inFlight <;>
        simp only [App.onEvent, transition, Control.operations, AppState.control, busy,
          Bool.false_eq_true, ↓reduceIte] <;> rfl
  | _ => rfl

theorem postsIf_getD (condition : Bool) (posted kept : Slot) :
    (postsIf condition posted).getD kept = if condition then posted else kept := by
  cases condition <;> rfl

theorem onSemantic_control (vercmp : String → String → Ordering) (app : App)
    (message : Message) :
    (app.onSemantic vercmp message).1.state.control =
      app.state.control.after (message.impact app) := by
  cases message with
  | kernelToggled raw =>
      simp only [App.onSemantic, Message.impact, Control.after]
      cases app.rows.findIdx? (·.raw = raw) <;> rfl
  | configLoaded config =>
      simp only [App.onSemantic, Message.impact, Control.after, postsIf_getD]
      cases (app.configure.loadConfig config).2 <;> rfl
  | patchAdded entry => rfl
  | patchRemoved index => rfl
  | patchMoved source target => rfl
  | schedulerChanged scheduler mode => rfl
  | variantChanged variant => rfl
  | _ => exact onEvent_control app _

theorem cancelled_control (app : App) (cancelled : Bool) :
    (if cancelled then app.cancelBuildProcess else app).state.control = app.state.control := by
  cases cancelled <;> rfl

theorem message_impact_congr (left right : App) (message : Message)
    (rows : left.rows = right.rows) (configure : left.configure = right.configure) :
    message.impact left = message.impact right := by
  cases message <;> simp [Message.impact, rows, configure]

theorem update_control (vercmp : String → String → Ordering) (app : App)
    (message : UiMessage) :
    (update vercmp app message).1.state.control =
      app.state.control.after (message.impact app) := by
  cases message with
  | semantic message =>
      simp only [update, UiMessage.impact]
      rw [onSemantic_control, cancelled_control]
      congr 1
      apply message_impact_congr <;> split <;> rfl
  | catalogLoaded payload =>
      have handled := onEvent_control (app.loadCatalog vercmp payload) .discoveryFinished
      simp only [update, UiMessage.impact, Control.after, postsIf_getD]
      cases payload.rows.isEmpty
      · exact handled
      · exact congrArg (fun control : Control => { control with slot := .error }) handled
  | discoveryFailed text => exact onEvent_control _ _
  | configureFailed text => exact onEvent_control _ _
  | transactionStarted => exact onEvent_control _ _
  | transactionFinished changed => exact onEvent_control _ _
  | transactionFailed text => exact onEvent_control _ _
  | configurePrepared generation patches =>
      simp only [update, UiMessage.impact, Control.after]
      split
      · rfl
      · exact onEvent_control _ _
  | patchesRefreshed generation patches =>
      simp only [update]
      split <;> rfl
  | buildFinished success => cases success <;> rfl
  | artifactsInstalled => exact onEvent_control _ _
  | scxInit model =>
      simp only [update, UiMessage.impact, Control.after]
      cases model.critical <;> rfl
  | scxApplied ok =>
      simp only [update, UiMessage.impact, Control.after]
      cases ok <;> cases app.scx <;> rfl
  | scxDisabled ok =>
      simp only [update, UiMessage.impact, Control.after]
      cases ok <;> cases app.scx <;> rfl
  | dialogDismissed =>
      have kept : (app.setDialogs .none).state.transaction = app.state.transaction := rfl
      simp only [update, UiMessage.impact, Control.after, kept]
      by_cases failed : app.state.transaction = .failed
      · simp only [failed, ↓reduceIte]
        rfl
      · simp only [failed, ↓reduceIte]
        rfl
  | installQuestion yes => cases yes <;> rfl
  | configLoaded config => exact onSemantic_control vercmp app (.configLoaded config)
  | sortRequested column =>
      simp only [update]
      split <;> rfl
  | checkToggled check =>
      simp only [update]
      split <;> rfl
  | scxWindowClosed => exact onEvent_control _ _
  | scxApply =>
      simp only [update, App.scxApply, UiMessage.impact, Control.after, App.unknownScheduler]
      cases app.scx with
      | none => rfl
      | some scx =>
          cases parsed : SupportedSched.fromStr scx.scheduler <;> simp only [parsed] <;> rfl
  | scxDisable =>
      simp only [update]
      cases app.scx <;> rfl
  | pathDialogSubmitted =>
      simp only [update, App.pathDialogSubmitted]
      split
      · rfl
      · rename_i dialog opened
        cases dialog.onSubmit with
        | addRemotePatch => simp only []; split <;> rfl
        | addLocalPatch => simp only []; split <;> rfl
        | _ => rfl
  | _ => rfl

theorem onSemantic_tasks (vercmp : String → String → Ordering) (app base : App)
    (message : Message) (transaction : base.state.transaction = app.state.transaction)
    (build : base.state.build = app.state.build) (patchEpoch : base.patchEpoch = app.patchEpoch)
    (rows : base.rows = app.rows) :
    Starts app (.semantic message) (base.onSemantic vercmp message).2 := by
  cases message with
  | kernelToggled raw =>
      simp only [App.onSemantic, rows]
      cases found : app.rows.findIdx? (·.raw = raw) with
      | none => exact .own (by simp [UiMessage.impact, Message.impact, found]) rfl
      | some row =>
          exact .event base _ (by simp [UiMessage.impact, Message.impact, found]) transaction
            build patchEpoch rfl
  | configLoaded config =>
      simp only [App.onSemantic]
      split <;> exact .own rfl rfl
  | patchAdded entry => exact .own rfl rfl
  | patchRemoved index => exact .own rfl rfl
  | patchMoved source target => exact .own rfl rfl
  | schedulerChanged scheduler mode => exact .own rfl rfl
  | variantChanged variant => exact .own rfl rfl
  | _ => exact .event base _ rfl transaction build patchEpoch rfl

theorem update_tasks (vercmp : String → String → Ordering) (app : App) (message : UiMessage) :
    Starts app message (update vercmp app message).2 := by
  cases message with
  | semantic message =>
      simp only [update]
      apply onSemantic_tasks <;> split <;> rfl
  | catalogLoaded payload =>
      simp only [update]
      split <;> exact .event (app.loadCatalog vercmp payload) _ rfl rfl rfl rfl rfl
  | discoveryFailed text => exact .event _ _ rfl rfl rfl rfl rfl
  | configureFailed text => exact .event _ _ rfl rfl rfl rfl rfl
  | transactionStarted => exact .event _ _ rfl rfl rfl rfl rfl
  | transactionFinished changed => exact .event _ _ rfl rfl rfl rfl rfl
  | transactionFailed text => exact .event _ _ rfl rfl rfl rfl rfl
  | configurePrepared generation patches =>
      simp only [update]
      split
      · rename_i stale
        exact .own (if_pos stale) rfl
      · rename_i current
        exact .event _ _ (if_neg current) rfl rfl rfl rfl
  | patchesRefreshed generation patches =>
      simp only [update]
      split <;> exact .own rfl rfl
  | buildFinished success =>
      simp only [update]
      split <;> exact .event app _ rfl rfl rfl rfl rfl
  | artifactsInstalled => exact .event _ _ rfl rfl rfl rfl rfl
  | scxApplied ok =>
      simp only [update]
      cases ok <;> cases app.scx <;> exact .own rfl rfl
  | scxDisabled ok =>
      simp only [update]
      cases ok <;> cases app.scx <;> exact .own rfl rfl
  | dialogDismissed =>
      simp only [update]
      split
      · rename_i failed
        exact .event _ _ (if_pos failed) rfl rfl rfl rfl
      · rename_i other
        exact .own (if_neg other) rfl
  | installQuestion yes =>
      cases yes with
      | true =>
          exact .event (app.setDialogs .none) .installArtifactsRequested rfl rfl rfl rfl rfl
      | false => exact .event (app.setDialogs .none) .installDeclined rfl rfl rfl rfl rfl
  | configLoaded config =>
      simp only [update, App.onSemantic]
      split <;> exact .refresh _ rfl rfl
  | variantPicked variant => exact .refresh _ rfl rfl
  | ltoPicked lto => exact .refresh _ rfl rfl
  | checkToggled check =>
      simp only [update]
      split
      · rename_i nvidia
        exact .refresh _ rfl (by simp [UiMessage.refreshesPatches, nvidia])
      · rename_i other
        exact .own rfl (by simp [UiMessage.refreshesPatches, other])
  | scxWindowClosed => exact .event _ _ rfl rfl rfl rfl rfl
  | scxDisable =>
      have disabled : (update vercmp app .scxDisable).2 = UiMessage.scxDisable.ownTasks app := by
        simp only [update, UiMessage.ownTasks]
        cases app.scx <;> rfl
      rw [disabled]
      exact .own rfl rfl
  | _ => exact .own rfl rfl

theorem pathDialogSubmitted_tasks (app : App) (task : Task)
    (started : task ∈ app.pathDialogSubmitted.2) :
    (∃ path, task = .loadConfig path) ∨ ∃ path config, task = .saveConfig path config := by
  simp only [App.pathDialogSubmitted] at started
  split at started
  · cases started
  · rename_i dialog opened
    cases kind : dialog.onSubmit with
    | loadConfig =>
        simp only [kind, List.mem_singleton] at started
        exact Or.inl ⟨_, started⟩
    | saveConfig =>
        simp only [kind, List.mem_singleton] at started
        exact Or.inr ⟨_, _, started⟩
    | addRemotePatch =>
        simp only [kind] at started
        split at started <;> cases started
    | addLocalPatch =>
        simp only [kind] at started
        split at started <;> cases started

theorem operations_congr (left right : Control) (event : AppEvent)
    (transaction : left.transaction = right.transaction) (build : left.build = right.build) :
    left.operations event = right.operations event := by
  have busy : left.transactionInProgress = right.transactionInProgress := by
    simp only [Control.transactionInProgress, transaction]
  cases event <;> simp only [Control.operations, busy, build]

theorem ownTasks_operations (app : App) (message : UiMessage) :
    (message.ownTasks app).filterMap Task.operation = [] := by
  cases message with
  | scxApply =>
      simp only [UiMessage.ownTasks, App.scxApply]
      split
      · rfl
      · split <;> rfl
  | scxDisable =>
      simp only [UiMessage.ownTasks]
      split <;> rfl
  | pathDialogSubmitted =>
      apply List.filterMap_eq_nil_iff.mpr
      intro task started
      rcases pathDialogSubmitted_tasks app task started with ⟨_, rfl⟩ | ⟨_, _, rfl⟩ <;> rfl
  | _ => rfl

theorem update_operations (vercmp : String → String → Ordering) (app : App)
    (message : UiMessage) :
    (update vercmp app message).2.filterMap Task.operation =
      app.state.control.started (message.impact app) := by
  have started := update_tasks vercmp app message
  generalize (update vercmp app message).2 = tasks at started ⊢
  cases started with
  | event base event raised transaction build patchEpoch quiet =>
      rw [onEvent_operations, Control.started, raised]
      exact operations_congr _ _ event transaction build
  | refresh base silent refreshes =>
      rw [Control.started, silent]
      rfl
  | own silent quiet =>
      rw [ownTasks_operations, Control.started, silent]

theorem react_awaiting (control : Control) (event : AppEvent)
    (awaiting : (control.react event).build = .awaitingInstallDecision) :
    control.build = .awaitingInstallDecision ∨ event = .buildFinished true := by
  cases event with
  | executeRequested =>
      simp only [Control.react] at awaiting
      split at awaiting <;> exact Or.inl awaiting
  | transactionFinished changed => cases changed <;> exact Or.inl awaiting
  | buildRequested =>
      simp only [Control.react] at awaiting
      split at awaiting
      · exact Or.inl awaiting
      · cases awaiting
  | buildFinished success =>
      cases success
      · cases awaiting
      · exact Or.inr rfl
  | installArtifactsRequested => cases awaiting
  | installDeclined => cases awaiting
  | artifactsInstalled => cases awaiting
  | _ => exact Or.inl awaiting

theorem after_awaiting (control : Control) (impact : Impact)
    (awaiting : (control.after impact).build = .awaitingInstallDecision) :
    control.build = .awaitingInstallDecision ∨ impact.event = some (.buildFinished true) := by
  rcases impact with ⟨_ | event, posts⟩
  · exact Or.inl awaiting
  · exact (react_awaiting control event awaiting).imp_right (congrArg some)

theorem react_failed (control : Control) (event : AppEvent)
    (failed : (control.react event).transaction = .failed) :
    control.transaction = .failed ∨ ∃ message, event = .transactionFailed message := by
  cases event with
  | discoveryFinished =>
      simp only [Control.react] at failed
      split at failed
      · cases failed
      · exact Or.inl failed
  | executeRequested =>
      simp only [Control.react] at failed
      split at failed
      · exact Or.inl failed
      · cases failed
  | transactionStarted => cases failed
  | transactionFinished changed => cases changed <;> cases failed
  | transactionFailed message => exact Or.inr ⟨message, rfl⟩
  | transactionErrorAcknowledged => cases failed
  | buildRequested =>
      simp only [Control.react] at failed
      split at failed <;> exact Or.inl failed
  | _ => exact Or.inl failed

theorem after_failed (control : Control) (impact : Impact)
    (failed : (control.after impact).transaction = .failed) :
    control.transaction = .failed ∨
      ∃ message, impact.event = some (.transactionFailed message) := by
  rcases impact with ⟨_ | event, posts⟩
  · exact Or.inl failed
  · exact (react_failed control event failed).imp_right
      fun ⟨message, eq⟩ => ⟨message, congrArg some eq⟩

inductive Raises : UiMessage → AppEvent → Prop
  | kernelToggled (raw row) : Raises (.semantic (.kernelToggled raw)) (.kernelToggled row)
  | executeRequested : Raises (.semantic .executeRequested) .executeRequested
  | configureRequested : Raises (.semantic .configureRequested) .configureRequested
  | cancelRequested : Raises (.semantic .cancelRequested) .closeRequested
  | closeRequested : Raises (.semantic .closeRequested) .closeRequested
  | configurationCancelRequested :
      Raises (.semantic .configurationCancelRequested) .configurationCancelRequested
  | configurationCloseRequested :
      Raises (.semantic .configurationCloseRequested) .configurationCloseRequested
  | buildRequested : Raises (.semantic .buildRequested) .buildRequested
  | installArtifactsRequested :
      Raises (.semantic .installArtifactsRequested) .installArtifactsRequested
  | schedextRequested : Raises (.semantic .schedextRequested) .scxShowRequested
  | scxCloseRequested : Raises (.semantic .scxCloseRequested) .scxWindowClosed
  | catalogLoaded (payload) : Raises (.catalogLoaded payload) .discoveryFinished
  | discoveryFailed (text) : Raises (.discoveryFailed text) .discoveryFinished
  | configureFailed (text) : Raises (.configureFailed text) .configurationCancelRequested
  | transactionStarted : Raises .transactionStarted .transactionStarted
  | transactionFinished (changed) :
      Raises (.transactionFinished changed) (.transactionFinished changed)
  | transactionFailed (text) : Raises (.transactionFailed text) (.transactionFailed text)
  | configurePrepared (generation patches) :
      Raises (.configurePrepared generation patches) .configurePrepared
  | buildFinished (success) : Raises (.buildFinished success) (.buildFinished success)
  | artifactsInstalled : Raises .artifactsInstalled .artifactsInstalled
  | dialogDismissed : Raises .dialogDismissed .transactionErrorAcknowledged
  | installAccepted : Raises (.installQuestion true) .installArtifactsRequested
  | installDeclined : Raises (.installQuestion false) .installDeclined
  | scxWindowClosed : Raises .scxWindowClosed .scxWindowClosed

theorem impact_raises (app : App) (message : UiMessage) (event : AppEvent)
    (raised : (message.impact app).event = some event) : Raises message event := by
  cases message with
  | semantic message =>
      cases message with
      | kernelToggled raw =>
          obtain ⟨row, _, eq⟩ := Option.map_eq_some_iff.mp raised
          cases eq
          exact .kernelToggled raw row
      | _ => cases raised <;> constructor
  | configurePrepared generation patches =>
      simp only [UiMessage.impact] at raised
      split at raised <;> cases raised
      constructor
  | dialogDismissed =>
      simp only [UiMessage.impact] at raised
      split at raised <;> cases raised
      constructor
  | installQuestion yes => cases yes <;> cases raised <;> constructor
  | _ => cases raised <;> constructor

theorem mem_started (operation : Operation) (control : Control) (impact : Impact)
    (member : operation ∈ control.started impact) :
    ∃ event, impact.event = some event ∧ operation ∈ control.operations event := by
  rcases impact with ⟨_ | event, posts⟩
  · cases member
  · exact ⟨event, rfl, member⟩

/-- A task that stands for an operation was started by the event that calls for it. -/
theorem update_operation (vercmp : String → String → Ordering) (app : App)
    (message : UiMessage) (task : Task) (operation : Operation)
    (stands : task.operation = some operation)
    (spawned : task ∈ (update vercmp app message).2) :
    ∃ event, Raises message event ∧ operation ∈ app.state.control.operations event := by
  have member : operation ∈ (update vercmp app message).2.filterMap Task.operation :=
    List.mem_filterMap.mpr ⟨task, spawned, stands⟩
  rw [update_operations] at member
  obtain ⟨event, raised, called⟩ := mem_started operation _ _ member
  exact ⟨event, impact_raises app message event raised, called⟩

theorem build_called (control : Control) (event : AppEvent)
    (called : Operation.build ∈ control.operations event) :
    event = .buildRequested ∧ control.build.inFlight = false := by
  cases event with
  | buildRequested => simpa [Control.operations] using called
  | executeRequested =>
      simp only [Control.operations] at called
      split at called <;> simp at called
  | transactionFinished changed => cases changed <;> simp [Control.operations] at called
  | _ => simp [Control.operations] at called

theorem artifacts_called (control : Control) (event : AppEvent)
    (called : Operation.artifacts ∈ control.operations event) :
    event = .installArtifactsRequested := by
  cases event with
  | installArtifactsRequested => rfl
  | buildRequested =>
      simp only [Control.operations] at called
      split at called <;> simp at called
  | executeRequested =>
      simp only [Control.operations] at called
      split at called <;> simp at called
  | transactionFinished changed => cases changed <;> simp [Control.operations] at called
  | _ => simp [Control.operations] at called

end KernelManager
