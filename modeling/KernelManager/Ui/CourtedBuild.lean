import KernelManager.Exec.BuildFlow
import KernelManager.Ui.BuildWorkers

/-!
The application against the model of the Configure window that the courts test: which presses
start a build, and when one is underway.
-/

namespace KernelManager

inductive CourtedEvent
  | action (action : ConfigureAction)
  | finished (event : FinishEvent)

/-- `m_running` over the window's life: the body of the loop of `configure_trace`, and
`finished_proc`. -/
def courtedStep (running : Bool) : CourtedEvent → Bool
  | .action .execute => true
  | .action .cancel | .action .close => running
  | .finished event => (finishedProc event).runningAfter

/-- What an input of the application is to the courts' window. A build that has succeeded is
complete with the answer to its question. -/
def courtedEvents (exitCode : Int) (globs : List String) (session : OperationSession) :
    OperationInput → List CourtedEvent
  | .message (.semantic .buildRequested) => [.action .execute]
  | .message (.semantic .configurationCancelRequested) => [.action .cancel]
  | .message (.semantic .configurationCloseRequested) => [.action .close]
  | .message (.installQuestion yes) =>
      [.finished
        { doneStatusExists := true, exitCode := 0, userChoice := some yes, globs := globs }]
  | .message _ => []
  | .work index answer =>
      match session.workers[index]?, answer with
      | some _, .buildFinished false =>
          [.finished
            { doneStatusExists := false, exitCode := exitCode, userChoice := none, globs := [] }]
      | some _, .artifactsInstalled =>
          -- The file is gone: also an install that succeeds ends in the failure branch.
          [.finished
            { doneStatusExists := false, exitCode := exitCode, userChoice := none, globs := [] }]
      | _, _ => []

variable (vercmp : String → String → Ordering)

def App.outcome (app : App) : ConfigureAction → String
  | .execute =>
      if (update vercmp app (.semantic .buildRequested)).2.filterMap Task.operation = [.build] then
        "start"
      else "ignored"
  | .cancel | .close => "closed"

def ConfigureAction.message : ConfigureAction → UiMessage
  | .execute => .semantic .buildRequested
  | .cancel => .semantic .configurationCancelRequested
  | .close => .semantic .configurationCloseRequested

def App.configureTrace (app : App) : List ConfigureAction → List ConfigureTraceEvent × App
  | [] => ([], app)
  | action :: actions =>
      let after := step vercmp app action.message
      let event : ConfigureTraceEvent := { action, outcome := app.outcome vercmp action }
      if action = .execute then
        let (trace, last) := App.configureTrace after actions
        (event :: trace, last)
      else ([event], after)

theorem after_build (control : Control) (impact : Impact) :
    (control.after impact).build =
      match impact.event with
      | some event => (control.react event).build
      | none => control.build := by
  unfold Control.after
  cases impact.event <;> rfl

theorem react_pressed (control : Control) :
    (control.react .buildRequested).build.inFlight = true := by
  simp only [Control.react]
  cases underway : control.build.inFlight with
  | true => exact underway
  | false => rfl

theorem courtedEvents_quiet (exitCode : Int) (globs : List String) (session : OperationSession)
    (message : UiMessage) (running : Bool)
    (quiet : ∀ event, (message.impact session.state).event = some event →
      event.drivesBuild = false) :
    Machine.run courtedStep running (courtedEvents exitCode globs session (.message message)) =
      running := by
  cases message with
  | semantic message =>
      cases message with
      | buildRequested => cases quiet .buildRequested rfl
      | _ => rfl
  | installQuestion yes =>
      cases yes with
      | true => cases quiet .installArtifactsRequested rfl
      | false => cases quiet .installDeclined rfl
  | _ => rfl

theorem message_courted (exitCode : Int) (globs : List String) (session : OperationSession)
    (message : UiMessage) (accounted : BuildAccounted session)
    (permitted : BuildsPermitted session (.message message)) :
    ((operationDispatcher vercmp Operation.building).receive session
        message).state.state.control.build.inFlight =
      Machine.run courtedStep session.state.state.control.build.inFlight
        (courtedEvents exitCode globs session (.message message)) := by
  obtain ⟨ordered, noRequest, onlyAsked⟩ := permitted
  rw [receive_control, after_build]
  by_cases quiet : ∀ event, (message.impact session.state).event = some event →
      event.drivesBuild = false
  · rw [courtedEvents_quiet exitCode globs session message _ quiet]
    cases raised : (message.impact session.state).event with
    | none => rfl
    | some event =>
        dsimp only
        rw [(react_building session.state.state.control event (quiet event raised)).1]
  · push Not at quiet
    obtain ⟨event, raised, drives⟩ := quiet
    have answered : message.answersQuestion = true →
        session.state.state.control.build = .awaitingInstallDecision := fun answers =>
      accounted.asked ((isConfirm_iff _).mp (onlyAsked answers))
    cases impact_raises session.state message event raised with
    | buildRequested =>
        exact react_pressed session.state.state.control
    | installArtifactsRequested => cases noRequest
    | buildFinished success => cases ordered
    | artifactsInstalled => cases ordered
    | installAccepted =>
        rw [answered rfl]
        rfl
    | installDeclined =>
        rw [answered rfl]
        rfl
    | _ => exact absurd rfl drives

theorem answer_courted (exitCode : Int) (globs : List String) (session : OperationSession)
    (index : Nat) (answer : UiMessage) (accounted : BuildAccounted session)
    (permitted : BuildsPermitted session (.work index answer)) :
    ((operationDispatcher vercmp Operation.building).step session
        (.work index answer)).state.state.control.build.inFlight =
      Machine.run courtedStep session.state.state.control.build.inFlight
        (courtedEvents exitCode globs session (.work index answer)) := by
  rcases session with ⟨app, workers⟩
  obtain rfl : workers = app.state.control.build.outstanding := accounted.workers
  have ordered := permitted.1
  cases index with
  | succ index =>
      have absent : app.state.control.build.outstanding[index + 1]? = none := by
        cases app.state.control.build <;> rfl
      rw [Machine.Dispatcher.step_work_absent _ _ _ _ absent]
      simp only [courtedEvents, absent, Machine.run_nil]
  | zero =>
      cases build : app.state.control.build with
      | running =>
          simp only [build] at ordered ⊢
          rw [BuildState.outstanding, step_answer, receive_control, after_build]
          cases answer with
          | buildFinished success => cases success <;> rfl
          | _ => cases ordered
      | installing =>
          simp only [build] at ordered ⊢
          rw [BuildState.outstanding, step_answer, receive_control, after_build]
          cases answer with
          | artifactsInstalled => rfl
          | _ => cases ordered
      | idle | failed | awaitingInstallDecision =>
          have absent : app.state.control.build.outstanding[0]? = none := by
            rw [build]
            rfl
          rw [← build, Machine.Dispatcher.step_work_absent _ _ _ _ absent]
          simp only [courtedEvents, absent, Machine.run_nil]

theorem outcome_execute (app : App) :
    app.outcome vercmp .execute = if app.state.build.inFlight then "ignored" else "start" := by
  rw [App.outcome, update_operations]
  have started : app.state.control.started ((UiMessage.semantic .buildRequested).impact app) =
      if app.state.build.inFlight then [] else [.build] := rfl
  rw [started]
  cases app.state.build.inFlight <;> rfl

theorem action_inFlight (app : App) (action : ConfigureAction) :
    (step vercmp app action.message).state.build.inFlight =
      courtedStep app.state.build.inFlight (.action action) := by
  have after : (step vercmp app action.message).state.build =
      (app.state.control.after (action.message.impact app)).build :=
    congrArg Control.build (update_control vercmp app action.message)
  rw [after, after_build]
  cases action with
  | execute => exact react_pressed app.state.control
  | cancel | close => rfl

theorem app_configureTrace (app : App) (actions : List ConfigureAction) :
    (app.configureTrace vercmp actions).1 =
        (configureTraceFrom app.state.build.inFlight actions).1 ∧
      (app.configureTrace vercmp actions).2.state.build.inFlight =
        (configureTraceFrom app.state.build.inFlight actions).2 := by
  induction actions generalizing app with
  | nil => exact ⟨rfl, rfl⟩
  | cons action actions ih =>
      have after := action_inFlight vercmp app action
      cases action with
      | execute =>
          obtain ⟨trace, last⟩ := ih (step vercmp app ConfigureAction.execute.message)
          rw [after] at trace last
          refine ⟨?_, last⟩
          simp only [App.configureTrace, configureTraceFrom, if_true, outcome_execute]
          exact congrArg _ trace
      | cancel => exact ⟨rfl, after⟩
      | close => exact ⟨rfl, after⟩

/-- In every run in which the workers answer for their own builds and the install question is
answered only while it is up, a build is underway exactly when the courts' window says so of
what it has seen; and from there on the application takes the actions as `configure_trace`
does. -/
theorem builds_courted (flags : Flags) (locale : ResolvedLocale) (inputs : List OperationInput)
    (permitted : Machine.Admissible (operationDispatcher vercmp Operation.building).step
      BuildsPermitted (OperationSession.initial Operation.building flags locale) inputs)
    (exitCode : Int) (globs : List String) (actions : List ConfigureAction) :
    let dispatcher := operationDispatcher vercmp Operation.building
    let initial := OperationSession.initial Operation.building flags locale
    let app := (Machine.run dispatcher.step initial inputs).state
    let running := Machine.run courtedStep false
      (Machine.outputs dispatcher.step (courtedEvents exitCode globs) initial inputs)
    app.state.build.inFlight = running ∧
      (app.configureTrace vercmp actions).1 = (configureTraceFrom running actions).1 ∧
        (app.configureTrace vercmp actions).2.state.build.inFlight =
          (configureTraceFrom running actions).2 := by
  intro dispatcher initial app running
  have underway : app.state.build.inFlight = running := by
    refine Machine.run_projected BuildAccounted
      (fun session => session.state.state.build.inFlight) ?_ ?_
      (initial_accounted flags locale) permitted
    · rintro session (message | ⟨index, answer⟩) accounted allowed
      · exact message_accounted vercmp session message accounted allowed
      · exact answer_accounted vercmp session index answer accounted allowed
    · rintro session (message | ⟨index, answer⟩) accounted allowed
      · exact message_courted vercmp exitCode globs session message accounted allowed
      · exact answer_courted vercmp exitCode globs session index answer accounted allowed
  refine ⟨underway, ?_⟩
  rw [← underway]
  exact app_configureTrace vercmp app actions

theorem builds_courted_rebuild :
    let dispatcher := operationDispatcher Sample.vercmp Operation.building
    let initial := OperationSession.initial Operation.building Sample.flags Sample.locale
    let app := (Machine.run dispatcher.step initial Sample.rebuildRun).state
    app.state.build.inFlight = true ∧
      (app.configureTrace Sample.vercmp [.execute, .close, .execute]).1 =
        [{ action := .execute, outcome := "ignored" },
          { action := .close, outcome := "closed" }] := by
  intro dispatcher initial app
  obtain ⟨underway, traced, _⟩ := builds_courted Sample.vercmp Sample.flags Sample.locale
    Sample.rebuildRun (by decide) 0 [] [.execute, .close, .execute]
  exact ⟨underway.trans (by decide), traced.trans (by decide)⟩

end KernelManager
