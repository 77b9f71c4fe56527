import KernelManager.Core.State
import KernelManager.Library.Machine

/-! What the application state machine does after the main window was closed. -/

namespace KernelManager

inductive AppPhase
  | startup
  | kernelDiscovery
  | ready
  | selectionChanged
  | transactionPlanning
  | authenticating
  | transactionRunning
  | transactionComplete
  | transactionFailed
  | refreshingPackageState
  | configurationPreparation
  | configurationEditing
  | buildRunning
  | buildFailed
  | buildCompleted
  | artifactInstallation
  | scxConfiguration
  | shutdown
  deriving DecidableEq, Repr

namespace AppState

def catalogPhase (state : AppState) : AppPhase :=
  match state.catalog with
  | .unloaded => .kernelDiscovery
  | .loaded => if state.selection.changeList.isEmpty then .ready else .selectionChanged
  | .refreshPending => .refreshingPackageState

def windowPhase (state : AppState) : AppPhase :=
  match state.configuration with
  | .preparing => .configurationPreparation
  | .editing =>
      match state.build with
      | .idle => .configurationEditing
      | .running => .buildRunning
      | .failed => .buildFailed
      | .awaitingInstallDecision => .buildCompleted
      | .installing => .artifactInstallation
  | .closed => if state.scx = .visible then .scxConfiguration else state.catalogPhase

def transactionPhase (state : AppState) : AppPhase :=
  match state.transaction with
  | .planning => .transactionPlanning
  | .authenticating => .authenticating
  | .running => .transactionRunning
  | .complete changed => if changed then .refreshingPackageState else .transactionComplete
  | .failed => .transactionFailed
  | .idle => state.windowPhase

def phase (state : AppState) : AppPhase :=
  match state.lifecycle with
  | .startup => .startup
  | .kernelDiscovery => .kernelDiscovery
  | .shutdown => .shutdown
  | .ready => state.transactionPhase

end AppState

def advance (state : AppState) (event : AppEvent) : AppState := (transition state event).1

def emitted (state : AppState) (event : AppEvent) : List Effect := (transition state event).2

def Effect.startsWork : Effect → Bool
  | .runTransaction | .runBuild _ | .installArtifacts => true
  | _ => false

def AppState.ShutDown (state : AppState) : Prop :=
  state.lifecycle = .shutdown ∧ state.phase = .shutdown

instance (state : AppState) : Decidable state.ShutDown :=
  inferInstanceAs (Decidable (_ ∧ _))

def AppEvent.KeepsShutdown (event : AppEvent) : Prop :=
  event ≠ .started ∧ event ≠ .discoveryFinished

/-- The guards of the transition do not look at the lifecycle, only at the work in progress. -/
def StartsNoWork (state : AppState) : AppEvent → Prop
  | .executeRequested => state.transactionInProgress = true
  | .buildRequested => state.build.inFlight = true
  | .installArtifactsRequested => False
  | _ => True

theorem shutDown_iff (state : AppState) : state.ShutDown ↔ state.lifecycle = .shutdown := by
  unfold AppState.ShutDown AppState.phase
  constructor
  · exact And.left
  · intro closed
    rw [closed]
    exact ⟨rfl, rfl⟩

theorem advance_lifecycle (state : AppState) (event : AppEvent) :
    (advance state event).lifecycle =
      match event with
      | .started => .kernelDiscovery
      | .discoveryFinished => .ready
      | .closeRequested => .shutdown
      | _ => state.lifecycle := by
  cases event with
  | executeRequested =>
      simp only [advance, transition]
      split <;> rfl
  | transactionFinished changed => cases changed <;> rfl
  | buildRequested =>
      simp only [advance, transition]
      split <;> rfl
  | _ => rfl

theorem advance_shutDown (state : AppState) (event : AppEvent) (closed : state.ShutDown) :
    (advance state event).ShutDown ↔ event.KeepsShutdown := by
  rw [shutDown_iff] at closed
  rw [shutDown_iff, advance_lifecycle]
  cases event <;> simp [AppEvent.KeepsShutdown, closed]

theorem emitted_startsNoWork (state : AppState) (event : AppEvent) :
    (∀ effect ∈ emitted state event, effect.startsWork = false) ↔ StartsNoWork state event := by
  cases event with
  | executeRequested =>
      simp only [emitted, transition, StartsNoWork]
      by_cases busy : state.transactionInProgress = true <;> simp [busy, Effect.startsWork]
  | transactionFinished changed =>
      cases changed <;> simp [emitted, transition, StartsNoWork, Effect.startsWork]
  | buildRequested =>
      simp only [emitted, transition, StartsNoWork]
      by_cases busy : state.build.inFlight = true <;> simp [busy, Effect.startsWork]
  | _ => simp [emitted, transition, StartsNoWork, Effect.startsWork]

/-- After a close the lifecycle is left by exactly the two events of discovery, and work is
started exactly where it would have been started before the close. -/
theorem shutdown_left_iff (before : AppState) (events : List AppEvent) :
    let closed := advance before .closeRequested
    (Machine.Always advance AppState.ShutDown closed events ↔
        AppEvent.started ∉ events ∧ AppEvent.discoveryFinished ∉ events) ∧
      ((∀ effect ∈ Machine.outputs advance emitted closed events, effect.startsWork = false) ↔
        Machine.Admissible advance StartsNoWork closed events) := by
  intro closed
  have shut : closed.ShutDown := (shutDown_iff _).mpr rfl
  constructor
  · have admissible : Machine.Admissible advance (fun _ _ => True) closed events :=
      Machine.admissible_of_forall (fun _ _ => trivial) closed events
    have kept : Machine.Always advance AppState.ShutDown closed events ↔
        Machine.Admissible advance (fun _ event => event.KeepsShutdown) closed events :=
      Machine.always_iff_admissible (fun _ => True) (fun _ _ _ _ => trivial)
        (fun state event _ held _ => advance_shutDown state event held) trivial shut admissible
    rw [kept, Machine.admissible_iff_forall_mem]
    constructor
    · intro keeps
      exact ⟨fun member => (keeps _ member).1 rfl, fun member => (keeps _ member).2 rfl⟩
    · rintro ⟨unstarted, undiscovered⟩ event member
      constructor
      · rintro rfl
        exact unstarted member
      · rintro rfl
        exact undiscovered member
  · rw [Machine.forall_mem_outputs]
    exact Machine.admissible_congr emitted_startsNoWork closed events

/-- A discovery that finishes after the close makes the application ready again, and a
transaction is started although the window is closed. -/
theorem lateDiscovery_readies :
    ¬Machine.Always advance AppState.ShutDown (advance {} .closeRequested)
        [.discoveryFinished, .executeRequested] ∧
      ¬∀ effect ∈ Machine.outputs advance emitted (advance {} .closeRequested)
        [.discoveryFinished, .executeRequested], effect.startsWork = false := by
  refine ⟨by decide, ?_⟩
  intro idle
  have started := idle .runTransaction (by decide)
  cases started

end KernelManager
