import KernelManager.Ui.Frame
import KernelManager.Ui.Outstanding

/-! The package transactions and catalog refreshes that are outstanding. -/

namespace KernelManager

def Operation.packages : Operation → Bool
  | .discovery | .transaction => true
  | .build | .artifacts => false

/-- One transaction at a time: it is planned, runs, and the catalog is refreshed before the
next one. -/
inductive Phase
  | discovering | ready | planned | running | refreshing | failed
  deriving DecidableEq, Repr

namespace Phase

inductive Next : Phase → Phase → Prop
  | discovered : Next discovering ready
  | planned : Next ready planned
  | started : Next planned running
  | unchanged : Next running ready
  | changed : Next running refreshing
  | failed : Next running failed
  | refreshed : Next refreshing ready
  | acknowledged : Next failed ready

def outstanding : Phase → List Pending
  | discovering | refreshing => [{ operation := .discovery }]
  | planned => [{ operation := .transaction }]
  | running => [{ operation := .transaction, started := true }]
  | ready | failed => []

def catalog : Phase → CatalogState
  | discovering => .unloaded
  | refreshing => .refreshPending
  | _ => .loaded

def transaction : Phase → TransactionState
  | discovering | ready => .idle
  | planned => .planning
  | running => .running
  | refreshing => .complete true
  | failed => .failed

end Phase

structure InPhase (session : OperationSession) (phase : Phase) : Prop where
  outstanding : session.workers = phase.outstanding
  catalog : session.state.state.control.catalog = phase.catalog
  transaction : session.state.state.control.transaction = phase.transaction
  unselected : phase = .discovering → session.state.state.selection.rows = []

def UiMessage.pressesExecute : UiMessage → Bool
  | .semantic .executeRequested => true
  | _ => false

def PackagesPermitted (session : OperationSession) (input : OperationInput) : Prop :=
  AnswersInOrder Operation.packages session input ∧
    match input with
    | .message message =>
        message.pressesExecute = true → session.state.state.executeEnabled = true
    | .work _ _ => True

instance (session : OperationSession) : ∀ input, Decidable (PackagesPermitted session input)
  | .message _ => inferInstanceAs (Decidable (_ ∧ (_ → _)))
  | .work _ _ => inferInstanceAs (Decidable (_ ∧ True))

def AppEvent.drivesPackages : AppEvent → Bool
  | .started | .discoveryFinished | .executeRequested | .transactionStarted
  | .transactionFinished _ | .transactionFailed _ | .transactionErrorAcknowledged => true
  | _ => false

theorem react_packages (control : Control) (event : AppEvent)
    (other : event.drivesPackages = false) :
    (control.react event).catalog = control.catalog ∧
      (control.react event).transaction = control.transaction ∧
      pendingOperations Operation.packages (control.operations event) = [] := by
  cases event with
  | buildRequested =>
      simp only [Control.react, Control.operations]
      split <;> exact ⟨rfl, rfl, rfl⟩
  | buildFinished success => cases success <;> exact ⟨rfl, rfl, rfl⟩
  | started => cases other
  | discoveryFinished => cases other
  | executeRequested => cases other
  | transactionStarted => cases other
  | transactionFinished changed => cases other
  | transactionFailed message => cases other
  | transactionErrorAcknowledged => cases other
  | _ => exact ⟨rfl, rfl, rfl⟩

def UiMessage.loadsCatalog : UiMessage → Bool
  | .catalogLoaded _ => true
  | _ => false

def NoRows (app : App) : Prop := app.state.selection.rows = []

theorem noRows_framed : Framed NoRows := by
  constructor <;> intros <;> assumption

theorem runEffect_selection (app : App) (effect : Effect) :
    (app.runEffect effect).1.state.selection = app.state.selection := by
  cases effect with
  | hideProgress =>
      simp only [App.runEffect]
      split <;> rfl
  | _ => rfl

theorem onEvent_noRows (app : App) (event : AppEvent) (empty : NoRows app) :
    NoRows (app.onEvent event).1 := by
  unfold NoRows at empty ⊢
  rw [App.onEvent, runEffects_field (·.state.selection) runEffect_selection]
  cases event with
  | kernelToggled row => simp [transition, toggleRow, empty]
  | executeRequested =>
      simp only [transition]
      split <;> exact empty
  | transactionFinished changed => cases changed <;> exact empty
  | buildRequested =>
      simp only [transition]
      split <;> exact empty
  | _ => exact empty

theorem update_noRows (vercmp : String → String → Ordering) (app : App) (message : UiMessage)
    (other : message.loadsCatalog = false) (empty : NoRows app) :
    NoRows (update vercmp app message).1 := by
  apply update_framed vercmp noRows_framed app message
  · unfold App.prepare
    split <;> exact empty
  · exact fun app event _ => onEvent_noRows app event
  · rintro payload rfl
    cases other
  · exact fun _ _ => rfl

theorem executeEnabled_ready (session : OperationSession) (phase : Phase)
    (inPhase : InPhase session phase) (enabled : session.state.state.executeEnabled = true) :
    phase = .ready := by
  simp only [AppState.executeEnabled, decide_eq_true_eq] at enabled
  obtain ⟨idle, selected, _⟩ := enabled
  have idlePhase : phase.transaction = .idle := inPhase.transaction.symm.trans idle
  cases phase with
  | ready => rfl
  | discovering =>
      have nothing : session.state.state.selection.changeList = [] := by
        rw [SelectionState.changeList, inPhase.unselected rfl, List.foldl_nil]
      simp [nothing] at selected
  | _ => cases idlePhase

section Step

variable (vercmp : String → String → Ordering)

theorem receive_inPhase (session : OperationSession) (message : UiMessage) (phase : Phase)
    (outstanding : session.workers ++ pendingOperations Operation.packages
      (session.state.state.control.started (message.impact session.state)) = phase.outstanding)
    (catalog : (session.state.state.control.after (message.impact session.state)).catalog =
      phase.catalog)
    (transaction : (session.state.state.control.after (message.impact session.state)).transaction =
      phase.transaction)
    (unselected : phase = .discovering →
      (update vercmp session.state message).1.state.selection.rows = []) :
    InPhase ((operationDispatcher vercmp Operation.packages).receive session message) phase where
  outstanding := by rw [receive_workers, outstanding]
  catalog := by rw [receive_control, catalog]
  transaction := by rw [receive_control, transaction]
  unselected := unselected

theorem receive_samePhase (session : OperationSession) (message : UiMessage) (phase : Phase)
    (inPhase : InPhase session phase)
    (ordered : message.answers.all (fun operation => !operation.packages) = true)
    (other : ∀ event, (message.impact session.state).event = some event →
      event.drivesPackages = false) :
    InPhase ((operationDispatcher vercmp Operation.packages).receive session message) phase := by
  have kept : (session.state.state.control.after (message.impact session.state)).catalog =
        session.state.state.control.catalog ∧
      (session.state.state.control.after (message.impact session.state)).transaction =
        session.state.state.control.transaction ∧
      pendingOperations Operation.packages
        (session.state.state.control.started (message.impact session.state)) = [] := by
    unfold Control.after Control.started
    cases raised : (message.impact session.state).event with
    | none => exact ⟨rfl, rfl, rfl⟩
    | some event => exact react_packages _ event (other event raised)
  obtain ⟨catalog, transaction, nothing⟩ := kept
  apply receive_inPhase
  · rw [nothing, List.append_nil, inPhase.outstanding]
  · rw [catalog, inPhase.catalog]
  · rw [transaction, inPhase.transaction]
  · intro discovering
    apply update_noRows vercmp session.state message _ (inPhase.unselected discovering)
    cases message <;> first | rfl | cases ordered

/-- A message that is no answer moves the pipeline by pressing Execute or by acknowledging a
failure, or leaves it where it is. -/
theorem message_inPhase (session : OperationSession) (message : UiMessage) (phase : Phase)
    (inPhase : InPhase session phase)
    (permitted : PackagesPermitted session (.message message)) :
    ∃ next, Relation.ReflTransGen Phase.Next phase next ∧
      InPhase ((operationDispatcher vercmp Operation.packages).receive session message) next := by
  obtain ⟨ordered, enabled⟩ := permitted
  by_cases drives : ∃ event, (message.impact session.state).event = some event ∧
      event.drivesPackages = true
  · obtain ⟨event, raised, drives⟩ := drives
    cases impact_raises session.state message event raised with
    | executeRequested =>
        obtain rfl := executeEnabled_ready session phase inPhase (enabled rfl)
        have idle : session.state.state.control.transactionInProgress = false := by
          simp [Control.transactionInProgress, inPhase.transaction, Phase.transaction]
        refine ⟨.planned, .single .planned, ?_⟩
        apply receive_inPhase
        · simp [UiMessage.impact, Message.impact, Control.started, Control.operations, idle,
            inPhase.outstanding, Phase.outstanding, pendingOperations, Operation.packages]
        · simp [UiMessage.impact, Message.impact, Control.after, Control.react, idle,
            inPhase.catalog, Phase.catalog]
        · simp [UiMessage.impact, Message.impact, Control.after, Control.react, idle,
            Phase.transaction]
        · simp
    | dialogDismissed =>
        have failed : session.state.state.transaction = .failed := by
          simp only [UiMessage.impact] at raised
          split at raised
          · assumption
          · cases raised
        have failedPhase : phase.transaction = .failed := inPhase.transaction.symm.trans failed
        cases phase with
        | failed =>
            refine ⟨.ready, .single .acknowledged, ?_⟩
            apply receive_inPhase
            · simp [UiMessage.impact, Control.started, Control.operations, failed,
                inPhase.outstanding, Phase.outstanding, pendingOperations]
            · simp [UiMessage.impact, Control.after, Control.react, failed, inPhase.catalog,
                Phase.catalog]
            · simp [UiMessage.impact, Control.after, Control.react, failed, Phase.transaction]
            · simp
        | _ => cases failedPhase
    -- The remaining events that drive packages are answers, which only a worker sends.
    | catalogLoaded payload => cases ordered
    | discoveryFailed text => cases ordered
    | transactionStarted => cases ordered
    | transactionFinished changed => cases ordered
    | transactionFailed text => cases ordered
    | _ => cases drives
  · refine ⟨phase, .refl, receive_samePhase vercmp session message phase inPhase ordered ?_⟩
    intro event raised
    by_contra drivesToo
    exact drives ⟨event, raised, by simpa using drivesToo⟩

theorem discovered_inPhase (app : App) (answer : UiMessage)
    (ordered : Pending.answeredBy { operation := .discovery } answer = true)
    (settles : app.state.control.catalog = .refreshPending ∨
      app.state.control.transaction = .idle) :
    InPhase ((operationDispatcher vercmp Operation.packages).receive
      ⟨app, (Pending.after { operation := .discovery } answer).toList⟩ answer) .ready := by
  have idle : (app.state.control.react .discoveryFinished).transaction = .idle := by
    simp only [Control.react]
    split
    · rfl
    · rename_i settled
      exact settles.resolve_left settled
  cases answer with
  | catalogLoaded payload => exact receive_inPhase vercmp _ _ .ready rfl rfl idle (by simp)
  | discoveryFailed text => exact receive_inPhase vercmp _ _ .ready rfl rfl idle (by simp)
  | _ => cases ordered

theorem answer_inPhase (session : OperationSession) (index : Nat) (answer : UiMessage)
    (phase : Phase) (inPhase : InPhase session phase)
    (permitted : PackagesPermitted session (.work index answer)) :
    ∃ next, Relation.ReflTransGen Phase.Next phase next ∧
      InPhase ((operationDispatcher vercmp Operation.packages).step session (.work index answer))
        next := by
  rcases session with ⟨app, workers⟩
  obtain rfl : workers = phase.outstanding := inPhase.outstanding
  have ordered := permitted.1
  have catalog : app.state.control.catalog = phase.catalog := inPhase.catalog
  have transaction : app.state.control.transaction = phase.transaction := inPhase.transaction
  cases index with
  | succ index =>
      refine ⟨phase, .refl, ?_⟩
      rw [Machine.Dispatcher.step_work_absent _ _ _ _ (by cases phase <;> rfl)]
      exact inPhase
  | zero =>
    cases phase with
    | ready => exact ⟨.ready, .refl, inPhase⟩
    | failed => exact ⟨.failed, .refl, inPhase⟩
    | discovering =>
        refine ⟨.ready, .single .discovered, ?_⟩
        rw [Phase.outstanding, step_answer]
        exact discovered_inPhase vercmp app answer ordered (Or.inr transaction)
    | refreshing =>
        refine ⟨.ready, .single .refreshed, ?_⟩
        rw [Phase.outstanding, step_answer]
        exact discovered_inPhase vercmp app answer ordered (Or.inl catalog)
    | planned =>
        rw [Phase.outstanding, step_answer]
        cases answer with
        | transactionStarted =>
            exact ⟨.running, .single .started,
              receive_inPhase vercmp _ _ .running rfl catalog rfl (by simp)⟩
        | _ => cases ordered
    | running =>
        rw [Phase.outstanding, step_answer]
        cases answer with
        | transactionFinished changed =>
            cases changed with
            | true =>
                exact ⟨.refreshing, .single .changed,
                  receive_inPhase vercmp _ _ .refreshing rfl rfl rfl (by simp)⟩
            | false =>
                exact ⟨.ready, .single .unchanged,
                  receive_inPhase vercmp _ _ .ready rfl rfl rfl (by simp)⟩
        | transactionFailed text =>
            exact ⟨.failed, .single .failed,
              receive_inPhase vercmp _ _ .failed rfl catalog rfl (by simp)⟩
        | _ => cases ordered

end Step

theorem initial_inPhase (flags : Flags) (locale : ResolvedLocale) :
    InPhase (OperationSession.initial Operation.packages flags locale) .discovering where
  outstanding := rfl
  catalog := rfl
  transaction := rfl
  unselected := fun _ => rfl

theorem session_simulates (vercmp : String → String → Ordering) (flags : Flags)
    (locale : ResolvedLocale) (inputs : List OperationInput)
    (permitted : Machine.Admissible (operationDispatcher vercmp Operation.packages).step
      PackagesPermitted (OperationSession.initial Operation.packages flags locale) inputs) :
    ∃ phase, Relation.ReflTransGen Phase.Next .discovering phase ∧
      InPhase (Machine.run (operationDispatcher vercmp Operation.packages).step
        (OperationSession.initial Operation.packages flags locale) inputs) phase := by
  apply Machine.run_simulates _ (initial_inPhase flags locale) permitted
  rintro session (message | ⟨index, answer⟩) phase inPhase allowed
  · exact message_inPhase vercmp session message phase inPhase allowed
  · exact answer_inPhase vercmp session index answer phase inPhase allowed

/-- At most one transaction and one refresh are unanswered, and no transaction while Execute
is enabled. -/
theorem transaction_exclusive (vercmp : String → String → Ordering) (flags : Flags)
    (locale : ResolvedLocale) (inputs : List OperationInput)
    (permitted : Machine.Admissible (operationDispatcher vercmp Operation.packages).step
      PackagesPermitted (OperationSession.initial Operation.packages flags locale) inputs) :
    let session := Machine.run (operationDispatcher vercmp Operation.packages).step
      (OperationSession.initial Operation.packages flags locale) inputs
    unanswered session .transaction ≤ 1 ∧ unanswered session .discovery ≤ 1 ∧
      (session.state.state.executeEnabled = true → unanswered session .transaction = 0) := by
  intro session
  obtain ⟨phase, _, inPhase⟩ := session_simulates vercmp flags locale inputs permitted
  have counted : ∀ operation, unanswered session operation =
      phase.outstanding.countP (·.operation = operation) := by
    intro operation
    rw [unanswered, inPhase.outstanding]
  rw [counted, counted]
  refine ⟨?_, ?_, ?_⟩
  · cases phase <;> decide
  · cases phase <;> decide
  · intro enabled
    obtain rfl := executeEnabled_ready session phase inPhase enabled
    rfl

namespace Sample

def failedUpgrade : List OperationInput :=
  [.work 0 (.catalogLoaded catalog), .message (.semantic (.kernelToggled "cachyos/linux-cachyos")),
    .message (.semantic .executeRequested), .message .dialogDismissed,
    .work 0 .transactionStarted, .work 0 (.transactionFailed "alpm init failed"),
    .message .dialogDismissed]

end Sample

theorem transaction_exclusive_failedUpgrade :
    let session := Machine.run (operationDispatcher Sample.vercmp Operation.packages).step
      (OperationSession.initial Operation.packages Sample.flags Sample.locale)
      Sample.failedUpgrade
    unanswered session .transaction ≤ 1 ∧ unanswered session .discovery ≤ 1 ∧
      (session.state.state.executeEnabled = true → unanswered session .transaction = 0) :=
  transaction_exclusive Sample.vercmp Sample.flags Sample.locale Sample.failedUpgrade (by decide)

end KernelManager
