import KernelManager.Ui.DialogSlot
import KernelManager.Ui.Outstanding

/-! The build and install workers that are outstanding. -/

namespace KernelManager

def Operation.building : Operation → Bool
  | .build | .artifacts => true
  | .discovery | .transaction => false

def BuildState.outstanding : BuildState → List Pending
  | .running => [{ operation := .build }]
  | .installing => [{ operation := .artifacts }]
  | .idle | .failed | .awaitingInstallDecision => []

/-- The workers are those the build state waits for, and the question is up only while its
answer is awaited. -/
structure BuildAccounted (session : OperationSession) : Prop where
  workers : session.workers = session.state.state.control.build.outstanding
  asked : session.state.state.control.slot = .confirm →
    session.state.state.control.build = .awaitingInstallDecision

def UiMessage.answersQuestion : UiMessage → Bool
  | .installQuestion _ => true
  | _ => false

def UiMessage.requestsInstall : UiMessage → Bool
  | .semantic .installArtifactsRequested => true
  | _ => false

/-- The install question is answered only while it is shown, and installs are requested only
through it. -/
def BuildsPermitted (session : OperationSession) (input : OperationInput) : Prop :=
  AnswersInOrder Operation.building session input ∧
    match input with
    | .message message =>
        message.requestsInstall = false ∧
          (message.answersQuestion = true → session.state.state.dialogs.isConfirm = true)
    | .work _ _ => True

instance (session : OperationSession) : ∀ input, Decidable (BuildsPermitted session input)
  | .message _ => inferInstanceAs (Decidable (_ ∧ _ ∧ (_ → _)))
  | .work _ _ => inferInstanceAs (Decidable (_ ∧ True))

def AppEvent.drivesBuild : AppEvent → Bool
  | .buildRequested | .buildFinished _ | .installArtifactsRequested | .installDeclined
  | .artifactsInstalled => true
  | _ => false

theorem react_building (control : Control) (event : AppEvent)
    (other : event.drivesBuild = false) :
    (control.react event).build = control.build ∧
      pendingOperations Operation.building (control.operations event) = [] := by
  cases event with
  | executeRequested =>
      simp only [Control.react, Control.operations]
      split <;> exact ⟨rfl, rfl⟩
  | transactionFinished changed => cases changed <;> exact ⟨rfl, rfl⟩
  | buildRequested => cases other
  | buildFinished success => cases other
  | installArtifactsRequested => cases other
  | installDeclined => cases other
  | artifactsInstalled => cases other
  | _ => exact ⟨rfl, rfl⟩

theorem hideProgress_confirm (slot : Slot) (confirm : slot.hideProgress = .confirm) :
    slot = .confirm := by
  cases slot <;> first | rfl | cases confirm

theorem react_confirm (control : Control) (event : AppEvent)
    (confirm : (control.react event).slot = .confirm) : control.slot = .confirm := by
  cases event with
  | started => cases confirm
  | discoveryFinished => exact hideProgress_confirm _ confirm
  | executeRequested =>
      simp only [Control.react] at confirm
      split at confirm <;> exact confirm
  | transactionFinished changed =>
      cases changed
      · exact hideProgress_confirm _ confirm
      · cases confirm
  | transactionFailed message => cases confirm
  | configureRequested => cases confirm
  | configurePrepared => exact hideProgress_confirm _ confirm
  | buildRequested =>
      simp only [Control.react] at confirm
      split at confirm <;> exact confirm
  | configurationCancelRequested => exact hideProgress_confirm _ confirm
  | configurationCloseRequested => exact hideProgress_confirm _ confirm
  | _ => exact confirm

theorem postsIf_ne (condition : Bool) (posted slot : Slot) (other : posted ≠ slot) :
    postsIf condition posted ≠ some slot := by
  cases condition
  · simp [postsIf]
  · exact fun same => other (Option.some.inj same)

theorem impact_confirm (app : App) (message : UiMessage)
    (posts : (message.impact app).posts = some .confirm) : message = .buildFinished true := by
  cases message with
  | semantic message =>
      cases message with
      | configLoaded config => exact absurd posts (postsIf_ne _ _ _ (by decide))
      | _ => cases posts
  | catalogLoaded payload => exact absurd posts (postsIf_ne _ _ _ (by decide))
  | buildFinished success =>
      cases success
      · cases posts
      · rfl
  | scxInit model => exact absurd posts (postsIf_ne _ _ _ (by decide))
  | scxApplied ok => exact absurd posts (postsIf_ne _ _ _ (by decide))
  | scxDisabled ok => exact absurd posts (postsIf_ne _ _ _ (by decide))
  | configLoaded config => exact absurd posts (postsIf_ne _ _ _ (by decide))
  | scxApply => exact absurd posts (postsIf_ne _ _ _ (by decide))
  | _ => cases posts

theorem after_confirm (app : App) (control : Control) (message : UiMessage)
    (confirm : (control.after (message.impact app)).slot = .confirm) :
    control.slot = .confirm ∨ message = .buildFinished true := by
  cases posted : (message.impact app).posts with
  | some slot =>
      simp only [Control.after, posted, Option.getD_some] at confirm
      subst confirm
      exact Or.inr (impact_confirm app message posted)
  | none =>
      simp only [Control.after, posted, Option.getD_none] at confirm
      cases raised : (message.impact app).event with
      | none =>
          rw [raised] at confirm
          exact Or.inl confirm
      | some event =>
          rw [raised] at confirm
          exact Or.inl (react_confirm control event confirm)

section Step

variable (vercmp : String → String → Ordering)

theorem receive_accounted (session : OperationSession) (message : UiMessage)
    (workers : session.workers ++ pendingOperations Operation.building
        (session.state.state.control.started (message.impact session.state)) =
      (session.state.state.control.after (message.impact session.state)).build.outstanding)
    (asked : (session.state.state.control.after (message.impact session.state)).slot = .confirm →
      (session.state.state.control.after (message.impact session.state)).build =
        .awaitingInstallDecision) :
    BuildAccounted
      ((operationDispatcher vercmp Operation.building).receive session message) where
  workers := by rw [receive_workers, receive_control, workers]
  asked := by rw [receive_control]; exact asked

theorem receive_sameBuild (session : OperationSession) (message : UiMessage)
    (accounted : BuildAccounted session)
    (ordered : message.answers.all (fun operation => !operation.building) = true)
    (other : ∀ event, (message.impact session.state).event = some event →
      event.drivesBuild = false) :
    BuildAccounted
      ((operationDispatcher vercmp Operation.building).receive session message) := by
  have kept : (session.state.state.control.after (message.impact session.state)).build =
        session.state.state.control.build ∧
      pendingOperations Operation.building
        (session.state.state.control.started (message.impact session.state)) = [] := by
    unfold Control.after Control.started
    cases raised : (message.impact session.state).event with
    | none => exact ⟨rfl, rfl⟩
    | some event => exact react_building _ event (other event raised)
  obtain ⟨same, nothing⟩ := kept
  apply receive_accounted
  · rw [nothing, List.append_nil, same, accounted.workers]
  · intro confirm
    rw [same]
    rcases after_confirm session.state _ message confirm with before | finished
    · exact accounted.asked before
    · subst finished
      cases ordered

theorem message_accounted (session : OperationSession) (message : UiMessage)
    (accounted : BuildAccounted session)
    (permitted : BuildsPermitted session (.message message)) :
    BuildAccounted
      ((operationDispatcher vercmp Operation.building).receive session message) := by
  obtain ⟨ordered, noRequest, onlyAsked⟩ := permitted
  by_cases drives : ∃ event, (message.impact session.state).event = some event ∧
      event.drivesBuild = true
  · obtain ⟨event, raised, drives⟩ := drives
    have answered : message.answersQuestion = true → session.workers = [] := by
      intro answers
      rw [accounted.workers, accounted.asked ((isConfirm_iff _).mp (onlyAsked answers))]
      rfl
    cases impact_raises session.state message event raised with
    | buildRequested =>
        cases build : session.state.state.control.build.inFlight with
        -- A build in flight, or an open question, makes the press a no-op.
        | true =>
            apply receive_accounted
            · simp [UiMessage.impact, Message.impact, Control.started, Control.operations,
                Control.after, Control.react, build, pendingOperations, accounted.workers]
            · simpa [UiMessage.impact, Message.impact, Control.after, Control.react, build]
                using accounted.asked
        | false =>
            have free : session.workers = [] := by
              rw [accounted.workers]
              cases idle : session.state.state.control.build <;>
                first | rfl | (rw [idle] at build; cases build)
            apply receive_accounted
            · simp [UiMessage.impact, Message.impact, Control.started, Control.operations,
                Control.after, Control.react, build, pendingOperations, Operation.building,
                BuildState.outstanding, free]
            · intro confirm
              have before : session.state.state.control.slot = .confirm := by
                simpa [UiMessage.impact, Message.impact, Control.after, Control.react, build]
                  using confirm
              rw [accounted.asked before] at build
              cases build
    | installArtifactsRequested => cases noRequest
    | buildFinished success => cases ordered
    | artifactsInstalled => cases ordered
    | installAccepted =>
        apply receive_accounted
        · rw [answered rfl]
          rfl
        · intro confirm
          cases confirm
    | installDeclined =>
        apply receive_accounted
        · rw [answered rfl]
          rfl
        · intro confirm
          cases confirm
    | _ => cases drives
  · apply receive_sameBuild vercmp session message accounted ordered
    intro event raised
    by_contra drivesToo
    exact drives ⟨event, raised, by simpa using drivesToo⟩

theorem answer_accounted (session : OperationSession) (index : Nat) (answer : UiMessage)
    (accounted : BuildAccounted session)
    (permitted : BuildsPermitted session (.work index answer)) :
    BuildAccounted ((operationDispatcher vercmp Operation.building).step session
      (.work index answer)) := by
  rcases session with ⟨app, workers⟩
  obtain rfl : workers = app.state.control.build.outstanding := accounted.workers
  have ordered := permitted.1
  have asked := accounted.asked
  cases index with
  | succ index =>
      rw [Machine.Dispatcher.step_work_absent _ _ _ _
        (by cases app.state.control.build <;> rfl)]
      exact accounted
  | zero =>
      cases build : app.state.control.build with
      | running =>
          have closed : app.state.control.slot ≠ .confirm := by
            intro confirm
            exact absurd (build.symm.trans (asked confirm)) (by decide)
          simp only [build] at ordered ⊢
          rw [BuildState.outstanding, step_answer]
          cases answer with
          | buildFinished success =>
              cases success with
              | true => exact receive_accounted vercmp _ _ rfl fun _ => rfl
              | false =>
                  exact receive_accounted vercmp _ _ rfl fun confirm => absurd confirm closed
          | _ => cases ordered
      | installing =>
          have closed : app.state.control.slot ≠ .confirm := by
            intro confirm
            exact absurd (build.symm.trans (asked confirm)) (by decide)
          simp only [build] at ordered ⊢
          rw [BuildState.outstanding, step_answer]
          cases answer with
          | artifactsInstalled =>
              exact receive_accounted vercmp _ _ rfl fun confirm => absurd confirm closed
          | _ => cases ordered
      | _ =>
          rw [build] at accounted
          exact accounted

end Step

theorem initial_accounted (flags : Flags) (locale : ResolvedLocale) :
    BuildAccounted (OperationSession.initial Operation.building flags locale) where
  workers := rfl
  asked := fun confirm => by cases confirm

/-- At most one build or install worker is unanswered. -/
theorem buildWorker_exclusive (vercmp : String → String → Ordering) (flags : Flags)
    (locale : ResolvedLocale) (inputs : List OperationInput)
    (permitted : Machine.Admissible (operationDispatcher vercmp Operation.building).step
      BuildsPermitted (OperationSession.initial Operation.building flags locale) inputs) :
    let session := Machine.run (operationDispatcher vercmp Operation.building).step
      (OperationSession.initial Operation.building flags locale) inputs
    unanswered session .build + unanswered session .artifacts ≤ 1 := by
  intro session
  have accounted : BuildAccounted session := by
    apply Machine.run_invariant BuildAccounted _ (initial_accounted flags locale) permitted
    rintro session (message | ⟨index, answer⟩) accounted allowed
    · exact message_accounted vercmp session message accounted allowed
    · exact answer_accounted vercmp session index answer accounted allowed
  rw [unanswered, unanswered, accounted.workers]
  cases session.state.state.control.build <;> decide

namespace Sample

def rebuildRun : List OperationInput :=
  [.message (.semantic .configureRequested), .message (.configurePrepared 1 []),
    .message (.semantic .buildRequested), .message (.semantic .configurationCancelRequested),
    .message (.semantic .buildRequested), .work 0 (.buildFinished true),
    .message (.semantic .buildRequested), .message (.installQuestion true)]

end Sample

theorem buildWorker_exclusive_rebuild :
    let session := Machine.run (operationDispatcher Sample.vercmp Operation.building).step
      (OperationSession.initial Operation.building Sample.flags Sample.locale) Sample.rebuildRun
    unanswered session .build + unanswered session .artifacts ≤ 1 :=
  buildWorker_exclusive Sample.vercmp Sample.flags Sample.locale Sample.rebuildRun (by decide)

end KernelManager
