import KernelManager.Ui.Control
import KernelManager.Ui.Controls

/-! The single dialog slot: the install question and the error of a failed transaction. -/

namespace KernelManager

theorem isConfirm_iff (app : App) :
    app.state.dialogs.isConfirm = true ↔ app.state.control.slot = .confirm := by
  unfold AppState.control
  cases app.state.dialogs <;> simp [DialogsState.isConfirm, DialogsState.slot]

theorem isError_iff (app : App) :
    app.state.dialogs.isError = true ↔ app.state.control.slot = .error := by
  unfold AppState.control
  cases app.state.dialogs <;> simp [DialogsState.isError, DialogsState.slot]

def QuestionUp (app : App) : Prop :=
  app.state.build = .awaitingInstallDecision → app.state.dialogs.isConfirm = true

instance (app : App) : Decidable (QuestionUp app) :=
  inferInstanceAs (Decidable (_ → _))

def claimsDialog (app : App) : UiMessage → Bool
  | .catalogLoaded payload => payload.rows.isEmpty
  | .discoveryFailed _ | .configureFailed _ | .taskFailed _ | .configError _
  | .transactionFailed _ | .dialogDismissed => true
  | .transactionFinished changed => changed
  | .scxInit model => model.critical.isSome
  | .scxApplied ok | .scxDisabled ok => !ok && app.scx.isSome
  | .configLoaded config => (app.configure.loadConfig config).2
  | _ => false

def QuestionUndisturbed (app : App) (message : UiMessage) : Prop :=
  app.state.build = .awaitingInstallDecision → claimsDialog app message = false

instance (app : App) (message : UiMessage) : Decidable (QuestionUndisturbed app message) :=
  inferInstanceAs (Decidable (_ → _))

theorem questionUp_iff (app : App) :
    QuestionUp app ↔
      (app.state.control.build = .awaitingInstallDecision →
        app.state.control.slot = .confirm) := by
  rw [← isConfirm_iff]
  rfl

theorem overlayUp_of_confirm (app : App) (confirm : app.state.control.slot = .confirm) :
    app.overlayUp = true := by
  rw [← isConfirm_iff] at confirm
  unfold App.overlayUp
  cases dialogs : app.state.dialogs <;> simp_all [DialogsState.isConfirm]

theorem questionUp_step (vercmp : String → String → Ordering) (app : App)
    (message : UiMessage) (up : QuestionUp app) (allowed : permitted app message) :
    QuestionUp (step vercmp app message) ↔ QuestionUndisturbed app message := by
  rw [questionUp_iff] at up
  have buildEq : app.state.build = app.state.control.build := rfl
  rw [questionUp_iff, step, update_control, QuestionUndisturbed, buildEq]
  by_cases waiting : app.state.control.build = .awaitingInstallDecision
  -- Under the open question the overlay leaves its buttons, window closes and task results.
  · have confirm := up waiting
    have overlay := overlayUp_of_confirm app confirm
    cases message with
    | semantic message =>
        cases message <;>
          simp [permitted, offers, workerResult, overlay, claimsDialog, UiMessage.impact,
            Message.impact, Control.after, Control.react, waiting, confirm,
            Slot.hideProgress] at allowed ⊢
    | catalogLoaded payload =>
        cases empty : payload.rows.isEmpty <;>
          simp [claimsDialog, UiMessage.impact, Control.after, Control.react, waiting,
            confirm, postsIf_getD, Slot.hideProgress, empty]
    | transactionFinished changed =>
        cases changed <;>
          simp [claimsDialog, UiMessage.impact, Control.after, Control.react, waiting,
            confirm, Slot.hideProgress]
    | configurePrepared generation patches =>
        by_cases stale : generation = app.patchEpoch <;>
          simp [claimsDialog, UiMessage.impact, Control.after, Control.react, waiting,
            confirm, Slot.hideProgress, stale]
    | dialogDismissed =>
        by_cases failed : app.state.transaction = .failed <;>
          simp [claimsDialog, UiMessage.impact, Control.after, Control.react, waiting, failed]
    | installQuestion yes =>
        cases yes <;> simp [claimsDialog, UiMessage.impact, Control.after, Control.react]
    | _ =>
        simp [permitted, offers, workerResult, overlay, claimsDialog, UiMessage.impact,
          Control.after, Control.react, waiting, confirm, postsIf_getD,
          Slot.hideProgress] at allowed ⊢
  · simp only [waiting, false_implies, iff_true]
    intro awaiting
    rcases after_awaiting _ _ awaiting with before | raised
    · exact absurd before waiting
    · cases impact_raises app message _ raised
      rfl

theorem initial_questionUp (flags : Flags) (locale : ResolvedLocale) :
    QuestionUp (App.initial flags locale) := by
  intro waiting
  cases waiting

/-- In a run over reachable controls the install question stays answerable exactly if no
background result claims the dialog slot while it is open. -/
theorem installQuestion_answerable_iff (vercmp : String → String → Ordering) (flags : Flags)
    (locale : ResolvedLocale) (messages : List UiMessage)
    (reachable : Machine.Admissible (step vercmp) permitted (App.initial flags locale) messages) :
    Machine.Always (step vercmp) QuestionUp (App.initial flags locale) messages ↔
      Machine.Admissible (step vercmp) QuestionUndisturbed (App.initial flags locale)
        messages :=
  Machine.always_iff_admissible (fun _ => True) (fun _ _ _ _ => trivial)
    (fun app message _ up allowed => questionUp_step vercmp app message up allowed) trivial
    (initial_questionUp flags locale) reachable

namespace Sample

def buildRun : List UiMessage :=
  [.catalogLoaded catalog, .semantic .configureRequested, .configurePrepared 1 [],
    .semantic .buildRequested, .buildFinished true]

def orphaningRun : List UiMessage :=
  [.catalogLoaded catalog, .semantic (.kernelToggled "cachyos/linux-cachyos"),
    .semantic .executeRequested, .transactionStarted, .semantic .configureRequested,
    .configurePrepared 1 [], .semantic .buildRequested, .buildFinished true,
    .transactionFinished true]

def unacknowledgedRun : List UiMessage :=
  [.catalogLoaded catalog, .semantic (.kernelToggled "cachyos/linux-cachyos"),
    .semantic .executeRequested, .transactionStarted, .semantic .configureRequested,
    .configurePrepared 1 [], .semantic .buildRequested,
    .transactionFailed "alpm init failed", .buildFinished true]

end Sample

theorem installQuestion_answerable_build :
    Machine.Always (step Sample.vercmp) QuestionUp Sample.app Sample.buildRun :=
  (installQuestion_answerable_iff Sample.vercmp Sample.flags Sample.locale Sample.buildRun
    (by decide)).mpr (by decide)

theorem installQuestion_orphaned :
    ¬∀ (vercmp : String → String → Ordering) (flags : Flags) (locale : ResolvedLocale)
      (messages : List UiMessage),
      Machine.Admissible (step vercmp) permitted (App.initial flags locale) messages →
        Machine.Always (step vercmp) QuestionUp (App.initial flags locale) messages := by
  intro answerable
  have orphaned := answerable Sample.vercmp Sample.flags Sample.locale Sample.orphaningRun
    (by decide)
  revert orphaned
  decide

/-- A failed transaction shows an error, and dismissing it makes the transaction idle. -/
def Acknowledgeable (vercmp : String → String → Ordering) (app : App) : Prop :=
  app.state.transaction = .failed →
    app.state.dialogs.isError = true ∧
      (step vercmp app .dialogDismissed).state.transaction = .idle

instance (vercmp : String → String → Ordering) (app : App) :
    Decidable (Acknowledgeable vercmp app) :=
  inferInstanceAs (Decidable (_ → _))

def raisesQuestion : UiMessage → Bool
  | .buildFinished success => success
  | _ => false

def FailureUndisturbed (app : App) (message : UiMessage) : Prop :=
  app.state.transaction = .failed → raisesQuestion message = false

instance (app : App) (message : UiMessage) : Decidable (FailureUndisturbed app message) :=
  inferInstanceAs (Decidable (_ → _))

theorem dismissed_idle (vercmp : String → String → Ordering) (app : App)
    (failed : app.state.transaction = .failed) :
    (step vercmp app .dialogDismissed).state.transaction = .idle := by
  have kept : (app.setDialogs .none).state.transaction = .failed := failed
  simp only [step, update, kept, ↓reduceIte]
  rfl

theorem acknowledgeable_iff (vercmp : String → String → Ordering) (app : App) :
    Acknowledgeable vercmp app ↔
      (app.state.control.transaction = .failed → app.state.control.slot = .error) := by
  rw [← isError_iff]
  constructor
  · intro acknowledgeable failed
    exact (acknowledgeable failed).1
  · intro shown failed
    exact ⟨shown failed, dismissed_idle vercmp app failed⟩

theorem overlayUp_of_error (app : App) (error : app.state.control.slot = .error) :
    app.overlayUp = true := by
  rw [← isError_iff] at error
  unfold App.overlayUp
  cases dialogs : app.state.dialogs <;> simp_all [DialogsState.isError]

theorem offers_error (app : App) (yes : Bool) (error : app.state.control.slot = .error) :
    offers app (.installQuestion yes) = false := by
  rw [← isError_iff] at error
  unfold offers
  cases dialogs : app.state.dialogs <;>
    simp_all [DialogsState.isError, DialogsState.isConfirm]

theorem acknowledgeable_step (vercmp : String → String → Ordering) (app : App)
    (message : UiMessage) (shown : Acknowledgeable vercmp app)
    (allowed : permitted app message) :
    Acknowledgeable vercmp (step vercmp app message) ↔ FailureUndisturbed app message := by
  rw [acknowledgeable_iff] at shown
  have transactionEq : app.state.transaction = app.state.control.transaction := rfl
  rw [acknowledgeable_iff, step, update_control, FailureUndisturbed, transactionEq]
  by_cases failed : app.state.control.transaction = .failed
  · have error := shown failed
    have overlay := overlayUp_of_error app error
    cases message with
    | semantic message =>
        cases message <;>
          simp [permitted, offers, workerResult, overlay, raisesQuestion, UiMessage.impact,
            Message.impact, Control.after, Control.react, failed, error,
            Slot.hideProgress] at allowed ⊢
    | catalogLoaded payload =>
        cases empty : payload.rows.isEmpty <;>
          simp [raisesQuestion, UiMessage.impact, Control.after, Control.react, failed,
            error, postsIf_getD, Slot.hideProgress, empty]
    | transactionFinished changed =>
        cases changed <;>
          simp [raisesQuestion, UiMessage.impact, Control.after, Control.react]
    | configurePrepared generation patches =>
        by_cases stale : generation = app.patchEpoch <;>
          simp [raisesQuestion, UiMessage.impact, Control.after, Control.react, failed,
            error, Slot.hideProgress, stale]
    | dialogDismissed =>
        simp [raisesQuestion, UiMessage.impact, Control.after, Control.react, transactionEq,
          failed]
    | installQuestion yes =>
        simp [permitted, workerResult, offers_error app yes error] at allowed
    | _ =>
        simp [permitted, offers, workerResult, overlay, raisesQuestion, UiMessage.impact,
          Control.after, Control.react, failed, error, postsIf_getD,
          Slot.hideProgress] at allowed ⊢
  · simp only [failed, false_implies, iff_true]
    intro failedAfter
    rcases after_failed _ _ failedAfter with before | ⟨text, raised⟩
    · exact absurd before failed
    · cases impact_raises app message _ raised
      rfl

theorem initial_acknowledgeable (vercmp : String → String → Ordering) (flags : Flags)
    (locale : ResolvedLocale) : Acknowledgeable vercmp (App.initial flags locale) := by
  intro failed
  cases failed

/-- In a run over reachable controls a failed transaction can always be acknowledged exactly
if no build succeeds before that. -/
theorem failedTransaction_acknowledgeable_iff (vercmp : String → String → Ordering)
    (flags : Flags) (locale : ResolvedLocale) (messages : List UiMessage)
    (reachable : Machine.Admissible (step vercmp) permitted (App.initial flags locale) messages) :
    Machine.Always (step vercmp) (Acknowledgeable vercmp) (App.initial flags locale) messages ↔
      Machine.Admissible (step vercmp) FailureUndisturbed (App.initial flags locale) messages :=
  Machine.always_iff_admissible (fun _ => True) (fun _ _ _ _ => trivial)
    (fun app message _ shown allowed => acknowledgeable_step vercmp app message shown allowed)
    trivial (initial_acknowledgeable vercmp flags locale) reachable

theorem failedTransaction_acknowledgeable_build :
    Machine.Always (step Sample.vercmp) (Acknowledgeable Sample.vercmp) Sample.app
      Sample.buildRun :=
  (failedTransaction_acknowledgeable_iff Sample.vercmp Sample.flags Sample.locale
    Sample.buildRun (by decide)).mpr (by decide)

theorem failedTransaction_unacknowledged :
    ¬∀ (vercmp : String → String → Ordering) (flags : Flags) (locale : ResolvedLocale)
      (messages : List UiMessage),
      Machine.Admissible (step vercmp) permitted (App.initial flags locale) messages →
        Machine.Always (step vercmp) (Acknowledgeable vercmp) (App.initial flags locale)
          messages := by
  intro acknowledgeable
  have stuck := acknowledgeable Sample.vercmp Sample.flags Sample.locale
    Sample.unacknowledgedRun (by decide)
  revert stuck
  decide

end KernelManager
