import KernelManager.Library.Dispatcher
import KernelManager.Ui.Control
import KernelManager.Ui.Controls

/-! The operations that are started and not yet answered. -/

namespace KernelManager

structure Pending where
  operation : Operation
  started : Bool := false
  deriving DecidableEq, Repr

/-- A transaction is answered by its start and then by its result, any other operation by its
result. -/
def Pending.answeredBy (pending : Pending) : UiMessage → Bool
  | .transactionStarted => pending.operation = .transaction && !pending.started
  | .transactionFinished _ | .transactionFailed _ =>
      pending.operation = .transaction && pending.started
  | .catalogLoaded _ | .discoveryFailed _ => pending.operation = .discovery
  | .buildFinished _ => pending.operation = .build
  | .artifactsInstalled => pending.operation = .artifacts
  | _ => false

def Pending.after (pending : Pending) : UiMessage → Option Pending
  | .transactionStarted => some { pending with started := true }
  | _ => none

def UiMessage.answers : UiMessage → Option Operation
  | .transactionStarted | .transactionFinished _ | .transactionFailed _ => some .transaction
  | .catalogLoaded _ | .discoveryFailed _ => some .discovery
  | .buildFinished _ => some .build
  | .artifactsInstalled => some .artifacts
  | _ => none

abbrev OperationSession := Machine.Session App Pending
abbrev OperationInput := Machine.Input UiMessage UiMessage

def pendingOperations (tracked : Operation → Bool) (operations : List Operation) :
    List Pending :=
  (operations.filter tracked).map ({ operation := · })

def operationDispatcher (vercmp : String → String → Ordering) (tracked : Operation → Bool) :
    Machine.Dispatcher App UiMessage Pending UiMessage where
  update app message :=
    let (app, tasks) := update vercmp app message
    (app, pendingOperations tracked (tasks.filterMap Task.operation))
  notice _ _ pending := pending
  work _ pending answer := (some answer, pending.after answer)

def OperationSession.initial (tracked : Operation → Bool) (flags : Flags)
    (locale : ResolvedLocale) : OperationSession where
  state := App.initial flags locale
  workers := pendingOperations tracked ((App.new flags locale).2.filterMap Task.operation)

def unanswered (session : OperationSession) (operation : Operation) : Nat :=
  session.workers.countP (·.operation = operation)

def AnswersInOrder (tracked : Operation → Bool) (session : OperationSession) :
    OperationInput → Prop
  | .message message => message.answers.all (fun operation => !tracked operation) = true
  | .work index answer => session.workers[index]?.all (·.answeredBy answer) = true

instance (tracked : Operation → Bool) (session : OperationSession) :
    ∀ input, Decidable (AnswersInOrder tracked session input)
  | .message _ => inferInstanceAs (Decidable (_ = _))
  | .work _ _ => inferInstanceAs (Decidable (_ = _))

section Receive

variable (vercmp : String → String → Ordering) (tracked : Operation → Bool)

theorem receive_control (session : OperationSession) (message : UiMessage) :
    ((operationDispatcher vercmp tracked).receive session message).state.state.control =
      session.state.state.control.after (message.impact session.state) :=
  update_control vercmp session.state message

theorem receive_workers (session : OperationSession) (message : UiMessage) :
    ((operationDispatcher vercmp tracked).receive session message).workers =
      session.workers ++
        pendingOperations tracked
          (session.state.state.control.started (message.impact session.state)) := by
  rw [← update_operations vercmp session.state message]
  simp [Machine.Dispatcher.receive, operationDispatcher]

theorem step_answer (app : App) (pending : Pending) (answer : UiMessage) :
    (operationDispatcher vercmp tracked).step ⟨app, [pending]⟩ (.work 0 answer) =
      (operationDispatcher vercmp tracked).receive ⟨app, (pending.after answer).toList⟩
        answer :=
  Machine.Dispatcher.step_work_only _ app pending answer

end Receive

end KernelManager
