import KernelManager.Plan.ChangeCheck
import KernelManager.Ui.PackagePipeline

/-! The worker threads of discoveries and transactions, and what they do to the machine. -/

namespace KernelManager

/-- The machine facts that a transaction reads anew: the two module probes' output and the
packages of the local database. -/
structure MutableFacts where
  nvidia : String
  nvidiaOpen : String
  localPackages : Except String LocalPackages

/-- A database that cannot be opened leaves the cached packages. -/
def refreshMutableHardware (cached : HardwareProfile) (facts : MutableFacts) :
    HardwareProfile :=
  { cached with
    installed :=
      match facts.localPackages with
      | .ok packages => packages
      | .error _ => cached.installed
    nvidiaModulesInstalled := !(trim facts.nvidia).isEmpty
    nvidiaOpenModulesInstalled := !(trim facts.nvidiaOpen).isEmpty }

def TransactionJob.plan (job : TransactionJob) (facts : MutableFacts) :
    Option TransactionPlan :=
  (TransactionPlan.fromSelection job.selection
    (refreshMutableHardware job.cachedHardware facts) job.kernels).map
      fun plan => { plan with aurEnabled := job.aurEnabled }

def TransactionJob.Plans (job : TransactionJob) (plan : TransactionPlan) : Prop :=
  ∃ facts, job.plan facts = some plan

def panicOutcome : Bool × Option String := (false, some "transaction worker panicked")

/-- How far a transaction's thread has come: `posted` its start, `committing` the commands of
its plan, of which the first `ran` have returned. -/
inductive TransactionStage (job : TransactionJob)
  | spawned
  | posted
  | committing (plan : { plan : TransactionPlan // job.Plans plan }) (ran : Nat)
  | answered (outcome : Bool × Option String)

/-- Where the source would panic for want of a companion, the thread answers with the panic. -/
def TransactionStage.planned (job : TransactionJob) (facts : MutableFacts) : TransactionStage job :=
  match planned : job.plan facts with
  | some plan => .committing ⟨plan, facts, planned⟩ 0
  | none => .answered panicOutcome

inductive PackageThread
  | discovery (result : Option (Except String CatalogPayload))
  | transaction (job : TransactionJob) (stage : TransactionStage job) (startHandled : Bool)

inductive ThreadStep
  | discovered (result : Except String CatalogPayload)
  | posts
  | refreshes (facts : MutableFacts)
  | returns
  | checks (opened : Except String LocalPackages)
  | panics (message : String)
  | handled

def discoveryReply : Except String CatalogPayload → UiMessage
  | .ok payload => .catalogLoaded payload
  | .error message => .discoveryFailed message

def outcomeReply : Bool × Option String → UiMessage
  | (_, some message) => .transactionFailed message
  | (changed, none) => .transactionFinished changed

namespace PackageThread

def handle : PackageThread → Option UiMessage × Option PackageThread
  | .discovery none => (none, some (.discovery none))
  | .discovery (some result) => (some (discoveryReply result), none)
  | .transaction job .spawned startHandled => (none, some (.transaction job .spawned startHandled))
  | .transaction job stage false => (some .transactionStarted, some (.transaction job stage true))
  | .transaction _ (.answered outcome) true => (some (outcomeReply outcome), none)
  | .transaction job stage true => (none, some (.transaction job stage true))

/-- The thread's own code; a step that does not fit where it stands is none of its. -/
def advance : PackageThread → ThreadStep → PackageThread
  | .discovery none, .discovered result => .discovery (some result)
  | .discovery none, .panics message => .discovery (some (.error message))
  | .transaction job .spawned startHandled, .posts => .transaction job .posted startHandled
  | .transaction job .posted startHandled, .refreshes facts =>
      .transaction job (.planned job facts) startHandled
  | .transaction job .posted startHandled, .panics _ =>
      .transaction job (.answered panicOutcome) startHandled
  | .transaction job (.committing plan ran) startHandled, .returns =>
      -- The terminal's exit status is not looked at.
      .transaction job
        (.committing plan (if ran < (commitCommands plan.1).length then ran + 1 else ran))
        startHandled
  | .transaction job (.committing plan ran) startHandled, .checks opened =>
      if ran < (commitCommands plan.1).length then
        .transaction job (.committing plan ran) startHandled
      else .transaction job (.answered (transactionOutcome plan.1 opened)) startHandled
  | .transaction job (.committing _ _) startHandled, .panics _ =>
      .transaction job (.answered panicOutcome) startHandled
  | thread, _ => thread

end PackageThread

def Task.packageThread : Task → Option PackageThread
  | .discovery _ => some (.discovery none)
  | .transaction job => some (.transaction job .spawned false)
  | _ => none

def packageThreads (vercmp : String → String → Ordering) :
    Machine.Dispatcher App UiMessage PackageThread ThreadStep where
  update app message :=
    let (app, tasks) := update vercmp app message
    (app, tasks.filterMap Task.packageThread)
  notice _ _ thread := thread
  work _ thread
    | .handled => thread.handle
    | step => (none, some (thread.advance step))

def PackageThread.pending : PackageThread → Pending
  | .discovery _ => { operation := .discovery }
  | .transaction _ _ startHandled => { operation := .transaction, started := startHandled }

abbrev ThreadSession := Machine.Session App PackageThread
abbrev ThreadInput := Machine.Input UiMessage ThreadStep

def ThreadSession.initial (flags : Flags) (locale : ResolvedLocale) : ThreadSession where
  state := App.initial flags locale
  workers := (App.new flags locale).2.filterMap Task.packageThread

/-- Nothing but the threads sends their answers, and Execute is pressed only while enabled. -/
def ThreadsPermitted (session : ThreadSession) : ThreadInput → Prop
  | .message message =>
      message.answers.all (fun operation => !operation.packages) = true ∧
        (message.pressesExecute = true → session.state.state.executeEnabled = true)
  | .work _ _ => True

instance (session : ThreadSession) : ∀ input, Decidable (ThreadsPermitted session input)
  | .message _ => inferInstanceAs (Decidable (_ ∧ (_ → _)))
  | .work _ _ => instDecidableTrue

inductive LogEntry
  | pressed (job : TransactionJob)
  | planned (plan : TransactionPlan)
  | ran (command : CommandPlan)
  | answered (outcome : Bool × Option String)

def committed (job : TransactionJob) (plan : TransactionPlan) (commands : List CommandPlan) :
    List LogEntry :=
  .pressed job :: .planned plan :: commands.map .ran

inductive Underway : List LogEntry → Prop
  | pressed (job : TransactionJob) : Underway [.pressed job]
  | committing (job : TransactionJob) (plan : TransactionPlan) (commands : List CommandPlan)
      (plans : job.Plans plan) (begun : commands <+: commitCommands plan) :
      Underway (committed job plan commands)

/-- A transaction runs all commands of its plan and reports what the check finds, or panics on
the way and reports that. -/
inductive Finished : List LogEntry → Prop
  | panicked (log : List LogEntry) (underway : Underway log) :
      Finished (log ++ [.answered panicOutcome])
  | checked (job : TransactionJob) (plan : TransactionPlan) (plans : job.Plans plan)
      (opened : Except String LocalPackages) :
      Finished (committed job plan (commitCommands plan) ++
        [.answered (transactionOutcome plan opened)])

namespace PackageThread

def openLog : PackageThread → List LogEntry
  | .discovery _ => []
  | .transaction job .spawned _ => [.pressed job]
  | .transaction job .posted _ => [.pressed job]
  | .transaction job (.committing plan ran) _ =>
      committed job plan.1 ((commitCommands plan.1).take ran)
  | .transaction _ (.answered _) _ => []

def logs : PackageThread → ThreadStep → List LogEntry
  | .transaction job .posted _, .refreshes facts =>
      match job.plan facts with
      | some plan => [.planned plan]
      | none => [.answered panicOutcome]
  | .transaction _ .posted _, .panics _ => [.answered panicOutcome]
  | .transaction _ (.committing plan ran) _, .returns =>
      ((commitCommands plan.1)[ran]?.map .ran).toList
  | .transaction _ (.committing plan ran) _, .checks opened =>
      if ran < (commitCommands plan.1).length then []
      else [.answered (transactionOutcome plan.1 opened)]
  | .transaction _ (.committing _ _) _, .panics _ => [.answered panicOutcome]
  | _, _ => []

end PackageThread

def hiredLog (vercmp : String → String → Ordering) (app : App) (message : UiMessage) :
    List LogEntry :=
  ((packageThreads vercmp).update app message).2.flatMap PackageThread.openLog

def replyLog (vercmp : String → String → Ordering) (app : App) : Option UiMessage → List LogEntry
  | some message => hiredLog vercmp app message
  | none => []

def packageLog (vercmp : String → String → Ordering) (session : ThreadSession) :
    ThreadInput → List LogEntry
  | .message message => hiredLog vercmp session.state message
  | .work index step =>
      match session.workers[index]? with
      | none => []
      | some thread =>
          thread.logs step ++
            replyLog vercmp session.state ((packageThreads vercmp).work session.state thread step).1

theorem openLog_underway (thread : PackageThread) :
    thread.openLog = [] ∨ Underway thread.openLog := by
  cases thread with
  | discovery result => exact Or.inl rfl
  | transaction job stage startHandled =>
      cases stage with
      | spawned => exact Or.inr (.pressed job)
      | posted => exact Or.inr (.pressed job)
      | committing plan ran =>
          exact Or.inr (.committing job plan.1 _ plan.2 (List.take_prefix ran _))
      | answered outcome => exact Or.inl rfl

theorem planned_of_some (job : TransactionJob) (facts : MutableFacts) (plan : TransactionPlan)
    (planned : job.plan facts = some plan) :
    TransactionStage.planned job facts = .committing ⟨plan, facts, planned⟩ 0 := by
  unfold TransactionStage.planned
  split
  · next other found =>
      obtain rfl : other = plan := Option.some.inj (found.symm.trans planned)
      rfl
  · next missing =>
      rw [missing] at planned
      cases planned

theorem planned_of_none (job : TransactionJob) (facts : MutableFacts)
    (missing : job.plan facts = none) :
    TransactionStage.planned job facts = .answered panicOutcome := by
  unfold TransactionStage.planned
  split
  · next found =>
      rw [missing] at found
      cases found
  · rfl

def Logged (thread : PackageThread) (step : ThreadStep) : Prop :=
  thread.openLog ++ thread.logs step = (thread.advance step).openLog ∨
    Finished (thread.openLog ++ thread.logs step) ∧ (thread.advance step).openLog = []

theorem refreshes_logged (job : TransactionJob) (startHandled : Bool) (facts : MutableFacts) :
    Logged (.transaction job .posted startHandled) (.refreshes facts) := by
  cases planned : job.plan facts with
  | some plan =>
      left
      simp only [PackageThread.logs, PackageThread.advance, planned,
        planned_of_some job facts plan planned, PackageThread.openLog, List.take_zero, committed,
        List.map_nil, List.cons_append, List.nil_append]
  | none =>
      right
      simp only [PackageThread.logs, PackageThread.advance, planned,
        planned_of_none job facts planned, PackageThread.openLog, and_true]
      exact .panicked _ (.pressed job)

section Committing

variable (job : TransactionJob) (plan : { plan : TransactionPlan // job.Plans plan }) (ran : Nat)
variable (startHandled : Bool)

theorem returns_logged :
    Logged (.transaction job (.committing plan ran) startHandled) .returns := by
  left
  by_cases more : ran < (commitCommands plan.1).length
  · simp only [PackageThread.openLog, PackageThread.logs, PackageThread.advance, more, ↓reduceIte,
      committed, List.getElem?_eq_getElem more, List.take_add_one, Option.map_some,
      Option.toList_some, List.map_append, List.map_cons, List.map_nil, List.cons_append]
  · simp [PackageThread.openLog, PackageThread.logs, PackageThread.advance, more]

theorem checks_logged (opened : Except String LocalPackages) :
    Logged (.transaction job (.committing plan ran) startHandled) (.checks opened) := by
  by_cases more : ran < (commitCommands plan.1).length
  · left
    simp [PackageThread.logs, PackageThread.advance, more]
  · right
    have all : (commitCommands plan.1).take ran = commitCommands plan.1 :=
      List.take_of_length_le (Nat.le_of_not_lt more)
    simp only [PackageThread.openLog, PackageThread.logs, PackageThread.advance, more, ↓reduceIte,
      all, and_true]
    exact .checked job plan.1 plan.2 opened

end Committing

theorem advance_logged (thread : PackageThread) (step : ThreadStep) : Logged thread step := by
  cases thread with
  | discovery result =>
      left
      cases result <;> cases step <;> rfl
  | transaction job stage startHandled =>
      cases stage with
      | spawned =>
          left
          cases step <;> rfl
      | posted =>
          cases step with
          | refreshes facts => exact refreshes_logged job startHandled facts
          | panics message => exact Or.inr ⟨.panicked _ (.pressed job), rfl⟩
          | _ => exact Or.inl rfl
      | committing plan ran =>
          cases step with
          | returns => exact returns_logged job plan ran startHandled
          | checks opened => exact checks_logged job plan ran startHandled opened
          | panics message =>
              exact Or.inr
                ⟨.panicked _ (.committing job plan.1 _ plan.2 (List.take_prefix ran _)), rfl⟩
          | _ => exact Or.inl (List.append_nil _)
      | answered outcome =>
          left
          cases step <;> rfl

theorem advance_pending (thread : PackageThread) (step : ThreadStep) :
    (thread.advance step).pending = thread.pending := by
  cases thread with
  | discovery result => cases result <;> cases step <;> rfl
  | transaction job stage startHandled =>
      cases stage with
      | committing plan ran =>
          cases step with
          | checks opened =>
              simp only [PackageThread.advance]
              split <;> rfl
          | _ => rfl
      | _ => cases step <;> rfl

theorem handle_answers (thread : PackageThread) :
    thread.handle = (none, some thread) ∨
      ∃ answer left, thread.handle = (some answer, left) ∧
        thread.pending.answeredBy answer = true ∧
        left.map PackageThread.pending = thread.pending.after answer ∧
        (left.toList.flatMap PackageThread.openLog) = thread.openLog := by
  cases thread with
  | discovery result =>
      cases result with
      | none => exact Or.inl rfl
      | some result =>
          right
          cases result <;> exact ⟨_, none, rfl, rfl, rfl, rfl⟩
  | transaction job stage startHandled =>
      cases stage with
      | spawned => exact Or.inl rfl
      | answered outcome =>
          right
          cases startHandled with
          | false => exact ⟨_, _, rfl, rfl, rfl, rfl⟩
          | true =>
              obtain ⟨changed, failed⟩ := outcome
              cases failed <;> exact ⟨_, none, rfl, rfl, rfl, rfl⟩
      | _ =>
          cases startHandled with
          | false => exact Or.inr ⟨_, _, rfl, rfl, rfl, List.append_nil _⟩
          | true => exact Or.inl rfl

theorem tasks_pending (tasks : List Task) :
    (tasks.filterMap Task.packageThread).map PackageThread.pending =
      pendingOperations Operation.packages (tasks.filterMap Task.operation) := by
  induction tasks with
  | nil => rfl
  | cons task tasks ih =>
      cases task with
      | discovery flags => exact congrArg ({ operation := .discovery } :: ·) ih
      | transaction job => exact congrArg ({ operation := .transaction } :: ·) ih
      | _ => exact ih

abbrev pendingSession (session : ThreadSession) : OperationSession :=
  Machine.Dispatcher.viewed PackageThread.pending session

theorem outstanding_length (phase : Phase) : phase.outstanding.length ≤ 1 := by
  cases phase <;> decide

section Sessions

variable (vercmp : String → String → Ordering)

theorem threads_refine :
    (operationDispatcher vercmp Operation.packages).Refines (packageThreads vercmp)
      PackageThread.pending where
  update app message := by
    simp only [operationDispatcher, packageThreads, tasks_pending]
  notice _ _ _ := rfl

/-- A thread's step is invisible in the session of operations, or is a permitted answer. -/
theorem work_viewed (session : ThreadSession) (index : Nat) (step : ThreadStep) :
    pendingSession ((packageThreads vercmp).step session (.work index step)) =
        pendingSession session ∨
      ∃ answer, PackagesPermitted (pendingSession session) (.work index answer) ∧
        pendingSession ((packageThreads vercmp).step session (.work index step)) =
          (operationDispatcher vercmp Operation.packages).step (pendingSession session)
            (.work index answer) := by
  cases found : session.workers[index]? with
  | none =>
      rw [Machine.Dispatcher.step_work_absent _ session index step found]
      exact Or.inl rfl
  | some thread =>
      by_cases handled : step = .handled
      · subst handled
        obtain silent | ⟨answer, left, handles, answers, after, _⟩ := handle_answers thread
        · left
          exact Machine.Dispatcher.viewed_silent _ _ session index ThreadStep.handled thread thread
            found silent rfl
        · right
          have seen : (pendingSession session).workers[index]? = some thread.pending := by
            simp only [Machine.Dispatcher.viewed, List.getElem?_map, found, Option.map_some]
          refine ⟨answer, ⟨?_, trivial⟩, ?_⟩
          · rw [AnswersInOrder, seen]
            exact answers
          · exact Machine.Dispatcher.viewed_work _ _ _ (threads_refine vercmp) session index
              ThreadStep.handled answer thread found answer left handles (by rw [after]; rfl)
      · left
        have works : (packageThreads vercmp).work session.state thread step =
            (none, some (thread.advance step)) := by
          cases step <;> first | rfl | exact absurd rfl handled
        exact Machine.Dispatcher.viewed_silent _ _ session index step thread _ found works
          (advance_pending thread step)

theorem step_inPhase (session : ThreadSession) (input : ThreadInput) (phase : Phase)
    (inPhase : InPhase (pendingSession session) phase)
    (permitted : ThreadsPermitted session input) :
    ∃ next, InPhase (pendingSession ((packageThreads vercmp).step session input)) next := by
  cases input with
  | message message =>
      obtain ⟨next, _, moved⟩ :=
        message_inPhase vercmp (pendingSession session) message phase inPhase permitted
      refine ⟨next, ?_⟩
      have viewed := Machine.Dispatcher.viewed_receive _ _ _ (threads_refine vercmp) session message
      rw [← viewed] at moved
      exact moved
  | work index step =>
      obtain same | ⟨answer, allowed, viewed⟩ := work_viewed vercmp session index step
      · exact ⟨phase, same ▸ inPhase⟩
      · obtain ⟨next, _, moved⟩ :=
          answer_inPhase vercmp (pendingSession session) index answer phase inPhase allowed
        exact ⟨next, viewed ▸ moved⟩

theorem inPhase_alone (session : ThreadSession) (phase : Phase)
    (inPhase : InPhase (pendingSession session) phase) (index : Nat) (thread : PackageThread)
    (found : session.workers[index]? = some thread) : session.workers = [thread] ∧ index = 0 := by
  apply Machine.Dispatcher.alone session.workers _ index thread found
  have viewed : (pendingSession session).workers.length = session.workers.length :=
    List.length_map _
  rw [← viewed, inPhase.outstanding]
  exact outstanding_length phase

structure Accounted (session : ThreadSession) (log : List LogEntry) : Prop where
  inPhase : ∃ phase, InPhase (pendingSession session) phase
  serial : ∃ finished : List (List LogEntry), (∀ block ∈ finished, Finished block) ∧
    log = finished.flatten ++ session.workers.flatMap PackageThread.openLog

theorem receive_log (session : ThreadSession) (message : UiMessage) :
    ((packageThreads vercmp).receive session message).workers.flatMap PackageThread.openLog =
      session.workers.flatMap PackageThread.openLog ++ hiredLog vercmp session.state message := by
  simp [Machine.Dispatcher.receive, packageThreads, hiredLog]

theorem reply_log (session : ThreadSession) (message : Option UiMessage) :
    ((packageThreads vercmp).reply session message).workers.flatMap PackageThread.openLog =
      session.workers.flatMap PackageThread.openLog ++
        replyLog vercmp session.state message := by
  cases message with
  | none => simp [Machine.Dispatcher.reply, replyLog]
  | some message => exact receive_log vercmp session message

theorem work_log (thread : PackageThread) (step : ThreadStep) (app : App) :
    let left := ((packageThreads vercmp).work app thread step).2
    thread.openLog ++ thread.logs step = left.toList.flatMap PackageThread.openLog ∨
      Finished (thread.openLog ++ thread.logs step) ∧
        left.toList.flatMap PackageThread.openLog = [] := by
  by_cases handled : step = .handled
  · subst handled
    have silent : thread.logs .handled = [] := by
      cases thread with
      | discovery result => rfl
      | transaction job stage startHandled => cases stage <;> rfl
    left
    rw [silent, List.append_nil]
    change _ = thread.handle.2.toList.flatMap PackageThread.openLog
    obtain kept | ⟨answer, left, handles, _, _, same⟩ := handle_answers thread
    · simp [kept]
    · rw [handles, same]
  · have works : (packageThreads vercmp).work app thread step =
        (none, some (thread.advance step)) := by
      cases step <;> first | rfl | exact absurd rfl handled
    simpa [works, Logged] using advance_logged thread step

theorem step_accounted (session : ThreadSession) (log : List LogEntry) (input : ThreadInput)
    (accounted : Accounted session log) (permitted : ThreadsPermitted session input) :
    Accounted ((packageThreads vercmp).step session input)
      (log ++ packageLog vercmp session input) := by
  obtain ⟨⟨phase, inPhase⟩, finished, done, rfl⟩ := accounted
  refine ⟨step_inPhase vercmp session input phase inPhase permitted, ?_⟩
  cases input with
  | message message =>
      refine ⟨finished, done, ?_⟩
      rw [List.append_assoc]
      exact congrArg (finished.flatten ++ ·) (receive_log vercmp session message).symm
  | work index step =>
      cases found : session.workers[index]? with
      | none =>
          rw [Machine.Dispatcher.step_work_absent _ session index step found]
          exact ⟨finished, done, by simp [packageLog, found]⟩
      | some thread =>
          obtain ⟨alone, rfl⟩ := inPhase_alone session phase inPhase index thread found
          obtain ⟨app, workers⟩ := session
          simp only at alone
          subst alone
          have logged := work_log vercmp thread step app
          simp only [Machine.Dispatcher.step_work_only, reply_log, packageLog,
            List.getElem?_cons_zero, List.flatMap_singleton]
          obtain grows | ⟨ends, nothing⟩ := logged
          · refine ⟨finished, done, ?_⟩
            rw [← grows]
            simp only [List.append_assoc]
          · refine ⟨finished ++ [thread.openLog ++ thread.logs step], ?_, ?_⟩
            · simpa [or_imp, forall_and] using ⟨done, ends⟩
            · rw [nothing]
              simp only [List.flatten_append, List.flatten_singleton, List.append_assoc,
                List.nil_append]

end Sessions

theorem last_underway (session : ThreadSession) (phase : Phase)
    (inPhase : InPhase (pendingSession session) phase) :
    let last := session.workers.flatMap PackageThread.openLog
    last = [] ∨ Underway last ∧ session.state.state.transactionInProgress = true := by
  intro last
  by_cases idle : last = []
  · exact Or.inl idle
  · right
    obtain ⟨thread, working, logged⟩ : ∃ thread ∈ session.workers, thread.openLog ≠ [] := by
      simpa [last] using idle
    obtain ⟨index, found⟩ := List.getElem?_of_mem working
    obtain ⟨alone, -⟩ := inPhase_alone session phase inPhase index thread found
    have only : last = thread.openLog := by simp [last, alone]
    refine ⟨only ▸ (openLog_underway thread).resolve_left logged, ?_⟩
    have outstanding : phase.outstanding = [thread.pending] := by
      rw [← inPhase.outstanding]
      simp [Machine.Dispatcher.viewed, alone]
    have shown : session.state.state.control.transaction = phase.transaction := inPhase.transaction
    rw [← control_transactionInProgress, Control.transactionInProgress, shown]
    cases thread with
    | discovery result => exact absurd rfl logged
    | transaction job stage startHandled =>
        cases phase <;> first | rfl | cases outstanding

theorem initial_accounted_log (flags : Flags) (locale : ResolvedLocale) :
    Accounted (ThreadSession.initial flags locale) [] where
  inPhase := ⟨.discovering, initial_inPhase flags locale⟩
  serial := ⟨[], by simp, rfl⟩

/-- Whatever the threads' timing and wherever they panic, the commands of two transactions never
mix: the log is one transaction after the other, each over its own snapshot of the selection, and
all but a last one that is still shown as in progress are finished. -/
theorem transactions_serial (vercmp : String → String → Ordering) (flags : Flags)
    (locale : ResolvedLocale) (inputs : List ThreadInput)
    (permitted : Machine.Admissible (packageThreads vercmp).step ThreadsPermitted
      (ThreadSession.initial flags locale) inputs) :
    let session := Machine.run (packageThreads vercmp).step
      (ThreadSession.initial flags locale) inputs
    ∃ (finished : List (List LogEntry)) (last : List LogEntry),
      Machine.outputs (packageThreads vercmp).step (packageLog vercmp)
          (ThreadSession.initial flags locale) inputs = finished.flatten ++ last ∧
        (∀ block ∈ finished, Finished block) ∧
        (last = [] ∨ Underway last ∧ session.state.state.transactionInProgress = true) := by
  intro session
  have accounted := Machine.run_outputs Accounted (step_accounted vercmp)
    (initial_accounted_log flags locale) permitted
  obtain ⟨⟨phase, inPhase⟩, finished, done, log⟩ := accounted
  exact ⟨finished, _, log, done, last_underway session phase inPhase⟩

namespace Sample

def facts : MutableFacts where
  nvidia := ""
  nvidiaOpen := ""
  localPackages := .ok []

/-- A transaction that panics while its only command runs, and a second one that gets through. -/
def panickedUpgrade : List ThreadInput :=
  [.work 0 (.discovered (.ok catalog)), .work 0 .handled,
    .message (.semantic (.kernelToggled "cachyos/linux-cachyos")),
    .message (.semantic .executeRequested), .work 0 .posts, .work 0 (.refreshes facts),
    .work 0 .handled, .work 0 (.panics "index out of bounds"), .work 0 .handled,
    .message .dialogDismissed, .message (.semantic .executeRequested), .work 0 .posts,
    .work 0 (.refreshes facts), .work 0 .returns, .work 0 (.checks (.ok ["linux-cachyos"])),
    .work 0 .handled, .work 0 .handled]

end Sample

theorem transactions_serial_panickedUpgrade :
    let session := Machine.run (packageThreads Sample.vercmp).step
      (ThreadSession.initial Sample.flags Sample.locale) Sample.panickedUpgrade
    ∃ (finished : List (List LogEntry)) (last : List LogEntry),
      Machine.outputs (packageThreads Sample.vercmp).step (packageLog Sample.vercmp)
          (ThreadSession.initial Sample.flags Sample.locale) Sample.panickedUpgrade =
        finished.flatten ++ last ∧
        (∀ block ∈ finished, Finished block) ∧
        (last = [] ∨ Underway last ∧ session.state.state.transactionInProgress = true) :=
  transactions_serial Sample.vercmp Sample.flags Sample.locale Sample.panickedUpgrade (by decide)

end KernelManager
