import KernelManager.Library.Dispatcher
import KernelManager.Ui.Captured
import KernelManager.Ui.Controls
import KernelManager.Ui.Frame

/-! What a build that the user cancelled reports. -/

namespace KernelManager

/-- A build worker with its generation, the success it has decided on and queued, and whether
the user has cancelled it. -/
structure BuildWorker where
  epoch : Nat
  verdict : Option Bool := none
  cancelled : Bool := false
  deriving DecidableEq, Repr

/-- The worker compares the epochs last of all; its result is delivered later. -/
inductive BuildProgress
  | decide (done : Bool)
  | deliver
  deriving DecidableEq, Repr

def Task.buildWorker : Task → Option BuildWorker
  | .build job => some { epoch := job.epoch }
  | _ => none

namespace BuildWorker

def notice (app : App) (message : UiMessage) (worker : BuildWorker) : BuildWorker :=
  if message.cancelsBuild ∧ app.state.build = .running then { worker with cancelled := true }
  else worker

def work (app : App) (worker : BuildWorker) :
    BuildProgress → Option UiMessage × Option BuildWorker
  | .decide done =>
      match worker.verdict with
      | some _ => (none, some worker)
      | none =>
          (none, some { worker with verdict := some (done && worker.epoch == app.buildEpoch) })
  | .deliver =>
      match worker.verdict with
      | some success => (some (.buildFinished success), none)
      | none => (none, some worker)

end BuildWorker

def buildDispatcher (vercmp : String → String → Ordering) :
    Machine.Dispatcher App UiMessage BuildWorker BuildProgress where
  update app message :=
    let (app, tasks) := update vercmp app message
    (app, tasks.filterMap Task.buildWorker)
  notice := BuildWorker.notice
  work := BuildWorker.work

abbrev BuildSession := Machine.Session App BuildWorker
abbrev BuildInput := Machine.Input UiMessage BuildProgress

def BuildSession.initial (flags : Flags) (locale : ResolvedLocale) : BuildSession where
  state := App.initial flags locale

def UiMessage.finishesBuild : UiMessage → Bool
  | .buildFinished _ => true
  | _ => false

def BuildPermitted (_session : BuildSession) : BuildInput → Prop
  | .message message => message.finishesBuild = false
  | .work _ _ => True

instance (session : BuildSession) : ∀ input, Decidable (BuildPermitted session input)
  | .message _ => inferInstanceAs (Decidable (_ = _))
  | .work _ _ => instDecidableTrue

def CancelledInTime (session : BuildSession) : BuildInput → Prop
  | .message message =>
      message.cancelsBuild = true → session.state.state.build = .running →
        ∀ worker ∈ session.workers, worker.verdict ≠ some true
  | .work _ _ => True

instance (session : BuildSession) : ∀ input, Decidable (CancelledInTime session input)
  | .message _ => inferInstanceAs (Decidable (_ → _ → _))
  | .work _ _ => instDecidableTrue

/-- The queued result of a cancelled build is a failure, and processing it moves to the failed
build without a question. -/
def CancelledFails (vercmp : String → String → Ordering) (session : BuildSession) : Prop :=
  ∀ index worker success, session.workers[index]? = some worker →
    worker.cancelled = true → worker.verdict = some success →
      success = false ∧
        let after := (buildDispatcher vercmp).step session (.work index .deliver)
        after.state.state.build = .failed ∧
          after.state.state.dialogs = session.state.state.dialogs

theorem transition_runsNoBuild (state : AppState) (event : AppEvent)
    (other : event ≠ .buildRequested) (variantDir : String) :
    Effect.runBuild variantDir ∉ (transition state event).2 := by
  cases event with
  | buildRequested => exact absurd rfl other
  | executeRequested =>
      simp only [transition]
      split <;> simp
  | transactionFinished changed => cases changed <;> simp [transition]
  | _ => simp [transition]

theorem buildEpoch_framed (epoch : Nat) : Framed fun app => app.buildEpoch = epoch := by
  constructor <;> intros <;> assumption

theorem onEvent_buildEpoch (app : App) (event : AppEvent) (other : event ≠ .buildRequested) :
    (app.onEvent event).1.buildEpoch = app.buildEpoch :=
  runEffects_framed (buildEpoch_framed app.buildEpoch).besideRows _ _ rfl
    (transition_runsNoBuild app.state event other)

theorem pressed_buildEpoch (vercmp : String → String → Ordering) (app : App) :
    (update vercmp app (.semantic .buildRequested)).1.buildEpoch =
      if app.state.build.inFlight then app.buildEpoch else app.buildEpoch + 1 := by
  simp only [update, Message.cancelsBuild, Bool.false_and, Bool.false_eq_true, ↓reduceIte,
    App.onSemantic, App.onEvent, transition]
  split <;> rfl

theorem update_buildEpoch (vercmp : String → String → Ordering) (app : App)
    (message : UiMessage) (other : message ≠ .semantic .buildRequested) :
    (update vercmp app message).1.buildEpoch = (app.prepare message).buildEpoch := by
  apply update_framed vercmp (buildEpoch_framed _) app message rfl
  · intro app event raised kept
    rw [onEvent_buildEpoch app event, kept]
    rintro rfl
    cases raised
    exact other rfl
  · rintro payload rfl
    rfl
  · rintro text rfl
    rfl

theorem prepare_buildEpoch (app : App) (message : UiMessage) :
    app.buildEpoch ≤ (app.prepare message).buildEpoch := by
  unfold App.prepare
  split
  · exact Nat.le_succ _
  · exact le_rfl

theorem buildEpoch_monotone (vercmp : String → String → Ordering) (app : App)
    (message : UiMessage) : app.buildEpoch ≤ (update vercmp app message).1.buildEpoch := by
  by_cases pressed : message = .semantic .buildRequested
  · rw [pressed, pressed_buildEpoch]
    split <;> omega
  · rw [update_buildEpoch vercmp app message pressed]
    exact prepare_buildEpoch app message

theorem cancel_buildEpoch (vercmp : String → String → Ordering) (app : App)
    (message : UiMessage) (cancels : message.cancelsBuild = true)
    (running : app.state.build = .running) :
    app.buildEpoch < (update vercmp app message).1.buildEpoch := by
  have other : message ≠ .semantic .buildRequested := by
    rintro rfl
    cases cancels
  rw [update_buildEpoch vercmp app message other]
  simp [App.prepare, cancels, running, BuildState.inFlight, App.cancelBuildProcess]

def Generations (app : App) (worker : BuildWorker) : Prop :=
  worker.epoch ≤ app.buildEpoch ∧ (worker.cancelled = true → worker.epoch < app.buildEpoch)

theorem hired_generations (vercmp : String → String → Ordering) (app : App)
    (message : UiMessage) (worker : BuildWorker)
    (hired : worker ∈ (update vercmp app message).2.filterMap Task.buildWorker) :
    Generations (update vercmp app message).1 worker ∧ worker.verdict = none := by
  obtain ⟨task, spawned, isBuild⟩ := List.mem_filterMap.mp hired
  cases task with
  | build job =>
      obtain ⟨rfl, idle, rfl⟩ := update_build vercmp app message job spawned
      cases isBuild
      refine ⟨⟨?_, fun cancelled => by cases cancelled⟩, rfl⟩
      rw [pressed_buildEpoch, if_neg (by simp [idle])]
      exact le_rfl
  | _ => cases isBuild

theorem notice_generations (vercmp : String → String → Ordering) (app : App)
    (message : UiMessage) (worker : BuildWorker) (before : Generations app worker) :
    Generations (update vercmp app message).1 (worker.notice app message) := by
  have later := buildEpoch_monotone vercmp app message
  unfold BuildWorker.notice
  split
  · rename_i cancels
    have bumped := cancel_buildEpoch vercmp app message cancels.1 cancels.2
    exact ⟨before.1.trans later, fun _ => lt_of_le_of_lt before.1 bumped⟩
  · exact ⟨before.1.trans later, fun cancelled => lt_of_lt_of_le (before.2 cancelled) later⟩

theorem work_generations (app : App) (worker left : BuildWorker) (progress : BuildProgress)
    (before : Generations app worker) (after : (worker.work app progress).2 = some left) :
    Generations app left := by
  cases progress with
  | decide done =>
      simp only [BuildWorker.work] at after
      split at after <;> cases after <;> exact before
  | deliver =>
      simp only [BuildWorker.work] at after
      split at after <;> cases after
      exact before

def HonestVerdict (_app : App) (worker : BuildWorker) : Prop :=
  worker.cancelled = true → worker.verdict ≠ some true

theorem work_reply (app : App) (worker : BuildWorker) (progress : BuildProgress)
    (message : UiMessage) (sent : (worker.work app progress).1 = some message) :
    ∃ success, message = .buildFinished success ∧ worker.verdict = some success := by
  cases progress with
  | decide done =>
      simp only [BuildWorker.work] at sent
      split at sent <;> cases sent
  | deliver =>
      simp only [BuildWorker.work] at sent
      split at sent
      · rename_i success decided
        cases sent
        exact ⟨success, rfl, decided⟩
      · cases sent

theorem work_honest (app : App) (worker left : BuildWorker) (progress : BuildProgress)
    (generations : Generations app worker) (before : HonestVerdict app worker)
    (after : (worker.work app progress).2 = some left) : HonestVerdict app left := by
  cases progress with
  | decide done =>
      simp only [BuildWorker.work] at after
      split at after
      · cases after
        exact before
      · cases after
        intro cancelled
        have stale : (worker.epoch == app.buildEpoch) = false := by
          simpa using (generations.2 cancelled).ne
        simp [stale]
  | deliver =>
      simp only [BuildWorker.work] at after
      split at after <;> cases after
      exact before

section Session

variable (vercmp : String → String → Ordering)

open Machine.Dispatcher

theorem receive_generations (session : BuildSession) (message : UiMessage)
    (before : Outstanding Generations session) :
    Outstanding Generations ((buildDispatcher vercmp).receive session message) :=
  receive_outstanding _ Generations session message before
    (fun worker _ => notice_generations vercmp session.state message worker)
    (fun worker hired => (hired_generations vercmp session.state message worker hired).1)

theorem step_generations (session : BuildSession) (input : BuildInput)
    (before : Outstanding Generations session) :
    Outstanding Generations ((buildDispatcher vercmp).step session input) := by
  cases input with
  | message message => exact receive_generations vercmp session message before
  | work index progress =>
      apply work_outstanding _ _ _ _ _ before
      · intro worker member left after
        exact work_generations session.state worker left progress (before worker member) after
      · intro worker _ message _ workers replaced
        exact receive_generations vercmp _ message replaced

theorem receive_honest (session : BuildSession) (message : UiMessage)
    (before : Outstanding HonestVerdict session)
    (inTime : CancelledInTime session (.message message)) :
    Outstanding HonestVerdict ((buildDispatcher vercmp).receive session message) := by
  apply receive_outstanding _ _ _ _ before
  · intro worker member honest
    change HonestVerdict _ (worker.notice session.state message)
    unfold BuildWorker.notice
    split
    · rename_i cancels
      exact fun _ => inTime cancels.1 cancels.2 worker member
    · exact honest
  · intro worker hired _
    rw [(hired_generations vercmp session.state message worker hired).2]
    simp

theorem cancelledFails_iff (session : BuildSession) :
    CancelledFails vercmp session ↔ Outstanding HonestVerdict session := by
  constructor
  · intro fails worker member cancelled decided
    obtain ⟨index, found⟩ := List.mem_iff_getElem?.mp member
    have success := (fails index worker true found cancelled decided).1
    cases success
  · intro honest index worker success found cancelled decided
    have failure : success = false := by
      have other := honest worker (List.mem_of_getElem? found) cancelled
      rw [decided] at other
      simpa using other
    subst failure
    refine ⟨rfl, ?_⟩
    intro after
    have stepped : after = _ :=
      step_work (buildDispatcher vercmp) session index .deliver worker found
    simp only [buildDispatcher, BuildWorker.work, decided] at stepped
    rw [stepped]
    exact ⟨rfl, rfl⟩

theorem cancelledFails_step (session : BuildSession) (input : BuildInput)
    (generations : Outstanding Generations session) (before : CancelledFails vercmp session) :
    CancelledFails vercmp ((buildDispatcher vercmp).step session input) ↔
      CancelledInTime session input := by
  rw [cancelledFails_iff] at before ⊢
  cases input with
  | message message =>
      refine ⟨?_, receive_honest vercmp session message before⟩
      intro after cancels running worker member
      have noticed : { worker with cancelled := true } ∈
          ((buildDispatcher vercmp).receive session message).workers := by
        apply List.mem_append_left
        apply List.mem_map.mpr
        exact ⟨worker, member, if_pos ⟨cancels, running⟩⟩
      exact after { worker with cancelled := true } noticed rfl
  | work index progress =>
      refine ⟨fun _ => trivial, fun _ => ?_⟩
      apply work_outstanding _ _ _ _ _ before
      · intro worker member left after
        exact work_honest session.state worker left progress (generations worker member)
          (before worker member) after
      · intro worker _ message sent workers replaced
        obtain ⟨success, rfl, _⟩ := work_reply session.state worker progress message sent
        exact receive_honest vercmp _ _ replaced fun cancels => by cases cancels

end Session

/-- A cancelled build is always reported as failed exactly if no running build is cancelled
while its success is queued. -/
theorem cancelledBuild_fails_iff (vercmp : String → String → Ordering) (flags : Flags)
    (locale : ResolvedLocale) (inputs : List BuildInput)
    (permitted : Machine.Admissible (buildDispatcher vercmp).step BuildPermitted
      (BuildSession.initial flags locale) inputs) :
    Machine.Always (buildDispatcher vercmp).step (CancelledFails vercmp)
        (BuildSession.initial flags locale) inputs ↔
      Machine.Admissible (buildDispatcher vercmp).step CancelledInTime
        (BuildSession.initial flags locale) inputs :=
  Machine.always_iff_admissible (Machine.Dispatcher.Outstanding Generations)
    (fun session input generations _ => step_generations vercmp session input generations)
    (fun session input generations fails _ =>
      cancelledFails_step vercmp session input generations fails)
    (by simp [Machine.Dispatcher.Outstanding, BuildSession.initial])
    (by simp [CancelledFails, BuildSession.initial]) permitted

namespace Sample

def cancelledInTime : List BuildInput :=
  [.message (.semantic .configureRequested), .message (.configurePrepared 1 []),
    .message (.semantic .buildRequested), .message (.semantic .configurationCloseRequested),
    .work 0 (.decide true), .work 0 .deliver]

def cancelledLate : List BuildInput :=
  [.message (.semantic .configureRequested), .message (.configurePrepared 1 []),
    .message (.semantic .buildRequested), .work 0 (.decide true),
    .message (.semantic .configurationCloseRequested)]

end Sample

theorem cancelledBuild_fails_inTime :
    Machine.Always (buildDispatcher Sample.vercmp).step (CancelledFails Sample.vercmp)
      (BuildSession.initial Sample.flags Sample.locale) Sample.cancelledInTime :=
  (cancelledBuild_fails_iff Sample.vercmp Sample.flags Sample.locale Sample.cancelledInTime
    (by decide)).mpr (by decide)

theorem cancelledBuild_succeeds :
    ¬∀ (vercmp : String → String → Ordering) (flags : Flags) (locale : ResolvedLocale)
      (inputs : List BuildInput),
      Machine.Admissible (buildDispatcher vercmp).step BuildPermitted
        (BuildSession.initial flags locale) inputs →
      Machine.Always (buildDispatcher vercmp).step (CancelledFails vercmp)
        (BuildSession.initial flags locale) inputs := by
  intro fails
  obtain ⟨_, _, _, _, _, queued⟩ := fails Sample.vercmp Sample.flags Sample.locale
    Sample.cancelledLate (by decide)
  have success := (queued 0 { epoch := 1, verdict := some true, cancelled := true } true rfl rfl
    rfl).1
  cases success

end KernelManager
