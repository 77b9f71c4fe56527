import KernelManager.Library.Machine

/-!
A component that reacts to messages, starts background workers and receives
their replies as further messages. A session is its state with the workers
that have not finished yet.
-/

namespace Machine

structure Dispatcher (State Message Worker Progress : Type*) where
  update : State → Message → State × List Worker
  /-- What a message does to a running worker. -/
  notice : State → Message → Worker → Worker
  /-- A worker's progress: the reply it sends, and the worker that is left. -/
  work : State → Worker → Progress → Option Message × Option Worker

structure Session (State Worker : Type*) where
  state : State
  workers : List Worker := []

inductive Input (Message Progress : Type*)
  | message (message : Message)
  | work (index : Nat) (progress : Progress)

namespace Dispatcher

variable {State Message Worker Progress : Type*}
variable (dispatcher : Dispatcher State Message Worker Progress)

def receive (session : Session State Worker) (message : Message) : Session State Worker where
  state := (dispatcher.update session.state message).1
  workers :=
    session.workers.map (dispatcher.notice session.state message) ++
      (dispatcher.update session.state message).2

def replace (workers : List Worker) (index : Nat) : Option Worker → List Worker
  | some worker => workers.set index worker
  | none => workers.eraseIdx index

def reply (session : Session State Worker) : Option Message → Session State Worker
  | some message => dispatcher.receive session message
  | none => session

def step (session : Session State Worker) : Input Message Progress → Session State Worker
  | .message message => dispatcher.receive session message
  | .work index progress =>
      match session.workers[index]? with
      | none => session
      | some worker =>
          let (message, left) := dispatcher.work session.state worker progress
          dispatcher.reply { session with workers := replace session.workers index left } message

def Outstanding (holds : State → Worker → Prop) (session : Session State Worker) : Prop :=
  ∀ worker ∈ session.workers, holds session.state worker

theorem step_work_absent (session : Session State Worker) (index : Nat) (progress : Progress)
    (absent : session.workers[index]? = none) :
    dispatcher.step session (.work index progress) = session := by
  simp [step, absent]

theorem step_work (session : Session State Worker) (index : Nat) (progress : Progress)
    (worker : Worker) (found : session.workers[index]? = some worker) :
    dispatcher.step session (.work index progress) =
      dispatcher.reply
        { session with
          workers :=
            replace session.workers index (dispatcher.work session.state worker progress).2 }
        (dispatcher.work session.state worker progress).1 := by
  simp [step, found]

theorem step_work_only (state : State) (worker : Worker) (progress : Progress) :
    dispatcher.step ⟨state, [worker]⟩ (.work 0 progress) =
      dispatcher.reply ⟨state, (dispatcher.work state worker progress).2.toList⟩
        (dispatcher.work state worker progress).1 := by
  rw [step_work dispatcher ⟨state, [worker]⟩ 0 progress worker rfl]
  cases (dispatcher.work state worker progress).2 <;> rfl

theorem mem_replace (workers : List Worker) (index : Nat) (left : Option Worker)
    (worker : Worker) (member : worker ∈ replace workers index left) :
    worker ∈ workers ∨ left = some worker := by
  cases left with
  | none => exact Or.inl (List.mem_of_mem_eraseIdx member)
  | some other =>
      rcases List.mem_or_eq_of_mem_set member with old | same
      · exact Or.inl old
      · exact Or.inr (congrArg some same.symm)

theorem receive_outstanding (holds : State → Worker → Prop) (session : Session State Worker)
    (message : Message) (before : Outstanding holds session)
    (noticed : ∀ worker ∈ session.workers, holds session.state worker →
      holds (dispatcher.update session.state message).1
        (dispatcher.notice session.state message worker))
    (hired : ∀ worker ∈ (dispatcher.update session.state message).2,
      holds (dispatcher.update session.state message).1 worker) :
    Outstanding holds (dispatcher.receive session message) := by
  intro worker member
  rcases List.mem_append.mp member with old | new
  · obtain ⟨previous, listed, rfl⟩ := List.mem_map.mp old
    exact noticed previous listed (before previous listed)
  · exact hired worker new

theorem replace_outstanding (holds : State → Worker → Prop) (session : Session State Worker)
    (index : Nat) (left : Option Worker) (before : Outstanding holds session)
    (kept : ∀ worker, left = some worker → holds session.state worker) :
    Outstanding holds { session with workers := replace session.workers index left } := by
  intro worker member
  rcases mem_replace session.workers index left worker member with old | same
  · exact before worker old
  · exact kept worker same

theorem work_outstanding (holds : State → Worker → Prop) (session : Session State Worker)
    (index : Nat) (progress : Progress) (before : Outstanding holds session)
    (kept : ∀ worker ∈ session.workers, ∀ left,
      (dispatcher.work session.state worker progress).2 = some left → holds session.state left)
    (replied : ∀ worker ∈ session.workers, ∀ message,
      (dispatcher.work session.state worker progress).1 = some message →
      ∀ workers, Outstanding holds ⟨session.state, workers⟩ →
        Outstanding holds (dispatcher.receive ⟨session.state, workers⟩ message)) :
    Outstanding holds (dispatcher.step session (.work index progress)) := by
  cases found : session.workers[index]? with
  | none =>
      rw [step_work_absent dispatcher session index progress found]
      exact before
  | some worker =>
      have member : worker ∈ session.workers := List.mem_of_getElem? found
      have replaced := replace_outstanding holds session index
        (dispatcher.work session.state worker progress).2 before (kept worker member)
      rw [step_work dispatcher session index progress worker found]
      cases sent : (dispatcher.work session.state worker progress).1 with
      | none => exact replaced
      | some message => exact replied worker member message sent _ replaced

theorem alone (workers : List Worker) (few : workers.length ≤ 1) (index : Nat) (worker : Worker)
    (found : workers[index]? = some worker) : workers = [worker] ∧ index = 0 := by
  cases workers with
  | nil => cases found
  | cons first rest =>
      obtain rfl : rest = [] := by simpa using few
      cases index with
      | zero => exact ⟨congrArg (fun each => [each]) (Option.some.inj found), rfl⟩
      | succ index => cases found

section View

variable {Detailed Detail : Type*} (detailed : Dispatcher State Message Detailed Detail)
variable (view : Detailed → Worker)

def viewed (session : Session State Detailed) : Session State Worker where
  state := session.state
  workers := session.workers.map view

structure Refines : Prop where
  update : ∀ state message, dispatcher.update state message =
    ((detailed.update state message).1, (detailed.update state message).2.map view)
  notice : ∀ state message worker,
    view (detailed.notice state message worker) = dispatcher.notice state message (view worker)

theorem viewed_receive (refines : dispatcher.Refines detailed view)
    (session : Session State Detailed) (message : Message) :
    viewed view (detailed.receive session message) =
      dispatcher.receive (viewed view session) message := by
  have noticed : view ∘ detailed.notice session.state message =
      dispatcher.notice session.state message ∘ view :=
    funext (refines.notice session.state message)
  simp only [viewed, receive, refines.update, List.map_append, List.map_map, noticed]

theorem map_replace (workers : List Detailed) (index : Nat) (left : Option Detailed) :
    (replace workers index left).map view =
      replace (workers.map view) index (left.map view) := by
  cases left with
  | none => simp [replace, List.eraseIdx_eq_take_drop_succ]
  | some worker => simp [replace, List.map_set]

theorem viewed_silent (session : Session State Detailed) (index : Nat) (detail : Detail)
    (worker left : Detailed) (found : session.workers[index]? = some worker)
    (works : detailed.work session.state worker detail = (none, some left))
    (same : view left = view worker) :
    viewed view (detailed.step session (.work index detail)) = viewed view session := by
  rw [step_work detailed session index detail worker found, works]
  obtain ⟨bound, rfl⟩ := List.getElem?_eq_some_iff.mp found
  have kept : session.workers.set index session.workers[index] = session.workers :=
    List.set_getElem_self bound
  simp only [reply, replace, viewed, List.map_set, same]
  rw [← List.map_set, kept]

theorem viewed_work (refines : dispatcher.Refines detailed view)
    (session : Session State Detailed) (index : Nat) (detail : Detail) (progress : Progress)
    (worker : Detailed) (found : session.workers[index]? = some worker) (message : Message)
    (left : Option Detailed)
    (works : detailed.work session.state worker detail = (some message, left))
    (shown : dispatcher.work session.state (view worker) progress =
      (some message, left.map view)) :
    viewed view (detailed.step session (.work index detail)) =
      dispatcher.step (viewed view session) (.work index progress) := by
  have seen : (viewed view session).workers[index]? = some (view worker) := by
    simp only [viewed, List.getElem?_map, found, Option.map_some]
  rw [step_work detailed session index detail worker found, works,
    step_work dispatcher (viewed view session) index progress (view worker) seen]
  change viewed view (detailed.receive _ message) = _
  rw [viewed_receive dispatcher detailed view refines]
  simp only [viewed, shown, reply, map_replace]

end View

end Dispatcher

end Machine
