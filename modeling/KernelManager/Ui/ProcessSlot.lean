import KernelManager.Ui.Controls

/-!
The process slot that the build and install workers share with the cancel of the
Configure window: their single steps, in every order.
-/

namespace KernelManager

inductive Child
  | alive | killed | exited
  deriving DecidableEq, Repr

inductive WorkerKind
  | build | install
  deriving DecidableEq, Repr

/-- How far a worker has come. A worker holds its child until it has stored it in the slot. -/
inductive Stage
  | starting
  | checked
  | spawned (child : Nat)
  | confirmed (child : Nat)
  | waiting (child : Nat)
  | clearing
  | finished
  deriving DecidableEq, Repr

/-- Whether a cancel has been issued while the worker was in flight, and has completed. -/
inductive Cancel
  | none | issued | completed
  deriving DecidableEq, Repr

structure SlotWorker where
  kind : WorkerKind
  epoch : Nat
  stage : Stage := .starting
  cancel : Cancel := .none
  deriving DecidableEq, Repr

namespace SlotWorker

def issue (worker : SlotWorker) : SlotWorker :=
  if worker.stage ≠ .finished ∧ worker.cancel = .none then { worker with cancel := .issued }
  else worker

def complete (worker : SlotWorker) : SlotWorker :=
  if worker.cancel = .issued then { worker with cancel := .completed } else worker

def stored (worker : SlotWorker) : Bool :=
  match worker.stage with
  | .waiting _ => true
  | _ => false

end SlotWorker

structure ProcessState where
  epoch : Nat := 0
  slot : Option Nat := none
  /-- Every child ever spawned, by its identity. -/
  children : List Child := []
  /-- The cancel has bumped the epoch and not yet taken the child. -/
  cancelling : Bool := false
  worker : Option SlotWorker := none
  deriving DecidableEq, Repr

def endChild (children : List Child) (child : Nat) (fate : Child) : List Child :=
  if children[child]? = some .alive then children.set child fate else children

namespace ProcessState

def atStage (state : ProcessState) (worker : SlotWorker) (stage : Stage) : ProcessState :=
  { state with worker := some { worker with stage := stage } }

def spawn (state : ProcessState) (worker : SlotWorker) : ProcessState :=
  let child := state.children.length
  let state := { state with children := state.children ++ [Child.alive] }
  -- Only the build worker compares the epochs a second time before it stores the child.
  match worker.kind with
  | .build => state.atStage worker (.spawned child)
  | .install => state.atStage worker (.confirmed child)

def advance (state : ProcessState) (worker : SlotWorker) (succeeds : Bool) : ProcessState :=
  match worker.stage with
  | .starting =>
      if succeeds && worker.epoch == state.epoch then state.atStage worker .checked
      else state.atStage worker .finished
  | .checked => if succeeds then state.spawn worker else state.atStage worker .finished
  | .spawned child =>
      if worker.epoch = state.epoch then state.atStage worker (.confirmed child)
      else
        { state with children := endChild state.children child .killed }.atStage worker .finished
  | .confirmed child => { state with slot := some child }.atStage worker (.waiting child)
  | .waiting _ =>
      match state.slot with
      | none => state.atStage worker .clearing
      | some child =>
          if state.children[child]? = some .alive then state else state.atStage worker .clearing
  | .clearing => { state with slot := none }.atStage worker .finished
  | .finished => state

def bump (state : ProcessState) : ProcessState :=
  { state with
    epoch := state.epoch + 1
    cancelling := true
    worker := state.worker.map SlotWorker.issue }

def take (state : ProcessState) : ProcessState :=
  { state with
    slot := none
    children :=
      match state.slot with
      | some child => endChild state.children child .killed
      | none => state.children
    cancelling := false
    worker := state.worker.map SlotWorker.complete }

def dispatch (state : ProcessState) : WorkerKind → ProcessState
  | .build =>
      { state with
        epoch := state.epoch + 1
        worker := some { kind := .build, epoch := state.epoch + 1 } }
  | .install => { state with worker := some { kind := .install, epoch := state.epoch } }

end ProcessState

inductive ProcessEvent
  | dispatch (kind : WorkerKind)
  | work (succeeds : Bool)
  | exit (child : Nat)
  | bump
  | take
  deriving DecidableEq, Repr

def processStep (state : ProcessState) : ProcessEvent → ProcessState
  | .dispatch kind => state.dispatch kind
  | .work succeeds =>
      match state.worker with
      | some worker => state.advance worker succeeds
      | none => state
  | .exit child => { state with children := endChild state.children child .exited }
  | .bump => state.bump
  | .take => state.take

/-- The UI thread dispatches one worker after the other, and completes a cancel it has begun
before anything else. -/
def ProcessEnabled (state : ProcessState) : ProcessEvent → Prop
  | .dispatch _ =>
      state.cancelling = false ∧ state.worker.all (fun worker => worker.stage = .finished) = true
  | .bump => state.cancelling = false
  | .take => state.cancelling = true
  | .work _ | .exit _ => True

instance (state : ProcessState) : ∀ event, Decidable (ProcessEnabled state event)
  | .dispatch _ => inferInstanceAs (Decidable (_ ∧ _))
  | .bump => inferInstanceAs (Decidable (_ = _))
  | .take => inferInstanceAs (Decidable (_ = _))
  | .work _ => instDecidableTrue
  | .exit _ => instDecidableTrue

def ProcessState.leaked (state : ProcessState) : Bool :=
  match state.worker with
  | some ⟨_, _, .waiting child, .completed⟩ => state.children[child]? = some .alive
  | _ => false

/-- The worker is past its last comparison of the epochs, with a living child or about to
spawn one. -/
def ProcessState.pastChecks (state : ProcessState) (worker : SlotWorker) : Bool :=
  match worker.stage with
  | .checked => worker.kind = .install
  | .confirmed child | .waiting child => state.children[child]? = some .alive
  | _ => false

/-- A cancel that takes the child from the slot does not come between the worker's last
comparison of the epochs and the storing of its child. -/
def TakenInTime (state : ProcessState) : ProcessEvent → Prop
  | .take => state.worker.all (fun worker => worker.stored || !state.pastChecks worker) = true
  | _ => True

instance (state : ProcessState) : ∀ event, Decidable (TakenInTime state event)
  | .take => inferInstanceAs (Decidable (_ = _))
  | .dispatch _ => instDecidableTrue
  | .work _ => instDecidableTrue
  | .exit _ => instDecidableTrue
  | .bump => instDecidableTrue

/-- Whatever the worker does from here on, it waits for no living child once its cancel has
completed. -/
def Terminates (state : ProcessState) : Prop :=
  ∀ outcomes : List Bool, (Machine.run processStep state (outcomes.map .work)).leaked = false

structure Supervised (state : ProcessState) (worker : SlotWorker) : Prop where
  born : worker.epoch ≤ state.epoch
  stale : worker.cancel ≠ .none → worker.epoch < state.epoch
  owned : ∀ child, worker.stage = .waiting child →
    state.slot = some child ∨ state.children[child]? ≠ some .alive
  free : worker.stored = false → worker.stage ≠ .clearing → state.slot = none
  marked : state.cancelling = true → worker.cancel ≠ .none ∨ worker.stage = .finished

structure ProcessInvariant (state : ProcessState) : Prop where
  idle : state.worker = none → state.slot = none
  supervised : ∀ worker, state.worker = some worker → Supervised state worker

def Safe (state : ProcessState) : Prop :=
  ∀ worker, state.worker = some worker → worker.cancel = .completed →
    state.pastChecks worker = false

theorem endChild_ended (children : List Child) (child : Nat) (fate : Child)
    (dead : fate ≠ .alive) : (endChild children child fate)[child]? ≠ some .alive := by
  unfold endChild
  split
  · rename_i alive
    obtain ⟨bound, _⟩ := List.getElem?_eq_some_iff.mp alive
    simp [List.getElem?_set_self bound, dead]
  · assumption

theorem endChild_stays (children : List Child) (child other : Nat) (fate : Child)
    (dead : fate ≠ .alive) (ended : children[other]? ≠ some .alive) :
    (endChild children child fate)[other]? ≠ some .alive := by
  by_cases same : child = other
  · rw [same]
    exact endChild_ended children other fate dead
  · unfold endChild
    split
    · rwa [List.getElem?_set_ne same]
    · exact ended

theorem exit_supervised (state : ProcessState) (worker : SlotWorker) (child : Nat)
    (supervised : Supervised state worker) :
    Supervised { state with children := endChild state.children child .exited } worker where
  born := supervised.born
  stale := supervised.stale
  owned := fun waited waiting => (supervised.owned waited waiting).imp_right
    (endChild_stays state.children child waited .exited (by decide))
  free := supervised.free
  marked := supervised.marked

theorem bump_supervised (state : ProcessState) (worker : SlotWorker)
    (supervised : Supervised state worker) : Supervised state.bump worker.issue := by
  unfold SlotWorker.issue
  split
  · exact
      { born := Nat.le_succ_of_le supervised.born
        stale := fun _ => Nat.lt_succ_of_le supervised.born
        owned := supervised.owned
        free := supervised.free
        marked := fun _ => Or.inl (by simp) }
  · rename_i unmarked
    exact
      { born := Nat.le_succ_of_le supervised.born
        stale := fun _ => Nat.lt_succ_of_le supervised.born
        owned := supervised.owned
        free := supervised.free
        marked := fun _ => by
          by_cases finished : worker.stage = .finished
          · exact Or.inr finished
          · exact Or.inl fun never => unmarked ⟨finished, never⟩ }

theorem complete_fields (worker : SlotWorker) :
    worker.complete.stage = worker.stage ∧ worker.complete.kind = worker.kind ∧
      worker.complete.epoch = worker.epoch := by
  unfold SlotWorker.complete
  split <;> exact ⟨rfl, rfl, rfl⟩

theorem complete_stale (worker : SlotWorker) (cancelled : worker.complete.cancel ≠ .none) :
    worker.cancel ≠ .none := by
  intro never
  exact cancelled (by simp [SlotWorker.complete, never])

theorem take_ends (state : ProcessState) (worker : SlotWorker)
    (supervised : Supervised state worker) (child : Nat)
    (waiting : worker.stage = .waiting child) :
    state.take.children[child]? ≠ some .alive := by
  unfold ProcessState.take
  rcases supervised.owned child waiting with inSlot | ended
  · simp only [inSlot]
    exact endChild_ended state.children child .killed (by decide)
  · cases state.slot with
    | none => exact ended
    | some other => exact endChild_stays state.children other child .killed (by decide) ended

theorem take_supervised (state : ProcessState) (worker : SlotWorker)
    (supervised : Supervised state worker) : Supervised state.take worker.complete := by
  obtain ⟨stage, kind, epoch⟩ := complete_fields worker
  exact
    { born := epoch.le.trans supervised.born
      stale := fun cancelled =>
        lt_of_eq_of_lt epoch (supervised.stale (complete_stale worker cancelled))
      owned := fun child waiting =>
        Or.inr (take_ends state worker supervised child (stage.symm.trans waiting))
      free := fun _ _ => rfl
      marked := fun cancelling => by cases cancelling }

theorem atStage_invariant (state : ProcessState) (worker : SlotWorker) (stage : Stage)
    (slot : Option Nat) (children : List Child) (supervised : Supervised state worker)
    (unfinished : worker.stage ≠ .finished)
    (owned : ∀ child, stage = .waiting child → slot = some child)
    (free : SlotWorker.stored { worker with stage := stage } = false → stage ≠ .clearing →
      slot = none) :
    ProcessInvariant
      ({ state with slot := slot, children := children }.atStage worker stage) where
  idle := fun absent => by cases absent
  supervised := by
    intro next same
    obtain rfl := Option.some.inj same
    exact
      { born := supervised.born
        stale := supervised.stale
        owned := fun child waiting => Or.inl (owned child waiting)
        free := free
        marked := fun cancelling =>
          Or.inl ((supervised.marked cancelling).resolve_right unfinished) }

theorem advance_invariant (state : ProcessState) (worker : SlotWorker) (succeeds : Bool)
    (invariant : ProcessInvariant state) (current : state.worker = some worker) :
    ProcessInvariant (state.advance worker succeeds) := by
  have supervised := invariant.supervised worker current
  have moves (stage : Stage) (children : List Child) (unfinished : worker.stage ≠ .finished)
      (notWaiting : ∀ child, stage ≠ .waiting child) (empty : state.slot = none) :
      ProcessInvariant ({ state with children := children }.atStage worker stage) :=
    atStage_invariant state worker stage state.slot children supervised unfinished
      (fun child waiting => absurd waiting (notWaiting child)) (fun _ _ => empty)
  unfold ProcessState.advance
  cases stage : worker.stage with
  | starting =>
      have empty := supervised.free (by simp [SlotWorker.stored, stage]) (by simp [stage])
      simp only []
      split
      · exact moves .checked state.children (by simp [stage]) (by simp) empty
      · exact moves .finished state.children (by simp [stage]) (by simp) empty
  | checked =>
      have empty := supervised.free (by simp [SlotWorker.stored, stage]) (by simp [stage])
      simp only []
      split
      · unfold ProcessState.spawn
        cases worker.kind with
        | build => exact moves (.spawned _) _ (by simp [stage]) (by simp) empty
        | install => exact moves (.confirmed _) _ (by simp [stage]) (by simp) empty
      · exact moves .finished state.children (by simp [stage]) (by simp) empty
  | spawned child =>
      have empty := supervised.free (by simp [SlotWorker.stored, stage]) (by simp [stage])
      simp only []
      split
      · exact moves (.confirmed child) state.children (by simp [stage]) (by simp) empty
      · exact moves .finished _ (by simp [stage]) (by simp) empty
  | confirmed child =>
      exact atStage_invariant state worker (.waiting child) (some child) state.children
        supervised (by simp [stage]) (by simp) (by simp [SlotWorker.stored])
  | waiting child =>
      have cleared : ProcessInvariant (state.atStage worker .clearing) :=
        atStage_invariant state worker .clearing state.slot state.children supervised
          (by simp [stage]) (by simp) (by simp)
      simp only []
      split
      · exact cleared
      · split
        · exact invariant
        · exact cleared
  | clearing =>
      exact atStage_invariant state worker .finished none state.children supervised
        (by simp [stage]) (by simp) (fun _ _ => rfl)
  | finished => exact invariant

theorem fresh_invariant (state : ProcessState) (worker : SlotWorker)
    (current : state.worker = some worker) (epoch : worker.epoch = state.epoch)
    (starting : worker.stage = .starting) (uncancelled : worker.cancel = .none)
    (empty : state.slot = none) (idle : state.cancelling = false) : ProcessInvariant state where
  idle := fun _ => empty
  supervised := by
    intro other same
    obtain rfl := Option.some.inj (current.symm.trans same)
    exact
      { born := epoch.le
        stale := fun cancelled => absurd uncancelled cancelled
        owned := fun child waiting => by simp [starting] at waiting
        free := fun _ _ => empty
        marked := fun cancelling => by simp [idle] at cancelling }

theorem dispatch_invariant (state : ProcessState) (kind : WorkerKind)
    (invariant : ProcessInvariant state) (enabled : ProcessEnabled state (.dispatch kind)) :
    ProcessInvariant (state.dispatch kind) := by
  obtain ⟨idle, ended⟩ := enabled
  have empty : state.slot = none := by
    cases current : state.worker with
    | none => exact invariant.idle current
    | some worker =>
        rw [current, Option.all_some, decide_eq_true_iff] at ended
        exact (invariant.supervised worker current).free (by simp [SlotWorker.stored, ended])
          (by simp [ended])
  cases kind with
  | build => exact fresh_invariant (state.dispatch .build) _ rfl rfl rfl rfl empty idle
  | install => exact fresh_invariant (state.dispatch .install) _ rfl rfl rfl rfl empty idle

theorem process_invariant (state : ProcessState) (event : ProcessEvent)
    (invariant : ProcessInvariant state) (enabled : ProcessEnabled state event) :
    ProcessInvariant (processStep state event) := by
  cases event with
  | dispatch kind => exact dispatch_invariant state kind invariant enabled
  | work succeeds =>
      simp only [processStep]
      split
      · rename_i worker current
        exact advance_invariant state worker succeeds invariant current
      · exact invariant
  | exit child =>
      exact ⟨invariant.idle, fun worker current =>
        exit_supervised state worker child (invariant.supervised worker current)⟩
  | bump =>
      refine ⟨fun absent => invariant.idle (Option.map_eq_none_iff.mp absent), ?_⟩
      intro issued same
      obtain ⟨worker, current, rfl⟩ := Option.map_eq_some_iff.mp same
      exact bump_supervised state worker (invariant.supervised worker current)
  | take =>
      refine ⟨fun _ => rfl, fun completed same => ?_⟩
      obtain ⟨worker, current, rfl⟩ := Option.map_eq_some_iff.mp same
      exact take_supervised state worker (invariant.supervised worker current)

theorem atStage_safe (state : ProcessState) (worker : SlotWorker) (stage : Stage)
    (safe : worker.cancel = .completed →
      state.pastChecks { worker with stage := stage } = false) :
    Safe (state.atStage worker stage) := by
  intro next same
  obtain rfl := Option.some.inj same
  exact safe

theorem advance_safe (state : ProcessState) (worker : SlotWorker) (succeeds : Bool)
    (current : state.worker = some worker) (supervised : Supervised state worker)
    (safe : Safe state) : Safe (state.advance worker succeeds) := by
  -- After a completed cancel the worker's epoch is stale, so it passes no comparison any more.
  have outdated : worker.cancel = .completed → worker.epoch ≠ state.epoch := by
    intro completed
    exact (supervised.stale (by simp [completed])).ne
  have kept := safe worker current
  unfold ProcessState.advance
  cases stage : worker.stage with
  | starting =>
      simp only []
      split
      · rename_i passed
        simp only [Bool.and_eq_true, beq_iff_eq] at passed
        exact atStage_safe state worker .checked
          (fun completed => absurd passed.2 (outdated completed))
      · exact atStage_safe state worker .finished (fun _ => rfl)
  | checked =>
      simp only []
      split
      · unfold ProcessState.spawn
        cases kind : worker.kind with
        | build => exact atStage_safe _ worker (.spawned _) (fun _ => rfl)
        | install =>
            have pending : worker.cancel ≠ .completed := by
              intro completed
              simpa [ProcessState.pastChecks, stage, kind] using kept completed
            exact atStage_safe _ worker (.confirmed _)
              (fun completed => absurd completed pending)
      · exact atStage_safe state worker .finished (fun _ => rfl)
  | spawned child =>
      simp only []
      split
      · rename_i passed
        exact atStage_safe state worker (.confirmed child)
          (fun completed => absurd passed (outdated completed))
      · exact atStage_safe _ worker .finished (fun _ => rfl)
  | confirmed child =>
      refine atStage_safe _ worker (.waiting child) (fun completed => ?_)
      simpa only [ProcessState.pastChecks, stage] using kept completed
  | waiting child =>
      have cleared : Safe (state.atStage worker .clearing) :=
        atStage_safe state worker .clearing (fun _ => rfl)
      simp only []
      split
      · exact cleared
      · split
        · exact safe
        · exact cleared
  | clearing => exact atStage_safe _ worker .finished (fun _ => rfl)
  | finished => exact safe

theorem exit_safe (state : ProcessState) (child : Nat) (safe : Safe state) :
    Safe { state with children := endChild state.children child .exited } := by
  intro worker current completed
  have kept := safe worker current completed
  unfold ProcessState.pastChecks at kept ⊢
  cases stage : worker.stage with
  | checked => simpa only [stage] using kept
  | confirmed held | waiting held =>
      simp only [stage, decide_eq_false_iff_not] at kept ⊢
      exact endChild_stays state.children child held .exited (by decide) kept
  | starting | spawned _ | clearing | finished => rfl

theorem bump_safe (state : ProcessState) (safe : Safe state) : Safe state.bump := by
  intro issued same completed
  obtain ⟨worker, current, rfl⟩ := Option.map_eq_some_iff.mp same
  unfold SlotWorker.issue at completed ⊢
  split at completed
  · cases completed
  · rename_i unmarked
    rw [if_neg unmarked]
    exact safe worker current completed

theorem take_pastChecks (state : ProcessState) (worker : SlotWorker)
    (supervised : Supervised state worker) :
    state.take.pastChecks worker.complete = (!worker.stored && state.pastChecks worker) := by
  obtain ⟨sameStage, sameKind, _⟩ := complete_fields worker
  unfold ProcessState.pastChecks
  rw [sameStage, sameKind]
  cases stage : worker.stage with
  | waiting child =>
      have ended := take_ends state worker supervised child stage
      simp [SlotWorker.stored, stage, ended]
  | confirmed child =>
      have empty := supervised.free (by simp [SlotWorker.stored, stage]) (by simp [stage])
      simp [SlotWorker.stored, stage, ProcessState.take, empty]
  | checked => simp [SlotWorker.stored, stage]
  | starting | spawned _ | clearing | finished => simp

theorem take_safe_iff (state : ProcessState) (invariant : ProcessInvariant state)
    (cancelling : state.cancelling = true) :
    Safe state.take ↔ TakenInTime state .take := by
  cases current : state.worker with
  | none => simp [Safe, TakenInTime, ProcessState.take, current]
  | some worker =>
      have supervised := invariant.supervised worker current
      have after := take_pastChecks state worker supervised
      have condition : TakenInTime state .take ↔
          state.take.pastChecks worker.complete = false := by
        rw [after]
        cases stored : worker.stored <;> simp [TakenInTime, current, stored]
      rw [condition]
      constructor
      · intro safe
        rcases supervised.marked cancelling with cancelled | finished
        · refine safe worker.complete (by simp [ProcessState.take, current]) ?_
          cases cancel : worker.cancel with
          | none => exact absurd cancel cancelled
          | issued | completed => simp [SlotWorker.complete, cancel]
        · rw [after]
          simp [ProcessState.pastChecks, finished]
      · intro passed completed same _
        obtain ⟨other, found, rfl⟩ := Option.map_eq_some_iff.mp same
        obtain rfl := Option.some.inj (current.symm.trans found)
        exact passed

theorem safe_step (state : ProcessState) (event : ProcessEvent)
    (invariant : ProcessInvariant state) (safe : Safe state)
    (enabled : ProcessEnabled state event) :
    Safe (processStep state event) ↔ TakenInTime state event := by
  cases event with
  | dispatch kind =>
      refine iff_of_true (fun worker same completed => ?_) trivial
      cases kind <;> (obtain rfl := Option.some.inj same; cases completed)
  | work succeeds =>
      refine iff_of_true ?_ trivial
      simp only [processStep]
      split
      · rename_i worker current
        exact advance_safe state worker succeeds current (invariant.supervised worker current)
          safe
      · exact safe
  | exit child => exact iff_of_true (exit_safe state child safe) trivial
  | bump => exact iff_of_true (bump_safe state safe) trivial
  | take => exact take_safe_iff state invariant enabled

theorem safe_terminates (outcomes : List Bool) (state : ProcessState)
    (invariant : ProcessInvariant state) (safe : Safe state) :
    (Machine.run processStep state (outcomes.map .work)).leaked = false := by
  induction outcomes generalizing state with
  | nil =>
      simp only [List.map_nil, Machine.run_nil]
      unfold ProcessState.leaked
      split
      · rename_i kind epoch child current
        exact safe _ current rfl
      · rfl
  | cons succeeds outcomes ih =>
      exact ih (processStep state (.work succeeds))
        (process_invariant state (.work succeeds) invariant trivial)
        ((safe_step state (.work succeeds) invariant safe trivial).mpr trivial)

/-- A cancelled worker past its checks goes on to wait for its child, if it succeeds. -/
theorem terminates_safe (state : ProcessState) (terminates : Terminates state) :
    Safe state := by
  rintro ⟨kind, epoch, stage, cancel⟩ current completed
  subst completed
  have now := terminates []
  have stores := terminates [true]
  have spawns := terminates [true, true]
  cases stage with
  | checked =>
      cases kind with
      | build => rfl
      | install =>
          simp [processStep, current, ProcessState.advance, ProcessState.spawn,
            ProcessState.atStage, ProcessState.leaked] at spawns
  | confirmed child =>
      simpa [processStep, current, ProcessState.advance, ProcessState.atStage,
        ProcessState.leaked, ProcessState.pastChecks] using stores
  | waiting child =>
      simpa [current, ProcessState.leaked, ProcessState.pastChecks] using now
  | starting | spawned _ | clearing | finished => rfl

theorem terminates_iff_safe (state : ProcessState) (invariant : ProcessInvariant state) :
    Terminates state ↔ Safe state :=
  ⟨terminates_safe state, fun safe outcomes => safe_terminates outcomes state invariant safe⟩

/-- The cancels of a run terminate what they cancel exactly if none takes the child too early. -/
theorem cancel_terminates_iff (events : List ProcessEvent)
    (enabled : Machine.Admissible processStep ProcessEnabled {} events) :
    Machine.Always processStep Terminates {} events ↔
      Machine.Admissible processStep TakenInTime {} events := by
  have initial : ProcessInvariant {} :=
    { idle := fun _ => rfl
      supervised := fun worker absent => by cases absent }
  have terminates : Terminates {} :=
    (terminates_iff_safe {} initial).mpr (fun worker absent => by cases absent)
  refine Machine.always_iff_admissible ProcessInvariant process_invariant ?_ initial terminates
    enabled
  intro state event invariant holds permitted
  rw [terminates_iff_safe _ (process_invariant state event invariant permitted)]
  exact safe_step state event invariant ((terminates_iff_safe state invariant).mp holds)
    permitted

namespace Sample

def lateCancel : WorkerKind → List ProcessEvent
  | .build =>
      [.dispatch .build, .work true, .work true, .work true, .bump, .take, .work true]
  | .install => [.dispatch .install, .work true, .bump, .take, .work true, .work true]

def waitingCancel : List ProcessEvent :=
  [.dispatch .build, .work true, .work true, .work true, .work true, .bump, .take, .work true]

end Sample

theorem cancel_terminates_waiting :
    Machine.Always processStep Terminates {} Sample.waitingCancel :=
  (cancel_terminates_iff Sample.waitingCancel (by decide)).mpr (by decide)

def CancelTerminates (kind : WorkerKind) : Prop :=
  ∀ events : List ProcessEvent, (∀ other, .dispatch other ∈ events → other = kind) →
    Machine.Admissible processStep ProcessEnabled {} events →
      (Machine.run processStep {} events).leaked = false

theorem cancel_leaks : ¬CancelTerminates .build ∧ ¬CancelTerminates .install := by
  constructor
  · intro terminates
    have ended := terminates (Sample.lateCancel .build) (by simp [Sample.lateCancel]) (by decide)
    revert ended
    decide
  · intro terminates
    have ended := terminates (Sample.lateCancel .install) (by simp [Sample.lateCancel])
      (by decide)
    revert ended
    decide

section Application

def ProcessState.Shares (state : ProcessState) (app : App) : Prop :=
  state.epoch = app.buildEpoch ∧ state.slot = app.buildProc

theorem cancelBuildProcess_shares (state : ProcessState) (app : App)
    (shares : state.Shares app) : state.bump.take.Shares app.cancelBuildProcess :=
  ⟨congrArg (· + 1) shares.1, rfl⟩

theorem runBuild_shares (state : ProcessState) (app : App) (variantDir : String)
    (shares : state.Shares app) :
    (state.dispatch .build).Shares (app.runEffect (.runBuild variantDir)).1 :=
  ⟨congrArg (· + 1) shares.1, shares.2⟩

theorem installArtifacts_shares (state : ProcessState) (app : App) (shares : state.Shares app) :
    (state.dispatch .install).Shares (app.runEffect .installArtifacts).1 :=
  shares

end Application

end KernelManager
