import KernelManager.Core.Text
import KernelManager.Platform.SingleInstance

/-! The lock file that stands in for the segment, and the launches that try to lock it. -/

namespace KernelManager

open Machine

variable {State Process : Type*} [DecidableEq Process]

def singleInstanceKey : String := "CachyOS-KM-lock"

def cacheRoot (home : String) : String := joinDirectory (joinDirectory home ".cache") "cachyos-km"

/-- The exclusive locks on files, of which a process loses its own when it ends or dies. -/
structure FileLock (State File Process : Type*) where
  Locked : State → File → Process → Prop
  tryLockExclusive : State → File → Process → Bool × State
  release : State → Process → State

/-- What `flock` documents: a file that nobody has locked can be locked, and no other. -/
structure FileLock.Documented {State File Process : Type*} (lock : FileLock State File Process) :
    Prop where
  lock_ok : ∀ state file process, (lock.tryLockExclusive state file process).1 = true ↔
    ∀ other, ¬lock.Locked state file other
  locked : ∀ state file process, (∀ other, ¬lock.Locked state file other) → ∀ held other,
    lock.Locked (lock.tryLockExclusive state file process).2 held other ↔
      held = file ∧ other = process ∨ lock.Locked state held other
  refused : ∀ state file process other, lock.Locked state file other →
    (lock.tryLockExclusive state file process).2 = state
  released : ∀ state process held other, lock.Locked (lock.release state process) held other ↔
    other ≠ process ∧ lock.Locked state held other

/-- A process with its arguments and variables, and what the system answers it for a path. -/
structure Launch (File Process : Type*) where
  process : Process
  arguments : List String := []
  home : Option String
  xdgRuntimeDir : Option String
  createDirAll : String → Bool
  openFile : String → Option File

namespace Launch

variable {File : Type*}

def lockDirectory (launch : Launch File Process) (home : String) : String :=
  launch.xdgRuntimeDir.getD (cacheRoot home)

/-- `InstanceLock::try_acquire`, which fails without a decision if it has no file to lock. -/
def tryAcquire (lock : FileLock State File Process) (state : State)
    (launch : Launch File Process) (home : String) : Option LockDecision × State :=
  if launch.createDirAll (launch.lockDirectory home) then
    match launch.openFile (joinDirectory (launch.lockDirectory home) singleInstanceKey) with
    | none => (none, state)
    | some file =>
        let (lockOk, state) := lock.tryLockExclusive state file launch.process
        (some (if lockOk then .proceed else .alreadyRunning), state)
  else (none, state)

def asksVersion (launch : Launch File Process) : Bool :=
  launch.arguments.any fun argument => argument = "--version" || argument = "-v"

/-- What `main` decides before the application is started, with the exit code if it is not. -/
def main (lock : FileLock State File Process) (state : State) (launch : Launch File Process) :
    Except Int Unit × State :=
  if launch.asksVersion then (.error 0, state)
  else
    match launch.tryAcquire lock state (launch.home.getD "/root") with
    | (none, state) => (.error 1, state)
    | (some .alreadyRunning, state) => (.error (-1), state)
    | (some .proceed, state) => (.ok (), state)

structure Opens (launch : Launch File Process) (file : File) : Prop where
  launches : launch.asksVersion = false
  created : launch.createDirAll (launch.lockDirectory (launch.home.getD "/root")) = true
  opened : launch.openFile (joinDirectory (launch.lockDirectory (launch.home.getD "/root"))
    singleInstanceKey) = some file

omit [DecidableEq Process] in
theorem main_opens (lock : FileLock State File Process) (state : State)
    (launch : Launch File Process) (file : File) (opens : launch.Opens file) :
    launch.main lock state =
      (if (lock.tryLockExclusive state file launch.process).1 then .ok () else .error (-1),
        (lock.tryLockExclusive state file launch.process).2) := by
  simp only [main, opens.launches, tryAcquire, opens.created, opens.opened, if_true]
  cases (lock.tryLockExclusive state file launch.process).1 <;> rfl

end Launch

inductive SessionEvent (File Process : Type*)
  | launch (launch : Launch File Process)
  | exit (process : Process)
  | kill (process : Process)

section Sessions

variable {Locks File : Type*} (memory : SharedMemory State Process)
  (lock : FileLock Locks File Process)

def lockFileStep (locks : Locks) : SessionEvent File Process → Locks
  | .launch launch =>
      match launch.main lock locks with
      | (.ok _, locks) => locks
      | (.error _, locks) => lock.release locks launch.process
  | .exit process | .kill process => lock.release locks process

def lockFileDecisions (locks : Locks) :
    SessionEvent File Process → List (Process × LockDecision)
  | .launch launch =>
      match (launch.main lock locks).1 with
      | .ok _ => [(launch.process, .proceed)]
      | .error code => if code = -1 then [(launch.process, .alreadyRunning)] else []
  | .exit _ | .kill _ => []

def Instances.attempt (instances : Instances State Process) (process : Process) :
    Instances State Process :=
  run (Instances.step memory) instances
    [.call process, .call process, .call process, .call process]

def segmentSession (instances : Instances State Process) :
    SessionEvent File Process → Instances State Process
  | .launch launch =>
      let after := instances.attempt memory launch.process
      if after.attempts launch.process = .decided .alreadyRunning then
        after.step memory (.exit launch.process)
      else after
  | .exit process => instances.step memory (.exit process)
  | .kill process => instances.step memory (.kill process)

def segmentDecisions (instances : Instances State Process) :
    SessionEvent File Process → List (Process × LockDecision)
  | .launch launch =>
      match (instances.attempt memory launch.process).attempts launch.process with
      | .decided decision => [(launch.process, decision)]
      | _ => []
  | .exit _ | .kill _ => []

/-- A process is launched once in its life, and finds the lock file. -/
def LaunchedOnce (file : File) (instances : Instances State Process) :
    SessionEvent File Process → Prop
  | .launch launch => ¬instances.Running launch.process ∧ launch.Opens file
  | .exit _ | .kill _ => True

structure HeldBy (file : File) (instances : Instances State Process) (locks : Locks) : Prop where
  invariant : Instances.Invariant memory instances
  settled : ∀ process, instances.attempts process = .idle ∨ instances.Running process
  locked : ∀ process, lock.Locked locks file process ↔ instances.Running process

variable {memory lock} {file : File} {instances : Instances State Process} {locks : Locks}

omit [DecidableEq Process] in
theorem HeldBy.attached (heldBy : HeldBy memory lock file instances locks) (process : Process) :
    memory.Attached instances.segment process ↔ instances.Running process := by
  rw [heldBy.invariant.attached, or_iff_left]
  intro attaching
  rcases heldBy.settled process with idle | runs
  · rw [idle] at attaching
    cases attaching
  · rw [Instances.Running] at runs
    rw [runs] at attaching
    cases attaching

theorem Instances.attempt_of_ne (process other : Process) (apart : other ≠ process) :
    (instances.attempt memory process).attempts other = instances.attempts other := by
  simp only [attempt, run_cons, run_nil, step_call_of_ne process other apart]

theorem Instances.attempt_decides (documented : memory.Documented) (process : Process)
    (idle : instances.attempts process = .idle)
    (outside : ¬memory.Attached instances.segment process) :
    (instances.attempt memory process).attempts process = .decided .proceed ∧
        (∀ other, ¬memory.Attached instances.segment other) ∨
      (instances.attempt memory process).attempts process = .decided .alreadyRunning ∧
        ∃ other, memory.Attached instances.segment other := by
  by_cases there : memory.Exists instances.segment
  · have refused := documented.create_there process there
    have attachOk := (documented.attach_ok _ process).mpr there
    have attached := documented.attached _ process there
    have detachOk := (documented.detach_ok _ _).mpr ((attached process).mpr (.inl rfl))
    have detached (other : Process) :
        memory.Attached
            (memory.detach (memory.attach instances.segment process).2 process).2 other ↔
          memory.Attached instances.segment other := by
      rw [documented.detached, attached]
      constructor
      · rintro ⟨apart, same | member⟩
        · exact absurd same apart
        · exact member
      · intro member
        exact ⟨fun same => outside (same ▸ member), .inr member⟩
    have gone := documented.gone _ _ ((attached process).mpr (.inl rfl))
    have reached : (instances.attempt memory process).attempts process =
        .decided (lockDecision false true true
          (memory.create (memory.detach (memory.attach instances.segment process).2 process).2
            process).1) := by
      simp [attempt, step, idle, refused, attachOk, detachOk]
    by_cases nobody : ∀ other, ¬memory.Attached instances.segment other
    · refine .inl ⟨?_, nobody⟩
      have created := (documented.create_ok _ process).mpr fun still => by
        obtain ⟨other, member⟩ := gone still
        exact nobody other ((detached other).mp member)
      rw [reached, created]
      rfl
    · obtain ⟨other, member⟩ := not_forall_not.mp nobody
      refine .inr ⟨?_, other, member⟩
      have still := documented.exists_of_attached _ _ ((detached other).mpr member)
      rw [reached, documented.create_there process still]
      rfl
  · refine .inl ⟨?_, fun other member => there (documented.exists_of_attached _ _ member)⟩
    have created := (documented.create_ok _ process).mpr there
    simp [attempt, step, idle, created, lockDecision]

theorem HeldBy.ended (heldBy : HeldBy memory lock file instances locks)
    (released : lock.Documented) (process : Process) (event : InstanceEvent Process)
    (documented : memory.Documented) (ends : event = .exit process ∨ event = .kill process) :
    HeldBy memory lock file (instances.step memory event) (lock.release locks process) := by
  have attempts (other : Process) : (instances.step memory event).attempts other =
      if other = process then .idle else instances.attempts other := by
    rcases ends with rfl | rfl <;>
      exact Function.update_apply ..
  refine ⟨heldBy.invariant.step documented event, ?_, ?_⟩
  · intro other
    rw [Instances.Running, attempts]
    by_cases same : other = process
    · exact .inl (if_pos same)
    · rw [if_neg same]
      exact heldBy.settled other
  · intro other
    rw [released.released, Instances.Running, attempts]
    by_cases same : other = process
    · simp [same]
    · rw [if_neg same, and_iff_right same]
      exact heldBy.locked other

theorem HeldBy.launch (heldBy : HeldBy memory lock file instances locks)
    (documented : memory.Documented) (locking : lock.Documented) (launch : Launch File Process)
    (fresh : ¬instances.Running launch.process) (opens : launch.Opens file) :
    HeldBy memory lock file (segmentSession memory instances (.launch launch))
        (lockFileStep lock locks (.launch launch)) ∧
      segmentDecisions memory instances (.launch launch) =
        lockFileDecisions lock locks (.launch launch) := by
  have idle := (heldBy.settled launch.process).resolve_right fresh
  have outside := mt (heldBy.attached launch.process).mp fresh
  have others (other : Process) (apart : other ≠ launch.process) :
      (instances.attempt memory launch.process).attempts other = instances.attempts other :=
    Instances.attempt_of_ne launch.process other apart
  have invariant : Instances.Invariant memory (instances.attempt memory launch.process) :=
    heldBy.invariant.run documented _
  simp only [segmentSession, segmentDecisions, lockFileStep, lockFileDecisions,
    launch.main_opens lock locks file opens]
  rcases Instances.attempt_decides documented launch.process idle outside with
    ⟨decided, nobody⟩ | ⟨decided, holder, member⟩
  · have free : ∀ other, ¬lock.Locked locks file other := by
      intro other locked
      exact nobody other ((heldBy.attached other).mpr ((heldBy.locked other).mp locked))
    have lockOk := (locking.lock_ok locks file launch.process).mpr free
    have proceeds : ¬Attempt.decided .proceed = .decided .alreadyRunning := nofun
    simp only [decided, lockOk, if_true, if_neg proceeds]
    refine ⟨⟨invariant, ?_, ?_⟩, trivial⟩
    · intro other
      by_cases same : other = launch.process
      · exact .inr (same ▸ decided)
      · rw [Instances.Running, others other same]
        exact heldBy.settled other
    · intro other
      rw [locking.locked _ _ _ free, Instances.Running]
      by_cases same : other = launch.process
      · simp [same, decided]
      · rw [or_iff_right (fun both => same both.2), others other same]
        exact heldBy.locked other
  · have locked := (heldBy.locked holder).mpr ((heldBy.attached holder).mp member)
    have failed : (lock.tryLockExclusive locks file launch.process).1 = false := by
      have ok := locking.lock_ok locks file launch.process
      cases taken : (lock.tryLockExclusive locks file launch.process).1 with
      | false => rfl
      | true => exact absurd locked (ok.mp taken holder)
    have unlocked := mt (heldBy.locked launch.process).mp fresh
    simp only [decided, failed, locking.refused _ _ _ _ locked, if_true]
    have attempts (other : Process) :
        ((instances.attempt memory launch.process).step memory
            (.exit launch.process)).attempts other = instances.attempts other := by
      by_cases same : other = launch.process
      · rw [same, idle]
        exact Instances.put_attempts_self ..
      · exact (Instances.put_attempts_of_ne _ _ _ _ _ same).trans (others other same)
    refine ⟨⟨invariant.step documented _, ?_, ?_⟩, rfl⟩
    · intro other
      rw [Instances.Running, attempts]
      exact heldBy.settled other
    · intro other
      change lock.Locked (lock.release locks launch.process) file other ↔ _
      rw [locking.released, Instances.Running, attempts, ← Instances.Running, ← heldBy.locked]
      exact and_iff_right_of_imp fun held same => unlocked (same ▸ held)

end Sessions

/-- As long as the attempts of processes do not overlap, the lock file lets the same processes
proceed as the segment, however they exit or are killed in between. -/
theorem lockFile_decisions {Locks File : Type*} (memory : SharedMemory State Process)
    (documented : memory.Documented) (lock : FileLock Locks File Process)
    (locking : lock.Documented) (file : File) (segment : State) (locks : Locks)
    (clear : ∀ process, ¬memory.Attached segment process)
    (free : ∀ process, ¬lock.Locked locks file process)
    (events : List (SessionEvent File Process))
    (once : Admissible (segmentSession memory) (LaunchedOnce file) { segment := segment }
      events) :
    outputs (segmentSession memory) (segmentDecisions memory) { segment := segment } events =
      outputs (lockFileStep lock) (lockFileDecisions lock) locks events := by
  have initial : HeldBy memory lock file { segment := segment } locks :=
    ⟨Instances.invariant_initial memory segment clear, fun _ => .inl rfl,
      fun process => iff_of_false (free process) nofun⟩
  refine (outputs_simulated (HeldBy memory lock file) ?_ initial once).2
  intro instances locks event heldBy permitted
  cases event with
  | launch launch => exact heldBy.launch documented locking launch permitted.1 permitted.2
  | exit process => exact ⟨heldBy.ended locking process _ documented (.inl rfl), rfl⟩
  | kill process => exact ⟨heldBy.ended locking process _ documented (.inr rfl), rfl⟩

namespace Sample

def fileLock : FileLock (List (String × Fin 4)) String (Fin 4) where
  Locked locks file process := (file, process) ∈ locks
  tryLockExclusive locks file process :=
    if ∃ holder, (file, holder) ∈ locks then (false, locks) else (true, (file, process) :: locks)
  release locks process := locks.filter (·.2 ≠ process)

theorem fileLock_documented : fileLock.Documented where
  lock_ok locks file process := by
    simp only [fileLock, ← not_exists]
    split <;> simp_all
  locked locks file process free held other := by
    have untaken : ¬∃ holder, (file, holder) ∈ locks := not_exists.mpr free
    simp [fileLock, untaken]
  refused locks file process other locked := by
    simp only [fileLock]
    rw [if_pos ⟨other, locked⟩]
  released locks process held other := by simp [fileLock, and_comm]

def launch (process : Fin 4) : Launch String (Fin 4) where
  process := process
  home := some "/home/user"
  xdgRuntimeDir := some "/run/user/1000"
  createDirAll _ := true
  openFile := some

end Sample

theorem lockFile_decisions_three :
    outputs (lockFileStep Sample.fileLock) (lockFileDecisions Sample.fileLock) []
      [.launch (Sample.launch 1), .launch (Sample.launch 2), .kill 1, .launch (Sample.launch 3)] =
      [(1, .proceed), (2, .alreadyRunning), (3, .proceed)] :=
  (lockFile_decisions Sample.segmentMemory Sample.segmentMemory_documented Sample.fileLock
    Sample.fileLock_documented "/run/user/1000/CachyOS-KM-lock" none [] nofun nofun
    [.launch (Sample.launch 1), .launch (Sample.launch 2), .kill 1, .launch (Sample.launch 3)]
    ⟨⟨nofun, ⟨rfl, rfl, by decide⟩⟩,
      ⟨by unfold Instances.Running; decide, ⟨rfl, rfl, by decide⟩⟩, trivial,
      ⟨by unfold Instances.Running; decide, ⟨rfl, rfl, by decide⟩⟩, trivial⟩).symm.trans
    (by decide)

end KernelManager
