import KernelManager.Library.Machine

/-! The decision of the single-instance lock, and the calls on a shared-memory segment that it is
taken from. What the segment does is the system's. -/

namespace KernelManager

open Machine

inductive LockDecision
  | proceed | alreadyRunning
  deriving DecidableEq, Repr

def lockDecision (create1Ok attachOk detachOk create2Ok : Bool) : LockDecision :=
  if create1Ok then .proceed
  else if !attachOk then
    if create2Ok then .proceed else .alreadyRunning
  else if !detachOk then .alreadyRunning
  else if create2Ok then .proceed
  else .alreadyRunning

def oracleAlreadyRunning (create1Ok attachOk detachOk create2Ok : Bool) : Bool :=
  if create1Ok then false
  else if attachOk then if !detachOk then true else !create2Ok
  else !create2Ok

theorem lockDecision_oracle (create1Ok attachOk detachOk create2Ok : Bool) :
    lockDecision create1Ok attachOk detachOk create2Ok = .alreadyRunning ↔
      oracleAlreadyRunning create1Ok attachOk detachOk create2Ok = true := by
  cases create1Ok <;> cases attachOk <;> cases detachOk <;> cases create2Ok <;> decide

/-- How far a process is with its four calls, and what they have returned. -/
inductive Attempt
  | idle
  | created
  | attached (attachOk : Bool)
  | detached (attachOk detachOk : Bool)
  | decided (decision : LockDecision)
  deriving DecidableEq, Repr

def Attempt.underWay : Attempt → Bool
  | .created | .attached _ | .detached .. => true
  | .idle | .decided _ => false

/-- A shared-memory segment with the calls of processes on it, which say whether they succeed. -/
structure SharedMemory (State Process : Type*) where
  Exists : State → Prop
  Attached : State → Process → Prop
  create : State → Process → Bool × State
  attach : State → Process → Bool × State
  detach : State → Process → Bool × State
  kill : State → Process → State

/-- What Qt documents: `create` attaches to a segment of its own and fails exactly if there is one
already, `attach` succeeds exactly if there is one, and it goes with the last process that detaches.
A process that dies is attached no longer, but may leave the segment behind. -/
structure SharedMemory.Documented {State Process : Type*} (memory : SharedMemory State Process) :
    Prop where
  exists_of_attached : ∀ state process, memory.Attached state process → memory.Exists state
  create_ok : ∀ state process, (memory.create state process).1 = true ↔ ¬memory.Exists state
  created : ∀ state process, ¬memory.Exists state →
    ∀ other, memory.Attached (memory.create state process).2 other ↔ other = process
  uncreated : ∀ state process, memory.Exists state → (memory.create state process).2 = state
  attach_ok : ∀ state process, (memory.attach state process).1 = true ↔ memory.Exists state
  attached : ∀ state process, memory.Exists state → ∀ other,
    memory.Attached (memory.attach state process).2 other ↔
      other = process ∨ memory.Attached state other
  unattached : ∀ state process, ¬memory.Exists state → (memory.attach state process).2 = state
  detach_ok : ∀ state process,
    (memory.detach state process).1 = true ↔ memory.Attached state process
  detached : ∀ state process other, memory.Attached (memory.detach state process).2 other ↔
    other ≠ process ∧ memory.Attached state other
  gone : ∀ state process, memory.Attached state process →
    memory.Exists (memory.detach state process).2 →
      ∃ other, memory.Attached (memory.detach state process).2 other
  undetached : ∀ state process, ¬memory.Attached state process →
    (memory.detach state process).2 = state
  killed : ∀ state process other, memory.Attached (memory.kill state process) other ↔
    other ≠ process ∧ memory.Attached state other

variable {State Process : Type*}

namespace SharedMemory.Documented

variable {memory : SharedMemory State Process} {state : State}

theorem create_there (documented : memory.Documented) (process : Process)
    (there : memory.Exists state) :
    memory.create state process = (false, state) := by
  have refused : (memory.create state process).1 = false := by
    simpa [there] using documented.create_ok state process
  exact Prod.ext refused (documented.uncreated state process there)

theorem attach_gone (documented : memory.Documented) (process : Process)
    (gone : ¬memory.Exists state) :
    memory.attach state process = (false, state) := by
  have refused : (memory.attach state process).1 = false := by
    simpa [gone] using documented.attach_ok state process
  exact Prod.ext refused (documented.unattached state process gone)

theorem created_other (documented : memory.Documented) {process other : Process}
    (gone : ¬memory.Exists state) (apart : other ≠ process) :
    memory.Attached (memory.create state process).2 other ↔ memory.Attached state other := by
  have nobody := mt (documented.exists_of_attached state other) gone
  simp [documented.created state process gone, apart, nobody]

end SharedMemory.Documented

structure Instances (State Process : Type*) where
  segment : State
  attempts : Process → Attempt := fun _ => .idle

inductive InstanceEvent (Process : Type*)
  | call (process : Process)
  | exit (process : Process)
  | kill (process : Process)
  deriving DecidableEq, Repr

namespace Instances

def Running (instances : Instances State Process) (process : Process) : Prop :=
  instances.attempts process = .decided .proceed

variable [DecidableEq Process]

def put (instances : Instances State Process) (process : Process) (attempt : Attempt)
    (segment : State) : Instances State Process :=
  ⟨segment, Function.update instances.attempts process attempt⟩

@[simp] theorem put_segment (instances : Instances State Process) (process : Process)
    (attempt : Attempt) (segment : State) :
    (instances.put process attempt segment).segment = segment := rfl

@[simp] theorem put_attempts_self (instances : Instances State Process) (process : Process)
    (attempt : Attempt) (segment : State) :
    (instances.put process attempt segment).attempts process = attempt :=
  Function.update_self ..

theorem put_attempts_of_ne (instances : Instances State Process) (process other : Process)
    (attempt : Attempt) (segment : State) (apart : other ≠ process) :
    (instances.put process attempt segment).attempts other = instances.attempts other :=
  Function.update_of_ne apart ..

variable (memory : SharedMemory State Process)

/-- The next call of a process; one that exits detaches. -/
def step (instances : Instances State Process) : InstanceEvent Process → Instances State Process
  | .exit process => instances.put process .idle (memory.detach instances.segment process).2
  | .kill process => instances.put process .idle (memory.kill instances.segment process)
  | .call process =>
      match instances.attempts process with
      | .idle =>
          let (createOk, segment) := memory.create instances.segment process
          let attempt :=
            if createOk then .decided (lockDecision createOk false false false) else .created
          instances.put process attempt segment
      | .created =>
          let (attachOk, segment) := memory.attach instances.segment process
          instances.put process (.attached attachOk) segment
      | .attached attachOk =>
          let (detachOk, segment) := memory.detach instances.segment process
          instances.put process (.detached attachOk detachOk) segment
      | .detached attachOk detachOk =>
          let (createOk, segment) := memory.create instances.segment process
          instances.put process (.decided (lockDecision false attachOk detachOk createOk)) segment
      | .decided _ => instances

structure Invariant (instances : Instances State Process) : Prop where
  attached : ∀ process, memory.Attached instances.segment process ↔
    instances.Running process ∨ instances.attempts process = .attached true
  detached : ∀ process attachOk detachOk,
    instances.attempts process = .detached attachOk detachOk → detachOk = attachOk
  single : ∀ first second, instances.Running first → instances.Running second → first = second

omit [DecidableEq Process] in
theorem invariant_initial (segment : State)
    (clear : ∀ process, ¬memory.Attached segment process) :
    Invariant memory ({ segment := segment } : Instances State Process) := by
  constructor
  · simp [Running, clear]
  · simp
  · simp [Running]

/-- Nobody is attached to the segment; a process that died has left it behind. -/
def Abandoned (segment : State) : Prop :=
  memory.Exists segment ∧ ∀ process, ¬memory.Attached segment process

variable {memory} {instances : Instances State Process}

omit [DecidableEq Process] in
theorem Invariant.not_attached (invariant : Invariant memory instances) {process : Process}
    {attempt : Attempt} (stage : instances.attempts process = attempt)
    (quiet : attempt ≠ .decided .proceed ∧ attempt ≠ .attached true) :
    ¬memory.Attached instances.segment process := by
  subst stage
  rw [invariant.attached, not_or]
  exact quiet

theorem Invariant.put (invariant : Invariant memory instances) (process : Process)
    (attempt : Attempt) (segment : State)
    (others : ∀ other, other ≠ process →
      (memory.Attached segment other ↔ memory.Attached instances.segment other))
    (own : memory.Attached segment process ↔
      attempt = .decided .proceed ∨ attempt = .attached true)
    (alone : attempt = .decided .proceed → ¬memory.Exists instances.segment)
    (detached : ∀ attachOk detachOk, attempt = .detached attachOk detachOk → detachOk = attachOk)
    (documented : memory.Documented) :
    Invariant memory (instances.put process attempt segment) := by
  constructor
  · intro other
    by_cases same : other = process
    · subst same
      simpa only [put_segment, Running, put_attempts_self] using own
    · rw [put_segment, Running, put_attempts_of_ne _ _ _ _ _ same]
      exact (others other same).trans (invariant.attached other)
  · intro other attachOk detachOk stage
    by_cases same : other = process
    · subst same
      rw [put_attempts_self] at stage
      exact detached attachOk detachOk stage
    · rw [put_attempts_of_ne _ _ _ _ _ same] at stage
      exact invariant.detached other attachOk detachOk stage
  · -- A process that comes to run found no segment, so that no other one runs.
    have nobody : attempt = .decided .proceed → ∀ other, ¬instances.Running other := by
      intro proceeds other running
      have member := (invariant.attached other).mpr (.inl running)
      exact alone proceeds (documented.exists_of_attached _ _ member)
    intro first second firstRuns secondRuns
    rw [Running] at firstRuns secondRuns
    by_cases atFirst : first = process
    · by_cases atSecond : second = process
      · exact atFirst.trans atSecond.symm
      · subst atFirst
        rw [put_attempts_self] at firstRuns
        rw [put_attempts_of_ne _ _ _ _ _ atSecond] at secondRuns
        exact absurd secondRuns (nobody firstRuns second)
    · rw [put_attempts_of_ne _ _ _ _ _ atFirst] at firstRuns
      by_cases atSecond : second = process
      · subst atSecond
        rw [put_attempts_self] at secondRuns
        exact absurd firstRuns (nobody secondRuns first)
      · rw [put_attempts_of_ne _ _ _ _ _ atSecond] at secondRuns
        exact invariant.single first second firstRuns secondRuns

theorem Invariant.kept (invariant : Invariant memory instances) (documented : memory.Documented)
    (process : Process) (attempt : Attempt)
    (outside : ¬memory.Attached instances.segment process)
    (quiet : attempt ≠ .decided .proceed ∧ attempt ≠ .attached true)
    (detached : ∀ attachOk detachOk, attempt = .detached attachOk detachOk →
      detachOk = attachOk) :
    Invariant memory (instances.put process attempt instances.segment) := by
  apply invariant.put process attempt _ (fun _ _ => Iff.rfl) _ _ detached documented
  · simp [outside, quiet]
  · exact fun proceeds => absurd proceeds quiet.1

theorem Invariant.created (invariant : Invariant memory instances)
    (documented : memory.Documented) (process : Process)
    (gone : ¬memory.Exists instances.segment) :
    Invariant memory (instances.put process (.decided .proceed)
      (memory.create instances.segment process).2) := by
  apply invariant.put _ _ _ _ _ _ _ documented
  · exact fun other apart => documented.created_other gone apart
  · simp [documented.created _ process gone]
  · exact fun _ => gone
  · nofun

theorem Invariant.step (invariant : Invariant memory instances) (documented : memory.Documented)
    (event : InstanceEvent Process) : Invariant memory (instances.step memory event) := by
  cases event with
  | exit process =>
      apply invariant.put _ _ _ _ _ _ _ documented <;>
        simp +contextual [documented.detached]
  | kill process =>
      apply invariant.put _ _ _ _ _ _ _ documented <;>
        simp +contextual [documented.killed]
  | call process =>
      simp only [Instances.step]
      cases stage : instances.attempts process with
      | idle =>
          have outside := invariant.not_attached stage (by simp)
          by_cases there : memory.Exists instances.segment
          · simp only [documented.create_there process there]
            exact invariant.kept documented process .created outside (by simp) nofun
          · have created : (memory.create instances.segment process).1 = true :=
              (documented.create_ok _ _).mpr there
            simp only [created, if_true, lockDecision]
            exact invariant.created documented process there
      | created =>
          have outside := invariant.not_attached stage (by simp)
          by_cases there : memory.Exists instances.segment
          · have attached := documented.attached _ process there
            simp only [(documented.attach_ok _ process).mpr there]
            apply invariant.put _ _ _ _ _ _ _ documented
            · simp +contextual [attached]
            · simp [attached]
            · nofun
            · nofun
          · simp only [documented.attach_gone process there]
            exact invariant.kept documented process _ outside (by simp) nofun
      | attached attachOk =>
          have own := invariant.attached process
          rw [Running, stage] at own
          have same : (memory.detach instances.segment process).1 = attachOk := by
            have ok := (documented.detach_ok _ _).trans own
            cases attachOk <;> simpa using ok
          apply invariant.put _ _ _ _ _ _ _ documented <;>
            simp +contextual [documented.detached, same]
      | detached attachOk detachOk =>
          have outside := invariant.not_attached stage (by simp)
          have same := invariant.detached process attachOk detachOk stage
          subst same
          by_cases there : memory.Exists instances.segment
          · simp only [documented.create_there process there]
            refine invariant.kept documented process _ outside ?_ nofun
            cases detachOk <;> simp [lockDecision]
          · have created : (memory.create instances.segment process).1 = true :=
              (documented.create_ok _ _).mpr there
            have proceeds : lockDecision false detachOk detachOk true = .proceed := by
              cases detachOk <;> rfl
            simp only [created, proceeds]
            exact invariant.created documented process there
      | decided decision => exact invariant

theorem Invariant.run (invariant : Invariant memory instances) (documented : memory.Documented)
    (events : List (InstanceEvent Process)) :
    Invariant memory (Machine.run (Instances.step memory) instances events) :=
  run_preserves (Invariant memory) (fun _ event invariant => invariant.step documented event)
    invariant events

theorem step_call_of_ne (process other : Process) (apart : other ≠ process) :
    (instances.step memory (.call process)).attempts other = instances.attempts other := by
  simp only [step]
  cases instances.attempts process <;>
    first | rfl | exact put_attempts_of_ne _ _ _ _ _ apart

/-- Only a process that dies leaves a segment that nobody is attached to. -/
theorem step_abandons (documented : memory.Documented) (event : InstanceEvent Process)
    (alive : ∀ process, event ≠ .kill process)
    (unabandoned : ¬Abandoned memory instances.segment) :
    ¬Abandoned memory (instances.step memory event).segment := by
  have created (process : Process) :
      ¬Abandoned memory (memory.create instances.segment process).2 := by
    by_cases there : memory.Exists instances.segment
    · rwa [documented.create_there process there]
    · exact fun left => left.2 process ((documented.created _ _ there process).mpr rfl)
  have detached (process : Process) :
      ¬Abandoned memory (memory.detach instances.segment process).2 := by
    by_cases own : memory.Attached instances.segment process
    · rintro ⟨there, nobody⟩
      obtain ⟨other, member⟩ := documented.gone _ _ own there
      exact nobody other member
    · rwa [documented.undetached _ _ own]
  cases event with
  | exit process => exact detached process
  | kill process => exact absurd rfl (alive process)
  | call process =>
      simp only [Instances.step]
      cases instances.attempts process with
      | idle => exact created process
      | created =>
          by_cases there : memory.Exists instances.segment
          · exact fun left =>
              left.2 process ((documented.attached _ _ there process).mpr (.inl rfl))
          · simpa only [put_segment, documented.attach_gone process there] using unabandoned
      | attached attachOk => exact detached process
      | detached attachOk detachOk => exact created process
      | decided decision => exact unabandoned

def Cleared (memory : SharedMemory State Process) (instances : Instances State Process)
    (process : Process) : Prop :=
  (instances.attempts process = .idle ∨ instances.attempts process = .created ∨
      instances.attempts process = .attached true) ∨ ¬Abandoned memory instances.segment

theorem step_cleared (documented : memory.Documented) (invariant : Invariant memory instances)
    (event : InstanceEvent Process) (alive : ∀ process, event ≠ .kill process)
    (process : Process) (cleared : Cleared memory instances process) :
    Cleared memory (instances.step memory event) process := by
  rcases cleared with early | unabandoned
  · cases event with
    | kill other => exact absurd rfl (alive other)
    | exit other =>
        by_cases same : process = other
        · subst same
          exact .inl (.inl (put_attempts_self ..))
        · refine .inl ?_
          rwa [step, put_attempts_of_ne _ _ _ _ _ same]
    | call other =>
        by_cases same : process = other
        · subst same
          rcases early with stage | stage | stage
          · by_cases there : memory.Exists instances.segment
            · refine .inl (.inr (.inl ?_))
              simp [step, stage, documented.create_there process there]
            · refine .inr (step_abandons documented _ alive ?_)
              exact fun left => there left.1
          · by_cases there : memory.Exists instances.segment
            · refine .inl (.inr (.inr ?_))
              simp [step, stage, (documented.attach_ok _ process).mpr there]
            · refine .inr (step_abandons documented _ alive ?_)
              exact fun left => there left.1
          · have own := (invariant.attached process).mpr (.inr stage)
            refine .inr ?_
            simp only [step, stage, put_segment]
            rintro ⟨there, nobody⟩
            obtain ⟨other, member⟩ := documented.gone _ _ own there
            exact nobody other member
        · exact .inl (by rwa [step_call_of_ne other process same])
  · exact .inr (step_abandons documented event alive unabandoned)

theorem run_cleared (documented : memory.Documented) (events : List (InstanceEvent Process))
    (alive : ∀ process, .kill process ∉ events) (process : Process)
    (invariant : Invariant memory instances) (cleared : Cleared memory instances process) :
    Cleared memory (Machine.run (Instances.step memory) instances events) process := by
  refine (run_invariant (fun instances => Invariant memory instances ∧
    Cleared memory instances process) ?_ ⟨invariant, cleared⟩
    ((admissible_iff_forall_mem (fun event => ∀ other, event ≠ .kill other) _ _).mpr ?_)).2
  · rintro instances event ⟨invariant, cleared⟩ allowed
    exact ⟨invariant.step documented event,
      step_cleared documented invariant event allowed process cleared⟩
  · rintro event member other rfl
    exact alive other member

end Instances

variable [DecidableEq Process]

/-- Processes are started, make their calls, exit and are killed in any order: never do two of
them run, and when an attempt during which none was killed ends and no other one is under way,
exactly one does. -/
theorem segment_exclusive (memory : SharedMemory State Process) (documented : memory.Documented)
    (segment : State) (clear : ∀ process, ¬memory.Attached segment process)
    (events : List (InstanceEvent Process)) :
    let begun := run (Instances.step memory) { segment := segment } events
    (∀ first second, begun.Running first → begun.Running second → first = second) ∧
      ∀ during process, begun.attempts process = .idle → (∀ other, .kill other ∉ during) →
        let before := run (Instances.step memory) begun during
        let after := before.step memory (.call process)
        (∀ decision, before.attempts process ≠ .decided decision) →
          (∃ decision, after.attempts process = .decided decision) →
          (∀ other, (after.attempts other).underWay = false) → ∃! other, after.Running other := by
  intro begun
  have invariant : Instances.Invariant memory begun :=
    (Instances.invariant_initial memory segment clear).run documented events
  refine ⟨invariant.single, ?_⟩
  intro during process idle alive before after
  rintro undecided ⟨decision, decided⟩ quiet
  have cleared : Instances.Cleared memory before process :=
    Instances.run_cleared documented during alive process invariant (.inl (.inl idle))
  have invariant : Instances.Invariant memory before := invariant.run documented during
  have single := (invariant.step documented (.call process)).single
  suffices runs : ∃ other, after.Running other by
    obtain ⟨other, running⟩ := runs
    exact ⟨other, running, fun second runsToo => single second other runsToo running⟩
  by_cases proceeds : decision = .proceed
  · subst proceeds
    exact ⟨process, decided⟩
  · -- The last `create` failed, so another process is attached, and not for an attempt.
    have refused : ∃ attachOk detachOk, before.attempts process = .detached attachOk detachOk ∧
        memory.Exists before.segment := by
      simp only [after, Instances.step] at decided
      cases stage : before.attempts process with
      | idle =>
          simp only [stage, Instances.put_attempts_self] at decided
          split at decided
          · rename_i created
            rw [created] at decided
            exact absurd (Attempt.decided.inj decided).symm proceeds
          · cases decided
      | created => simp [stage] at decided
      | attached attachOk => simp [stage] at decided
      | detached attachOk detachOk =>
          refine ⟨attachOk, detachOk, rfl, ?_⟩
          by_contra gone
          have same := invariant.detached process attachOk detachOk stage
          have created := (documented.create_ok before.segment process).mpr gone
          simp only [stage, Instances.put_attempts_self, created, same] at decided
          cases attachOk <;> exact proceeds (Attempt.decided.inj decided).symm
      | decided earlier => exact absurd stage (undecided earlier)
    obtain ⟨attachOk, detachOk, stage, there⟩ := refused
    have outside := invariant.not_attached stage (by simp)
    obtain ⟨other, member⟩ : ∃ other, memory.Attached before.segment other := by
      rcases cleared with early | unabandoned
      · simp [stage] at early
      · by_contra nobody
        exact unabandoned ⟨there, not_exists.mp nobody⟩
    have apart : other ≠ process := by
      rintro rfl
      exact outside member
    have unmoved : after.attempts other = before.attempts other :=
      Instances.step_call_of_ne process other apart
    refine ⟨other, ?_⟩
    obtain runs | attaching := (invariant.attached other).mp member
    · exact unmoved.trans runs
    · have calm := quiet other
      rw [unmoved, attaching] at calm
      cases calm

namespace Sample

def segmentOf (attached : List (Fin 4)) : Option (List (Fin 4)) :=
  if attached = [] then none else some attached

theorem segmentOf_getD (attached : List (Fin 4)) : (segmentOf attached).getD [] = attached := by
  cases attached <;> rfl

/-- A segment that stays behind when its last process is killed. -/
def segmentMemory : SharedMemory (Option (List (Fin 4))) (Fin 4) where
  Exists segment := segment.isSome = true
  Attached segment process := process ∈ segment.getD []
  create segment process :=
    match segment with
    | none => (true, some [process])
    | some attached => (false, some attached)
  attach segment process :=
    match segment with
    | none => (false, none)
    | some attached => (true, some (process :: attached))
  detach segment process :=
    match segment with
    | none => (false, none)
    | some attached =>
        if process ∈ attached then (true, segmentOf (attached.filter (· ≠ process)))
        else (false, some attached)
  kill segment process := segment.map (·.filter (· ≠ process))

theorem segmentMemory_documented : segmentMemory.Documented where
  exists_of_attached segment process attached := by
    cases segment with
    | none => cases attached
    | some _ => rfl
  create_ok segment process := by cases segment <;> simp [segmentMemory]
  created segment process gone other := by
    cases segment with
    | none => simp [segmentMemory]
    | some _ => exact absurd rfl gone
  uncreated segment process there := by
    cases segment with
    | none => cases there
    | some _ => rfl
  attach_ok segment process := by cases segment <;> simp [segmentMemory]
  attached segment process there other := by
    cases segment with
    | none => cases there
    | some _ => simp [segmentMemory]
  unattached segment process gone := by
    cases segment with
    | none => rfl
    | some _ => exact absurd rfl gone
  detach_ok segment process := by
    cases segment with
    | none => simp [segmentMemory]
    | some attached =>
        by_cases member : process ∈ attached <;> simp [segmentMemory, member]
  detached segment process other := by
    cases segment with
    | none => simp [segmentMemory]
    | some attached =>
        by_cases member : process ∈ attached
        · simp [segmentMemory, member, segmentOf_getD, and_comm]
        · simp only [segmentMemory, member, if_false, Option.getD_some]
          exact ⟨fun attaches => ⟨fun same => member (same ▸ attaches), attaches⟩, And.right⟩
  gone segment process attached there := by
    cases segment with
    | none => cases there
    | some processes =>
        have member : process ∈ processes := attached
        have rest : processes.filter (· ≠ process) ≠ [] := by
          intro last
          simp only [segmentMemory, member, if_true, last] at there
          cases there
        obtain ⟨other, listed⟩ := List.exists_mem_of_ne_nil _ rest
        refine ⟨other, ?_⟩
        simpa only [segmentMemory, member, if_true, segmentOf_getD] using listed
  undetached segment process outside := by
    cases segment with
    | none => rfl
    | some attached =>
        have absent : process ∉ attached := outside
        simp [segmentMemory, absent]
  killed segment process other := by
    cases segment <;> simp [segmentMemory, and_comm]

end Sample

/-- The instance is killed, and leaves its segment to the next process. -/
theorem segment_exclusive_after_kill :
    ∃! other, (run (Instances.step Sample.segmentMemory) { segment := none }
      [.call 1, .kill 1, .call 2, .call 2, .call 2, .call 2]).Running other :=
  (segment_exclusive Sample.segmentMemory Sample.segmentMemory_documented none
    (fun _ attached => by cases attached) [.call 1, .kill 1]).2 [.call 2, .call 2, .call 2] 2
    (by decide) (by decide) (by rintro (_ | _) <;> decide) ⟨.proceed, by decide⟩ (by decide)

end KernelManager
