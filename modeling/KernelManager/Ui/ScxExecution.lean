import KernelManager.Config.Save
import KernelManager.Scx.Trace
import KernelManager.Ui.ScxPlans

/-!
The workers of the sched-ext window: each probes the services, plans, and executes its plan one
call after the other. Nothing keeps the calls of two workers apart.
-/

namespace KernelManager

open Machine Volume

def scxTempPath : String := "/tmp/scx_loader.toml"

inductive ScxJob
  | apply (job : ScxApplyJob)
  | disable (config : SchedConfig) (configPath : String)

def ScxJob.plan (services : ServiceStates) : ScxJob → Option ApplyPlan
  | .apply job => applyPlan (job.input services)
  | .disable config configPath => some (disablePlan config configPath)

def ScxJob.trace (debug : List String → String) (services : ServiceStates) (dbResult : DbResult)
    (dbError : String) : ScxJob → Option (List ScxStep)
  | .apply job => applyTrace debug (job.input services) dbResult dbError
  | .disable _ configPath => some (disableTrace configPath)

inductive ScxStage
  | probeEnabled
  | probeActive (enabled : Bool)
  | probeLoader (enabled active : Bool)
  | connect (plan : ApplyPlan)
  | conflict (plan : ApplyPlan)
  | proxy (plan : ApplyPlan)
  | switch (plan : ApplyPlan)
  | enable (plan : ApplyPlan) (dbOk : Bool)
  | create (plan : ApplyPlan) (dbOk : Bool)
  | write (plan : ApplyPlan) (dbOk : Bool) (file written : Nat)
  | copy (plan : ApplyPlan) (dbOk : Bool)
  | returned (dbOk : Bool)

structure ScxWorker where
  job : ScxJob
  stage : ScxStage
  found : ServiceStates := {}
  operations : List ScxOperation := []

def ScxJob.worker (job : ScxJob) : ScxWorker where
  job := job
  stage := match job with
    | .apply _ => .probeEnabled
    | .disable config configPath => .connect (disablePlan config configPath)

namespace ScxWorker

def move (worker : ScxWorker) (stage : ScxStage) : ScxWorker := { worker with stage := stage }

def record (worker : ScxWorker) (operation : ScxOperation) (stage : ScxStage) : ScxWorker :=
  { worker with stage := stage, operations := worker.operations ++ [operation] }

end ScxWorker

/-- The services and the loader are what the calls that were accepted ask for; neither is seen
to do anything of its own. -/
structure ScxSystem where
  services : ServiceStates
  loader : Option DbCall := none
  directory : Directory String UInt8
  workers : Nat → Option ScxWorker := fun _ => none

/-- The services once `systemctl` has done as it was asked. -/
def ServiceStates.after (services : ServiceStates) : ServiceOp → ServiceStates
  | .disableScxService => { services with scxEnabled := false, scxActive := false }
  | .stopScxService => { services with scxActive := false }
  | .enableScxLoaderService => { services with scxLoaderEnabled := true }

def DbCall.running : DbCall → Option DbCall
  | .stopScheduler => none
  | .switchScheduler sched mode => some (.switchScheduler sched mode)
  | .switchSchedulerWithArgs sched args => some (.switchSchedulerWithArgs sched args)

def DbCall.scheduler : DbCall → Option SupportedSched
  | .stopScheduler => none
  | .switchScheduler sched _ | .switchSchedulerWithArgs sched _ => some sched

/-- The loader runs the scheduler that the configuration names, and in the mode that it names
unless it was given arguments. -/
structure LoaderAgrees (loader : Option DbCall) (config : SchedConfig) : Prop where
  scheduler : loader.bind DbCall.scheduler = config.defaultSched
  mode : ∀ sched mode, loader = some (.switchScheduler sched mode) →
    config.defaultMode = some mode

def CallOutcome.isOk : CallOutcome → Bool
  | .ok _ => true
  | .error => false

/-- One call of a worker: the probes of `systemctl_state`, then `execute_apply`. -/
def ScxWorker.perform (document : SchedConfig → Option (List UInt8)) (system : ScxSystem)
    (worker : ScxWorker) (outcome : CallOutcome) : ScxSystem × ScxWorker :=
  match worker.stage with
  | .probeEnabled =>
      (system, worker.move (.probeActive (outcome.isOk && system.services.scxEnabled)))
  | .probeActive enabled =>
      (system, worker.move (.probeLoader enabled (outcome.isOk && system.services.scxActive)))
  | .probeLoader enabled active =>
      let loaderEnabled := outcome.isOk && system.services.scxLoaderEnabled
      let probed := { worker with found := ⟨enabled, active, loaderEnabled⟩ }
      match worker.job.plan probed.found with
      | some plan => (system, probed.move (.connect plan))
      | none => (system, probed.move (.returned false))
  | .connect plan =>
      (system, worker.move (if outcome.isOk then .conflict plan else .returned false))
  | .conflict plan =>
      match plan.scxServiceOp with
      | none => (system, worker.move (.proxy plan))
      | some op =>
          ({ system with
              services := if outcome.isOk then system.services.after op else system.services },
            worker.record (.service op) (.proxy plan))
  | .proxy plan =>
      (system, worker.move (if outcome.isOk then .switch plan else .enable plan false))
  | .switch plan =>
      ({ system with loader := if outcome.isOk then plan.dbCall.running else system.loader },
        worker.record (.db plan.dbCall) (.enable plan outcome.isOk))
  | .enable plan dbOk =>
      if plan.enableLoader then
        ({ system with
            services := if outcome.isOk then system.services.after .enableScxLoaderService
              else system.services },
          worker.record (.service .enableScxLoaderService) (.create plan dbOk))
      else (system, worker.move (.create plan dbOk))
  | .create plan dbOk =>
      match document plan.config, outcome with
      | some _, .ok _ =>
          let (created, file) := system.directory.create scxTempPath
          ({ system with directory := created }, worker.move (.write plan dbOk file 0))
      | _, _ => (system, worker.move (.returned dbOk))
  | .write plan dbOk file written =>
      match ((document plan.config).getD []).drop written, outcome with
      | [], _ => (system, worker.move (.copy plan dbOk))
      | _, .error | _, .ok 0 => (system, worker.move (.returned dbOk))
      | left, .ok count =>
          ({ system with
              directory := system.directory.writeAt 0 file written (left.take count) },
            worker.move (.write plan dbOk file (written + (left.take count).length)))
  | .copy plan dbOk =>
      ({ system with
          directory :=
            if outcome.isOk then system.directory.copy 0 scxTempPath plan.configPath
            else system.directory },
        worker.record (.copy plan.configPath) (.returned dbOk))
  | .returned dbOk => (system, worker.move (.returned dbOk))

inductive ScxEvent
  | start (thread : Nat) (job : ScxJob)
  | call (thread : Nat) (outcome : CallOutcome)

def scxSystemStep (document : SchedConfig → Option (List UInt8)) (system : ScxSystem) :
    ScxEvent → ScxSystem
  | .start thread job =>
      match system.workers thread with
      | some _ => system
      | none =>
          { system with workers := Function.update system.workers thread (some job.worker) }
  | .call thread outcome =>
      match system.workers thread with
      | none => system
      | some worker =>
          let (after, moved) := worker.perform document system outcome
          { after with workers := Function.update system.workers thread (some moved) }

namespace ApplyPlan

def conflictOperations (plan : ApplyPlan) : List ScxOperation :=
  plan.scxServiceOp.toList.map .service

def enableOperations (plan : ApplyPlan) : List ScxOperation :=
  if plan.enableLoader then [.service .enableScxLoaderService] else []

def uncopied (plan : ApplyPlan) : List ScxOperation :=
  plan.conflictOperations ++ [.db plan.dbCall] ++ plan.enableOperations

theorem operations_uncopied (plan : ApplyPlan) :
    plan.operations = plan.uncopied ++ [.copy plan.configPath] := rfl

end ApplyPlan

/-- What is done is part of `whole` in its order, and all of it once the loader has obeyed. -/
structure Covers (dbOk : Bool) (done whole : List ScxOperation) : Prop where
  part : done.Sublist whole
  all : dbOk = true → done = whole

theorem Covers.append {dbOk : Bool} {done whole : List ScxOperation}
    (covers : Covers dbOk done whole) (more : List ScxOperation) :
    Covers dbOk (done ++ more) (whole ++ more) :=
  ⟨covers.part.append (List.Sublist.refl more), fun obeyed => by rw [covers.all obeyed]⟩

namespace ScxWorker

def Follows (worker : ScxWorker) : Prop :=
  match worker.stage with
  | .probeEnabled | .probeActive _ | .probeLoader _ _ => worker.operations = []
  | .connect plan | .conflict plan =>
      worker.job.plan worker.found = some plan ∧ worker.operations = []
  | .proxy plan | .switch plan =>
      worker.job.plan worker.found = some plan ∧ worker.operations = plan.conflictOperations
  | .enable plan dbOk =>
      worker.job.plan worker.found = some plan ∧
        Covers dbOk worker.operations (plan.conflictOperations ++ [.db plan.dbCall])
  | .create plan dbOk | .write plan dbOk _ _ | .copy plan dbOk =>
      worker.job.plan worker.found = some plan ∧ Covers dbOk worker.operations plan.uncopied
  | .returned dbOk =>
      worker.operations = [] ∧ dbOk = false ∨
        ∃ plan, worker.job.plan worker.found = some plan ∧
          (Covers dbOk worker.operations plan.uncopied ∨
            Covers dbOk worker.operations plan.operations)

theorem follows_start (job : ScxJob) : job.worker.Follows := by
  cases job with
  | apply job => rfl
  | disable config configPath => exact ⟨rfl, rfl⟩

theorem follows_perform (document : SchedConfig → Option (List UInt8)) (system : ScxSystem)
    (worker : ScxWorker) (outcome : CallOutcome) (follows : worker.Follows) :
    (worker.perform document system outcome).2.Follows := by
  obtain ⟨job, stage, found, operations⟩ := worker
  cases stage with
  | probeEnabled => exact follows
  | probeActive enabled => exact follows
  | probeLoader enabled active =>
      simp only [perform]
      split
      · rename_i plan planned
        exact ⟨planned, follows⟩
      · exact .inl ⟨follows, rfl⟩
  | connect plan =>
      cases outcome with
      | ok count => exact follows
      | error => exact .inl ⟨follows.2, rfl⟩
  | conflict plan =>
      obtain ⟨planned, nothing⟩ := follows
      simp only at nothing
      subst nothing
      simp only [perform]
      split
      · rename_i none
        exact ⟨planned, by simp [move, ApplyPlan.conflictOperations, none]⟩
      · rename_i op conflicts
        exact ⟨planned, by simp [record, ApplyPlan.conflictOperations, conflicts]⟩
  | proxy plan =>
      obtain ⟨planned, done⟩ := follows
      simp only at done
      subst done
      cases outcome with
      | ok count => exact ⟨planned, rfl⟩
      | error => exact ⟨planned, List.sublist_append_left _ _, by simp⟩
  | switch plan =>
      obtain ⟨planned, done⟩ := follows
      simp only at done
      subst done
      exact ⟨planned, List.Sublist.refl _, fun _ => rfl⟩
  | enable plan dbOk =>
      obtain ⟨planned, covers⟩ := follows
      have after := covers.append plan.enableOperations
      simp only [perform]
      split
      · rename_i enables
        simp only [ApplyPlan.enableOperations, enables, if_true] at after
        refine ⟨planned, ?_⟩
        simpa only [record, ApplyPlan.uncopied, ApplyPlan.enableOperations, enables, if_true]
          using after
      · rename_i enabled
        refine ⟨planned, ?_⟩
        simpa only [move, ApplyPlan.uncopied, ApplyPlan.enableOperations, enabled,
          Bool.false_eq_true, if_false, List.append_nil] using covers
  | create plan dbOk =>
      simp only [perform]
      split
      · exact follows
      · obtain ⟨planned, covers⟩ := follows
        exact .inr ⟨plan, planned, .inl covers⟩
  | write plan dbOk file written =>
      simp only [perform]
      split
      · exact follows
      · obtain ⟨planned, covers⟩ := follows
        exact .inr ⟨plan, planned, .inl covers⟩
      · obtain ⟨planned, covers⟩ := follows
        exact .inr ⟨plan, planned, .inl covers⟩
      · exact follows
  | copy plan dbOk =>
      obtain ⟨planned, covers⟩ := follows
      exact .inr ⟨plan, planned, .inr (covers.append [.copy plan.configPath])⟩
  | returned dbOk => exact follows

end ScxWorker

def ScxSystem.Follows (system : ScxSystem) : Prop :=
  ∀ thread worker, system.workers thread = some worker → worker.Follows

theorem scxSystemStep_follows (document : SchedConfig → Option (List UInt8)) (system : ScxSystem)
    (event : ScxEvent) (follows : system.Follows) :
    (scxSystemStep document system event).Follows := by
  intro other worker found
  cases event with
  | start thread job =>
      simp only [scxSystemStep] at found
      split at found
      · exact follows other worker found
      · obtain ⟨rfl, rfl⟩ | ⟨_, was⟩ := process_set found
        · exact ScxWorker.follows_start job
        · exact follows other worker was
  | call thread outcome =>
      simp only [scxSystemStep] at found
      split at found
      · exact follows other worker found
      · rename_i running same
        obtain ⟨rfl, rfl⟩ | ⟨_, was⟩ := process_set found
        · exact ScxWorker.follows_perform document system running outcome
            (follows other running same)
        · exact follows other worker was

theorem trace_performed (debug : List String → String) (job : ScxJob) (services : ServiceStates)
    (plan : ApplyPlan) (planned : job.plan services = some plan) (dbResult : DbResult)
    (dbError : String) :
    ∃ trace, job.trace debug services dbResult dbError = some trace ∧
      performed trace = plan.operations.map (ScxOperation.step debug) := by
  cases job with
  | apply job =>
      exact Option.map_eq_some_iff.mp
        (applyTrace_performed debug (job.input services) plan planned dbResult dbError)
  | disable config configPath =>
      obtain rfl := Option.some.inj planned
      exact ⟨_, rfl, disableTrace_performed debug config configPath⟩

namespace Sample

def scxDocument (config : SchedConfig) : Option (List UInt8) :=
  match config.defaultSched, config.defaultMode with
  | some sched, some mode =>
      some ("default_sched = \"" ++ sched.name ++ "\"\ndefault_mode = \"" ++ mode.debug ++
        "\"\n\n[scheds]\n").toUTF8.toList
  | _, _ => none

def scxSystem : ScxSystem where
  services := {}
  directory := .empty

def scxApplyJob (scheduler : String) (mode : SchedMode) : ScxJob :=
  .apply
    { scheduler := scheduler
      mode := mode
      flags := ""
      config := { defaultMode := some .auto }
      configPath := "/etc/scx_loader.toml" }

def refusedExecution : List ScxEvent :=
  [.start 0 (.disable { defaultMode := some .auto } "/etc/scx_loader.toml"),
    .start 1 (scxApplyJob "scx_lavd" .auto), .call 0 (.ok 0), .call 1 .error, .call 0 (.ok 0),
    .call 0 (.ok 0), .call 0 .error, .call 1 (.ok 0), .call 0 (.ok 0), .call 0 (.ok 0)]

def refusedWorker : ScxWorker where
  job := .disable { defaultMode := some .auto } "/etc/scx_loader.toml"
  stage := .returned false
  operations := [.db .stopScheduler]

end Sample

def uninterrupted (thread : Nat) (counts : List Nat) : List ScxEvent :=
  counts.map fun count => .call thread (.ok count)

def ScxStage.remaining (length : Nat) : ScxStage → Nat
  | .probeEnabled => length + 11
  | .probeActive _ => length + 10
  | .probeLoader _ _ => length + 9
  | .connect _ => length + 8
  | .conflict _ => length + 7
  | .proxy _ => length + 6
  | .switch _ => length + 5
  | .enable _ _ => length + 4
  | .create _ _ => length + 3
  | .write _ _ _ written => length - written + 2
  | .copy _ _ => 1
  | .returned _ => 0

/-- A worker that runs alone: it plans for the services it found, and from its switch on the
loader is as it will be when it returns. -/
structure Alone (services : ServiceStates) (plan : ApplyPlan) (content : List UInt8)
    (loader : Option DbCall) (system : ScxSystem) (worker : ScxWorker) : Prop where
  stage : match worker.stage with
    | .probeEnabled => system.services = services ∧ worker.job.plan services = some plan
    | .probeActive enabled =>
        system.services = services ∧ worker.job.plan services = some plan ∧
          enabled = services.scxEnabled
    | .probeLoader enabled active =>
        system.services = services ∧ worker.job.plan services = some plan ∧
          enabled = services.scxEnabled ∧ active = services.scxActive
    | .connect own | .conflict own | .proxy own | .switch own => own = plan
    | .enable own dbOk | .create own dbOk => own = plan ∧ dbOk = true
    | .write own dbOk file written =>
        own = plan ∧ dbOk = true ∧ system.directory.entries scxTempPath = some file ∧
          system.directory.files file = content.take written ∧ written ≤ content.length
    | .copy own dbOk =>
        own = plan ∧ dbOk = true ∧ system.directory.read scxTempPath = some content
    | .returned dbOk =>
        dbOk = true ∧ system.directory.read plan.configPath = some content
  loader : match worker.stage with
    | .probeEnabled | .probeActive _ | .probeLoader _ _ | .connect _ | .conflict _ | .proxy _
    | .switch _ => loader = plan.dbCall.running
    | .enable _ _ | .create _ _ | .write .. | .copy _ _ | .returned _ => system.loader = loader

theorem alone_perform (document : SchedConfig → Option (List UInt8)) (services : ServiceStates)
    (plan : ApplyPlan) (content : List UInt8) (loader : Option DbCall) (system : ScxSystem)
    (worker : ScxWorker) (written : document plan.config = some content)
    (alone : Alone services plan content loader system worker) (count : Nat)
    (positive : 0 < count) :
    let result := worker.perform document system (.ok count)
    Alone services plan content loader result.1 result.2 ∧
      result.2.stage.remaining content.length ≤
        worker.stage.remaining content.length - 1 := by
  obtain ⟨job, stage, found, operations⟩ := worker
  obtain ⟨own, loads⟩ := alone
  cases stage with
  | probeEnabled =>
      obtain ⟨unchanged, planned⟩ := own
      exact ⟨⟨⟨unchanged, planned, by rw [← unchanged]; rfl⟩, loads⟩, Nat.le_refl _⟩
  | probeActive enabled =>
      obtain ⟨unchanged, planned, probed⟩ := own
      exact ⟨⟨⟨unchanged, planned, probed, by rw [← unchanged]; rfl⟩, loads⟩, Nat.le_refl _⟩
  | probeLoader enabled active =>
      obtain ⟨unchanged, planned, probed, alsoProbed⟩ := own
      simp only at planned
      have chosen : job.plan ⟨enabled, active, (CallOutcome.ok count).isOk &&
          system.services.scxLoaderEnabled⟩ = some plan := by
        rw [probed, alsoProbed, unchanged]
        exact planned
      simp only [ScxWorker.perform, chosen]
      exact ⟨⟨rfl, loads⟩, Nat.le_refl _⟩
  | connect own => exact ⟨⟨‹_›, loads⟩, Nat.le_refl _⟩
  | conflict own =>
      simp only [ScxWorker.perform]
      split <;> exact ⟨⟨‹_›, loads⟩, Nat.le_refl _⟩
  | proxy own => exact ⟨⟨‹_›, loads⟩, Nat.le_refl _⟩
  | switch own =>
      simp only at loads
      subst own
      exact ⟨⟨⟨rfl, rfl⟩, loads.symm⟩, Nat.le_refl _⟩
  | enable own dbOk =>
      simp only [ScxWorker.perform]
      split <;> exact ⟨⟨‹_›, loads⟩, Nat.le_refl _⟩
  | create own dbOk =>
      obtain ⟨rfl, obeyed⟩ := own
      obtain ⟨leads, empty⟩ := system.directory.create_opens scxTempPath
      simp only [ScxWorker.perform, written]
      exact ⟨⟨⟨rfl, obeyed, leads, empty, Nat.zero_le _⟩, loads⟩, Nat.le_refl _⟩
  | write own dbOk file reached =>
      obtain ⟨rfl, obeyed, leads, held, bound⟩ := own
      simp only [ScxWorker.perform, written, Option.getD_some]
      split
      · rename_i finished
        have all := List.drop_eq_nil_iff.mp finished
        refine ⟨⟨⟨rfl, obeyed, ?_⟩, loads⟩, Nat.le_add_left _ _⟩
        simp only [Directory.read, leads, Option.map_some, held, List.take_of_length_le all]
      · rename_i refused _
        cases refused
      · rename_i nothing _
        cases nothing
        exact absurd positive (Nat.lt_irrefl 0)
      · rename_i taken _ same unfinished
        obtain rfl := CallOutcome.ok.inj same
        obtain ⟨appended, within⟩ := system.directory.writeAt_next 0 file reached count content held
          bound
        refine ⟨⟨⟨rfl, obeyed, leads, appended, within⟩, loads⟩, ?_⟩
        have left : 0 < (content.drop reached).length := List.length_pos_iff.mpr unfinished
        simp only [ScxWorker.move, ScxStage.remaining, List.length_take, List.length_drop] at left ⊢
        omega
  | copy own dbOk =>
      obtain ⟨rfl, obeyed, held⟩ := own
      refine ⟨⟨⟨obeyed, ?_⟩, loads⟩, Nat.le_refl _⟩
      exact Directory.copy_read 0 system.directory scxTempPath own.configPath content held
  | returned dbOk => exact ⟨⟨own, loads⟩, Nat.le_refl _⟩

structure AloneAfter (services : ServiceStates) (plan : ApplyPlan) (content : List UInt8)
    (loader : Option DbCall) (thread calls : Nat) (worker : ScxWorker)
    (before after : ScxSystem) : Prop where
  moved : ∃ moved, after.workers thread = some moved ∧
    Alone services plan content loader after moved ∧
      moved.stage.remaining content.length ≤ worker.stage.remaining content.length - calls
  others : ∀ other, other ≠ thread → after.workers other = before.workers other

theorem alone_run (document : SchedConfig → Option (List UInt8)) (services : ServiceStates)
    (plan : ApplyPlan) (content : List UInt8) (loader : Option DbCall) (system : ScxSystem)
    (thread : Nat) (worker : ScxWorker) (written : document plan.config = some content)
    (found : system.workers thread = some worker)
    (alone : Alone services plan content loader system worker) (counts : List Nat)
    (positive : ∀ count ∈ counts, 0 < count) :
    AloneAfter services plan content loader thread counts.length worker system
      (run (scxSystemStep document) system (uninterrupted thread counts)) := by
  induction counts generalizing system worker with
  | nil => exact ⟨⟨worker, found, alone, Nat.le_refl _⟩, fun _ _ => rfl⟩
  | cons count counts ih =>
      obtain ⟨kept, fewer⟩ := alone_perform document services plan content loader system worker
        written alone count (positive count List.mem_cons_self)
      have stepped : scxSystemStep document system (.call thread (.ok count)) =
          { (worker.perform document system (.ok count)).1 with
            workers := Function.update system.workers thread
              (some (worker.perform document system (.ok count)).2) } := by
        simp only [scxSystemStep, found]
      have later := ih (scxSystemStep document system (.call thread (.ok count)))
        (worker.perform document system (.ok count)).2
        (by rw [stepped]; exact Function.update_self ..) (by rw [stepped]; exact ⟨kept.1, kept.2⟩)
        fun other listed => positive other (List.mem_cons_of_mem count listed)
      refine ⟨?_, fun other different => ?_⟩
      · obtain ⟨moved, located, same, left⟩ := later.moved
        refine ⟨moved, located, same, ?_⟩
        simp only [List.length_cons]
        omega
      · refine (later.others other different).trans ?_
        rw [stepped]
        exact Function.update_of_ne different ..

theorem alone_returns (services : ServiceStates) (plan : ApplyPlan) (content : List UInt8)
    (loader : Option DbCall) (thread calls : Nat) (worker : ScxWorker) (before after : ScxSystem)
    (alone : AloneAfter services plan content loader thread calls worker before after)
    (enough : worker.stage.remaining content.length ≤ calls) :
    (∃ moved, after.workers thread = some moved ∧ moved.stage = .returned true) ∧
      after.loader = loader ∧ after.directory.read plan.configPath = some content := by
  obtain ⟨⟨job, stage, found, operations⟩, located, kept, left⟩ := alone.moved
  obtain ⟨own, loads⟩ := kept
  have ended : stage.remaining content.length = 0 := by
    simp only at left
    omega
  cases stage with
  | returned dbOk =>
      obtain ⟨obeyed, held⟩ := own
      simp only at obeyed loads
      subst obeyed
      exact ⟨⟨_, located, rfl⟩, loads, held⟩
  | _ => simp [ScxStage.remaining] at ended

theorem alone_start (job : ScxJob) (plan : ApplyPlan) (content : List UInt8) (system : ScxSystem)
    (planned : job.plan system.services = some plan) :
    Alone system.services plan content plan.dbCall.running system job.worker := by
  cases job with
  | apply job => exact ⟨⟨rfl, planned⟩, rfl⟩
  | disable config configPath =>
      obtain rfl := Option.some.inj planned
      exact ⟨rfl, rfl⟩

theorem remaining_start (job : ScxJob) (length : Nat) :
    job.worker.stage.remaining length ≤ length + 11 := by
  cases job with
  | apply job => exact Nat.le_refl _
  | disable config configPath =>
      simp only [ScxJob.worker, ScxStage.remaining]
      omega

theorem plan_agrees (job : ScxJob) (services : ServiceStates) (plan : ApplyPlan)
    (planned : job.plan services = some plan) : LoaderAgrees plan.dbCall.running plan.config := by
  cases job with
  | apply job =>
      simp only [ScxJob.plan, applyPlan] at planned
      split at planned
      · cases planned
      · rename_i sched parsed
        obtain rfl := Option.some.inj planned
        simp only [applyConfigMutation, parsed, Except.toOption]
        split
        · refine ⟨rfl, ?_⟩
          rintro other mode same
          obtain ⟨_, rfl⟩ := DbCall.switchScheduler.inj (Option.some.inj same)
          rfl
        · refine ⟨rfl, ?_⟩
          rintro other mode same
          cases same
  | disable config configPath =>
      obtain rfl := Option.some.inj planned
      refine ⟨rfl, ?_⟩
      rintro other mode same
      cases same

/-- Whatever the system went through, a worker whose calls no other one interrupts and none
of which fails returns, and leaves the loader and the configuration of its plan, which agree. -/
theorem soloExecution_agrees (document : SchedConfig → Option (List UInt8)) (system : ScxSystem)
    (thread : Nat) (free : system.workers thread = none) (job : ScxJob) (plan : ApplyPlan)
    (planned : job.plan system.services = some plan) (content : List UInt8)
    (written : document plan.config = some content) (counts : List Nat)
    (positive : ∀ count ∈ counts, 0 < count) (enough : content.length + 11 ≤ counts.length) :
    let final := run (scxSystemStep document) system
      (.start thread job :: uninterrupted thread counts)
    (∃ worker, final.workers thread = some worker ∧ worker.stage = .returned true) ∧
      final.loader = plan.dbCall.running ∧
        final.directory.read plan.configPath = some content ∧
          LoaderAgrees final.loader plan.config := by
  intro final
  have started : scxSystemStep document system (.start thread job) =
      { system with workers := Function.update system.workers thread (some job.worker) } := by
    simp only [scxSystemStep, free]
  have alone := alone_start job plan content
    { system with workers := Function.update system.workers thread (some job.worker) } planned
  have ran := alone_run document system.services plan content plan.dbCall.running _ thread
    job.worker written (Function.update_self ..) alone counts positive
  rw [← started] at ran
  have fewer := remaining_start job content.length
  obtain ⟨returned, loader, persisted⟩ := alone_returns system.services plan content
    plan.dbCall.running thread counts.length job.worker _ final ran (by omega)
  exact ⟨returned, loader, persisted, loader ▸ plan_agrees job system.services plan planned⟩

theorem soloExecution_agrees_lavd :
    let final := run (scxSystemStep Sample.scxDocument) Sample.scxSystem
      (.start 0 (Sample.scxApplyJob "scx_lavd" .auto) ::
        uninterrupted 0 (List.replicate 100 4096))
    (∃ worker, final.workers 0 = some worker ∧ worker.stage = .returned true) ∧
      final.loader = some (.switchScheduler .lavd .auto) ∧
        final.directory.read "/etc/scx_loader.toml" =
            Sample.scxDocument { defaultSched := some .lavd, defaultMode := some .auto } ∧
          LoaderAgrees final.loader { defaultSched := some .lavd, defaultMode := some .auto } :=
  soloExecution_agrees Sample.scxDocument Sample.scxSystem 0 rfl
    (Sample.scxApplyJob "scx_lavd" .auto) _ rfl _ rfl (List.replicate 100 4096)
    (by simp) (by decide +kernel)

def ScxJob.probes : ScxJob → Nat
  | .apply _ => 3
  | .disable _ _ => 0

def ScxJob.probed (services : ServiceStates) : ScxJob → ServiceStates
  | .apply _ => services
  | .disable _ _ => {}

theorem probed (document : SchedConfig → Option (List UInt8)) (system : ScxSystem) (thread : Nat)
    (job : ScxJob) (plan : ApplyPlan) (planned : job.plan system.services = some plan)
    (found : system.workers thread = some job.worker) :
    run (scxSystemStep document) system (uninterrupted thread (List.replicate job.probes 1)) =
      { system with
        workers := Function.update system.workers thread
          (some ⟨job, .connect plan, job.probed system.services, []⟩) } := by
  cases job with
  | apply job =>
      have same : (ScxJob.apply job).plan ⟨system.services.scxEnabled,
          system.services.scxActive, system.services.scxLoaderEnabled⟩ = some plan := planned
      simp only [ScxJob.probes, uninterrupted, List.replicate, List.map_cons, List.map_nil,
        run_cons, run_nil, scxSystemStep, found, ScxJob.worker, ScxWorker.perform, ScxWorker.move,
        Function.update_self, Function.update_idem, CallOutcome.isOk, Bool.true_and, same,
        ScxJob.probed]
  | disable config configPath =>
      obtain rfl := Option.some.inj planned
      simp only [ScxJob.probes, List.replicate, uninterrupted, List.map_nil, run_nil]
      have own : Function.update system.workers thread
          (some (ScxJob.disable config configPath).worker) = system.workers := by
        rw [← found]
        exact Function.update_eq_self ..
      exact congrArg (fun workers => { system with workers := workers }) own.symm

theorem switched (document : SchedConfig → Option (List UInt8)) (system : ScxSystem)
    (thread : Nat) (job : ScxJob) (plan : ApplyPlan) (services : ServiceStates)
    (operations : List ScxOperation)
    (found : system.workers thread = some ⟨job, .connect plan, services, operations⟩) :
    let final := run (scxSystemStep document) system (uninterrupted thread (List.replicate 4 1))
    (∃ done, final.workers thread = some ⟨job, .enable plan true, services, done⟩) ∧
      final.loader = plan.dbCall.running ∧
        ∀ other, other ≠ thread → final.workers other = system.workers other := by
  intro final
  have ran : ∃ left done,
      final =
        { system with
          services := left
          loader := plan.dbCall.running
          workers := Function.update system.workers thread
            (some ⟨job, .enable plan true, services, done⟩) } := by
    cases conflict : plan.scxServiceOp with
    | none =>
        refine ⟨system.services, operations ++ [.db plan.dbCall], ?_⟩
        simp only [final, uninterrupted, List.replicate, List.map_cons, List.map_nil, run_cons,
          run_nil, scxSystemStep, found, ScxWorker.perform, ScxWorker.move, ScxWorker.record,
          conflict, Function.update_self, Function.update_idem, CallOutcome.isOk, if_true]
    | some op =>
        refine ⟨system.services.after op, operations ++ [.service op] ++ [.db plan.dbCall], ?_⟩
        simp only [final, uninterrupted, List.replicate, List.map_cons, List.map_nil, run_cons,
          run_nil, scxSystemStep, found, ScxWorker.perform, ScxWorker.move, ScxWorker.record,
          conflict, Function.update_self, Function.update_idem, CallOutcome.isOk, if_true]
  obtain ⟨left, done, same⟩ := ran
  rw [same]
  exact ⟨⟨done, Function.update_self ..⟩, rfl,
    fun other different => Function.update_of_ne different ..⟩

/-- Two workers are started, and both plan; the second one switches, then all of the first one's
calls are made, then the rest of the second one's. -/
def overtaken (first second : Nat) (firstJob secondJob : ScxJob)
    (firstCounts secondCounts : List Nat) : List ScxEvent :=
  [.start first firstJob, .start second secondJob] ++
    uninterrupted first (List.replicate firstJob.probes 1) ++
    uninterrupted second (List.replicate secondJob.probes 1) ++
    uninterrupted second (List.replicate 4 1) ++ uninterrupted first firstCounts ++
    uninterrupted second secondCounts

theorem overtaken_run (document : SchedConfig → Option (List UInt8)) (system : ScxSystem)
    (first second : Nat) (different : first ≠ second) (firstFree : system.workers first = none)
    (secondFree : system.workers second = none) (firstJob secondJob : ScxJob)
    (firstPlan secondPlan : ApplyPlan)
    (firstPlanned : firstJob.plan system.services = some firstPlan)
    (secondPlanned : secondJob.plan system.services = some secondPlan)
    (firstContent secondContent : List UInt8)
    (firstWritten : document firstPlan.config = some firstContent)
    (secondWritten : document secondPlan.config = some secondContent)
    (firstCounts secondCounts : List Nat) (firstPositive : ∀ count ∈ firstCounts, 0 < count)
    (secondPositive : ∀ count ∈ secondCounts, 0 < count)
    (firstEnough : firstContent.length + 8 ≤ firstCounts.length)
    (secondEnough : secondContent.length + 4 ≤ secondCounts.length) :
    let final := run (scxSystemStep document) system
      (overtaken first second firstJob secondJob firstCounts secondCounts)
    (∃ worker, final.workers first = some worker ∧ worker.stage = .returned true) ∧
      (∃ worker, final.workers second = some worker ∧ worker.stage = .returned true) ∧
        final.loader = firstPlan.dbCall.running ∧
          final.directory.read secondPlan.configPath = some secondContent := by
  intro final
  let step := scxSystemStep document
  -- Both are started, and make their probes.
  let started := run step system [.start first firstJob, .start second secondJob]
  have begun : started = { system with
      workers := Function.update (Function.update system.workers first (some firstJob.worker))
        second (some secondJob.worker) } := by
    simp only [started, step, run_cons, run_nil, scxSystemStep, firstFree,
      Function.update_of_ne different.symm, secondFree]
  have firstStarted : started.workers first = some firstJob.worker := by
    rw [begun]
    simp only [Function.update_of_ne different, Function.update_self]
  have secondStarted : started.workers second = some secondJob.worker := by
    rw [begun]
    exact Function.update_self ..
  have sameServices : started.services = system.services := by rw [begun]
  let firstProbed := run step started (uninterrupted first (List.replicate firstJob.probes 1))
  have firstAt := probed document started first firstJob firstPlan (sameServices ▸ firstPlanned)
    firstStarted
  have secondWaits : firstProbed.workers second = some secondJob.worker := by
    rw [show firstProbed = _ from firstAt]
    exact (Function.update_of_ne different.symm ..).trans secondStarted
  let bothProbed :=
    run step firstProbed (uninterrupted second (List.replicate secondJob.probes 1))
  have secondAt := probed document firstProbed second secondJob secondPlan
    (by rw [show firstProbed = _ from firstAt]; exact sameServices ▸ secondPlanned) secondWaits
  have firstWaits : bothProbed.workers first =
      some ⟨firstJob, .connect firstPlan, firstJob.probed started.services, []⟩ := by
    rw [show bothProbed = _ from secondAt]
    refine (Function.update_of_ne different ..).trans ?_
    rw [show firstProbed = _ from firstAt]
    exact Function.update_self ..
  -- The second one switches.
  let secondSwitched := run step bothProbed (uninterrupted second (List.replicate 4 1))
  obtain ⟨⟨done, secondReached⟩, -, secondAlone⟩ :=
    switched document bothProbed second secondJob secondPlan _ []
      (by rw [show bothProbed = _ from secondAt]; exact Function.update_self ..)
  have firstStill : secondSwitched.workers first =
      some ⟨firstJob, .connect firstPlan, firstJob.probed started.services, []⟩ :=
    (secondAlone first different).trans firstWaits
  -- The first one makes all of its calls.
  let firstDone := run step secondSwitched (uninterrupted first firstCounts)
  have firstRan := alone_run document system.services firstPlan firstContent
    firstPlan.dbCall.running secondSwitched first _ firstWritten firstStill ⟨rfl, rfl⟩ firstCounts
    firstPositive
  obtain ⟨⟨firstMoved, firstFound, firstEnded⟩, firstLoader, -⟩ :=
    alone_returns _ _ _ _ _ _ _ _ _ firstRan firstEnough
  have secondStill : firstDone.workers second =
      some ⟨secondJob, .enable secondPlan true, secondJob.probed firstProbed.services, done⟩ :=
    (firstRan.others second different.symm).trans secondReached
  -- The second one makes the rest of its calls.
  have secondRan := alone_run document system.services secondPlan secondContent
    firstPlan.dbCall.running firstDone second _ secondWritten secondStill
    ⟨⟨rfl, rfl⟩, firstLoader⟩ secondCounts secondPositive
  obtain ⟨secondMoved, loader, persisted⟩ :=
    alone_returns _ _ _ _ _ _ _ _ _ secondRan secondEnough
  have same : final = run step firstDone (uninterrupted second secondCounts) := by
    simp only [final, overtaken, run_append]
    rfl
  rw [same]
  exact ⟨⟨firstMoved, (secondRan.others first different).trans firstFound, firstEnded⟩, secondMoved,
    loader, persisted⟩

theorem reschedule_congr (app other : App) (message : UiMessage) (same : app.scx = other.scx) :
    message.reschedule app = message.reschedule other := by
  cases message with
  | semantic message =>
      cases message <;> simp only [UiMessage.reschedule, Message.reschedule, same]
  | _ => simp only [UiMessage.reschedule, same]

theorem plans_congr (app other : App) (message : UiMessage) (same : app.scx = other.scx) :
    message.plans app = message.plans other := by
  cases message with
  | scxApply =>
      simp only [UiMessage.plans, App.scxApply, same]
      cases other.scx with
      | none => rfl
      | some scx =>
          dsimp only
          cases SupportedSched.fromStr scx.scheduler <;> rfl
  | scxDisable => simp only [UiMessage.plans, same]
  | _ => rfl

theorem run_scx_congr (vercmp : String → String → Ordering) (app other : App)
    (messages : List UiMessage) (same : app.scx = other.scx) :
    (run (step vercmp) app messages).scx = (run (step vercmp) other messages).scx := by
  induction messages generalizing app other with
  | nil => exact same
  | cons message messages ih =>
      rw [run_cons, run_cons]
      apply ih
      have moved : (step vercmp app message).scx = message.reschedule app :=
        update_scx vercmp app message
      have otherMoved : (step vercmp other message).scx = message.reschedule other :=
        update_scx vercmp other message
      rw [moved, otherMoved, reschedule_congr app other message same]

def startedJobs (vercmp : String → String → Ordering) (app : App) (message : UiMessage) :
    List Task :=
  (update vercmp app message).2.filter Task.executesPlan

/-- A press starts its job and is forgotten: later ones start what they would without it. -/
theorem press_unguarded (vercmp : String → String → Ordering) (app : App) (press : UiMessage)
    (presses : press = .scxApply ∨ press = .scxDisable) (messages : List UiMessage)
    (next : UiMessage) :
    startedJobs vercmp (run (step vercmp) app (press :: messages)) next =
      startedJobs vercmp (run (step vercmp) app messages) next := by
  have left : (step vercmp app press).scx = app.scx := by
    refine (update_scx vercmp app press).trans ?_
    rcases presses with rfl | rfl <;> rfl
  rw [startedJobs, startedJobs, update_plans, update_plans, run_cons]
  exact plans_congr _ _ next (run_scx_congr vercmp _ _ messages left)

/-- The window does not wait for its workers: after a press it starts the same jobs as without it.
Of any two jobs, without a failure and with both reporting success, the loader then can run what
the first one asked for, with the configuration of the second. -/
theorem overtaken_disagrees (document : SchedConfig → Option (List UInt8)) (system : ScxSystem)
    (first second : Nat) (different : first ≠ second) (firstFree : system.workers first = none)
    (secondFree : system.workers second = none) (firstJob secondJob : ScxJob)
    (firstPlan secondPlan : ApplyPlan)
    (firstPlanned : firstJob.plan system.services = some firstPlan)
    (secondPlanned : secondJob.plan system.services = some secondPlan)
    (firstContent secondContent : List UInt8)
    (firstWritten : document firstPlan.config = some firstContent)
    (secondWritten : document secondPlan.config = some secondContent)
    (firstCounts secondCounts : List Nat) (firstPositive : ∀ count ∈ firstCounts, 0 < count)
    (secondPositive : ∀ count ∈ secondCounts, 0 < count)
    (firstEnough : firstContent.length + 8 ≤ firstCounts.length)
    (secondEnough : secondContent.length + 4 ≤ secondCounts.length) :
    (∀ vercmp app press, press = .scxApply ∨ press = .scxDisable → ∀ messages next,
        startedJobs vercmp (run (step vercmp) app (press :: messages)) next =
          startedJobs vercmp (run (step vercmp) app messages) next) ∧
      let final := run (scxSystemStep document) system
        (overtaken first second firstJob secondJob firstCounts secondCounts)
      (∃ worker, final.workers first = some worker ∧ worker.stage = .returned true) ∧
        (∃ worker, final.workers second = some worker ∧ worker.stage = .returned true) ∧
          final.loader = firstPlan.dbCall.running ∧
            final.directory.read secondPlan.configPath = some secondContent :=
  ⟨press_unguarded,
    overtaken_run document system first second different firstFree secondFree firstJob secondJob
      firstPlan secondPlan firstPlanned secondPlanned firstContent secondContent firstWritten
      secondWritten firstCounts secondCounts firstPositive secondPositive firstEnough
      secondEnough⟩

theorem overtaken_disagrees_schedulers :
    let final := run (scxSystemStep Sample.scxDocument) Sample.scxSystem
      (overtaken 0 1 (Sample.scxApplyJob "scx_lavd" .auto)
        (Sample.scxApplyJob "scx_rusty" .auto) (List.replicate 100 4096)
        (List.replicate 100 4096))
    (∃ worker, final.workers 0 = some worker ∧ worker.stage = .returned true) ∧
      (∃ worker, final.workers 1 = some worker ∧ worker.stage = .returned true) ∧
        final.loader = some (.switchScheduler .lavd .auto) ∧
          final.directory.read "/etc/scx_loader.toml" =
            Sample.scxDocument { defaultSched := some .rusty, defaultMode := some .auto } :=
  (overtaken_disagrees Sample.scxDocument Sample.scxSystem 0 1 (by decide) rfl rfl
    (Sample.scxApplyJob "scx_lavd" .auto) (Sample.scxApplyJob "scx_rusty" .auto) _ _ rfl rfl _ _
    rfl rfl (List.replicate 100 4096) (List.replicate 100 4096) (by simp) (by simp)
    (by decide +kernel) (by decide +kernel)).2

end KernelManager
