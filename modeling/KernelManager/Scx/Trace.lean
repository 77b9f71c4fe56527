import KernelManager.Scx.Apply

/-! The decision traces of the sched-ext window, and the operations that its executor performs. -/

namespace KernelManager

inductive ScxStep
  | disableScxService
  | stopScxService
  | stdout (line : String)
  | enableScxLoaderService
  | pkexecCopy (configPath : String)
  | db (call : String)
  deriving DecidableEq, Repr

inductive DbResult
  | ok | fail
  deriving DecidableEq, Repr

def SchedMode.debug : SchedMode → String
  | .auto => "Auto"
  | .gaming => "Gaming"
  | .powerSave => "PowerSave"
  | .lowLatency => "LowLatency"
  | .server => "Server"

inductive ScxOperation
  | service (op : ServiceOp)
  | db (call : DbCall)
  | copy (configPath : String)
  deriving DecidableEq, Repr

section Rendering

-- The rendering of a list of arguments as the program prints it for debugging.
variable (debug : List String → String)

def DbCall.text : DbCall → String
  | .switchScheduler sched mode =>
      "switch_scheduler(" ++ sched.name ++ ", " ++ mode.debug ++ ")"
  | .switchSchedulerWithArgs sched args =>
      "switch_scheduler_with_args(" ++ sched.name ++ ", " ++ debug args ++ ")"
  | .stopScheduler => "stop_scheduler()"

def applyTrace (input : ApplyInput) (dbResult : DbResult) (dbError : String) :
    Option (List ScxStep) :=
  (applyPlan input).map fun plan =>
    let conflict : List ScxStep := match plan.scxServiceOp with
      | some .disableScxService => [.disableScxService, .stdout "Disabling scx service"]
      | some .stopScxService => [.stopScxService, .stdout "Stoping scx service"]
      | some .enableScxLoaderService | none => []
    let switch : List ScxStep := match plan.dbCall with
      | .switchScheduler sched mode =>
          [.stdout ("Applying scx '" ++ sched.name ++ "' with mode " ++ mode.debug),
            .db ((DbCall.switchScheduler sched mode).text debug)] ++
          (if dbResult = .fail then
            [.stdout ("Failed to switch '" ++ input.scxName ++ "' with mode " ++ mode.debug ++
              ": " ++ dbError)]
          else [])
      | .switchSchedulerWithArgs sched args =>
          [.stdout ("Applying scx '" ++ sched.name ++ "' with args: " ++
              String.intercalate " " args),
            .db ((DbCall.switchSchedulerWithArgs sched args).text debug)] ++
          (if dbResult = .fail then
            [.stdout ("Failed to switch '" ++ input.scxName ++ "' with args: " ++ debug args ++
              ": " ++ dbError)]
          else [])
      | .stopScheduler => []
    let loader : List ScxStep :=
      if plan.enableLoader then
        [.stdout "Enabling scx_loader service", .enableScxLoaderService]
      else []
    conflict ++ switch ++ loader ++ [.pkexecCopy plan.configPath]

def disableTrace (configPath : String) : List ScxStep :=
  [.db "stop_scheduler()", .pkexecCopy configPath]

def ScxOperation.step : ScxOperation → ScxStep
  | .service .disableScxService => .disableScxService
  | .service .stopScxService => .stopScxService
  | .service .enableScxLoaderService => .enableScxLoaderService
  | .db call => .db (call.text debug)
  | .copy configPath => .pkexecCopy configPath

end Rendering

def ScxStep.isStdout : ScxStep → Bool
  | .stdout _ => true
  | _ => false

def performed (trace : List ScxStep) : List ScxStep := trace.filter (!·.isStdout)

def ApplyPlan.operations (plan : ApplyPlan) : List ScxOperation :=
  plan.scxServiceOp.toList.map .service ++ [.db plan.dbCall] ++
    (if plan.enableLoader then [.service .enableScxLoaderService] else []) ++
    [.copy plan.configPath]

theorem applyPlan_shape (input : ApplyInput) (plan : ApplyPlan)
    (planned : applyPlan input = some plan) :
    plan.scxServiceOp ≠ some .enableScxLoaderService ∧ plan.dbCall ≠ .stopScheduler := by
  unfold applyPlan at planned
  split at planned
  · cases planned
  · obtain rfl := Option.some.inj planned
    refine ⟨?_, ?_⟩
    · simp only
      split
      · simp
      · split <;> simp
    · simp only
      split <;> simp

/-- The lines of output aside, a trace is the operations of its plan. -/
theorem applyTrace_performed (debug : List String → String) (input : ApplyInput)
    (plan : ApplyPlan) (planned : applyPlan input = some plan) (dbResult : DbResult)
    (dbError : String) :
    (applyTrace debug input dbResult dbError).map performed =
      some (plan.operations.map (ScxOperation.step debug)) := by
  obtain ⟨conflicts, switches⟩ := applyPlan_shape input plan planned
  simp only [applyTrace, planned, Option.map_some, performed, ApplyPlan.operations,
    List.filter_append, List.map_append, Option.some.injEq]
  congr 1
  · congr 1
    · congr 1
      · cases conflict : plan.scxServiceOp with
        | none => rfl
        | some op => cases op <;> first | rfl | exact absurd conflict conflicts
      · cases call : plan.dbCall with
        | switchScheduler sched mode => cases dbResult <;> rfl
        | switchSchedulerWithArgs sched args => cases dbResult <;> rfl
        | stopScheduler => exact absurd call switches
    · cases plan.enableLoader <;> rfl

theorem disableTrace_performed (debug : List String → String) (config : SchedConfig)
    (configPath : String) :
    performed (disableTrace configPath) =
      (disablePlan config configPath).operations.map (ScxOperation.step debug) := rfl

end KernelManager
