import KernelManager.Scx

/-! The plans that the sched-ext window executes. -/

namespace KernelManager

inductive ServiceOp
  | disableScxService | stopScxService | enableScxLoaderService
  deriving DecidableEq, Repr

inductive DbCall
  | switchScheduler (sched : SupportedSched) (mode : SchedMode)
  | switchSchedulerWithArgs (sched : SupportedSched) (args : List String)
  | stopScheduler
  deriving DecidableEq, Repr

structure ApplyInput where
  scxName : String
  scxMode : SchedMode
  extraFlags : String
  config : SchedConfig
  scxServiceEnabled : Bool
  scxServiceActive : Bool
  scxLoaderServiceEnabled : Bool
  configPath : String

structure ApplyPlan where
  scxServiceOp : Option ServiceOp
  dbCall : DbCall
  enableLoader : Bool
  config : SchedConfig
  configPath : String

def applyConfigMutation (config : SchedConfig) (scxName : String) (scxMode : SchedMode) :
    SchedConfig :=
  { config with
    defaultSched := (SupportedSched.fromStr scxName).toOption
    defaultMode := some scxMode }

def disableConfigMutation (config : SchedConfig) : SchedConfig :=
  { config with defaultSched := none }

def schedArgs (extraFlags : String) : List String :=
  if extraFlags.isEmpty then [] else (extraFlags.toList.splitOn ' ').map String.ofList

def applyPlan (input : ApplyInput) : Option ApplyPlan :=
  match SupportedSched.fromStr input.scxName with
  | .error _ => none
  | .ok sched =>
      let args := schedArgs input.extraFlags
      some
        { scxServiceOp :=
            if input.scxServiceEnabled then some .disableScxService
            else if input.scxServiceActive then some .stopScxService
            else none
          dbCall :=
            if args = flagsForMode input.config sched input.scxMode then
              .switchScheduler sched input.scxMode
            else .switchSchedulerWithArgs sched args
          enableLoader := !input.scxLoaderServiceEnabled
          config := applyConfigMutation input.config input.scxName input.scxMode
          configPath := input.configPath }

def disablePlan (config : SchedConfig) (configPath : String) : ApplyPlan where
  scxServiceOp := none
  dbCall := .stopScheduler
  enableLoader := false
  config := disableConfigMutation config
  configPath := configPath

theorem applyPlan_dbCall (input : ApplyInput) (sched : SupportedSched)
    (parsed : SupportedSched.fromStr input.scxName = .ok sched) :
    (applyPlan input).map (·.dbCall) =
      some (if schedArgs input.extraFlags = flagsForMode input.config sched input.scxMode then
        .switchScheduler sched input.scxMode
      else .switchSchedulerWithArgs sched (schedArgs input.extraFlags)) := by
  rw [applyPlan, parsed]
  rfl

end KernelManager
