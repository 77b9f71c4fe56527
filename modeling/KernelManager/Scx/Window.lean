import KernelManager.Scx

/-! The initialisation of the sched-ext window. -/

namespace KernelManager

def SchedMode.label : SchedMode → String
  | .auto => "Auto"
  | .gaming => "Gaming"
  | .powerSave => "Powersave"
  | .lowLatency => "Lowlatency"
  | .server => "Server"

def scxProfile : List String := ["Auto", "Gaming", "Powersave", "Lowlatency", "Server"]

structure WindowInitInput where
  configInitFailed : Bool
  supportedScheds : Except String (List String)
  config : SchedConfig
  currentSchedulerLabel : String

inductive InitStep
  | criticalConfigInit
  | schedulerCombo (items : List String)
  | criticalNoLoader
  | initialScheduler (scheduler : Option String)
  | profileCombo
  | initialProfile (mode : Option SchedMode)
  | currentSchedulerLabel (label : String)
  | profileVisibility (visible : Bool)
  | initialFlags (text : String)
  deriving DecidableEq, Repr

def schedOrBpfland (name : String) : SupportedSched :=
  match SupportedSched.fromStr name with
  | .ok sched => sched
  | .error _ => .bpfland

def windowInit (input : WindowInitInput) : List InitStep :=
  if input.configInitFailed then [.criticalConfigInit]
  else
    match input.supportedScheds with
    | .error _ => [.criticalNoLoader]
    | .ok items =>
        let scheduler := input.config.defaultSched.map SupportedSched.name
        let initialSched := scheduler.getD ""
        let initialMode := input.config.defaultMode.getD .auto
        [.schedulerCombo items,
          .initialScheduler scheduler,
          .profileCombo,
          .initialProfile input.config.defaultMode,
          .currentSchedulerLabel input.currentSchedulerLabel,
          .profileVisibility (profileUiVisible initialSched),
          .initialFlags
            (String.intercalate " "
              (flagsForMode input.config (schedOrBpfland initialSched) initialMode))]

namespace ScxWindowModel

def applyInitSteps (model : ScxWindowModel) : List InitStep → ScxWindowModel
  | [] => model
  | .criticalConfigInit :: _ =>
      { model with critical := some "Cannot initialize scx_loader configuration" }
  | .criticalNoLoader :: _ =>
      { model with
        critical := some ("Cannot get information from scx_loader!\nIs it working?\n" ++
          "This is needed for the app to work properly")
        enabled := false }
  | .schedulerCombo items :: steps => applyInitSteps { model with schedulers := items } steps
  | .initialScheduler scheduler :: steps =>
      applyInitSteps { model with scheduler := scheduler.getD model.scheduler } steps
  | .profileCombo :: steps => applyInitSteps model steps
  | .initialProfile mode :: steps =>
      applyInitSteps { model with profile := (mode.map SchedMode.label).getD model.profile } steps
  | .currentSchedulerLabel label :: steps =>
      applyInitSteps { model with runningScheduler := label } steps
  | .profileVisibility visible :: steps =>
      applyInitSteps { model with profileVisible := visible } steps
  | .initialFlags text :: steps =>
      applyInitSteps { model with flags := text, enabled := true } steps

def fromInitSteps (steps : List InitStep) (configPath defaultProfile : String)
    (config : SchedConfig) : ScxWindowModel :=
  applyInitSteps
    { schedulers := []
      scheduler := ""
      runningScheduler := ""
      enabled := false
      profileVisible := false
      profile := defaultProfile
      flags := ""
      critical := none
      configPath := configPath
      config := config } steps

end ScxWindowModel

theorem fromStr_name (sched : SupportedSched) : SupportedSched.fromStr sched.name = .ok sched := by
  cases sched <;> decide

theorem name_ne_empty (sched : SupportedSched) : sched.name ≠ "" := by
  cases sched <;> decide

theorem modeFromLabel_label (mode : SchedMode) : modeFromLabel mode.label = mode := by
  cases mode <;> decide

theorem label_mem_scxProfile (mode : SchedMode) : mode.label ∈ scxProfile := by
  cases mode <;> decide

theorem flagsText_schedOrBpfland (config : SchedConfig) (scheduler profile : String) :
    flagsText config scheduler profile =
      String.intercalate " "
        (flagsForMode config (schedOrBpfland scheduler) (modeFromLabel profile)) := rfl

theorem windowInit_loaded (items : List String) (config : SchedConfig)
    (label configPath : String) :
    ScxWindowModel.fromInitSteps
        (windowInit
          { configInitFailed := false
            supportedScheds := .ok items
            config := config
            currentSchedulerLabel := label }) configPath "Auto" config =
      { schedulers := items
        scheduler := (config.defaultSched.map SupportedSched.name).getD ""
        runningScheduler := label
        enabled := true
        profileVisible :=
          profileUiVisible ((config.defaultSched.map SupportedSched.name).getD "")
        profile := (config.defaultMode.getD .auto).label
        flags :=
          flagsText config ((config.defaultSched.map SupportedSched.name).getD "")
            (config.defaultMode.getD .auto).label
        critical := none
        configPath := configPath
        config := config } := by
  rw [flagsText_schedOrBpfland, modeFromLabel_label]
  cases sched : config.defaultSched <;> cases mode : config.defaultMode <;>
    simp [windowInit, ScxWindowModel.fromInitSteps, ScxWindowModel.applyInitSteps, sched, mode,
      SchedMode.label]

end KernelManager
