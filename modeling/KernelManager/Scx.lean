import KernelManager.Core.Text

/-! The sched-ext configuration and the decisions of the sched-ext window. -/

namespace KernelManager

inductive SupportedSched
  | bpfland | rusty | lavd | flash
  deriving DecidableEq, Repr

namespace SupportedSched

def all : List SupportedSched := [.bpfland, .rusty, .lavd, .flash]

def name : SupportedSched → String
  | .bpfland => "scx_bpfland"
  | .rusty => "scx_rusty"
  | .lavd => "scx_lavd"
  | .flash => "scx_flash"

def fromStr (scxName : String) : Except String SupportedSched :=
  if scxName = "scx_bpfland" then .ok .bpfland
  else if scxName = "scx_rusty" then .ok .rusty
  else if scxName = "scx_lavd" then .ok .lavd
  else if scxName = "scx_flash" then .ok .flash
  else .error (scxName ++ " is not supported")

end SupportedSched

inductive SchedMode
  | auto | gaming | powerSave | lowLatency | server
  deriving DecidableEq, Repr

def modeFromLabel (label : String) : SchedMode :=
  if label = "Gaming" then .gaming
  else if label = "Lowlatency" then .lowLatency
  else if label = "Powersave" then .powerSave
  else if label = "Server" then .server
  else .auto

structure SchedFlags where
  autoMode : Option (List String) := none
  gamingMode : Option (List String) := none
  lowlatencyMode : Option (List String) := none
  powersaveMode : Option (List String) := none
  serverMode : Option (List String) := none
  deriving DecidableEq, Repr

structure SchedConfig where
  defaultSched : Option SupportedSched := none
  defaultMode : Option SchedMode := none
  scheds : String → Option SchedFlags := fun _ => none

def defaultFlags : SupportedSched → SchedMode → List String
  | .bpfland, .gaming => ["-m", "performance"]
  | .bpfland, .lowLatency => ["-s", "5000", "-S", "500", "-l", "5000", "-m", "performance"]
  | .bpfland, .powerSave => ["-m", "powersave"]
  | .bpfland, .server => ["-p"]
  | .bpfland, .auto => []
  | .lavd, .gaming | .lavd, .lowLatency => ["--performance"]
  | .lavd, .powerSave => ["--powersave"]
  | .lavd, .server | .lavd, .auto => []
  | .rusty, _ => []
  | .flash, _ => []

def flagsField (flags : SchedFlags) : SchedMode → Option (List String)
  | .gaming => flags.gamingMode
  | .lowLatency => flags.lowlatencyMode
  | .powerSave => flags.powersaveMode
  | .server => flags.serverMode
  | .auto => flags.autoMode

def flagsForMode (config : SchedConfig) (sched : SupportedSched) (mode : SchedMode) :
    List String :=
  match config.scheds sched.name with
  | some schedConfig => (flagsField schedConfig mode).getD (defaultFlags sched mode)
  | none => defaultFlags sched mode

def defaultConfig : SchedConfig where
  defaultSched := none
  defaultMode := some .auto
  scheds := fun name =>
    (SupportedSched.all.find? (·.name = name)).map fun sched =>
      { autoMode := some (defaultFlags sched .auto)
        gamingMode := some (defaultFlags sched .gaming)
        lowlatencyMode := some (defaultFlags sched .lowLatency)
        powersaveMode := some (defaultFlags sched .powerSave)
        serverMode := some (defaultFlags sched .server) }

def profileUiVisible (scheduler : String) : Bool :=
  scheduler = "scx_bpfland" ∨ scheduler = "scx_lavd"

def flagsText (config : SchedConfig) (scheduler profileLabel : String) : String :=
  let sched := match SupportedSched.fromStr scheduler with
    | .ok sched => sched
    | .error _ => .bpfland
  String.intercalate " " (flagsForMode config sched (modeFromLabel profileLabel))

structure ApplyUiDecision where
  scxMode : SchedMode
  extraFlags : String
  critical : Option String
  deriving DecidableEq, Repr

def applyUiDecision (scheduler profileLabel flagsTextInput : String)
    (applySucceeded : Bool) : ApplyUiDecision where
  scxMode := modeFromLabel profileLabel
  extraFlags := trim flagsTextInput
  critical :=
    if applySucceeded then none
    else some ("Cannot set default scx scheduler with mode! Scheduler " ++ scheduler ++
      " with mode " ++ profileLabel)

def disableUiDecision (disableSucceeded : Bool) : Option String :=
  if disableSucceeded then none else some "Cannot disable scx_loader"

structure ScxWindowModel where
  schedulers : List String
  scheduler : String
  runningScheduler : String
  enabled : Bool
  profileVisible : Bool
  profile : String
  flags : String
  critical : Option String
  configPath : String
  config : SchedConfig

namespace ScxWindowModel

def onSchedChanged (model : ScxWindowModel) (scheduler : String) (config : SchedConfig) :
    ScxWindowModel :=
  { model with
    scheduler := scheduler
    profileVisible := profileUiVisible scheduler
    flags := flagsText config scheduler model.profile }

def onProfileChanged (model : ScxWindowModel) (profile : String) (config : SchedConfig) :
    ScxWindowModel :=
  { model with profile := profile, flags := flagsText config model.scheduler profile }

def applyDecision (model : ScxWindowModel) (applySucceeded : Bool) : Option String :=
  (applyUiDecision model.scheduler model.profile model.flags applySucceeded).critical

def disableCritical (_model : ScxWindowModel) (disableSucceeded : Bool) : Option String :=
  disableUiDecision disableSucceeded

def scxMode (model : ScxWindowModel) : SchedMode := modeFromLabel model.profile

end ScxWindowModel

end KernelManager
