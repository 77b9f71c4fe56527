import KernelManager.Core.State
import KernelManager.Plan.Transaction
import KernelManager.Scx
import KernelManager.Ui.ConfigureWindow
import KernelManager.Ui.MainWindow

/-! The messages the application receives and the background tasks it starts. -/

namespace KernelManager

structure Flags where
  home : String
  systemLocale : String
  configPath : String
  aurEnabled : Bool
  deriving DecidableEq, Repr

structure CatalogPayload where
  rows : List KernelRowView := []
  kernels : KernelsByRaw := fun _ => none
  installed : String → Option Provenance := fun _ => none
  hardware : HardwareProfile := {}

inductive ConfCheck
  | hardly | perGov | tcpBbr3 | cachyConfig | nconfig | xconfig | localmodcfg | useCurrent
  | zfs | nvidiaOpen | buildDebug
  deriving DecidableEq, Repr

inductive ConfPatchOp
  | moveUp (index : Nat)
  | moveDown (index : Nat)
  | remove (index : Nat)
  deriving DecidableEq, Repr

inductive ConfTab
  | options | patches
  deriving DecidableEq, Repr

inductive PathDialogKind
  | loadConfig | saveConfig | addRemotePatch | addLocalPatch
  deriving DecidableEq, Repr

structure PathDialog where
  title : String
  value : String
  onSubmit : PathDialogKind
  deriving DecidableEq, Repr

inductive Message
  | kernelToggled (raw : String)
  | executeRequested
  | configureRequested
  | configLoaded (config : KernelManagerConfig)
  | patchAdded (entry : String)
  | patchRemoved (index : Nat)
  | patchMoved (source target : Nat)
  | schedulerChanged (scheduler mode : String)
  | cancelRequested
  | configurationCancelRequested
  | configurationCloseRequested
  | closeRequested
  | buildRequested
  | installArtifactsRequested
  | variantChanged (variant : KernelVariant)
  | schedextRequested
  | scxCloseRequested
  deriving DecidableEq, Repr

/-- Everything `update` can receive: semantic messages, widget changes and the results of
background tasks. -/
inductive UiMessage
  | semantic (message : Message)
  | catalogLoaded (payload : CatalogPayload)
  | discoveryFailed (message : String)
  | configureFailed (message : String)
  | taskFailed (message : String)
  | transactionStarted
  | transactionFinished (changed : Bool)
  | transactionFailed (message : String)
  | configError (message : String)
  | configurePrepared (generation : Nat) (patches : List String)
  | patchesRefreshed (generation : Nat) (patches : List String)
  | buildFinished (success : Bool)
  | artifactsInstalled
  | scxInit (model : ScxWindowModel)
  | scxApplied (ok : Bool)
  | scxDisabled (ok : Bool)
  | dialogDismissed
  | installQuestion (yes : Bool)
  | customNameChanged (value : String)
  | scxFlagsChanged (value : String)
  | configLoaded (config : KernelManagerConfig)
  | exit
  | sortRequested (column : Nat)
  | confTabClicked (tab : ConfTab)
  | checkToggled (check : ConfCheck)
  | patchOp (op : ConfPatchOp)
  | variantPicked (variant : KernelVariant)
  | ltoPicked (lto : LtoMode)
  | preemptPicked (preempt : PreemptMode)
  | hzPicked (hz : HzTick)
  | ticklessPicked (tickless : TicklessMode)
  | hugepagePicked (hugepage : HugepageMode)
  | cpuOptPicked (cpuOpt : CpuOptMode)
  | scxWindowClosed
  | scxApply
  | scxDisable
  | scxSchedulerPicked (scheduler : String)
  | scxProfilePicked (profile : String)
  | pathDialogOpened (kind : PathDialogKind)
  | pathDialogChanged (value : String)
  | pathDialogDismissed
  | pathDialogSubmitted

structure TransactionJob where
  selection : SelectionState
  kernels : KernelsByRaw
  cachedHardware : HardwareProfile
  aurEnabled : Bool

structure ProbeJob where
  generation : Nat
  home : String
  options : BuildOptions
  variant : KernelVariant
  deriving DecidableEq, Repr

structure BuildJob where
  epoch : Nat
  home : String
  options : BuildOptions
  variant : KernelVariant
  patches : List String
  customName : String
  deriving DecidableEq, Repr

structure ArtifactsJob where
  epoch : Nat
  home : String
  variantDir : String
  deriving DecidableEq, Repr

structure ScxApplyJob where
  scheduler : String
  mode : SchedMode
  flags : String
  config : SchedConfig
  configPath : String

inductive Task
  | discovery (flags : Flags)
  | transaction (job : TransactionJob)
  | configure (job : ProbeJob)
  | refreshPatches (job : ProbeJob)
  | build (job : BuildJob)
  | artifacts (job : ArtifactsJob)
  | scxInit (configPath : String)
  | scxApply (job : ScxApplyJob)
  | scxDisable (config : SchedConfig) (configPath : String)
  | loadConfig (path : String)
  | saveConfig (path : String) (config : KernelManagerConfig)
  | exit

end KernelManager
