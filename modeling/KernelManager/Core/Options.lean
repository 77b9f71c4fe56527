import Mathlib.Logic.Basic

/-! The build options of the Configure window and its variant transitions. -/

namespace KernelManager

inductive KernelVariant
  | cachyos | bore | rc | rt | lts | eevdf | bmq | hardened | deckify | server
  deriving DecidableEq, Repr

def KernelVariant.all : List KernelVariant :=
  [.cachyos, .bore, .rc, .rt, .lts, .eevdf, .bmq, .hardened, .deckify, .server]

def KernelVariant.id : KernelVariant → String
  | .cachyos => "cachyos"
  | .bore => "bore"
  | .rc => "rc"
  | .rt => "rt"
  | .lts => "lts"
  | .eevdf => "eevdf"
  | .bmq => "bmq"
  | .hardened => "hardened"
  | .deckify => "deckify"
  | .server => "server"

def KernelVariant.dirName : KernelVariant → String
  | .cachyos => "linux-cachyos"
  | .bmq => "linux-cachyos-bmq"
  | .bore => "linux-cachyos-bore"
  | .hardened => "linux-cachyos-hardened"
  | .lts => "linux-cachyos-lts"
  | .rc => "linux-cachyos-rc"
  | .rt => "linux-cachyos-rt-bore"
  | .eevdf => "linux-cachyos-eevdf"
  | .deckify => "linux-cachyos-deckify"
  | .server => "linux-cachyos-server"

theorem dirName_injective (left right : KernelVariant)
    (same : left.dirName = right.dirName) : left = right := by
  revert same
  cases left <;> cases right <;> decide

inductive HzTick
  | hz1000 | hz750 | hz600 | hz500 | hz300 | hz250 | hz100
  deriving DecidableEq, Repr

namespace HzTick

def all : List HzTick :=
  [.hz1000, .hz750, .hz600, .hz500, .hz300, .hz250, .hz100]

def value : HzTick → String
  | .hz1000 => "1000"
  | .hz750 => "750"
  | .hz600 => "600"
  | .hz500 => "500"
  | .hz300 => "300"
  | .hz250 => "250"
  | .hz100 => "100"

end HzTick

inductive TicklessMode
  | full | idle | periodic
  deriving DecidableEq, Repr

namespace TicklessMode

def all : List TicklessMode := [.full, .idle, .periodic]

def value : TicklessMode → String
  | .full => "full"
  | .idle => "idle"
  | .periodic => "periodic"

end TicklessMode

inductive PreemptMode
  | full | lazy | voluntary | none
  deriving DecidableEq, Repr

namespace PreemptMode

def all : List PreemptMode := [.full, .lazy, .voluntary, .none]

def value : PreemptMode → String
  | .full => "full"
  | .lazy => "lazy"
  | .voluntary => "voluntary"
  | .none => "none"

end PreemptMode

inductive LtoMode
  | none | full | thin | thinDist
  deriving DecidableEq, Repr

namespace LtoMode

def all : List LtoMode := [.none, .full, .thin, .thinDist]

def value : LtoMode → String
  | .none => "none"
  | .full => "full"
  | .thin => "thin"
  | .thinDist => "thin-dist"

end LtoMode

inductive HugepageMode
  | always | madvise
  deriving DecidableEq, Repr

namespace HugepageMode

def all : List HugepageMode := [.always, .madvise]

def value : HugepageMode → String
  | .always => "always"
  | .madvise => "madvise"

end HugepageMode

inductive CpuOptMode
  | manual | native | genericV1 | genericV2 | genericV3 | genericV4 | zen4
  deriving DecidableEq, Repr

namespace CpuOptMode

def all : List CpuOptMode :=
  [.manual, .native, .genericV1, .genericV2, .genericV3, .genericV4, .zen4]

def value : CpuOptMode → String
  | .manual => "manual"
  | .native => "native"
  | .genericV1 => "generic_v1"
  | .genericV2 => "generic_v2"
  | .genericV3 => "generic_v3"
  | .genericV4 => "generic_v4"
  | .zen4 => "zen4"

end CpuOptMode

structure VariantTransitions where
  ltoThinDist : Bool
  extendedPreempt : Bool
  ltoDefault : LtoMode
  preemptDefault : PreemptMode
  hzDefault : HzTick
  cachyConfigDefault : Bool
  zfsEnabled : Bool
  deriving DecidableEq, Repr

def KernelVariant.transitions (variant : KernelVariant) : VariantTransitions where
  ltoThinDist := variant ≠ .lts ∧ variant ≠ .hardened
  extendedPreempt := variant = .hardened ∨ variant = .lts
  ltoDefault := if variant = .cachyos ∨ variant = .rc then .thin else .none
  preemptDefault := if variant = .server then .lazy else .full
  hzDefault := if variant = .server then .hz300 else .hz1000
  cachyConfigDefault := variant ≠ .server
  zfsEnabled := variant ≠ .rt

structure VariantSwitchState where
  ltoItems : List LtoMode := [.none, .full, .thin, .thinDist]
  ltoSelected : LtoMode := .thin
  preemptItems : List PreemptMode := [.full, .lazy]
  preemptSelected : PreemptMode := .full
  hzSelected : HzTick := .hz1000
  cachyConfigChecked : Bool := true
  zfsChecked : Bool := false
  zfsEnabled : Bool := true
  deriving DecidableEq, Repr

def VariantSwitchState.switchTo (controls : VariantSwitchState) (variant : KernelVariant) :
    VariantSwitchState :=
  let hasThinDist : Bool := variant ≠ .lts ∧ variant ≠ .hardened
  let hasExtendedPreempt : Bool := variant = .hardened ∨ variant = .lts
  { ltoItems :=
      if hasThinDist ∧ controls.ltoItems.length = 3 then controls.ltoItems ++ [.thinDist]
      else if ¬hasThinDist ∧ controls.ltoItems.length = 4 then controls.ltoItems.dropLast
      else controls.ltoItems
    ltoSelected := if variant = .cachyos ∨ variant = .rc then .thin else .none
    preemptItems :=
      if hasExtendedPreempt ∧ controls.preemptItems.length = 2 then
        controls.preemptItems ++ [.voluntary, .none]
      else if ¬hasExtendedPreempt ∧ controls.preemptItems.length = 4 then
        controls.preemptItems.dropLast.dropLast
      else controls.preemptItems
    preemptSelected := if variant = .server then .lazy else .full
    hzSelected := if variant = .server then .hz300 else .hz1000
    cachyConfigChecked := variant ≠ .server
    zfsChecked := if variant = .rt then false else controls.zfsChecked
    zfsEnabled := variant ≠ .rt }

def defaultCustomName : String := "$pkgbase-custom"

structure BuildOptions where
  variant : KernelVariant := .cachyos
  hardly : Bool := true
  perGov : Bool := false
  tcpBbr3 : Bool := false
  cachyConfig : Bool := KernelVariant.cachyos.transitions.cachyConfigDefault
  nconfig : Bool := false
  xconfig : Bool := false
  localmodcfg : Bool := false
  useCurrent : Bool := false
  builtinZfs : Bool := false
  builtinNvidiaOpen : Bool := false
  buildDebug : Bool := false
  hzTicks : HzTick := KernelVariant.cachyos.transitions.hzDefault
  tickless : TicklessMode := .full
  preempt : PreemptMode := KernelVariant.cachyos.transitions.preemptDefault
  hugepage : HugepageMode := .always
  lto : LtoMode := KernelVariant.cachyos.transitions.ltoDefault
  cpuOpt : CpuOptMode := .manual
  customName : String := defaultCustomName
  deriving DecidableEq, Repr

def checkboxBindings : List (String × String) :=
  [("hardly", "_cc_harder"), ("per_gov", "_per_gov"), ("tcp_bbr3", "_tcp_bbr3"),
    ("cachy_config", "_cachy_config"), ("nconfig", "_makenconfig"), ("xconfig", "_makexconfig"),
    ("localmodcfg", "_localmodcfg"), ("use_current", "_use_current"),
    ("builtin_zfs", "_build_zfs"), ("builtin_nvidia_open", "_build_nvidia_open"),
    ("build_debug", "_build_debug")]

def pkgbaseSentinel : String := "$pkgbase"

namespace BuildOptions

def checked (options : BuildOptions) : List Bool :=
  [options.hardly, options.perGov, options.tcpBbr3, options.cachyConfig, options.nconfig,
    options.xconfig, options.localmodcfg, options.useCurrent, options.builtinZfs,
    options.builtinNvidiaOpen, options.buildDebug]

def envPairs (options : BuildOptions) : List (String × String) :=
  (checkboxBindings.zip options.checked).map
      (fun entry => (entry.1.2, if entry.2 then "yes" else "no")) ++
    [("_HZ_ticks", options.hzTicks.value), ("_tickrate", options.tickless.value),
      ("_preempt", options.preempt.value), ("_hugepage", options.hugepage.value),
      ("_use_llvm_lto", options.lto.value)] ++
    (if options.cpuOpt ≠ .manual then [("_processor_opt", options.cpuOpt.value)] else []) ++
    if options.lto ≠ .none ∧ options.customName ≠ pkgbaseSentinel then [("_use_lto_suffix", "n")]
    else []

def envString (options : BuildOptions) : String :=
  options.envPairs.foldl (fun text pair => text ++ (pair.1 ++ "=" ++ pair.2 ++ "\n")) ""

end BuildOptions

end KernelManager
