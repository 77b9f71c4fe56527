import KernelManager.Core.Options
import KernelManager.Core.Kernel

/-! The Configure window's model. -/

namespace KernelManager

structure KernelManagerConfig where
  hardlyCheck : Bool := false
  perGovCheck : Bool := false
  tcpBbr3Check : Bool := false
  cachyConfigCheck : Bool := false
  nconfigCheck : Bool := false
  xconfigCheck : Bool := false
  localmodcfgCheck : Bool := false
  useCurrentCheck : Bool := false
  builtinZfsCheck : Bool := false
  builtinNvidiaOpenCheck : Bool := false
  buildDebugCheck : Bool := false
  hzTicksCombo : String := ""
  tickrateCombo : String := ""
  preemptCombo : String := ""
  hugepageCombo : String := ""
  ltoCombo : String := ""
  cpuOptCombo : String := ""
  customNameEdit : String := ""
  deriving DecidableEq, Repr

def variantLabel : KernelVariant → String
  | .cachyos => "CachyOS default Scheduler (tuned EEVDF)"
  | .bore => "BORE - Burst-Oriented Response Enhancer"
  | .rc => "RC - Release Candidate"
  | .rt => "RT - Realtime kernel"
  | .lts => "LTS - Long-term support kernel"
  | .eevdf => "EEVDF"
  | .bmq => "BMQ (BitMap Queue)"
  | .hardened => "Hardened - Hardened Linux kernel"
  | .deckify => "Deckify - Handheld optimized kernel"
  | .server => "Server - Server optimized kernel"

structure ConfigureWindowModel where
  variant : KernelVariant := .cachyos
  variantLabel : String := variantLabel .cachyos
  switch : VariantSwitchState := {}
  hardlyChecked : Bool := true
  perGovChecked : Bool := false
  tcpBbr3Checked : Bool := false
  nconfigChecked : Bool := false
  xconfigChecked : Bool := false
  localmodcfgChecked : Bool := false
  useCurrentChecked : Bool := false
  builtinNvidiaOpenChecked : Bool := false
  buildDebugChecked : Bool := false
  tickless : TicklessMode := .full
  hugepage : HugepageMode := .always
  cpuOpt : CpuOptMode := .manual
  patches : List String := []
  customName : String := defaultCustomName
  deriving DecidableEq, Repr

def isPatch (entry : String) : Bool := endsWith entry ".patch"

namespace ConfigureWindowModel

def resetPatches (window : ConfigureWindowModel) (sourceArray : List String) :
    ConfigureWindowModel :=
  { window with patches := sourceArray.filter isPatch }

def onVariantChanged (window : ConfigureWindowModel) (variant : KernelVariant)
    (sourceArray : List String) : ConfigureWindowModel :=
  { window with
    variant := variant
    variantLabel := KernelManager.variantLabel variant
    switch := window.switch.switchTo variant }.resetPatches sourceArray

def addLocalPatches (window : ConfigureWindowModel) (files : List String) :
    ConfigureWindowModel :=
  { window with patches := window.patches ++ files.map ("file://" ++ ·) }

def addRemotePatch (window : ConfigureWindowModel) (url : String) : ConfigureWindowModel :=
  { window with patches := window.patches ++ [url] }

def removePatch (window : ConfigureWindowModel) (index : Nat) : ConfigureWindowModel :=
  { window with patches := window.patches.eraseIdx index }

/-- Exchange two entries of the patch list; an index past the end leaves it unchanged. -/
def swapPatches (window : ConfigureWindowModel) (left right : Nat) : ConfigureWindowModel :=
  match window.patches[left]?, window.patches[right]? with
  | some first, some second =>
      { window with patches := (window.patches.set left second).set right first }
  | _, _ => window

def moveUp (window : ConfigureWindowModel) (index : Nat) : ConfigureWindowModel :=
  if 0 < index ∧ index < window.patches.length then window.swapPatches index (index - 1)
  else window

def moveDown (window : ConfigureWindowModel) (index : Nat) : ConfigureWindowModel :=
  if index + 1 < window.patches.length then window.swapPatches index (index + 1)
  else window

def toConfig (window : ConfigureWindowModel) : KernelManagerConfig where
  hardlyCheck := window.hardlyChecked
  perGovCheck := window.perGovChecked
  tcpBbr3Check := window.tcpBbr3Checked
  cachyConfigCheck := window.switch.cachyConfigChecked
  nconfigCheck := window.nconfigChecked
  xconfigCheck := window.xconfigChecked
  localmodcfgCheck := window.localmodcfgChecked
  useCurrentCheck := window.useCurrentChecked
  builtinZfsCheck := window.switch.zfsChecked
  builtinNvidiaOpenCheck := window.builtinNvidiaOpenChecked
  buildDebugCheck := window.buildDebugChecked
  hzTicksCombo := window.switch.hzSelected.value
  tickrateCombo := window.tickless.value
  preemptCombo := window.switch.preemptSelected.value
  hugepageCombo := window.hugepage.value
  ltoCombo := window.switch.ltoSelected.value
  cpuOptCombo := window.cpuOpt.value
  customNameEdit := window.customName

def findItem {Item : Type} (items : List Item) (value : Item → String) (saved : String) :
    Option Item :=
  items.find? (value · = saved)

def loadConfig (window : ConfigureWindowModel) (config : KernelManagerConfig) :
    ConfigureWindowModel × Bool :=
  let tickless := findItem TicklessMode.all TicklessMode.value config.tickrateCombo
  let hugepage := findItem HugepageMode.all HugepageMode.value config.hugepageCombo
  let cpuOpt := findItem CpuOptMode.all CpuOptMode.value config.cpuOptCombo
  let lto := findItem window.switch.ltoItems LtoMode.value config.ltoCombo
  let preempt := findItem window.switch.preemptItems PreemptMode.value config.preemptCombo
  let hz := findItem HzTick.all HzTick.value config.hzTicksCombo
  ({ window with
      hardlyChecked := config.hardlyCheck
      perGovChecked := config.perGovCheck
      tcpBbr3Checked := config.tcpBbr3Check
      nconfigChecked := config.nconfigCheck
      xconfigChecked := config.xconfigCheck
      localmodcfgChecked := config.localmodcfgCheck
      useCurrentChecked := config.useCurrentCheck
      builtinNvidiaOpenChecked := config.builtinNvidiaOpenCheck
      buildDebugChecked := config.buildDebugCheck
      customName := config.customNameEdit
      tickless := tickless.getD window.tickless
      hugepage := hugepage.getD window.hugepage
      cpuOpt := cpuOpt.getD window.cpuOpt
      switch :=
        { window.switch with
          ltoSelected := lto.getD window.switch.ltoSelected
          preemptSelected := preempt.getD window.switch.preemptSelected
          hzSelected := hz.getD window.switch.hzSelected
          cachyConfigChecked := config.cachyConfigCheck
          zfsChecked := config.builtinZfsCheck } },
    tickless.isNone || hugepage.isNone || cpuOpt.isNone || lto.isNone || preempt.isNone ||
      hz.isNone)

end ConfigureWindowModel

end KernelManager
