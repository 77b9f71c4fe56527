import KernelManager.Core.Discovery
import KernelManager.Core.Selection

/-! Expansion of a selection into an inspectable transaction plan. -/

namespace KernelManager

inductive Reason
  | selectedKernel
  | requiredHeaders
  | zfsRootCompanion
  | nvidiaCompanion
  | nvidiaOpenCompanion
  | existingModuleFamily
  | aurDependency
  | removalCompanion
  deriving DecidableEq, Repr

structure PackageAction where
  package : String
  reason : Reason
  deriving DecidableEq, Repr

structure HardwareProfile where
  rootOnZfs : Bool := false
  chwdNvidia : Bool := false
  chwdNvidiaOpen : Bool := false
  installed : List String := []
  nvidiaModulesInstalled : Bool := false
  nvidiaOpenModulesInstalled : Bool := false
  deriving DecidableEq, Repr

structure TransactionPlan where
  install : List PackageAction := []
  remove : List PackageAction := []
  aurInstall : List String := []
  aurEnabled : Bool := false
  warnings : List String := []
  deriving DecidableEq, Repr

abbrev KernelsByRaw := String → Option DiscoveredKernel

def kernelsByRaw (kernels : List DiscoveredKernel) : KernelsByRaw := fun raw =>
  kernels.reverse.find? (·.raw = raw)

namespace TransactionPlan

def pushInstall (plan : TransactionPlan) (package : String) (reason : Reason) :
    TransactionPlan :=
  { plan with install := plan.install ++ [⟨package, reason⟩] }

def pushRemove (plan : TransactionPlan) (package : String) (reason : Reason) :
    TransactionPlan :=
  { plan with remove := plan.remove ++ [⟨package, reason⟩] }

def pushZfs (plan : TransactionPlan) (kernel : DiscoveredKernel) (hardware : HardwareProfile) :
    TransactionPlan :=
  if hardware.rootOnZfs then
    match kernel.companions.zfs with
    | some zfs => plan.pushInstall zfs .zfsRootCompanion
    | none => plan
  else plan

/-- The result is `none` where the source would panic on an absent companion. -/
def pushModule (plan : TransactionPlan) (kernel : DiscoveredKernel)
    (hardware : HardwareProfile) : Option TransactionPlan :=
  let nvidiaDkmsInstalled := hardware.installed.contains "nvidia-dkms"
  let nvidiaOpenDkmsInstalled := hardware.installed.contains "nvidia-open-dkms"
  let dkmsModulesNotInstalled := !nvidiaDkmsInstalled && !nvidiaOpenDkmsInstalled
  let (shouldInstallNvidia, shouldInstallNvidiaOpen, fromModuleFamily) :=
    if hardware.nvidiaOpenModulesInstalled && kernel.companions.nvidiaOpen.isSome then
      (false, true, true)
    else if hardware.nvidiaModulesInstalled && kernel.companions.nvidia.isSome then
      (true, false, true)
    else
      (hardware.chwdNvidia && kernel.companions.nvidia.isSome,
        hardware.chwdNvidiaOpen && kernel.companions.nvidiaOpen.isSome, false)
  let reason : Reason :=
    if fromModuleFamily then .existingModuleFamily
    else if shouldInstallNvidiaOpen then .nvidiaOpenCompanion
    else .nvidiaCompanion
  if dkmsModulesNotInstalled && shouldInstallNvidiaOpen then
    kernel.companions.nvidiaOpen.map fun module => plan.pushInstall module reason
  else if dkmsModulesNotInstalled && shouldInstallNvidia then
    kernel.companions.nvidia.map fun module => plan.pushInstall module reason
  else some plan

def expandInstall (plan : TransactionPlan) (kernel : DiscoveredKernel)
    (hardware : HardwareProfile) : Option TransactionPlan := do
  let plan ← (plan.pushZfs kernel hardware).pushModule kernel hardware
  let plan := plan.pushInstall kernel.name .selectedKernel
  return plan.pushInstall kernel.headers .requiredHeaders

def pushRemoveInstalled (hardware : HardwareProfile) (plan : TransactionPlan)
    (companion : Option String) : TransactionPlan :=
  match companion with
  | some module =>
      if hardware.installed.contains module then plan.pushRemove module .removalCompanion
      else plan
  | none => plan

def expandRemove (plan : TransactionPlan) (kernel : DiscoveredKernel)
    (hardware : HardwareProfile) : TransactionPlan :=
  let plan := plan.pushRemove kernel.name .selectedKernel
  let plan := pushRemoveInstalled hardware plan (some kernel.headers)
  [kernel.companions.zfs, kernel.companions.nvidia, kernel.companions.nvidiaOpen].foldl
    (pushRemoveInstalled hardware) plan

def expandAurInstall (plan : TransactionPlan) (aurKernelName : String) : TransactionPlan :=
  { plan with aurInstall := plan.aurInstall ++ [aurKernelName] }

def installSelected (hardware : HardwareProfile) (kernels : KernelsByRaw)
    (plan : TransactionPlan) (raw : String) : Option TransactionPlan :=
  match kernels raw with
  | none => some plan
  | some kernel =>
      if kernel.repo = "aur" then some (plan.expandAurInstall kernel.name)
      else plan.expandInstall kernel hardware

def removeSelected (hardware : HardwareProfile) (kernels : KernelsByRaw)
    (plan : TransactionPlan) (raw : String) : TransactionPlan :=
  match kernels raw with
  | none => plan
  | some kernel => plan.expandRemove kernel hardware

def fromSelection (selection : SelectionState) (hardware : HardwareProfile)
    (kernels : KernelsByRaw) : Option TransactionPlan := do
  let plan ← selection.installSet.foldlM (installSelected hardware kernels) {}
  return selection.removalSet.foldl (removeSelected hardware kernels) plan

end TransactionPlan

def expansion (hardware : HardwareProfile) (kernel : DiscoveredKernel) : List PackageAction :=
  match TransactionPlan.expandInstall {} kernel hardware with
  | some plan => plan.install
  | none => []

def removal (hardware : HardwareProfile) (kernel : DiscoveredKernel) : List PackageAction :=
  (TransactionPlan.expandRemove {} kernel hardware).remove

def zfsActions (hardware : HardwareProfile) (kernel : DiscoveredKernel) : List PackageAction :=
  if hardware.rootOnZfs then kernel.companions.zfs.toList.map (⟨·, .zfsRootCompanion⟩) else []

def DkmsInstalled (hardware : HardwareProfile) : Prop :=
  "nvidia-dkms" ∈ hardware.installed ∨ "nvidia-open-dkms" ∈ hardware.installed

structure ModuleChoice (hardware : HardwareProfile) (kernel : DiscoveredKernel)
    (choice : Option PackageAction) : Prop where
  companion : ∀ action, choice = some action →
    kernel.companions.nvidia = some action.package ∨
      kernel.companions.nvidiaOpen = some action.package
  reason : ∀ action, choice = some action → action.reason ≠ .zfsRootCompanion
  withoutDkms : DkmsInstalled hardware → choice = none

theorem moduleChoice_none (hardware : HardwareProfile) (kernel : DiscoveredKernel) :
    ModuleChoice hardware kernel none :=
  ⟨by simp, by simp, fun _ => rfl⟩

theorem moduleChoice_some (hardware : HardwareProfile) (kernel : DiscoveredKernel)
    (module : String) (reason : Reason) (dkms : ¬DkmsInstalled hardware)
    (offered : kernel.companions.nvidia = some module ∨
      kernel.companions.nvidiaOpen = some module)
    (other : reason ≠ .zfsRootCompanion) :
    ModuleChoice hardware kernel (some ⟨module, reason⟩) where
  companion := by
    rintro _ ⟨⟩
    exact offered
  reason := by
    rintro _ ⟨⟩
    exact other
  withoutDkms installed := absurd installed dkms

theorem companion_of_gate {wanted : Bool} {companion : Option String}
    (gate : (wanted && companion.isSome) = true) : ∃ module, companion = some module :=
  Option.isSome_iff_exists.mp (Bool.and_eq_true_iff.mp gate).2

namespace TransactionPlan

theorem pushZfs_eq (plan : TransactionPlan) (kernel : DiscoveredKernel)
    (hardware : HardwareProfile) :
    plan.pushZfs kernel hardware =
      { plan with install := plan.install ++ zfsActions hardware kernel } := by
  unfold pushZfs zfsActions
  split
  · cases kernel.companions.zfs <;> simp [pushInstall]
  · simp

theorem pushModule_spec (kernel : DiscoveredKernel) (hardware : HardwareProfile) :
    ∃ choice, ModuleChoice hardware kernel choice ∧ ∀ plan : TransactionPlan,
      plan.pushModule kernel hardware =
        some { plan with install := plan.install ++ choice.toList } := by
  by_cases dkms : DkmsInstalled hardware
  · refine ⟨none, moduleChoice_none hardware kernel, fun plan => ?_⟩
    have present : (!hardware.installed.contains "nvidia-dkms" &&
        !hardware.installed.contains "nvidia-open-dkms") = false := by
      rcases dkms with dkms | dkms <;> simp [dkms]
    simp only [pushModule, present]
    simp
  · have absent : (!hardware.installed.contains "nvidia-dkms" &&
        !hardware.installed.contains "nvidia-open-dkms") = true := by
      simpa [DkmsInstalled] using dkms
    simp only [pushModule, absent, pushInstall]
    cases openFamily : hardware.nvidiaOpenModulesInstalled &&
        kernel.companions.nvidiaOpen.isSome with
    | true =>
        obtain ⟨module, found⟩ := companion_of_gate openFamily
        have chosen := moduleChoice_some hardware kernel module .existingModuleFamily dkms
          (.inr found) (by decide)
        refine ⟨_, chosen, fun plan => ?_⟩
        simp [found]
    | false =>
      cases family : hardware.nvidiaModulesInstalled && kernel.companions.nvidia.isSome with
      | true =>
          obtain ⟨module, found⟩ := companion_of_gate family
          have chosen := moduleChoice_some hardware kernel module .existingModuleFamily dkms
            (.inl found) (by decide)
          refine ⟨_, chosen, fun plan => ?_⟩
          simp [found]
      | false =>
        cases chwdOpen : hardware.chwdNvidiaOpen && kernel.companions.nvidiaOpen.isSome with
        | true =>
            obtain ⟨module, found⟩ := companion_of_gate chwdOpen
            have chosen := moduleChoice_some hardware kernel module .nvidiaOpenCompanion dkms
              (.inr found) (by decide)
            refine ⟨_, chosen, fun plan => ?_⟩
            simp [found]
        | false =>
          cases chwd : hardware.chwdNvidia && kernel.companions.nvidia.isSome with
          | true =>
              obtain ⟨module, found⟩ := companion_of_gate chwd
              have chosen := moduleChoice_some hardware kernel module .nvidiaCompanion dkms
                (.inl found) (by decide)
              refine ⟨_, chosen, fun plan => ?_⟩
              simp [found]
          | false => exact ⟨none, moduleChoice_none hardware kernel, fun plan => by simp⟩

/-- Installing a kernel never reaches an absent companion: it appends its zfs module,
at most one driver module, the kernel and its headers. -/
theorem expandInstall_spec (kernel : DiscoveredKernel) (hardware : HardwareProfile) :
    ∃ choice, ModuleChoice hardware kernel choice ∧ ∀ plan : TransactionPlan,
      plan.expandInstall kernel hardware =
        some { plan with
          install := plan.install ++ (zfsActions hardware kernel ++ choice.toList ++
            [⟨kernel.name, .selectedKernel⟩, ⟨kernel.headers, .requiredHeaders⟩]) } := by
  obtain ⟨choice, sound, pushed⟩ := pushModule_spec kernel hardware
  refine ⟨choice, sound, fun plan => ?_⟩
  simp [expandInstall, pushZfs_eq, pushed, pushInstall]

theorem expandInstall_eq (plan : TransactionPlan) (kernel : DiscoveredKernel)
    (hardware : HardwareProfile) :
    plan.expandInstall kernel hardware =
      some { plan with install := plan.install ++ expansion hardware kernel } := by
  obtain ⟨choice, _, expanded⟩ := expandInstall_spec kernel hardware
  simp [expansion, expanded]

theorem pushRemoveInstalled_eq (hardware : HardwareProfile) (plan : TransactionPlan)
    (companion : Option String) :
    pushRemoveInstalled hardware plan companion =
      { plan with
        remove := plan.remove ++ (companion.toList.filter (hardware.installed.contains ·)).map
          (⟨·, .removalCompanion⟩) } := by
  unfold pushRemoveInstalled
  cases companion with
  | none => simp
  | some module =>
      by_cases present : module ∈ hardware.installed <;> simp [present, pushRemove]

theorem expandRemove_eq (plan : TransactionPlan) (kernel : DiscoveredKernel)
    (hardware : HardwareProfile) :
    plan.expandRemove kernel hardware =
      { plan with remove := plan.remove ++ removal hardware kernel } := by
  simp [removal, expandRemove, pushRemoveInstalled_eq, pushRemove]

theorem installSelected_foldlM (hardware : HardwareProfile) (kernels : KernelsByRaw)
    (raws : List String) (plan : TransactionPlan) :
    raws.foldlM (installSelected hardware kernels) plan =
      some { plan with
        install := plan.install ++
          ((raws.filterMap kernels).filter (·.repo ≠ "aur")).flatMap (expansion hardware)
        aurInstall := plan.aurInstall ++
          ((raws.filterMap kernels).filter (·.repo = "aur")).map (·.name) } := by
  induction raws generalizing plan with
  | nil => simp
  | cons raw raws ih =>
      rw [List.foldlM_cons]
      cases found : kernels raw with
      | none => simp [installSelected, found, ih]
      | some kernel =>
          by_cases aur : kernel.repo = "aur"
          · simp [installSelected, found, aur, ih, expandAurInstall]
          · simp [installSelected, found, aur, ih, expandInstall_eq]

theorem removeSelected_foldl (hardware : HardwareProfile) (kernels : KernelsByRaw)
    (raws : List String) (plan : TransactionPlan) :
    raws.foldl (removeSelected hardware kernels) plan =
      { plan with
        remove := plan.remove ++ (raws.filterMap kernels).flatMap (removal hardware) } := by
  induction raws generalizing plan with
  | nil => simp
  | cons raw raws ih =>
      rw [List.foldl_cons, ih]
      cases found : kernels raw <;> simp [removeSelected, found, expandRemove_eq]

theorem fromSelection_eq (selection : SelectionState) (hardware : HardwareProfile)
    (kernels : KernelsByRaw) :
    fromSelection selection hardware kernels =
      some
        { install := ((selection.installSet.filterMap kernels).filter (·.repo ≠ "aur")).flatMap
            (expansion hardware)
          remove := (selection.removalSet.filterMap kernels).flatMap (removal hardware)
          aurInstall := ((selection.installSet.filterMap kernels).filter
            (·.repo = "aur")).map (·.name) } := by
  simp [fromSelection, installSelected_foldlM, removeSelected_foldl]

end TransactionPlan

theorem removal_package (hardware : HardwareProfile) (kernel : DiscoveredKernel)
    (action : PackageAction) (member : action ∈ removal hardware kernel) :
    action.package = kernel.name ∨ action.package ∈ hardware.installed := by
  have companion : ∀ candidate : Option String,
      action ∈ (candidate.toList.filter (hardware.installed.contains ·)).map
        (PackageAction.mk · .removalCompanion) → action.package ∈ hardware.installed := by
    intro candidate listed
    obtain ⟨module, kept, rfl⟩ := List.mem_map.mp listed
    simpa using (List.mem_filter.mp kept).2
  simp only [removal, TransactionPlan.expandRemove, TransactionPlan.pushRemoveInstalled_eq,
    TransactionPlan.pushRemove, List.foldl_cons, List.foldl_nil, List.mem_append,
    List.nil_append, List.mem_singleton] at member
  rcases member with (((rfl | headers) | zfs) | nvidia) | nvidiaOpen
  · exact Or.inl rfl
  · exact Or.inr (companion _ headers)
  · exact Or.inr (companion _ zfs)
  · exact Or.inr (companion _ nvidia)
  · exact Or.inr (companion _ nvidiaOpen)

end KernelManager
