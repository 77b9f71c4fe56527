import KernelManager.Plan.Availability
import KernelManager.Plan.Commands
import KernelManager.Ui.CheckedRows

/-! Whether a removal lists a package twice. -/

namespace KernelManager

def DiscoveredKernel.removalCandidates (kernel : DiscoveredKernel) : List String :=
  kernel.headers ::
    (kernel.companions.zfs.toList ++ kernel.companions.nvidia.toList ++
      kernel.companions.nvidiaOpen.toList)

def RemovedApart (hardware : HardwareProfile) (first second : DiscoveredKernel) : Prop :=
  List.Disjoint ((removal hardware first).map (·.package))
    ((removal hardware second).map (·.package))

theorem removal_packages (hardware : HardwareProfile) (kernel : DiscoveredKernel) :
    (removal hardware kernel).map (·.package) =
      kernel.name :: kernel.removalCandidates.filter (hardware.installed.contains ·) := by
  have companion (candidate : Option String) :
      ((candidate.toList.filter (hardware.installed.contains ·)).map
        (PackageAction.mk · .removalCompanion)).map (·.package) =
          candidate.toList.filter (hardware.installed.contains ·) := by
    rw [List.map_map]
    exact List.map_id _
  simp only [removal, TransactionPlan.expandRemove, TransactionPlan.pushRemoveInstalled_eq,
    TransactionPlan.pushRemove, List.foldl_cons, List.foldl_nil, List.nil_append, List.map_append,
    companion, DiscoveredKernel.removalCandidates]
  by_cases headers : kernel.headers ∈ hardware.installed <;>
    simp [headers]

theorem companionsFor_drivers_ne (name nvidia nvidiaOpen : String)
    (first : (companionsFor name).nvidia = some nvidia)
    (second : (companionsFor name).nvidiaOpen = some nvidiaOpen) : nvidia ≠ nvidiaOpen := by
  unfold companionsFor at first second
  split at first
  · rename_i cachyos
    rw [if_pos cachyos] at second
    cases first
    cases second
    exact append_ne_append name _ _ (by decide)
  · rename_i other
    rw [if_neg other] at second
    split at first
    · rename_i arch
      rw [if_pos arch] at second
      cases first
      cases second
      rcases arch with rfl | rfl <;> decide
    · cases first

theorem offers_candidates (db : SyncDb) (kernel : DiscoveredKernel) (offers : db.Offers kernel) :
    kernel.removalCandidates.Nodup := by
  have apart := offers_companionsApart db kernel offers
  have drivers : ∀ package, package ∈ kernel.companions.nvidia.toList ++
      kernel.companions.nvidiaOpen.toList → kernel.isDriver package = true := by
    intro package member
    simpa [DiscoveredKernel.isDriver] using member
  have once : (kernel.companions.nvidia.toList ++ kernel.companions.nvidiaOpen.toList).Nodup := by
    cases first : kernel.companions.nvidia with
    | none => cases kernel.companions.nvidiaOpen <;> simp
    | some nvidia =>
        cases second : kernel.companions.nvidiaOpen with
        | none => simp
        | some nvidiaOpen =>
            simpa using companionsFor_drivers_ne kernel.name nvidia nvidiaOpen
              (offers.nvidia nvidia first).1 (offers.nvidiaOpen nvidiaOpen second).1
  rw [DiscoveredKernel.removalCandidates, List.append_assoc, List.nodup_cons]
  constructor
  · intro member
    rcases List.mem_append.mp member with zfs | driver
    · exact apart.zfsHeaders (by simpa using zfs)
    · have isDriver := drivers kernel.headers driver
      rw [apart.driverHeaders] at isDriver
      cases isDriver
  · refine List.Nodup.append (by cases kernel.companions.zfs <;> simp) once ?_
    intro package zfs driver
    have isDriver := drivers package driver
    rw [apart.driverZfs package (by simpa using zfs)] at isDriver
    cases isDriver

theorem offers_name_notCandidate (db : SyncDb) (kernel : DiscoveredKernel)
    (offers : db.Offers kernel) : kernel.name ∉ kernel.removalCandidates := by
  have apart := offers_companionsApart db kernel offers
  intro member
  rcases List.mem_cons.mp member with headers | companion
  · rw [offers.name] at headers
    exact kernelHeadersName_ne kernel.headers offers.needle headers
  · rw [List.append_assoc] at companion
    rcases List.mem_append.mp companion with zfs | driver
    · exact apart.zfsName (by simpa using zfs)
    · have isDriver : kernel.isDriver kernel.name = true := by
        simpa [DiscoveredKernel.isDriver] using driver
      rw [apart.driverName] at isDriver
      cases isDriver

theorem removal_nodup (dbs : List SyncDb) (hardware : HardwareProfile)
    (kernel : DiscoveredKernel) (member : kernel ∈ discoverKernels dbs) :
    ((removal hardware kernel).map (·.package)).Nodup := by
  obtain ⟨db, _, offers⟩ := discoverKernels_offers dbs kernel member
  rw [removal_packages, List.nodup_cons]
  constructor
  · intro listed
    exact offers_name_notCandidate db kernel offers (List.mem_of_mem_filter listed)
  · exact (offers_candidates db kernel offers).filter _

theorem removeKernels_discovered (dbs : List SyncDb) (selection : SelectionState)
    (kernel : DiscoveredKernel)
    (member : kernel ∈ removeKernels selection (kernelsByRaw (discoverKernels dbs))) :
    kernel ∈ discoverKernels dbs := by
  obtain ⟨raw, _, found⟩ := List.mem_filterMap.mp member
  exact kernelsByRaw_mem _ raw kernel found

theorem removePackages_command (plan : TransactionPlan) (packages : List String)
    (member : CommandPlan.removePackages packages ∈ commitCommands plan) :
    packages = plan.remove.map (·.package) := by
  simp only [commitCommands, List.mem_append] at member
  rcases member with (aur | install) | remove
  · split at aur
    · obtain ⟨name, _, built⟩ := List.mem_flatMap.mp aur
      split at built <;> simp [aurBuild] at built
    · cases aur
  · split at install <;> simp at install
  · split at remove
    · cases remove
    · simpa using remove

/-- A removal lists a package twice exactly if two of the removed kernels share it; the packages
of one kernel are always distinct. -/
theorem removePackages_nodup_iff (dbs : List SyncDb) (selection : SelectionState)
    (hardware : HardwareProfile) (aurEnabled : Bool) :
    (∀ kernel ∈ discoverKernels dbs, ((removal hardware kernel).map (·.package)).Nodup) ∧
      ∃ plan, TransactionPlan.fromSelection selection hardware
          (kernelsByRaw (discoverKernels dbs)) = some plan ∧
        ∀ packages, CommandPlan.removePackages packages ∈
            commitCommands { plan with aurEnabled := aurEnabled } →
          (packages.Nodup ↔
            (removeKernels selection (kernelsByRaw (discoverKernels dbs))).Pairwise
              (RemovedApart hardware)) := by
  refine ⟨removal_nodup dbs hardware, _, TransactionPlan.fromSelection_eq _ _ _, ?_⟩
  intro packages member
  obtain rfl := removePackages_command _ packages member
  rw [List.map_flatMap, List.nodup_flatMap]
  constructor
  · exact fun nodup => nodup.2
  · intro apart
    refine ⟨fun kernel listed => ?_, apart⟩
    exact removal_nodup dbs hardware kernel (removeKernels_discovered dbs selection kernel listed)

namespace Sample

def mirrored (repo : String) : SyncDb where
  name := repo
  packages := [⟨"linux-cachyos", "6.14.1-1"⟩, ⟨"linux-cachyos-headers", "6.14.1-1"⟩]

def mirroredDbs : List SyncDb := [mirrored "cachyos", mirrored "cachyos-v3"]

def installedUnknown (name : String) : Option Provenance :=
  if name = "linux-cachyos" then some (none, "6.14.1-1") else none

end Sample

/-- Both rows of a kernel that two repositories offer are installed and can be unchecked. -/
theorem removePackages_duplicate :
    ¬∀ (vercmp versions : String → String → Ordering) (app : App) (dbs : List SyncDb)
      (installed : String → Option Provenance) (hardware : HardwareProfile)
      (toggles : List String) (plan : TransactionPlan) (packages : List String),
      let kernels := discoverKernels dbs
      let selection := (Machine.run (step vercmp)
        (step vercmp app (.catalogLoaded (kernelCatalog kernels installed versions hardware)))
        (toggles.map fun raw => .semantic (.kernelToggled raw))).state.selection
      TransactionPlan.fromSelection selection hardware (kernelsByRaw kernels) = some plan →
        CommandPlan.removePackages packages ∈ commitCommands plan → packages.Nodup := by
  intro unique
  have twice := unique Sample.vercmp Sample.vercmp Sample.app Sample.mirroredDbs
    Sample.installedUnknown { installed := ["linux-cachyos"] }
    ["cachyos/linux-cachyos", "cachyos-v3/linux-cachyos"]
    { remove := [⟨"linux-cachyos", .selectedKernel⟩, ⟨"linux-cachyos", .selectedKernel⟩] }
    ["linux-cachyos", "linux-cachyos"] (by decide) (by decide)
  exact absurd twice (by decide)

end KernelManager
