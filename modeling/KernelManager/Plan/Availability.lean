import KernelManager.Plan.Transaction

/-! Every package of a plan over discovered kernels is one that can be there. -/

namespace KernelManager

def DiscoveredKernel.isDriver (kernel : DiscoveredKernel) (package : String) : Bool :=
  kernel.companions.nvidia = some package ∨ kernel.companions.nvidiaOpen = some package

theorem kernelsByRaw_mem (kernels : List DiscoveredKernel) (raw : String)
    (kernel : DiscoveredKernel) (found : kernelsByRaw kernels raw = some kernel) :
    kernel ∈ kernels := by
  simpa using List.mem_of_find?_eq_some found

theorem headers_ne_append (headers name ending : String)
    (named : name = kernelHeadersName headers) (unaligned : ending.toList.length % 8 ≠ 0) :
    name ++ ending ≠ headers := by
  intro same
  have aligned := kernelHeadersName_length_mod headers
  rw [← named, ← same, String.toList_append, List.length_append] at aligned
  omega

theorem name_ne_append (name ending : String) (nonempty : 0 < ending.toList.length) :
    name ++ ending ≠ name := by
  intro same
  have lengths := congrArg (fun text => text.toList.length) same
  simp only [String.toList_append, List.length_append] at lengths
  omega

theorem append_ne_append (name left right : String)
    (lengths : left.toList.length ≠ right.toList.length) : name ++ left ≠ name ++ right := by
  intro same
  have total := congrArg (fun text => text.toList.length) same
  simp only [String.toList_append, List.length_append] at total
  omega

theorem companionsFor_zfs (name module : String)
    (listed : (companionsFor name).zfs = some module) : module = name ++ "-zfs" := by
  unfold companionsFor at listed
  split at listed
  · exact (Option.some.inj listed).symm
  · split at listed <;> cases listed

def archDrivers : List String := ["nvidia", "nvidia-open", "nvidia-lts", "nvidia-open-lts"]

theorem companionsFor_driver (name package : String)
    (listed : (companionsFor name).nvidia = some package ∨
      (companionsFor name).nvidiaOpen = some package) :
    (package = name ++ "-nvidia" ∨ package = name ++ "-nvidia-open") ∨
      ((name = "linux" ∨ name = "linux-lts") ∧ package ∈ archDrivers ∧
        (companionsFor name).zfs = none) := by
  by_cases cachyos : startsWith name "linux-cachyos" = true
  · left
    simp only [companionsFor, cachyos, ↓reduceIte, Option.some.injEq] at listed
    exact listed.imp Eq.symm Eq.symm
  · by_cases arch : name = "linux" ∨ name = "linux-lts"
    · right
      rcases arch with rfl | rfl
      · have computed : companionsFor "linux" =
            { nvidia := some "nvidia", nvidiaOpen := some "nvidia-open" } := by decide
        rw [computed] at listed ⊢
        simp only [Option.some.injEq] at listed
        refine ⟨Or.inl rfl, ?_, rfl⟩
        rcases listed with rfl | rfl <;> simp [archDrivers]
      · have computed : companionsFor "linux-lts" =
            { nvidia := some "nvidia-lts", nvidiaOpen := some "nvidia-open-lts" } := by decide
        rw [computed] at listed ⊢
        simp only [Option.some.injEq] at listed
        refine ⟨Or.inr rfl, ?_, rfl⟩
        rcases listed with rfl | rfl <;> simp [archDrivers]
    · simp [companionsFor, cachyos, arch] at listed

theorem archDrivers_apart (package : String) (member : package ∈ archDrivers) :
    package ≠ "linux" ∧ package ≠ "linux-lts" ∧ matchesHeadersNeedle package = false := by
  simp only [archDrivers, List.mem_cons, List.not_mem_nil, or_false] at member
  rcases member with rfl | rfl | rfl | rfl <;> decide

/-- The naming rules never let a companion collide with the kernel, with its headers, or
with a companion of the other kind. -/
structure CompanionsApart (kernel : DiscoveredKernel) : Prop where
  driverName : kernel.isDriver kernel.name = false
  driverHeaders : kernel.isDriver kernel.headers = false
  driverZfs : ∀ zfs, kernel.companions.zfs = some zfs → kernel.isDriver zfs = false
  zfsName : kernel.companions.zfs ≠ some kernel.name
  zfsHeaders : kernel.companions.zfs ≠ some kernel.headers

theorem offers_driver (db : SyncDb) (kernel : DiscoveredKernel) (offers : db.Offers kernel)
    (package : String) (driver : kernel.isDriver package = true) :
    (package = kernel.name ++ "-nvidia" ∨ package = kernel.name ++ "-nvidia-open") ∨
      ((kernel.name = "linux" ∨ kernel.name = "linux-lts") ∧ package ∈ archDrivers ∧
        (companionsFor kernel.name).zfs = none) := by
  simp only [DiscoveredKernel.isDriver, Bool.decide_or, Bool.or_eq_true,
    decide_eq_true_eq] at driver
  apply companionsFor_driver
  rcases driver with nvidia | nvidiaOpen
  · exact Or.inl (offers.nvidia package nvidia).1
  · exact Or.inr (offers.nvidiaOpen package nvidiaOpen).1

theorem offers_companionsApart (db : SyncDb) (kernel : DiscoveredKernel)
    (offers : db.Offers kernel) : CompanionsApart kernel where
  driverName := by
    by_contra driver
    rcases offers_driver db kernel offers _ (by simpa using driver) with
      (eq | eq) | ⟨linux, member, _⟩
    · exact name_ne_append _ _ (by decide) eq.symm
    · exact name_ne_append _ _ (by decide) eq.symm
    · have apart := archDrivers_apart _ member
      exact linux.elim apart.1 apart.2.1
  driverHeaders := by
    by_contra driver
    rcases offers_driver db kernel offers _ (by simpa using driver) with
      (eq | eq) | ⟨_, member, _⟩
    · exact headers_ne_append _ _ _ offers.name (by decide) eq.symm
    · exact headers_ne_append _ _ _ offers.name (by decide) eq.symm
    · have unmatched := (archDrivers_apart _ member).2.2
      rw [offers.needle] at unmatched
      exact absurd unmatched (by decide)
  driverZfs := by
    intro zfs listed
    have zfsEq := companionsFor_zfs _ _ (offers.zfs zfs listed).1
    by_contra driver
    rcases offers_driver db kernel offers _ (by simpa using driver) with
      (eq | eq) | ⟨_, _, none⟩
    · exact append_ne_append kernel.name _ _ (by decide) (zfsEq.symm.trans eq)
    · exact append_ne_append kernel.name _ _ (by decide) (zfsEq.symm.trans eq)
    · rw [(offers.zfs zfs listed).1] at none
      cases none
  zfsName := by
    intro listed
    have eq := companionsFor_zfs _ _ (offers.zfs _ listed).1
    exact name_ne_append _ _ (by decide) eq.symm
  zfsHeaders := by
    intro listed
    have eq := companionsFor_zfs _ _ (offers.zfs _ listed).1
    exact headers_ne_append _ _ _ offers.name (by decide) eq.symm

theorem expansion_spec (hardware : HardwareProfile) (kernel : DiscoveredKernel) :
    ∃ choice, ModuleChoice hardware kernel choice ∧
      expansion hardware kernel = zfsActions hardware kernel ++ choice.toList ++
        [⟨kernel.name, .selectedKernel⟩, ⟨kernel.headers, .requiredHeaders⟩] := by
  obtain ⟨choice, sound, expanded⟩ := TransactionPlan.expandInstall_spec kernel hardware
  exact ⟨choice, sound, by simp [expansion, expanded]⟩

theorem mem_zfsActions (hardware : HardwareProfile) (kernel : DiscoveredKernel)
    (action : PackageAction) (member : action ∈ zfsActions hardware kernel) :
    kernel.companions.zfs = some action.package ∧ hardware.rootOnZfs = true := by
  unfold zfsActions at member
  split at member
  · rename_i onZfs
    obtain ⟨module, listed, rfl⟩ := List.mem_map.mp member
    exact ⟨by simpa using listed, onZfs⟩
  · cases member

theorem expansion_has (db : SyncDb) (hardware : HardwareProfile) (kernel : DiscoveredKernel)
    (offers : db.Offers kernel) (action : PackageAction)
    (member : action ∈ expansion hardware kernel) : db.Has action.package := by
  obtain ⟨choice, sound, eq⟩ := expansion_spec hardware kernel
  simp only [eq, List.mem_append, List.mem_cons, List.not_mem_nil, or_false,
    Option.mem_toList] at member
  rcases member with (zfs | driver) | rfl | rfl
  · exact (offers.zfs _ (mem_zfsActions hardware kernel action zfs).1).2
  · rcases sound.companion action driver with nvidia | nvidiaOpen
    · exact (offers.nvidia _ nvidia).2
    · exact (offers.nvidiaOpen _ nvidiaOpen).2
  · exact offers.hasName
  · exact offers.hasHeaders

def driverCount (hardware : HardwareProfile) (kernel : DiscoveredKernel) : Nat :=
  (expansion hardware kernel).countP (kernel.isDriver ·.package)

theorem driverCount_eq (db : SyncDb) (hardware : HardwareProfile) (kernel : DiscoveredKernel)
    (offers : db.Offers kernel) :
    ∃ choice, ModuleChoice hardware kernel choice ∧
      driverCount hardware kernel = choice.toList.countP (kernel.isDriver ·.package) := by
  obtain ⟨choice, sound, eq⟩ := expansion_spec hardware kernel
  have apart := offers_companionsApart db kernel offers
  have zfsNone : (zfsActions hardware kernel).countP (kernel.isDriver ·.package) = 0 := by
    rw [List.countP_eq_zero]
    intro action member
    simp [apart.driverZfs _ (mem_zfsActions hardware kernel action member).1]
  refine ⟨choice, sound, ?_⟩
  simp [driverCount, eq, zfsNone, apart.driverName, apart.driverHeaders]

theorem driverCount_le (db : SyncDb) (hardware : HardwareProfile) (kernel : DiscoveredKernel)
    (offers : db.Offers kernel) : driverCount hardware kernel ≤ 1 := by
  obtain ⟨choice, _, eq⟩ := driverCount_eq db hardware kernel offers
  rw [eq]
  exact Nat.le_trans List.countP_le_length (by cases choice <;> simp)

theorem driverCount_dkms (db : SyncDb) (hardware : HardwareProfile) (kernel : DiscoveredKernel)
    (offers : db.Offers kernel) (dkms : DkmsInstalled hardware) :
    driverCount hardware kernel = 0 := by
  obtain ⟨choice, sound, eq⟩ := driverCount_eq db hardware kernel offers
  rw [eq, sound.withoutDkms dkms]
  rfl

theorem expansion_zfs (db : SyncDb) (hardware : HardwareProfile) (kernel : DiscoveredKernel)
    (offers : db.Offers kernel) (action : PackageAction)
    (member : action ∈ expansion hardware kernel)
    (module : kernel.companions.zfs = some action.package ∨
      action.reason = .zfsRootCompanion) : hardware.rootOnZfs = true := by
  obtain ⟨choice, sound, eq⟩ := expansion_spec hardware kernel
  have apart := offers_companionsApart db kernel offers
  simp only [eq, List.mem_append, List.mem_cons, List.not_mem_nil, or_false,
    Option.mem_toList] at member
  rcases member with (zfs | driver) | rfl | rfl
  · exact (mem_zfsActions hardware kernel action zfs).2
  · rcases module with listed | reason
    · have isDriver : kernel.isDriver action.package = true := by
        simpa [DiscoveredKernel.isDriver] using sound.companion action driver
      rw [apart.driverZfs _ listed] at isDriver
      cases isDriver
    · exact absurd reason (sound.reason action driver)
  · exact module.elim (absurd · apart.zfsName) (by simp)
  · exact module.elim (absurd · apart.zfsHeaders) (by simp)

structure SoundExpansion (dbs : List SyncDb) (hardware : HardwareProfile)
    (kernel : DiscoveredKernel) : Prop where
  available : ∃ db ∈ dbs, db.name = kernel.repo ∧
    ∀ action ∈ expansion hardware kernel, db.Has action.package
  oneDriver : driverCount hardware kernel ≤ 1
  dkms : DkmsInstalled hardware → driverCount hardware kernel = 0
  zfs : ∀ action ∈ expansion hardware kernel,
    (kernel.companions.zfs = some action.package ∨ action.reason = .zfsRootCompanion) →
      hardware.rootOnZfs = true

theorem discovered_soundExpansion (dbs : List SyncDb) (hardware : HardwareProfile)
    (kernel : DiscoveredKernel) (member : kernel ∈ discoverKernels dbs) :
    SoundExpansion dbs hardware kernel := by
  obtain ⟨db, listed, offers⟩ := discoverKernels_offers dbs kernel member
  exact
    { available := ⟨db, listed, offers.repo.symm, expansion_has db hardware kernel offers⟩
      oneDriver := driverCount_le db hardware kernel offers
      dkms := driverCount_dkms db hardware kernel offers
      zfs := expansion_zfs db hardware kernel offers }

/-- A plan over discovered kernels always exists, installs only packages of the database
that offered the kernel they belong to, and otherwise removes only what is installed. -/
theorem fromSelection_available (dbs : List SyncDb) (selection : SelectionState)
    (hardware : HardwareProfile) :
    ∃ plan, TransactionPlan.fromSelection selection hardware
        (kernelsByRaw (discoverKernels dbs)) = some plan ∧
      (∀ action ∈ plan.install, ∃ raw ∈ selection.installSet, ∃ kernel,
        kernelsByRaw (discoverKernels dbs) raw = some kernel ∧
          action ∈ expansion hardware kernel) ∧
      (∀ raw ∈ selection.installSet, ∀ kernel,
        kernelsByRaw (discoverKernels dbs) raw = some kernel →
          SoundExpansion dbs hardware kernel) ∧
      (∀ action ∈ plan.remove, action.package ∈ hardware.installed ∨
        ∃ raw ∈ selection.removalSet, ∃ kernel,
          kernelsByRaw (discoverKernels dbs) raw = some kernel ∧
            action.package = kernel.name) := by
  refine ⟨_, TransactionPlan.fromSelection_eq selection hardware _, ?_, ?_, ?_⟩
  · intro action member
    simp only [List.mem_flatMap, List.mem_filter, List.mem_filterMap] at member
    obtain ⟨kernel, ⟨⟨raw, selected, found⟩, _⟩, expanded⟩ := member
    exact ⟨raw, selected, kernel, found, expanded⟩
  · intro raw _ kernel found
    exact discovered_soundExpansion dbs hardware kernel (kernelsByRaw_mem _ raw kernel found)
  · intro action member
    simp only [List.mem_flatMap, List.mem_filterMap] at member
    obtain ⟨kernel, ⟨raw, selected, found⟩, removed⟩ := member
    rcases removal_package hardware kernel action removed with named | installed
    · exact Or.inr ⟨raw, selected, kernel, found, named⟩
    · exact Or.inl installed

end KernelManager
