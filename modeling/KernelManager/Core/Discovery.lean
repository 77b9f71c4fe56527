import KernelManager.Core.Kernel

/-! Discovery of kernels and their companion modules in the sync databases. -/

namespace KernelManager

structure DbPackage where
  name : String
  version : String
  deriving DecidableEq, Repr

structure SyncDb where
  name : String
  packages : List DbPackage
  deriving DecidableEq, Repr

structure CompanionNames where
  zfs : Option String := none
  nvidia : Option String := none
  nvidiaOpen : Option String := none
  deriving DecidableEq, Repr

def companionsFor (kernelName : String) : CompanionNames :=
  if startsWith kernelName "linux-cachyos" then
    { zfs := some (kernelName ++ "-zfs")
      nvidia := some (kernelName ++ "-nvidia")
      nvidiaOpen := some (kernelName ++ "-nvidia-open") }
  else if kernelName = "linux" ∨ kernelName = "linux-lts" then
    let stripped := replace kernelName "linux" ""
    { zfs := none
      nvidia := some ("nvidia" ++ stripped)
      nvidiaOpen := some ("nvidia-open" ++ stripped) }
  else {}

structure DiscoveredKernel where
  repo : String
  name : String
  headers : String
  version : String
  companions : CompanionNames
  raw : String
  deriving DecidableEq, Repr

def SyncDb.byName (db : SyncDb) (name : String) : Option DbPackage :=
  db.packages.find? (·.name = name)

def CompanionNames.present (names : CompanionNames) (db : SyncDb) : CompanionNames where
  zfs := names.zfs.filter fun name => (db.byName name).isSome
  nvidia := names.nvidia.filter fun name => (db.byName name).isSome
  nvidiaOpen := names.nvidiaOpen.filter fun name => (db.byName name).isSome

def SyncDb.discover (db : SyncDb) (pkg : DbPackage) : Option DiscoveredKernel :=
  if ¬matchesHeadersNeedle pkg.name ∨ isApiHeaders pkg.name then none
  else
    let kernelName := kernelHeadersName pkg.name
    match db.byName kernelName with
    | none => none
    | some kernelPkg =>
        some
          { repo := db.name
            name := kernelName
            headers := pkg.name
            version := kernelPkg.version
            companions := (companionsFor kernelName).present db
            raw := db.name ++ "/" ++ kernelName }

def discoverKernels (dbs : List SyncDb) : List DiscoveredKernel :=
  dbs.flatMap fun db => db.packages.filterMap db.discover

def SyncDb.Has (db : SyncDb) (name : String) : Prop :=
  ∃ pkg ∈ db.packages, pkg.name = name

theorem byName_isSome_iff (db : SyncDb) (name : String) :
    (db.byName name).isSome = true ↔ db.Has name := by
  simp [SyncDb.byName, SyncDb.Has]

structure SyncDb.Offers (db : SyncDb) (kernel : DiscoveredKernel) : Prop where
  repo : kernel.repo = db.name
  raw : kernel.raw = db.name ++ "/" ++ kernel.name
  needle : matchesHeadersNeedle kernel.headers = true
  name : kernel.name = kernelHeadersName kernel.headers
  hasHeaders : db.Has kernel.headers
  hasName : db.Has kernel.name
  zfs : ∀ module, kernel.companions.zfs = some module →
    (companionsFor kernel.name).zfs = some module ∧ db.Has module
  nvidia : ∀ module, kernel.companions.nvidia = some module →
    (companionsFor kernel.name).nvidia = some module ∧ db.Has module
  nvidiaOpen : ∀ module, kernel.companions.nvidiaOpen = some module →
    (companionsFor kernel.name).nvidiaOpen = some module ∧ db.Has module

theorem filter_byName_eq_some (db : SyncDb) (candidate : Option String) (module : String)
    (kept : candidate.filter (fun name => (db.byName name).isSome) = some module) :
    candidate = some module ∧ db.Has module := by
  obtain ⟨found, present⟩ := Option.filter_eq_some_iff.mp kept
  exact ⟨found, (byName_isSome_iff db module).mp present⟩

namespace CompanionNames

theorem present_zfs (names : CompanionNames) (db : SyncDb) (module : String)
    (kept : (names.present db).zfs = some module) : names.zfs = some module ∧ db.Has module :=
  filter_byName_eq_some db names.zfs module kept

theorem present_nvidia (names : CompanionNames) (db : SyncDb) (module : String)
    (kept : (names.present db).nvidia = some module) :
    names.nvidia = some module ∧ db.Has module :=
  filter_byName_eq_some db names.nvidia module kept

theorem present_nvidiaOpen (names : CompanionNames) (db : SyncDb) (module : String)
    (kept : (names.present db).nvidiaOpen = some module) :
    names.nvidiaOpen = some module ∧ db.Has module :=
  filter_byName_eq_some db names.nvidiaOpen module kept

end CompanionNames

theorem discover_offers (db : SyncDb) (pkg : DbPackage) (kernel : DiscoveredKernel)
    (member : pkg ∈ db.packages) (found : db.discover pkg = some kernel) :
    db.Offers kernel := by
  simp only [SyncDb.discover] at found
  split at found
  · cases found
  · rename_i accepted
    have needle : matchesHeadersNeedle pkg.name = true := by
      by_contra failed
      exact accepted (Or.inl (by simpa using failed))
    split at found
    · cases found
    · rename_i kernelPkg located
      cases found
      exact
        { repo := rfl
          raw := rfl
          needle := needle
          name := rfl
          hasHeaders := ⟨pkg, member, rfl⟩
          hasName := (byName_isSome_iff db _).mp (by simp [located])
          zfs := (companionsFor _).present_zfs db
          nvidia := (companionsFor _).present_nvidia db
          nvidiaOpen := (companionsFor _).present_nvidiaOpen db }

theorem discoverKernels_offers (dbs : List SyncDb) (kernel : DiscoveredKernel)
    (member : kernel ∈ discoverKernels dbs) : ∃ db ∈ dbs, db.Offers kernel := by
  simp only [discoverKernels, List.mem_flatMap, List.mem_filterMap] at member
  obtain ⟨db, dbMember, pkg, pkgMember, found⟩ := member
  exact ⟨db, dbMember, discover_offers db pkg kernel pkgMember found⟩

end KernelManager
