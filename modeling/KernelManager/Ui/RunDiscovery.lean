import KernelManager.Alpm.PacmanConf
import KernelManager.Library.Keyed
import KernelManager.Plan.Availability
import KernelManager.Ui.CatalogView
import KernelManager.Ui.PlannerEquivalence
import KernelManager.Ui.ProbeCapture
import Mathlib.Data.List.Perm.Basic

/-!
The discovery task over libalpm: the databases that `pacman.conf` registers, the packages that a
search brings to their front, and the catalog that is made of them.
-/

namespace KernelManager

/-- What a handle of libalpm answers; a search is for `linux[^ ]*-headers`. -/
structure AlpmHandle where
  registers : String → Bool
  dbPackages : String → List DbPackage
  dbSearch : String → List DbPackage
  localPackages : List LocalPkg
  vercmp : String → String → Ordering

namespace AlpmHandle

/-- The needle's matches in the order of the search, then the other packages of the cache. -/
def syncDb (handle : AlpmHandle) (name : String) : SyncDb :=
  let matched := handle.dbSearch name
  { name
    packages := matched ++
      (handle.dbPackages name).filter fun pkg => pkg.name ∉ matched.map (·.name) }

def cachedDb (handle : AlpmHandle) (name : String) : SyncDb where
  name := name
  packages := handle.dbPackages name

def syncdbNames (handle : AlpmHandle) (sections : List String) : List String :=
  sections.filter handle.registers

def alpm (handle : AlpmHandle) (names : List String) : Alpm where
  syncDbs := names.map handle.syncDb
  localPackages := handle.localPackages
  vercmp := handle.vercmp

def hardwareProfile (handle : AlpmHandle) (probe : ProbeCommand → String) : HardwareProfile where
  rootOnZfs := trim (probe .findmnt) = "zfs"
  chwdNvidia := (lines (probe .chwd)).any (startsWith · "nvidia-dkms")
  chwdNvidiaOpen := (lines (probe .chwd)).any (startsWith · "nvidia-open-dkms")
  installed := handle.localPackages.map (·.name)
  nvidiaModulesInstalled := trim (probe .nvidia) ≠ ""
  nvidiaOpenModulesInstalled := trim (probe .nvidiaOpen) ≠ ""

end AlpmHandle

/-- `run_discovery`; the outer option is empty if the reader of `pacman.conf` panics. -/
def runDiscovery (initialized : Except String AlpmHandle) (probe : ProbeCommand → String)
    (content : String) : Option (Except String CatalogPayload) :=
  (MiniIni.parse content).map fun ini =>
    initialized.map fun handle =>
      let names := handle.syncdbNames (registerSections ini)
      { discoverFrom (handle.alpm names) with hardware := handle.hardwareProfile probe }

namespace AlpmHandle

/-- What libalpm documents: a database lists each package name once; a search lists packages of
the database, each once, and with the ones whose names match, unless it fails and lists none.
Names have no slash. -/
structure Documented (handle : AlpmHandle) : Prop where
  cached : ∀ db, ((handle.dbPackages db).map (·.name)).Nodup
  slashless : ∀ db, ∀ pkg ∈ handle.dbPackages db, '/' ∉ pkg.name.toList
  once : ∀ db, (handle.dbSearch db).Nodup
  listed : ∀ db, ∀ pkg ∈ handle.dbSearch db, pkg ∈ handle.dbPackages db
  finds : ∀ db, handle.dbSearch db = [] ∨ ∀ pkg ∈ handle.dbPackages db,
    matchesHeadersNeedle pkg.name = true → pkg ∈ handle.dbSearch db

variable {handle : AlpmHandle}

theorem syncDb_perm (documented : handle.Documented) (name : String) :
    (handle.syncDb name).packages.Perm (handle.cachedDb name).packages :=
  Keyed.front_perm (handle.dbPackages name) (·.name) (handle.dbSearch name)
    (documented.once name) (documented.cached name) (documented.listed name)

theorem syncDb_discover (documented : handle.Documented) (name : String) :
    (handle.syncDb name).discover = (handle.cachedDb name).discover := by
  have distinct : ((handle.syncDb name).packages.map (·.name)).Nodup :=
    ((syncDb_perm documented name).map _).nodup_iff.mpr (documented.cached name)
  have lookups : (handle.syncDb name).byName = (handle.cachedDb name).byName :=
    funext fun value => Keyed.find?_perm _ _ (syncDb_perm documented name) distinct value
  have present (names : CompanionNames) :
      names.present (handle.syncDb name) = names.present (handle.cachedDb name) := by
    simp only [CompanionNames.present, lookups]
  funext pkg
  simp only [SyncDb.discover, lookups, present]
  rfl

def listing (handle : AlpmHandle) (name : String) : List DbPackage :=
  if handle.dbSearch name = [] then handle.dbPackages name else handle.dbSearch name

theorem discover_listing (documented : handle.Documented) (name : String) :
    (handle.syncDb name).packages.filterMap (handle.syncDb name).discover =
      (handle.listing name).filterMap (handle.cachedDb name).discover := by
  rw [syncDb_discover documented]
  unfold listing
  split
  · rename_i nothing
    have all : (handle.syncDb name).packages = handle.dbPackages name := by
      simp [syncDb, nothing]
    rw [all]
  · rename_i something
    have finds := (documented.finds name).resolve_left something
    have rest : ((handle.dbPackages name).filter fun pkg =>
        pkg.name ∉ (handle.dbSearch name).map (·.name)).filterMap
          (handle.cachedDb name).discover = [] := by
      refine List.filterMap_eq_nil_iff.mpr fun pkg member => ?_
      obtain ⟨listed, apart⟩ := List.mem_filter.mp member
      have unmatched : matchesHeadersNeedle pkg.name = false := by
        by_contra matched
        have found := finds pkg listed (by simpa using matched)
        simp only [decide_not, Bool.not_eq_true', decide_eq_false_iff_not] at apart
        exact apart (List.mem_map_of_mem found)
      simp [SyncDb.discover, unmatched]
    rw [syncDb, List.filterMap_append, rest, List.append_nil]

theorem listing_subset (documented : handle.Documented) (name : String) (pkg : DbPackage)
    (member : pkg ∈ handle.listing name) : pkg ∈ handle.dbPackages name := by
  unfold listing at member
  split at member
  · exact member
  · exact documented.listed name pkg member

theorem listing_perm (documented : handle.Documented) (name : String) :
    ((handle.listing name).filterMap (handle.cachedDb name).discover).Perm
      ((handle.cachedDb name).packages.filterMap (handle.cachedDb name).discover) := by
  rw [← discover_listing documented, syncDb_discover documented]
  exact (syncDb_perm documented name).filterMap _

def listed (handle : AlpmHandle) (names : List String) : List DiscoveredKernel :=
  names.flatMap fun name => (handle.listing name).filterMap (handle.cachedDb name).discover

theorem listed_eq (documented : handle.Documented) (names : List String) :
    discoverKernels (names.map handle.syncDb) = handle.listed names := by
  rw [discoverKernels, List.flatMap_map, listed]
  exact List.flatMap_congr fun name _ => discover_listing documented name

theorem listed_offers (documented : handle.Documented) (name : String)
    (kernel : DiscoveredKernel)
    (member : kernel ∈ (handle.listing name).filterMap (handle.cachedDb name).discover) :
    (handle.cachedDb name).Offers kernel := by
  obtain ⟨pkg, inListing, found⟩ := List.mem_filterMap.mp member
  exact discover_offers _ pkg kernel (listing_subset documented name pkg inListing) found

/-- Kernels of one database are told apart by their names, those of two by the databases. -/
theorem listed_raws (documented : handle.Documented) (names : List String)
    (distinct : names.Nodup) :
    ((handle.listed names).map (·.raw)).Nodup ↔
      ∀ name ∈ names,
        (((handle.listing name).filterMap (handle.cachedDb name).discover).map (·.name)).Nodup := by
  have raws (name : String) :
      ((handle.listing name).filterMap (handle.cachedDb name).discover).map (·.raw) =
        (((handle.listing name).filterMap (handle.cachedDb name).discover).map (·.name)).map
          (name ++ "/" ++ ·) := by
    rw [List.map_map]
    exact List.map_congr_left fun kernel member => (listed_offers documented name kernel member).raw
  have injective (name : String) : Function.Injective (name ++ "/" ++ ·) := by
    intro left right same
    simpa [← String.toList_inj] using same
  have apart : names.Pairwise (Function.onFun List.Disjoint fun name =>
      ((handle.listing name).filterMap (handle.cachedDb name).discover).map (·.raw)) := by
    refine distinct.imp ?_
    intro left right different raw inLeft inRight
    obtain ⟨first, firstIn, rfl⟩ := List.mem_map.mp inLeft
    obtain ⟨second, secondIn, same⟩ := List.mem_map.mp inRight
    have firstOffered := listed_offers documented left first firstIn
    have secondOffered := listed_offers documented right second secondIn
    obtain ⟨firstPkg, firstListed, firstNamed⟩ := firstOffered.hasName
    obtain ⟨secondPkg, secondListed, secondNamed⟩ := secondOffered.hasName
    have firstPlain := documented.slashless left firstPkg firstListed
    have secondPlain := documented.slashless right secondPkg secondListed
    rw [firstNamed] at firstPlain
    rw [secondNamed] at secondPlain
    have texts := congrArg String.toList same
    rw [firstOffered.raw, secondOffered.raw] at texts
    simp only [String.toList_append, List.append_assoc] at texts
    have fronts := (split_last_eq secondPlain firstPlain texts).1
    exact different (String.toList_inj.mp fronts).symm
  rw [listed, List.map_flatMap, List.nodup_flatMap]
  refine (and_iff_left apart).trans (forall₂_congr fun name _ => ?_)
  rw [raws, List.nodup_map_iff (injective name)]

end AlpmHandle

theorem registerSections_nodup (content : String) (ini : MiniIni)
    (parsed : MiniIni.parse content = some ini) : (registerSections ini).Nodup := by
  obtain ⟨_, other, _, same, represents, _⟩ := parse_represents content
  obtain rfl := Option.some.inj (same.symm.trans parsed)
  exact represents.names.distinct.filter _

/-- Where libalpm is as documented, the discovery over any `pacman.conf` lists the kernels of the
registered databases by section and by search, each as its database has it and none left out or
added, and marks them by what the local database has under their names. -/
theorem runDiscovery_rows (handle : AlpmHandle) (documented : handle.Documented)
    (probe : ProbeCommand → String) (content : String) :
    ∃ ini payload, MiniIni.parse content = some ini ∧
      runDiscovery (.ok handle) probe content = some (.ok payload) ∧
      let names := handle.syncdbNames (registerSections ini)
      let kernels := handle.listed names
      payload.rows = rows kernels payload.installed handle.vercmp ∧
        kernels.Perm (discoverKernels (names.map handle.cachedDb)) ∧
        ∀ kernel ∈ kernels,
          payload.installed kernel.name = (handle.alpm names).provenance kernel.name := by
  obtain ⟨_, ini, _, parsed, _⟩ := parse_represents content
  refine ⟨ini, _, parsed, by rw [runDiscovery, parsed]; rfl, ?_⟩
  intro names kernels
  have found : discoverKernels (names.map handle.syncDb) = kernels :=
    AlpmHandle.listed_eq documented names
  refine ⟨?_, ?_, ?_⟩
  · exact congrArg (rows · ((handle.alpm names).installed (discoverKernels
      (names.map handle.syncDb))) handle.vercmp) found
  · rw [discoverKernels, List.flatMap_map]
    exact List.Perm.flatMap_left _ fun name _ => AlpmHandle.listing_perm documented name
  · intro kernel member
    refine (congrArg (fun kernels => (handle.alpm names).installed kernels kernel.name)
      found).trans ?_
    exact installed_eq (handle.alpm names) kernels kernel member

namespace Sample

/-- One repository, whose search lists the packages against their order in the cache. -/
def searched : AlpmHandle where
  registers _ := true
  dbPackages db :=
    if db = "cachyos" then
      [⟨"linux-cachyos", "6.14"⟩, ⟨"linux-cachyos-headers", "6.14"⟩, ⟨"linux-cachyos-lts", "6.12"⟩,
        ⟨"linux-cachyos-lts-headers", "6.12"⟩]
    else []
  dbSearch db :=
    if db = "cachyos" then
      [⟨"linux-cachyos-lts-headers", "6.12"⟩, ⟨"linux-cachyos-headers", "6.14"⟩]
    else []
  localPackages := [⟨"linux-cachyos", "6.13", some "cachyos"⟩]
  vercmp left right := compare left right

def pacmanConf : String := "[options]\n[cachyos]\nServer = s\n"

end Sample

theorem searched_documented : Sample.searched.Documented where
  cached db := by
    by_cases here : db = "cachyos" <;> simp [Sample.searched, here]
  slashless db := by
    by_cases here : db = "cachyos"
    · simp only [Sample.searched, here, if_true]
      decide
    · simp [Sample.searched, here]
  once db := by
    by_cases here : db = "cachyos" <;> simp [Sample.searched, here]
  listed db := by
    by_cases here : db = "cachyos" <;> simp [Sample.searched, here]
  finds db := by
    by_cases here : db = "cachyos"
    · right
      simp only [Sample.searched, here, if_true]
      decide +kernel
    · left
      simp [Sample.searched, here]

theorem runDiscovery_rows_searched :
    ∃ payload, runDiscovery (.ok Sample.searched) (fun _ => "") Sample.pacmanConf =
        some (.ok payload) ∧
      payload.rows.map (fun row => (row.raw, row.checked)) =
        [("cachyos/linux-cachyos-lts", false), ("cachyos/linux-cachyos", true)] := by
  obtain ⟨_, payload, _, ran, _⟩ :=
    runDiscovery_rows Sample.searched searched_documented (fun _ => "") Sample.pacmanConf
  have shown : (runDiscovery (.ok Sample.searched) (fun _ => "") Sample.pacmanConf).map
      (fun result => result.toOption.map fun payload =>
        payload.rows.map fun row => (row.raw, row.checked)) =
      some (some [("cachyos/linux-cachyos-lts", false), ("cachyos/linux-cachyos", true)]) := by
    decide +kernel
  rw [ran] at shown
  exact ⟨payload, ran, by simpa [Except.toOption] using shown⟩

/-- The catalog has a kernel for every row, and no row twice exactly if no database has two
packages of headers for one kernel. -/
theorem runDiscovery_catalog (handle : AlpmHandle) (documented : handle.Documented)
    (probe : ProbeCommand → String) (content : String) (app : App) :
    ∃ ini payload, MiniIni.parse content = some ini ∧
      runDiscovery (.ok handle) probe content = some (.ok payload) ∧
      let names := handle.syncdbNames (registerSections ini)
      (∀ row ∈ payload.rows, ∃ kernel ∈ handle.listed names,
          payload.kernels row.raw = some kernel ∧ kernel.raw = row.raw) ∧
        (DistinctCatalog app (.catalogLoaded payload) ↔
          ∀ name ∈ names,
            (((handle.listing name).filterMap (handle.cachedDb name).discover).map
              (·.name)).Nodup) := by
  obtain ⟨_, ini, _, parsed, _⟩ := parse_represents content
  refine ⟨ini, _, parsed, by rw [runDiscovery, parsed]; rfl, ?_⟩
  intro names
  have found : discoverKernels (names.map handle.syncDb) = handle.listed names :=
    AlpmHandle.listed_eq documented names
  have raws : (rows (discoverKernels (names.map handle.syncDb))
      ((handle.alpm names).installed (discoverKernels (names.map handle.syncDb)))
      handle.vercmp).map (·.raw) =
        (handle.listed names).map (·.raw) := by
    rw [found, rows, List.map_map]
    exact List.map_congr_left fun kernel _ => rfl
  refine ⟨?_, ?_⟩
  · intro row member
    have named : row.raw ∈ (handle.listed names).map (·.raw) := raws ▸ List.mem_map_of_mem member
    obtain ⟨kernel, listed, same⟩ := List.mem_map.mp named
    have indexed : (kernelsByRaw (handle.listed names) row.raw).isSome = true := by
      simp only [kernelsByRaw, List.find?_isSome, List.mem_reverse, decide_eq_true_eq]
      exact ⟨kernel, listed, same⟩
    obtain ⟨entry, looked⟩ := Option.isSome_iff_exists.mp indexed
    refine ⟨entry, kernelsByRaw_mem _ _ _ looked, ?_, by simpa using List.find?_some looked⟩
    exact (congrArg (kernelsByRaw · row.raw) found).trans looked
  · refine (iff_of_eq (congrArg List.Nodup raws)).trans ?_
    refine AlpmHandle.listed_raws documented names ?_
    exact (registerSections_nodup content ini parsed).filter _

theorem runDiscovery_catalog_searched :
    ∃ payload, runDiscovery (.ok Sample.searched) (fun _ => "") Sample.pacmanConf =
        some (.ok payload) ∧
      ∀ row ∈ payload.rows, ∃ kernel, payload.kernels row.raw = some kernel ∧
        kernel.raw = row.raw := by
  obtain ⟨_, payload, _, ran, indexed, _⟩ :=
    runDiscovery_catalog Sample.searched searched_documented (fun _ => "") Sample.pacmanConf
      Sample.app
  refine ⟨payload, ran, fun row member => ?_⟩
  obtain ⟨kernel, _, looked⟩ := indexed row member
  exact ⟨kernel, looked⟩

end KernelManager
