import KernelManager.Library.Keyed
import KernelManager.Plan.Transaction

/-! The command line planner: its own discovery, rows, toggles and expansions. -/

namespace KernelManager

structure LocalPkg where
  name : String
  version : String
  installedDb : Option String
  deriving DecidableEq, Repr

structure Alpm where
  syncDbs : List SyncDb
  localPackages : List LocalPkg
  vercmp : String → String → Ordering

namespace Alpm

def syncDbNames (alpm : Alpm) : List String := alpm.syncDbs.map (·.name)

def dbByName (alpm : Alpm) (dbName : String) : Option SyncDb :=
  alpm.syncDbs.find? (·.name = dbName)

def dbPackages (alpm : Alpm) (dbName : String) : List DbPackage :=
  match alpm.dbByName dbName with
  | some db => db.packages
  | none => []

def dbGetPkg (alpm : Alpm) (dbName pkgName : String) : Option DbPackage :=
  match alpm.dbByName dbName with
  | some db => db.byName pkgName
  | none => none

def localPkg (alpm : Alpm) (pkgName : String) : Option LocalPkg :=
  alpm.localPackages.find? (·.name = pkgName)

end Alpm

namespace Cli

def discoverPackage (alpm : Alpm) (dbName : String) (pkg : DbPackage) :
    Option DiscoveredKernel :=
  if ¬matchesHeadersNeedle pkg.name ∨ contains pkg.name "linux-api-headers" then none
  else
    let kernelName := kernelHeadersName pkg.name
    match alpm.dbGetPkg dbName kernelName with
    | none => none
    | some kernelPkg =>
        let names := companionsFor kernelName
        some
          { repo := dbName
            name := kernelName
            headers := pkg.name
            version := kernelPkg.version
            companions :=
              { zfs := names.zfs.filter fun name => (alpm.dbGetPkg dbName name).isSome
                nvidia := names.nvidia.filter fun name => (alpm.dbGetPkg dbName name).isSome
                nvidiaOpen :=
                  names.nvidiaOpen.filter fun name => (alpm.dbGetPkg dbName name).isSome }
            raw := dbName ++ "/" ++ kernelName }

def discover (alpm : Alpm) : List DiscoveredKernel :=
  alpm.syncDbNames.flatMap fun dbName =>
    (alpm.dbPackages dbName).filterMap (discoverPackage alpm dbName)

def row (alpm : Alpm) (kernel : DiscoveredKernel) : KernelRow :=
  let found := alpm.localPkg kernel.name
  let update :=
    if kernel.repo = "aur" then false
    else
      let display := match found with
        | some pkg => DisplayVersion.compute (some pkg.version) kernel.version alpm.vercmp
        | none => DisplayVersion.compute none kernel.version fun _ _ => .eq
      display.update
  let immutable := match found with
    | some pkg =>
        match pkg.installedDb with
        | none => true
        | some db => decide (db = kernel.repo)
    | none => false
  { raw := kernel.raw
    name := kernel.name
    installed := found.isSome
    immutable := immutable
    updateAvailable := update
    checked := found.isSome && immutable }

/-- The result is `none` where the tool exits because no row carries `raw`. -/
def toggle (selection : SelectionState) (raw : String) : Option SelectionState :=
  (selection.rows.findIdx? (·.raw = raw)).map (toggleRow selection)

structure Actions where
  install : List PackageAction := []
  remove : List PackageAction := []
  aurPlan : TransactionPlan := {}
  deriving DecidableEq, Repr

def installKernel (hardware : HardwareProfile) (byRaw : KernelsByRaw) (actions : Actions)
    (raw : String) : Option Actions :=
  match byRaw raw with
  | none => some actions
  | some kernel =>
      if kernel.repo = "aur" then
        some { actions with aurPlan := actions.aurPlan.expandAurInstall kernel.name }
      else do
        let one ← TransactionPlan.expandInstall {} kernel hardware
        return { actions with install := actions.install ++ one.install }

def removeKernel (hardware : HardwareProfile) (byRaw : KernelsByRaw) (actions : Actions)
    (raw : String) : Actions :=
  match byRaw raw with
  | none => actions
  | some kernel =>
      -- A removal is expanded without the probes, over the installed set alone.
      let one := TransactionPlan.expandRemove {} kernel { installed := hardware.installed }
      { actions with remove := actions.remove ++ one.remove }

def expand (selection : SelectionState) (hardware : HardwareProfile) (byRaw : KernelsByRaw)
    (aurFlag : Bool) : Option TransactionPlan := do
  let actions ← selection.installSet.foldlM (installKernel hardware byRaw) {}
  let actions := selection.removalSet.foldl (removeKernel hardware byRaw) actions
  return {
    install := actions.install
    remove := actions.remove
    aurInstall := actions.aurPlan.aurInstall
    aurEnabled := aurFlag
    warnings := [] }

/-- What the tool plans for `selects` on a machine whose probes and local database give
`hardware`, with the AUR kernels that its AUR discovery finds. -/
def plan (alpm : Alpm) (hardware : HardwareProfile) (aurFlag : Bool)
    (aurKernels : List DiscoveredKernel) (selects : List String) : Option TransactionPlan := do
  let kernels := discover alpm ++ if aurFlag then aurKernels else []
  let selection ← selects.foldlM toggle { rows := kernels.map (row alpm) }
  expand selection hardware (kernelsByRaw kernels) aurFlag

theorem dbByName_self (alpm : Alpm) (distinct : (alpm.syncDbs.map (·.name)).Nodup)
    (db : SyncDb) (member : db ∈ alpm.syncDbs) : alpm.dbByName db.name = some db :=
  Keyed.find?_key alpm.syncDbs SyncDb.name distinct db member

theorem discoverPackage_eq (alpm : Alpm) (db : SyncDb)
    (located : alpm.dbByName db.name = some db) (pkg : DbPackage) :
    discoverPackage alpm db.name pkg = db.discover pkg := by
  have lookup : ∀ name, alpm.dbGetPkg db.name name = db.byName name := by
    intro name
    rw [Alpm.dbGetPkg, located]
  simp only [discoverPackage, lookup]
  rfl

theorem discover_eq (alpm : Alpm) (distinct : (alpm.syncDbs.map (·.name)).Nodup) :
    discover alpm = discoverKernels alpm.syncDbs := by
  rw [discover, Alpm.syncDbNames, List.flatMap_map, discoverKernels]
  apply List.flatMap_congr
  intro db member
  have located := dbByName_self alpm distinct db member
  rw [Alpm.dbPackages, located]
  exact List.filterMap_congr fun pkg _ => discoverPackage_eq alpm db located pkg

theorem installKernel_foldlM (hardware : HardwareProfile) (byRaw : KernelsByRaw)
    (raws : List String) (actions : Actions) :
    raws.foldlM (installKernel hardware byRaw) actions =
      some { actions with
        install := actions.install ++
          ((raws.filterMap byRaw).filter (·.repo ≠ "aur")).flatMap (expansion hardware)
        aurPlan := { actions.aurPlan with
          aurInstall := actions.aurPlan.aurInstall ++
            ((raws.filterMap byRaw).filter (·.repo = "aur")).map (·.name) } } := by
  induction raws generalizing actions with
  | nil => simp
  | cons raw raws ih =>
      rw [List.foldlM_cons]
      cases found : byRaw raw with
      | none => simp [installKernel, found, ih]
      | some kernel =>
          by_cases aur : kernel.repo = "aur"
          · simp [installKernel, found, aur, ih, TransactionPlan.expandAurInstall]
          · simp [installKernel, found, aur, ih, TransactionPlan.expandInstall_eq]

theorem removal_installed (hardware : HardwareProfile) (kernel : DiscoveredKernel) :
    removal { installed := hardware.installed } kernel = removal hardware kernel := rfl

theorem removeKernel_foldl (hardware : HardwareProfile) (byRaw : KernelsByRaw)
    (raws : List String) (actions : Actions) :
    raws.foldl (removeKernel hardware byRaw) actions =
      { actions with
        remove := actions.remove ++ (raws.filterMap byRaw).flatMap (removal hardware) } := by
  induction raws generalizing actions with
  | nil => simp
  | cons raw raws ih =>
      rw [List.foldl_cons, ih]
      cases found : byRaw raw with
      | none => simp [removeKernel, found]
      | some kernel =>
          simp [removeKernel, found, TransactionPlan.expandRemove_eq, removal_installed]

/-- Expanding each kernel into a plan of its own and joining the plans gives the plan that is
grown kernel by kernel. -/
theorem expand_eq_fromSelection (selection : SelectionState) (hardware : HardwareProfile)
    (byRaw : KernelsByRaw) (aurFlag : Bool) :
    expand selection hardware byRaw aurFlag =
      (TransactionPlan.fromSelection selection hardware byRaw).map
        ({ · with aurEnabled := aurFlag }) := by
  simp [expand, installKernel_foldlM, removeKernel_foldl, TransactionPlan.fromSelection_eq]

end Cli

end KernelManager
