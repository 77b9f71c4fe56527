import KernelManager.Plan.Availability
import KernelManager.Plan.Cli
import KernelManager.Plan.Commands
import KernelManager.Plan.RawIdentity
import KernelManager.Ui.Sorting

/-! The command line planner and the application plan the same transaction. -/

namespace KernelManager

namespace Alpm

def installedDb (alpm : Alpm) (pkgName : String) : Option String :=
  (alpm.localPkg pkgName).bind (·.installedDb)

def installedEntries (alpm : Alpm) (kernels : List DiscoveredKernel) :
    List (String × Provenance) :=
  kernels.filterMap fun kernel =>
    (alpm.localPkg kernel.name).map fun pkg =>
      (pkg.name, (alpm.installedDb kernel.name, pkg.version))

def installed (alpm : Alpm) (kernels : List DiscoveredKernel) (name : String) :
    Option Provenance :=
  ((alpm.installedEntries kernels).reverse.find? (·.1 = name)).map (·.2)

def provenance (alpm : Alpm) (name : String) : Option Provenance :=
  (alpm.localPkg name).map fun pkg => (pkg.installedDb, pkg.version)

end Alpm

def discoverFrom (alpm : Alpm) : CatalogPayload :=
  let kernels := discoverKernels alpm.syncDbs
  let installed := alpm.installed kernels
  { rows := rows kernels installed alpm.vercmp
    kernels := kernelsByRaw kernels
    installed := installed
    hardware := { installed := alpm.syncDbs.flatMap fun db => db.packages.map (·.name) } }

namespace App

def toggled (app : App) (alpm : Alpm) (selects : List String) : App :=
  Machine.run (step alpm.vercmp) (step alpm.vercmp app (.catalogLoaded (discoverFrom alpm)))
    (selects.map fun raw => .semantic (.kernelToggled raw))

def transactionPlan (app : App) (hardware : HardwareProfile) : Option TransactionPlan :=
  (TransactionPlan.fromSelection app.state.selection hardware app.kernels).map
    ({ · with aurEnabled := app.flags.aurEnabled })

end App

theorem localPkg_name (alpm : Alpm) (name : String) (pkg : LocalPkg)
    (found : alpm.localPkg name = some pkg) : pkg.name = name := by
  simpa using List.find?_some found

theorem mem_installedEntries (alpm : Alpm) (kernels : List DiscoveredKernel) (name : String)
    (provenance : Provenance) :
    (name, provenance) ∈ alpm.installedEntries kernels ↔
      (∃ kernel ∈ kernels, kernel.name = name) ∧ alpm.provenance name = some provenance := by
  simp only [Alpm.installedEntries, List.mem_filterMap, Option.map_eq_some_iff, Prod.mk.injEq]
  constructor
  · rintro ⟨kernel, member, pkg, found, rfl, rfl⟩
    have named := localPkg_name alpm kernel.name pkg found
    refine ⟨⟨kernel, member, named.symm⟩, ?_⟩
    rw [named, Alpm.provenance, found, Alpm.installedDb, found]
    rfl
  · rintro ⟨⟨kernel, member, rfl⟩, known⟩
    obtain ⟨pkg, found, rfl⟩ := Option.map_eq_some_iff.mp known
    refine ⟨kernel, member, pkg, found, localPkg_name alpm kernel.name pkg found, ?_⟩
    rw [Alpm.installedDb, found]
    rfl

theorem installed_eq (alpm : Alpm) (kernels : List DiscoveredKernel) (kernel : DiscoveredKernel)
    (member : kernel ∈ kernels) :
    alpm.installed kernels kernel.name = alpm.provenance kernel.name := by
  rw [Alpm.installed]
  cases found : (alpm.installedEntries kernels).reverse.find? (·.1 = kernel.name) with
  | none =>
      symm
      rw [Option.map_none, Option.eq_none_iff_forall_ne_some]
      intro provenance known
      have listed : (kernel.name, provenance) ∈ alpm.installedEntries kernels :=
        (mem_installedEntries alpm kernels _ _).mpr ⟨⟨kernel, member, rfl⟩, known⟩
      have missing := List.find?_eq_none.mp found _ (List.mem_reverse.mpr listed)
      simp at missing
  | some entry =>
      obtain ⟨name, provenance⟩ := entry
      have named : name = kernel.name := by simpa using List.find?_some found
      have listed : (name, provenance) ∈ alpm.installedEntries kernels := by
        simpa using List.mem_of_find?_eq_some found
      have known := ((mem_installedEntries alpm kernels _ _).mp listed).2
      rw [← named, known]
      rfl

theorem rawName_pair (dbName pkgName : String) (dbPlain : '/' ∉ dbName.toList)
    (pkgPlain : '/' ∉ pkgName.toList) : App.rawName (dbName ++ "/" ++ pkgName) = pkgName := by
  have split : (dbName ++ "/" ++ pkgName).toList.splitOn '/' =
      [dbName.toList, pkgName.toList] := by
    simp only [String.toList_append, List.append_assoc]
    exact Scan.splitOn_pair '/' dbName.toList pkgName.toList dbPlain pkgPlain
  rw [App.rawName, split]
  exact String.ofList_toList

theorem discovered_rawName (dbs : List SyncDb)
    (plainDbs : ∀ db ∈ dbs, '/' ∉ db.name.toList)
    (plainPackages : ∀ db ∈ dbs, ∀ pkg ∈ db.packages, '/' ∉ pkg.name.toList)
    (kernel : DiscoveredKernel) (member : kernel ∈ discoverKernels dbs) :
    App.rawName kernel.raw = kernel.name := by
  obtain ⟨db, dbMember, offers⟩ := discoverKernels_offers dbs kernel member
  obtain ⟨pkg, pkgMember, named⟩ := offers.hasName
  rw [offers.raw]
  apply rawName_pair _ _ (plainDbs db dbMember)
  rw [← named]
  exact plainPackages db dbMember pkg pkgMember

theorem kernelRow_eq (alpm : Alpm) (kernels : List DiscoveredKernel) (kernel : DiscoveredKernel)
    (member : kernel ∈ kernels) (named : App.rawName kernel.raw = kernel.name) :
    App.kernelRow (alpm.installed kernels) (rowView (alpm.installed kernels) alpm.vercmp kernel) =
      Cli.row alpm kernel := by
  have known := installed_eq alpm kernels kernel member
  rw [Alpm.provenance] at known
  simp only [App.kernelRow, rowView, Cli.row, versionText, named, known]
  cases alpm.localPkg kernel.name with
  | none => by_cases aur : kernel.repo = "aur" <;> simp [aur]
  | some pkg =>
      obtain ⟨name, version, installedDb⟩ := pkg
      by_cases aur : kernel.repo = "aur" <;> cases installedDb <;> simp [aur]

theorem kernelToggled_selection (vercmp : String → String → Ordering) (app : App)
    (raw : String) (aligned : app.rows.map (·.raw) = app.state.selection.rows.map (·.raw))
    (present : raw ∈ app.state.selection.rows.map (·.raw)) :
    ∃ row, Cli.toggle app.state.selection raw = some (toggleRow app.state.selection row) ∧
      (step vercmp app (.semantic (.kernelToggled raw))).state.selection =
        toggleRow app.state.selection row := by
  obtain ⟨row, found⟩ : ∃ row, app.state.selection.rows.findIdx? (·.raw = raw) = some row := by
    apply Option.isSome_iff_exists.mp
    rw [List.findIdx?_isSome]
    simpa using present
  have shown : app.rows.findIdx? (·.raw = raw) = some row := by
    rw [Keyed.findIdx?_key _ KernelRowView.raw, aligned, ← Keyed.findIdx?_key _ KernelRow.raw,
      found]
  refine ⟨row, by rw [Cli.toggle, found, Option.map_some], ?_⟩
  simp only [step, update, Message.cancelsBuild, Bool.false_and, Bool.false_eq_true, ↓reduceIte,
    App.onSemantic, shown]
  rfl

theorem run_selection (vercmp : String → String → Ordering) (app : App) (selects : List String)
    (invariant : ToggleInvariant app)
    (present : ∀ raw ∈ selects, raw ∈ app.state.selection.rows.map (·.raw)) :
    selects.foldlM Cli.toggle app.state.selection =
      some (Machine.run (step vercmp) app
        (selects.map fun raw => .semantic (.kernelToggled raw))).state.selection := by
  induction selects generalizing app with
  | nil => rfl
  | cons raw selects ih =>
      obtain ⟨row, toggled, received⟩ := kernelToggled_selection vercmp app raw invariant.aligned
        (present raw List.mem_cons_self)
      have raws : (toggleRow app.state.selection row).rows.map (·.raw) =
          app.state.selection.rows.map (·.raw) :=
        Keyed.modify_keys app.state.selection.rows _ _ row fun _ => rfl
      rw [List.foldlM_cons, toggled, Option.bind_eq_bind, Option.bind_some, ← received]
      apply ih _ (toggleInvariant_step vercmp app raw invariant)
      intro later member
      rw [received, raws]
      exact present later (List.mem_cons_of_mem _ member)

theorem toggled_selection (alpm : Alpm) (app : App) (selects : List String)
    (plainDbs : ∀ db ∈ alpm.syncDbs, '/' ∉ db.name.toList)
    (plainPackages : ∀ db ∈ alpm.syncDbs, ∀ pkg ∈ db.packages, '/' ∉ pkg.name.toList)
    (present : ∀ raw ∈ selects, ∃ kernel ∈ discoverKernels alpm.syncDbs, kernel.raw = raw) :
    selects.foldlM Cli.toggle { rows := (discoverKernels alpm.syncDbs).map (Cli.row alpm) } =
      some (app.toggled alpm selects).state.selection := by
  have loaded := (catalogLoaded_rows alpm.vercmp app (discoverFrom alpm)).2
  have same : (discoverFrom alpm).rows.map (App.kernelRow (discoverFrom alpm).installed) =
      (discoverKernels alpm.syncDbs).map (Cli.row alpm) := by
    simp only [discoverFrom, rows, List.map_map]
    apply List.map_congr_left
    intro kernel member
    exact kernelRow_eq alpm _ kernel member
      (discovered_rawName alpm.syncDbs plainDbs plainPackages kernel member)
  have start : (step alpm.vercmp app (.catalogLoaded (discoverFrom alpm))).state.selection =
      { rows := (discoverKernels alpm.syncDbs).map (Cli.row alpm) } := by
    rw [← same, ← loaded]
  rw [← start]
  apply run_selection
  · exact loaded_toggleInvariant alpm.vercmp alpm.vercmp app _ _ _
  · intro raw member
    obtain ⟨kernel, listed, rfl⟩ := present raw member
    rw [start, List.map_map, List.mem_map]
    exact ⟨kernel, listed, rfl⟩

theorem toggled_context (alpm : Alpm) (app : App) (selects : List String) :
    (app.toggled alpm selects).kernels = kernelsByRaw (discoverKernels alpm.syncDbs) ∧
      (app.toggled alpm selects).flags = app.flags := by
  have session : app.toggled alpm selects =
      runTable alpm.vercmp (step alpm.vercmp app (.catalogLoaded (discoverFrom alpm)))
        (selects.map .kernelToggled) := by
    rw [App.toggled, runTable, List.map_map]
    rfl
  have kernels := catalogLoaded_field App.kernels (fun _ _ => rfl) alpm.vercmp app
    (discoverFrom alpm)
  have flags := catalogLoaded_field App.flags (fun _ _ => rfl) alpm.vercmp app (discoverFrom alpm)
  obtain ⟨laterKernels, _, laterFlags⟩ :=
    runTable_context alpm.vercmp (step alpm.vercmp app (.catalogLoaded (discoverFrom alpm)))
      (selects.map .kernelToggled)
  rw [session]
  exact ⟨laterKernels.trans kernels, laterFlags.trans flags⟩

theorem commitCommands_noAur (plan : TransactionPlan) (none : plan.aurInstall = [])
    (left right : Bool) :
    commitCommands { plan with aurEnabled := left } =
      commitCommands { plan with aurEnabled := right } := by
  cases left <;> cases right <;> simp [commitCommands, none]

theorem fromSelection_noAur (selection : SelectionState) (hardware : HardwareProfile)
    (kernels : List DiscoveredKernel) (noAur : ∀ kernel ∈ kernels, kernel.repo ≠ "aur")
    (plan : TransactionPlan)
    (planned : TransactionPlan.fromSelection selection hardware (kernelsByRaw kernels) =
      some plan) : plan.aurInstall = [] := by
  rw [TransactionPlan.fromSelection_eq, Option.some.injEq] at planned
  rw [← planned, List.map_eq_nil_iff, List.filter_eq_nil_iff]
  intro kernel selected
  obtain ⟨raw, _, found⟩ := List.mem_filterMap.mp selected
  simpa using noAur kernel (kernelsByRaw_mem kernels raw kernel found)

/-- The command line planner and the application install and remove the same packages; with the
same AUR setting, or without AUR kernels, they commit them with the same commands. -/
theorem cliPlan_eq_transactionPlan (alpm : Alpm) (hardware : HardwareProfile) (app : App)
    (aurFlag : Bool) (selects : List String)
    (distinct : (alpm.syncDbs.map (·.name)).Nodup)
    (plainDbs : ∀ db ∈ alpm.syncDbs, '/' ∉ db.name.toList)
    (plainPackages : ∀ db ∈ alpm.syncDbs, ∀ pkg ∈ db.packages, '/' ∉ pkg.name.toList)
    (present : ∀ raw ∈ selects, ∃ kernel ∈ discoverKernels alpm.syncDbs, kernel.raw = raw) :
    ∃ cli production, Cli.plan alpm hardware aurFlag [] selects = some cli ∧
      (app.toggled alpm selects).transactionPlan hardware = some production ∧
      cli.install = production.install ∧ cli.remove = production.remove ∧
      ((aurFlag = app.flags.aurEnabled ∨
          ∀ kernel ∈ discoverKernels alpm.syncDbs, kernel.repo ≠ "aur") →
        commitCommands cli = commitCommands production) := by
  obtain ⟨kernels, flags⟩ := toggled_context alpm app selects
  have selected := toggled_selection alpm app selects plainDbs plainPackages present
  obtain ⟨plan, planned⟩ : ∃ plan, TransactionPlan.fromSelection
      (app.toggled alpm selects).state.selection hardware
      (kernelsByRaw (discoverKernels alpm.syncDbs)) = some plan :=
    ⟨_, TransactionPlan.fromSelection_eq _ _ _⟩
  refine ⟨{ plan with aurEnabled := aurFlag },
    { plan with aurEnabled := app.flags.aurEnabled }, ?_, ?_, rfl, rfl, ?_⟩
  · have repoOnly : (if aurFlag then ([] : List DiscoveredKernel) else []) = [] := by
      split <;> rfl
    rw [Cli.plan, repoOnly, List.append_nil, Cli.discover_eq alpm distinct, selected,
      Option.bind_eq_bind, Option.bind_some, Cli.expand_eq_fromSelection, planned]
    rfl
  · rw [App.transactionPlan, kernels, flags, planned]
    rfl
  · rintro (same | noAur)
    · rw [same]
    · exact commitCommands_noAur plan (fromSelection_noAur _ hardware _ noAur plan planned)
        aurFlag app.flags.aurEnabled

namespace Sample

def alpm : Alpm where
  syncDbs := archDbs
  localPackages := [⟨"linux", "6.13.2-1", some "core"⟩, ⟨"linux-headers", "6.13.2-1", none⟩]
  vercmp := compare

end Sample

example :
    Cli.plan Sample.alpm { installed := ["linux", "linux-headers"] } false []
        ["core/linux", "extra/linux-zen"] =
      some
        { install :=
            [⟨"linux", .selectedKernel⟩, ⟨"linux-headers", .requiredHeaders⟩,
              ⟨"linux-zen", .selectedKernel⟩, ⟨"linux-zen-headers", .requiredHeaders⟩]
          remove := [⟨"linux", .selectedKernel⟩, ⟨"linux-headers", .removalCompanion⟩] } := by
  decide

theorem cliPlan_eq_transactionPlan_archDbs :
    let hardware : HardwareProfile := { installed := ["linux", "linux-headers"] }
    let selects := ["core/linux", "extra/linux-zen"]
    ∃ cli production, Cli.plan Sample.alpm hardware true [] selects = some cli ∧
      (Sample.app.toggled Sample.alpm selects).transactionPlan hardware = some production ∧
      cli.install = production.install ∧ cli.remove = production.remove ∧
      commitCommands cli = commitCommands production := by
  intro hardware selects
  obtain ⟨cli, production, planned, toggled, install, remove, commands⟩ :=
    cliPlan_eq_transactionPlan Sample.alpm hardware Sample.app true selects (by decide)
      (by decide) (by decide) (by decide)
  exact ⟨cli, production, planned, toggled, install, remove, commands (Or.inr (by decide))⟩

end KernelManager
