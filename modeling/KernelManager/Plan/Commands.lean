import KernelManager.Plan.Transaction

/-! The commands that a transaction plan is committed with. -/

namespace KernelManager

inductive CommandPlan
  | installRepoPackages (packages : List String) (needed : Bool)
  | removePackages (packages : List String)
  | installLocalPackages (globs : List String)
  | buildKernelPackage
  | buildAurPackage (dir : String)
  | gitRefresh (url dir : String)
  deriving DecidableEq, Repr

def aurDir (name : String) : String := "~/.cache/cachyos-km/aur_pkgbuilds/" ++ name

def aurUrl (name : String) : String := "https://aur.archlinux.org/" ++ name ++ ".git"

def aurBuild (name : String) : List CommandPlan :=
  [.gitRefresh (aurUrl name) (aurDir name), .buildAurPackage (aurDir name)]

def commitCommands (plan : TransactionPlan) : List CommandPlan :=
  let aur :=
    if plan.aurEnabled then
      plan.aurInstall.flatMap fun name => if contains name "headers" then [] else aurBuild name
    else []
  let install :=
    if plan.install.isEmpty then []
    else [CommandPlan.installRepoPackages (plan.install.map (·.package)) true]
  let remove :=
    if plan.remove.isEmpty then []
    else [CommandPlan.removePackages (plan.remove.map (·.package))]
  aur ++ install ++ remove

section Selection

variable (selection : SelectionState) (hardware : HardwareProfile) (kernels : KernelsByRaw)

def installKernels : List DiscoveredKernel := selection.installSet.filterMap kernels

def removeKernels : List DiscoveredKernel := selection.removalSet.filterMap kernels

def aurNames : List String :=
  (((installKernels selection kernels).filter (·.repo = "aur")).map (·.name)).filter
    fun name => !contains name "headers"

def installPackages : List String :=
  (((installKernels selection kernels).filter (·.repo ≠ "aur")).flatMap
    (expansion hardware)).map (·.package)

def removePackages : List String :=
  ((removeKernels selection kernels).flatMap (removal hardware)).map (·.package)

end Selection

def commandOver (command : List String → CommandPlan) (packages : List String) :
    List CommandPlan :=
  if packages = [] then [] else [command packages]

theorem commandOver_map (command : List String → CommandPlan) (actions : List PackageAction) :
    commandOver command (actions.map (·.package)) =
      if actions.isEmpty then [] else [command (actions.map (·.package))] := by
  cases actions <;> simp [commandOver]

theorem aurBuilds_filter (names : List String) :
    (names.flatMap fun name => if contains name "headers" then [] else aurBuild name) =
      (names.filter fun name => !contains name "headers").flatMap aurBuild := by
  induction names with
  | nil => rfl
  | cons name names ih =>
      rw [List.flatMap_cons, ih]
      cases skipped : contains name "headers" <;> simp [skipped]

theorem mem_installPackages (selection : SelectionState) (hardware : HardwareProfile)
    (kernels : KernelsByRaw) (package : String) :
    package ∈ installPackages selection hardware kernels ↔
      ∃ raw ∈ selection.installSet, ∃ kernel, kernels raw = some kernel ∧ kernel.repo ≠ "aur" ∧
        ∃ action ∈ expansion hardware kernel, action.package = package := by
  simp only [installPackages, installKernels, List.mem_map, List.mem_flatMap, List.mem_filter,
    List.mem_filterMap, decide_eq_true_eq]
  constructor
  · rintro ⟨action, ⟨kernel, ⟨⟨raw, selected, found⟩, repo⟩, expanded⟩, rfl⟩
    exact ⟨raw, selected, kernel, found, repo, action, expanded, rfl⟩
  · rintro ⟨raw, selected, kernel, found, repo, action, expanded, rfl⟩
    exact ⟨action, ⟨kernel, ⟨⟨raw, selected, found⟩, repo⟩, expanded⟩, rfl⟩

theorem selection_commands (selection : SelectionState) (hardware : HardwareProfile)
    (kernels : KernelsByRaw) (aurEnabled : Bool) :
    ∃ plan, TransactionPlan.fromSelection selection hardware kernels = some plan ∧
      commitCommands { plan with aurEnabled := aurEnabled } =
        (if aurEnabled then (aurNames selection kernels).flatMap aurBuild else []) ++
          commandOver (.installRepoPackages · true) (installPackages selection hardware kernels) ++
          commandOver .removePackages (removePackages selection hardware kernels) := by
  refine ⟨_, TransactionPlan.fromSelection_eq selection hardware kernels, ?_⟩
  simp only [commitCommands, aurNames, installPackages, removePackages, commandOver_map,
    aurBuilds_filter]
  rfl

/-- The commands of a selection: a refresh and a build for each AUR kernel, then one install and
one removal over everything else that was selected. -/
theorem commitCommands_fromSelection (selection : SelectionState) (hardware : HardwareProfile)
    (kernels : KernelsByRaw) (aurEnabled : Bool) :
    (∃ plan, TransactionPlan.fromSelection selection hardware kernels = some plan ∧
      commitCommands { plan with aurEnabled := aurEnabled } =
        (if aurEnabled then (aurNames selection kernels).flatMap aurBuild else []) ++
          commandOver (.installRepoPackages · true) (installPackages selection hardware kernels) ++
          commandOver .removePackages (removePackages selection hardware kernels)) ∧
    ∀ package ∈ installPackages selection hardware kernels,
      ∃ raw ∈ selection.installSet, ∃ kernel, kernels raw = some kernel ∧ kernel.repo ≠ "aur" ∧
        ∃ action ∈ expansion hardware kernel, action.package = package := by
  refine ⟨selection_commands selection hardware kernels aurEnabled, ?_⟩
  intro package member
  exact (mem_installPackages selection hardware kernels package).mp member

end KernelManager
