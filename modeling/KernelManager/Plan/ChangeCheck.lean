import KernelManager.Core.Shutdown
import KernelManager.Plan.Commands

/-! The check after a transaction: did it change the package state? -/

namespace KernelManager

abbrev LocalPackages := List String

namespace TransactionPlan

def installNames (plan : TransactionPlan) : List String := plan.install.map (·.package)

def removeNames (plan : TransactionPlan) : List String := plan.remove.map (·.package)

def aurBuilt (plan : TransactionPlan) : List String :=
  if plan.aurEnabled then plan.aurInstall.filter fun name => !contains name "headers" else []

end TransactionPlan

def transactionOutcome (plan : TransactionPlan) :
    Except String LocalPackages → Bool × Option String
  | .error error => (false, some ("alpm init failed (" ++ error ++ ")"))
  | .ok installedNow =>
      let installChanged := plan.installNames.any fun name => installedNow.contains name
      let removeChanged := plan.removeNames.any fun name => !installedNow.contains name
      (installChanged || removeChanged, none)

def transactionReply (outcome : Bool × Option String) : AppEvent :=
  match outcome with
  | (_, some message) => .transactionFailed message
  | (changed, none) => .transactionFinished changed

def Refreshes (event : AppEvent) : Prop :=
  ∀ state : AppState, .refreshKernels ∈ emitted state event

def CommandPlan.ActsOn (package : String) : CommandPlan → Prop
  | .installRepoPackages packages _ => package ∈ packages
  | .removePackages packages => package ∈ packages
  | .buildAurPackage dir => dir = aurDir package
  | _ => False

def TransactionPlan.ActsOn (plan : TransactionPlan) (package : String) : Prop :=
  ∃ command ∈ commitCommands plan, command.ActsOn package

def Moved (before after : LocalPackages) (package : String) : Prop :=
  ¬(package ∈ before ↔ package ∈ after)

/-- A package on which the plan acts has moved only if the flag is raised, whether or not the
check can open the database. -/
def ReportsMoves (plan : TransactionPlan) (before after : LocalPackages)
    (opened : Except String Unit) : Prop :=
  let outcome := transactionOutcome plan (opened.map fun _ => after)
  ∀ package, plan.ActsOn package → Moved before after package →
    outcome.1 = true ∧ Refreshes (transactionReply outcome)

/-- Some entry is installed and removed, so that one of the two lookups finds it; or no install
entry was there before, every remove entry was, and each AUR kernel that is built is an entry
too. A database that cannot be opened is no matter only to a plan that acts on nothing. -/
def ShowsMoves (plan : TransactionPlan) (before : LocalPackages) : Except String Unit → Prop
  | .ok _ =>
      (∃ name ∈ plan.installNames, name ∈ plan.removeNames) ∨
        (∀ name ∈ plan.installNames, name ∉ before) ∧ (∀ name ∈ plan.removeNames, name ∈ before) ∧
          ∀ name ∈ plan.aurBuilt, name ∈ plan.installNames ∨ name ∈ plan.removeNames
  | .error _ => plan.installNames = [] ∧ plan.removeNames = [] ∧ plan.aurBuilt = []

theorem aurDir_inj (left right : String) : aurDir left = aurDir right ↔ left = right :=
  String.append_right_inj _

theorem aurBuild_actsOn (name package : String) :
    (∃ command ∈ aurBuild name, command.ActsOn package) ↔ name = package := by
  simp [aurBuild, CommandPlan.ActsOn, aurDir_inj]

theorem commandOver_actsOn (command : List String → CommandPlan) (packages : List String)
    (package : String) (acts : (command packages).ActsOn package ↔ package ∈ packages) :
    (∃ each ∈ commandOver command packages, each.ActsOn package) ↔ package ∈ packages := by
  unfold commandOver
  by_cases none : packages = []
  · simp [none]
  · simp [none, acts]

theorem commitCommands_eq (plan : TransactionPlan) :
    commitCommands plan =
      plan.aurBuilt.flatMap aurBuild ++
        commandOver (.installRepoPackages · true) plan.installNames ++
        commandOver .removePackages plan.removeNames := by
  simp only [commitCommands, TransactionPlan.aurBuilt, TransactionPlan.installNames,
    TransactionPlan.removeNames, commandOver_map, aurBuilds_filter]
  cases plan.aurEnabled <;> rfl

theorem actsOn_iff (plan : TransactionPlan) (package : String) :
    plan.ActsOn package ↔
      package ∈ plan.aurBuilt ∨ package ∈ plan.installNames ∨ package ∈ plan.removeNames := by
  have install := commandOver_actsOn (.installRepoPackages · true) plan.installNames package
    Iff.rfl
  have remove := commandOver_actsOn .removePackages plan.removeNames package Iff.rfl
  have build : (∃ command ∈ plan.aurBuilt.flatMap aurBuild, command.ActsOn package) ↔
      package ∈ plan.aurBuilt := by
    constructor
    · rintro ⟨command, member, acts⟩
      obtain ⟨name, built, issued⟩ := List.mem_flatMap.mp member
      obtain rfl := (aurBuild_actsOn name package).mp ⟨command, issued, acts⟩
      exact built
    · intro built
      obtain ⟨command, issued, acts⟩ := (aurBuild_actsOn package package).mpr rfl
      exact ⟨command, List.mem_flatMap.mpr ⟨package, built, issued⟩, acts⟩
  rw [← build, ← install, ← remove, TransactionPlan.ActsOn, commitCommands_eq]
  simp only [List.mem_append, or_and_right, exists_or, or_assoc]

theorem outcome_changed (plan : TransactionPlan) (installedNow : LocalPackages) :
    (transactionOutcome plan (.ok installedNow)).1 = true ↔
      (∃ name ∈ plan.installNames, name ∈ installedNow) ∨
        ∃ name ∈ plan.removeNames, name ∉ installedNow := by
  simp [transactionOutcome]

theorem changed_refreshes (plan : TransactionPlan) (installedNow : LocalPackages)
    (changed : (transactionOutcome plan (.ok installedNow)).1 = true) :
    Refreshes (transactionReply (transactionOutcome plan (.ok installedNow))) := by
  have outcome : transactionOutcome plan (.ok installedNow) = (true, none) :=
    Prod.ext changed rfl
  intro state
  simp [outcome, transactionReply, emitted, transition]

theorem unraised_still (plan : TransactionPlan) (before after : LocalPackages)
    (opened : Except String Unit) (reports : ReportsMoves plan before after opened)
    (unraised : (transactionOutcome plan (opened.map fun _ => after)).1 ≠ true) (package : String)
    (acts : plan.ActsOn package) : package ∈ before ↔ package ∈ after := by
  by_contra moved
  exact unraised (reports package acts moved).1

theorem flag_lowered (plan : TransactionPlan) (after : LocalPackages)
    (fresh : ∀ name ∈ plan.installNames, name ∉ after)
    (left : ∀ name ∈ plan.removeNames, name ∈ after) :
    (transactionOutcome plan (.ok after)).1 ≠ true := by
  rw [ne_eq, outcome_changed, not_or]
  push Not
  exact ⟨fresh, left⟩

theorem reports_shows (plan : TransactionPlan) (before : LocalPackages)
    (reports : ∀ after, ReportsMoves plan before after (.ok ())) :
    ShowsMoves plan before (.ok ()) := by
  by_cases both : ∃ name ∈ plan.installNames, name ∈ plan.removeNames
  · exact Or.inl both
  · push Not at both
    -- The remove entries are still there, and no install entry is.
    have still : ∀ package, plan.ActsOn package →
        (package ∈ before ↔ package ∈ plan.removeNames) :=
      unraised_still plan before plan.removeNames (.ok ()) (reports _)
        (flag_lowered plan plan.removeNames both fun _ listed => listed)
    refine Or.inr ⟨?_, ?_, ?_⟩
    · intro name listed old
      have acts := (actsOn_iff plan name).mpr (Or.inr (Or.inl listed))
      exact both name listed ((still name acts).mp old)
    · intro name listed
      have acts := (actsOn_iff plan name).mpr (Or.inr (Or.inr listed))
      exact (still name acts).mpr listed
    · intro name built
      by_contra unlisted
      push Not at unlisted
      have acts := (actsOn_iff plan name).mpr (Or.inl built)
      -- With the kernel beside them, the flag is down as well.
      have down : (transactionOutcome plan (.ok (name :: plan.removeNames))).1 ≠ true := by
        apply flag_lowered
        · intro other listed present
          rcases List.mem_cons.mp present with rfl | removed
          · exact unlisted.1 listed
          · exact both other listed removed
        · intro other listed
          exact List.mem_cons_of_mem name listed
      have here := unraised_still plan before (name :: plan.removeNames) (.ok ()) (reports _) down
        name acts
      have old : name ∈ before := here.mpr List.mem_cons_self
      exact unlisted.2 ((still name acts).mp old)

theorem shows_reports (plan : TransactionPlan) (before after : LocalPackages)
    (shows : ShowsMoves plan before (.ok ())) : ReportsMoves plan before after (.ok ()) := by
  intro package acts moved
  have changed : (transactionOutcome plan (.ok after)).1 = true := by
    rw [outcome_changed]
    rcases shows with ⟨name, install, remove⟩ | ⟨fresh, old, built⟩
    · by_cases present : name ∈ after
      · exact Or.inl ⟨name, install, present⟩
      · exact Or.inr ⟨name, remove, present⟩
    · have entry : package ∈ plan.installNames ∨ package ∈ plan.removeNames := by
        rcases (actsOn_iff plan package).mp acts with aur | entry
        · exact built package aur
        · exact entry
      rcases entry with install | remove
      · left
        refine ⟨package, install, ?_⟩
        by_contra missing
        exact moved (iff_of_false (fresh package install) missing)
      · right
        refine ⟨package, remove, ?_⟩
        intro present
        exact moved (iff_of_true (old package remove) present)
  exact ⟨changed, changed_refreshes plan after changed⟩

theorem idle_of_unopened (plan : TransactionPlan) (before : LocalPackages) (error : String)
    (reports : ∀ after, ReportsMoves plan before after (.error error)) (package : String) :
    ¬plan.ActsOn package := by
  intro acts
  have still : ∀ after : LocalPackages, package ∈ before ↔ package ∈ after := fun after =>
    unraised_still plan before after (.error error) (reports after) Bool.false_ne_true package acts
  exact List.not_mem_nil ((still []).mp ((still [package]).mpr List.mem_cons_self))

theorem unopened_shows_iff (plan : TransactionPlan) (before : LocalPackages) (error : String) :
    (∀ after, ReportsMoves plan before after (.error error)) ↔
      ShowsMoves plan before (.error error) := by
  constructor
  · intro reports
    have idle := idle_of_unopened plan before error reports
    simp only [actsOn_iff, not_or] at idle
    refine ⟨?_, ?_, ?_⟩
    · exact List.eq_nil_iff_forall_not_mem.mpr fun name => (idle name).2.1
    · exact List.eq_nil_iff_forall_not_mem.mpr fun name => (idle name).2.2
    · exact List.eq_nil_iff_forall_not_mem.mpr fun name => (idle name).1
  · rintro ⟨installs, removes, builds⟩ after package acts _
    rw [actsOn_iff, installs, removes, builds] at acts
    simp at acts

/-- The check looks the install and remove entries up in the final database. It reports the moves
of every run of the plan exactly if the database from which the run starts holds what the lookups
take for granted. -/
theorem moves_reported_iff (plan : TransactionPlan) (before : LocalPackages)
    (opened : Except String Unit) :
    (∀ after, ReportsMoves plan before after opened) ↔ ShowsMoves plan before opened := by
  cases opened with
  | ok _ =>
      constructor
      · exact reports_shows plan before
      · intro shows after
        exact shows_reports plan before after shows
  | error error => exact unopened_shows_iff plan before error

namespace Sample

def aurPlan : TransactionPlan := { aurInstall := ["linux-tkg"], aurEnabled := true }

end Sample

/-- An AUR kernel is built and installed, and nothing is reported. -/
theorem aurKernel_unreported : ¬ReportsMoves Sample.aurPlan [] ["linux-tkg"] (.ok ()) := by
  intro reports
  have acts : Sample.aurPlan.ActsOn "linux-tkg" :=
    (actsOn_iff Sample.aurPlan "linux-tkg").mpr (Or.inl (by decide))
  have raised := (reports "linux-tkg" acts (by simp [Moved])).1
  cases raised

end KernelManager
