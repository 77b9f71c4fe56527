import KernelManager.Library.ShellScripts
import KernelManager.Plan.AurDiscovery
import KernelManager.Plan.Availability
import KernelManager.Plan.ChangeCheck

/-! The command lines of a transaction, the terminal helper that runs them, and what the shell
behind it reads. -/

namespace KernelManager

def terminalHelperPath : String := "/usr/lib/cachyos-kernel-manager/terminal-helper"
def rootshell : String := "/usr/lib/cachyos-kernel-manager/rootshell.sh"

def pressEnterSuffix : String := "; read -p 'Press enter to exit'"

inductive Escalate
  | pkexecRootShell | none
  deriving DecidableEq, Repr

def pacmanInstallArgv (packages : List String) (needed : Bool) : List String :=
  ["pacman", "-S"] ++ (if needed then ["--needed"] else []) ++ packages

def pacmanRemoveArgv (packages : List String) : List String := ["pacman", "-Rsn"] ++ packages

def makepkgAurArgv : List String := ["makepkg", "-sicf", "--cleanbuild", "--skipchecksums"]

def makepkgRepoArgv : List String := ["makepkg", "-scf", "--cleanbuild", "--skipchecksums"]

def withPause (command : String) : String := command ++ pressEnterSuffix

def joinWords (words : List String) : String := String.intercalate " " words

def terminalHelperArgv (command : String) (escalate : Escalate) : List String :=
  [terminalHelperPath] ++
    (match escalate with
      | .pkexecRootShell => ["-s", "pkexec " ++ rootshell]
      | .none => []) ++
    [withPause command]

structure Terminal where
  argv : List String
  directory : Option String := none
  deriving DecidableEq, Repr

def CommandPlan.terminal (home : String) : CommandPlan → Option Terminal
  | .buildAurPackage dir =>
      some
        { argv := terminalHelperArgv (joinWords makepkgAurArgv) .none
          directory := some (fixPath home dir) }
  | .installRepoPackages packages needed =>
      some { argv :=
        terminalHelperArgv (joinWords (pacmanInstallArgv packages needed)) .pkexecRootShell }
  | .removePackages packages =>
      some { argv := terminalHelperArgv (joinWords (pacmanRemoveArgv packages)) .pkexecRootShell }
  | .gitRefresh _ _ | .buildKernelPackage | .installLocalPackages _ => none

namespace TerminalHelper

/-- `getopts` with `s:h`: the launcher, and the operands that are left. -/
def options (launcher : String) : List String → Option (String × List String)
  | [] => some (launcher, [])
  | argument :: rest =>
      match argument.toList with
      | ['-', '-'] => some (launcher, rest)
      | '-' :: 's' :: shell =>
          if shell = [] then
            match rest with
            | [] => none
            | shell :: rest => options shell rest
          else options (String.ofList shell) rest
      | '-' :: _ :: _ => none
      | _ => some (launcher, argument :: rest)

/-- What the helper leaves to the terminal: the launcher's words, and the commands of the file
that it wrote the first operand to. -/
structure Run where
  launcher : List String
  directory : Option String
  commands : List (List String)
  deriving DecidableEq, Repr

def texts (words : List (List Char)) : List String := words.map String.ofList

def run (terminal : Terminal) : Option Run := do
  let (launcher, operands) ← options "bash" terminal.argv.tail
  let words ← ShellWords.split launcher.toList
  let commands ← ShellWords.script ((operands.headD "").toList ++ [newline])
  return {
    launcher := texts words
    directory := terminal.directory
    commands := commands.map texts }

end TerminalHelper

def PlainName (name : String) : Prop :=
  name.toList ≠ [] ∧ name.toList.all ShellWords.isOrdinary = true

instance (name : String) : Decidable (PlainName name) := inferInstanceAs (Decidable (_ ∧ _))

def pause : List String := ["read", "-p", "Press enter to exit"]

def asUser (directory : String) (argv : List String) : TerminalHelper.Run where
  launcher := ["bash"]
  directory := some directory
  commands := [argv, pause]

def asRoot (argv : List String) : TerminalHelper.Run where
  launcher := ["pkexec", rootshell]
  directory := none
  commands := [argv, pause]

theorem split_joinWords (words : List String) (some_words : words ≠ [])
    (plain : ∀ word ∈ words, PlainName word) :
    ShellWords.split (joinWords words).toList = some (words.map String.toList) := by
  rw [joinWords, String.toList_intercalate]
  apply ShellWords.split_joined
  · simpa using some_words
  · intro word member
    obtain ⟨text, listed, rfl⟩ := List.mem_map.mp member
    exact plain text listed

theorem split_pause :
    ShellWords.split " read -p 'Press enter to exit'".toList = some (pause.map String.toList) := by
  decide +kernel

theorem script_withPause (words : List String) (some_words : words ≠ [])
    (plain : ∀ word ∈ words, PlainName word) :
    ShellWords.script ((withPause (joinWords words)).toList ++ [newline]) =
      some [words.map String.toList, pause.map String.toList] := by
  have lines : (withPause (joinWords words)).toList ++ [newline] =
      [((joinWords words).toList, ';'), (" read -p 'Press enter to exit'".toList, newline)].flatMap
        fun line => line.1 ++ [line.2] := by
    simp [withPause, pressEnterSuffix, String.toList_append]
  rw [lines]
  apply ShellWords.script_commands
  · intro line member
    simp only [List.mem_cons, List.not_mem_nil, or_false] at member
    obtain rfl | rfl := member <;> rfl
  · simp only [List.map_cons, List.map_nil, split_joinWords words some_words plain, split_pause]
  · simp [some_words, pause]

theorem texts_toList (words : List String) :
    TerminalHelper.texts (words.map String.toList) = words := by
  simp [TerminalHelper.texts, Function.comp_def]

theorem split_launcher :
    ShellWords.split ("pkexec " ++ rootshell).toList = some [ "pkexec".toList, rootshell.toList] ∧
      ShellWords.split "bash".toList = some ["bash".toList] := by
  decide +kernel

theorem options_operand (launcher operand : String) (rest : List String)
    (plain : operand.toList.head? ≠ some '-') :
    TerminalHelper.options launcher (operand :: rest) = some (launcher, operand :: rest) := by
  unfold TerminalHelper.options
  split
  · next dashes => simp [dashes] at plain
  · next shell dashes => simp [dashes] at plain
  · next first others dashes => simp [dashes] at plain
  · rfl

/-- The helper takes its launcher from `-s` alone, whatever the command line says. -/
theorem options_command (command : String) (escalate : Escalate)
    (operand : (withPause command).toList.head? ≠ some '-') :
    TerminalHelper.options "bash" (terminalHelperArgv command escalate).tail =
      some (match escalate with
        | .pkexecRootShell => "pkexec " ++ rootshell
        | .none => "bash", [withPause command]) := by
  cases escalate with
  | none => exact options_operand "bash" _ [] operand
  | pkexecRootShell =>
      change TerminalHelper.options "bash" ["-s", "pkexec " ++ rootshell, withPause command] = _
      have option : "-s".toList = ['-', 's'] := by decide
      rw [TerminalHelper.options, option]
      exact options_operand _ _ [] operand

theorem run_command (words : List String) (first : String) (escalate : Escalate)
    (directory : Option String) (plain : ∀ word ∈ first :: words, PlainName word)
    (operand : first.toList.head? ≠ some '-') :
    TerminalHelper.run
        { argv := terminalHelperArgv (joinWords (first :: words)) escalate, directory } =
      some
        { launcher :=
            match escalate with
            | .pkexecRootShell => ["pkexec", rootshell]
            | .none => ["bash"]
          directory := directory
          commands := [first :: words, pause] } := by
  have leads : (withPause (joinWords (first :: words))).toList.head? ≠ some '-' := by
    obtain ⟨symbol, rest, spelled⟩ :=
      List.exists_cons_of_ne_nil (plain first (List.mem_cons_self ..)).1
    rw [withPause, String.toList_append, joinWords, String.toList_intercalate, List.map_cons]
    rw [spelled] at operand ⊢
    cases words with
    | nil => simpa using operand
    | cons second words => simpa using operand
  have script := script_withPause (first :: words) (List.cons_ne_nil _ _) plain
  have commands := texts_toList (first :: words)
  rw [List.map_cons] at script commands
  rw [TerminalHelper.run, options_command _ escalate leads]
  cases escalate with
  | none =>
      have launcher := texts_toList ["bash"]
      rw [List.map_singleton] at launcher
      simp only [Option.bind_eq_bind, Option.bind_some, split_launcher.2, List.headD_cons, script,
        List.map_cons, List.map_nil, launcher, commands, texts_toList]
      rfl
  | pkexecRootShell =>
      have launcher := texts_toList ["pkexec", rootshell]
      rw [List.map_cons, List.map_singleton] at launcher
      simp only [Option.bind_eq_bind, Option.bind_some, split_launcher.1, List.headD_cons, script,
        List.map_cons, List.map_nil, launcher, commands, texts_toList]
      rfl

theorem plain_argv :
    (∀ word ∈ makepkgAurArgv, PlainName word) ∧
      (∀ word ∈ pacmanInstallArgv [] true, PlainName word) ∧
      ∀ word ∈ pacmanRemoveArgv [], PlainName word := by
  decide +kernel

section Plans

variable (home : String)

theorem aurBuilds_run (names : List String) :
    ((names.flatMap aurBuild).filterMap (·.terminal home)).map TerminalHelper.run =
      names.map fun name => some (asUser (fixPath home (aurDir name)) makepkgAurArgv) := by
  induction names with
  | nil => rfl
  | cons name names ih =>
      have built := run_command makepkgAurArgv.tail "makepkg" .none
        (some (fixPath home (aurDir name))) plain_argv.1 (by decide)
      rw [List.flatMap_cons, List.filterMap_append, List.map_append, ih, List.map_cons]
      exact congrArg (· :: _) built

theorem install_run (names : List String) (plain : ∀ name ∈ names, PlainName name) :
    ((commandOver (.installRepoPackages · true) names).filterMap (·.terminal home)).map
        TerminalHelper.run =
      if names = [] then [] else [some (asRoot (pacmanInstallArgv names true))] := by
  unfold commandOver
  split
  · rfl
  · have run := run_command (["-S", "--needed"] ++ names) "pacman" .pkexecRootShell none
      (by
        intro word member
        have cases : word ∈ pacmanInstallArgv [] true ∨ word ∈ names := by
          simpa [pacmanInstallArgv, or_assoc] using member
        exact cases.elim (plain_argv.2.1 word) (plain word))
      (by decide)
    exact congrArg ([·]) run

theorem remove_run (names : List String) (plain : ∀ name ∈ names, PlainName name) :
    ((commandOver .removePackages names).filterMap (·.terminal home)).map TerminalHelper.run =
      if names = [] then [] else [some (asRoot (pacmanRemoveArgv names))] := by
  unfold commandOver
  split
  · rfl
  · have run := run_command (["-Rsn"] ++ names) "pacman" .pkexecRootShell none
      (by
        intro word member
        have cases : word ∈ pacmanRemoveArgv [] ∨ word ∈ names := by
          simpa [pacmanRemoveArgv, or_assoc] using member
        exact cases.elim (plain_argv.2.2 word) (plain word))
      (by decide)
    exact congrArg ([·]) run

def planned (plan : TransactionPlan) : List TerminalHelper.Run :=
  plan.aurBuilt.map (fun name => asUser (fixPath home (aurDir name)) makepkgAurArgv) ++
    (if plan.installNames = [] then [] else [asRoot (pacmanInstallArgv plan.installNames true)]) ++
    (if plan.removeNames = [] then [] else [asRoot (pacmanRemoveArgv plan.removeNames)])

theorem terminals_run (plan : TransactionPlan)
    (install : ∀ name ∈ plan.installNames, PlainName name)
    (remove : ∀ name ∈ plan.removeNames, PlainName name) :
    ((commitCommands plan).filterMap (·.terminal home)).map TerminalHelper.run =
      (planned home plan).map some := by
  rw [commitCommands_eq, List.filterMap_append, List.filterMap_append, List.map_append,
    List.map_append, aurBuilds_run, install_run home _ install, remove_run home _ remove, planned,
    List.map_append, List.map_append, List.map_map]
  congr 1
  · congr 1
    split <;> rfl
  · split <;> rfl

end Plans

theorem discovered_plain (dbs : List SyncDb) (hardware : HardwareProfile)
    (offered : ∀ db ∈ dbs, ∀ pkg ∈ db.packages, PlainName pkg.name) (raw : String)
    (kernel : DiscoveredKernel)
    (found : kernelsByRaw (discoverKernels dbs) raw = some kernel) :
    PlainName kernel.name ∧ ∀ action ∈ expansion hardware kernel, PlainName action.package := by
  have member := kernelsByRaw_mem _ raw kernel found
  obtain ⟨db, listed, offers⟩ := discoverKernels_offers dbs kernel member
  have plain : ∀ name, db.Has name → PlainName name := by
    rintro name ⟨pkg, packaged, rfl⟩
    exact offered db listed pkg packaged
  exact ⟨plain _ offers.hasName, fun action expanded =>
    plain _ (expansion_has db hardware kernel offers action expanded)⟩

/-- What reaches a shell: over databases whose package names mean nothing to a shell, the
terminals of any transaction run each AUR build in its own checkout as the user, and then, as
root, at most one install and one removal, over exactly the names of the plan. -/
theorem terminals_planned (home : String) (dbs : List SyncDb) (selection : SelectionState)
    (hardware : HardwareProfile) (aurEnabled : Bool) (plan : TransactionPlan)
    (offered : ∀ db ∈ dbs, ∀ pkg ∈ db.packages, PlainName pkg.name)
    (installed : ∀ name ∈ hardware.installed, PlainName name)
    (plans : TransactionPlan.fromSelection selection hardware
      (kernelsByRaw (discoverKernels dbs)) = some plan) :
    let plan := { plan with aurEnabled := aurEnabled }
    ((commitCommands plan).filterMap (·.terminal home)).map TerminalHelper.run =
      (planned home plan).map some := by
  rw [TransactionPlan.fromSelection_eq] at plans
  obtain rfl := Option.some.inj plans
  apply terminals_run
  · intro name member
    simp only [TransactionPlan.installNames, List.mem_map, List.mem_flatMap, List.mem_filter,
      List.mem_filterMap] at member
    obtain ⟨action, ⟨kernel, ⟨⟨raw, -, found⟩, -⟩, expanded⟩, rfl⟩ := member
    exact (discovered_plain dbs hardware offered raw kernel found).2 action expanded
  · intro name member
    simp only [TransactionPlan.removeNames, List.mem_map, List.mem_flatMap,
      List.mem_filterMap] at member
    obtain ⟨action, ⟨kernel, ⟨raw, -, found⟩, removed⟩, rfl⟩ := member
    rcases removal_package hardware kernel action removed with named | present
    · rw [named]
      exact (discovered_plain dbs hardware offered raw kernel found).1
    · exact installed _ present

namespace Sample

def terminalDbs : List SyncDb :=
  [{ name := "cachyos"
     packages :=
       [⟨"linux-cachyos", "6.14.1-1"⟩, ⟨"linux-cachyos-headers", "6.14.1-1"⟩,
         ⟨"linux-cachyos-lts", "6.12.21-1"⟩, ⟨"linux-cachyos-lts-headers", "6.12.21-1"⟩] }]

def terminalSelection : SelectionState where
  rows :=
    [{ raw := "cachyos/linux-cachyos", name := "linux-cachyos", installed := false,
       immutable := false, updateAvailable := false, checked := true },
      { raw := "cachyos/linux-cachyos-lts", name := "linux-cachyos-lts", installed := true,
        immutable := true, updateAvailable := false, checked := false }]

def terminalHardware : HardwareProfile where
  installed := ["linux-cachyos-lts", "linux-cachyos-lts-headers"]

def terminalPlan : TransactionPlan where
  install := [⟨"linux-cachyos", .selectedKernel⟩, ⟨"linux-cachyos-headers", .requiredHeaders⟩]
  remove :=
    [⟨"linux-cachyos-lts", .selectedKernel⟩, ⟨"linux-cachyos-lts-headers", .removalCompanion⟩]

end Sample

theorem terminals_planned_swap :
    let plan := { Sample.terminalPlan with aurEnabled := false }
    ((commitCommands plan).filterMap (·.terminal "/home/user")).map TerminalHelper.run =
      (planned "/home/user" plan).map some :=
  terminals_planned "/home/user" Sample.terminalDbs Sample.terminalSelection
    Sample.terminalHardware false Sample.terminalPlan (by decide +kernel) (by decide +kernel)
    (by decide +kernel)

end KernelManager
