import KernelManager.Exec.Terminal

/-! The AUR witness of the candidate against the reference tool, over the same corpus. -/

namespace KernelManager

structure AurCorpus where
  aurEnabled : Bool
  paruAvailable : Bool
  awkAvailable : Bool
  repoKernelNames : List String := []
  paruOutput : String := ""
  aurSelections : List String := []
  installPackages : List String := []
  removePackages : List String := []
  deriving DecidableEq, Repr

inductive CommitEntry
  | gitRefresh (url dir : String)
  | buildAur (argv : List String)
  | installRepo (argv : List String)
  | removeRepo (argv : List String)
  | buildKernel (argv : List String)
  | installLocal (globs : List String)
  deriving DecidableEq, Repr

structure AurReport where
  stderr : Option String
  probeRun : Bool
  aurRows : List DiscoveredKernel
  commit : List CommitEntry
  deriving DecidableEq, Repr

/-- `make_multiline`: the lines that are not empty. -/
def multiline (text : String) : List String :=
  ((text.toList.splitOn newline).filter (· ≠ [])).map String.ofList

namespace OracleAur

def probe (state : List String × List DiscoveredKernel) (header : String) :
    List String × List DiscoveredKernel :=
  let name := aurName header
  if state.1.any (· = name) then state
  else
    (state.1 ++ [name],
      state.2 ++
        [{ repo := "aur"
           name := name
           headers := header
           version := "unknown-version"
           companions := {}
           raw := "aur/" ++ name }])

def repoCommit (corpus : AurCorpus) : List CommitEntry :=
  (if corpus.installPackages.isEmpty then []
    else [.installRepo (["pacman", "-S", "--needed"] ++ corpus.installPackages)]) ++
    (if corpus.removePackages.isEmpty then []
      else [.removeRepo (["pacman", "-Rsn"] ++ corpus.removePackages)])

def commit (corpus : AurCorpus) : List CommitEntry :=
  (corpus.aurSelections.flatMap fun name =>
    if contains name "headers" then []
    else
      [.gitRefresh ("https://aur.archlinux.org/" ++ name ++ ".git")
        ("~/.cache/cachyos-km/aur_pkgbuilds" ++ "/" ++ name), .buildAur makepkgAurArgv]) ++
    repoCommit corpus

/-- `main` of the reference tool. -/
def report (corpus : AurCorpus) : AurReport :=
  let missing := !corpus.paruAvailable || !corpus.awkAvailable
  let probes := corpus.aurEnabled && (!corpus.repoKernelNames.isEmpty && !missing)
  { stderr := if corpus.aurEnabled && missing then some aurGateMessage else none
    probeRun := probes
    aurRows :=
      if probes then
        ((multiline corpus.paruOutput).foldl probe (corpus.repoKernelNames, [])).2
      else []
    commit := commit corpus }

end OracleAur

namespace WitnessAur

def repoKernel (name : String) : DiscoveredKernel where
  repo := "cachyos"
  name := name
  headers := name ++ "-headers"
  version := "0"
  companions := {}
  raw := "cachyos/" ++ name

def renderCommand : CommandPlan → CommitEntry
  | .gitRefresh url dir => .gitRefresh url dir
  | .buildAurPackage _ => .buildAur makepkgAurArgv
  | .installRepoPackages packages needed => .installRepo (pacmanInstallArgv packages needed)
  | .removePackages packages => .removeRepo (pacmanRemoveArgv packages)
  | .buildKernelPackage => .buildKernel makepkgRepoArgv
  | .installLocalPackages globs => .installLocal globs

def plan (corpus : AurCorpus) : TransactionPlan :=
  corpus.aurSelections.foldl TransactionPlan.expandAurInstall
    { install := corpus.installPackages.map fun package => ⟨package, .selectedKernel⟩
      remove := corpus.removePackages.map fun package => ⟨package, .selectedKernel⟩
      aurEnabled := corpus.aurEnabled }

/-- `main` of `cachyos-kernel-manager-aur-model`. -/
def report (corpus : AurCorpus) : AurReport :=
  let discovery := discoverAur
    { enabled := corpus.aurEnabled
      paruAvailable := corpus.paruAvailable
      awkAvailable := corpus.awkAvailable
      repoKernels := corpus.repoKernelNames.map repoKernel
      paruOutput := corpus.paruOutput }
  { stderr := discovery.gateMessage
    probeRun := discovery.probeRun
    aurRows := discovery.aurKernels
    commit := (commitCommands (plan corpus)).map renderCommand }

end WitnessAur

theorem probe_fold (names : List String) (found : List DiscoveredKernel) (headers : List String) :
    headers.foldl OracleAur.probe (names ++ found.map (·.name), found) =
      (names ++ (headers.foldl (pushAur (names.map WitnessAur.repoKernel)) found).map (·.name),
        headers.foldl (pushAur (names.map WitnessAur.repoKernel)) found) := by
  induction headers generalizing found with
  | nil => rfl
  | cons header headers ih =>
      have seen : (names ++ found.map (·.name)).any (· = aurName header) =
          (names.map WitnessAur.repoKernel ++ found).any (·.name = (aurKernel header).name) := by
        simp only [List.any_append, List.any_map]
        rfl
      rw [List.foldl_cons, List.foldl_cons, OracleAur.probe, pushAur, seen]
      split
      · exact ih found
      · have next := ih (found ++ [aurKernel header])
        rw [List.map_append, ← List.append_assoc] at next
        exact next

theorem plan_eq (corpus : AurCorpus) :
    WitnessAur.plan corpus =
      { install := corpus.installPackages.map fun package => ⟨package, .selectedKernel⟩
        remove := corpus.removePackages.map fun package => ⟨package, .selectedKernel⟩
        aurInstall := corpus.aurSelections
        aurEnabled := corpus.aurEnabled } := by
  have pushed : ∀ (names : List String) (plan : TransactionPlan),
      names.foldl TransactionPlan.expandAurInstall plan =
        { plan with aurInstall := plan.aurInstall ++ names } := by
    intro names
    induction names with
    | nil => simp
    | cons name names ih =>
        intro plan
        rw [List.foldl_cons, ih]
        simp [TransactionPlan.expandAurInstall]
  rw [WitnessAur.plan, pushed]
  rfl

theorem discovery_agrees (corpus : AurCorpus) :
    (WitnessAur.report corpus).stderr = (OracleAur.report corpus).stderr ∧
      (WitnessAur.report corpus).probeRun = (OracleAur.report corpus).probeRun ∧
      (WitnessAur.report corpus).aurRows = (OracleAur.report corpus).aurRows := by
  obtain ⟨enabled, paru, awk, names, output, selections, install, remove⟩ := corpus
  have rows := congrArg Prod.snd (probe_fold names [] (multiline output))
  rw [List.map_nil, List.append_nil] at rows
  simp only [WitnessAur.report, OracleAur.report, discoverAur, List.isEmpty_map,
    AurDiscoveryInput.headers]
  cases enabled with
  | false => simp
  | true =>
      cases available : paru && awk with
      | false =>
          have missing : (!paru || !awk) = true := by rw [← Bool.not_and, available]; rfl
          simp [missing]
      | true =>
          have present : (!paru || !awk) = false := by rw [← Bool.not_and, available]; rfl
          cases nobody : names.isEmpty with
          | true => simp [present]
          | false =>
              simp only [present, Bool.not_true, Bool.not_false, Bool.and_self, Bool.and_false,
                Bool.false_eq_true, if_false, if_true, true_and]
              exact rows.symm

def aurEntries (names : List String) : List CommitEntry :=
  (names.flatMap fun name => if contains name "headers" then [] else aurBuild name).map
    WitnessAur.renderCommand

theorem aurEntries_eq_nil (names : List String) :
    aurEntries names = [] ↔ ∀ name ∈ names, contains name "headers" = true := by
  simp only [aurEntries, List.map_eq_nil_iff, List.flatMap_eq_nil_iff]
  refine forall₂_congr fun name _ => ?_
  cases contains name "headers" <;> simp [aurBuild]

theorem oracleEntries_eq (name : String) :
    [CommitEntry.gitRefresh ("https://aur.archlinux.org/" ++ name ++ ".git")
        ("~/.cache/cachyos-km/aur_pkgbuilds" ++ "/" ++ name), .buildAur makepkgAurArgv] =
      (aurBuild name).map WitnessAur.renderCommand := by
  have directory : ("~/.cache/cachyos-km/aur_pkgbuilds" ++ "/" : String) =
      "~/.cache/cachyos-km/aur_pkgbuilds/" := by decide +kernel
  rw [directory]
  rfl

theorem oracleCommit_eq (corpus : AurCorpus) :
    OracleAur.commit corpus =
      aurEntries corpus.aurSelections ++ OracleAur.repoCommit corpus := by
  rw [OracleAur.commit, aurEntries, List.map_flatMap]
  congr 2
  funext name
  cases contains name "headers" with
  | true => rfl
  | false => exact oracleEntries_eq name

theorem packages_map (packages : List String) (reason : Reason) :
    (packages.map fun package => (⟨package, reason⟩ : PackageAction)).map (·.package) =
      packages := by
  rw [List.map_map]
  exact List.map_id packages

theorem witnessCommit_eq (corpus : AurCorpus) :
    (WitnessAur.report corpus).commit =
      (if corpus.aurEnabled then aurEntries corpus.aurSelections else []) ++
        OracleAur.repoCommit corpus := by
  simp only [WitnessAur.report, plan_eq, commitCommands, OracleAur.repoCommit, aurEntries,
    List.map_append, List.append_assoc, packages_map, List.isEmpty_map]
  congr 1
  · cases corpus.aurEnabled <;> rfl
  · congr 1
    · cases corpus.installPackages <;> rfl
    · cases corpus.removePackages <;> rfl

theorem commit_eq_iff (corpus : AurCorpus) :
    (WitnessAur.report corpus).commit = (OracleAur.report corpus).commit ↔
      corpus.aurEnabled = true ∨ ∀ name ∈ corpus.aurSelections, contains name "headers" = true := by
  have oracle : (OracleAur.report corpus).commit = OracleAur.commit corpus := rfl
  rw [witnessCommit_eq, oracle, oracleCommit_eq, List.append_left_inj]
  cases enabled : corpus.aurEnabled with
  | true => simp
  | false => simp only [Bool.false_eq_true, if_false, false_or, eq_comm, aurEntries_eq_nil]

/-- The candidate prints the discovery of the reference for every corpus, and its commit sequence
unless AUR support is off and a kernel from the AUR is selected all the same: then the sequences
differ, and nothing else does. -/
theorem aurReport_eq_iff (corpus : AurCorpus) :
    let shown :=
      corpus.aurEnabled = true ∨ ∀ name ∈ corpus.aurSelections, contains name "headers" = true
    (WitnessAur.report corpus = OracleAur.report corpus ↔ shown) ∧
      (¬shown → (WitnessAur.report corpus).commit ≠ (OracleAur.report corpus).commit ∧
        WitnessAur.report corpus =
          { OracleAur.report corpus with commit := (WitnessAur.report corpus).commit }) := by
  intro shown
  obtain ⟨stderr, probeRun, aurRows⟩ := discovery_agrees corpus
  have discovered : WitnessAur.report corpus =
      { OracleAur.report corpus with commit := (WitnessAur.report corpus).commit } := by
    calc
      WitnessAur.report corpus =
          ⟨(WitnessAur.report corpus).stderr, (WitnessAur.report corpus).probeRun,
            (WitnessAur.report corpus).aurRows, (WitnessAur.report corpus).commit⟩ := rfl
      _ = { OracleAur.report corpus with commit := (WitnessAur.report corpus).commit } := by
          rw [stderr, probeRun, aurRows]
  refine ⟨?_, ?_⟩
  · refine Iff.trans ?_ (commit_eq_iff corpus)
    constructor
    · exact congrArg AurReport.commit
    · intro same
      rw [discovered, same]
  · intro hidden
    exact ⟨mt (commit_eq_iff corpus).mp hidden, discovered⟩

end KernelManager
