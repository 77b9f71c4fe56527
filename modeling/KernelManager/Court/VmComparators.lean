import KernelManager.Court.VmEvidence
import KernelManager.Court.VmFiles

/-! The comparators of the VM courts on the directories of the two sides, and what they read. -/

namespace KernelManager

open Json (Value)

structure VmFormats (Content : Type) where
  digest : Content → String
  text : Content → Option String
  json : Content → Option Value
  printing : Printing

inductive VmComparator
  | scx | packaging | boot | makepkg | guiDrive | i18nRendered | closeTransaction | observations
  | terminalMatrix | transactions | mutation
  deriving DecidableEq, Repr

def residualFile : String := "residual.json"

def candidateResidualFile : String := "candidate-residual.json"

def makepkgFiles : List String :=
  ["commands.txt", "scf-execs.txt", "sicf-execs.txt", "aurfail-execs.txt", "makepkg-version.txt"]

def localeFile (locale : String) : String := "i18n-" ++ locale ++ ".json"

section

variable {Content : Type} (formats : VmFormats Content)

def readJson (files : VmFiles Content) (name : String) : Option Value :=
  (files[name]?).bind formats.json

def readText (files : VmFiles Content) (name : String) : Option String :=
  (files[name]?).bind formats.text

/-- The renamed residual of the candidate, or else the one under its first name. -/
def candidateResidual (files : VmFiles Content) : Option Content :=
  (files[candidateResidualFile]?).or files[residualFile]?

def candidateResidualJson (files : VmFiles Content) : Option Value :=
  (readJson formats files candidateResidualFile).or (readJson formats files residualFile)

section

variable (court : String) (oracle candidate : VmFiles Content)

def compareTexts (id : String) (rootCause : Option String) (oracleName candidateName : String) :
    Option (List Residual) := do
  let left ← oracle[oracleName]?
  let leftText ← formats.text left
  let right ← candidate[candidateName]?
  let rightText ← formats.text right
  return if leftText ≠ rightText then
    [{ fileMismatch formats.digest id court "pkgbuild-mutation" left right with rootCause }]
  else []

def compareMutation : Option (List Residual) := do
  let before ← compareTexts formats court oracle candidate (court ++ "-pkgbuild-before")
    (some ("the pre-mutation PKGBUILDs differ — the git refresh was not a no-op or the fixture " ++
      "overlays diverge")) "pkgbuild-before.txt" "candidate-pkgbuild-before.txt"
  let after ← compareTexts formats court oracle candidate (court ++ "-pkgbuild-after") none
    "pkgbuild-after.txt" "candidate-pkgbuild-after.txt"
  return before ++ after

def compareScxFiles : Option (List Residual) := do
  let introspection ← readText formats oracle "introspect.txt"
  let properties ← readJson formats oracle "oracle-properties.json"
  let interface ← readJson formats candidate "candidate-interface.json"
  let readback ← readJson formats candidate "candidate-readback.json"
  return compareScxInterface formats.printing court introspection properties interface readback

def compareTerminalFiles : Option (List Residual) := do
  let left ← readJson formats oracle "terminal-matrix.json"
  let right ← readJson formats candidate "terminal-matrix.json"
  return compareTerminalMatrix formats.printing court left right

def compareTransactionFiles : Option (List Residual) := do
  let left ← readJson formats oracle "oracle-transaction.json"
  let right ← readJson formats candidate "candidate-transaction.json"
  return compareVmTransactions formats.printing court left right

def compareObservationFiles (model : CompanionModel) : Option (List Residual) := do
  let oracleResidual ← readJson formats oracle residualFile
  let candidateResidual ← candidateResidualJson formats candidate
  let oracleState ← readJson formats oracle "oracle-state.json"
  let candidateState ← readJson formats candidate "candidate-state.json"
  (compareVmObservations court model oracleResidual candidateResidual oracleState
    candidateState).toOption

def unexpectedOutcome (side expected rootCause : String) (outcome : Value) : List Residual :=
  let exit := (outcome.strAt "exit_outcome").getD "unknown"
  let code := (outcome.strAt "exit_rc").getD ""
  if exit ≠ expected then
    [{ id := court ++ "-" ++ side ++ "-expected-" ++ expected
       court
       layer := "gap-010-" ++ side
       oracleFingerprint := exit
       candidateFingerprint := exit ++ " rc=" ++ code
       classification := "divergence_expectation"
       rootCause := some rootCause }]
  else []

variable [DecidableEq Content]

def compareMakepkg : Option (List Residual) := do
  let left ← oracle[packagesFile]?
  let right ← candidate[packagesFile]?
  let drift :=
    if formats.digest left ≠ formats.digest right then
      [packageDrift formats.digest court left right]
    else []
  let chains ← compareNames
    (fun name => fileMismatch formats.digest (court ++ "-" ++ name) court "exec-chain")
    oracle candidate makepkgFiles
  return drift ++ chains

def compareResiduals : Option (List Residual) := do
  let left ← oracle[residualFile]?
  let right ← candidateResidual candidate
  return differing (packageDrift formats.digest court) left right

def compareGuiDrive : Option (List Residual) := do
  let drift ← compareResiduals formats court oracle candidate
  let semantic ← compareNames (fun _ =>
    fileMismatch formats.digest (court ++ "-semantic-sequence") court "gui-drive-semantic")
    oracle candidate ["drive-semantic.json"]
  return drift ++ semantic

def compareLocale (locale : String) : Option (List Residual) :=
  compareNames (fun _ =>
    fileMismatch formats.digest (court ++ "-i18n-" ++ locale) court "i18n-rendered")
    oracle candidate [localeFile locale]

def compareI18nRendered : Option (List Residual) := do
  let drift ← compareResiduals formats court oracle candidate
  let german ← compareLocale formats court oracle candidate "de_DE"
  let chinese ← compareLocale formats court oracle candidate "zh_CN"
  return drift ++ german ++ chinese

def compareCloseTransaction : Option (List Residual) := do
  let drift ← compareResiduals formats court oracle candidate
  let oracleOutcome ← readJson formats oracle "close-outcome.json"
  let candidateOutcome ← readJson formats candidate "close-outcome.json"
  return drift ++
    unexpectedOutcome court "oracle" "crash"
      ("the oracle did not abort on close-during-transaction — the gap-010 race did not " ++
        "manifest; the documented witness (Qt QThread destroyed while running -> SIGABRT) " ++
          "is expected") oracleOutcome ++
    unexpectedOutcome court "candidate" "clean"
      ("the candidate did not exit cleanly on close-during-transaction — the D-008 correction " ++
        "(runtime-owned tasks) regressed") candidateOutcome

def VmComparator.compare (model : CompanionModel) : VmComparator → Option (List Residual)
  | .scx => compareScxFiles formats court oracle candidate
  | .packaging => comparePackaging formats.digest oracle candidate court
  | .boot => compareBoot formats.digest oracle candidate court
  | .makepkg => compareMakepkg formats court oracle candidate
  | .guiDrive => compareGuiDrive formats court oracle candidate
  | .i18nRendered => compareI18nRendered formats court oracle candidate
  | .closeTransaction => compareCloseTransaction formats court oracle candidate
  | .observations => compareObservationFiles formats court oracle candidate model
  | .terminalMatrix => compareTerminalFiles formats court oracle candidate
  | .transactions => compareTransactionFiles formats court oracle candidate
  | .mutation => compareMutation formats court oracle candidate

end

end

def VmComparator.oracleNames : VmComparator → List String
  | .scx => ["introspect.txt", "oracle-properties.json"]
  | .packaging | .boot => [packagesFile]
  | .makepkg => packagesFile :: makepkgFiles
  | .guiDrive => [residualFile, "drive-semantic.json"]
  | .i18nRendered => [residualFile, localeFile "de_DE", localeFile "zh_CN"]
  | .closeTransaction => [residualFile, "close-outcome.json"]
  | .observations => [residualFile, "oracle-state.json"]
  | .terminalMatrix => ["terminal-matrix.json"]
  | .transactions => ["oracle-transaction.json"]
  | .mutation => ["pkgbuild-before.txt", "pkgbuild-after.txt"]

def VmComparator.candidateNames : VmComparator → List String
  | .scx => ["candidate-interface.json", "candidate-readback.json"]
  | .packaging | .boot => [packagesFile]
  | .makepkg => packagesFile :: makepkgFiles
  | .guiDrive => [candidateResidualFile, residualFile, "drive-semantic.json"]
  | .i18nRendered =>
      [candidateResidualFile, residualFile, localeFile "de_DE", localeFile "zh_CN"]
  | .closeTransaction => [candidateResidualFile, residualFile, "close-outcome.json"]
  | .observations => [candidateResidualFile, residualFile, "candidate-state.json"]
  | .terminalMatrix => ["terminal-matrix.json"]
  | .transactions => ["candidate-transaction.json"]
  | .mutation => ["candidate-pkgbuild-before.txt", "candidate-pkgbuild-after.txt"]

def VmComparator.listing : VmComparator → Option (List String)
  | .packaging => some []
  | .boot => some rawTraces
  | _ => none

/-- A listed directory is read under every name: a missing file shows as well. -/
def VmComparator.ReadsOracle (comparator : VmComparator) (name : String) : Prop :=
  name ∈ comparator.oracleNames ∨
    ∃ neverCompared, comparator.listing = some neverCompared ∧ name ∉ neverCompared

def VmComparator.ReadsCandidate {Content : Type} (comparator : VmComparator)
    (oracle : VmFiles Content) (name : String) : Prop :=
  name ∈ comparator.candidateNames ∨
    ∃ neverCompared, comparator.listing = some neverCompared ∧ name ∉ neverCompared ∧
      name ∈ oracle

section

variable {Content : Type}

theorem compareNames_congr [DecidableEq Content]
    (residual : String → Content → Content → Residual)
    (oracle otherOracle candidate otherCandidate : VmFiles Content) (names : List String)
    (sameOracle : ∀ name ∈ names, oracle[name]? = otherOracle[name]?)
    (sameCandidate : ∀ name ∈ names, candidate[name]? = otherCandidate[name]?) :
    compareNames residual oracle candidate names =
      compareNames residual otherOracle otherCandidate names := by
  induction names with
  | nil => rfl
  | cons name names ih =>
      rw [List.forall_mem_cons] at sameOracle sameCandidate
      rw [compareNames, compareNames, sameOracle.1, sameCandidate.1,
        ih sameOracle.2 sameCandidate.2]

theorem keys_filter_congr (kept : String → Bool) (left right : VmFiles Content)
    (same : ∀ name : String, kept name = true → (name ∈ left ↔ name ∈ right)) :
    left.keys.filter kept = right.keys.filter kept := by
  have ordered : ∀ files : VmFiles Content,
      (files.keys.filter kept).Pairwise fun first second => compare first second = .lt :=
    fun files => files.ordered_keys.filter kept
  have distinct : ∀ files : VmFiles Content, (files.keys.filter kept).Nodup := by
    intro files
    refine (ordered files).imp ?_
    rintro first _ before rfl
    have self : compare first first = .eq := Std.ReflCmp.compare_self
    rw [self] at before
    cases before
  refine List.Perm.eq_of_pairwise ?_ (ordered left) (ordered right) ?_
  · intro first second _ _ before after
    have swapped : compare first second = (compare second first).swap := Std.OrientedCmp.eq_swap
    rw [swapped, after] at before
    cases before
  · rw [List.perm_ext_iff_of_nodup (distinct left) (distinct right)]
    intro name
    rw [List.mem_filter, List.mem_filter, Std.TreeMap.mem_keys, Std.TreeMap.mem_keys]
    exact and_congr_left (same name)

section

variable (formats : VmFormats Content) (model : CompanionModel) (court : String)

theorem candidateResidual_congr (files others : VmFiles Content)
    (renamed : files[candidateResidualFile]? = others[candidateResidualFile]?)
    (plain : files[residualFile]? = others[residualFile]?) :
    candidateResidual files = candidateResidual others ∧
      candidateResidualJson formats files = candidateResidualJson formats others := by
  simp only [candidateResidual, candidateResidualJson, readJson, renamed, plain, and_self]

variable [DecidableEq Content] (oracle otherOracle candidate otherCandidate : VmFiles Content)

theorem compareSurface_congr (layer : String) (neverCompared : List String)
    (compared : packagesFile ∉ neverCompared)
    (sameOracle : ∀ name : String, name ∉ neverCompared → oracle[name]? = otherOracle[name]?)
    (sameCandidate : ∀ name : String, name = packagesFile ∨ (name ∉ neverCompared ∧ name ∈ oracle) →
      candidate[name]? = otherCandidate[name]?) :
    compareSurface formats.digest layer neverCompared oracle candidate court =
      compareSurface formats.digest layer neverCompared otherOracle otherCandidate court := by
  have packages : ∀ name ∈ [packagesFile], name = packagesFile := by simp
  have names : (oracle.keys.filter fun name => name ≠ packagesFile ∧ name ∉ neverCompared) =
      otherOracle.keys.filter fun name => name ≠ packagesFile ∧ name ∉ neverCompared := by
    refine keys_filter_congr _ oracle otherOracle ?_
    intro name kept
    rw [decide_eq_true_eq] at kept
    rw [Std.TreeMap.mem_iff_isSome_getElem?, Std.TreeMap.mem_iff_isSome_getElem?,
      sameOracle name kept.2]
  have drift := compareNames_congr (fun _ => packageDrift formats.digest court) oracle otherOracle
    candidate otherCandidate [packagesFile]
    (fun name listed => sameOracle name (packages name listed ▸ compared))
    (fun name listed => sameCandidate name (Or.inl (packages name listed)))
  have surface := compareNames_congr
    (fun name => fileMismatch formats.digest (court ++ "-" ++ name) court layer) oracle otherOracle
    candidate otherCandidate
    (oracle.keys.filter fun name => name ≠ packagesFile ∧ name ∉ neverCompared)
    (fun name listed => sameOracle name (by
      simpa using (of_decide_eq_true (List.mem_filter.mp listed).2).2))
    (fun name listed => sameCandidate name (by
      obtain ⟨key, kept⟩ := List.mem_filter.mp listed
      exact Or.inr ⟨(of_decide_eq_true kept).2, Std.TreeMap.mem_keys.mp key⟩))
  rw [compareSurface, compareSurface, drift, surface, names]

section

variable (comparator : VmComparator)
  (sameOracle : ∀ name : String, comparator.ReadsOracle name →
    oracle[name]? = otherOracle[name]?)
  (sameCandidate : ∀ name : String, comparator.ReadsCandidate oracle name →
    candidate[name]? = otherCandidate[name]?)

include sameOracle sameCandidate in
theorem surface_frame (layer : String) (neverCompared : List String)
    (listing : comparator.listing = some neverCompared) (compared : packagesFile ∉ neverCompared)
    (packages : packagesFile ∈ comparator.candidateNames) :
    compareSurface formats.digest layer neverCompared oracle candidate court =
      compareSurface formats.digest layer neverCompared otherOracle otherCandidate court := by
  refine compareSurface_congr formats court oracle otherOracle candidate otherCandidate layer
    neverCompared compared ?_ ?_
  · intro name examined
    exact sameOracle name (Or.inr ⟨neverCompared, listing, examined⟩)
  · rintro name (rfl | ⟨examined, held⟩)
    · exact sameCandidate packagesFile (Or.inl packages)
    · exact sameCandidate name (Or.inr ⟨neverCompared, listing, examined, held⟩)

omit [DecidableEq Content] in
include sameCandidate in
theorem residual_frame
    (first : comparator.candidateNames.take 2 = [candidateResidualFile, residualFile]) :
    candidateResidual candidate = candidateResidual otherCandidate ∧
      candidateResidualJson formats candidate = candidateResidualJson formats otherCandidate := by
  have read : ∀ name ∈ [candidateResidualFile, residualFile],
      candidate[name]? = otherCandidate[name]? := fun name member =>
    sameCandidate name (Or.inl (List.mem_of_mem_take (first ▸ member)))
  exact candidateResidual_congr formats candidate otherCandidate (read _ (by simp))
    (read _ (by simp))

include sameOracle sameCandidate in
/-- The result of a comparator depends on nothing but the files that it reads. -/
theorem compare_frame :
    comparator.compare formats court oracle candidate model =
      comparator.compare formats court otherOracle otherCandidate model := by
  have named : ∀ name ∈ comparator.oracleNames, oracle[name]? = otherOracle[name]? :=
    fun name read => sameOracle name (Or.inl read)
  have candidateNamed : ∀ name ∈ comparator.candidateNames,
      candidate[name]? = otherCandidate[name]? :=
    fun name read => sameCandidate name (Or.inl read)
  have residuals := residual_frame formats oracle candidate otherCandidate comparator sameCandidate
  have surface := surface_frame formats court oracle otherOracle candidate otherCandidate
    comparator sameOracle sameCandidate
  cases comparator with
  | packaging => exact surface "packaging-surface" [] rfl (by decide) (by decide)
  | boot => exact surface "boot-surface" rawTraces rfl (by decide) (by decide)
  | makepkg =>
      have chains := compareNames_congr
        (fun name => fileMismatch formats.digest (court ++ "-" ++ name) court "exec-chain")
        oracle otherOracle candidate otherCandidate makepkgFiles
        (fun name listed => named name (List.mem_cons_of_mem _ listed))
        (fun name listed => candidateNamed name (List.mem_cons_of_mem _ listed))
      simp only [VmComparator.compare, compareMakepkg, chains,
        named packagesFile List.mem_cons_self, candidateNamed packagesFile List.mem_cons_self]
  | guiDrive =>
      simp only [VmComparator.compare, compareGuiDrive, compareResiduals, compareNames,
        (residuals rfl).1, named residualFile (by decide),
        named "drive-semantic.json" (by decide), candidateNamed "drive-semantic.json" (by decide)]
  | i18nRendered =>
      simp only [VmComparator.compare, compareI18nRendered, compareResiduals, compareLocale,
        compareNames, (residuals rfl).1, named residualFile (by decide),
        named (localeFile "de_DE") (by decide), named (localeFile "zh_CN") (by decide),
        candidateNamed (localeFile "de_DE") (by decide),
        candidateNamed (localeFile "zh_CN") (by decide)]
  | closeTransaction =>
      simp only [VmComparator.compare, compareCloseTransaction, compareResiduals, readJson,
        (residuals rfl).1, named residualFile (by decide),
        named "close-outcome.json" (by decide), candidateNamed "close-outcome.json" (by decide)]
  | observations =>
      simp only [VmComparator.compare, compareObservationFiles, (residuals rfl).2, readJson,
        named residualFile (by decide), named "oracle-state.json" (by decide),
        candidateNamed "candidate-state.json" (by decide)]
  | scx =>
      simp only [VmComparator.compare, compareScxFiles, readText, readJson,
        named "introspect.txt" (by decide), named "oracle-properties.json" (by decide),
        candidateNamed "candidate-interface.json" (by decide),
        candidateNamed "candidate-readback.json" (by decide)]
  | terminalMatrix =>
      simp only [VmComparator.compare, compareTerminalFiles, readJson,
        named "terminal-matrix.json" (by decide), candidateNamed "terminal-matrix.json" (by decide)]
  | transactions =>
      simp only [VmComparator.compare, compareTransactionFiles, readJson,
        named "oracle-transaction.json" (by decide),
        candidateNamed "candidate-transaction.json" (by decide)]
  | mutation =>
      simp only [VmComparator.compare, compareMutation, compareTexts,
        named "pkgbuild-before.txt" (by decide), named "pkgbuild-after.txt" (by decide),
        candidateNamed "candidate-pkgbuild-before.txt" (by decide),
        candidateNamed "candidate-pkgbuild-after.txt" (by decide)]

end

end

end

end KernelManager
