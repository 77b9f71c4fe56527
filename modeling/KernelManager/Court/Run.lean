import KernelManager.Court.Case

/-! One run of a court: the verdict on a case and the files it leaves in the case directory. -/

namespace KernelManager

open FileTree (Listing)

structure EvidenceArtifact where
  path : String
  sha256 : String
  deriving DecidableEq, Repr

structure EvidenceRecord where
  court : String
  oracleRevision : String
  candidateRevision : String
  fixtureDigest : Option String
  normalizers : List (String × String)
  comparatorVersion : String
  result : String
  residualCount : Nat
  artifacts : List EvidenceArtifact
  deriving DecidableEq, Repr

/-- A file that is read as a value; any other text in it is malformed. -/
inductive JsonFile (Value : Type)
  | missing
  | malformed
  | holds (value : Value)
  deriving DecidableEq, Repr

structure CaseDirectory (Content : Type) where
  comparator : Option Comparator
  oracle : Option (Listing Content)
  candidate : Option (Listing Content)
  evidence : JsonFile EvidenceRecord
  residual : JsonFile (List Residual)

inductive Verdict
  | pass
  | fail (residuals : List Residual)
  deriving DecidableEq, Repr

structure CourtOutcome (Content : Type) where
  verdict : Option Verdict
  directory : CaseDirectory Content

section

variable {Content : Type} (digest : Content → String)

/-- A side that cannot be hashed adds nothing, a missing one neither. -/
def EvidenceRecord.addDirectory (record : EvidenceRecord) (side : Option (Listing Content))
    (label : String) : EvidenceRecord :=
  match side.bind (fingerprintTree digest) with
  | none => record
  | some files =>
      { record with
        artifacts := record.artifacts ++ files.toList.map fun file =>
          { path := label ++ "/" ++ file.1, sha256 := file.2 } }

def passRecord (caseId : String) (oracleCommit : Option String) : EvidenceRecord where
  court := caseId
  oracleRevision := oracleCommit.getD "unknown"
  candidateRevision := "0.1.0"
  fixtureDigest := none
  normalizers := [("stdout-capture", "1.0.0")]
  comparatorVersion := "1.0.0"
  result := "pass"
  residualCount := 0
  artifacts := []

def loadCase (caseId : String) (directory : CaseDirectory Content) : Option Case :=
  match splitOnce '/' caseId with
  | none => none
  | some (domain, name) =>
      directory.comparator.map fun comparator => { domain, name, comparator }

def courtRun (caseId : String) (oracleCommit : Option String)
    (directory : CaseDirectory Content) : CourtOutcome Content :=
  match loadCase caseId directory with
  | none => { verdict := none, directory }
  | some case =>
      match case.compare digest directory.oracle directory.candidate with
      | none => { verdict := none, directory }
      | some residuals =>
          if residuals.isEmpty then
            let record := ((passRecord caseId oracleCommit).addDirectory digest directory.oracle
              "oracle").addDirectory digest directory.candidate "candidate"
            { verdict := some .pass, directory := { directory with evidence := .holds record } }
          else
            { verdict := some (.fail residuals)
              directory := { directory with residual := .holds residuals } }

def ComparesFile (directory : CaseDirectory Content) (side : Option (Listing Content)) : Prop :=
  ∃ comparator, directory.comparator = some comparator ∧
    ∃ path content, SideHolds side path content ∧ comparator.ignores path = false

def Unjudged (caseId : String) (directory : CaseDirectory Content) : Prop :=
  loadCase caseId directory = none ∨ ¬SideReadable directory.oracle ∨
    ¬SideReadable directory.candidate

def SidesAgree (case : Case) (directory : CaseDirectory Content) : Prop :=
  ∃ oracle candidate, fingerprint digest directory.oracle = some oracle ∧
    fingerprint digest directory.candidate = some candidate ∧
    ∀ path, case.comparator.ignores path = false → oracle[path]? = candidate[path]?

theorem compare_isSome (case : Case) (oracle candidate : Option (Listing Content)) :
    (case.compare digest oracle candidate).isSome = true ↔
      SideReadable oracle ∧ SideReadable candidate := by
  rw [← fingerprint_readable digest oracle, ← fingerprint_readable digest candidate]
  unfold Case.compare
  cases fingerprint digest oracle <;> cases fingerprint digest candidate <;> simp

theorem compare_nil (case : Case) (directory : CaseDirectory Content) :
    case.compare digest directory.oracle directory.candidate = some [] ↔
      SidesAgree digest case directory := by
  unfold Case.compare
  constructor
  · intro compared
    split at compared
    · cases compared
    · rename_i oracle oracleRead
      split at compared
      · cases compared
      · rename_i candidate candidateRead
        have nothing := (residuals_nil case oracle candidate).mp (Option.some.inj compared)
        exact ⟨oracle, candidate, oracleRead, candidateRead, nothing⟩
  · rintro ⟨oracle, candidate, oracleRead, candidateRead, same⟩
    simp only [oracleRead, candidateRead, (residuals_nil case oracle candidate).mpr same]

theorem addDirectory_result (record : EvidenceRecord) (side : Option (Listing Content))
    (label : String) : (record.addDirectory digest side label).result = record.result := by
  unfold EvidenceRecord.addDirectory
  split <;> rfl

theorem courtRun_agree (caseId : String) (oracleCommit : Option String)
    (directory : CaseDirectory Content) (case : Case)
    (loaded : loadCase caseId directory = some case) (agree : SidesAgree digest case directory) :
    ∃ record : EvidenceRecord, record.result = "pass" ∧
      courtRun digest caseId oracleCommit directory =
        { verdict := some .pass, directory := { directory with evidence := .holds record } } := by
  unfold courtRun
  rw [loaded]
  simp only [(compare_nil digest case directory).mpr agree, List.isEmpty_nil, ↓reduceIte]
  refine ⟨_, ?_, rfl⟩
  rw [addDirectory_result, addDirectory_result]
  rfl

theorem courtRun_cases (caseId : String) (oracleCommit : Option String)
    (directory : CaseDirectory Content) :
    (Unjudged caseId directory ∧
        courtRun digest caseId oracleCommit directory = { verdict := none, directory }) ∨
      (¬Unjudged caseId directory ∧ ∃ case, loadCase caseId directory = some case ∧
        ((SidesAgree digest case directory ∧ ∃ record : EvidenceRecord, record.result = "pass" ∧
            courtRun digest caseId oracleCommit directory =
              { verdict := some .pass
                directory := { directory with evidence := .holds record } }) ∨
          (¬SidesAgree digest case directory ∧ ∃ residuals : List Residual, residuals ≠ [] ∧
            courtRun digest caseId oracleCommit directory =
              { verdict := some (.fail residuals)
                directory := { directory with residual := .holds residuals } }))) := by
  cases loaded : loadCase caseId directory with
  | none =>
      left
      refine ⟨Or.inl loaded, ?_⟩
      simp only [courtRun, loaded]
  | some case =>
      have judged := compare_isSome digest case directory.oracle directory.candidate
      have passes := compare_nil digest case directory
      cases compared : case.compare digest directory.oracle directory.candidate with
      | none =>
          left
          rw [compared] at judged
          refine ⟨Or.inr ?_, by simp only [courtRun, loaded, compared]⟩
          rw [← not_and_or, ← judged]
          simp
      | some residuals =>
          right
          rw [compared] at judged passes
          obtain ⟨oracleRead, candidateRead⟩ := judged.mp rfl
          refine ⟨?_, case, rfl, ?_⟩
          · rintro (unloaded | unread | unread)
            · rw [loaded] at unloaded
              cases unloaded
            · exact unread oracleRead
            · exact unread candidateRead
          · cases residuals with
            | nil =>
                have agree := passes.mp rfl
                exact Or.inl ⟨agree, courtRun_agree digest caseId oracleCommit directory case
                  loaded agree⟩
            | cons residual residuals =>
                right
                refine ⟨?_, residual :: residuals, List.cons_ne_nil _ _, ?_⟩
                · intro agree
                  cases passes.mpr agree
                · simp only [courtRun, loaded, compared, List.isEmpty_cons, Bool.false_eq_true,
                    ↓reduceIte]

theorem loadCase_comparator (caseId : String) (case : Case) (directory : CaseDirectory Content)
    (loaded : loadCase caseId directory = some case) :
    directory.comparator = some case.comparator := by
  unfold loadCase at loaded
  split at loaded
  · cases loaded
  · obtain ⟨comparator, found, rfl⟩ := Option.map_eq_some_iff.mp loaded
    exact found

theorem comparesFile_iff (case : Case) (directory : CaseDirectory Content)
    (known : directory.comparator = some case.comparator) (side : Option (Listing Content))
    (files : Fingerprints) (read : fingerprint digest side = some files) :
    ComparesFile directory side ↔
      ∃ path, path ∈ files ∧ case.comparator.ignores path = false := by
  simp only [ComparesFile, known, Option.some.injEq, exists_eq_left',
    fingerprint_mem digest side files read]
  constructor
  · rintro ⟨path, content, held, compared⟩
    exact ⟨path, ⟨content, held⟩, compared⟩
  · rintro ⟨path, ⟨content, held⟩, compared⟩
    exact ⟨path, content, held, compared⟩

theorem agree_comparesFile (case : Case) (directory : CaseDirectory Content)
    (known : directory.comparator = some case.comparator)
    (agree : SidesAgree digest case directory) :
    ComparesFile directory directory.oracle ↔ ComparesFile directory directory.candidate := by
  obtain ⟨oracle, candidate, oracleRead, candidateRead, same⟩ := agree
  rw [comparesFile_iff digest case directory known _ oracle oracleRead,
    comparesFile_iff digest case directory known _ candidate candidateRead]
  have both : ∀ path, case.comparator.ignores path = false →
      (path ∈ oracle ↔ path ∈ candidate) := by
    intro path compared
    rw [Std.TreeMap.mem_iff_isSome_getElem?, Std.TreeMap.mem_iff_isSome_getElem?,
      same path compared]
  constructor
  · rintro ⟨path, member, compared⟩
    exact ⟨path, (both path compared).mp member, compared⟩
  · rintro ⟨path, member, compared⟩
    exact ⟨path, (both path compared).mpr member, compared⟩

theorem agree_of_empty (case : Case) (directory : CaseDirectory Content)
    (known : directory.comparator = some case.comparator)
    (oracleReadable : SideReadable directory.oracle)
    (candidateReadable : SideReadable directory.candidate)
    (oracleEmpty : ¬ComparesFile directory directory.oracle)
    (candidateEmpty : ¬ComparesFile directory directory.candidate) :
    SidesAgree digest case directory := by
  rw [← fingerprint_readable digest] at oracleReadable candidateReadable
  obtain ⟨oracle, oracleRead⟩ := Option.isSome_iff_exists.mp oracleReadable
  obtain ⟨candidate, candidateRead⟩ := Option.isSome_iff_exists.mp candidateReadable
  rw [comparesFile_iff digest case directory known _ oracle oracleRead] at oracleEmpty
  rw [comparesFile_iff digest case directory known _ candidate candidateRead] at candidateEmpty
  refine ⟨oracle, candidate, oracleRead, candidateRead, ?_⟩
  intro path compared
  have noOracle : path ∉ oracle := fun member => oracleEmpty ⟨path, member, compared⟩
  have noCandidate : path ∉ candidate := fun member => candidateEmpty ⟨path, member, compared⟩
  rw [Std.TreeMap.getElem?_eq_none noOracle, Std.TreeMap.getElem?_eq_none noCandidate]

/-- A pass speaks about files on both sides exactly if some side holds a compared file or
there is no verdict at all. -/
theorem courtRun_pass_iff (caseId : String) (oracleCommit : Option String)
    (directory : CaseDirectory Content) :
    ((courtRun digest caseId oracleCommit directory).verdict = some .pass →
        ComparesFile directory directory.oracle ∧ ComparesFile directory directory.candidate) ↔
      Unjudged caseId directory ∨ ComparesFile directory directory.oracle ∨
        ComparesFile directory directory.candidate := by
  rcases courtRun_cases digest caseId oracleCommit directory with
    ⟨unjudged, outcome⟩ |
      ⟨judged, case, loaded, ⟨agree, record, _, outcome⟩ | ⟨differ, residuals, _, outcome⟩⟩
  · simp [outcome, unjudged]
  · have known := loadCase_comparator caseId case directory loaded
    have both := agree_comparesFile digest case directory known agree
    simp [outcome, judged, both]
  · have spoken : ComparesFile directory directory.oracle ∨
        ComparesFile directory directory.candidate := by
      by_contra silent
      obtain ⟨oracleEmpty, candidateEmpty⟩ := not_or.mp silent
      simp only [Unjudged, not_or, not_not] at judged
      obtain ⟨_, oracleReadable, candidateReadable⟩ := judged
      exact differ (agree_of_empty digest case directory
        (loadCase_comparator caseId case directory loaded) oracleReadable candidateReadable
        oracleEmpty candidateEmpty)
    simp [outcome, spoken]

end

namespace Sample

def uncaptured : CaseDirectory String where
  comparator := some { ignore := [] }
  oracle := none
  candidate := none
  evidence := .missing
  residual := .missing

end Sample

theorem uncaptured_passes :
    ¬((courtRun id "scx/loader-interface" none Sample.uncaptured).verdict = some .pass →
      ComparesFile Sample.uncaptured Sample.uncaptured.oracle ∧
        ComparesFile Sample.uncaptured Sample.uncaptured.candidate) := by
  have loaded : loadCase "scx/loader-interface" Sample.uncaptured =
      some { domain := "scx", name := "loader-interface", comparator := { ignore := [] } } := by
    decide
  obtain ⟨record, _, outcome⟩ := courtRun_agree id "scx/loader-interface" none Sample.uncaptured _
    loaded ⟨∅, ∅, rfl, rfl, fun _ _ => rfl⟩
  rw [outcome]
  intro sound
  obtain ⟨⟨_, _, _, _, ⟨_, missing, _⟩, _⟩, _⟩ := sound rfl
  cases missing

end KernelManager
