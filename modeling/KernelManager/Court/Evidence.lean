import KernelManager.Court.Run
import KernelManager.Library.Machine

/-! The evidence and the residual ledger of a case over many runs of its court. -/

namespace KernelManager

open FileTree (Listing)

def Verdict.residuals : Verdict → List Residual
  | .pass => []
  | .fail residuals => residuals

structure CourtState (Content : Type) where
  directory : CaseDirectory Content
  latest : Option Verdict

inductive CourtEvent (Content : Type)
  | replaceSides (oracle candidate : Option (Listing Content))
  | courtRun (oracleCommit : Option String)

def EvidencePasses (evidence : JsonFile EvidenceRecord) : Prop :=
  ∃ record, evidence = .holds record ∧ record.result = "pass"

def receiptResult : JsonFile EvidenceRecord → String
  | .holds record => record.result
  | .missing | .malformed => "unrecorded"

def Recorded {Content : Type} (state : CourtState Content) : Prop :=
  ∀ verdict, state.latest = some verdict →
    (EvidencePasses state.directory.evidence ↔ verdict = .pass) ∧
      (state.directory.residual = .missing ∨
        state.directory.residual = .holds verdict.residuals)

theorem receiptResult_pass (evidence : JsonFile EvidenceRecord) :
    receiptResult evidence = "pass" ↔ EvidencePasses evidence := by
  cases evidence <;> simp [receiptResult, EvidencePasses]

theorem recorded_receipt {Content : Type} (state : CourtState Content) (verdict : Verdict)
    (recorded : Recorded state) (reached : state.latest = some verdict) :
    receiptResult state.directory.evidence = "pass" ↔ verdict = .pass := by
  rw [receiptResult_pass]
  exact (recorded verdict reached).1

section

variable {Content : Type} (digest : Content → String) (caseId : String)

def courtStep (state : CourtState Content) : CourtEvent Content → CourtState Content
  | .replaceSides oracle candidate =>
      { state with directory := { state.directory with oracle, candidate } }
  | .courtRun oracleCommit =>
      let outcome := courtRun digest caseId oracleCommit state.directory
      { directory := outcome.directory, latest := outcome.verdict.or state.latest }

/-- No ledger is left when the sides agree, and no pass is left when they differ. -/
def NothingStale (directory : CaseDirectory Content) : Prop :=
  ∀ case, loadCase caseId directory = some case → ¬Unjudged caseId directory →
    (SidesAgree digest case directory →
      directory.residual = .missing ∨ directory.residual = .holds []) ∧
    (¬SidesAgree digest case directory → ¬EvidencePasses directory.evidence)

def CourtEvent.Clean (state : CourtState Content) : CourtEvent Content → Prop
  | .replaceSides _ _ => True
  | .courtRun _ => NothingStale digest caseId state.directory

theorem courtStep_recorded (state : CourtState Content) (event : CourtEvent Content)
    (before : Recorded state) :
    Recorded (courtStep digest caseId state event) ↔ event.Clean digest caseId state := by
  cases event with
  | replaceSides oracle candidate =>
      simp only [CourtEvent.Clean, iff_true]
      exact before
  | courtRun oracleCommit =>
      simp only [CourtEvent.Clean]
      rcases courtRun_cases digest caseId oracleCommit state.directory with
        ⟨unjudged, outcome⟩ |
          ⟨judged, case, loaded, ⟨agree, record, passes, outcome⟩ |
            ⟨differ, residuals, _, outcome⟩⟩
      · have kept : courtStep digest caseId state (.courtRun oracleCommit) = state := by
          simp [courtStep, outcome]
        rw [kept]
        exact iff_of_true before fun _ _ judged => absurd unjudged judged
      · have evidence : EvidencePasses (.holds record) := ⟨record, rfl, passes⟩
        simp [Recorded, NothingStale, courtStep, outcome, loaded, judged, agree, evidence,
          Verdict.residuals]
      · simp [Recorded, NothingStale, courtStep, outcome, loaded, judged, differ,
          Verdict.residuals]

/-- From a case without a verdict the files describe every latest verdict exactly if every
run finds nothing stale. -/
theorem evidence_recorded_iff (directory : CaseDirectory Content)
    (events : List (CourtEvent Content)) :
    Machine.Always (courtStep digest caseId) Recorded { directory, latest := none } events ↔
      Machine.Admissible (courtStep digest caseId)
        (fun state event => event.Clean digest caseId state) { directory, latest := none }
        events := by
  have unreached : Recorded { directory, latest := none } := by
    intro verdict reached
    cases reached
  exact Machine.always_iff_admissible (fun _ => True) (fun _ _ _ _ => trivial)
    (fun state event _ before _ => courtStep_recorded digest caseId state event before) trivial
    unreached (Machine.admissible_of_forall (fun _ _ => trivial) _ _)

end

namespace Sample

def captured (oracle candidate : String) : CaseDirectory String where
  comparator := some { ignore := [] }
  oracle := some (.file "argv" oracle .done)
  candidate := some (.file "argv" candidate .done)
  evidence := .missing
  residual := .missing

def regression : List (CourtEvent String) :=
  [.courtRun none,
    .replaceSides (some (.file "argv" "pacman -U" .done)) (some (.file "argv" "pacman -S" .done)),
    .courtRun none]

end Sample

theorem fingerprint_single (content : String) :
    fingerprint id (some (.file "argv" content .done)) =
      some ((∅ : Fingerprints).insert "argv" content) := by
  have path : FileTree.joinPath "" "argv" = "argv" := by decide
  simp [fingerprint, fingerprintTree, FileTree.walk, FileTree.readDir, path]

theorem sidesAgree_captured (case : Case) (directory : CaseDirectory String)
    (oracle candidate : String)
    (oracleSide : directory.oracle = some (.file "argv" oracle .done))
    (candidateSide : directory.candidate = some (.file "argv" candidate .done))
    (compared : case.comparator.ignores "argv" = false) :
    SidesAgree id case directory ↔ oracle = candidate := by
  unfold SidesAgree
  rw [oracleSide, candidateSide, fingerprint_single, fingerprint_single]
  constructor
  · rintro ⟨_, _, oracleRead, candidateRead, same⟩
    obtain rfl := Option.some.inj oracleRead
    obtain rfl := Option.some.inj candidateRead
    simpa using same "argv" compared
  · rintro rfl
    exact ⟨_, _, rfl, rfl, fun _ _ => rfl⟩

/-- The evidence of an earlier pass survives a failing run. -/
theorem regression_keepsPass :
    ¬Machine.Always (courtStep id "scx/loader-interface") Recorded
      { directory := Sample.captured "pacman -U" "pacman -U", latest := none }
      Sample.regression := by
  rintro ⟨_, _, afterChange, afterFail⟩
  let case : Case :=
    { domain := "scx", name := "loader-interface", comparator := { ignore := [] } }
  have loads : ∀ directory : CaseDirectory String, directory.comparator = some { ignore := [] } →
      loadCase "scx/loader-interface" directory = some case := by
    intro directory known
    have split : splitOnce '/' "scx/loader-interface" = some ("scx", "loader-interface") := by
      decide
    simp only [loadCase, split, known, Option.map_some, case]
  obtain ⟨record, passes, outcome⟩ := courtRun_agree id "scx/loader-interface" none
    (Sample.captured "pacman -U" "pacman -U") case (loads _ rfl)
    ((sidesAgree_captured case _ _ _ rfl rfl rfl).mpr rfl)
  have clean := (courtStep_recorded id "scx/loader-interface" _ _ afterChange).mp afterFail
  simp only [CourtEvent.Clean, courtStep, outcome] at clean
  refine (clean case (loads _ rfl) ?_).2 ?_ ⟨record, rfl, passes⟩
  · rintro (unloaded | unread | unread)
    · rw [loads _ rfl] at unloaded
      cases unloaded
    · exact unread fun _ same => by cases same; trivial
    · exact unread fun _ same => by cases same; trivial
  · rw [sidesAgree_captured case _ _ _ rfl rfl rfl]
    decide

end KernelManager
