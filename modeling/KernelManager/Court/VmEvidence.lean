import KernelManager.Court.Accessibility
import KernelManager.Court.Normalize

/-! The comparators of the VM courts that compare JSON documents. -/

namespace KernelManager

open Json (Value)

structure Printing where
  json : Value → String
  chains : List (List String) → String
  terminal : Option (List String) → String

def digestText (residual : Value) : String :=
  match residualDigest residual with
  | .ok digest => digest
  | .error error => "ERR:" ++ error

def compareMachines (court : String) (oracle candidate : Value) : List Residual :=
  let left := digestText oracle
  let right := digestText candidate
  if left ≠ right then [fixtureDrift court left right] else []

def compareVmObservations (court : String) (model : CompanionModel)
    (oracleResidual candidateResidual oracleState candidateState : Value) :
    Except String (List Residual) :=
  match candidateObservation candidateState with
  | .error error => .error ("candidate normalize: " ++ error)
  | .ok candidate =>
      .ok (compareMachines court oracleResidual candidateResidual ++
        compareObservations court model (oracleObservation oracleState) candidate)

section

variable (printing : Printing) (court : String)

def compareTerminalMatrix (oracle candidate : Value) : List Residual :=
  let left := terminalMatrixObservation oracle
  let right := terminalMatrixObservation candidate
  if left ≠ right then
    [deterministicMismatch (court ++ "-terminal-matrix") court "terminal-matrix"
      (printing.json left) (printing.json right)]
  else []

def chainMismatch {Chain : Type} [DecidableEq Chain] (field : String) (text : Chain → String)
    (oracle candidate : Chain) : List Residual :=
  if oracle ≠ candidate then
    [deterministicMismatch (court ++ "-transaction-" ++ field) court "transaction-chain"
      (text oracle) (text candidate)]
  else []

def compareTransactionObservations (oracle candidate : TransactionObservation) : List Residual :=
  chainMismatch court "probes" printing.chains oracle.probes candidate.probes ++
    chainMismatch court "execs" printing.chains oracle.execs candidate.execs ++
      chainMismatch court "terminal" printing.terminal oracle.terminal candidate.terminal

def compareVmTransactions (oracle candidate : Value) : List Residual :=
  compareTransactionObservations printing court (oracleTransactionObservation oracle)
    (candidateTransactionObservation candidate)

end

structure LoaderMethod where
  name : String
  signature : String
  deriving DecidableEq, Repr

structure LoaderProperty where
  name : String
  signature : String
  writable : Bool
  deriving DecidableEq, Repr

structure LoaderInterface where
  methods : List LoaderMethod
  properties : List LoaderProperty
  deriving DecidableEq, Repr

def splitWhitespace (line : String) : List String :=
  ((line.toList.splitOnP isWhitespace).filter (· ≠ [])).map String.ofList

def memberName (field : String) : Option String := stripStart field "."

def methodOfLine (line : String) : Option LoaderMethod :=
  match splitWhitespace line with
  | member :: kind :: signature :: _ =>
      if kind = "method" then
        (memberName member).map fun name =>
          { name, signature := if signature = "-" then "" else signature }
      else none
  | _ => none

def propertyOfLine (line : String) : Option LoaderProperty :=
  match splitWhitespace line with
  | member :: kind :: signature :: rest =>
      if kind = "property" then
        let flags := String.intercalate " " rest
        (memberName member).map fun name =>
          { name, signature, writable := contains flags "readwrite" || contains flags "writable" }
      else none
  | _ => none

def parseIntrospection (text : String) : LoaderInterface where
  methods := (lines text).filterMap methodOfLine
  properties := (lines text).filterMap propertyOfLine

def declaredMethod (method : Value) : LoaderMethod where
  name := (method.strAt "name").getD ""
  signature :=
    ((method.arrayAt "in_args").map fun arguments =>
      String.join (arguments.filterMap (·.strAt "type"))).getD ""

def declaredProperty (property : Value) : LoaderProperty where
  name := (property.strAt "name").getD ""
  signature := (property.strAt "type").getD ""
  writable :=
    let access := (property.strAt "access").getD ""
    decide (access = "readwrite" ∨ access = "write")

def readbackPairs : List (String × String) :=
  [("current_scheduler", "CurrentScheduler"), ("scheduler_mode", "SchedulerMode"),
    ("supported_schedulers", "SupportedSchedulers")]

section

variable (printing : Printing) (court : String)

def interfaceMismatch (kind name oracle candidate : String) : Residual :=
  deterministicMismatch (court ++ "-" ++ kind ++ "-" ++ name) court "scx-interface" oracle candidate

def compareMethod (real : LoaderInterface) (declared : LoaderMethod) : List Residual :=
  if declared ∈ real.methods then []
  else
    [interfaceMismatch court "method" declared.name "absent on the real loader"
      (declared.name ++ "(" ++ declared.signature ++ ")")]

def LoaderProperty.text (property : LoaderProperty) : String :=
  property.name ++ ":" ++ property.signature ++ " writable=" ++ toString property.writable

/-- The first property of this name is the one that is compared. -/
def compareProperty (real : LoaderInterface) (declared : LoaderProperty) : List Residual :=
  match real.properties.find? fun property => decide (property.name = declared.name) with
  | some property =>
      if property.signature ≠ declared.signature ∨ property.writable ≠ declared.writable then
        [interfaceMismatch court "property" declared.name property.text declared.text]
      else []
  | none =>
      [interfaceMismatch court "property" declared.name "absent on the real loader"
        (declared.name ++ ":" ++ declared.signature)]

def readbackMismatch (key oracle candidate : String) : Residual :=
  deterministicMismatch (court ++ "-readback-" ++ key) court "scx-readback" oracle candidate

def compareReadback (properties readback : Value) (keys : String × String) : List Residual :=
  match properties.get keys.2, readback.get keys.1 with
  | some oracle, some candidate =>
      if oracle ≠ candidate then
        [readbackMismatch court keys.1 (printing.json oracle) (printing.json candidate)]
      else []
  | none, some candidate =>
      [readbackMismatch court keys.1 "property missing from the real loader"
        (printing.json candidate)]
  | some oracle, none =>
      [readbackMismatch court keys.1 (printing.json oracle) "missing from the candidate readback"]
  | none, none => []

/-- A list that the candidate's interface lacks is not compared. -/
def compareScxInterface (introspection : String) (properties interface readback : Value) :
    List Residual :=
  let real := parseIntrospection introspection
  let methods := ((interface.arrayAt "methods").getD []).map declaredMethod
  let declared := ((interface.arrayAt "properties").getD []).map declaredProperty
  methods.flatMap (compareMethod court real) ++ declared.flatMap (compareProperty court real) ++
    readbackPairs.flatMap (compareReadback printing court properties readback)

end

def HasList (key : String) (document : Value) : Prop := (document.arrayAt key).isSome = true

theorem digestText_eq_error (residual : Value) :
    digestText residual = "ERR:" ++ missingPackages ↔ ¬HasList "installed_packages" residual := by
  unfold digestText HasList
  cases read : residualDigest residual with
  | error error =>
      unfold residualDigest at read
      split at read
      · rename_i missing
        obtain rfl := Except.error.inj read
        simp [missing]
      · cases read
  | ok digest =>
      have differs := residualDigest_ne_error residual digest read
      unfold residualDigest at read
      split at read
      · cases read
      · rename_i installed
        simp [installed, differs]

theorem compareMachines_nil (court : String) (oracle candidate : Value) :
    compareMachines court oracle candidate = [] ↔ digestText oracle = digestText candidate :=
  unlessSame_nil _ (digestText oracle) (digestText candidate)

theorem compareMachines_closed (court : String) (oracle candidate : Value) :
    (compareMachines court oracle candidate = [] →
        HasList "installed_packages" oracle ∧ HasList "installed_packages" candidate) ↔
      HasList "installed_packages" oracle ∨ HasList "installed_packages" candidate := by
  have left := digestText_eq_error oracle
  have right := digestText_eq_error candidate
  rw [compareMachines_nil]
  constructor
  · intro closed
    by_contra missing
    obtain ⟨noOracle, noCandidate⟩ := not_or.mp missing
    exact noOracle (closed ((left.mpr noOracle).trans (right.mpr noCandidate).symm)).1
  · intro carried same
    rw [same, right] at left
    have both : HasList "installed_packages" oracle ↔ HasList "installed_packages" candidate :=
      (not_iff_not.mp left).symm
    rcases carried with oracle | candidate
    · exact ⟨oracle, both.mp oracle⟩
    · exact ⟨both.mpr candidate, candidate⟩

section

variable (printing : Printing) (court : String)

theorem compareTerminalMatrix_nil (oracle candidate : Value) :
    compareTerminalMatrix printing court oracle candidate = [] ↔
      (scenariosOf oracle).map normalizedScenario =
        (scenariosOf candidate).map normalizedScenario := by
  rw [← Value.arrayOf_inj]
  exact unlessSame_nil _ (terminalMatrixObservation oracle) (terminalMatrixObservation candidate)

theorem scenariosOf_missing (state : Value) (missing : ¬HasList "scenarios" state) :
    scenariosOf state = [] := by
  rw [HasList, Bool.not_eq_true, Option.isSome_eq_false_iff, Option.isNone_iff_eq_none] at missing
  rw [scenariosOf, missing]
  rfl

theorem compareTerminalMatrix_closed (oracle candidate : Value) :
    (compareTerminalMatrix printing court oracle candidate = [] →
        HasList "scenarios" oracle ∧ HasList "scenarios" candidate) ↔
      (HasList "scenarios" oracle ∧ HasList "scenarios" candidate) ∨
        scenariosOf oracle ≠ [] ∨ scenariosOf candidate ≠ [] := by
  rw [compareTerminalMatrix_nil]
  constructor
  · intro closed
    by_contra passes
    obtain ⟨missing, empty⟩ := not_or.mp passes
    rw [not_or, not_not, not_not] at empty
    rw [empty.1, empty.2] at closed
    exact missing (closed rfl)
  · rintro (both | some)
    · exact fun _ => both
    · intro same
      have emptied : scenariosOf oracle = [] ↔ scenariosOf candidate = [] := by
        rw [← List.map_eq_nil_iff (f := normalizedScenario), same, List.map_eq_nil_iff]
      rw [ne_eq, emptied, or_self] at some
      constructor
      · by_contra missing
        exact some (emptied.mp (scenariosOf_missing oracle missing))
      · by_contra missing
        exact some (scenariosOf_missing candidate missing)

end

end KernelManager
