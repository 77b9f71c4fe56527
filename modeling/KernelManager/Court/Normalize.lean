import KernelManager.Court.Observation
import KernelManager.Scx

/-! The normalizers: what the comparators take out of the documents of the two sides. -/

namespace KernelManager

open Json (Value)

def nonEmpty (text : String) : Option String := if text.isEmpty then none else some text

def optStr (value : Option Value) : Option String := (value.bind Value.asStr).bind nonEmpty

def candidateRow (kernel : Value) : KernelRowObservable where
  raw := (kernel.strAt "raw").getD ""
  version := (kernel.strAt "display_version").getD ""
  category := (kernel.strAt "category").getD ""
  checked := ((kernel.get "checked_default").bind Value.asBool).getD false
  companions := (kernel.get "companions").map fun companions => {
    zfs := optStr (companions.get "zfs")
    nvidia := optStr (companions.get "nvidia")
    nvidiaOpen := optStr (companions.get "nvidia_open") }

def candidateObservation (state : Value) : Except String Observation :=
  match state.arrayAt "kernels" with
  | none => .error "candidate-state.json has no `kernels` array"
  | some kernels => .ok { rows := kernels.map candidateRow, dialogs := [] }

structure TransactionObservation where
  probes : List (List String)
  execs : List (List String)
  terminal : Option (List String)
  deriving DecidableEq, Repr

def strings (items : List Value) : List String := items.filterMap Value.asStr

def argvOf (event : Value) : List String := ((event.arrayAt "argv").map strings).getD []

def chainsAt (key : String) (state : Value) : List (List String) :=
  ((state.arrayAt key).map fun events => events.map argvOf).getD []

def oracleTransactionObservation (state : Value) : TransactionObservation where
  probes := chainsAt "probes" state
  execs := chainsAt "execs" state
  terminal := (state.get "terminal").map argvOf

def candidateTransactionObservation (state : Value) : TransactionObservation where
  probes := chainsAt "probes" state
  execs :=
    ((state.arrayAt "commands").map fun commands =>
      (commands.filterMap Value.asArray).map strings).getD []
  terminal := (state.arrayAt "terminal").map strings

def tmpMarker : String := "/tmp/tmp."

def maskWithin : Nat → List Char → List Char
  | 0, rest => rest
  | fuel + 1, rest =>
      match Scan.find tmpMarker.toList rest with
      | none => rest
      | some position =>
          let after := rest.drop (position + tmpMarker.length)
          rest.take position ++ tmpMarker.toList ++ ['X'] ++
            maskWithin fuel (after.dropWhile Char.isAlphanum)

def mask (text : String) : String := String.ofList (maskWithin text.length text.toList)

def normalizeTmpPaths (value : Value) : Value := value.mapStrings mask

def normalizedScenario (scenario : Value) : Value :=
  Value.objectOf [
    ("exit", .integer (((scenario.get "exit").bind Value.asI64).getD (-1))),
    ("scenario", .string ((scenario.strAt "scenario").getD "")),
    ("stderr", (scenario.get "stderr").getD .null),
    ("stdout", normalizeTmpPaths ((scenario.get "stdout").getD .null)),
    ("tmp_leftover", .integer (((scenario.get "tmp_leftover").bind Value.asI64).getD (-1)))]

def scenariosOf (state : Value) : List Value := (state.arrayAt "scenarios").getD []

def terminalMatrixObservation (state : Value) : Value :=
  Value.arrayOf ((scenariosOf state).map normalizedScenario)

def missingPackages : String := "residual has no installed_packages"

def databaseParts (residual : Value) : List String :=
  (((residual.get "sync_db_hashes").bind Value.asObject).getD []).map fun database =>
    "db:" ++ database.1 ++ ":" ++ database.2.asStr.getD "?"

def localParts (residual : Value) : List String :=
  (strings ((residual.arrayAt "local_db_packages").getD [])).map ("local:" ++ ·)

def residualParts (residual : Value) (installed : List Value) : List String :=
  (strings installed).map ("pkg:" ++ ·) ++ databaseParts residual ++ localParts residual

def residualDigest (residual : Value) : Except String String :=
  match residual.arrayAt "installed_packages" with
  | none => .error missingPackages
  | some installed =>
      let parts := (residualParts residual installed).mergeSort fun left right =>
        decide (left ≤ right)
      .ok (String.intercalate (String.singleton newline) parts)

theorem residualPart_head (residual : Value) (installed : List Value) (part : String)
    (member : part ∈ residualParts residual installed) :
    part.toList.head? = some 'p' ∨ part.toList.head? = some 'd' ∨ part.toList.head? = some 'l' := by
  simp only [residualParts, databaseParts, localParts, List.mem_append, List.mem_map] at member
  rcases member with (⟨package, _, rfl⟩ | ⟨database, _, rfl⟩) | ⟨package, _, rfl⟩
  · simp
  · simp
  · simp

theorem intercalate_head (separator first : String) (rest : List String)
    (nonempty : first.toList ≠ []) :
    (String.intercalate separator (first :: rest)).toList.head? = first.toList.head? := by
  cases rest with
  | nil => rw [String.intercalate_singleton]
  | cons second rest =>
      rw [String.intercalate_cons_cons, String.append_assoc, String.toList_append,
        List.head?_append_of_ne_nil _ nonempty]

theorem residualDigest_ne_error (residual : Value) (digest : String)
    (read : residualDigest residual = .ok digest) : digest ≠ "ERR:" ++ missingPackages := by
  unfold residualDigest at read
  split at read
  · cases read
  · rename_i installed _
    obtain rfl := Except.ok.inj read
    intro same
    have heads := congrArg (fun text => text.toList.head?) same
    have error : ("ERR:" ++ missingPackages).toList.head? = some 'E' := by decide
    simp only [error] at heads
    generalize parts : (residualParts residual installed).mergeSort
      (fun left right => decide (left ≤ right)) = sorted at heads
    cases sorted with
    | nil => simp at heads
    | cons first rest =>
        have inside : first ∈ (residualParts residual installed).mergeSort
            fun left right => decide (left ≤ right) := by
          rw [parts]
          exact List.mem_cons_self
        have first := residualPart_head residual installed first (List.mem_mergeSort.mp inside)
        rw [intercalate_head] at heads
        · rw [heads] at first
          simp at first
        · intro empty
          rw [empty] at first
          simp at first

end KernelManager
