import KernelManager.Core.Options
import KernelManager.Core.Text

/-! The environment of a build: the assignments that are printed and read back. -/

namespace KernelManager

def optionsEnvString (options : BuildOptions) : String := options.envString

def envAssignment (line : List Char) : Option (String × String) :=
  match (line.splitOn '=').filter (!·.isEmpty) with
  | var :: value :: _ => some (String.ofList var, String.ofList value)
  | _ => none

/-- A line with fewer than two segments around its equals signs is skipped, and a value ends at
the next equals sign. -/
def envAssignments (allSetValues : String) : List (String × String) :=
  ((allSetValues.toList.splitOn newline).filter (!·.isEmpty)).filterMap envAssignment

def envText (pairs : List (String × String)) : String :=
  pairs.foldl (fun text pair => text ++ (pair.1 ++ "=" ++ pair.2 ++ "\n")) ""

def EnvWord (text : String) : Prop :=
  text.toList ≠ [] ∧ '=' ∉ text.toList ∧ newline ∉ text.toList

instance (text : String) : Decidable (EnvWord text) := inferInstanceAs (Decidable (_ ∧ _))

def Assignable (pairs : List (String × String)) : Prop :=
  ∀ pair ∈ pairs, EnvWord pair.1 ∧ EnvWord pair.2

def envLine (pair : String × String) : List Char := pair.1.toList ++ '=' :: pair.2.toList

theorem envText_toList (pairs : List (String × String)) :
    (envText pairs).toList = (pairs.map envLine).flatMap (· ++ [newline]) := by
  have run : ∀ text : String,
      (pairs.foldl (fun text pair => text ++ (pair.1 ++ "=" ++ pair.2 ++ "\n")) text).toList =
        text.toList ++ (pairs.map envLine).flatMap (· ++ [newline]) := by
    induction pairs with
    | nil => simp
    | cons pair pairs ih =>
        intro text
        have line : (pair.1 ++ "=" ++ pair.2 ++ "\n").toList = envLine pair ++ [newline] := by
          simp only [String.toList_append, envLine, List.append_assoc]
          rfl
        rw [List.foldl_cons, ih, String.toList_append, line, List.map_cons, List.flatMap_cons,
          List.append_assoc]
  exact run ""

theorem envAssignment_envLine (pair : String × String) (name : EnvWord pair.1)
    (value : EnvWord pair.2) : envAssignment (envLine pair) = some pair := by
  have segments := Scan.splitOn_pair '=' pair.1.toList pair.2.toList name.2.1 value.2.1
  simp [envAssignment, envLine, segments, name.1, value.1]

theorem envAssignments_envText (pairs : List (String × String)) (words : Assignable pairs) :
    envAssignments (envText pairs) = pairs := by
  have plain : ∀ line ∈ pairs.map envLine, newline ∉ line := by
    intro line member
    obtain ⟨pair, listed, rfl⟩ := List.mem_map.mp member
    obtain ⟨name, value⟩ := words pair listed
    have apart : newline ≠ '=' := by decide
    simp [envLine, name.2.2, value.2.2, apart]
  have filled : ∀ line ∈ pairs.map envLine, (!line.isEmpty) = true := by
    intro line member
    obtain ⟨pair, _, rfl⟩ := List.mem_map.mp member
    simp [envLine]
  rw [envAssignments, envText_toList, Scan.splitOn_lines newline _ plain, List.filter_append,
    List.filter_eq_self.mpr filled]
  have read : ∀ pair ∈ pairs, envAssignment (envLine pair) = some pair := fun pair listed =>
    envAssignment_envLine pair (words pair listed).1 (words pair listed).2
  simp [List.filterMap_map, List.filterMap_congr read]

theorem envAssignment_words (line : List Char) (plain : newline ∉ line) (pair : String × String)
    (read : envAssignment line = some pair) : EnvWord pair.1 ∧ EnvWord pair.2 := by
  have word : ∀ segment ∈ (line.splitOn '=').filter (!·.isEmpty),
      EnvWord (String.ofList segment) := by
    intro segment member
    obtain ⟨inside, filled⟩ := List.mem_filter.mp member
    obtain ⟨free, part⟩ := Scan.mem_splitOn '=' line segment inside
    refine ⟨?_, ?_, ?_⟩
    · simpa using filled
    · simpa using free
    · rw [String.toList_ofList]
      exact fun feed => plain (part feed)
  unfold envAssignment at read
  split at read
  · rename_i var value rest segments
    obtain rfl := Option.some.inj read
    rw [segments] at word
    exact ⟨word var (by simp), word value (by simp)⟩
  · cases read

theorem envAssignments_assignable (text : String) : Assignable (envAssignments text) := by
  intro pair member
  obtain ⟨line, listed, read⟩ := List.mem_filterMap.mp member
  have inside := (List.mem_filter.mp listed).1
  exact envAssignment_words line (Scan.mem_splitOn newline _ line inside).1 pair read

theorem assignable_append (left right : List (String × String)) (first : Assignable left)
    (second : Assignable right) : Assignable (left ++ right) := by
  intro pair member
  rcases List.mem_append.mp member with inLeft | inRight
  · exact first pair inLeft
  · exact second pair inRight

theorem checkboxes_assignable (checked : List Bool) :
    Assignable ((checkboxBindings.zip checked).map fun entry =>
      (entry.1.2, if entry.2 then "yes" else "no")) := by
  have names : ∀ binding ∈ checkboxBindings, EnvWord binding.2 := by decide
  intro pair member
  obtain ⟨⟨binding, value⟩, zipped, rfl⟩ := List.mem_map.mp member
  have yes : EnvWord "yes" := by decide
  have no : EnvWord "no" := by decide
  refine ⟨names binding (List.of_mem_zip zipped).1, ?_⟩
  cases value with
  | true => exact yes
  | false => exact no

theorem combos_assignable (options : BuildOptions) :
    Assignable [("_HZ_ticks", options.hzTicks.value), ("_tickrate", options.tickless.value),
      ("_preempt", options.preempt.value), ("_hugepage", options.hugepage.value),
      ("_use_llvm_lto", options.lto.value)] := by
  have ticks : EnvWord options.hzTicks.value := by cases options.hzTicks <;> decide
  have tickless : EnvWord options.tickless.value := by cases options.tickless <;> decide
  have preempt : EnvWord options.preempt.value := by cases options.preempt <;> decide
  have hugepage : EnvWord options.hugepage.value := by cases options.hugepage <;> decide
  have lto : EnvWord options.lto.value := by cases options.lto <;> decide
  simp only [Assignable, List.forall_mem_cons]
  exact ⟨⟨by decide, ticks⟩, ⟨by decide, tickless⟩, ⟨by decide, preempt⟩, ⟨by decide, hugepage⟩,
    ⟨by decide, lto⟩, List.forall_mem_nil _⟩

/-- The custom name is in no pair, so that any name leaves the environment readable. -/
theorem envPairs_assignable (options : BuildOptions) : Assignable options.envPairs := by
  have processor : Assignable
      (if options.cpuOpt ≠ .manual then [("_processor_opt", options.cpuOpt.value)] else []) := by
    have name : EnvWord "_processor_opt" := by decide
    have value : EnvWord options.cpuOpt.value := by cases options.cpuOpt <;> decide
    intro pair member
    obtain ⟨_, rfl⟩ := (List.mem_ite_nil_right.mp member).imp_right List.mem_singleton.mp
    exact ⟨name, value⟩
  have suffix : Assignable
      (if options.lto ≠ .none ∧ options.customName ≠ pkgbaseSentinel then
        [("_use_lto_suffix", "n")] else []) := by
    intro pair member
    obtain ⟨_, rfl⟩ := (List.mem_ite_nil_right.mp member).imp_right List.mem_singleton.mp
    decide
  exact assignable_append _ _ (assignable_append _ _ (assignable_append _ _
    (checkboxes_assignable options.checked) (combos_assignable options)) processor) suffix

/-- The environment survives its text form: lists of names and values that a line can carry, the
options of any build, and whatever has been read from a text are read back as they are. -/
theorem envAssignments_roundTrip :
    (∀ pairs, Assignable pairs → envAssignments (envText pairs) = pairs) ∧
      (∀ options, envAssignments (optionsEnvString options) = options.envPairs) ∧
      ∀ text, envAssignments (envText (envAssignments text)) = envAssignments text := by
  refine ⟨envAssignments_envText, ?_, ?_⟩
  · intro options
    exact envAssignments_envText options.envPairs (envPairs_assignable options)
  · intro text
    exact envAssignments_envText _ (envAssignments_assignable text)

end KernelManager
