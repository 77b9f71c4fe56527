import KernelManager.Core.Text
import KernelManager.Library.FileTree
import Mathlib.Data.List.Destutter

/-! Court cases: the fingerprints of the two sides of a case and their comparison. -/

namespace KernelManager

open FileTree (Listing)

structure Comparator where
  ignore : List String
  deriving DecidableEq, Repr

def Comparator.ignores (comparator : Comparator) (path : String) : Bool :=
  comparator.ignore.any fun ignored => decide (path = ignored) || startsWith path (ignored ++ "/")

structure Residual where
  id : String
  court : String
  layer : String
  oracleFingerprint : String
  candidateFingerprint : String
  classification : String
  rootCause : Option String := none
  resolution : Option String := none
  commit : Option String := none
  regressionWitness : Option String := none
  deriving DecidableEq, Repr

def deterministicMismatch (id court layer oracle candidate : String) : Residual where
  id
  court
  layer
  oracleFingerprint := oracle
  candidateFingerprint := candidate
  classification := "deterministic_mismatch"

def fixtureDrift (court oracle candidate : String) : Residual where
  id := court ++ "-machine-residual-drift"
  court
  layer := "machine-residual"
  oracleFingerprint := oracle
  candidateFingerprint := candidate
  classification := "fixture_drift"

theorem unlessSame_nil {Value Report : Type} [DecidableEq Value] (report : Report)
    (left right : Value) : (if left ≠ right then [report] else []) = [] ↔ left = right := by
  split
  · rename_i differ
    exact iff_of_false (List.cons_ne_nil _ _) differ
  · rename_i same
    exact iff_of_true rfl (not_not.mp same)

abbrev Fingerprints := Std.TreeMap String String

section

variable {Content : Type} (digest : Content → String)

def fingerprintTree (listing : Listing Content) : Option Fingerprints :=
  FileTree.walk (fun (out : Fingerprints) path content => out.insert path (digest content))
    [("", listing)] ∅

/-- A missing directory has no fingerprints; an unreadable entry is an error. -/
def fingerprint : Option (Listing Content) → Option Fingerprints
  | none => some ∅
  | some listing => fingerprintTree digest listing

def SideHolds (side : Option (Listing Content)) (path : String) (content : Content) : Prop :=
  ∃ listing, side = some listing ∧ listing.Holds "" path content

def SideReadable (side : Option (Listing Content)) : Prop :=
  ∀ listing, side = some listing → listing.Readable

theorem mem_insertAll (files : List (String × Content)) (out : Fingerprints) (path : String) :
    path ∈ files.foldl (fun (out : Fingerprints) file => out.insert file.1 (digest file.2)) out ↔
      path ∈ out ∨ ∃ content, (path, content) ∈ files := by
  induction files generalizing out with
  | nil => simp
  | cons file files ih =>
      obtain ⟨name, content⟩ := file
      rw [List.foldl_cons, ih, Std.TreeMap.mem_insert, Std.LawfulEqCmp.compare_eq_iff_eq]
      simp only [List.mem_cons, Prod.mk.injEq]
      constructor
      · rintro ((rfl | old) | ⟨found, later⟩)
        · exact Or.inr ⟨content, Or.inl ⟨rfl, rfl⟩⟩
        · exact Or.inl old
        · exact Or.inr ⟨found, Or.inr later⟩
      · rintro (old | ⟨found, ⟨rfl, rfl⟩ | later⟩)
        · exact Or.inl (Or.inr old)
        · exact Or.inl (Or.inl rfl)
        · exact Or.inr ⟨found, later⟩

theorem fingerprint_mem (side : Option (Listing Content)) (files : Fingerprints)
    (read : fingerprint digest side = some files) (path : String) :
    path ∈ files ↔ ∃ content, SideHolds side path content := by
  cases side with
  | none =>
      obtain rfl := Option.some.inj read
      simp [SideHolds]
  | some listing =>
      obtain ⟨held, rfl, members⟩ := FileTree.walk_holds _ _ _ _ read
      rw [mem_insertAll]
      simp [members, SideHolds, FileTree.Stack.Holds]

theorem fingerprint_readable (side : Option (Listing Content)) :
    (fingerprint digest side).isSome = true ↔ SideReadable side := by
  cases side with
  | none => simp [fingerprint, SideReadable]
  | some listing =>
      rw [fingerprint, fingerprintTree, FileTree.walk_readable]
      simp [SideReadable]

end

structure Case where
  domain : String
  name : String
  comparator : Comparator
  deriving DecidableEq, Repr

def absentFingerprint : String := "<absent>"

def Case.residual (case : Case) (path classification oracle candidate : String) : Residual where
  id := case.name ++ "-" ++ replace path "/" "-"
  court := case.domain ++ "/" ++ case.name
  layer := "filesystem"
  oracleFingerprint := oracle
  candidateFingerprint := candidate
  classification

def Case.residualAt (case : Case) (oracle candidate : Fingerprints) (path : String) :
    Option Residual :=
  match oracle[path]?, candidate[path]? with
  | some left, some right =>
      if left ≠ right then some (case.residual path "deterministic_mismatch" left right) else none
  | some left, none =>
      some (case.residual path "missing_candidate_artifact" left absentFingerprint)
  | none, some right =>
      some (case.residual path "missing_oracle_artifact" absentFingerprint right)
  | none, none => none

def comparedPaths (oracle candidate : Fingerprints) : List String :=
  ((oracle.keys ++ candidate.keys).mergeSort fun left right => decide (left ≤ right)).destutter
    (· ≠ ·)

def Case.residuals (case : Case) (oracle candidate : Fingerprints) : List Residual :=
  (comparedPaths oracle candidate).filterMap fun path =>
    if case.comparator.ignores path then none else case.residualAt oracle candidate path

section

variable {Content : Type} (digest : Content → String)

def Case.compare (case : Case) (oracle candidate : Option (Listing Content)) :
    Option (List Residual) :=
  match fingerprint digest oracle with
  | none => none
  | some oracle =>
      match fingerprint digest candidate with
      | none => none
      | some candidate => some (case.residuals oracle candidate)

end

theorem mem_destutter_cons {Item : Type} [DecidableEq Item] (first : Item) (items : List Item)
    (item : Item) : item ∈ (first :: items).destutter (· ≠ ·) ↔ item ∈ first :: items := by
  rw [List.destutter_cons']
  induction items generalizing first with
  | nil => simp
  | cons next items ih =>
      rw [List.destutter'_cons]
      by_cases differs : first ≠ next
      · rw [if_pos differs, List.mem_cons, ih, List.mem_cons (a := item) (b := first)]
      · rw [if_neg differs, ih]
        rw [not_not] at differs
        simp [differs]

theorem mem_comparedPaths (oracle candidate : Fingerprints) (path : String) :
    path ∈ comparedPaths oracle candidate ↔ path ∈ oracle ∨ path ∈ candidate := by
  have kept : ∀ paths : List String, path ∈ paths.destutter (· ≠ ·) ↔ path ∈ paths := by
    intro paths
    cases paths with
    | nil => simp
    | cons first paths => exact mem_destutter_cons first paths path
  rw [comparedPaths, kept, List.mem_mergeSort, List.mem_append, Std.TreeMap.mem_keys,
    Std.TreeMap.mem_keys]

theorem nodup_of_neighbours (paths : List String) (sorted : paths.Pairwise (· ≤ ·))
    (apart : paths.IsChain (· ≠ ·)) : paths.Nodup := by
  induction paths with
  | nil => exact List.nodup_nil
  | cons first paths ih =>
      obtain ⟨least, rest⟩ := List.pairwise_cons.mp sorted
      refine List.nodup_cons.mpr ⟨?_, ih rest apart.tail⟩
      intro again
      cases paths with
      | nil => cases again
      | cons next paths =>
          obtain ⟨differs, _⟩ := List.isChain_cons_cons.mp apart
          have below : next ≤ first := by
            rcases List.mem_cons.mp again with same | later
            · exact absurd same differs
            · exact List.rel_of_pairwise_cons rest later
          exact differs (String.le_antisymm (least next List.mem_cons_self) below)

theorem comparedPaths_nodup (oracle candidate : Fingerprints) :
    (comparedPaths oracle candidate).Nodup := by
  refine nodup_of_neighbours _ ?_ (List.isChain_destutter _ _)
  have sorted :
      ((oracle.keys ++ candidate.keys).mergeSort fun left right => decide (left ≤ right)).Pairwise
        fun left right => decide (left ≤ right) = true := by
    apply List.pairwise_mergeSort
    · intro first second third
      simpa only [decide_eq_true_eq] using String.le_trans
    · intro first second
      simpa only [Bool.or_eq_true, decide_eq_true_eq] using String.le_total first second
  simp only [decide_eq_true_eq] at sorted
  exact sorted.sublist (List.destutter_sublist _ _)

theorem residualAt_none (case : Case) (oracle candidate : Fingerprints) (path : String) :
    case.residualAt oracle candidate path = none ↔ oracle[path]? = candidate[path]? := by
  unfold Case.residualAt
  cases oracle[path]? <;> cases candidate[path]? <;> simp

theorem agree_of_not_compared (oracle candidate : Fingerprints) (path : String)
    (absent : path ∉ comparedPaths oracle candidate) : oracle[path]? = candidate[path]? := by
  rw [mem_comparedPaths, not_or] at absent
  rw [Std.TreeMap.getElem?_eq_none absent.1, Std.TreeMap.getElem?_eq_none absent.2]

theorem residuals_nil (case : Case) (oracle candidate : Fingerprints) :
    case.residuals oracle candidate = [] ↔
      ∀ path, case.comparator.ignores path = false → oracle[path]? = candidate[path]? := by
  rw [Case.residuals, List.filterMap_eq_nil_iff]
  constructor
  · intro nothing path compared
    by_cases listed : path ∈ comparedPaths oracle candidate
    · have here := nothing path listed
      simpa only [compared, Bool.false_eq_true, ↓reduceIte, residualAt_none] using here
    · exact agree_of_not_compared oracle candidate path listed
  · intro agree path _
    split
    · rfl
    · rename_i compared
      rw [Bool.not_eq_true] at compared
      exact (residualAt_none case oracle candidate path).mpr (agree path compared)

def Comparator.Covers (comparator : Comparator) (path : String) : Prop :=
  ∃ ignored ∈ comparator.ignore, path = ignored ∨ ∃ rest, path = ignored ++ "/" ++ rest

inductive Diverges (oracle candidate : Fingerprints) (path : String) :
    String → String → String → Prop
  | mismatch {left right : String} : oracle[path]? = some left → candidate[path]? = some right →
      left ≠ right → Diverges oracle candidate path "deterministic_mismatch" left right
  | missingCandidate {left : String} : oracle[path]? = some left → candidate[path]? = none →
      Diverges oracle candidate path "missing_candidate_artifact" left absentFingerprint
  | missingOracle {right : String} : oracle[path]? = none → candidate[path]? = some right →
      Diverges oracle candidate path "missing_oracle_artifact" absentFingerprint right

theorem ignores_iff (comparator : Comparator) (path : String) :
    comparator.ignores path = true ↔ comparator.Covers path := by
  have below : ∀ ignored, startsWith path (ignored ++ "/") = true ↔
      ∃ rest, path = ignored ++ "/" ++ rest := by
    intro ignored
    rw [startsWith, List.isPrefixOf_iff_prefix]
    constructor
    · rintro ⟨rest, spelled⟩
      refine ⟨String.ofList rest, String.ext ?_⟩
      rw [String.toList_append, String.toList_ofList, spelled]
    · rintro ⟨rest, rfl⟩
      exact ⟨rest.toList, String.toList_append.symm⟩
  simp only [Comparator.ignores, List.any_eq_true, Bool.or_eq_true, decide_eq_true_eq, below]
  exact Iff.rfl

theorem residualAt_some (case : Case) (oracle candidate : Fingerprints) (path : String)
    (residual : Residual) :
    case.residualAt oracle candidate path = some residual ↔
      ∃ classification left right, Diverges oracle candidate path classification left right ∧
        residual = case.residual path classification left right := by
  unfold Case.residualAt
  constructor
  · intro reported
    cases before : oracle[path]? with
    | some left =>
        cases after : candidate[path]? with
        | some right =>
            by_cases differ : left ≠ right
            · simp only [before, after] at reported
              rw [if_pos differ, Option.some.injEq] at reported
              exact ⟨_, left, right, Diverges.mismatch before after differ, reported.symm⟩
            · simp only [before, after] at reported
              rw [if_neg differ] at reported
              cases reported
        | none =>
            simp only [before, after, Option.some.injEq] at reported
            exact ⟨_, left, _, Diverges.missingCandidate before after, reported.symm⟩
    | none =>
        cases after : candidate[path]? with
        | some right =>
            simp only [before, after, Option.some.injEq] at reported
            exact ⟨_, _, right, Diverges.missingOracle before after, reported.symm⟩
        | none => simp only [before, after, reduceCtorEq] at reported
  · rintro ⟨_, _, _, diverges, rfl⟩
    cases diverges with
    | mismatch before after differ =>
        simp only [before, after]
        exact if_pos differ
    | missingCandidate before after => simp only [before, after]
    | missingOracle before after => simp only [before, after]

theorem residualAt_compared (case : Case) (oracle candidate : Fingerprints) (path : String)
    (reported : (case.residualAt oracle candidate path).isSome = true) :
    path ∈ comparedPaths oracle candidate := by
  by_contra absent
  have agree := agree_of_not_compared oracle candidate path absent
  rw [(residualAt_none case oracle candidate path).mpr agree] at reported
  cases reported

theorem filterMap_forall₂ {Item Report : Type} (items : List Item) (report : Item → Option Report) :
    List.Forall₂ (fun item made => report item = some made)
      (items.filter fun item => (report item).isSome) (items.filterMap report) := by
  induction items with
  | nil => exact List.Forall₂.nil
  | cons item items ih =>
      cases made : report item with
      | none => simpa [made] using ih
      | some value => simpa [made] using ih

/-- The comparison reports each path at which the sides differ and which the ignore list does not
cover exactly once, as what it is, and no other path. -/
theorem compare_exact (case : Case) (oracle candidate : Fingerprints) :
    (∃ paths : List String, paths.Nodup ∧
      (∀ path, path ∈ paths ↔ ¬case.comparator.Covers path ∧
        ∃ classification left right, Diverges oracle candidate path classification left right) ∧
      List.Forall₂ (fun path residual =>
        ∃ classification left right, Diverges oracle candidate path classification left right ∧
          residual = case.residual path classification left right)
        paths (case.residuals oracle candidate)) ∧
      ∀ (Content : Type) (digest : Content → String) (left right : Option (Listing Content)),
        fingerprint digest left = some oracle → fingerprint digest right = some candidate →
          case.compare digest left right = some (case.residuals oracle candidate) := by
  have listed : ∀ path, (∃ classification left right,
      Diverges oracle candidate path classification left right) ↔
        (case.residualAt oracle candidate path).isSome = true := by
    intro path
    rw [Option.isSome_iff_exists]
    simp only [residualAt_some]
    constructor
    · rintro ⟨classification, left, right, diverges⟩
      exact ⟨_, classification, left, right, diverges, rfl⟩
    · rintro ⟨_, classification, left, right, diverges, _⟩
      exact ⟨classification, left, right, diverges⟩
  refine ⟨⟨_, ?_, ?_, (filterMap_forall₂ (comparedPaths oracle candidate) _).imp ?_⟩, ?_⟩
  · exact (comparedPaths_nodup oracle candidate).filter _
  · intro path
    rw [List.mem_filter, ← ignores_iff, listed]
    cases covered : case.comparator.ignores path with
    | true => simp
    | false =>
        simp only [Bool.false_eq_true, ↓reduceIte, not_false_eq_true, true_and]
        exact and_iff_right_of_imp (residualAt_compared case oracle candidate path)
  · intro path residual reported
    split at reported
    · cases reported
    · exact (residualAt_some case oracle candidate path residual).mp reported
  · intro Content digest left right readLeft readRight
    simp only [Case.compare, readLeft, readRight]

end KernelManager
