import KernelManager.Court.Case

/-! The comparators of the VM courts that compare files byte by byte. -/

namespace KernelManager

abbrev VmFiles (Content : Type) := Std.TreeMap String Content

def packagesFile : String := "packages.txt"

/-- Raw traces contain process ids; they are evidence and never compared. -/
def rawTraces : List String := ["install-raw.trace", "remove-raw.trace"]

section

variable {Content : Type} [DecidableEq Content] (digest : Content → String)

def fileMismatch (id court layer : String) (oracle candidate : Content) : Residual :=
  deterministicMismatch id court layer (digest oracle) (digest candidate)

def packageDrift (court : String) (oracle candidate : Content) : Residual :=
  fixtureDrift court (digest oracle) (digest candidate)

def differing (residual : Content → Content → Residual) (oracle candidate : Content) :
    List Residual :=
  if oracle ≠ candidate then [residual oracle candidate] else []

def compareNames (residual : String → Content → Content → Residual)
    (oracle candidate : VmFiles Content) : List String → Option (List Residual)
  | [] => some []
  | name :: names => do
      let left ← oracle[name]?
      let right ← candidate[name]?
      let rest ← compareNames residual oracle candidate names
      return differing (residual name) left right ++ rest

def compareSurface (layer : String) (neverCompared : List String)
    (oracle candidate : VmFiles Content) (court : String) : Option (List Residual) := do
  let drift ← compareNames (fun _ => packageDrift digest court) oracle candidate [packagesFile]
  let surface ← compareNames (fun name => fileMismatch digest (court ++ "-" ++ name) court layer)
    oracle candidate
    (oracle.keys.filter fun name => name ≠ packagesFile ∧ name ∉ neverCompared)
  return drift ++ surface

def compareBoot (oracle candidate : VmFiles Content) (court : String) : Option (List Residual) :=
  compareSurface digest "boot-surface" rawTraces oracle candidate court

def comparePackaging (oracle candidate : VmFiles Content) (court : String) :
    Option (List Residual) :=
  compareSurface digest "packaging-surface" [] oracle candidate court

def MissesNoFile (neverCompared : List String) (oracle candidate : VmFiles Content)
    (compared : Option (List Residual)) : Prop :=
  (compared = some [] →
      ∀ name : String, name ∉ neverCompared → oracle[name]? = candidate[name]?) ∧
    (packagesFile ∈ oracle → (∀ name : String, oracle[name]? = candidate[name]?) →
      compared = some [])

def OracleMatched (neverCompared : List String) (oracle candidate : VmFiles Content) : Prop :=
  packagesFile ∈ oracle ∧
    ∀ name ∈ oracle, name ∉ neverCompared → oracle[name]? = candidate[name]?

def NothingExtra (neverCompared : List String) (oracle candidate : VmFiles Content) : Prop :=
  OracleMatched neverCompared oracle candidate →
    ∀ name ∈ candidate, name ∉ neverCompared → name ∈ oracle

theorem differing_nil (residual : Content → Content → Residual) (oracle candidate : Content) :
    differing residual oracle candidate = [] ↔ oracle = candidate :=
  unlessSame_nil (residual oracle candidate) oracle candidate

theorem compareNames_nil (residual : String → Content → Content → Residual)
    (oracle candidate : VmFiles Content) (names : List String) :
    compareNames residual oracle candidate names = some [] ↔
      ∀ name ∈ names, name ∈ oracle ∧ oracle[name]? = candidate[name]? := by
  induction names with
  | nil => simp [compareNames]
  | cons name names ih =>
      rw [List.forall_mem_cons, ← ih]
      simp only [compareNames, Option.bind_eq_bind, Option.bind_eq_some_iff, Option.pure_def,
        Option.some.injEq, List.append_eq_nil_iff, differing_nil,
        Std.TreeMap.mem_iff_isSome_getElem?]
      constructor
      · rintro ⟨left, leftRead, right, rightRead, rest, restRead, rfl, rfl⟩
        rw [leftRead, rightRead]
        exact ⟨⟨rfl, rfl⟩, restRead⟩
      · rintro ⟨⟨present, same⟩, restRead⟩
        obtain ⟨left, leftRead⟩ := Option.isSome_iff_exists.mp present
        exact ⟨left, leftRead, left, same.symm.trans leftRead, [], restRead, rfl, rfl⟩

theorem appended_nil (first second : Option (List Residual)) :
    (do
      let left ← first
      let right ← second
      return left ++ right) = some [] ↔ first = some [] ∧ second = some [] := by
  simp only [Option.bind_eq_bind, Option.bind_eq_some_iff, Option.pure_def, Option.some.injEq,
    List.append_eq_nil_iff]
  constructor
  · rintro ⟨_, clean, _, alsoClean, rfl, rfl⟩
    exact ⟨clean, alsoClean⟩
  · rintro ⟨clean, alsoClean⟩
    exact ⟨[], clean, [], alsoClean, rfl, rfl⟩

theorem compareSurface_nil (layer : String) (neverCompared : List String)
    (compared : packagesFile ∉ neverCompared) (oracle candidate : VmFiles Content)
    (court : String) :
    compareSurface digest layer neverCompared oracle candidate court = some [] ↔
      OracleMatched neverCompared oracle candidate := by
  rw [compareSurface, appended_nil, compareNames_nil, compareNames_nil]
  constructor
  · rintro ⟨packages, surface⟩
    obtain ⟨present, same⟩ := packages packagesFile List.mem_cons_self
    refine ⟨present, ?_⟩
    intro name member examined
    by_cases package : name = packagesFile
    · rw [package]
      exact same
    · have listed : name ∈ oracle.keys.filter fun name =>
          name ≠ packagesFile ∧ name ∉ neverCompared := by
        simp [member, package, examined]
      exact (surface name listed).2
  · rintro ⟨present, matched⟩
    constructor
    · intro name listed
      obtain rfl := List.mem_singleton.mp listed
      exact ⟨present, matched packagesFile present compared⟩
    · intro name listed
      obtain ⟨key, examined⟩ := List.mem_filter.mp listed
      rw [Std.TreeMap.mem_keys] at key
      rw [decide_eq_true_eq] at examined
      exact ⟨key, matched name key examined.2⟩

theorem surface_complete_iff (layer : String) (neverCompared : List String)
    (compared : packagesFile ∉ neverCompared) (oracle candidate : VmFiles Content)
    (court : String) :
    MissesNoFile neverCompared oracle candidate
        (compareSurface digest layer neverCompared oracle candidate court) ↔
      NothingExtra neverCompared oracle candidate := by
  unfold MissesNoFile NothingExtra
  rw [compareSurface_nil digest layer neverCompared compared]
  constructor
  · rintro ⟨sound, _⟩ matched name member examined
    rw [Std.TreeMap.mem_iff_isSome_getElem?, sound matched name examined]
    exact Std.TreeMap.mem_iff_isSome_getElem?.mp member
  · intro nothing
    constructor
    · intro matched name examined
      by_cases held : name ∈ oracle
      · exact matched.2 name held examined
      · have absent : name ∉ candidate := fun member =>
          held (nothing matched name member examined)
        rw [Std.TreeMap.getElem?_eq_none held, Std.TreeMap.getElem?_eq_none absent]
    · intro present same
      exact ⟨present, fun name _ _ => same name⟩

/-- The two comparators miss no file exactly if the candidate side has none of its own. -/
theorem bootPackaging_complete_iff (oracle candidate : VmFiles Content) (court : String) :
    (MissesNoFile rawTraces oracle candidate (compareBoot digest oracle candidate court) ↔
        NothingExtra rawTraces oracle candidate) ∧
      (MissesNoFile [] oracle candidate (comparePackaging digest oracle candidate court) ↔
        NothingExtra [] oracle candidate) :=
  ⟨surface_complete_iff digest _ _ (by decide) oracle candidate court,
    surface_complete_iff digest _ _ (by decide) oracle candidate court⟩

end

namespace Sample

def onlyPackages : VmFiles String := (∅ : VmFiles String).insert packagesFile "linux 6.12"

def furtherFile : VmFiles String := onlyPackages.insert "reverted-version.txt" "1.19.0-1"

end Sample

theorem furtherFile_missed :
    ¬MissesNoFile rawTraces Sample.onlyPackages Sample.furtherFile
        (compareBoot id Sample.onlyPackages Sample.furtherFile "boot/system") ∧
      ¬MissesNoFile [] Sample.onlyPackages Sample.furtherFile
        (comparePackaging id Sample.onlyPackages Sample.furtherFile "packaging/upgrade") := by
  have present : packagesFile ∈ Sample.onlyPackages := by simp [Sample.onlyPackages]
  have only : ∀ name ∈ Sample.onlyPackages, name = packagesFile := by
    intro name member
    rw [Sample.onlyPackages, Std.TreeMap.mem_insert, Std.LawfulEqCmp.compare_eq_iff_eq] at member
    simpa [eq_comm] using member
  have matched : ∀ neverCompared,
      OracleMatched neverCompared Sample.onlyPackages Sample.furtherFile := by
    intro neverCompared
    refine ⟨present, ?_⟩
    rintro name member -
    rw [only name member, Sample.furtherFile, Std.TreeMap.getElem?_insert, if_neg]
    decide
  have further : "reverted-version.txt" ∈ Sample.furtherFile := by simp [Sample.furtherFile]
  have absent : "reverted-version.txt" ∉ Sample.onlyPackages := by
    intro member
    have same := only _ member
    revert same
    decide
  constructor
  · rw [compareBoot, surface_complete_iff id _ _ (by decide)]
    intro nothing
    exact absent (nothing (matched _) _ further (by decide))
  · rw [comparePackaging, surface_complete_iff id _ _ (by decide)]
    intro nothing
    exact absent (nothing (matched _) _ further (by decide))

end KernelManager
