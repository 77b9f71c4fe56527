import KernelManager.Build.GitCache
import KernelManager.Core.Text
import KernelManager.Library.FirstOccurrences
import KernelManager.Library.Occurrences
import KernelManager.Library.Paths
import KernelManager.Plan.Commands

/-! The AUR kernels that the probe finds, and where their checkouts are put. -/

namespace KernelManager

structure KernelName where
  text : String
  nonempty : text.toList ≠ []
  unqualified : '/' ∉ text.toList

def KernelName.new (name : String) : Option KernelName :=
  if valid : name.toList ≠ [] ∧ '/' ∉ name.toList then some ⟨name, valid.1, valid.2⟩ else none

structure AurDiscoveryInput where
  enabled : Bool
  paruAvailable : Bool
  awkAvailable : Bool
  repoKernels : List DiscoveredKernel
  paruOutput : String
  deriving DecidableEq, Repr

structure AurDiscoveryResult where
  probeRun : Bool
  aurKernels : List DiscoveredKernel
  gateMessage : Option String
  deriving DecidableEq, Repr

namespace AurDiscoveryInput

def headers (input : AurDiscoveryInput) : List String :=
  ((input.paruOutput.toList.splitOn newline).filter (· ≠ [])).map String.ofList

def probes (input : AurDiscoveryInput) : Bool :=
  input.enabled && (input.paruAvailable && input.awkAvailable) && !input.repoKernels.isEmpty

end AurDiscoveryInput

def aurName (header : String) : String :=
  String.ofList (Scan.removeAll headersSuffix.toList header.toList)

def aurKernel (header : String) : DiscoveredKernel where
  repo := "aur"
  name := aurName header
  headers := header
  version := "unknown-version"
  companions := {}
  raw := "aur/" ++ aurName header

def pushAur (repoKernels found : List DiscoveredKernel) (header : String) :
    List DiscoveredKernel :=
  if (repoKernels ++ found).any (·.name = (aurKernel header).name) then found
  else found ++ [aurKernel header]

def aurGateMessage : String := "Paru and/or AWK are not installed! Disabling AUR kernels support"

def discoverAur (input : AurDiscoveryInput) : AurDiscoveryResult :=
  if !input.enabled then { probeRun := false, aurKernels := [], gateMessage := none }
  else if !(input.paruAvailable && input.awkAvailable) then
    { probeRun := false, aurKernels := [], gateMessage := some aurGateMessage }
  else if input.repoKernels.isEmpty then
    { probeRun := false, aurKernels := [], gateMessage := none }
  else
    { probeRun := true
      aurKernels := input.headers.foldl (pushAur input.repoKernels) []
      gateMessage := none }

def fixPath (home path : String) : String :=
  match stripStart path "~/" with
  | some rest => joinDirectory home rest
  | none => if path = "~" then home else path

def GitCacheStep.removedDirectory (target : String) : GitCacheStep → Option String
  | .removeNonGitRepo => some target
  | _ => none

def aurCacheTail : String := ".cache/cachyos-km/aur_pkgbuilds"

def aurCacheDir : String := "~/" ++ aurCacheTail

/-- The path leads to an entry of the AUR cache, not to the cache itself and not out of it. -/
def InAurCache (home path : String) : Prop :=
  ∃ name, Paths.resolve path.toList =
    Paths.resolve (fixPath home aurCacheDir).toList ++ [name]

def ValidIdentity (name : String) : Prop :=
  (KernelName.new name).isSome = true ∧ name ≠ "." ∧ name ≠ ".."

/-- What is asked of a discovered name: it is a package identity, and whatever plan selects it,
its refresh goes to an entry of the AUR cache and removes nothing else. -/
structure Contained (name : String) : Prop where
  valid : ValidIdentity name
  refreshed : ∀ (home : String) (plan : TransactionPlan), name ∈ plan.aurInstall →
    .gitRefresh (aurUrl name) (aurDir name) ∈ commitCommands plan →
    InAurCache home (fixPath home (aurDir name)) ∧
      ∀ state : GitCacheState, ∀ step ∈ gitCachePlan state name (aurUrl name),
        ∀ removed, step.removedDirectory (fixPath home (aurDir name)) = some removed →
          InAurCache home removed

/-- Each line that the probe printed is the name of a repository kernel with any number of
`-headers` written into it, and is skipped, or it has no `/` and is more than such a nothing, `.` or
`..`. -/
def ProbesIdentities (input : AurDiscoveryInput) : Prop :=
  input.probes = true → ∀ header ∈ input.headers,
    (∃ kernel ∈ input.repoKernels, contains kernel.name headersSuffix = false ∧
      Scan.Woven headersSuffix.toList kernel.name.toList header.toList) ∨
    '/' ∉ header.toList ∧
      ∀ base ∈ ["", ".", ".."], ¬Scan.Woven headersSuffix.toList base.toList header.toList

theorem headersSuffix_unbordered : Scan.Unbordered headersSuffix.toList :=
  Scan.unbordered_of_head '-' "headers".toList (by decide)

theorem headersSuffix_ne_nil : headersSuffix.toList ≠ [] := by decide

theorem aurName_toList (headers : String) :
    (aurName headers).toList = Scan.removeAll headersSuffix.toList headers.toList := by
  rw [aurName, String.toList_ofList]

theorem contains_headersSuffix (name : String) :
    contains name headersSuffix = false ↔ ¬headersSuffix.toList <:+: name.toList := by
  rw [contains, Scan.contains_eq_find, ← Scan.find_isSome_iff, Bool.not_eq_true]

theorem kernelName_isSome (name : String) :
    (KernelName.new name).isSome = true ↔ name.toList ≠ [] ∧ '/' ∉ name.toList := by
  unfold KernelName.new
  split
  · rename_i valid
    simp [valid]
  · rename_i invalid
    simpa using invalid

theorem aurName_find (header : String) :
    Scan.find headersSuffix.toList (aurName header).toList = none := by
  rw [aurName_toList]
  exact Scan.removeAll_find _ _ (by decide)

theorem aurName_cutsTo (header : String) :
    Scan.CutsTo headersSuffix.toList header.toList (aurName header).toList := by
  rw [aurName_toList]
  exact Scan.removeAll_cutsTo _ _ (by decide)

theorem aurName_contains (header : String) : contains (aurName header) headersSuffix = false := by
  rw [contains, Scan.contains_eq_find, aurName_find]
  rfl

theorem validIdentity_iff (name : String) : ValidIdentity name ↔ Paths.Plain name.toList := by
  have current : name ≠ "." ↔ name.toList ≠ ['.'] := by
    rw [ne_eq, String.ext_iff]
    exact Iff.rfl
  have parent : name ≠ ".." ↔ name.toList ≠ ['.', '.'] := by
    rw [ne_eq, String.ext_iff]
    exact Iff.rfl
  rw [ValidIdentity, kernelName_isSome, current, parent]
  constructor
  · rintro ⟨⟨nonempty, single⟩, current, parent⟩
    exact ⟨nonempty, single, current, parent⟩
  · intro plain
    exact ⟨⟨plain.nonempty, plain.single⟩, plain.current, plain.parent⟩

theorem stripStart_append (start rest : String) : stripStart (start ++ rest) start = some rest := by
  rw [stripStart, String.toList_append, Lines.strip_append, Option.map_some, String.ofList_toList]

theorem fixPath_home (home rest : String) :
    fixPath home ("~/" ++ rest) = joinDirectory home rest := by
  have below := stripStart_append "~/" rest
  unfold fixPath
  simp only [below]

theorem joinDirectory_append (home first rest : String) (relative : startsWith first "/" = false)
    (named : first.toList ≠ []) :
    (joinDirectory home (first ++ rest)).toList =
      (joinDirectory home first).toList ++ rest.toList := by
  have still : startsWith (first ++ rest) "/" = false := by
    obtain ⟨symbol, symbols, spelled⟩ := List.exists_cons_of_ne_nil named
    simp only [startsWith, String.toList_append, spelled] at relative ⊢
    simpa [List.isPrefixOf] using relative
  simp only [joinDirectory, still, relative, Bool.false_eq_true, ↓reduceIte]
  split <;> simp [String.toList_append, List.append_assoc]

theorem aurDir_spelled (name : String) :
    aurDir name = "~/" ++ (aurCacheTail ++ ("/" ++ name)) := by
  have root : "~/.cache/cachyos-km/aur_pkgbuilds/" = "~/" ++ aurCacheTail ++ "/" := by decide
  have joined : "~/.cache/cachyos-km/aur_pkgbuilds/" ++ name =
      "~/" ++ aurCacheTail ++ "/" ++ name := congrArg (· ++ name) root
  rw [String.append_assoc, String.append_assoc] at joined
  exact joined

theorem fixPath_aurDir (home name : String) :
    (fixPath home (aurDir name)).toList =
      (fixPath home aurCacheDir).toList ++ '/' :: name.toList := by
  rw [aurDir_spelled, fixPath_home, aurCacheDir, fixPath_home,
    joinDirectory_append home aurCacheTail _ (by decide) (by decide), String.toList_append]
  rfl

theorem aurDir_inAurCache (home name : String) (valid : ValidIdentity name) :
    InAurCache home (fixPath home (aurDir name)) := by
  refine ⟨name.toList, ?_⟩
  rw [fixPath_aurDir]
  exact Paths.resolve_child _ _ ((validIdentity_iff name).mp valid)

theorem contained_iff (name : String) : Contained name ↔ ValidIdentity name := by
  constructor
  · exact Contained.valid
  · intro valid
    refine ⟨valid, ?_⟩
    intro home plan _ _
    have inside := aurDir_inAurCache home name valid
    refine ⟨inside, ?_⟩
    intro state step _ removed removes
    cases step with
    | removeNonGitRepo =>
        obtain rfl := Option.some.inj removes
        exact inside
    | _ => cases removes

theorem pushAur_map_name (repoKernels found : List DiscoveredKernel) (header : String) :
    (pushAur repoKernels found header).map (·.name) =
      Firsts.push (repoKernels.map (·.name)) (found.map (·.name)) (aurName header) := by
  have known : (repoKernels ++ found).any (·.name = (aurKernel header).name) = true ↔
      aurName header ∈ repoKernels.map (·.name) ++ found.map (·.name) := by
    rw [← List.map_append, List.any_eq_true, List.mem_map]
    simp only [decide_eq_true_eq]
    exact Iff.rfl
  unfold pushAur Firsts.push
  by_cases old : aurName header ∈ repoKernels.map (·.name) ++ found.map (·.name)
  · rw [if_pos (known.mpr old), if_pos old]
  · rw [if_neg (mt known.mp old), if_neg old, List.map_append]
    rfl

theorem foldl_pushAur_map_name (repoKernels found : List DiscoveredKernel)
    (headers : List String) :
    (headers.foldl (pushAur repoKernels) found).map (·.name) =
      (headers.map aurName).foldl (Firsts.push (repoKernels.map (·.name)))
        (found.map (·.name)) := by
  induction headers generalizing found with
  | nil => rfl
  | cons header headers ih =>
      rw [List.foldl_cons, ih, pushAur_map_name, List.map_cons, List.foldl_cons]

theorem discoverAur_kernels (input : AurDiscoveryInput) :
    (discoverAur input).aurKernels =
      if input.probes then input.headers.foldl (pushAur input.repoKernels) [] else [] := by
  unfold discoverAur AurDiscoveryInput.probes
  cases input.enabled with
  | false => rfl
  | true =>
      cases input.paruAvailable && input.awkAvailable with
      | false => rfl
      | true => cases input.repoKernels.isEmpty <;> rfl

theorem discoverAur_collected (input : AurDiscoveryInput) (probes : input.probes = true) :
    Firsts.Collected (input.repoKernels.map (·.name)) (input.headers.map aurName)
      ((discoverAur input).aurKernels.map (·.name)) := by
  have collected := (Firsts.collected_nil (input.repoKernels.map (·.name))).foldl_push
    (input.headers.map aurName)
  rw [discoverAur_kernels, if_pos probes, foldl_pushAur_map_name]
  exact collected

theorem discoverAur_names (input : AurDiscoveryInput) (name : String) :
    (∃ kernel ∈ (discoverAur input).aurKernels, kernel.name = name) ↔
      input.probes = true ∧ (∃ header ∈ input.headers, aurName header = name) ∧
        ¬∃ kernel ∈ input.repoKernels, kernel.name = name := by
  by_cases probes : input.probes = true
  · have listed := (discoverAur_collected input probes).items name
    simpa only [List.mem_map, probes, true_and] using listed
  · rw [discoverAur_kernels, if_neg probes]
    simp [probes]

theorem aurName_eq_iff (header name : String) :
    aurName header = name ↔
      contains name headersSuffix = false ∧
        Scan.Woven headersSuffix.toList name.toList header.toList := by
  rw [← String.toList_inj, aurName_toList, contains_headersSuffix]
  exact Scan.removeAll_eq_iff headersSuffix_unbordered headersSuffix_ne_nil _ _

theorem slash_mem_aurName (header : String) :
    '/' ∈ (aurName header).toList ↔ '/' ∈ header.toList := by
  have woven := ((aurName_eq_iff header (aurName header)).mp rfl).2
  exact (woven.mem_iff '/' (by decide)).symm

theorem validIdentity_aurName (header : String) :
    ValidIdentity (aurName header) ↔
      '/' ∉ header.toList ∧
        ∀ base ∈ ["", ".", ".."], ¬Scan.Woven headersSuffix.toList base.toList header.toList := by
  have whole : ∀ base ∈ ["", ".", ".."], contains base headersSuffix = false := by decide
  have made : ∀ base ∈ ["", ".", ".."],
      (Scan.Woven headersSuffix.toList base.toList header.toList ↔ aurName header = base) := by
    intro base listed
    rw [aurName_eq_iff, whole base listed]
    simp only [true_and]
  have empty : (aurName header).toList ≠ [] ↔ aurName header ≠ "" :=
    not_congr String.toList_eq_nil_iff
  rw [ValidIdentity, kernelName_isSome, slash_mem_aurName, empty]
  constructor
  · rintro ⟨⟨nonempty, single⟩, current, parent⟩
    refine ⟨single, ?_⟩
    intro base listed woven
    have same := (made base listed).mp woven
    simp only [List.mem_cons, List.not_mem_nil, or_false] at listed
    rcases listed with rfl | rfl | rfl
    · exact nonempty same
    · exact current same
    · exact parent same
  · rintro ⟨single, other⟩
    have apart : ∀ base ∈ ["", ".", ".."], aurName header ≠ base := by
      intro base listed same
      exact other base listed ((made base listed).mpr same)
    exact ⟨⟨apart "" (by decide), single⟩, apart "." (by decide), apart ".." (by decide)⟩

/-- Every discovered name is contained exactly if each printed line is made of a name that is
known or of one that is an identity. -/
theorem discoverAur_contained_iff (input : AurDiscoveryInput) :
    (∀ kernel ∈ (discoverAur input).aurKernels, Contained kernel.name) ↔
      ProbesIdentities input := by
  have named : (∀ kernel ∈ (discoverAur input).aurKernels, Contained kernel.name) ↔
      ∀ name, (∃ kernel ∈ (discoverAur input).aurKernels, kernel.name = name) →
        ValidIdentity name := by
    simp only [contained_iff]
    constructor
    · rintro all name ⟨kernel, member, rfl⟩
      exact all kernel member
    · intro all kernel member
      exact all kernel.name ⟨kernel, member, rfl⟩
  have known (header : String) : (∃ kernel ∈ input.repoKernels, kernel.name = aurName header) ↔
      ∃ kernel ∈ input.repoKernels, contains kernel.name headersSuffix = false ∧
        Scan.Woven headersSuffix.toList kernel.name.toList header.toList := by
    simp only [← aurName_eq_iff, @eq_comm _ _ (aurName header)]
  rw [named, ProbesIdentities]
  simp only [discoverAur_names, ← known, ← validIdentity_aurName]
  constructor
  · intro all probes header printed
    by_cases listed : ∃ kernel ∈ input.repoKernels, kernel.name = aurName header
    · exact Or.inl listed
    · exact Or.inr (all _ ⟨probes, ⟨header, printed, rfl⟩, listed⟩)
  · rintro identities name ⟨probes, ⟨header, printed, rfl⟩, unknown⟩
    exact (identities probes header printed).resolve_left unknown

namespace Sample

def bareHeaders : AurDiscoveryInput where
  enabled := true
  paruAvailable := true
  awkAvailable := true
  repoKernels :=
    [{ repo := "core", name := "linux", headers := "linux-headers", version := "6.13.2-1",
       companions := {}, raw := "core/linux" }]
  paruOutput := "-headers"

def printedTwice : AurDiscoveryInput :=
  { bareHeaders with
    paruOutput := "linux-zen-headers\nlinux-headers\n\nlinux-lts-headers\nlinux-zen-headers" }

def bareSelected : TransactionPlan := { aurInstall := [""], aurEnabled := true }

end Sample

/-- The refresh of the nameless kernel goes to the cache directory, and removes all of it. -/
theorem bareHeaders_wipesCache :
    ¬∀ kernel ∈ (discoverAur Sample.bareHeaders).aurKernels, Contained kernel.name := by
  intro contained
  have discovered : aurKernel "-headers" ∈ (discoverAur Sample.bareHeaders).aurKernels := by
    decide
  have nameless : (aurKernel "-headers").name = "" := by decide
  have kept := contained _ discovered
  rw [nameless] at kept
  obtain ⟨name, leads⟩ := (kept.refreshed "/root" Sample.bareSelected (by decide) (by decide)).1
  have same : Paths.resolve (fixPath "/root" (aurDir "")).toList =
      Paths.resolve (fixPath "/root" aurCacheDir).toList := by decide
  have lengths := congrArg List.length (same.symm.trans leads)
  rw [List.length_append, List.length_singleton] at lengths
  omega

/-- The lines of the probe are deduplicated, and no kernel is lost: the names that are listed are
those of the lines beyond the repository's, each once and in the order of its first line; and the
loop that cuts `-headers` out of a line ends with a name that has none. -/
theorem discoverAur_deduplicates (input : AurDiscoveryInput) (enabled : input.enabled = true)
    (paru : input.paruAvailable = true) (awk : input.awkAvailable = true)
    (repository : input.repoKernels ≠ []) :
    let names := (discoverAur input).aurKernels.map (·.name)
    let repoNames := input.repoKernels.map (·.name)
    let lineNames := input.headers.map aurName
    names.Nodup ∧
      (∀ name ∈ names, name ∉ repoNames ∧ name ∈ lineNames) ∧
      names.Pairwise (fun earlier later => lineNames.idxOf earlier < lineNames.idxOf later) ∧
      (∀ header ∈ input.headers, aurName header ∈ repoNames ∨ aurName header ∈ names) ∧
      ∀ header ∈ input.headers,
        Scan.CutsTo headersSuffix.toList header.toList (aurName header).toList ∧
          contains (aurName header) headersSuffix = false := by
  have probes : input.probes = true := by
    simp [AurDiscoveryInput.probes, enabled, paru, awk, repository]
  have collected := discoverAur_collected input probes
  refine ⟨collected.distinct, ?_, collected.ordered, ?_, ?_⟩
  · intro name listed
    exact ((collected.items name).mp listed).symm
  · intro header printed
    by_cases known : aurName header ∈ input.repoKernels.map (·.name)
    · exact Or.inl known
    · exact Or.inr ((collected.items _).mpr ⟨List.mem_map_of_mem printed, known⟩)
  · intro header _
    exact ⟨aurName_cutsTo header, aurName_contains header⟩

theorem printedTwice_deduplicated :
    (discoverAur Sample.printedTwice).aurKernels.map (·.name) = ["linux-zen", "linux-lts"] ∧
      ((discoverAur Sample.printedTwice).aurKernels.map (·.name)).Nodup :=
  ⟨by decide, (discoverAur_deduplicates Sample.printedTwice (by decide) (by decide) (by decide)
    (by decide)).1⟩

end KernelManager
