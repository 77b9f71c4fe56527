import KernelManager.Court.Evidence

/-! The receipt of a court in a release: its verdict and the hashes of its files. -/

namespace KernelManager

open FileTree (Listing)

abbrev Artifacts := Std.ExtTreeMap String String

/-- The directory of a court; the files that a walk finds can be opened by their paths. -/
structure CourtDirectory (Content : Type) where
  openFile : String → Option Content
  openDirectory : String → Option (Listing Content)
  opens : ∀ name path content, SideHolds (openDirectory name) path content →
    openFile (name ++ "/" ++ path) = some content

structure RecipeRef where
  claimSha256 : String
  assumptionsSha256 : String
  comparatorSha256 : String
  readmeSha256 : String
  fixtureTreeSha256 : Option String
  deriving DecidableEq, Repr

inductive Locator
  | regenerable (paths : List String)
  | archived (uri : String)
  deriving DecidableEq, Repr

structure CourtReceipt where
  court : String
  recipe : RecipeRef
  result : String
  residualCount : Nat
  normalizers : List (String × String)
  comparatorVersion : String
  oracleRevision : String
  candidateRevision : String
  fixtureDigest : Option String
  artifacts : Artifacts
  locator : Locator
  receiptSha256 : String
  deriving DecidableEq

structure FileFormats (Content : Type) where
  digest : Content → String
  text : String → Content
  parseEvidence : Content → Option EvidenceRecord
  encodeReceipt : CourtReceipt → Content
  encodeCourts : List CourtReceipt → Content
  parseCourts : Content → Option (List CourtReceipt)

structure ReleaseBuilder where
  release : String
  createdAt : String
  gitCommit : String
  oracleRevision : String
  candidateRevision : String
  baseImageHash : String
  deriving DecidableEq, Repr

def JsonFile.toOption {Value : Type} : JsonFile Value → Option Value
  | .holds value => some value
  | .missing | .malformed => none

def recipeFiles : List String := ["claim.toml", "assumptions.toml", "comparator.toml"]
def releasedSides : List String := ["oracle", "candidate"]
def releasedFiles : List String := ["residual.json", "evidence.json"]

section

variable {Content : Type} (formats : FileFormats Content)

def CourtReceipt.recomputeReceiptHash (receipt : CourtReceipt) : CourtReceipt :=
  let blank := { receipt with receiptSha256 := "" }
  { blank with receiptSha256 := formats.digest (formats.encodeReceipt blank) }

def treeHash (directory : Option (Listing Content)) : Option String :=
  match directory.bind (fingerprintTree formats.digest) with
  | none => none
  | some files =>
      if files.isEmpty then none
      else
        let null := String.singleton (Char.ofNat 0)
        let buffer := files.toList.foldl (fun buffer file =>
          buffer ++ file.1 ++ null ++ file.2 ++ null) ""
        some (formats.digest (formats.text buffer))

namespace CourtDirectory

variable (directory : CourtDirectory Content)

def hash (name : String) : Option String := (directory.openFile name).map formats.digest

def recipe : Option RecipeRef := do
  let claimSha256 ← directory.hash formats "claim.toml"
  let assumptionsSha256 ← directory.hash formats "assumptions.toml"
  let comparatorSha256 ← directory.hash formats "comparator.toml"
  return {
    claimSha256, assumptionsSha256, comparatorSha256
    readmeSha256 := (directory.hash formats "README.md").getD ""
    fixtureTreeSha256 := treeHash formats (directory.openDirectory "fixture") }

def loadEvidence : JsonFile EvidenceRecord :=
  match directory.openFile "evidence.json" with
  | none => .missing
  | some content =>
      match formats.parseEvidence content with
      | none => .malformed
      | some record => .holds record

def sideArtifacts (side : String) : List (String × String) :=
  match (directory.openDirectory side).bind (fingerprintTree formats.digest) with
  | none => []
  | some files => files.toList.map fun file => (side ++ "/" ++ file.1, file.2)

def fileArtifacts (name : String) : List (String × String) :=
  match directory.hash formats name with
  | none => []
  | some hash => [(name, hash)]

def listed : List (String × String) :=
  releasedSides.flatMap (directory.sideArtifacts formats) ++
    releasedFiles.flatMap (directory.fileArtifacts formats)

def HasFile (side path hash : String) : Prop :=
  ∃ listing, directory.openDirectory side = some listing ∧ listing.Readable ∧
    ∃ content, listing.Holds "" path content ∧ formats.digest content = hash

def Unchanged (record : EvidenceRecord) : Prop :=
  ∀ side ∈ releasedSides, ∀ path hash, directory.HasFile formats side path hash ↔
    { path := side ++ "/" ++ path, sha256 := hash } ∈ record.artifacts

def HasRecipe : Prop := ∀ name ∈ recipeFiles, (directory.openFile name).isSome = true

end CourtDirectory

def ReleaseBuilder.receipt (builder : ReleaseBuilder) (court : String)
    (directory : CourtDirectory Content) : Option CourtReceipt :=
  match directory.recipe formats with
  | none => none
  | some recipe =>
      let evidence := directory.loadEvidence formats
      let recorded := evidence.toOption
      let receipt : CourtReceipt := {
        court, recipe
        result := receiptResult evidence
        residualCount := (recorded.map (·.residualCount)).getD 0
        normalizers := (recorded.map (·.normalizers)).getD []
        comparatorVersion := (recorded.map (·.comparatorVersion)).getD ""
        oracleRevision := builder.oracleRevision
        candidateRevision := builder.candidateRevision
        fixtureDigest := recorded.bind (·.fixtureDigest)
        artifacts := Std.ExtTreeMap.ofList (directory.listed formats)
        locator := .regenerable ["oracle/", "candidate/", "residual.json", "evidence.json"]
        receiptSha256 := "" }
      some (receipt.recomputeReceiptHash formats)

def CourtReceipt.Certifies (receipt : CourtReceipt) (record : EvidenceRecord) : Prop :=
  ∀ side ∈ releasedSides, ∀ path hash,
    receipt.artifacts[side ++ "/" ++ path]? = some hash ↔
      { path := side ++ "/" ++ path, sha256 := hash } ∈ record.artifacts

theorem ofList_getElem (hashOf : String → Option String) (entries : List (String × String))
    (known : ∀ entry ∈ entries, hashOf entry.1 = some entry.2) (path hash : String) :
    (Std.ExtTreeMap.ofList entries)[path]? = some hash ↔ (path, hash) ∈ entries := by
  rw [Std.ExtTreeMap.ofList_eq_insertMany_empty, Std.ExtTreeMap.getElem?_insertMany_list,
    Std.ExtTreeMap.getElem?_empty, Option.or_none, List.findSomeRev?_eq_findSome?_reverse]
  have chosen_mem : ∀ value, (entries.reverse.findSome? fun entry =>
      if compare entry.1 path = .eq then some entry.2 else none) = some value →
        (path, value) ∈ entries := by
    intro value found
    obtain ⟨entry, member, chosen⟩ := List.exists_of_findSome?_eq_some found
    rw [List.mem_reverse] at member
    simp only [Std.LawfulEqCmp.compare_eq_iff_eq] at chosen
    split at chosen
    · rename_i same
      obtain rfl := Option.some.inj chosen
      rw [← same]
      exact member
    · cases chosen
  constructor
  · exact chosen_mem hash
  · intro member
    cases found : entries.reverse.findSome? fun entry =>
        if compare entry.1 path = .eq then some entry.2 else none with
    | none =>
        rw [List.findSome?_eq_none_iff] at found
        have absent := found (path, hash) (List.mem_reverse.mpr member)
        simp at absent
    | some other =>
        have first := known (path, other) (chosen_mem other found)
        exact first.symm.trans (known (path, hash) member)

theorem insertAll_getElem (digest : Content → String) (hashOf : String → Option String)
    (files : List (String × Content)) (out : Fingerprints)
    (known : ∀ file ∈ files, hashOf file.1 = some (digest file.2))
    (before : ∀ path ∈ out, out[path]? = hashOf path) (path : String)
    (member : path ∈
      files.foldl (fun (out : Fingerprints) file => out.insert file.1 (digest file.2)) out) :
    (files.foldl (fun (out : Fingerprints) file => out.insert file.1 (digest file.2)) out)[path]? =
      hashOf path := by
  induction files generalizing out with
  | nil => exact before path member
  | cons file files ih =>
      refine ih _ (fun later inside => known later (List.mem_cons_of_mem _ inside)) ?_ member
      intro name inside
      rw [Std.TreeMap.getElem?_insert]
      by_cases same : compare file.1 name = .eq
      · rw [if_pos same, ← Std.LawfulEqCmp.compare_eq_iff_eq.mp same]
        exact (known file List.mem_cons_self).symm
      · rw [if_neg same]
        rw [Std.TreeMap.mem_insert] at inside
        exact before name (inside.resolve_left same)

namespace CourtDirectory

variable (directory : CourtDirectory Content)

theorem fingerprintTree_getElem (side : String) (listing : Listing Content)
    (found : directory.openDirectory side = some listing) (files : Fingerprints)
    (read : fingerprintTree formats.digest listing = some files) (path hash : String) :
    files[path]? = some hash ↔
      ∃ content, listing.Holds "" path content ∧ formats.digest content = hash := by
  obtain ⟨held, folded, members⟩ := FileTree.walk_holds _ _ _ _ read
  have held_iff : ∀ path content, (path, content) ∈ held ↔ listing.Holds "" path content := by
    intro path content
    rw [members]
    simp [FileTree.Stack.Holds]
  let hashOf := fun path => directory.hash formats (side ++ "/" ++ path)
  have known : ∀ file ∈ held, hashOf file.1 = some (formats.digest file.2) := by
    intro file member
    have opened := directory.opens side file.1 file.2
      ⟨listing, found, (held_iff file.1 file.2).mp member⟩
    simp only [hashOf, CourtDirectory.hash, opened, Option.map_some]
  have value : ∀ path ∈ files, files[path]? = hashOf path := by
    rw [folded]
    exact insertAll_getElem formats.digest hashOf held ∅ known (by simp)
  have mem_iff : path ∈ files ↔ ∃ content, (path, content) ∈ held := by
    rw [folded, mem_insertAll]
    simp
  constructor
  · intro listed
    have member : path ∈ files := Std.TreeMap.mem_iff_isSome_getElem?.mpr (by simp [listed])
    obtain ⟨content, inside⟩ := mem_iff.mp member
    refine ⟨content, (held_iff path content).mp inside, ?_⟩
    rw [value path member, known (path, content) inside] at listed
    exact Option.some.inj listed
  · rintro ⟨content, holds, rfl⟩
    have inside := (held_iff path content).mpr holds
    rw [value path (mem_iff.mpr ⟨content, inside⟩)]
    exact known (path, content) inside

theorem mem_sideArtifacts (side path hash : String) :
    (path, hash) ∈ directory.sideArtifacts formats side ↔
      ∃ relative, path = side ++ "/" ++ relative ∧
        directory.HasFile formats side relative hash := by
  unfold sideArtifacts HasFile
  cases found : directory.openDirectory side with
  | none => simp
  | some listing =>
      have readable := FileTree.walk_readable (fun (out : Fingerprints) path content =>
        out.insert path (formats.digest content)) [("", listing)] ∅
      cases read : fingerprintTree formats.digest listing with
      | none =>
          have unreadable : ¬listing.Readable := by
            simpa [fingerprintTree] using (not_congr readable).mp (by
              rw [← fingerprintTree, read]
              simp)
          simp [read, unreadable]
      | some files =>
          have walked : listing.Readable := by
            simpa using readable.mp (by
              rw [← fingerprintTree, read]
              rfl)
          have lookup := directory.fingerprintTree_getElem formats side listing found files read
          simp only [Option.bind_some, read, List.mem_map, Prod.mk.injEq, Option.some.injEq,
            exists_eq_left', walked, true_and, ← lookup,
            ← Std.TreeMap.mem_toList_iff_getElem?_eq_some]
          constructor
          · rintro ⟨⟨relative, value⟩, member, rfl, rfl⟩
            exact ⟨relative, rfl, member⟩
          · rintro ⟨relative, rfl, member⟩
            exact ⟨(relative, hash), member, rfl, rfl⟩

theorem mem_fileArtifacts (name path hash : String) :
    (path, hash) ∈ directory.fileArtifacts formats name ↔
      path = name ∧ directory.hash formats name = some hash := by
  unfold fileArtifacts
  cases directory.hash formats name <;> simp [eq_comm]

theorem listed_hash (entry : String × String) (member : entry ∈ directory.listed formats) :
    directory.hash formats entry.1 = some entry.2 := by
  obtain ⟨path, hash⟩ := entry
  rcases List.mem_append.mp member with sides | files
  · obtain ⟨side, _, listed⟩ := List.mem_flatMap.mp sides
    obtain ⟨relative, rfl, listing, found, _, content, holds, rfl⟩ :=
      (directory.mem_sideArtifacts formats side path hash).mp listed
    have opened := directory.opens side relative content ⟨listing, found, holds⟩
    simp only [CourtDirectory.hash, opened, Option.map_some]
  · obtain ⟨name, _, listed⟩ := List.mem_flatMap.mp files
    obtain ⟨rfl, hashed⟩ := (directory.mem_fileArtifacts formats name path hash).mp listed
    exact hashed

theorem sidePath_inj (left right leftPath rightPath : String) (leftSide : left ∈ releasedSides)
    (rightSide : right ∈ releasedSides)
    (same : left ++ "/" ++ leftPath = right ++ "/" ++ rightPath) :
    left = right ∧ leftPath = rightPath := by
  have texts := congrArg String.toList same
  simp only [releasedSides, List.mem_cons, List.not_mem_nil, or_false] at leftSide rightSide
  rcases leftSide with rfl | rfl <;> rcases rightSide with rfl | rfl
  · exact ⟨rfl, String.append_right_inj _ |>.mp same⟩
  · simp at texts
  · simp at texts
  · exact ⟨rfl, String.append_right_inj _ |>.mp same⟩

theorem sidePath_ne_file (side path name : String) (sideKnown : side ∈ releasedSides)
    (fileKnown : name ∈ releasedFiles) : side ++ "/" ++ path ≠ name := by
  intro same
  have texts := congrArg String.toList same
  simp only [releasedSides, releasedFiles, List.mem_cons, List.not_mem_nil, or_false]
    at sideKnown fileKnown
  rcases sideKnown with rfl | rfl <;> rcases fileKnown with rfl | rfl <;> simp at texts

theorem mem_listed (side path hash : String) (sideKnown : side ∈ releasedSides) :
    (side ++ "/" ++ path, hash) ∈ directory.listed formats ↔
      directory.HasFile formats side path hash := by
  rw [listed, List.mem_append, List.mem_flatMap, List.mem_flatMap]
  constructor
  · rintro (⟨other, otherKnown, member⟩ | ⟨name, fileKnown, member⟩)
    · obtain ⟨relative, same, held⟩ := (directory.mem_sideArtifacts formats other _ _).mp member
      obtain ⟨rfl, rfl⟩ := sidePath_inj _ _ _ _ sideKnown otherKnown same
      exact held
    · obtain ⟨same, _⟩ := (directory.mem_fileArtifacts formats name _ _).mp member
      exact absurd same (sidePath_ne_file side path name sideKnown fileKnown)
  · intro held
    exact Or.inl ⟨side, sideKnown,
      (directory.mem_sideArtifacts formats side _ _).mpr ⟨path, rfl, held⟩⟩

theorem recipe_isSome : (directory.recipe formats).isSome = true ↔ directory.HasRecipe := by
  simp only [HasRecipe, recipeFiles, List.mem_cons, List.not_mem_nil, or_false,
    forall_eq_or_imp, forall_eq, recipe, CourtDirectory.hash]
  cases directory.openFile "claim.toml" <;> cases directory.openFile "assumptions.toml" <;>
    cases directory.openFile "comparator.toml" <;> simp

end CourtDirectory

theorem mem_addDirectory (directory : CourtDirectory Content) (record : EvidenceRecord)
    (side path hash : String) :
    { path, sha256 := hash } ∈ (record.addDirectory formats.digest
        (directory.openDirectory side) side).artifacts ↔
      { path, sha256 := hash } ∈ record.artifacts ∨
        (path, hash) ∈ directory.sideArtifacts formats side := by
  unfold EvidenceRecord.addDirectory CourtDirectory.sideArtifacts
  cases (directory.openDirectory side).bind (fingerprintTree formats.digest) <;> simp

variable (builder : ReleaseBuilder) (court : String) (directory : CourtDirectory Content)

theorem receipt_isSome :
    (builder.receipt formats court directory).isSome = true ↔ directory.HasRecipe := by
  rw [← directory.recipe_isSome formats]
  unfold ReleaseBuilder.receipt
  cases directory.recipe formats <;> simp

theorem receipt_fields (receipt : CourtReceipt)
    (built : builder.receipt formats court directory = some receipt) :
    receipt.court = court ∧ receipt.result = receiptResult (directory.loadEvidence formats) ∧
      receipt.artifacts = Std.ExtTreeMap.ofList (directory.listed formats) := by
  unfold ReleaseBuilder.receipt at built
  split at built
  · cases built
  · obtain rfl := Option.some.inj built
    exact ⟨rfl, rfl, rfl⟩

theorem receipt_certifies (receipt : CourtReceipt) (record : EvidenceRecord)
    (built : builder.receipt formats court directory = some receipt) :
    receipt.Certifies record ↔ directory.Unchanged formats record := by
  obtain ⟨_, _, artifacts⟩ := receipt_fields formats builder court directory receipt built
  have known := directory.listed_hash formats
  constructor
  · intro certified side sideKnown path hash
    rw [← certified side sideKnown path hash, artifacts, ofList_getElem _ _ known,
      directory.mem_listed formats side path hash sideKnown]
  · intro unchanged side sideKnown path hash
    rw [artifacts, ofList_getElem _ _ known,
      directory.mem_listed formats side path hash sideKnown]
    exact unchanged side sideKnown path hash

/-- A passing receipt certifies its record exactly if the sides have not changed since. -/
theorem receipt_certifies_iff :
    (∀ receipt, builder.receipt formats court directory = some receipt →
        receipt.result = "pass" →
          ∀ record, directory.loadEvidence formats = .holds record → receipt.Certifies record) ↔
      (directory.HasRecipe → ∀ record, directory.loadEvidence formats = .holds record →
        record.result = "pass" → directory.Unchanged formats record) := by
  constructor
  · intro certified recipe record loaded passes
    rw [← receipt_isSome formats builder court directory] at recipe
    obtain ⟨receipt, built⟩ := Option.isSome_iff_exists.mp recipe
    obtain ⟨_, result, _⟩ := receipt_fields formats builder court directory receipt built
    rw [loaded] at result
    rw [← receipt_certifies formats builder court directory receipt record built]
    exact certified receipt built (result.trans passes) record loaded
  · intro unchanged receipt built passes record loaded
    have recipe := (receipt_isSome formats builder court directory).mp (by simp [built])
    obtain ⟨_, result, _⟩ := receipt_fields formats builder court directory receipt built
    rw [loaded] at result
    rw [receipt_certifies formats builder court directory receipt record built]
    exact unchanged recipe record loaded (result.symm.trans passes)

end

namespace Sample

def passedCourt (argv : String) : CourtDirectory String where
  openFile name :=
    if name = "oracle/argv" ∨ name = "candidate/argv" then some argv
    else if name ∈ recipeFiles then some "manifest"
    else if name = "evidence.json" then some "evidence"
    else none
  openDirectory name :=
    if name = "oracle" ∨ name = "candidate" then some (.file "argv" argv .done) else none
  opens := by
    rintro name path content ⟨listing, found, holds⟩
    split at found
    · rename_i side
      obtain rfl := Option.some.inj found
      obtain ⟨rfl, rfl⟩ | never := holds
      · rcases side with rfl | rfl <;> rfl
      · exact never.elim
    · cases found

def passedRecord (argv : String) : EvidenceRecord :=
  { passRecord "scx/loader-interface" none with
    artifacts := [{ path := "oracle/argv", sha256 := argv },
      { path := "candidate/argv", sha256 := argv }] }

def plainFormats (record : EvidenceRecord) : FileFormats String where
  digest := id
  text := id
  parseEvidence _ := some record
  encodeReceipt receipt := receipt.result
  encodeCourts receipts := String.join (receipts.map (·.court))
  parseCourts _ := none

def builder : ReleaseBuilder where
  release := "2026-01"
  createdAt := "2026-01-01"
  gitCommit := "unknown"
  oracleRevision := "unknown"
  candidateRevision := "0.1.0"
  baseImageHash := "unknown"

end Sample

/-- A file that was replaced after the pass is listed with the hash of the replacement. -/
theorem replacedFile_passes :
    ¬∀ receipt, Sample.builder.receipt
        (Sample.plainFormats (Sample.passedRecord "pacman -U")) "scx/loader-interface"
        (Sample.passedCourt "pacman -S") = some receipt → receipt.result = "pass" →
      ∀ record, (Sample.passedCourt "pacman -S").loadEvidence
          (Sample.plainFormats (Sample.passedRecord "pacman -U")) = .holds record →
        receipt.Certifies record := by
  intro certified
  let formats := Sample.plainFormats (Sample.passedRecord "pacman -U")
  have recipe : (Sample.passedCourt "pacman -S").HasRecipe := by
    intro name known
    simp only [recipeFiles, List.mem_cons, List.not_mem_nil, or_false] at known
    rcases known with rfl | rfl | rfl <;> rfl
  obtain ⟨receipt, built⟩ := Option.isSome_iff_exists.mp
    ((receipt_isSome formats Sample.builder "scx/loader-interface" _).mpr recipe)
  obtain ⟨_, result, _⟩ := receipt_fields formats _ _ _ receipt built
  have certifies := certified receipt built result _ rfl
  rw [receipt_certifies formats _ _ _ receipt _ built] at certifies
  have held := (certifies "oracle" (by decide) "argv" "pacman -U").mpr (by decide)
  obtain ⟨_, found, _, content, holds, hashed⟩ := held
  obtain rfl := Option.some.inj found
  obtain ⟨_, rfl⟩ | never := holds
  · revert hashed
    decide
  · exact never.elim

end KernelManager
