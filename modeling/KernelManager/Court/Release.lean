import KernelManager.Court.Receipt
import KernelManager.Scx

/-! The release that is assembled from the receipts of all courts, and its verification. -/

namespace KernelManager

structure FrfReceipt where
  court : String
  claimSha256 : String
  receiptSha256 : String
  result : String
  artifactCount : Nat
  deriving DecidableEq, Repr

structure ReleaseManifest where
  release : String
  createdAt : String
  gitCommit : String
  oracleRevision : String
  candidateRevision : String
  baseImageHash : String
  rootHash : String
  courts : Nat
  pass : Nat
  fail : Nat
  unrecorded : Nat
  schema : String
  deriving DecidableEq, Repr

/-- The courts by domain and case; the name of a domain is one component of a path. -/
structure CourtsTree (Content : Type) where
  domains : List (String × List String)
  court : String → String → CourtDirectory Content
  components : ∀ domain ∈ domains, '/' ∉ domain.1.toList

structure ReleaseFiles (Content : Type) where
  manifest : JsonFile ReleaseManifest
  courts : Option Content
  receipts : JsonFile (List FrfReceipt)
  rootHash : Option String

def byName {Entry : Type} (name : Entry → String) (entries : List Entry) : List Entry :=
  entries.mergeSort fun left right => decide (name left ≤ name right)

def withResult (result : String) (receipts : List CourtReceipt) : Nat :=
  receipts.countP fun receipt => decide (receipt.result = result)

section

variable {Content : Type} (formats : FileFormats Content)

namespace ReleaseBuilder

variable (builder : ReleaseBuilder) (tree : CourtsTree Content)

def collect : List CourtReceipt :=
  (byName Prod.fst tree.domains).flatMap fun (domain, cases) =>
    (byName id cases).filterMap fun name =>
      let directory := tree.court domain name
      if (directory.openFile "claim.toml").isSome then
        builder.receipt formats (domain ++ "/" ++ name) directory
      else none

def manifestOf (receipts : List CourtReceipt) (rootHash : String) : ReleaseManifest where
  release := builder.release
  createdAt := builder.createdAt
  gitCommit := builder.gitCommit
  oracleRevision := builder.oracleRevision
  candidateRevision := builder.candidateRevision
  baseImageHash := builder.baseImageHash
  rootHash
  courts := receipts.length
  pass := withResult "pass" receipts
  fail := withResult "fail" receipts
  unrecorded := withResult "unrecorded" receipts
  schema := "cachyos-km-evidence-release-v1"

def assemble : ReleaseManifest × Content × List FrfReceipt × String :=
  let receipts := builder.collect formats tree
  let courts := formats.encodeCourts receipts
  let rootHash := formats.digest courts
  let frf := receipts.map fun receipt => {
    court := receipt.court
    claimSha256 := receipt.recipe.claimSha256
    receiptSha256 := receipt.receiptSha256
    result := receipt.result
    artifactCount := receipt.artifacts.size }
  (builder.manifestOf receipts rootHash, courts, frf, rootHash)

def writeRelease : ReleaseFiles Content :=
  let (manifest, courts, receipts, root) := builder.assemble formats tree
  { manifest := .holds manifest
    courts := some courts
    receipts := .holds receipts
    rootHash := some (root ++ String.singleton newline) }

end ReleaseBuilder

def artifactProblem (court : String) (directory : CourtDirectory Content)
    (artifact : String × String) : Option String :=
  match directory.hash formats artifact.1 with
  | some actual =>
      if actual = artifact.2 then none
      else some (court ++ ": " ++ artifact.1 ++ " hash mismatch (recorded " ++ artifact.2 ++
        " actual " ++ actual ++ ")")
  | none =>
      some (court ++ ": " ++ artifact.1 ++ " missing (raw evidence not present locally — " ++
        "expected for a fresh clone; hash is on record)")

def receiptProblems (tree : CourtsTree Content) (receipt : CourtReceipt) : List String :=
  match splitOnce '/' receipt.court with
  | none => [receipt.court ++ ": bad court id"]
  | some (domain, name) =>
      receipt.artifacts.toList.filterMap
        (artifactProblem formats receipt.court (tree.court domain name))

def rootHashProblems (recorded recomputed : String) : List String :=
  if recomputed ≠ recorded then
    ["ROOT-HASH mismatch: recorded " ++ recorded ++ " recomputed " ++ recomputed]
  else []

/-- The problems of a release, unless one of the files that are read is missing or malformed. -/
def verifyRelease (files : ReleaseFiles Content) (tree : CourtsTree Content) :
    Option (List String) := do
  let courts ← files.courts
  let receipts ← formats.parseCourts courts
  let recorded ← files.rootHash
  return receipts.flatMap (receiptProblems formats tree) ++
    rootHashProblems (trim recorded) (formats.digest courts)

def ReleaseFiles.Lists (files : ReleaseFiles Content) (receipts : List CourtReceipt) : Prop :=
  ∃ courts, files.courts = some courts ∧ formats.parseCourts courts = some receipts

def CourtReceipt.Sealed (receipt : CourtReceipt) : Prop :=
  (receipt.recomputeReceiptHash formats).receiptSha256 = receipt.receiptSha256

def CourtReceipt.Verifiable (tree : CourtsTree Content) (receipt : CourtReceipt) : Prop :=
  ∃ domain name, splitOnce '/' receipt.court = some (domain, name) ∧
    ∀ path hash, receipt.artifacts[path]? = some hash →
      (tree.court domain name).hash formats path = some hash

def ReleaseFiles.RootHashed (files : ReleaseFiles Content) : Prop :=
  ∃ courts recorded, files.courts = some courts ∧ files.rootHash = some recorded ∧
    trim recorded = formats.digest courts

def ReleaseFiles.ReceiptsAgree (files : ReleaseFiles Content) (receipts : List CourtReceipt) :
    Prop :=
  ∃ frf, files.receipts = .holds frf ∧
    frf.map (fun receipt => (receipt.court, receipt.receiptSha256)) =
      receipts.map fun receipt => (receipt.court, receipt.receiptSha256)

def ReleaseFiles.ManifestAgrees (files : ReleaseFiles Content) (receipts : List CourtReceipt) :
    Prop :=
  ∃ manifest, files.manifest = .holds manifest ∧ manifest.courts = receipts.length ∧
    manifest.pass = withResult "pass" receipts ∧ manifest.fail = withResult "fail" receipts ∧
      manifest.unrecorded = withResult "unrecorded" receipts ∧
        files.courts.map formats.digest = some manifest.rootHash

def ReleaseFiles.Consistent (files : ReleaseFiles Content) (tree : CourtsTree Content) : Prop :=
  ∃ receipts, files.Lists formats receipts ∧ (∀ receipt ∈ receipts, receipt.Sealed formats) ∧
    (∀ receipt ∈ receipts, receipt.Verifiable formats tree) ∧ files.RootHashed formats ∧
      files.ReceiptsAgree receipts ∧ files.ManifestAgrees formats receipts

/-- What the verification leaves out holds wherever everything that it checks does. -/
def ReleaseFiles.Untampered (files : ReleaseFiles Content) (tree : CourtsTree Content) : Prop :=
  ∀ receipts, files.Lists formats receipts →
    (∀ receipt ∈ receipts, receipt.Verifiable formats tree) → files.RootHashed formats →
      (∀ receipt ∈ receipts, receipt.Sealed formats) ∧ files.ReceiptsAgree receipts ∧
        files.ManifestAgrees formats receipts

theorem artifactProblem_none (court : String) (directory : CourtDirectory Content)
    (artifact : String × String) :
    artifactProblem formats court directory artifact = none ↔
      directory.hash formats artifact.1 = some artifact.2 := by
  unfold artifactProblem
  cases directory.hash formats artifact.1 with
  | none => simp
  | some actual => simp

theorem receiptProblems_nil (tree : CourtsTree Content) (receipt : CourtReceipt) :
    receiptProblems formats tree receipt = [] ↔ receipt.Verifiable formats tree := by
  unfold receiptProblems CourtReceipt.Verifiable
  cases splitOnce '/' receipt.court with
  | none => simp
  | some parts =>
      obtain ⟨domain, name⟩ := parts
      simp only [List.filterMap_eq_nil_iff, artifactProblem_none, Prod.forall,
        Std.ExtTreeMap.mem_toList_iff_getElem?_eq_some, Option.some.injEq, Prod.mk.injEq,
        and_assoc, exists_and_left, exists_eq_left']

theorem rootHashProblems_nil (recorded recomputed : String) :
    rootHashProblems recorded recomputed = [] ↔ recorded = recomputed :=
  (unlessSame_nil _ recomputed recorded).trans eq_comm

theorem verifyRelease_nil (files : ReleaseFiles Content) (tree : CourtsTree Content) :
    verifyRelease formats files tree = some [] ↔
      ∃ receipts, files.Lists formats receipts ∧
        (∀ receipt ∈ receipts, receipt.Verifiable formats tree) ∧ files.RootHashed formats := by
  simp only [verifyRelease, ReleaseFiles.Lists, ReleaseFiles.RootHashed, Option.bind_eq_bind,
    Option.bind_eq_some_iff, Option.pure_def, Option.some.injEq, List.append_eq_nil_iff,
    List.flatMap_eq_nil_iff, receiptProblems_nil, rootHashProblems_nil]
  constructor
  · rintro ⟨courts, found, receipts, parsed, recorded, rooted, verifiable, same⟩
    exact ⟨receipts, ⟨courts, found, parsed⟩, verifiable, courts, recorded, found, rooted, same⟩
  · rintro ⟨receipts, ⟨courts, found, parsed⟩, verifiable, other, recorded, sameFile, rooted, same⟩
    obtain rfl := Option.some.inj (found.symm.trans sameFile)
    exact ⟨courts, found, receipts, parsed, recorded, rooted, verifiable, same⟩

theorem splitOnce_append (separator : Char) (before after : String)
    (absent : separator ∉ before.toList) :
    splitOnce separator (before ++ String.singleton separator ++ after) = some (before, after) := by
  have differs : ∀ symbol ∈ before.toList, decide (symbol ≠ separator) = true := by
    rintro symbol member
    rw [decide_eq_true_eq]
    rintro rfl
    exact absent member
  have text : (before ++ String.singleton separator ++ after).toList =
      before.toList ++ separator :: after.toList := by simp
  unfold splitOnce
  rw [text, List.dropWhile_append_of_pos differs, List.takeWhile_append_of_pos differs]
  simp

namespace ReleaseBuilder

variable (builder : ReleaseBuilder) (tree : CourtsTree Content)

theorem mem_collect (receipt : CourtReceipt) (member : receipt ∈ builder.collect formats tree) :
    ∃ domain ∈ tree.domains, ∃ name,
      builder.receipt formats (domain.1 ++ "/" ++ name) (tree.court domain.1 name) =
        some receipt := by
  obtain ⟨domain, listed, inside⟩ := List.mem_flatMap.mp member
  obtain ⟨name, _, built⟩ := List.mem_filterMap.mp inside
  refine ⟨domain, List.mem_mergeSort.mp listed, name, ?_⟩
  simp only at built
  split at built
  · exact built
  · cases built

theorem receipt_sealed (court : String) (directory : CourtDirectory Content)
    (receipt : CourtReceipt) (built : builder.receipt formats court directory = some receipt) :
    receipt.Sealed formats := by
  unfold ReleaseBuilder.receipt at built
  split at built
  · cases built
  · obtain rfl := Option.some.inj built
    rfl

theorem collect_verifiable (receipt : CourtReceipt)
    (member : receipt ∈ builder.collect formats tree) : receipt.Verifiable formats tree := by
  obtain ⟨domain, listed, name, built⟩ := builder.mem_collect formats tree receipt member
  obtain ⟨court, _, artifacts⟩ := receipt_fields formats builder _ _ receipt built
  refine ⟨domain.1, name, ?_, ?_⟩
  · rw [court]
    exact splitOnce_append '/' domain.1 name (tree.components domain listed)
  · intro path hash recorded
    have known := (tree.court domain.1 name).listed_hash formats
    rw [artifacts, ofList_getElem _ _ known] at recorded
    exact known (path, hash) recorded

theorem writeRelease_lists
    (roundTrip : ∀ receipts, formats.parseCourts (formats.encodeCourts receipts) = some receipts) :
    (builder.writeRelease formats tree).Lists formats (builder.collect formats tree) :=
  ⟨_, rfl, roundTrip _⟩

theorem writeRelease_rootHashed
    (hex : ∀ content, trim (formats.digest content ++ String.singleton newline) =
      formats.digest content) :
    (builder.writeRelease formats tree).RootHashed formats :=
  ⟨_, _, rfl, rfl, hex _⟩

theorem writeRelease_receiptsAgree :
    (builder.writeRelease formats tree).ReceiptsAgree (builder.collect formats tree) := by
  refine ⟨_, rfl, ?_⟩
  rw [List.map_map]
  rfl

theorem writeRelease_manifestAgrees :
    (builder.writeRelease formats tree).ManifestAgrees formats (builder.collect formats tree) :=
  ⟨_, rfl, rfl, rfl, rfl, rfl, rfl⟩

theorem writeRelease_accepted
    (roundTrip : ∀ receipts, formats.parseCourts (formats.encodeCourts receipts) = some receipts)
    (hex : ∀ content, trim (formats.digest content ++ String.singleton newline) =
      formats.digest content) :
    verifyRelease formats (builder.writeRelease formats tree) tree = some [] ∧
      (builder.writeRelease formats tree).Consistent formats tree := by
  have listed := builder.writeRelease_lists formats tree roundTrip
  have verifiable := builder.collect_verifiable formats tree
  have rooted := builder.writeRelease_rootHashed formats tree hex
  constructor
  · rw [verifyRelease_nil]
    exact ⟨_, listed, verifiable, rooted⟩
  · refine ⟨_, listed, ?_, verifiable, rooted, builder.writeRelease_receiptsAgree formats tree,
      builder.writeRelease_manifestAgrees formats tree⟩
    intro receipt member
    obtain ⟨domain, _, name, built⟩ := builder.mem_collect formats tree receipt member
    exact builder.receipt_sealed formats _ _ receipt built

end ReleaseBuilder

theorem lists_unique (files : ReleaseFiles Content) (left right : List CourtReceipt)
    (leftListed : files.Lists formats left) (rightListed : files.Lists formats right) :
    left = right := by
  obtain ⟨courts, found, parsed⟩ := leftListed
  obtain ⟨other, sameFile, parsedOther⟩ := rightListed
  obtain rfl := Option.some.inj (found.symm.trans sameFile)
  exact Option.some.inj (parsed.symm.trans parsedOther)

/-- An accepted release is consistent exactly if what is not checked was not tampered with; a
release that has just been written is accepted. -/
theorem verifyRelease_consistent_iff
    (roundTrip : ∀ receipts, formats.parseCourts (formats.encodeCourts receipts) = some receipts)
    (hex : ∀ content, trim (formats.digest content ++ String.singleton newline) =
      formats.digest content)
    (files : ReleaseFiles Content) (tree : CourtsTree Content) (builder : ReleaseBuilder) :
    ((verifyRelease formats files tree = some [] → files.Consistent formats tree) ↔
        files.Untampered formats tree) ∧
      verifyRelease formats (builder.writeRelease formats tree) tree = some [] := by
  refine ⟨?_, (builder.writeRelease_accepted formats tree roundTrip hex).1⟩
  rw [verifyRelease_nil]
  constructor
  · intro consistent receipts listed verifiable rooted
    obtain ⟨others, otherListed, sealed, _, _, receiptsAgree, manifestAgrees⟩ :=
      consistent ⟨receipts, listed, verifiable, rooted⟩
    obtain rfl := lists_unique formats files receipts others listed otherListed
    exact ⟨sealed, receiptsAgree, manifestAgrees⟩
  · rintro untampered ⟨receipts, listed, verifiable, rooted⟩
    obtain ⟨sealed, receiptsAgree, manifestAgrees⟩ :=
      untampered receipts listed verifiable rooted
    exact ⟨receipts, listed, sealed, verifiable, rooted, receiptsAgree, manifestAgrees⟩

end

namespace Sample

inductive ReleaseBytes
  | text (text : String)
  | receipt (receipt : CourtReceipt)
  | courts (receipts : List CourtReceipt)

def ReleaseBytes.digest : ReleaseBytes → String
  | .receipt written => if written.result = "pass" then "a1" else "b2"
  | .text _ | .courts _ => "c3"

def releaseFormats : FileFormats ReleaseBytes where
  digest := ReleaseBytes.digest
  text := .text
  parseEvidence _ := none
  encodeReceipt := .receipt
  encodeCourts := .courts
  parseCourts
    | .courts receipts => some receipts
    | _ => none

def unrecordedCourt : CourtDirectory ReleaseBytes where
  openFile name := if name ∈ recipeFiles then some (.text "manifest") else none
  openDirectory _ := none
  opens := by
    rintro _ _ _ ⟨_, found, _⟩
    cases found

def courtsTree : CourtsTree ReleaseBytes where
  domains := [("scx", ["loader-interface"])]
  court _ _ := unrecordedCourt
  components := by decide

def editedRelease : ReleaseFiles ReleaseBytes :=
  let release := builder.writeRelease releaseFormats courtsTree
  let receipts := (builder.collect releaseFormats courtsTree).map fun receipt =>
    { receipt with result := "pass" }
  { release with
    courts := some (.courts receipts)
    rootHash := some (ReleaseBytes.digest (.courts receipts) ++ String.singleton newline) }

end Sample

theorem releaseFormats_hex (content : Sample.ReleaseBytes) :
    trim (Sample.releaseFormats.digest content ++ String.singleton newline) =
      Sample.releaseFormats.digest content := by
  have other : trim ("c3" ++ String.singleton newline) = "c3" := by decide
  have passing : trim ("a1" ++ String.singleton newline) = "a1" := by decide
  have failing : trim ("b2" ++ String.singleton newline) = "b2" := by decide
  cases content with
  | text text => exact other
  | courts receipts => exact other
  | receipt receipt =>
      by_cases passes : receipt.result = "pass"
      · simp only [Sample.releaseFormats, Sample.ReleaseBytes.digest, passes, ↓reduceIte, passing]
      · simp only [Sample.releaseFormats, Sample.ReleaseBytes.digest, passes, ↓reduceIte, failing]

theorem verifyRelease_written :
    ((verifyRelease Sample.releaseFormats Sample.editedRelease Sample.courtsTree = some [] →
        Sample.editedRelease.Consistent Sample.releaseFormats Sample.courtsTree) ↔
        Sample.editedRelease.Untampered Sample.releaseFormats Sample.courtsTree) ∧
      verifyRelease Sample.releaseFormats
        (Sample.builder.writeRelease Sample.releaseFormats Sample.courtsTree)
          Sample.courtsTree = some [] :=
  verifyRelease_consistent_iff Sample.releaseFormats (fun _ => rfl) releaseFormats_hex
    Sample.editedRelease Sample.courtsTree Sample.builder

/-- A verdict that was edited in COURTS.json is accepted once ROOT-HASH is rewritten. -/
theorem editedVerdict_accepted :
    ¬(verifyRelease Sample.releaseFormats Sample.editedRelease Sample.courtsTree = some [] →
      Sample.editedRelease.Consistent Sample.releaseFormats Sample.courtsTree) := by
  let formats := Sample.releaseFormats
  let collected := Sample.builder.collect formats Sample.courtsTree
  let edit := fun receipt : CourtReceipt => { receipt with result := "pass" }
  have listed : Sample.editedRelease.Lists formats (collected.map edit) := ⟨_, rfl, rfl⟩
  intro consistent
  obtain ⟨receipts, relisted, sealed, _⟩ := consistent (by
    rw [verifyRelease_nil]
    refine ⟨_, listed, ?_, _, _, rfl, rfl, releaseFormats_hex _⟩
    intro edited member
    obtain ⟨receipt, inside, rfl⟩ := List.mem_map.mp member
    exact Sample.builder.collect_verifiable formats Sample.courtsTree receipt inside)
  obtain rfl := lists_unique formats _ _ _ listed relisted
  have recipe : Sample.unrecordedCourt.HasRecipe := by
    intro name known
    simp only [Sample.unrecordedCourt, known, ↓reduceIte, Option.isSome_some]
  obtain ⟨receipt, built⟩ := Option.isSome_iff_exists.mp
    ((receipt_isSome formats Sample.builder "scx/loader-interface" _).mpr recipe)
  have member : receipt ∈ collected := by
    have claim := recipe "claim.toml" (by decide)
    simpa [collected, ReleaseBuilder.collect, byName, Sample.courtsTree, claim] using built
  have original := Sample.builder.receipt_sealed formats _ _ receipt built
  have edited := sealed (edit receipt) (List.mem_map_of_mem member)
  obtain ⟨_, result, _⟩ := receipt_fields formats _ _ _ receipt built
  have unrecorded : receipt.result = "unrecorded" := result
  simp only [CourtReceipt.Sealed, CourtReceipt.recomputeReceiptHash, formats,
    Sample.releaseFormats, Sample.ReleaseBytes.digest, edit, unrecorded] at original edited
  rw [← original] at edited
  simp at edited

end KernelManager
