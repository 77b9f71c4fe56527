import KernelManager.Core.Text
import KernelManager.Scx

/-! The names of the built package files: the application and the reference pipeline read
them from the same two probe texts. -/

namespace KernelManager

abbrev PkgFuncs := List String × Option (String × String)

def readFuncsLine (parsed : PkgFuncs) (line : String) : PkgFuncs :=
  match stripStart line "declare -f " with
  | some fnName =>
      match stripStart fnName "package_" with
      | some suffix => (parsed.1 ++ [suffix], parsed.2)
      | none => parsed
  | none =>
      match stripStart line "pkgver: " with
      | some version =>
          match splitOnce '-' version with
          | some (pkgver, pkgrel) => (parsed.1, some (pkgver, pkgrel))
          | none => parsed
      | none => parsed

def parsePkgfuncsProbeOutput (output : String) : PkgFuncs :=
  (lines output).foldl readFuncsLine ([], none)

def artifactGlobs (pkgFuncSuffixes : List String) (pkgver pkgrel pkgext : String) : List String :=
  pkgFuncSuffixes.map fun suffix => suffix ++ "-" ++ pkgver ++ "-" ++ pkgrel ++ "-*" ++ pkgext

def buildArtifactGlobs (pkgbuildExists : Bool) (funcs pkgext : String) : List String :=
  if !pkgbuildExists then []
  else
    match parsePkgfuncsProbeOutput funcs with
    | (_, none) => []
    | (suffixes, some (pkgver, pkgrel)) =>
        if suffixes.isEmpty then [] else artifactGlobs suffixes pkgver pkgrel (trim pkgext)

def pkgextValue (pkgextInput probed : String) : String :=
  if pkgextInput = "probe" then (if probed.isEmpty then ".pkg.tar.zst" else probed)
  else if pkgextInput = "probe-empty" then ".pkg.tar.zst"
  else pkgextInput

structure PkgGlobs where
  probeOutput : String
  suffixes : List String
  pkgverStr : String
  globs : List String
  broken : Bool
  deriving DecidableEq, Repr

def referenceSuffix (line : String) : Option String :=
  stripStart ((stripStart line "declare -f ").getD line) "package_"

def pkgGlobs (probeOut pkgextVal : String) : PkgGlobs :=
  let parseLines := ((probeOut.toList.splitOn newline).filter (!·.isEmpty)).map String.ofList
  match parseLines.find? (startsWith · "pkgver: ") with
  | none =>
      { probeOutput := probeOut, suffixes := [], pkgverStr := "", globs := [], broken := true }
  | some pkgverLine =>
      let pkgverStr := String.ofList (pkgverLine.toList.drop "pkgver: ".toList.length)
      let suffixes := parseLines.filterMap referenceSuffix
      { probeOutput := probeOut
        suffixes
        pkgverStr
        globs := suffixes.map fun suffix => suffix ++ "-" ++ pkgverStr ++ "-*" ++ pkgextVal
        broken := false }

def referenceGlobs (funcs pkgext : String) : List String :=
  (pkgGlobs funcs (pkgextValue "probe" pkgext)).globs

def packageStart : List Char := "package_".toList
def declaration : List Char := "declare -f ".toList
def declaredStart : List Char := declaration ++ packageStart
def versionStart : List Char := "pkgver: ".toList

def firstVersion (funcs : String) : Option (List Char) :=
  ((textLines funcs).filterMap fun line => Lines.strip versionStart line.text).head?

def lastRelease (funcs : String) : Option (List Char) :=
  ((textLines funcs).filterMap fun line =>
    (Lines.strip versionStart line.shown).filter ('-' ∈ ·)).getLast?

def NoArtifacts (funcs : String) : Prop :=
  (∀ line ∈ textLines funcs, ¬versionStart <+: line.text) ∨
    ∀ line ∈ textLines funcs, ¬packageStart <+: line.text ∧ ¬declaredStart <+: line.text

/-- The texts on which the two readers see the same names: every package function is
declared on a line that is shown as it stands, the first version is the last release, and
the extension is neither missing nor padded. -/
structure GlobsAgree (funcs pkgext : String) : Prop where
  declared : ∀ line ∈ textLines funcs, ¬packageStart <+: line.text
  plain : ∀ line ∈ textLines funcs, declaredStart <+: line.text → line.shown = line.text
  version : ∃ version, firstVersion funcs = some version ∧ lastRelease funcs = some version
  extension : pkgext ≠ ""
  trimmed : trim pkgext = pkgext

def globTail (version pkgext : List Char) : List Char := '-' :: (version ++ '-' :: '*' :: pkgext)

def declaredSuffix (line : List Char) : Option (List Char) := Lines.strip declaredStart line

def releasedVersion (line : List Char) : Option (String × String) :=
  (Lines.strip versionStart line).bind fun version => splitOnce '-' (String.ofList version)

theorem stripStart_declaration (line : List Char) :
    stripStart (String.ofList line) "declare -f " =
      (Lines.strip declaration line).map String.ofList := stripStart_ofList line _

theorem stripStart_package (line : List Char) :
    stripStart (String.ofList line) "package_" =
      (Lines.strip packageStart line).map String.ofList := stripStart_ofList line _

theorem stripStart_version (line : List Char) :
    stripStart (String.ofList line) "pkgver: " =
      (Lines.strip versionStart line).map String.ofList := stripStart_ofList line _

theorem readFuncsLine_eq (parsed : PkgFuncs) (line : List Char) :
    readFuncsLine parsed (String.ofList line) =
      (parsed.1 ++ ((declaredSuffix line).map String.ofList).toList,
        (releasedVersion line).or parsed.2) := by
  unfold readFuncsLine declaredSuffix releasedVersion
  rw [declaredStart, Lines.strip_append_start, stripStart_declaration, stripStart_version]
  cases declared : Lines.strip declaration line with
  | some fnName =>
      obtain rfl := (Lines.strip_eq_some _ _ _).mp declared
      have unversioned : Lines.strip versionStart (declaration ++ fnName) = none :=
        Lines.strip_apart _ _ _ 'd' 'p' (by decide) (by decide) (by decide)
      simp only [Option.map_some, unversioned, Option.bind_some, Option.bind_none, Option.none_or,
        stripStart_package]
      cases Lines.strip packageStart fnName <;> simp
  | none =>
      simp only [Option.map_none, Option.bind_none]
      cases Lines.strip versionStart line with
      | none => simp
      | some version =>
          cases split : splitOnce '-' (String.ofList version) <;> simp [split]

theorem foldl_readFuncsLine (texts : List (List Char)) (parsed : PkgFuncs) :
    (texts.map String.ofList).foldl readFuncsLine parsed =
      (parsed.1 ++ (texts.filterMap declaredSuffix).map String.ofList,
        (texts.filterMap releasedVersion).getLast?.or parsed.2) := by
  induction texts generalizing parsed with
  | nil => simp
  | cons line texts ih =>
      rw [List.map_cons, List.foldl_cons, ih, readFuncsLine_eq]
      apply Prod.ext
      · cases found : declaredSuffix line <;> simp [found]
      · cases released : releasedVersion line with
        | none => simp [released]
        | some version =>
            simp only [Option.some_or, List.filterMap_cons, released, List.getLast?_cons]
            cases (texts.filterMap releasedVersion).getLast? <;> rfl

theorem parsePkgfuncsProbeOutput_eq (output : String) :
    parsePkgfuncsProbeOutput output =
      (((textLines output).filterMap fun line => declaredSuffix line.shown).map String.ofList,
        ((textLines output).filterMap fun line => releasedVersion line.shown).getLast?) := by
  rw [parsePkgfuncsProbeOutput, lines, foldl_readFuncsLine,
    Lines.read_filterMap _ _ _ _ (by decide), Lines.read_filterMap _ _ _ _ (by decide)]
  simp [textLines, TextLine.shown]

theorem releasedVersion_join (line : List Char) :
    (releasedVersion line).map (fun version => version.1.toList ++ '-' :: version.2.toList) =
      (Lines.strip versionStart line).filter ('-' ∈ ·) := by
  unfold releasedVersion
  cases Lines.strip versionStart line with
  | none => rfl
  | some version =>
      rw [Option.bind_some, splitOnce_join, String.toList_ofList]
      by_cases dashed : '-' ∈ version <;> simp [Option.filter, dashed]

theorem lastRelease_eq (funcs : String) :
    lastRelease funcs = (parsePkgfuncsProbeOutput funcs).2.map
      (fun version => version.1.toList ++ '-' :: version.2.toList) := by
  rw [parsePkgfuncsProbeOutput_eq, lastRelease, ← List.getLast?_map, List.map_filterMap]
  simp only [releasedVersion_join]

theorem buildArtifactGlobs_toList (funcs pkgext : String) :
    (buildArtifactGlobs true funcs pkgext).map String.toList =
      match lastRelease funcs with
      | none => []
      | some version =>
          ((textLines funcs).filterMap fun line => declaredSuffix line.shown).map
            (· ++ globTail version (trim pkgext).toList) := by
  have suffixes : (parsePkgfuncsProbeOutput funcs).1.map String.toList =
      (textLines funcs).filterMap fun line => declaredSuffix line.shown := by
    rw [parsePkgfuncsProbeOutput_eq]
    simp
  rw [lastRelease_eq, ← suffixes]
  unfold buildArtifactGlobs
  cases parsed : parsePkgfuncsProbeOutput funcs with
  | mk names version =>
      cases version with
      | none => simp
      | some version =>
          by_cases empty : names = []
          · simp [empty]
          · simp [empty, artifactGlobs, globTail]

def referenceKey (line : List Char) : Option (List Char) :=
  (declaredSuffix line).or (Lines.strip packageStart line)

theorem referenceSuffix_eq (line : List Char) :
    referenceSuffix (String.ofList line) = (referenceKey line).map String.ofList := by
  unfold referenceSuffix referenceKey declaredSuffix
  rw [declaredStart, Lines.strip_append_start, stripStart_declaration]
  cases declared : Lines.strip declaration line with
  | none => simp [stripStart_package]
  | some name =>
      obtain rfl := (Lines.strip_eq_some _ _ _).mp declared
      have apart : Lines.strip packageStart (declaration ++ name) = none :=
        Lines.strip_apart _ _ _ 'd' 'p' (by decide) (by decide) (by decide)
      simp [stripStart_package, apart]

theorem find_versionLine (texts : List (List Char)) :
    ((texts.map String.ofList).find? (startsWith · "pkgver: ")).map
        (fun line => line.toList.drop versionStart.length) =
      (texts.filterMap (Lines.strip versionStart)).head? := by
  induction texts with
  | nil => rfl
  | cons line texts ih =>
      have seen : startsWith (String.ofList line) "pkgver: " = versionStart.isPrefixOf line :=
        congrArg (versionStart.isPrefixOf ·) String.toList_ofList
      by_cases leads : versionStart.isPrefixOf line = true
      · simp [seen, leads, Lines.strip]
      · rw [Bool.not_eq_true] at leads
        simpa [List.find?_cons, seen, leads, Lines.strip] using ih

theorem referenceGlobs_toList (funcs pkgext : String) :
    (referenceGlobs funcs pkgext).map String.toList =
      match firstVersion funcs with
      | none => []
      | some version =>
          ((textLines funcs).filterMap fun line => referenceKey line.text).map
            (· ++ globTail version (pkgextValue "probe" pkgext).toList) := by
  have texts : (textLines funcs).map Lines.Line.text = funcs.toList.splitOn newline :=
    Lines.terminate_text _
  have kept : ∀ take : List Char → Option (List Char), take [] = none →
      ((funcs.toList.splitOn newline).filter (!·.isEmpty)).filterMap take =
        (textLines funcs).filterMap fun line => take line.text := by
    intro take empty
    rw [List.filterMap_filter, ← texts, List.filterMap_map]
    congr 1
    funext line
    cases shown : line.text <;> simp [empty, shown]
  have version := find_versionLine ((funcs.toList.splitOn newline).filter (!·.isEmpty))
  rw [kept _ (by decide)] at version
  have suffixes : ((((funcs.toList.splitOn newline).filter (!·.isEmpty)).map
      String.ofList).filterMap referenceSuffix).map String.toList =
        (textLines funcs).filterMap fun line => referenceKey line.text := by
    rw [← kept _ (by decide), List.filterMap_map, List.map_filterMap]
    congr 1
    funext line
    simp [referenceSuffix_eq, Function.comp_def]
  rw [firstVersion, ← version, ← suffixes]
  unfold referenceGlobs pkgGlobs
  cases found : (((funcs.toList.splitOn newline).filter (!·.isEmpty)).map String.ofList).find?
      (startsWith · "pkgver: ") with
  | none => simp [found]
  | some line =>
      have length : versionStart.length = 8 := by decide
      simp [found, globTail, length]

theorem trimmed_ext (first second : List Char) (ext : String)
    (same : globTail first (trim ext).toList = globTail second ext.toList) :
    first = second ∧ trim ext = ext := by
  have tails : first ++ '-' :: '*' :: (trim ext).toList = second ++ '-' :: '*' :: ext.toList :=
    (List.cons.inj same).2
  have kept : (trim ext).toList.count '*' = ext.toList.count '*' := by
    rw [trim, String.toList_ofList]
    exact Lines.count_dropEnds isWhitespace '*' ext.toList (by decide)
  have shorter : (trim ext).toList.length ≤ ext.toList.length := by
    rw [trim, String.toList_ofList, List.length_reverse]
    exact (List.dropWhile_suffix _).length_le.trans
      (by rw [List.length_reverse]; exact (List.dropWhile_suffix _).length_le)
  have ends : (trim ext).toList <:+ ext.toList := by
    have whole : ext.toList <:+ first ++ '-' :: '*' :: (trim ext).toList :=
      ⟨second ++ ['-', '*'], by rw [tails]; simp⟩
    have part : (trim ext).toList <:+ first ++ '-' :: '*' :: (trim ext).toList :=
      ⟨first ++ ['-', '*'], by simp⟩
    exact List.suffix_of_suffix_length_le part whole shorter
  obtain ⟨padding, split⟩ := ends
  rw [← split] at tails kept
  have cancelled : (first ++ ['-', '*']) ++ (trim ext).toList =
      (second ++ '-' :: '*' :: padding) ++ (trim ext).toList := by
    simpa using tails
  have before := List.append_cancel_right cancelled
  have unpadded : padding = [] := by
    rcases List.eq_nil_or_concat' padding with empty | ⟨start, last, rfl⟩
    · exact empty
    · have lasts := congrArg List.getLast? before
      have star : '*' = last := by simpa [List.getLast?_append, List.getLast?_cons] using lasts
      rw [← star, List.count_append, List.count_append, List.count_singleton_self] at kept
      omega
  rw [unpadded] at before split
  exact ⟨List.append_cancel_right before, String.toList_inj.mp (by simpa using split)⟩

theorem fallbackExt_apart (first second : List Char) :
    globTail first (trim "").toList ≠ globTail second ".pkg.tar.zst".toList := by
  intro same
  have lasts := congrArg List.getLast? same
  have missing : (trim "").toList = [] := by decide
  simp [globTail, missing, List.getLast?_cons, List.getLast?_append] at lasts

theorem referenceKey_none (line : List Char) :
    referenceKey line = none ↔ ¬packageStart <+: line ∧ ¬declaredStart <+: line := by
  rw [referenceKey, declaredSuffix, Option.or_eq_none_iff, Lines.strip_eq_none,
    Lines.strip_eq_none, and_comm]

theorem declared_shown (line : TextLine) :
    declaredStart <+: line.shown ↔ declaredStart <+: line.text :=
  Lines.prefix_shown carriageReturn line declaredStart (by decide)

theorem declaredSuffix_near (line : TextLine) (key : List Char)
    (found : declaredSuffix line.shown = some key) :
    referenceKey line.text = some key ∨
      referenceKey line.text = some (key ++ [carriageReturn]) := by
  have shown : Lines.Line.shown carriageReturn line = declaredStart ++ key :=
    (Lines.strip_eq_some _ _ _).mp found
  unfold referenceKey declaredSuffix
  rcases Lines.shown_cases carriageReturn line with same | longer
  · left
    rw [← same, shown, Lines.strip_append, Option.some_or]
  · right
    rw [longer, shown, List.append_assoc, Lines.strip_append, Option.some_or]

theorem firstVersion_none (funcs : String) :
    firstVersion funcs = none ↔ ∀ line ∈ textLines funcs, ¬versionStart <+: line.text := by
  simp only [firstVersion, List.head?_eq_none_iff, List.filterMap_eq_nil_iff, Lines.strip_eq_none]

theorem lastRelease_none (funcs : String)
    (unversioned : ∀ line ∈ textLines funcs, ¬versionStart <+: line.text) :
    lastRelease funcs = none := by
  rw [lastRelease, List.getLast?_eq_none_iff, List.filterMap_eq_nil_iff]
  intro line member
  have hidden : ¬versionStart <+: line.shown := fun leads =>
    unversioned line member ((Lines.prefix_shown carriageReturn line _ (by decide)).mp leads)
  rw [(Lines.strip_eq_none _ _).mpr hidden, Option.filter_none]

theorem noArtifacts_globs (funcs pkgext : String) (nothing : NoArtifacts funcs) :
    buildArtifactGlobs true funcs pkgext = [] ∧ referenceGlobs funcs pkgext = [] := by
  have empty : ∀ names : List String, names.map String.toList = [] → names = [] := by simp
  constructor
  · apply empty
    rw [buildArtifactGlobs_toList]
    rcases nothing with unversioned | packageless
    · rw [lastRelease_none funcs unversioned]
    · have keyless : ((textLines funcs).filterMap fun line => declaredSuffix line.shown) = [] := by
        rw [List.filterMap_eq_nil_iff]
        intro line member
        rw [declaredSuffix, Lines.strip_eq_none, declared_shown]
        exact (packageless line member).2
      rw [keyless]
      cases lastRelease funcs <;> rfl
  · apply empty
    rw [referenceGlobs_toList]
    rcases nothing with unversioned | packageless
    · rw [(firstVersion_none funcs).mpr unversioned]
    · have keyless : ((textLines funcs).filterMap fun line => referenceKey line.text) = [] := by
        rw [List.filterMap_eq_nil_iff]
        intro line member
        exact (referenceKey_none line.text).mpr (packageless line member)
      rw [keyless]
      cases firstVersion funcs <;> rfl

theorem suffixes_agree (funcs : String) :
    (∀ line ∈ textLines funcs, declaredSuffix line.shown = referenceKey line.text) ↔
      ∀ line ∈ textLines funcs, ¬packageStart <+: line.text ∧
        (declaredStart <+: line.text → line.shown = line.text) := by
  constructor
  · intro same line member
    have agree := same line member
    constructor
    · rintro ⟨name, text⟩
      have undeclared : declaredSuffix line.text = none := by
        rw [← text]
        exact Lines.strip_apart _ _ _ 'p' 'd' (by decide) (by decide) (by decide)
      have hidden : declaredSuffix line.shown = none := by
        rw [declaredSuffix, Lines.strip_eq_none, declared_shown, ← Lines.strip_eq_none]
        exact undeclared
      rw [hidden, referenceKey, undeclared, Option.none_or, ← text, Lines.strip_append] at agree
      cases agree
    · rintro ⟨name, text⟩
      have known : referenceKey line.text = some name := by
        rw [referenceKey, declaredSuffix, ← text, Lines.strip_append, Option.some_or]
      rw [known] at agree
      rw [(Lines.strip_eq_some _ _ _).mp agree, text]
  · intro plain line member
    obtain ⟨unpackaged, stands⟩ := plain line member
    by_cases declared : declaredStart <+: line.text
    · rw [stands declared, referenceKey, (Lines.strip_eq_none _ _).mpr unpackaged, Option.or_none]
    · rw [(referenceKey_none line.text).mpr ⟨unpackaged, declared⟩, declaredSuffix,
        Lines.strip_eq_none, declared_shown]
      exact declared

theorem globs_eq_iff (funcs pkgext : String) (artifacts : ¬NoArtifacts funcs) :
    buildArtifactGlobs true funcs pkgext = referenceGlobs funcs pkgext ↔
      GlobsAgree funcs pkgext := by
  have lists : buildArtifactGlobs true funcs pkgext = referenceGlobs funcs pkgext ↔
      (buildArtifactGlobs true funcs pkgext).map String.toList =
        (referenceGlobs funcs pkgext).map String.toList :=
    (List.map_injective_iff.mpr fun _ _ => String.toList_inj.mp).eq_iff.symm
  obtain ⟨versioned, packaged⟩ := not_or.mp artifacts
  rw [← firstVersion_none] at versioned
  obtain ⟨version, first⟩ := Option.ne_none_iff_exists'.mp versioned
  have named : ((textLines funcs).filterMap fun line => referenceKey line.text) ≠ [] := by
    simpa only [Ne, List.filterMap_eq_nil_iff, referenceKey_none] using packaged
  rw [lists, buildArtifactGlobs_toList, referenceGlobs_toList, first]
  cases last : lastRelease funcs with
  | none =>
      constructor
      · intro same
        exact absurd (List.map_eq_nil_iff.mp same.symm) named
      · rintro ⟨_, _, ⟨_, _, released⟩, _, _⟩
        rw [last] at released
        cases released
  | some release =>
      have keys := Lines.keys_agree carriageReturn (textLines funcs)
        (fun line => declaredSuffix line.shown) (fun line => referenceKey line.text)
        (globTail release (trim pkgext).toList)
        (globTail version (pkgextValue "probe" pkgext).toList) declaredSuffix_near (by
          rw [globTail, List.head?_cons]
          decide)
      simp only [named, false_or, suffixes_agree] at keys
      simp only [keys]
      constructor
      · rintro ⟨readers, tails⟩
        have extension : pkgext ≠ "" := by
          rintro rfl
          exact fallbackExt_apart release version tails
        have probed : pkgextValue "probe" pkgext = pkgext := by
          simp [pkgextValue, extension]
        rw [probed] at tails
        obtain ⟨same, trimmed⟩ := trimmed_ext release version pkgext tails
        exact
          { declared := fun line member => (readers line member).1
            plain := fun line member => (readers line member).2
            version := ⟨version, first, by rw [last, same]⟩
            extension
            trimmed }
      · rintro ⟨declared, plain, ⟨common, firstCommon, lastCommon⟩, extension, trimmed⟩
        have probed : pkgextValue "probe" pkgext = pkgext := by
          simp [pkgextValue, extension]
        obtain rfl := Option.some.inj (first.symm.trans firstCommon)
        obtain rfl := Option.some.inj (last.symm.trans lastCommon)
        exact ⟨fun line member => ⟨declared line member, plain line member⟩,
          by rw [probed, trimmed]⟩

/-- The application's names are the reference's exactly if there is nothing to install or the
two probes print texts on which the readers agree. -/
theorem buildArtifactGlobs_reference_iff (funcs pkgext : String) :
    buildArtifactGlobs true funcs pkgext = (pkgGlobs funcs (pkgextValue "probe" pkgext)).globs ↔
      NoArtifacts funcs ∨ GlobsAgree funcs pkgext := by
  by_cases nothing : NoArtifacts funcs
  · obtain ⟨built, reference⟩ := noArtifacts_globs funcs pkgext nothing
    rw [referenceGlobs] at reference
    simp [built, reference, nothing]
  · have agree := globs_eq_iff funcs pkgext nothing
    rw [referenceGlobs] at agree
    simpa [nothing] using agree

theorem emptyExt_apart :
    buildArtifactGlobs true "declare -f package_linux-cachyos\npkgver: 6.14.1-1" "" ≠
      (pkgGlobs "declare -f package_linux-cachyos\npkgver: 6.14.1-1"
        (pkgextValue "probe" "")).globs := by
  decide

end KernelManager
