import KernelManager.Build.SourceArray
import KernelManager.Core.Text
import KernelManager.Library.ShellQuotes
import Mathlib.Algebra.GroupWithZero.Nat

/-!
The two texts that a build splices into the PKGBUILD: the gates in front of them, and the texts
read back as the shell reads them.
-/

namespace KernelManager

def spliceUnsafeCharacters : List Char := "\"\n\r$`\\\x00".toList

def spliceUnsafeIndex (value : String) : Option Nat :=
  (value.toList.findIdx? (· ∈ spliceUnsafeCharacters)).map fun position =>
    ((value.toList.take position).map Char.utf8Size).sum

def spliceSafeCustomName (value : String) : Bool :=
  value = "$pkgbase" || value = "$pkgbase-custom" ||
    match value.toList with
    | [] => false
    | first :: rest =>
        first.isAlphanum && rest.all fun symbol =>
          symbol.isAlphanum || symbol = '.' || symbol = '_' || symbol = '+' || symbol = '-'

def parseSourceArrayProbeOutput (output : String) : List String :=
  ((output.toList.splitOn ' ').filter (!·.isEmpty)).map String.ofList

def lastNewline (text : List Char) : Option Nat :=
  (text.reverse.findIdx? (· = newline)).map fun back => text.length - 1 - back

def insertBeforeMarker (text marker insertion : String) : String :=
  match Scan.find marker.toList text.toList with
  | none => text
  | some position =>
      match lastNewline (text.toList.take (position + 1)) with
      | none => text
      | some index =>
          String.ofList
            (text.toList.take index ++ insertion.toList ++ text.toList.drop index)

def insertPatchSourceArray (pkgbuild : String) (origEntries patches : List String) : String :=
  insertBeforeMarker pkgbuild "prepare()" (buildSourceArray origEntries patches)

def customPkgbaseLine (customName : String) : String := "\n\npkgbase=" ++ quoted customName

def insertCustomPkgbase (pkgbuild customName : String) : String :=
  insertBeforeMarker pkgbuild "_major=" (customPkgbaseLine customName)

def readBehind {Value : Type} (start : String) (read : List Char → Option Value)
    (text : String) : Option Value :=
  if startsWith text start then read (text.toList.drop start.toList.length) else none

def readSourceArray : String → Option (List Shell.Word) := readBehind "source=(" Shell.readArray

def readPkgbase : String → Option Shell.Word := readBehind "\n\npkgbase=" Shell.readValue

/-- A custom name as the shell sees it: two of them refer to the package's own base. -/
def customNameWord (customName : String) : Shell.Word :=
  if customName = "$pkgbase" then [.parameter "pkgbase".toList]
  else if customName = "$pkgbase-custom" then
    .parameter "pkgbase".toList :: Shell.literalWord "-custom".toList
  else Shell.literalWord customName.toList

structure SplicesReadBack (output : String) (patches : List String) (customName : String) :
    Prop where
  sources :
    readSourceArray (buildSourceArray (parseSourceArrayProbeOutput output) patches) =
      some ((sourceEntries (parseSourceArrayProbeOutput output) patches).map fun entry =>
        Shell.literalWord entry.toList)
  pkgbase : readPkgbase (customPkgbaseLine customName) = some (customNameWord customName)

theorem insertBeforeMarker_splice (text marker insertion : String) :
    insertBeforeMarker text marker insertion = text ∨
      ∃ before after, text = before ++ after ∧
        insertBeforeMarker text marker insertion = before ++ insertion ++ after := by
  unfold insertBeforeMarker
  split
  · exact Or.inl rfl
  · split
    · exact Or.inl rfl
    · rename_i index _
      refine Or.inr ⟨String.ofList (text.toList.take index),
        String.ofList (text.toList.drop index), ?_, ?_⟩
      · rw [← String.ofList_append, List.take_append_drop, String.ofList_toList]
      · simp [String.ofList_append, String.append_assoc]

theorem readBehind_append {Value : Type} (start rest : String)
    (read : List Char → Option Value) :
    readBehind start read (start ++ rest) = read rest.toList := by
  have leads : startsWith (start ++ rest) start = true := by
    simp [startsWith, List.isPrefixOf_iff_prefix]
  simp [readBehind, leads]

theorem spliceUnsafeIndex_plain (value : String) (safe : spliceUnsafeIndex value = none) :
    Shell.Plain value.toList := by
  have special : Shell.specialSymbols.all (· ∈ spliceUnsafeCharacters) = true := by decide
  have noneUnsafe := List.findIdx?_eq_none_iff.mp (Option.map_eq_none_iff.mp safe)
  intro symbol member found
  have unsafeSymbol : symbol ∈ spliceUnsafeCharacters := by
    simpa using List.all_eq_true.mp special symbol found
  have safeSymbol := noneUnsafe symbol member
  simp [unsafeSymbol] at safeSymbol

theorem alphanum_plain (symbol : Char)
    (accepted : (symbol.isAlphanum || symbol = '.' || symbol = '_' || symbol = '+' ||
      symbol = '-') = true) : symbol ∉ Shell.specialSymbols := by
  have rejected : Shell.specialSymbols.all (fun special =>
      !(special.isAlphanum || special = '.' || special = '_' || special = '+' ||
        special = '-')) = true := by decide
  intro special
  have refused := List.all_eq_true.mp rejected symbol special
  rw [accepted] at refused
  cases refused

theorem spliceSafeCustomName_cases (customName : String)
    (accepted : spliceSafeCustomName customName = true) :
    customName = "$pkgbase" ∨ customName = "$pkgbase-custom" ∨
      Shell.Plain customName.toList := by
  simp only [spliceSafeCustomName, Bool.or_eq_true, decide_eq_true_eq] at accepted
  rcases accepted with (sentinel | standard) | literal
  · exact Or.inl sentinel
  · exact Or.inr (Or.inl standard)
  · right
    right
    cases symbols : customName.toList with
    | nil =>
        intro symbol member
        cases member
    | cons first rest =>
        simp only [symbols, Bool.and_eq_true, List.all_eq_true] at literal
        intro symbol member
        rcases List.mem_cons.mp member with rfl | later
        · exact alphanum_plain symbol (by simp [literal.1])
        · exact alphanum_plain symbol (literal.2 symbol later)

theorem quoted_toList (entry : String) :
    (quoted entry).toList = Shell.quotedWord entry.toList := by
  simp only [quoted, String.toList_append, Shell.quotedWord]
  rfl

theorem readValue_plain (text : List Char) (plain : Shell.Plain text) :
    Shell.readValue (Shell.quotedWord text) = some (Shell.literalWord text) := by
  have quoted := Shell.readAll_quoted [] text plain
  have opened : Shell.Reader.read (.between []) Shell.quote = some (.inside [] [] none) := by decide
  rw [Shell.quotedWord, Shell.readAll, opened, Option.bind_some] at quoted
  simp [Shell.readValue, Shell.quotedWord, quoted]

theorem customName_readBack (customName : String)
    (accepted : spliceSafeCustomName customName = true) :
    readPkgbase (customPkgbaseLine customName) = some (customNameWord customName) := by
  rw [readPkgbase, customPkgbaseLine, readBehind_append, quoted_toList]
  rcases spliceSafeCustomName_cases customName accepted with rfl | rfl | plain
  · decide
  · decide
  · have noExpansion : ∀ form : String, Shell.dollar ∈ form.toList → customName ≠ form := by
      rintro form dollar rfl
      exact plain _ dollar (by decide)
    have sentinel := noExpansion "$pkgbase" (by decide)
    have standard := noExpansion "$pkgbase-custom" (by decide)
    simp only [customNameWord, sentinel, standard, ↓reduceIte]
    exact readValue_plain customName.toList plain

theorem readSourceArray_block (origEntries patches : List String) :
    readSourceArray (buildSourceArray origEntries patches) =
      Shell.readArray
        (newline :: ([newline].intercalate
          ((sourceEntries origEntries patches).map fun entry =>
            Shell.quotedWord entry.toList) ++ [')']) ++ [newline]) := by
  have block : buildSourceArray origEntries patches = "source=(" ++
      ("\n" ++ "\n".intercalate ((sourceEntries origEntries patches).map quoted) ++ ")\n") := by
    simp only [buildSourceArray, String.append_assoc]
    rfl
  have entries : ((sourceEntries origEntries patches).map quoted).map String.toList =
      (sourceEntries origEntries patches).map fun entry => Shell.quotedWord entry.toList := by
    simp [quoted_toList]
  rw [readSourceArray, block, readBehind_append]
  congr 1
  simp only [String.toList_append, String.toList_intercalate, entries]
  have separator : "\n".toList = [newline] := by decide
  have ending : ")\n".toList = [')', newline] := by decide
  simp [separator, ending]

theorem sources_readBack (origEntries patches : List String)
    (plain : ∀ entry ∈ sourceEntries origEntries patches, Shell.Plain entry.toList) :
    readSourceArray (buildSourceArray origEntries patches) =
      some ((sourceEntries origEntries patches).map fun entry =>
        Shell.literalWord entry.toList) := by
  have words := Shell.readAll_words [] newline
    ((sourceEntries origEntries patches).map String.toList) (by decide) (by
      intro text member
      obtain ⟨entry, listed, rfl⟩ := List.mem_map.mp member
      exact plain entry listed)
  simp only [List.map_map, List.nil_append] at words
  have blank : Shell.isBlank newline = true := by decide
  rw [readSourceArray_block, Shell.readArray, List.cons_append, Shell.readAll]
  simp only [Shell.Reader.read, blank, ↓reduceIte, Option.bind_some]
  rw [Shell.readAll_append]
  have finished : Shell.readAll (.between []) ([newline].intercalate
      ((sourceEntries origEntries patches).map fun entry => Shell.quotedWord entry.toList) ++
        [')']) = some (.finished ((sourceEntries origEntries patches).map fun entry =>
          Shell.literalWord entry.toList)) := words
  rw [finished]
  simp [Shell.readAll, Shell.Reader.read, blank]

/-- With an accepted custom name and accepted patches the splices read back as asked for
exactly if every probed entry that is kept is plain. -/
theorem splices_readBack_iff (output : String) (patches : List String) (customName : String)
    (name : spliceSafeCustomName customName = true)
    (safe : ∀ patch ∈ patches, spliceUnsafeIndex patch = none) :
    SplicesReadBack output patches customName ↔
      ∀ entry ∈ parseSourceArrayProbeOutput output, isPatch entry = false →
        Shell.Plain entry.toList := by
  constructor
  · rintro ⟨sources, _⟩ entry member kept
    rw [readSourceArray_block] at sources
    apply Shell.readArray_plain _ _ sources entry.toList
    apply List.mem_map_of_mem
    simp [sourceEntries, member, kept]
  · intro plain
    refine ⟨sources_readBack _ _ ?_, customName_readBack customName name⟩
    intro entry member
    rcases List.mem_append.mp member with probed | patch
    · obtain ⟨listed, kept⟩ := List.mem_filter.mp probed
      exact plain entry listed (by simpa using kept)
    · exact spliceUnsafeIndex_plain entry (safe entry patch)

theorem splices_readBack_iff_default :
    SplicesReadBack "linux.tar.xz config 0001-base.patch" ["0001-base.patch"]
        defaultCustomName ↔
      ∀ entry ∈ parseSourceArrayProbeOutput "linux.tar.xz config 0001-base.patch",
        isPatch entry = false → Shell.Plain entry.toList :=
  splices_readBack_iff _ _ _ (by decide) (by decide)

/-- A command substitution in an entry of the evaluated array is spliced as it stands. -/
theorem probedEntry_expands :
    spliceSafeCustomName defaultCustomName = true ∧
      ¬SplicesReadBack "linux.tar.xz $(id)" [] defaultCustomName := by
  refine ⟨by decide, ?_⟩
  rintro ⟨sources, _⟩
  have unreadable : readSourceArray
      (buildSourceArray (parseSourceArrayProbeOutput "linux.tar.xz $(id)") []) = none := by decide
  rw [unreadable] at sources
  cases sources

end KernelManager
