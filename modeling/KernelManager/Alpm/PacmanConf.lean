import KernelManager.Core.Text
import KernelManager.Library.FirstOccurrences
import KernelManager.Library.Utf8
import Mathlib.Logic.Function.Basic

/-! The reader of the pacman configuration: its lines, its sections and the index over them. -/

namespace KernelManager

structure MiniIni where
  sections : List (String × List (String × String))
  index : String → Option Nat

def MiniIni.sectionNames (ini : MiniIni) : List String := ini.sections.map Prod.fst

inductive IniLine
  | ignored
  | header (name : String)
  | assignment (key value : String)
  deriving DecidableEq, Repr

def asciiLower (text : String) : String := String.ofList (text.toList.map Char.toLower)

def nul : Char := Char.ofNat 0

def findSymbol (symbol : Char) (text : List Char) : Option Nat :=
  (text.findIdx? (· = symbol)).map (Utf8.offset text)

def rfindSymbol (symbol : Char) (text : List Char) : Option Nat :=
  (Scan.findLast symbol text).map (Utf8.offset text)

/-- The text between the brackets of a header, whose comment is cut off before; the outer option
is `none` if a slice panics, the inner one if no bracket closes the header. -/
def headerName (line : List Char) : Option (Option (List Char)) :=
  let noComment := match findSymbol ';' line with
    | some position => Utf8.slice 0 position line
    | none => some line
  match noComment with
  | none => none
  | some noComment =>
      match rfindSymbol ']' noComment with
      | none => some none
      | some closing => (Utf8.slice 1 closing noComment).map some

/-- The equals sign is looked up in a copy of the line without escaped ones, and the line is cut
at the same offset. -/
def keyValue (line : String) : Option IniLine :=
  let lineNorm := replace line "\\=" "  "
  match findSymbol '=' lineNorm.toList with
  | none => some .ignored
  | some equalsAt =>
      match Utf8.splitAt equalsAt line.toList, Utf8.splitAt (equalsAt + 1) line.toList with
      | some (key, _), some (_, value) =>
          some (.assignment (asciiLower (replace (trim (String.ofList key)) "\\=" "="))
            (trim (String.ofList value)))
      | _, _ => none

def parseLine (rawLine : List Char) : Option IniLine :=
  let line := trim (String.ofList
    (rawLine.filter fun symbol => symbol ≠ nul ∧ symbol ≠ carriageReturn))
  match line.toList with
  | [] => some .ignored
  | first :: _ =>
      if first = '#' ∨ first = ';' then some .ignored
      else if first = '[' then
        match headerName line.toList with
        | none => none
        | some (some name) => some (.header (asciiLower (trim (String.ofList name))))
        | some none => keyValue line
      else keyValue line

namespace MiniIni

def ensureSection (ini : MiniIni) (name : String) : MiniIni :=
  if (ini.index name).isSome then ini
  else
    { sections := ini.sections ++ [(name, [])]
      index := Function.update ini.index name (some ini.sections.length) }

/-- The section is looked up in the index, which is expected to have it. -/
def setValue (ini : MiniIni) (name key value : String) : Option MiniIni :=
  match ini.index name with
  | none => none
  | some idx =>
      match ini.sections[idx]? with
      | none => none
      | some entry =>
          some { ini with
            sections := ini.sections.set idx (entry.1, Firsts.assign key value entry.2) }

end MiniIni

structure ParseState where
  ini : MiniIni
  currentSection : String
  inSection : Bool
  preSectionCounter : Nat

def ParseState.start : ParseState where
  ini := ⟨[], fun _ => none⟩
  currentSection := ""
  inSection := false
  preSectionCounter := 0

def ParseState.take (state : ParseState) : IniLine → Option ParseState
  | .ignored => some state
  | .header name =>
      some { state with
        ini := state.ini.ensureSection name, currentSection := name, inSection := true }
  | .assignment key value =>
      if state.inSection then
        (state.ini.setValue state.currentSection key value).map fun ini => { state with ini }
      else
        let auto := toString state.preSectionCounter
        ((state.ini.ensureSection auto).setValue auto key value).map fun ini =>
          { state with ini, preSectionCounter := state.preSectionCounter + 1 }

def ParseState.readLine (state : ParseState) (rawLine : List Char) : Option ParseState :=
  (parseLine rawLine).bind state.take

/-- The reader; the result is `none` if it panics. -/
def MiniIni.parse (content : String) : Option MiniIni :=
  ((content.toList.splitOn newline).foldlM ParseState.readLine ParseState.start).map (·.ini)

def registerSections (ini : MiniIni) : List String :=
  ini.sectionNames.filter fun name => name ≠ "testing" ∧ name ≠ "options"

def ParseState.context (state : ParseState) : Option String × Nat :=
  (if state.inSection then some state.currentSection else none, state.preSectionCounter)

abbrev Mention := String × Option (String × String)

abbrev Context := Option String × Nat

def mentionOf (context : Context) : IniLine → List Mention
  | .ignored => []
  | .header name => [(name, none)]
  | .assignment key value =>
      match context.1 with
      | some name => [(name, some (key, value))]
      | none => [(toString context.2, none), (toString context.2, some (key, value))]

def Context.advance (context : Context) : IniLine → Context
  | .ignored => context
  | .header name => (some name, context.2)
  | .assignment _ _ =>
      match context.1 with
      | some name => (some name, context.2)
      | none => (none, context.2 + 1)

def mentions (context : Context) : List IniLine → List Mention
  | [] => []
  | line :: lines => mentionOf context line ++ mentions (context.advance line) lines

def assignedIn (name : String) (mentioned : List Mention) : List (String × String) :=
  mentioned.filterMap fun mention => if mention.1 = name then mention.2 else none

/-- The document lists the mentioned sections once and by first mention, under lowercase names that
the index maps to their positions; each has the keys assigned in it anywhere, once and by first
assignment, with the value of the last. -/
structure Represents (mentioned : List Mention) (ini : MiniIni) : Prop where
  index : ∀ name position, ini.index name = some position ↔ ini.sectionNames[position]? = some name
  names : Firsts.Collected [] (mentioned.map Prod.fst) ini.sectionNames
  lower : ∀ name ∈ ini.sectionNames, asciiLower name = name
  tables : ∀ entry ∈ ini.sections, Firsts.Table (assignedIn entry.1 mentioned) entry.2

theorem toLower_toLower (symbol : Char) : symbol.toLower.toLower = symbol.toLower := by
  unfold Char.toLower
  grind

theorem toLower_digit (symbol : Char) (digit : symbol.isDigit = true) :
    symbol.toLower = symbol := by
  simp only [Char.isDigit, Bool.and_eq_true, decide_eq_true_eq] at digit
  unfold Char.toLower
  grind

theorem asciiLower_asciiLower (text : String) : asciiLower (asciiLower text) = asciiLower text := by
  simp only [asciiLower, String.toList_ofList, List.map_map]
  congr 2
  funext symbol
  exact toLower_toLower symbol

theorem asciiLower_toString (number : Nat) : asciiLower (toString number) = toString number := by
  have digits : ∀ symbol ∈ number.repr.toList, symbol.toLower = id symbol := by
    intro symbol member
    rw [Nat.toList_repr] at member
    exact toLower_digit symbol (Nat.isDigit_of_mem_toDigits (by decide) (by decide) member)
  change String.ofList (number.repr.toList.map Char.toLower) = number.repr
  rw [List.map_congr_left digits, List.map_id, String.ofList_toList]

theorem comment_cut (rest : List Char) :
    ∃ kept, (match findSymbol ';' ('[' :: rest) with
      | some position => Utf8.slice 0 position ('[' :: rest)
      | none => some ('[' :: rest)) = some ('[' :: kept) := by
  cases found : ('[' :: rest).findIdx? (· = ';') with
  | none => exact ⟨rest, by simp [findSymbol, found]⟩
  | some position =>
      have positive : position ≠ 0 := by
        rintro rfl
        have here := (List.findIdx?_eq_some_iff_getElem.mp found).2.1
        simp at here
      obtain ⟨before, rfl⟩ := Nat.exists_eq_succ_of_ne_zero positive
      refine ⟨rest.take before, ?_⟩
      have slice := Utf8.slice_offset ('[' :: rest) 0 (before + 1) (Nat.zero_le _)
      have zero : Utf8.offset ('[' :: rest) 0 = 0 := rfl
      rw [zero] at slice
      simp only [findSymbol, found, Option.map_some, slice]
      rfl

theorem headerName_some (line : List Char) (opens : ∃ rest, line = '[' :: rest) :
    ∃ name, headerName line = some name := by
  obtain ⟨rest, rfl⟩ := opens
  obtain ⟨kept, front⟩ := comment_cut rest
  unfold headerName
  simp only [front]
  cases closing : Scan.findLast ']' ('[' :: kept) with
  | none => exact ⟨none, by simp [rfindSymbol, closing]⟩
  | some position =>
      obtain ⟨before, after, whole, _, rfl⟩ := Scan.findLast_split ']' _ position closing
      have positive : 1 ≤ before.length := by
        cases before with
        | nil =>
            have heads := (List.cons.inj whole).1
            exact absurd heads (by decide)
        | cons symbol before => simp
      have one : Utf8.offset ('[' :: kept) 1 = 1 := rfl
      have slice := Utf8.slice_offset ('[' :: kept) 1 before.length positive
      rw [one] at slice
      refine ⟨some ((('[' :: kept).take before.length).drop 1), ?_⟩
      simp only [rfindSymbol, closing, Option.map_some, slice]

theorem keyValue_some (line : String) : ∃ parsed, keyValue line = some parsed := by
  have sizes : (replace line "\\=" "  ").toList.map Char.utf8Size =
      line.toList.map Char.utf8Size := by
    have blank := Scan.replaceAll_map Char.utf8Size "\\=".toList "  ".toList (by decide)
      (by decide) 0 line.toList
    rw [replace, String.toList_ofList, blank, List.drop_zero]
  unfold keyValue
  cases found : (replace line "\\=" "  ").toList.findIdx? (· = '=') with
  | none => exact ⟨.ignored, by simp only [findSymbol, found, Option.map_none]⟩
  | some position =>
      have offsets := Utf8.offset_congr _ _ sizes
      have next :
          Utf8.offset line.toList position + 1 = Utf8.offset line.toList (position + 1) := by
        obtain ⟨inside, equals, _⟩ := List.findIdx?_eq_some_iff_getElem.mp found
        rw [decide_eq_true_eq] at equals
        rw [← offsets, ← offsets, Utf8.offset, Utf8.offset, List.take_add_one,
          List.getElem?_eq_getElem inside, equals, Utf8.size_append]
        rfl
      simp only [findSymbol, found, Option.map_some, offsets, next, Utf8.splitAt_offset]
      exact ⟨_, rfl⟩

theorem parseLine_some (rawLine : List Char) : ∃ line, parseLine rawLine = some line := by
  unfold parseLine
  dsimp only
  split
  · exact ⟨_, rfl⟩
  · rename_i first rest spelled
    split
    · exact ⟨_, rfl⟩
    · split
      · rename_i opens
        obtain ⟨name, header⟩ := headerName_some _ ⟨rest, opens ▸ spelled⟩
        rw [header]
        cases name with
        | none => exact keyValue_some _
        | some name => exact ⟨_, rfl⟩
      · exact keyValue_some _

theorem keyValue_ne_header (line name : String) : keyValue line ≠ some (.header name) := by
  unfold keyValue
  dsimp only
  split
  · simp
  · split <;> simp

theorem parseLine_header (rawLine : List Char) (name : String)
    (parsed : parseLine rawLine = some (.header name)) : asciiLower name = name := by
  unfold parseLine at parsed
  dsimp only at parsed
  split at parsed
  · cases parsed
  · split at parsed
    · cases parsed
    · split at parsed
      · split at parsed
        · cases parsed
        · obtain rfl := IniLine.header.inj (Option.some.inj parsed)
          exact asciiLower_asciiLower _
        · exact absurd parsed (keyValue_ne_header _ name)
      · exact absurd parsed (keyValue_ne_header _ name)

theorem assignedIn_append (name : String) (first second : List Mention) :
    assignedIn name (first ++ second) = assignedIn name first ++ assignedIn name second :=
  List.filterMap_append

theorem represents_start : Represents [] ParseState.start.ini where
  index name position := by simp [ParseState.start, MiniIni.sectionNames]
  names := Firsts.collected_nil []
  lower name member := by cases member
  tables entry member := by cases member

theorem index_concat (names : List String) (index : String → Option Nat)
    (positions : ∀ name position, index name = some position ↔ names[position]? = some name)
    (name : String) (absent : name ∉ names) (other : String) (position : Nat) :
    Function.update index name (some names.length) other = some position ↔
      (names ++ [name])[position]? = some other := by
  by_cases same : other = name
  · rw [same, Function.update_self, Option.some.injEq]
    constructor
    · rintro rfl
      rw [List.getElem?_concat_length]
    · intro found
      by_contra apart
      rcases Nat.lt_or_gt_of_ne apart with beyond | before
      · have outside : (names ++ [name]).length ≤ position := by
          rw [List.length_append, List.length_singleton]
          omega
        rw [List.getElem?_eq_none outside] at found
        cases found
      · rw [List.getElem?_append_left before] at found
        exact absent (List.mem_of_getElem? found)
  · rw [Function.update_of_ne same, positions]
    by_cases before : position < names.length
    · rw [List.getElem?_append_left before]
    · rw [List.getElem?_eq_none (Nat.not_lt.mp before), List.getElem?_append_right
        (Nat.not_lt.mp before)]
      refine iff_of_false (by simp) ?_
      intro found
      exact same (List.mem_singleton.mp (List.mem_of_getElem? found))

section

variable {mentioned : List Mention} {ini : MiniIni} (represents : Represents mentioned ini)

include represents in
theorem Represents.index_isSome (name : String) :
    (ini.index name).isSome = true ↔ name ∈ ini.sectionNames := by
  rw [Option.isSome_iff_exists, List.mem_iff_getElem?]
  simp only [represents.index]

include represents in
theorem Represents.unmentioned (name : String) (absent : name ∉ ini.sectionNames) :
    assignedIn name mentioned = [] := by
  rw [assignedIn, List.filterMap_eq_nil_iff]
  intro mention member
  refine if_neg ?_
  rintro rfl
  exact absent ((represents.names.items _).mpr ⟨List.mem_map_of_mem member, List.not_mem_nil⟩)

theorem ensureSection_names (name : String) (known : (ini.index name).isSome = true ↔
    name ∈ ini.sectionNames) :
    (ini.ensureSection name).sectionNames = Firsts.push [] ini.sectionNames name := by
  unfold MiniIni.ensureSection Firsts.push
  rw [List.nil_append]
  by_cases old : name ∈ ini.sectionNames
  · rw [if_pos (known.mpr old), if_pos old]
  · rw [if_neg (mt known.mp old), if_neg old]
    simp [MiniIni.sectionNames]

include represents in
theorem Represents.ensureSection (name : String) (lower : asciiLower name = name) :
    Represents (mentioned ++ [(name, none)]) (ini.ensureSection name) where
  index other position := by
    by_cases old : name ∈ ini.sectionNames
    · have kept : ini.ensureSection name = ini := if_pos ((represents.index_isSome name).mpr old)
      rw [kept]
      exact represents.index other position
    · have names := ensureSection_names name (represents.index_isSome name)
      have index : (ini.ensureSection name).index =
          Function.update ini.index name (some ini.sectionNames.length) := by
        rw [MiniIni.ensureSection, if_neg (mt (represents.index_isSome name).mp old),
          MiniIni.sectionNames, List.length_map]
      rw [names, index, Firsts.push, List.nil_append, if_neg old]
      exact index_concat ini.sectionNames ini.index represents.index name old other position
  names := by
    rw [ensureSection_names name (represents.index_isSome name), List.map_append]
    exact represents.names.push name
  lower other member := by
    rw [ensureSection_names name (represents.index_isSome name), Firsts.push] at member
    split at member
    · exact represents.lower other member
    · rcases List.mem_append.mp member with old | new
      · exact represents.lower other old
      · rwa [List.mem_singleton.mp new]
  tables entry member := by
    have same :
        assignedIn entry.1 (mentioned ++ [(name, none)]) = assignedIn entry.1 mentioned := by
      rw [assignedIn_append]
      simp [assignedIn]
    rw [same]
    unfold MiniIni.ensureSection at member
    split at member
    · exact represents.tables entry member
    · rename_i new
      rcases List.mem_append.mp member with old | last
      · exact represents.tables entry old
      · obtain rfl := List.mem_singleton.mp last
        rw [represents.index_isSome] at new
        rw [represents.unmentioned name new]
        exact Firsts.table_nil

include represents in
theorem Represents.setValue (name key value : String) (member : name ∈ ini.sectionNames) :
    ∃ changed, ini.setValue name key value = some changed ∧
      changed.sectionNames = ini.sectionNames ∧
      Represents (mentioned ++ [(name, some (key, value))]) changed := by
  obtain ⟨idx, here⟩ := List.mem_iff_getElem?.mp member
  have indexed := (represents.index name idx).mpr here
  rw [MiniIni.sectionNames, List.getElem?_map, Option.map_eq_some_iff] at here
  obtain ⟨entry, found, rfl⟩ := here
  obtain ⟨inside, rfl⟩ := List.getElem?_eq_some_iff.mp found
  let table := Firsts.assign key value ini.sections[idx].2
  let changed : MiniIni :=
    { ini with sections := ini.sections.set idx (ini.sections[idx].1, table) }
  have names : changed.sectionNames = ini.sectionNames := by
    have bound : idx < (ini.sections.map Prod.fst).length := by simpa using inside
    have same : ini.sections[idx].1 = (ini.sections.map Prod.fst)[idx] := by
      rw [List.getElem_map]
    change (ini.sections.set idx (ini.sections[idx].1, table)).map Prod.fst = _
    rw [List.map_set, same, List.set_getElem_self]
    rfl
  refine ⟨changed, by simp only [MiniIni.setValue, indexed, found]; rfl, names, ?_, ?_, ?_, ?_⟩
  · intro other position
    rw [names]
    exact represents.index other position
  · have pushed := represents.names.push ini.sections[idx].1
    rw [Firsts.push, List.nil_append, if_pos member] at pushed
    rw [names, List.map_append]
    exact pushed
  · rw [names]
    exact represents.lower
  · intro entry listed
    have placed : (ini.sections[idx].1, table) ∈ changed.sections :=
      List.mem_set inside _
    by_cases here : entry.1 = ini.sections[idx].1
    · have distinct : changed.sectionNames.Nodup := by
        rw [names]
        exact represents.names.distinct
      obtain rfl := List.inj_on_of_nodup_map distinct listed placed here
      have earlier := represents.tables _ (List.getElem_mem inside)
      rw [assignedIn_append]
      simpa [assignedIn] using earlier.assign key value
    · rcases List.mem_or_eq_of_mem_set listed with old | rfl
      · have apart : ini.sections[idx].1 ≠ entry.1 := fun same => here same.symm
        rw [assignedIn_append]
        simpa [assignedIn, apart] using represents.tables entry old
      · exact absurd rfl here

end

structure Reads (mentioned : List Mention) (state : ParseState) : Prop where
  represents : Represents mentioned state.ini
  opened : state.inSection = true → state.currentSection ∈ state.ini.sectionNames

theorem mem_ensureSection (ini : MiniIni) (name : String)
    (known : (ini.index name).isSome = true ↔ name ∈ ini.sectionNames) :
    name ∈ (ini.ensureSection name).sectionNames := by
  rw [ensureSection_names name known, Firsts.push]
  split
  · assumption
  · exact List.mem_append_right _ (List.mem_singleton_self name)

theorem Reads.take {mentioned : List Mention} {state : ParseState} (reads : Reads mentioned state)
    (line : IniLine) (lower : ∀ name, line = .header name → asciiLower name = name) :
    ∃ next, state.take line = some next ∧ next.context = Context.advance state.context line ∧
      Reads (mentioned ++ mentionOf state.context line) next := by
  obtain ⟨represents, opened⟩ := reads
  cases line with
  | ignored => exact ⟨state, rfl, rfl, by rw [mentionOf, List.append_nil]; exact represents, opened⟩
  | header name =>
      refine ⟨_, rfl, rfl, represents.ensureSection name (lower name rfl), ?_⟩
      intro _
      exact mem_ensureSection state.ini name (represents.index_isSome name)
  | assignment key value =>
      cases inside : state.inSection with
      | true =>
          obtain ⟨changed, set, names, kept⟩ :=
            represents.setValue state.currentSection key value (opened inside)
          refine ⟨{ state with ini := changed }, ?_, ?_, ?_, ?_⟩
          · simp [ParseState.take, inside, set]
          · simp [ParseState.context, Context.advance, inside]
          · simpa [ParseState.context, mentionOf, inside] using kept
          · intro _
            exact names ▸ opened inside
      | false =>
          have ensured := represents.ensureSection (toString state.preSectionCounter)
            (asciiLower_toString _)
          have member := mem_ensureSection state.ini (toString state.preSectionCounter)
            (represents.index_isSome _)
          obtain ⟨changed, set, names, kept⟩ := ensured.setValue _ key value member
          refine ⟨{ state with ini := changed, preSectionCounter := state.preSectionCounter + 1 },
            ?_, ?_, ?_, ?_⟩
          · simp only [ParseState.take, inside, Bool.false_eq_true, ↓reduceIte, set,
              Option.map_some]
          · simp [ParseState.context, Context.advance, inside]
          · simpa [ParseState.context, mentionOf, inside] using kept
          · intro found
            exact absurd (inside.symm.trans found) (by decide)

theorem Reads.foldlM {mentioned : List Mention} {state : ParseState} (reads : Reads mentioned state)
    (rawLines : List (List Char)) :
    ∃ lines next, rawLines.mapM parseLine = some lines ∧
      rawLines.foldlM ParseState.readLine state = some next ∧
      Reads (mentioned ++ mentions state.context lines) next := by
  induction rawLines generalizing mentioned state with
  | nil => exact ⟨[], state, rfl, rfl, by rwa [mentions, List.append_nil]⟩
  | cons rawLine rawLines ih =>
      obtain ⟨line, parsed⟩ := parseLine_some rawLine
      obtain ⟨next, taken, context, kept⟩ := reads.take line fun name same =>
        parseLine_header rawLine name (same ▸ parsed)
      obtain ⟨lines, last, rest, run, held⟩ := ih kept
      refine ⟨line :: lines, last, ?_, ?_, ?_⟩
      · simp [List.mapM_cons, parsed, rest]
      · simp [List.foldlM_cons, ParseState.readLine, parsed, taken, run]
      · rw [context, List.append_assoc] at held
        exact held

/-- The reader keeps its representation on every content: it does not panic, and the document is
that of the sections and assignments that the lines mention; and every section in order is
registered, without any spelling of the two that are left out. -/
theorem parse_represents (content : String) :
    ∃ lines ini, (content.toList.splitOn newline).mapM parseLine = some lines ∧
      MiniIni.parse content = some ini ∧ Represents (mentions (none, 0) lines) ini ∧
      registerSections ini = ini.sectionNames.filter fun name =>
        asciiLower name ≠ "testing" ∧ asciiLower name ≠ "options" := by
  obtain ⟨lines, last, parsed, run, held⟩ :=
    Reads.foldlM ⟨represents_start, fun inside => absurd inside (by decide)⟩
      (content.toList.splitOn newline)
  refine ⟨lines, last.ini, parsed, ?_, held.represents, ?_⟩
  · rw [MiniIni.parse, run]
    rfl
  · apply List.filter_congr
    intro name member
    rw [held.represents.lower name member]

end KernelManager
