import KernelManager.Library.ShellWords

/-!
The commands of a shell script: a semicolon or the end of a line ends a command, and the words of
each are read as those of a command line. A script whose words cannot be read has no commands.
-/

namespace ShellWords

def endsCommand (symbol : Char) : Bool := symbol = ';' || symbol = lineFeed

structure Script where
  commands : List (List (List Char)) := []
  reader : Reader := {}
  deriving DecidableEq, Repr

namespace Script

def take (script : Script) (words : List (List Char)) : Script :=
  { commands := script.commands ++ [words] }

/-- No command may stand before a semicolon only; a line may be empty. -/
def read (script : Script) (symbol : Char) : Option Script :=
  if script.reader.quoting = .bare ∧ endsCommand symbol = true then
    script.reader.finish.bind fun words =>
      if words ≠ [] then some (script.take words)
      else if symbol = lineFeed then some { script with reader := {} }
      else none
  else (script.reader.read symbol).map ({ script with reader := · })

def readAll (script : Script) : List Char → Option Script
  | [] => some script
  | symbol :: text => (script.read symbol).bind (·.readAll text)

def finish (script : Script) : Option (List (List (List Char))) :=
  script.reader.finish.map fun words =>
    if words ≠ [] then script.commands ++ [words] else script.commands

theorem readAll_append (script : Script) (first second : List Char) :
    script.readAll (first ++ second) = (script.readAll first).bind (·.readAll second) := by
  induction first generalizing script with
  | nil => rfl
  | cons symbol first ih =>
      simp only [List.cons_append, readAll, Option.bind_assoc]
      congr 1
      funext next
      exact ih next

theorem ends_operator (symbol : Char) (ends : endsCommand symbol = true) :
    isBlank symbol = false ∧ symbol ≠ singleQuote ∧ symbol ≠ backslash ∧ symbol ∈ operators := by
  obtain rfl | rfl : symbol = ';' ∨ symbol = lineFeed := by simpa [endsCommand] using ends
  · decide
  · decide

theorem read_line (script : Script) (symbol : Char) (next : Reader)
    (reads : script.reader.read symbol = some next) :
    script.read symbol = some { script with reader := next } := by
  have within : ¬(script.reader.quoting = .bare ∧ endsCommand symbol = true) := by
    rintro ⟨bare, ends⟩
    obtain ⟨noBlank, noQuote, noBackslash, operator⟩ := ends_operator symbol ends
    simp [Reader.read, bare, noBlank, noQuote, noBackslash, operator] at reads
  rw [read, if_neg within, reads]
  rfl

theorem readAll_line (script : Script) (line : List Char) (next : Reader)
    (reads : script.reader.readAll line = some next) :
    script.readAll line = some { script with reader := next } := by
  induction line generalizing script with
  | nil =>
      obtain rfl := Option.some.inj reads
      rfl
  | cons symbol line ih =>
      rw [Reader.readAll] at reads
      obtain ⟨middle, first, rest⟩ := Option.bind_eq_some_iff.mp reads
      rw [readAll, read_line script symbol middle first, Option.bind_some,
        ih { script with reader := middle } rest]

theorem readAll_command (commands : List (List (List Char))) (line : List Char) (ending : Char)
    (ends : endsCommand ending = true) (words : List (List Char)) (some_words : words ≠ [])
    (reads : split line = some words) :
    readAll { commands := commands } (line ++ [ending]) =
      some { commands := commands ++ [words] } := by
  obtain ⟨last, read, finished⟩ := Option.bind_eq_some_iff.mp reads
  have bare : last.quoting = .bare := by
    cases quoting : last.quoting with
    | bare => rfl
    | _ => simp [Reader.finish, quoting] at finished
  rw [readAll_append, readAll_line { commands := commands } line last read, Option.bind_some,
    readAll, Script.read, if_pos ⟨bare, ends⟩, finished, Option.bind_some, if_pos some_words]
  rfl

end Script

def script (text : List Char) : Option (List (List (List Char))) :=
  (Script.readAll {} text).bind Script.finish

theorem script_commands (lines : List (List Char × Char)) (commands : List (List (List Char)))
    (ends : ∀ line ∈ lines, endsCommand line.2 = true)
    (reads : lines.map (fun line => split line.1) = commands.map some)
    (nonempty : ∀ words ∈ commands, words ≠ []) :
    script (lines.flatMap fun line => line.1 ++ [line.2]) = some commands := by
  have read : ∀ earlier, Script.readAll { commands := earlier }
      (lines.flatMap fun line => line.1 ++ [line.2]) =
        some { commands := earlier ++ commands } := by
    induction lines generalizing commands with
    | nil =>
        obtain rfl : commands = [] := by simpa using reads.symm
        intro earlier
        simp [Script.readAll]
    | cons line lines ih =>
        cases commands with
        | nil => simp at reads
        | cons words commands =>
            simp only [List.map_cons, List.cons.injEq] at reads
            rw [List.forall_mem_cons] at ends nonempty
            intro earlier
            rw [List.flatMap_cons, Script.readAll_append,
              Script.readAll_command earlier line.1 line.2 ends.1 words nonempty.1 reads.1,
              Option.bind_some, ih commands ends.2 reads.2 nonempty.2, List.append_assoc]
            rfl
  rw [script, read []]
  rfl

theorem intercalate_flatMap (blank : Char) (earlier : List (List Char)) (last : List Char) :
    [blank].intercalate (earlier ++ [last]) = earlier.flatMap (· ++ [blank]) ++ last := by
  induction earlier with
  | nil => simp
  | cons word earlier ih =>
      rw [List.cons_append, List.intercalate_cons_of_ne_nil (by simp), ih, List.flatMap_cons]
      simp only [List.append_assoc]

theorem split_joined (words : List (List Char)) (some_words : words ≠ [])
    (ordinary : ∀ word ∈ words, word ≠ [] ∧ word.all isOrdinary = true) :
    split ([' '].intercalate words) = some words := by
  obtain ⟨earlier, last, rfl⟩ := (List.eq_nil_or_concat' words).resolve_left some_words
  have spelled : ∀ word ∈ earlier ++ [last], Spells word word := by
    intro word member
    have plain := ordinary word member
    exact spells_ordinary word plain.1 plain.2
  have pieces := readAll_pieces ' ' (by decide) [] (earlier.map fun word => (word, word))
    (by
      intro piece member
      obtain ⟨word, listed, rfl⟩ := List.mem_map.mp member
      exact spelled word (List.mem_append_left _ listed))
    last last (spelled last (by simp))
  rw [List.flatMap_map, List.map_map, List.nil_append] at pieces
  rw [split, intercalate_flatMap, pieces]
  simp [Reader.finish, Function.comp_def]

end ShellWords
