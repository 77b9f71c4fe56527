import KernelManager.Library.Scan

/-!
The words of a shell command line: blanks separate them, single quotes keep what is between them,
a backslash keeps the symbol that follows it, and pieces without a blank between them are one
word. A line in which another symbol has a meaning for the shell is given no words.
-/

namespace ShellWords

def singleQuote : Char := Char.ofNat 0x27
def backslash : Char := Char.ofNat 0x5C
def lineFeed : Char := Char.ofNat 10

def isBlank (symbol : Char) : Bool := symbol ∈ " \t".toList

/-- The symbols that start an expansion, a redirection or a comment, or end the command. -/
def operators : List Char := "\n|&;<>()$`\"*?[]#~=%!\x7b\x7d".toList

def isOrdinary (symbol : Char) : Bool :=
  !(isBlank symbol || symbol = singleQuote || symbol = backslash || symbol ∈ operators)

inductive Quoting
  | bare
  | quoted
  | escaped
  deriving DecidableEq, Repr

structure Reader where
  words : List (List Char) := []
  word : Option (List Char) := none
  quoting : Quoting := .bare
  deriving DecidableEq, Repr

namespace Reader

def soFar (reader : Reader) : List Char := reader.word.getD []

def push (reader : Reader) (symbol : Char) : Reader :=
  { reader with word := some (reader.soFar ++ [symbol]), quoting := .bare }

def read (reader : Reader) (symbol : Char) : Option Reader :=
  match reader.quoting with
  | .bare =>
      if isBlank symbol then
        some { reader with words := reader.words ++ reader.word.toList, word := none }
      else if symbol = singleQuote then
        some { reader with word := some reader.soFar, quoting := .quoted }
      else if symbol = backslash then some { reader with quoting := .escaped }
      else if symbol ∈ operators then none
      else some (reader.push symbol)
  | .quoted =>
      if symbol = singleQuote then some { reader with quoting := .bare }
      else some { reader with word := some (reader.soFar ++ [symbol]) }
  | .escaped =>
      if symbol = lineFeed then some { reader with quoting := .bare }
      else some (reader.push symbol)

def readAll (reader : Reader) : List Char → Option Reader
  | [] => some reader
  | symbol :: text => (reader.read symbol).bind (·.readAll text)

def finish (reader : Reader) : Option (List (List Char)) :=
  match reader.quoting with
  | .bare => some (reader.words ++ reader.word.toList)
  | .quoted | .escaped => none

def behind (reader : Reader) (earlier : List (List Char)) : Reader :=
  { reader with words := earlier ++ reader.words }

end Reader

def split (line : List Char) : Option (List (List Char)) :=
  (Reader.readAll {} line).bind Reader.finish

def quote (word : List Char) : List Char :=
  singleQuote :: (Scan.replaceAll [singleQuote] [singleQuote, backslash, singleQuote, singleQuote] 0
    word ++ [singleQuote])

namespace Reader

theorem readAll_append (reader : Reader) (first second : List Char) :
    reader.readAll (first ++ second) = (reader.readAll first).bind (·.readAll second) := by
  induction first generalizing reader with
  | nil => rfl
  | cons symbol first ih =>
      simp only [List.cons_append, readAll, Option.bind_assoc]
      congr 1
      funext next
      exact ih next

theorem read_behind (reader : Reader) (earlier : List (List Char)) (symbol : Char) :
    (reader.behind earlier).read symbol = (reader.read symbol).map (·.behind earlier) := by
  obtain ⟨words, word, quoting⟩ := reader
  cases quoting with
  | bare =>
      simp only [behind, read, soFar, push]
      split_ifs
      · simp
      · rfl
      · rfl
      · rfl
      · rfl
  | quoted =>
      simp only [behind, read, soFar]
      split_ifs <;> rfl
  | escaped =>
      simp only [behind, read, soFar, push]
      split_ifs <;> rfl

theorem readAll_behind (reader : Reader) (earlier : List (List Char)) (text : List Char) :
    (reader.behind earlier).readAll text = (reader.readAll text).map (·.behind earlier) := by
  induction text generalizing reader with
  | nil => rfl
  | cons symbol text ih =>
      rw [readAll, readAll, read_behind, Option.bind_map, Option.map_bind]
      congr 1
      funext next
      exact ih next

theorem finish_behind (reader : Reader) (earlier : List (List Char)) :
    (reader.behind earlier).finish = reader.finish.map (earlier ++ ·) := by
  obtain ⟨words, word, quoting⟩ := reader
  cases quoting with
  | bare => simp [behind, finish]
  | quoted => rfl
  | escaped => rfl

theorem read_ordinary (words : List (List Char)) (word : Option (List Char)) (symbol : Char)
    (ordinary : isOrdinary symbol = true) :
    read ⟨words, word, .bare⟩ symbol = some ⟨words, some (word.getD [] ++ [symbol]), .bare⟩ := by
  simp only [isOrdinary, Bool.not_eq_true', Bool.or_eq_false_iff, decide_eq_false_iff_not]
    at ordinary
  obtain ⟨⟨⟨noBlank, noQuote⟩, noBackslash⟩, noOperator⟩ := ordinary
  simp [read, noBlank, noQuote, noBackslash, noOperator, push, soFar]

theorem readAll_ordinary (words : List (List Char)) (word text : List Char)
    (ordinary : text.all isOrdinary = true) :
    readAll ⟨words, some word, .bare⟩ text = some ⟨words, some (word ++ text), .bare⟩ := by
  induction text generalizing word with
  | nil => rw [readAll, List.append_nil]
  | cons symbol text ih =>
      rw [List.all_cons, Bool.and_eq_true] at ordinary
      rw [readAll, read_ordinary _ _ _ ordinary.1, Option.bind_some, ih _ ordinary.2]
      simp

theorem readAll_escapedQuote (words : List (List Char)) (word : List Char) :
    readAll ⟨words, some word, .quoted⟩ [singleQuote, backslash, singleQuote, singleQuote] =
      some ⟨words, some (word ++ [singleQuote]), .quoted⟩ := by
  have noBlank : isBlank singleQuote = false ∧ isBlank backslash = false := by decide
  have apart : backslash ≠ singleQuote ∧ singleQuote ≠ lineFeed := by decide
  simp [readAll, read, noBlank, apart, push, soFar]

theorem readAll_quoted (words : List (List Char)) (word text : List Char) :
    readAll ⟨words, some word, .quoted⟩ (Scan.replaceAll [singleQuote]
        [singleQuote, backslash, singleQuote, singleQuote] 0 text) =
      some ⟨words, some (word ++ text), .quoted⟩ := by
  induction text generalizing word with
  | nil => rw [Scan.replaceAll, readAll, List.append_nil]
  | cons symbol text ih =>
      rw [Scan.replaceAll]
      by_cases quotes : symbol = singleQuote
      · have found : [singleQuote].isPrefixOf (symbol :: text) = true := by
          simp [quotes, List.isPrefixOf]
        rw [if_pos found, readAll_append, readAll_escapedQuote, Option.bind_some,
          List.length_singleton, ih, quotes]
        simp
      · have missing : ¬[singleQuote].isPrefixOf (symbol :: text) = true := by
          simp [Ne.symm quotes, List.isPrefixOf]
        have once : read ⟨words, some word, .quoted⟩ symbol =
            some ⟨words, some (word ++ [symbol]), .quoted⟩ := by
          simp [read, quotes, soFar]
        rw [if_neg missing, readAll, once, Option.bind_some, ih]
        simp

theorem readAll_quote (words : List (List Char)) (word : Option (List Char))
    (text : List Char) :
    readAll ⟨words, word, .bare⟩ (quote text) =
      some ⟨words, some (word.getD [] ++ text), .bare⟩ := by
  have noBlank : isBlank singleQuote = false := by decide
  have opened : read ⟨words, word, .bare⟩ singleQuote =
      some ⟨words, some (word.getD []), .quoted⟩ := by
    simp [read, noBlank, soFar]
  have closed : readAll ⟨words, some (word.getD [] ++ text), .quoted⟩ [singleQuote] =
      some ⟨words, some (word.getD [] ++ text), .bare⟩ := by
    simp [readAll, read]
  rw [quote, readAll, opened, Option.bind_some, readAll_append, readAll_quoted, Option.bind_some,
    closed]

end Reader

theorem split_quote (word : List Char) : split (quote word) = some [word] := by
  rw [split, Reader.readAll_quote]
  rfl

def Spells (piece word : List Char) : Prop :=
  ∀ words, Reader.readAll ⟨words, none, .bare⟩ piece = some ⟨words, some word, .bare⟩

theorem spells_quote (word : List Char) : Spells (quote word) word := fun words =>
  Reader.readAll_quote words none word

theorem spells_ordinary (word : List Char) (some_word : word ≠ [])
    (ordinary : word.all isOrdinary = true) : Spells word word := by
  intro words
  obtain ⟨symbol, rest, rfl⟩ := List.exists_cons_of_ne_nil some_word
  rw [List.all_cons, Bool.and_eq_true] at ordinary
  rw [Reader.readAll, Reader.read_ordinary _ _ _ ordinary.1, Option.bind_some,
    Reader.readAll_ordinary _ _ _ ordinary.2]
  rfl

/-- Pieces with blanks between them are read as their words, whatever has been read before. -/
theorem readAll_pieces (blank : Char) (separates : isBlank blank = true)
    (words : List (List Char)) (pieces : List (List Char × List Char))
    (spelled : ∀ piece ∈ pieces, Spells piece.1 piece.2) (last word : List Char)
    (lastSpelled : Spells last word) :
    Reader.readAll ⟨words, none, .bare⟩
        (pieces.flatMap (fun piece => piece.1 ++ [blank]) ++ last) =
      some ⟨words ++ pieces.map Prod.snd, some word, .bare⟩ := by
  induction pieces generalizing words with
  | nil => simpa using lastSpelled words
  | cons piece pieces ih =>
      rw [List.forall_mem_cons] at spelled
      have ended : Reader.readAll ⟨words, some piece.2, .bare⟩ [blank] =
          some ⟨words ++ [piece.2], none, .bare⟩ := by
        simp [Reader.readAll, Reader.read, separates]
      rw [List.flatMap_cons, List.append_assoc, List.append_assoc, Reader.readAll_append,
        spelled.1 words, Option.bind_some, Reader.readAll_append, ended, Option.bind_some,
        ih _ spelled.2]
      simp

theorem split_blank (blank : Char) (separates : isBlank blank = true) (line : List Char) :
    split (blank :: line) = split line := by
  have skipped : Reader.read {} blank = some {} := by simp [Reader.read, separates]
  rw [split, Reader.readAll, skipped, Option.bind_some, split]

theorem readAll_ended (blank : Char) (separates : isBlank blank = true) (line : List Char)
    (words : List (List Char)) (word : List Char)
    (read : Reader.readAll {} line = some ⟨words, some word, .bare⟩) (rest : List Char) :
    Reader.readAll {} (line ++ blank :: rest) =
      Reader.readAll { words := words ++ [word] } rest := by
  have ended : Reader.read ⟨words, some word, .bare⟩ blank =
      some { words := words ++ [word] } := by
    simp [Reader.read, separates]
  rw [Reader.readAll_append, read, Option.bind_some, Reader.readAll, ended, Option.bind_some]

theorem split_append (blank : Char) (separates : isBlank blank = true) (line : List Char)
    (words : List (List Char)) (word : List Char)
    (read : Reader.readAll {} line = some ⟨words, some word, .bare⟩) (rest : List Char) :
    split (line ++ blank :: rest) = (split rest).map (words ++ [word] ++ ·) := by
  have apart : ({ words := words ++ [word] } : Reader) = Reader.behind {} (words ++ [word]) := by
    simp [Reader.behind]
  rw [split, readAll_ended blank separates line words word read, apart, Reader.readAll_behind,
    Option.bind_map, split, Option.map_bind]
  congr 1
  funext next
  exact Reader.finish_behind next _

end ShellWords
