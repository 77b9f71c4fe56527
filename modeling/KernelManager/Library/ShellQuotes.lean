import Mathlib.Data.List.Basic

/-!
Reading double-quoted shell words back: between double quotes every symbol is literal except
the double quote, which ends the word, the dollar, which starts a parameter expansion, and
the backquote and the backslash, which no word here may contain.
-/

namespace Shell

def quote : Char := Char.ofNat 0x22
def dollar : Char := '$'

def specialSymbols : List Char := "\"$`\\".toList

def Plain (text : List Char) : Prop := ∀ symbol ∈ text, symbol ∉ specialSymbols

instance (text : List Char) : Decidable (Plain text) := List.decidableBAll _ text

inductive Segment
  | literal (symbol : Char)
  | parameter (name : List Char)
  deriving DecidableEq, Repr

abbrev Word := List Segment

def literalWord (text : List Char) : Word := text.map .literal

/-- The reader of an array: between two words, inside the quotes of one with the name of an
expansion that is still being read, behind a closing quote, or behind the parenthesis. -/
inductive Reader
  | between (words : List Word)
  | inside (words : List Word) (word : Word) (name : Option (List Char))
  | closed (words : List Word)
  | finished (words : List Word)
  deriving DecidableEq, Repr

def isBlank (symbol : Char) : Bool := symbol ∈ " \t\n".toList

def continuesName : Option (List Char) → Char → Bool
  | none, _ => false
  | some [], symbol => symbol.isAlpha || symbol = '_'
  | some _, symbol => symbol.isAlphanum || symbol = '_'

def endName (word : Word) : Option (List Char) → Option Word
  | none => some word
  | some [] => none
  | some name => some (word ++ [.parameter name])

def readInside (words : List Word) (word : Word) (symbol : Char) : Option Reader :=
  if symbol = quote then some (.closed (words ++ [word]))
  else if symbol = dollar then some (.inside words word (some []))
  else if symbol ∈ specialSymbols then none
  else some (.inside words (word ++ [.literal symbol]) none)

def Reader.read : Reader → Char → Option Reader
  | .between words, symbol =>
      if isBlank symbol then some (.between words)
      else if symbol = quote then some (.inside words [] none)
      else if symbol = ')' then some (.finished words)
      else none
  | .inside words word name, symbol =>
      if continuesName name symbol then some (.inside words word (name.map (· ++ [symbol])))
      else (endName word name).bind fun word => readInside words word symbol
  | .closed words, symbol =>
      if isBlank symbol then some (.between words)
      else if symbol = ')' then some (.finished words)
      else none
  | .finished words, symbol => if isBlank symbol then some (.finished words) else none

def readAll (reader : Reader) : List Char → Option Reader
  | [] => some reader
  | symbol :: text => (reader.read symbol).bind (readAll · text)

def readArray (text : List Char) : Option (List Word) :=
  match readAll (.between []) text with
  | some (.finished words) => some words
  | _ => none

def readValue (text : List Char) : Option Word :=
  match text with
  | [] => none
  | symbol :: rest =>
      if symbol = quote then
        match readAll (.inside [] [] none) rest with
        | some (.closed [word]) => some word
        | _ => none
      else none

def quotedWord (text : List Char) : List Char := quote :: (text ++ [quote])

theorem readAll_append (reader : Reader) (first second : List Char) :
    readAll reader (first ++ second) = (readAll reader first).bind (readAll · second) := by
  induction first generalizing reader with
  | nil => rfl
  | cons symbol first ih =>
      simp only [List.cons_append, readAll, Option.bind_assoc]
      congr 1
      funext next
      exact ih next

theorem plain_ne (symbol : Char) (plain : symbol ∉ specialSymbols) :
    symbol ≠ quote ∧ symbol ≠ dollar := by
  constructor
  · rintro rfl
    exact plain (by decide)
  · rintro rfl
    exact plain (by decide)

theorem readAll_plain (words : List Word) (word : Word) (text : List Char) (plain : Plain text) :
    readAll (.inside words word none) text =
      some (.inside words (word ++ literalWord text) none) := by
  induction text generalizing word with
  | nil => simp [readAll, literalWord]
  | cons symbol text ih =>
      have literal : symbol ∉ specialSymbols := plain symbol List.mem_cons_self
      obtain ⟨noQuote, noDollar⟩ := plain_ne symbol literal
      have rest : Plain text := fun other member => plain other (List.mem_cons_of_mem _ member)
      have once : Reader.read (.inside words word none) symbol =
          some (.inside words (word ++ [.literal symbol]) none) := by
        simp [Reader.read, continuesName, endName, readInside, noQuote, noDollar, literal]
      simp only [readAll, once, Option.bind_some, ih _ rest, literalWord, List.map_cons,
        List.append_assoc, List.singleton_append]

theorem readAll_quoted (words : List Word) (text : List Char) (plain : Plain text) :
    readAll (.between words) (quotedWord text) =
      some (.closed (words ++ [literalWord text])) := by
  have opened : Reader.read (.between words) quote = some (.inside words [] none) := by
    have noBlank : isBlank quote = false := by decide
    simp [Reader.read, noBlank]
  rw [quotedWord, readAll, opened, Option.bind_some, readAll_append,
    readAll_plain words [] text plain, Option.bind_some]
  simp [readAll, Reader.read, continuesName, endName, readInside]

/-- An array of quoted plain words with blanks between them is read as these words. -/
theorem readAll_words (words : List Word) (blank : Char) (texts : List (List Char))
    (separates : isBlank blank = true) (plain : ∀ text ∈ texts, Plain text) :
    readAll (.between words) ([blank].intercalate (texts.map quotedWord) ++ [')']) =
      some (.finished (words ++ texts.map literalWord)) := by
  have parenthesis : isBlank ')' = false := by decide
  have noQuote : ')' ≠ quote := by decide
  induction texts generalizing words with
  | nil => simp [readAll, Reader.read, parenthesis, noQuote]
  | cons text texts ih =>
      have first := readAll_quoted words text (plain text List.mem_cons_self)
      have rest : ∀ other ∈ texts, Plain other :=
        fun other member => plain other (List.mem_cons_of_mem _ member)
      cases texts with
      | nil =>
          rw [List.map_singleton, List.intercalate_singleton, readAll_append, first]
          simp [readAll, Reader.read, parenthesis]
      | cons next texts =>
          have later := ih (words ++ [literalWord text]) rest
          rw [List.map_cons, List.map_cons, List.intercalate_cons_cons, List.append_assoc,
            List.append_assoc, readAll_append, first]
          simp only [Option.bind_some, List.singleton_append, readAll, Reader.read, separates,
            ↓reduceIte]
          rw [← List.map_cons, later]
          simp

def Reader.Literal : Reader → Prop
  | .between words | .closed words | .finished words =>
      ∀ word ∈ words, ∀ symbol, Segment.literal symbol ∈ word → symbol ∉ specialSymbols
  | .inside words word _ =>
      ∀ read ∈ words ++ [word], ∀ symbol, Segment.literal symbol ∈ read →
        symbol ∉ specialSymbols

theorem readInside_literal (words : List Word) (word : Word) (symbol : Char) (next : Reader)
    (before : Reader.Literal (.inside words word none))
    (read : readInside words word symbol = some next) : next.Literal := by
  unfold readInside at read
  split_ifs at read with closing expanding special
  · obtain rfl := Option.some.inj read
    exact before
  · obtain rfl := Option.some.inj read
    exact before
  · obtain rfl := Option.some.inj read
    intro other member literal found
    rcases List.mem_append.mp member with old | last
    · exact before other (List.mem_append_left _ old) literal found
    · obtain rfl := List.mem_singleton.mp last
      rcases List.mem_append.mp found with inside | added
      · exact before word (by simp) literal inside
      · cases List.mem_singleton.mp added
        exact special

theorem endName_literal (words : List Word) (word ended : Word) (name : Option (List Char))
    (before : Reader.Literal (.inside words word name))
    (flushed : endName word name = some ended) :
    Reader.Literal (.inside words ended none) := by
  rcases name with _ | _ | ⟨start, name⟩
  · obtain rfl := Option.some.inj flushed
    exact before
  · cases flushed
  · obtain rfl := Option.some.inj flushed
    intro other member literal found
    rcases List.mem_append.mp member with old | last
    · exact before other (List.mem_append_left _ old) literal found
    · obtain rfl := List.mem_singleton.mp last
      rcases List.mem_append.mp found with inside | added
      · exact before word (by simp) literal inside
      · cases List.mem_singleton.mp added

theorem read_literal (reader next : Reader) (symbol : Char) (before : reader.Literal)
    (read : reader.read symbol = some next) : next.Literal := by
  cases reader with
  | between words =>
      simp only [Reader.read] at read
      split_ifs at read <;> obtain rfl := Option.some.inj read
      · exact before
      · intro other member literal found
        rcases List.mem_append.mp member with old | last
        · exact before other old literal found
        · obtain rfl := List.mem_singleton.mp last
          cases found
      · exact before
  | inside words word name =>
      simp only [Reader.read] at read
      split_ifs at read
      · obtain rfl := Option.some.inj read
        exact before
      · obtain ⟨ended, flushed, inside⟩ := Option.bind_eq_some_iff.mp read
        exact readInside_literal words ended symbol next
          (endName_literal words word ended name before flushed) inside
  | closed words =>
      simp only [Reader.read] at read
      split_ifs at read <;> obtain rfl := Option.some.inj read
      · exact before
      · exact before
  | finished words =>
      simp only [Reader.read] at read
      split_ifs at read
      obtain rfl := Option.some.inj read
      exact before

theorem readAll_literal (reader final : Reader) (text : List Char) (before : reader.Literal)
    (read : readAll reader text = some final) : final.Literal := by
  induction text generalizing reader with
  | nil =>
      obtain rfl := Option.some.inj read
      exact before
  | cons symbol text ih =>
      obtain ⟨next, once, rest⟩ := Option.bind_eq_some_iff.mp read
      exact ih next (read_literal reader next symbol before once) rest

theorem readArray_plain (text : List Char) (words : List Word)
    (read : readArray text = some words) (word : List Char)
    (member : literalWord word ∈ words) : Plain word := by
  unfold readArray at read
  split at read
  · rename_i finished final
    obtain rfl := Option.some.inj read
    have literal := readAll_literal (.between []) _ text (by intro word listed; cases listed) final
    intro symbol inside
    exact literal _ member symbol (List.mem_map_of_mem inside)
  · cases read

end Shell
