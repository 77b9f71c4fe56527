import KernelManager.Core.Kernel
import KernelManager.Library.Lines

/-! The operations on texts that the readers of printed output share. -/

namespace KernelManager

def newline : Char := Char.ofNat 10
def carriageReturn : Char := Char.ofNat 13

abbrev TextLine := Lines.Line Char

def textLines (text : String) : List TextLine := Lines.split newline text.toList

def TextLine.shown (line : TextLine) : List Char := Lines.Line.shown carriageReturn line

def lines (text : String) : List String :=
  (Lines.read newline carriageReturn text.toList).map String.ofList

def stripStart (text start : String) : Option String :=
  (Lines.strip start.toList text.toList).map String.ofList

def joinDirectory (base rest : String) : String :=
  if startsWith rest "/" then rest
  else if base.isEmpty || endsWith base "/" then base ++ rest
  else base ++ "/" ++ rest

def splitOnce (separator : Char) (text : String) : Option (String × String) :=
  match text.toList.dropWhile (· ≠ separator) with
  | [] => none
  | _ :: after =>
      some (String.ofList (text.toList.takeWhile (· ≠ separator)), String.ofList after)

def isWhitespace (symbol : Char) : Bool :=
  let code := symbol.toNat
  (9 ≤ code ∧ code ≤ 13) ∨ code = 32 ∨ code = 0x85 ∨ code = 0xA0 ∨ code = 0x1680 ∨
    (0x2000 ≤ code ∧ code ≤ 0x200A) ∨ code = 0x2028 ∨ code = 0x2029 ∨ code = 0x202F ∨
    code = 0x205F ∨ code = 0x3000

def trim (text : String) : String :=
  String.ofList
    (((text.toList.dropWhile isWhitespace).reverse.dropWhile isWhitespace).reverse)

theorem stripStart_ofList (text : List Char) (start : String) :
    stripStart (String.ofList text) start = (Lines.strip start.toList text).map String.ofList := by
  rw [stripStart, String.toList_ofList]

theorem splitOnce_join (separator : Char) (text : String) :
    (splitOnce separator text).map (fun parts => parts.1.toList ++ separator :: parts.2.toList) =
      if separator ∈ text.toList then some text.toList else none := by
  have whole := List.takeWhile_append_dropWhile (p := (· ≠ separator)) (l := text.toList)
  have head := List.head?_dropWhile_not (· ≠ separator) text.toList
  unfold splitOnce
  split
  · rename_i rest
    rw [rest, List.append_nil] at whole
    have absent : separator ∉ text.toList := by
      intro member
      rw [← whole] at member
      simpa using List.mem_takeWhile_imp member
    simp [absent]
  · rename_i first after rest
    rw [rest] at whole head
    have first : first = separator := by simpa using head
    rw [first] at whole
    have present : separator ∈ text.toList := by
      rw [← whole]
      simp
    simp only [present, ↓reduceIte, Option.map_some, String.toList_ofList, whole]

theorem dropWhile_eq_self {Symbol : Type} (drops : Symbol → Bool) (text : List Symbol) :
    text.dropWhile drops = text ↔ ∀ symbol, text.head? = some symbol → drops symbol = false := by
  cases text with
  | nil => simp
  | cons first text =>
      rw [List.dropWhile_eq_self_iff]
      simp

theorem trim_eq_self (text : String) :
    trim text = text ↔
      (∀ symbol, text.toList.head? = some symbol → isWhitespace symbol = false) ∧
        ∀ symbol, text.toList.getLast? = some symbol → isWhitespace symbol = false := by
  have spelled : trim text = text ↔
      ((text.toList.dropWhile isWhitespace).reverse.dropWhile isWhitespace).reverse =
        text.toList := by
    constructor
    · intro same
      have symbols := congrArg String.toList same
      rwa [trim, String.toList_ofList] at symbols
    · intro same
      exact String.ext (by rw [trim, String.toList_ofList, same])
  rw [spelled, ← dropWhile_eq_self, ← List.head?_reverse, ← dropWhile_eq_self]
  constructor
  · intro same
    have front : text.toList.dropWhile isWhitespace = text.toList := by
      apply (List.dropWhile_suffix isWhitespace).eq_of_length_le
      have shorter := (List.dropWhile_suffix isWhitespace
        (l := (text.toList.dropWhile isWhitespace).reverse)).length_le
      rw [← List.length_reverse, same, List.length_reverse] at shorter
      exact shorter
    rw [front] at same
    have turned := congrArg List.reverse same
    rw [List.reverse_reverse] at turned
    exact ⟨front, turned⟩
  · rintro ⟨front, back⟩
    rw [front, back, List.reverse_reverse]

end KernelManager
