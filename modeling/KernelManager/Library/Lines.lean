import Mathlib.Data.List.Basic
import Mathlib.Data.List.TakeWhile

/-!
Lines of a text: the segments between its line feeds, the text that a line reader shows of
them, and two lists of glued texts that are taken from the same lines.
-/

namespace Lines

variable {Symbol : Type*} [DecidableEq Symbol]

/-- A segment of a text; a terminated one has a line feed behind it. -/
structure Line (Symbol : Type*) where
  text : List Symbol
  terminated : Bool
  deriving DecidableEq, Repr

def terminate : List (List Symbol) → List (Line Symbol)
  | [] => []
  | [text] => [⟨text, false⟩]
  | text :: next :: rest => ⟨text, true⟩ :: terminate (next :: rest)

def split (feed : Symbol) (text : List Symbol) : List (Line Symbol) :=
  terminate (text.splitOn feed)

/-- A terminated line is shown without one carriage return at its end. -/
def Line.shown (carriage : Symbol) (line : Line Symbol) : List Symbol :=
  if line.terminated && decide (line.text.getLast? = some carriage) then line.text.dropLast
  else line.text

/-- The shown lines; an empty rest behind the last line feed is no line. -/
def read (feed carriage : Symbol) (text : List Symbol) : List (List Symbol) :=
  ((split feed text).filter fun line => line.terminated || !line.text.isEmpty).map
    (·.shown carriage)

def strip (start text : List Symbol) : Option (List Symbol) :=
  if start.isPrefixOf text then some (text.drop start.length) else none

theorem strip_eq_some (start text rest : List Symbol) :
    strip start text = some rest ↔ text = start ++ rest := by
  unfold strip
  split
  · rename_i leads
    obtain ⟨found, rfl⟩ := List.isPrefixOf_iff_prefix.mp leads
    simp [eq_comm]
  · rename_i apart
    simp only [reduceCtorEq, false_iff]
    rintro rfl
    exact apart (List.isPrefixOf_iff_prefix.mpr (List.prefix_append start rest))

theorem strip_append (start rest : List Symbol) : strip start (start ++ rest) = some rest :=
  (strip_eq_some start (start ++ rest) rest).mpr rfl

theorem strip_eq_none (start text : List Symbol) :
    strip start text = none ↔ ¬start <+: text := by
  rw [← List.isPrefixOf_iff_prefix]
  simp [strip]

theorem strip_append_start (first second text : List Symbol) :
    strip (first ++ second) text = (strip first text).bind (strip second) := by
  ext rest
  simp only [Option.bind_eq_some_iff, strip_eq_some]
  constructor
  · rintro rfl
    exact ⟨second ++ rest, by rw [List.append_assoc], rfl⟩
  · rintro ⟨_, rfl, rfl⟩
    rw [List.append_assoc]

theorem strip_apart (first second rest : List Symbol) (symbol other : Symbol)
    (firstHead : first.head? = some symbol) (secondHead : second.head? = some other)
    (apart : symbol ≠ other) : strip second (first ++ rest) = none := by
  rw [strip_eq_none]
  rintro ⟨left, same⟩
  have heads := congrArg List.head? same
  rw [List.head?_append, List.head?_append, firstHead, secondHead] at heads
  exact apart (Option.some.inj heads).symm

omit [DecidableEq Symbol] in
theorem terminate_text (texts : List (List Symbol)) : (terminate texts).map Line.text = texts := by
  induction texts using terminate.induct with
  | case1 => rfl
  | case2 text => rfl
  | case3 text next rest ih => simp [terminate, ih]

theorem shown_cases (carriage : Symbol) (line : Line Symbol) :
    line.shown carriage = line.text ∨ line.text = line.shown carriage ++ [carriage] := by
  unfold Line.shown
  split
  · rename_i ending
    right
    simp only [Bool.and_eq_true, decide_eq_true_eq] at ending
    exact (List.dropLast_append_getLast? carriage ending.2).symm
  · exact Or.inl rfl

theorem prefix_shown (carriage : Symbol) (line : Line Symbol) (start : List Symbol)
    (plain : carriage ∉ start) : start <+: line.shown carriage ↔ start <+: line.text := by
  rcases shown_cases carriage line with same | shorter
  · rw [same]
  · constructor
    · intro leads
      rw [shorter]
      exact leads.trans (List.prefix_append _ _)
    · intro leads
      rw [shorter] at leads
      rcases List.prefix_concat_iff.mp leads with whole | inside
      · exact absurd (by simp [whole]) plain
      · exact inside

theorem read_filterMap {Value : Type*} (feed carriage : Symbol) (text : List Symbol)
    (take : List Symbol → Option Value) (empty : take [] = none) :
    (read feed carriage text).filterMap take =
      (split feed text).filterMap fun line => take (line.shown carriage) := by
  rw [read, List.filterMap_map, List.filterMap_filter]
  congr 1
  funext line
  by_cases kept : (line.terminated || !line.text.isEmpty) = true
  · simp [kept]
  · simp only [Bool.or_eq_true, Bool.not_eq_true', not_or, Bool.not_eq_true, Bool.not_eq_false,
      List.isEmpty_iff] at kept
    simp [Line.shown, kept.1, kept.2, empty]

omit [DecidableEq Symbol] in
theorem filterMap_length_le {Row : Type*} (rows : List Row)
    (first second : Row → Option (List Symbol))
    (kept : ∀ row, second row = none → first row = none) :
    (rows.filterMap first).length ≤ (rows.filterMap second).length := by
  induction rows with
  | nil => simp
  | cons row rows ih =>
      cases found : second row with
      | none => simpa [found, kept row found] using ih
      | some key =>
          have shorter : ((row :: rows).filterMap first).length ≤
              (rows.filterMap first).length + 1 := by
            rw [List.filterMap_cons]
            split <;> simp
          simp only [List.filterMap_cons, found, List.length_cons] at shorter ⊢
          omega

omit [DecidableEq Symbol] in
theorem near_eq (carriage : Symbol) (first second firstTail secondTail : List Symbol)
    (near : second = first ∨ second = first ++ [carriage])
    (apart : firstTail.head? ≠ some carriage)
    (same : first ++ firstTail = second ++ secondTail) : second = first := by
  rcases near with plain | longer
  · exact plain
  · rw [longer, List.append_assoc] at same
    rw [List.append_cancel_left same] at apart
    exact absurd rfl apart

omit [DecidableEq Symbol] in
theorem rows_agree {Row : Type*} (carriage : Symbol) (rows : List Row)
    (first second : Row → Option (List Symbol)) (firstTail secondTail : List Symbol)
    (kept : ∀ row, second row = none → first row = none)
    (near : ∀ row key, first row = some key →
      second row = some key ∨ second row = some (key ++ [carriage]))
    (apart : firstTail.head? ≠ some carriage)
    (same : (rows.filterMap first).map (· ++ firstTail) =
      (rows.filterMap second).map (· ++ secondTail)) :
    (∀ row ∈ rows, first row = second row) ∧
      (rows.filterMap second = [] ∨ firstTail = secondTail) := by
  induction rows with
  | nil => simp
  | cons row rows ih =>
      rw [List.forall_mem_cons]
      cases secondKey : second row with
      | none =>
          have firstKey := kept row secondKey
          simp only [List.filterMap_cons, firstKey, secondKey] at same
          obtain ⟨rest, tails⟩ := ih same
          refine ⟨⟨firstKey, rest⟩, ?_⟩
          simpa [List.filterMap_cons, secondKey] using tails
      | some secondName =>
          cases firstKey : first row with
          | none =>
              have shorter := filterMap_length_le rows first second kept
              have lengths := congrArg List.length same
              simp only [List.filterMap_cons, firstKey, secondKey, List.length_map,
                List.length_cons] at lengths
              omega
          | some firstName =>
              simp only [List.filterMap_cons, firstKey, secondKey, List.map_cons,
                List.cons.injEq] at same
              obtain ⟨heads, rows⟩ := same
              have names : secondName = firstName := by
                have close := near row firstName firstKey
                rw [secondKey, Option.some.injEq, Option.some.injEq] at close
                exact near_eq carriage _ _ _ _ close apart heads
              rw [names] at heads
              refine ⟨⟨by rw [names], (ih rows).1⟩, Or.inr ?_⟩
              exact List.append_cancel_left heads

omit [DecidableEq Symbol] in
/-- Two lists of keys from the same rows, where the second keeps a carriage return that the
first may have dropped: with their tails they agree exactly if they agree row by row. -/
theorem keys_agree {Row : Type*} (carriage : Symbol) (rows : List Row)
    (first second : Row → Option (List Symbol)) (firstTail secondTail : List Symbol)
    (near : ∀ row key, first row = some key →
      second row = some key ∨ second row = some (key ++ [carriage]))
    (apart : firstTail.head? ≠ some carriage) :
    (rows.filterMap first).map (· ++ firstTail) =
        (rows.filterMap second).map (· ++ secondTail) ↔
      (∀ row ∈ rows, first row = second row) ∧
        (rows.filterMap second = [] ∨ firstTail = secondTail) := by
  have kept : ∀ row, second row = none → first row = none := by
    intro row missing
    cases found : first row with
    | none => rfl
    | some key => rcases near row key found with same | longer <;> simp_all
  constructor
  · exact rows_agree carriage rows first second firstTail secondTail kept near apart
  · rintro ⟨rowwise, tails⟩
    rw [List.filterMap_congr rowwise]
    rcases tails with empty | tails
    · simp [empty]
    · rw [tails]

theorem count_dropEnds (drops : Symbol → Bool) (symbol : Symbol) (text : List Symbol)
    (kept : drops symbol = false) :
    (((text.dropWhile drops).reverse.dropWhile drops).reverse).count symbol =
      text.count symbol := by
  have dropped : ∀ text : List Symbol,
      (text.dropWhile drops).count symbol = text.count symbol := by
    intro text
    have none : (text.takeWhile drops).count symbol = 0 := by
      apply List.count_eq_zero.mpr
      intro member
      have taken := List.mem_takeWhile_imp member
      rw [kept] at taken
      cases taken
    conv_rhs => rw [← List.takeWhile_append_dropWhile (p := drops) (l := text)]
    rw [List.count_append, none, Nat.zero_add]
  rw [List.count_reverse, dropped, List.count_reverse, dropped]

end Lines
