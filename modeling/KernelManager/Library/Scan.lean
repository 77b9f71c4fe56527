import Mathlib.Data.List.Basic
import Mathlib.Data.List.Infix

/-!
Left-to-right scanning of a list: the first position of a pattern, the replacement of every
non-overlapping occurrence, and splitting at a separator.
-/

namespace Scan

variable {Symbol : Type*} [DecidableEq Symbol]

def contains (pattern : List Symbol) : List Symbol → Bool
  | [] => pattern.isPrefixOf []
  | symbol :: text => pattern.isPrefixOf (symbol :: text) || contains pattern text

def find (pattern : List Symbol) : List Symbol → Option Nat
  | [] => if pattern.isPrefixOf [] then some 0 else none
  | symbol :: text =>
      if pattern.isPrefixOf (symbol :: text) then some 0
      else (find pattern text).map (· + 1)

/-- Replacement of every occurrence of `pattern`, from the left; `skip` symbols of an
occurrence that has already been replaced are still to be dropped. -/
def replaceAll (pattern replacement : List Symbol) : Nat → List Symbol → List Symbol
  | _, [] => []
  | skip + 1, _ :: text => replaceAll pattern replacement skip text
  | 0, symbol :: text =>
      if pattern.isPrefixOf (symbol :: text) then
        replacement ++ replaceAll pattern replacement (pattern.length - 1) text
      else symbol :: replaceAll pattern replacement 0 text

theorem replaceAll_length (pattern replacement : List Symbol) (nonempty : 0 < pattern.length)
    (text : List Symbol) (skip : Nat) (bound : skip ≤ text.length) :
    ∃ count, text.length + count * replacement.length =
      (replaceAll pattern replacement skip text).length + skip + count * pattern.length := by
  induction text generalizing skip with
  | nil =>
      have none : skip = 0 := by simpa using bound
      exact ⟨0, by simp [replaceAll, none]⟩
  | cons symbol text ih =>
      cases skip with
      | succ skip =>
          obtain ⟨count, eq⟩ := ih skip (by simpa using bound)
          exact ⟨count, by simp only [replaceAll, List.length_cons]; omega⟩
      | zero =>
          by_cases found : pattern.isPrefixOf (symbol :: text) = true
          · have fits : pattern.length ≤ text.length + 1 := by
              simpa using (List.isPrefixOf_iff_prefix.mp found).length_le
            obtain ⟨count, eq⟩ := ih (pattern.length - 1) (by omega)
            refine ⟨count + 1, ?_⟩
            simp only [replaceAll, found, ↓reduceIte, List.length_cons, List.length_append,
              Nat.add_mul, Nat.one_mul]
            omega
          · obtain ⟨count, eq⟩ := ih 0 (by omega)
            refine ⟨count, ?_⟩
            simp only [replaceAll, found, Bool.false_eq_true, ↓reduceIte, List.length_cons]
            omega

theorem replaceAll_nil_length_mod (pattern text : List Symbol) (nonempty : 0 < pattern.length) :
    (replaceAll pattern [] 0 text).length % pattern.length = text.length % pattern.length := by
  obtain ⟨count, eq⟩ := replaceAll_length pattern [] nonempty text 0 (Nat.zero_le _)
  simp only [List.length_nil, Nat.mul_zero, Nat.add_zero] at eq
  rw [eq, Nat.add_mul_mod_self_right]

theorem replaceAll_nil_length_le (pattern text : List Symbol) (nonempty : 0 < pattern.length)
    (skip : Nat) (bound : skip ≤ text.length) :
    (replaceAll pattern [] skip text).length + skip ≤ text.length := by
  obtain ⟨count, eq⟩ := replaceAll_length pattern [] nonempty text skip bound
  simp only [List.length_nil, Nat.mul_zero, Nat.add_zero] at eq
  omega

theorem replaceAll_nil_length_lt (pattern text : List Symbol) (nonempty : 0 < pattern.length)
    (occurs : pattern <:+: text) : (replaceAll pattern [] 0 text).length < text.length := by
  induction text with
  | nil =>
      have empty : pattern = [] := List.infix_nil.mp occurs
      simp [empty] at nonempty
  | cons symbol text ih =>
      by_cases found : pattern.isPrefixOf (symbol :: text) = true
      · have fits : pattern.length ≤ text.length + 1 := by
          simpa using (List.isPrefixOf_iff_prefix.mp found).length_le
        have shorter := replaceAll_nil_length_le pattern text nonempty (pattern.length - 1)
          (by omega)
        simp only [replaceAll, found, ↓reduceIte, List.nil_append, List.length_cons]
        omega
      · have later : pattern <:+: text := by
          rcases List.infix_cons_iff.mp occurs with first | later
          · exact absurd (List.isPrefixOf_iff_prefix.mpr first) found
          · exact later
        have shorter := ih later
        simp only [replaceAll, found, Bool.false_eq_true, ↓reduceIte, List.length_cons]
        omega

theorem find_located (pattern text : List Symbol) (position : Nat)
    (found : find pattern text = some position) : pattern <+: text.drop position := by
  induction text generalizing position with
  | nil =>
      simp only [find] at found
      split at found
      · rename_i empty
        simpa using List.isPrefixOf_iff_prefix.mp empty
      · cases found
  | cons symbol text ih =>
      simp only [find] at found
      split at found
      · rename_i first
        obtain rfl := Option.some.inj found
        exact List.isPrefixOf_iff_prefix.mp first
      · obtain ⟨earlier, located, rfl⟩ := Option.map_eq_some_iff.mp found
        exact ih earlier located

theorem find_inside (pattern text : List Symbol) (position : Nat)
    (found : find pattern text = some position) : pattern <:+: text :=
  (find_located pattern text position found).isInfix.trans (List.drop_suffix position text).isInfix

theorem find_fits (pattern text : List Symbol) (position : Nat) (nonempty : 0 < pattern.length)
    (found : find pattern text = some position) : position + pattern.length ≤ text.length := by
  have fits := (find_located pattern text position found).length_le
  rw [List.length_drop] at fits
  omega

theorem find_least (pattern text : List Symbol) (position : Nat)
    (located : pattern <+: text.drop position) :
    ∃ first ≤ position, find pattern text = some first := by
  induction text generalizing position with
  | nil =>
      rw [List.drop_nil] at located
      have here := List.isPrefixOf_iff_prefix.mpr located
      exact ⟨0, Nat.zero_le _, by simp only [find, here, ↓reduceIte]⟩
  | cons symbol text ih =>
      by_cases here : pattern.isPrefixOf (symbol :: text) = true
      · exact ⟨0, Nat.zero_le _, by simp only [find, here, ↓reduceIte]⟩
      · cases position with
        | zero => exact absurd (List.isPrefixOf_iff_prefix.mpr located) here
        | succ position =>
            obtain ⟨first, bound, found⟩ := ih position located
            refine ⟨first + 1, Nat.succ_le_succ bound, ?_⟩
            simp only [find, here, Bool.false_eq_true, ↓reduceIte, found, Option.map_some]

def FirstAt (pattern text : List Symbol) (position : Nat) : Prop :=
  pattern <+: text.drop position ∧ ∀ earlier < position, ¬pattern <+: text.drop earlier

theorem find_eq_some_iff (pattern text : List Symbol) (position : Nat) :
    find pattern text = some position ↔ FirstAt pattern text position := by
  constructor
  · intro found
    refine ⟨find_located pattern text position found, ?_⟩
    intro earlier before located
    obtain ⟨first, bound, again⟩ := find_least pattern text earlier located
    obtain rfl := Option.some.inj (found.symm.trans again)
    omega
  · rintro ⟨located, least⟩
    obtain ⟨first, bound, found⟩ := find_least pattern text position located
    have reached : ¬first < position := fun before =>
      least first before (find_located pattern text first found)
    obtain rfl : first = position := by omega
    exact found

theorem find_eq_none_iff (pattern text : List Symbol) :
    find pattern text = none ↔ ¬pattern <:+: text := by
  constructor
  · rintro missing ⟨before, after, rfl⟩
    have located : pattern <+: (before ++ pattern ++ after).drop before.length := by
      rw [List.append_assoc, List.drop_left]
      exact List.prefix_append pattern after
    obtain ⟨first, _, found⟩ := find_least pattern _ _ located
    rw [missing] at found
    cases found
  · intro absent
    cases found : find pattern text with
    | none => rfl
    | some position => exact absurd (find_inside pattern text position found) absent

theorem find_isSome_iff (pattern text : List Symbol) :
    (find pattern text).isSome = true ↔ pattern <:+: text := by
  rw [← Option.ne_none_iff_isSome, ne_eq, find_eq_none_iff, not_not]

omit [DecidableEq Symbol] in
theorem prefix_append_apart (pattern left right : List Symbol) (symbol : Symbol)
    (absent : symbol ∉ pattern) : pattern <+: left ++ symbol :: right ↔ pattern <+: left := by
  constructor
  · intro leads
    rcases List.prefix_or_prefix_of_prefix leads (List.prefix_append left _) with inside | beyond
    · exact inside
    · obtain ⟨rest, rfl⟩ := beyond
      have follows := (List.prefix_append_right_inj left).mp leads
      cases rest with
      | nil => rw [List.append_nil]
      | cons next rest =>
          obtain ⟨rfl, _⟩ := List.cons_prefix_cons.mp follows
          simp at absent
  · intro leads
    exact leads.trans (List.prefix_append left _)

theorem find_append_apart (pattern left right : List Symbol) (symbol : Symbol)
    (nonempty : pattern ≠ []) (absent : symbol ∉ pattern) :
    find pattern (left ++ symbol :: right) =
      (find pattern left).or ((find pattern (symbol :: right)).map (left.length + ·)) := by
  induction left with
  | nil =>
      have none : find pattern [] = none := (find_eq_none_iff pattern []).mpr (by simpa)
      simp [none]
  | cons first left ih =>
      have same : pattern.isPrefixOf (first :: left ++ symbol :: right) =
          pattern.isPrefixOf (first :: left) := by
        rw [Bool.eq_iff_iff, List.isPrefixOf_iff_prefix, List.isPrefixOf_iff_prefix]
        exact prefix_append_apart pattern (first :: left) right symbol absent
      rw [List.cons_append] at same ⊢
      rw [find, same, find]
      split
      · rfl
      · rw [ih, Option.map_or, Option.map_map]
        congr 2
        funext position
        simp only [Function.comp_apply, List.length_cons]
        omega

theorem infix_append_apart (pattern left right : List Symbol) (symbol : Symbol)
    (nonempty : pattern ≠ []) (absent : symbol ∉ pattern) :
    pattern <:+: left ++ symbol :: right ↔ pattern <:+: left ∨ pattern <:+: right := by
  have apart : ¬pattern <+: symbol :: right := fun leads =>
    nonempty (List.prefix_nil.mp ((prefix_append_apart pattern [] right symbol absent).mp leads))
  have behind : pattern <:+: symbol :: right ↔ pattern <:+: right := by
    rw [List.infix_cons_iff, or_iff_right apart]
  have found := find_append_apart pattern left right symbol nonempty absent
  rw [← not_iff_not, ← find_eq_none_iff, found, Option.or_eq_none_iff, Option.map_eq_none_iff,
    find_eq_none_iff, find_eq_none_iff, behind, not_or]

theorem contains_eq_find (pattern text : List Symbol) :
    contains pattern text = (find pattern text).isSome := by
  induction text with
  | nil => cases here : pattern.isPrefixOf [] <;> simp [contains, find, here]
  | cons symbol text ih =>
      cases here : pattern.isPrefixOf (symbol :: text) <;> simp [contains, find, here, ih]

/-- Some `start` is followed by a `stop`, with allowed symbols alone between it and the first
`stop` that follows it. -/
def spans (start stop : List Symbol) (allowed : Symbol → Bool) (text : List Symbol) : Bool :=
  text.tails.any fun rest =>
    start.isPrefixOf rest &&
      match find stop (rest.drop start.length) with
      | some position => ((rest.drop start.length).take position).all allowed
      | none => false

theorem spans_iff (start stop : List Symbol) (allowed : Symbol → Bool) (text : List Symbol) :
    spans start stop allowed text = true ↔
      ∃ before between after, text = before ++ (start ++ (between ++ (stop ++ after))) ∧
        between.all allowed = true := by
  rw [spans, List.any_eq_true]
  constructor
  · rintro ⟨rest, later, found⟩
    obtain ⟨before, rfl⟩ := (List.mem_tails rest text).mp later
    obtain ⟨starts, stops⟩ := Bool.and_eq_true_iff.mp found
    obtain ⟨tail, rfl⟩ := List.isPrefixOf_iff_prefix.mp starts
    rw [List.drop_left] at stops
    cases located : find stop tail with
    | none => simp [located] at stops
    | some position =>
        obtain ⟨after, ends⟩ := find_located stop tail position located
        refine ⟨before, tail.take position, after, ?_, by simpa [located] using stops⟩
        rw [ends, List.take_append_drop]
  · rintro ⟨before, between, after, rfl, plain⟩
    refine ⟨start ++ (between ++ (stop ++ after)),
      (List.mem_tails _ _).mpr (List.suffix_append before _), ?_⟩
    have located : stop <+: (between ++ (stop ++ after)).drop between.length := by
      rw [List.drop_left]
      exact List.prefix_append stop after
    obtain ⟨first, bound, found⟩ := find_least stop _ _ located
    have begins : start.isPrefixOf (start ++ (between ++ (stop ++ after))) = true :=
      List.isPrefixOf_iff_prefix.mpr (List.prefix_append start _)
    rw [List.drop_left, found, begins, Bool.true_and]
    rw [List.all_eq_true] at plain ⊢
    intro symbol member
    rw [List.take_append_of_le_length bound] at member
    exact plain symbol (List.mem_of_mem_take member)

def findLast (symbol : Symbol) (text : List Symbol) : Option Nat :=
  (text.reverse.findIdx? (· = symbol)).map fun back => text.length - 1 - back

theorem findLast_append (symbol : Symbol) (before after : List Symbol) (plain : symbol ∉ after) :
    findLast symbol (before ++ symbol :: after) = some before.length := by
  have missing : ∀ other ∈ after.reverse, decide (other = symbol) = false := by
    intro other member
    rw [decide_eq_false_iff_not]
    rintro rfl
    exact plain (List.mem_reverse.mp member)
  have back : (before ++ symbol :: after).reverse = after.reverse ++ symbol :: before.reverse := by
    simp
  have absent : after.reverse.findIdx? (· = symbol) = none :=
    List.findIdx?_eq_none_iff.mpr missing
  rw [findLast, back, List.findIdx?_append, absent]
  simp only [Option.none_or, List.findIdx?_cons, decide_true, ↓reduceIte, Option.map_some,
    List.length_reverse, List.length_append, List.length_cons]
  congr 1
  omega

theorem findLast_none (symbol : Symbol) (text : List Symbol) (plain : symbol ∉ text) :
    findLast symbol text = none := by
  rw [findLast, Option.map_eq_none_iff, List.findIdx?_eq_none_iff]
  intro other member
  rw [decide_eq_false_iff_not]
  rintro rfl
  exact plain (List.mem_reverse.mp member)

omit [DecidableEq Symbol] in
theorem split_last (symbol : Symbol) (text : List Symbol) (member : symbol ∈ text) :
    ∃ before after, text = before ++ symbol :: after ∧ symbol ∉ after := by
  obtain ⟨front, back, spelled, plain⟩ :=
    List.eq_append_cons_of_mem (List.mem_reverse.mpr member)
  refine ⟨back.reverse, front.reverse, ?_, by simpa using plain⟩
  have turned := congrArg List.reverse spelled
  simpa using turned

theorem findLast_split (symbol : Symbol) (text : List Symbol) (position : Nat)
    (found : findLast symbol text = some position) :
    ∃ before after, text = before ++ symbol :: after ∧ symbol ∉ after ∧
      before.length = position := by
  by_cases member : symbol ∈ text
  · obtain ⟨before, after, rfl, plain⟩ := split_last symbol text member
    rw [findLast_append symbol before after plain] at found
    exact ⟨before, after, rfl, plain, Option.some.inj found⟩
  · rw [findLast_none symbol text member] at found
    cases found

theorem replaceAll_map {Look : Type*} (look : Symbol → Look) (pattern replacement : List Symbol)
    (nonempty : pattern ≠ []) (same : replacement.map look = pattern.map look) (skip : Nat)
    (text : List Symbol) :
    (replaceAll pattern replacement skip text).map look = (text.drop skip).map look := by
  induction text generalizing skip with
  | nil => simp [replaceAll]
  | cons symbol text ih =>
      cases skip with
      | succ skip =>
          rw [replaceAll, ih, List.drop_succ_cons]
      | zero =>
          rw [replaceAll]
          split
          · rename_i found
            obtain ⟨first, rest, rfl⟩ := List.exists_cons_of_ne_nil nonempty
            obtain ⟨rfl, after, rfl⟩ :=
              List.cons_prefix_cons.mp (List.isPrefixOf_iff_prefix.mp found)
            rw [List.map_append, ih, same, List.length_cons, Nat.add_sub_cancel, List.drop_left]
            simp
          · rw [List.map_cons, ih]
            rfl

/-- Cuts out the first occurrence of `pattern`, at most `fuel` times. -/
def removeAllWithin (pattern : List Symbol) : Nat → List Symbol → List Symbol
  | 0, text => text
  | fuel + 1, text =>
      match find pattern text with
      | none => text
      | some position =>
          removeAllWithin pattern fuel
            (text.take position ++ text.drop (position + pattern.length))

def removeAll (pattern text : List Symbol) : List Symbol :=
  removeAllWithin pattern text.length text

theorem removeAllWithin_find (pattern : List Symbol) (nonempty : 0 < pattern.length)
    (fuel : Nat) (text : List Symbol) (enough : text.length ≤ fuel) :
    find pattern (removeAllWithin pattern fuel text) = none := by
  induction fuel generalizing text with
  | zero =>
      obtain rfl := List.eq_nil_of_length_eq_zero (by omega : text.length = 0)
      cases found : find pattern [] with
      | none => exact found
      | some position =>
          have fits := find_fits pattern [] position nonempty found
          simp only [List.length_nil] at fits
          omega
  | succ fuel ih =>
      rw [removeAllWithin]
      cases found : find pattern text with
      | none => exact found
      | some position =>
          have fits := find_fits pattern text position nonempty found
          apply ih
          simp only [List.length_append, List.length_take, List.length_drop]
          omega

theorem removeAll_find (pattern text : List Symbol) (nonempty : 0 < pattern.length) :
    find pattern (removeAll pattern text) = none :=
  removeAllWithin_find pattern nonempty text.length text (Nat.le_refl _)

/-- The loop that cuts out first occurrences, run on a text until no occurrence is left. -/
inductive CutsTo (pattern : List Symbol) : List Symbol → List Symbol → Prop
  | done {text} (absent : find pattern text = none) : CutsTo pattern text text
  | cut {text position result} (found : find pattern text = some position)
      (rest : CutsTo pattern (text.take position ++ text.drop (position + pattern.length)) result) :
      CutsTo pattern text result

theorem removeAllWithin_cutsTo (pattern : List Symbol) (nonempty : 0 < pattern.length)
    (fuel : Nat) (text : List Symbol) (enough : text.length ≤ fuel) :
    CutsTo pattern text (removeAllWithin pattern fuel text) := by
  induction fuel generalizing text with
  | zero => exact CutsTo.done (removeAllWithin_find pattern nonempty 0 text enough)
  | succ fuel ih =>
      rw [removeAllWithin]
      cases found : find pattern text with
      | none => exact CutsTo.done found
      | some position =>
          have fits := find_fits pattern text position nonempty found
          apply CutsTo.cut found
          apply ih
          simp only [List.length_append, List.length_take, List.length_drop]
          omega

theorem removeAll_cutsTo (pattern text : List Symbol) (nonempty : 0 < pattern.length) :
    CutsTo pattern text (removeAll pattern text) :=
  removeAllWithin_cutsTo pattern nonempty text.length text (Nat.le_refl _)

omit [DecidableEq Symbol] in
theorem append_separator_inj (separator : Symbol) (left right : List Symbol)
    (leftTail rightTail : List Symbol) (leftPlain : separator ∉ left)
    (rightPlain : separator ∉ right)
    (same : left ++ separator :: leftTail = right ++ separator :: rightTail) :
    left = right ∧ leftTail = rightTail := by
  induction left generalizing right with
  | nil =>
      cases right with
      | nil => exact ⟨rfl, (List.cons.inj same).2⟩
      | cons symbol right =>
          have head : separator = symbol := (List.cons.inj same).1
          exact absurd (head ▸ List.mem_cons_self) rightPlain
  | cons symbol left ih =>
      cases right with
      | nil =>
          have head : symbol = separator := (List.cons.inj same).1
          exact absurd (head ▸ List.mem_cons_self) leftPlain
      | cons other right =>
          obtain ⟨rfl, rest⟩ := List.cons.inj same
          obtain ⟨rfl, tails⟩ := ih right (fun inside => leftPlain (List.mem_cons_of_mem _ inside))
            (fun inside => rightPlain (List.mem_cons_of_mem _ inside)) rest
          exact ⟨rfl, tails⟩

theorem mem_splitOn (separator : Symbol) (text piece : List Symbol)
    (member : piece ∈ text.splitOn separator) : separator ∉ piece ∧ piece ⊆ text := by
  induction text generalizing piece with
  | nil =>
      rw [List.splitOn_nil, List.mem_singleton] at member
      subst member
      exact ⟨List.not_mem_nil, List.Subset.refl _⟩
  | cons symbol text ih =>
      rw [List.splitOn_cons_eq_if_modifyHead] at member
      by_cases here : symbol = separator
      · simp only [here, BEq.rfl, ↓reduceIte, List.mem_cons] at member
        rcases member with rfl | later
        · exact ⟨List.not_mem_nil, List.nil_subset _⟩
        · obtain ⟨plain, inside⟩ := ih piece later
          exact ⟨plain, List.subset_cons_of_subset _ inside⟩
      · simp only [beq_iff_eq, here, ↓reduceIte] at member
        obtain ⟨first, rest, pieces⟩ :=
          List.exists_cons_of_ne_nil (List.splitOn_ne_nil separator text)
        rw [pieces, List.modifyHead_cons, List.mem_cons] at member
        rcases member with rfl | later
        · obtain ⟨plain, inside⟩ := ih first (pieces ▸ List.mem_cons_self)
          refine ⟨?_, List.cons_subset_cons _ inside⟩
          rintro (_ | ⟨_, later⟩)
          · exact here rfl
          · exact plain later
        · obtain ⟨plain, inside⟩ := ih piece (pieces ▸ List.mem_cons_of_mem _ later)
          exact ⟨plain, List.subset_cons_of_subset _ inside⟩

theorem splitOn_lines (separator : Symbol) (lines : List (List Symbol))
    (plain : ∀ line ∈ lines, separator ∉ line) :
    (lines.flatMap (· ++ [separator])).splitOn separator = lines ++ [[]] := by
  induction lines with
  | nil => rfl
  | cons line lines ih =>
      have rest := ih fun other member => plain other (List.mem_cons_of_mem _ member)
      rw [List.flatMap_cons, List.append_assoc, List.singleton_append,
        List.splitOn_append_cons_self_of_not_mem (plain line List.mem_cons_self), rest,
        List.cons_append]

theorem splitOn_pair (separator : Symbol) (left right : List Symbol)
    (leftPlain : separator ∉ left) (rightPlain : separator ∉ right) :
    (left ++ separator :: right).splitOn separator = [left, right] := by
  rw [List.splitOn_append_cons_self_of_not_mem leftPlain, List.splitOn_eq_singleton rightPlain]

omit [DecidableEq Symbol] in
theorem intercalate_concat (separator : Symbol) (words : List (List Symbol)) (last : List Symbol)
    (several : words ≠ []) :
    [separator].intercalate (words ++ [last]) =
      [separator].intercalate words ++ separator :: last := by
  induction words with
  | nil => exact absurd rfl several
  | cons word words ih =>
      rw [List.cons_append, List.intercalate_cons_of_ne_nil (by simp)]
      cases words with
      | nil => simp
      | cons next words =>
          rw [ih (List.cons_ne_nil _ _), List.intercalate_cons_cons]
          simp

omit [DecidableEq Symbol] in
theorem head?_intercalate (separator : Symbol) (first : List Symbol) (rest : List (List Symbol)) :
    ([separator].intercalate (first :: rest)).head? =
      first.head?.or (if rest = [] then none else some separator) := by
  cases rest with
  | nil => simp
  | cons next rest =>
      rw [List.intercalate_cons_cons, List.append_assoc, List.head?_append, List.singleton_append]
      simp

omit [DecidableEq Symbol] in
theorem getLast?_intercalate (separator : Symbol) (words : List (List Symbol))
    (last : List Symbol) :
    ([separator].intercalate (words ++ [last])).getLast? =
      last.getLast?.or (if words = [] then none else some separator) := by
  cases words with
  | nil => simp
  | cons word words =>
      rw [intercalate_concat separator _ last (List.cons_ne_nil _ _), List.getLast?_append,
        List.getLast?_cons]
      cases last.getLast? <;> simp

end Scan
