import KernelManager.Court.VmEvidence
import Mathlib.Data.List.Forall2

/-! When two transaction documents show the same chains, field by field. -/

namespace KernelManager

open Json (Value)

/-- The entries of two lists go together one by one; a list that is missing stands for an empty
one. -/
def ListsAlike {Left Right : Type} (same : Left → Right → Prop) :
    Option (List Left) → Option (List Right) → Prop
  | none, none => True
  | none, some items => items = []
  | some items, none => items = []
  | some left, some right => List.Forall₂ same left right

def textsIn (items : List Value) : List Value := items.filter fun item => item.asStr.isSome

def TextsAlike (left right : Option (List Value)) : Prop :=
  ListsAlike Eq (left.map textsIn) (right.map textsIn)

def SameArgv (left right : Value) : Prop := TextsAlike (left.arrayAt "argv") (right.arrayAt "argv")

/-- The oracle has an event where the candidate has the bare arguments. -/
def RunsCommand (event command : Value) : Prop :=
  TextsAlike (event.arrayAt "argv") command.asArray

def commandsAt (candidate : Value) : Option (List Value) :=
  (candidate.arrayAt "commands").map fun commands =>
    commands.filter fun command => command.asArray.isSome

/-- A terminal of the candidate that is no array counts as none, one of the oracle as a terminal
without arguments. -/
def SameTerminal (oracle candidate : Value) : Prop :=
  match oracle.get "terminal", candidate.arrayAt "terminal" with
  | none, none => True
  | some event, some arguments => TextsAlike (event.arrayAt "argv") (some arguments)
  | _, _ => False

structure SameChains (oracle candidate : Value) : Prop where
  probes : ListsAlike SameArgv (oracle.arrayAt "probes") (candidate.arrayAt "probes")
  execs : ListsAlike RunsCommand (oracle.arrayAt "execs") (commandsAt candidate)
  terminal : SameTerminal oracle candidate

def BothOrSome (left right : Option (List Value)) : Prop :=
  (left.isSome = true ∧ right.isSome = true) ∨
    (∃ items ∈ left, items ≠ []) ∨ ∃ items ∈ right, items ≠ []

def CarryChains (oracle candidate : Value) : Prop :=
  (HasList "probes" oracle ∧ HasList "execs" oracle) ∧
    HasList "probes" candidate ∧ HasList "commands" candidate

/-- Neither chain is missing from a document while the other one shows nothing of it. -/
def ShowChains (oracle candidate : Value) : Prop :=
  BothOrSome (oracle.arrayAt "probes") (candidate.arrayAt "probes") ∧
    BothOrSome (oracle.arrayAt "execs") (commandsAt candidate)

theorem listsAlike_iff {Left Right Shown : Type} (same : Left → Right → Prop)
    (shownLeft : Left → Shown) (shownRight : Right → Shown)
    (agree : ∀ left right, same left right ↔ shownLeft left = shownRight right)
    (left : Option (List Left)) (right : Option (List Right)) :
    ListsAlike same left right ↔
      (left.map (·.map shownLeft)).getD [] = (right.map (·.map shownRight)).getD [] := by
  have pairs (left : List Left) (right : List Right) :
      List.Forall₂ same left right ↔ left.map shownLeft = right.map shownRight := by
    rw [← List.forall₂_eq_eq_eq, List.forall₂_map_left_iff, List.forall₂_map_right_iff]
    constructor
    · exact List.Forall₂.imp fun first second => (agree first second).mp
    · exact List.Forall₂.imp fun first second => (agree first second).mpr
  cases left with
  | none => cases right <;> simp [ListsAlike, eq_comm]
  | some left =>
      cases right with
      | none => simp [ListsAlike]
      | some right => exact pairs left right

theorem textsIn_eq (items : List Value) : textsIn items = (strings items).map Value.string := by
  induction items with
  | nil => rfl
  | cons item items ih =>
      cases item with
      | string text => exact congrArg (Value.string text :: ·) ih
      | _ => exact ih

theorem textsAlike_iff (left right : Option (List Value)) :
    TextsAlike left right ↔ (left.map strings).getD [] = (right.map strings).getD [] := by
  have texts (items : Option (List Value)) :
      ((items.map textsIn).map (·.map id)).getD [] =
        ((items.map strings).getD []).map Value.string := by
    cases items with
    | none => rfl
    | some items => simp [textsIn_eq]
  have injective : Function.Injective Value.string := fun _ _ same => Value.string.inj same
  rw [TextsAlike, listsAlike_iff Eq id id (fun _ _ => Iff.rfl), texts, texts]
  exact (List.map_injective_iff.mpr injective).eq_iff

theorem sameArgv_iff (left right : Value) : SameArgv left right ↔ argvOf left = argvOf right :=
  textsAlike_iff _ _

theorem sameProbes_iff (oracle candidate : Value) :
    ListsAlike SameArgv (oracle.arrayAt "probes") (candidate.arrayAt "probes") ↔
      chainsAt "probes" oracle = chainsAt "probes" candidate :=
  listsAlike_iff SameArgv argvOf argvOf sameArgv_iff _ _

theorem commandsAt_strings (candidate : Value) :
    ((commandsAt candidate).map (·.map fun command => (command.asArray.map strings).getD [])) =
      (candidate.arrayAt "commands").map fun commands =>
        (commands.filterMap Value.asArray).map strings := by
  rw [commandsAt, Option.map_map]
  congr 1
  funext commands
  induction commands with
  | nil => rfl
  | cons command commands ih =>
      cases command with
      | array items => exact congrArg (strings items.toList :: ·) ih
      | _ => exact ih

theorem sameExecs_iff (oracle candidate : Value) :
    ListsAlike RunsCommand (oracle.arrayAt "execs") (commandsAt candidate) ↔
      (oracleTransactionObservation oracle).execs =
        (candidateTransactionObservation candidate).execs := by
  rw [listsAlike_iff RunsCommand argvOf (fun command => (command.asArray.map strings).getD [])
    (fun event command => textsAlike_iff _ _), commandsAt_strings]
  exact Iff.rfl

theorem sameTerminal_iff (oracle candidate : Value) :
    SameTerminal oracle candidate ↔
      (oracleTransactionObservation oracle).terminal =
        (candidateTransactionObservation candidate).terminal := by
  rw [SameTerminal, oracleTransactionObservation, candidateTransactionObservation]
  cases oracle.get "terminal" with
  | none => cases candidate.arrayAt "terminal" <;> simp
  | some event =>
      cases candidate.arrayAt "terminal" with
      | none => simp
      | some arguments =>
          simp only [Option.map_some, Option.some.injEq]
          exact textsAlike_iff _ _

section

variable (printing : Printing) (court : String)

theorem chainMismatch_nil {Chain : Type} [DecidableEq Chain] (field : String)
    (text : Chain → String) (oracle candidate : Chain) :
    chainMismatch court field text oracle candidate = [] ↔ oracle = candidate :=
  unlessSame_nil _ oracle candidate

/-- The comparator passes exactly the documents that show the same chains. -/
theorem compareVmTransactions_nil (oracle candidate : Value) :
    compareVmTransactions printing court oracle candidate = [] ↔ SameChains oracle candidate := by
  simp only [compareVmTransactions, compareTransactionObservations, List.append_eq_nil_iff,
    chainMismatch_nil]
  rw [← sameExecs_iff, ← sameTerminal_iff]
  constructor
  · rintro ⟨⟨probes, execs⟩, terminal⟩
    exact ⟨(sameProbes_iff oracle candidate).mpr probes, execs, terminal⟩
  · intro same
    exact ⟨⟨(sameProbes_iff oracle candidate).mp same.probes, same.execs⟩, same.terminal⟩

end

theorem ListsAlike.carried {same : Value → Value → Prop} {left right : Option (List Value)}
    (alike : ListsAlike same left right) :
    BothOrSome left right ↔ left.isSome = true ∧ right.isSome = true := by
  constructor
  · rintro (both | ⟨items, rfl, some⟩ | ⟨items, rfl, some⟩)
    · exact both
    · cases right with
      | none => exact absurd alike some
      | some others => exact ⟨rfl, rfl⟩
    · cases left with
      | none => exact absurd alike some
      | some others => exact ⟨rfl, rfl⟩
  · exact Or.inl

theorem commandsAt_isSome (candidate : Value) :
    (commandsAt candidate).isSome = true ↔ HasList "commands" candidate := by
  rw [commandsAt, Option.isSome_map]
  exact Iff.rfl

theorem SameChains.carried {oracle candidate : Value} (same : SameChains oracle candidate) :
    ShowChains oracle candidate ↔ CarryChains oracle candidate := by
  rw [ShowChains, same.probes.carried, same.execs.carried, commandsAt_isSome]
  constructor
  · rintro ⟨⟨probes, otherProbes⟩, execs, commands⟩
    exact ⟨⟨probes, execs⟩, otherProbes, commands⟩
  · rintro ⟨⟨probes, execs⟩, otherProbes, commands⟩
    exact ⟨⟨probes, otherProbes⟩, execs, commands⟩

end KernelManager
