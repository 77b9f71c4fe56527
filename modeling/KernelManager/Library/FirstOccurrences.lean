import Mathlib.Data.List.Nodup

/-! Lists that collect what they are shown, each item once and in the order of appearance. -/

namespace Firsts

variable {Item : Type*} [DecidableEq Item]

def push (known found : List Item) (item : Item) : List Item :=
  if item ∈ known ++ found then found else found ++ [item]

/-- `found` lists the items of `shown` beyond `known`, each once, by their first occurrences. -/
structure Collected (known shown found : List Item) : Prop where
  items : ∀ item, item ∈ found ↔ item ∈ shown ∧ item ∉ known
  distinct : found.Nodup
  ordered : found.Pairwise fun left right => shown.idxOf left < shown.idxOf right

variable {known shown found : List Item}

theorem collected_nil (known : List Item) : Collected known [] [] where
  items item := by simp
  distinct := List.nodup_nil
  ordered := List.Pairwise.nil

theorem Collected.ordered_append (collected : Collected known shown found) (later : List Item) :
    found.Pairwise fun left right =>
      (shown ++ later).idxOf left < (shown ++ later).idxOf right := by
  refine collected.ordered.imp_of_mem ?_
  intro left right leftFound rightFound before
  have leftShown := ((collected.items left).mp leftFound).1
  have rightShown := ((collected.items right).mp rightFound).1
  rwa [List.idxOf_append_of_mem leftShown, List.idxOf_append_of_mem rightShown]

theorem Collected.push (collected : Collected known shown found) (item : Item) :
    Collected known (shown ++ [item]) (push known found item) := by
  unfold Firsts.push
  by_cases old : item ∈ known ++ found
  · rw [if_pos old]
    refine ⟨?_, collected.distinct, collected.ordered_append [item]⟩
    intro other
    rw [collected.items, List.mem_append, List.mem_singleton]
    constructor
    · rintro ⟨inside, fresh⟩
      exact ⟨Or.inl inside, fresh⟩
    · rintro ⟨inside | rfl, fresh⟩
      · exact ⟨inside, fresh⟩
      · have listed := (List.mem_append.mp old).resolve_left fresh
        exact (collected.items other).mp listed
  · rw [if_neg old]
    have unknown : item ∉ known := fun inside => old (List.mem_append_left _ inside)
    have unlisted : item ∉ found := fun inside => old (List.mem_append_right _ inside)
    have unseen : item ∉ shown := fun inside =>
      unlisted ((collected.items item).mpr ⟨inside, unknown⟩)
    refine ⟨?_, ?_, ?_⟩
    · intro other
      rw [List.mem_append, List.mem_append, List.mem_singleton, collected.items, or_and_right]
      refine or_congr_right ⟨?_, And.left⟩
      rintro rfl
      exact ⟨rfl, unknown⟩
    · exact List.nodup_append_comm.mp (List.nodup_cons.mpr ⟨unlisted, collected.distinct⟩)
    · rw [List.pairwise_append]
      refine ⟨collected.ordered_append [item], List.pairwise_singleton _ _, ?_⟩
      intro left leftFound right here
      obtain rfl := List.mem_singleton.mp here
      have leftShown := ((collected.items left).mp leftFound).1
      rw [List.idxOf_append_of_mem leftShown, List.idxOf_append_of_notMem unseen]
      exact Nat.lt_add_right _ (List.idxOf_lt_length_of_mem leftShown)

theorem Collected.foldl_push (collected : Collected known shown found) (items : List Item) :
    Collected known (shown ++ items) (items.foldl (Firsts.push known) found) := by
  induction items generalizing shown found with
  | nil => rwa [List.append_nil]
  | cons item items ih =>
      rw [List.foldl_cons, List.append_cons shown item items]
      exact ih (collected.push item)

variable {Value : Type*}

def assign (key : Item) (value : Value) : List (Item × Value) → List (Item × Value)
  | [] => [(key, value)]
  | pair :: table =>
      if pair.1 = key then (pair.1, value) :: table else pair :: assign key value table

/-- `table` has the keys of `assigned` by their first occurrences, each with its last value. -/
structure Table (assigned table : List (Item × Value)) : Prop where
  keys : Collected [] (assigned.map Prod.fst) (table.map Prod.fst)
  values : ∀ key, table.lookup key = assigned.reverse.lookup key

theorem table_nil : Table ([] : List (Item × Value)) [] where
  keys := collected_nil []
  values _ := rfl

theorem assign_keys (key : Item) (value : Value) (table : List (Item × Value)) :
    (assign key value table).map Prod.fst = push [] (table.map Prod.fst) key := by
  induction table with
  | nil => rfl
  | cons pair table ih =>
      rw [assign]
      by_cases here : pair.1 = key
      · simp [here, Firsts.push]
      · rw [if_neg here, List.map_cons, ih]
        have differs : key ≠ pair.1 := fun same => here same.symm
        simp only [Firsts.push, List.nil_append, List.map_cons, List.mem_cons, differs, false_or]
        split <;> rfl

theorem lookup_cons_ite (key : Item) (pair : Item × Value) (table : List (Item × Value)) :
    (pair :: table).lookup key = if key = pair.1 then some pair.2 else table.lookup key := by
  rw [List.lookup_cons]
  by_cases same : key = pair.1
  · rw [if_pos same, beq_iff_eq.mpr same]
  · rw [if_neg same, beq_eq_false_iff_ne.mpr same]

theorem assign_lookup (key other : Item) (value : Value) (table : List (Item × Value)) :
    (assign key value table).lookup other =
      if other = key then some value else table.lookup other := by
  induction table with
  | nil => rw [assign, lookup_cons_ite]
  | cons pair table ih =>
      rw [assign, lookup_cons_ite]
      by_cases here : pair.1 = key
      · rw [if_pos here, lookup_cons_ite, here]
        by_cases same : other = key
        · rw [if_pos same, if_pos same]
        · rw [if_neg same, if_neg same, if_neg same]
      · rw [if_neg here, lookup_cons_ite, ih]
        by_cases same : other = key
        · have differs : other ≠ pair.1 := fun found => here (found.symm.trans same)
          rw [if_neg differs, if_pos same, if_pos same]
        · rw [if_neg same, if_neg same]

theorem Table.assign {assigned table : List (Item × Value)} (represents : Table assigned table)
    (key : Item) (value : Value) : Table (assigned ++ [(key, value)]) (assign key value table) where
  keys := by
    rw [assign_keys, List.map_append]
    exact represents.keys.push key
  values other := by
    rw [assign_lookup, represents.values, List.reverse_append, List.reverse_singleton,
      List.singleton_append, lookup_cons_ite]

end Firsts
