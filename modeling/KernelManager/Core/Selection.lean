import Mathlib.Data.List.Basic
import Mathlib.Data.List.Induction

/-! Kernel selection and the shared change list. -/

namespace KernelManager

structure KernelRow where
  raw : String
  name : String
  installed : Bool
  immutable : Bool
  updateAvailable : Bool
  checked : Bool
  deriving DecidableEq, Repr

structure SelectionState where
  rows : List KernelRow := []
  deriving DecidableEq, Repr

def KernelRow.record (list : List String) (row : KernelRow) : List String :=
  if row.immutable ∧ ¬row.checked then list ++ [row.raw]
  else if row.immutable ∧ row.checked then list.filter (· ≠ row.raw)
  else if row.checked then list ++ [row.raw]
  else list.filter (· ≠ row.raw)

namespace SelectionState

def changeList (selection : SelectionState) : List String :=
  selection.rows.foldl KernelRow.record []

def installSet (selection : SelectionState) : List String :=
  selection.changeList.filter fun raw =>
    match selection.rows.find? (·.raw = raw) with
    | some row => !row.installed || row.updateAvailable
    | none => false

def removalSet (selection : SelectionState) : List String :=
  selection.changeList.filter fun raw =>
    selection.rows.any fun row => row.raw = raw ∧ row.installed

end SelectionState

def toggleRow (selection : SelectionState) (index : Nat) : SelectionState :=
  { rows := selection.rows.modify index fun row => { row with checked := !row.checked } }

def KernelRow.toggledTimes (times : Nat) (row : KernelRow) : KernelRow :=
  { row with checked := row.checked ^^ times % 2 == 1 }

def KernelRow.Changed (row : KernelRow) : Prop := row.checked ≠ row.immutable

instance (row : KernelRow) : Decidable row.Changed :=
  inferInstanceAs (Decidable (row.checked ≠ row.immutable))

theorem toggledTimes_succ (times : Nat) (row : KernelRow) :
    { row with checked := !row.checked }.toggledTimes times = row.toggledTimes (times + 1) := by
  have parity : ((times + 1) % 2 == 1) = !(times % 2 == 1) := by
    rcases Nat.mod_two_eq_zero_or_one times with even | odd
    · simp [Nat.add_mod, even]
    · simp [Nat.add_mod, odd]
  simp [KernelRow.toggledTimes, parity]

theorem toggledTimes_changed (times : Nat) (row : KernelRow) (unchanged : ¬row.Changed) :
    (row.toggledTimes times).Changed ↔ times % 2 = 1 := by
  have same : row.checked = row.immutable := not_not.mp unchanged
  simp only [KernelRow.Changed, KernelRow.toggledTimes, same]
  by_cases odd : times % 2 = 1 <;> cases row.immutable <;> simp [odd]

theorem record_eq (list : List String) (row : KernelRow) :
    row.record list =
      if row.Changed then list ++ [row.raw] else list.filter (· ≠ row.raw) := by
  rcases row with ⟨raw, name, installed, immutable, update, checked⟩
  cases immutable <;> cases checked <;> simp [KernelRow.record, KernelRow.Changed]

theorem mem_record_iff (list : List String) (row : KernelRow) (raw : String) :
    raw ∈ row.record list ↔
      if row.raw = raw then row.Changed else raw ∈ list := by
  rw [record_eq]
  by_cases same : row.raw = raw
  · subst same
    by_cases changed : row.Changed <;> simp [changed]
  · by_cases changed : row.Changed <;> simp [changed, same, Ne.symm same]

/-- The last row that carries `raw` decides whether it is in the change list. -/
theorem mem_changeList_iff (selection : SelectionState) (raw : String) :
    raw ∈ selection.changeList ↔
      ∃ row, selection.rows.reverse.find? (·.raw = raw) = some row ∧ row.Changed := by
  rcases selection with ⟨rows⟩
  unfold SelectionState.changeList
  induction rows using List.reverseRecOn with
  | nil => simp
  | append_singleton rows last ih =>
      rw [List.foldl_append, List.foldl_cons, List.foldl_nil, mem_record_iff]
      by_cases same : last.raw = raw
      · simp [same]
      · simpa [same] using ih

theorem changeList_eq (selection : SelectionState)
    (distinct : (selection.rows.map (·.raw)).Nodup) :
    selection.changeList = (selection.rows.filter (·.Changed)).map (·.raw) := by
  rcases selection with ⟨rows⟩
  unfold SelectionState.changeList
  induction rows using List.reverseRecOn with
  | nil => rfl
  | append_singleton rows last ih =>
      simp only [List.map_append, List.map_cons, List.map_nil] at distinct
      obtain ⟨earlier, _, apart⟩ := List.nodup_append.mp distinct
      rw [List.foldl_append, List.foldl_cons, List.foldl_nil, ih earlier, record_eq,
        List.filter_append, List.map_append]
      by_cases changed : last.Changed
      · simp [changed]
      · have kept : ∀ raw ∈ (rows.filter (·.Changed)).map (·.raw), raw ≠ last.raw := by
          intro raw member
          have listed : raw ∈ rows.map (·.raw) :=
            (List.filter_sublist.map KernelRow.raw).subset member
          exact apart raw listed last.raw (by simp)
        have whole := List.filter_eq_self.mpr fun raw member => decide_eq_true (kept raw member)
        rw [if_neg changed, whole]
        simp [changed]

theorem mem_removalSet_iff (selection : SelectionState) (raw : String) :
    raw ∈ selection.removalSet ↔
      raw ∈ selection.changeList ∧
        ∃ row ∈ selection.rows, row.raw = raw ∧ row.installed = true := by
  simp [SelectionState.removalSet]

end KernelManager
