import KernelManager.Library.Comparators
import Mathlib.Data.String.Basic

/-! The comparison of versions in a build without libalpm. -/

namespace KernelManager

namespace NullAlpm

/-- The pieces between what is neither an ASCII digit nor a dot. -/
def seg (version : String) : List String :=
  ((version.toList.splitOnP fun char => !char.isDigit && char ≠ '.').filter (!·.isEmpty)).map
    String.ofList

/-- Rust's `parse::<u64>`: digits after an optional plus, below 2^64. -/
def parseU64 (text : String) : Option Nat :=
  let digits := match text.toList with
    | '+' :: digits => digits
    | digits => digits
  let value := digits.foldl (fun value digit => value * 10 + (digit.toNat - '0'.toNat)) 0
  if !digits.isEmpty && digits.all Char.isDigit && value < 18446744073709551616 then some value
  else none

def compareSegments (x y : String) : Ordering :=
  match parseU64 x, parseU64 y with
  | some xn, some yn => if xn ≠ yn then compare xn yn else compare x y
  | _, _ => compare x y

def vercmp (a b : String) : Ordering :=
  let sa := seg a
  let sb := seg b
  match ((sa.zip sb).map fun pair => compareSegments pair.1 pair.2).find? (· ≠ .eq) with
  | some ord => ord
  | none => compare sa.length sb.length

/-- After a shared front, two of the next segments are numbers in numeric order, and the third is
not and stands, spelled out, after the greater and before the lesser. -/
def Tangled (a b c : String) : Prop :=
  ∃ shared x xs y ys z zs, seg a = shared ++ x :: xs ∧ seg b = shared ++ y :: ys ∧
    seg c = shared ++ z :: zs ∧
    (Comparing.Knot parseU64 x y z ∨ Comparing.Knot parseU64 y z x ∨ Comparing.Knot parseU64 z x y)

theorem compareSegments_eq : compareSegments = Comparing.compareKeyed parseU64 := by
  funext x y
  simp only [compareSegments, Comparing.compareKeyed]
  cases parseU64 x with
  | none => rfl
  | some xn =>
      cases parseU64 y with
      | none => rfl
      | some yn =>
          by_cases same : xn = yn
          · simp [same]
          · have apart : compare xn yn ≠ .eq := by simpa using same
            simp only [same, ne_eq, not_false_eq_true, ↓reduceIte]
            cases order : compare xn yn with
            | eq => exact absurd order apart
            | lt => rfl
            | gt => rfl

theorem firstDifference_eq (sa sb : List String) :
    (match ((sa.zip sb).map fun pair => compareSegments pair.1 pair.2).find? (· ≠ .eq) with
      | some ord => ord
      | none => compare sa.length sb.length) = List.compareLex compareSegments sa sb := by
  induction sa generalizing sb with
  | nil =>
      cases sb with
      | nil => rfl
      | cons y sb =>
          rw [List.compareLex_nil_cons]
          exact Nat.compare_eq_lt.mpr (Nat.zero_lt_succ sb.length)
  | cons x sa ih =>
      cases sb with
      | nil =>
          rw [List.compareLex_cons_nil]
          exact Nat.compare_eq_gt.mpr (Nat.zero_lt_succ sa.length)
      | cons y sb =>
          have lengths : compare (sa.length + 1) (sb.length + 1) = compare sa.length sb.length := by
            simp [Nat.compare_eq_ite_lt]
          rw [List.compareLex_cons_cons, ← ih sb, List.zip_cons_cons, List.map_cons,
            List.find?_cons, List.length_cons, List.length_cons, lengths]
          cases compareSegments x y <;> rfl

theorem vercmp_eq (a b : String) :
    vercmp a b = List.compareLex (Comparing.compareKeyed parseU64) (seg a) (seg b) := by
  rw [← compareSegments_eq]
  exact firstDifference_eq (seg a) (seg b)

/-- The laws of a total preorder hold of three versions unless they are tangled. -/
theorem vercmp_preorder_iff (a b c : String) :
    (vercmp a b = (vercmp b a).swap ∧ vercmp a a = .eq ∧
      (vercmp a b ≠ .gt → vercmp b c ≠ .gt → vercmp a c ≠ .gt)) ↔ ¬Tangled a b c := by
  have swapped : vercmp a b = (vercmp b a).swap := by
    rw [vercmp_eq, vercmp_eq]
    exact Std.OrientedCmp.eq_swap
  have same : vercmp a a = .eq := by
    rw [vercmp_eq]
    exact Std.ReflCmp.compare_self
  have tangled : Tangled a b c ↔
      Comparing.Cycle (List.compareLex (Comparing.compareKeyed parseU64)) (seg a) (seg b)
        (seg c) := by
    simp only [Tangled, Comparing.compareLex_cycle, Comparing.compareKeyed_cycle]
  rw [tangled, ← Comparing.trans_iff]
  simp only [vercmp_eq] at swapped same ⊢
  exact ⟨fun laws => laws.2.2, fun trans => ⟨swapped, same, trans⟩⟩

/-- 9 is below 10 as a number and 10 below 5.0 as a text, but 9 is above 5.0. -/
theorem vercmp_dottedSegment :
    ¬∀ a b c, vercmp a b = (vercmp b a).swap ∧ vercmp a a = .eq ∧
      (vercmp a b ≠ .gt → vercmp b c ≠ .gt → vercmp a c ≠ .gt) := by
  intro laws
  have trans := (laws "9" "10" "5.0").2.2
  exact absurd (trans (by decide) (by decide)) (by decide)

end NullAlpm

end KernelManager
