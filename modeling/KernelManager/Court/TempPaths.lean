import KernelManager.Court.Normalize
import KernelManager.Library.JsonStrings
import KernelManager.Library.Runs
import KernelManager.Library.Utf8

/-!
The masking of temporary paths: the loop on the bytes of a string, and what of a document it
hides.
-/

namespace KernelManager

open Json (Value)

def tmpPathEnd (after : List Char) : Nat :=
  match after.findIdx? (!·.isAlphanum) with
  | some index => Utf8.offset after index
  | none => Utf8.size after

/-- The loop of `mask` on byte offsets; there is no result if a slice of the text would panic. -/
def maskSlices : Nat → List Char → Option (List Char)
  | 0, rest => some rest
  | fuel + 1, rest =>
      match (Scan.find tmpMarker.toList rest).map (Utf8.offset rest) with
      | none => some rest
      | some idx => do
          let (front, _) ← Utf8.splitAt idx rest
          let (_, after) ← Utf8.splitAt (idx + Utf8.size tmpMarker.toList) rest
          let (_, later) ← Utf8.splitAt (tmpPathEnd after) after
          let masked ← maskSlices fuel later
          return front ++ tmpMarker.toList ++ ['X'] ++ masked

/-- In `out` the token stands for the longest run of ASCII letters and digits behind each
occurrence of the marker in `text`. -/
def TmpRuns (token : List Char) (text out : String) : Prop :=
  Scan.RunsReplaced tmpMarker.toList Char.isAlphanum token text.toList out.toList

def withoutTmpRuns (text : String) : String :=
  String.ofList
    (Scan.replaceRunsWithin tmpMarker.toList Char.isAlphanum [] text.toList.length text.toList)

theorem tmpMarker_ne_nil : tmpMarker.toList ≠ [] := by decide

theorem maskWithin_eq (fuel : Nat) (rest : List Char) :
    maskWithin fuel rest =
      Scan.replaceRunsWithin tmpMarker.toList Char.isAlphanum ['X'] fuel rest := by
  induction fuel generalizing rest with
  | zero => rfl
  | succ fuel ih =>
      rw [maskWithin, Scan.replaceRunsWithin]
      cases Scan.find tmpMarker.toList rest with
      | none => rfl
      | some position =>
          simp only [ih, String.length_toList, List.append_assoc]

theorem mask_tmpRuns (text : String) : TmpRuns ['X'] text (mask text) := by
  rw [TmpRuns, mask, String.toList_ofList, maskWithin_eq]
  exact Scan.replaceRunsWithin_replaced tmpMarker_ne_nil _ _ (by rw [String.length_toList])

theorem withoutTmpRuns_tmpRuns (text : String) : TmpRuns [] text (withoutTmpRuns text) := by
  rw [TmpRuns, withoutTmpRuns, String.toList_ofList]
  exact Scan.replaceRunsWithin_replaced tmpMarker_ne_nil _ _ (Nat.le_refl _)

theorem mask_mask (text : String) : mask (mask text) = mask text := by
  have settled := (mask_tmpRuns text).settled tmpMarker_ne_nil (by decide)
  exact String.toList_inj.mp ((mask_tmpRuns (mask text)).unique settled)

theorem mask_eq_iff (left right : String) :
    mask left = mask right ↔ withoutTmpRuns left = withoutTmpRuns right := by
  have runs := Scan.RunsReplaced.eq_iff tmpMarker_ne_nil (by decide) (by decide)
    (mask_tmpRuns left) (mask_tmpRuns right) (withoutTmpRuns_tmpRuns left)
    (withoutTmpRuns_tmpRuns right)
  rwa [String.toList_inj, String.toList_inj] at runs

theorem tmpPathEnd_split (after : List Char) :
    Utf8.splitAt (tmpPathEnd after) after =
      some (after.takeWhile Char.isAlphanum, after.dropWhile Char.isAlphanum) := by
  rw [Utf8.splitAt_iff, List.takeWhile_append_dropWhile]
  refine ⟨rfl, ?_⟩
  unfold tmpPathEnd
  cases found : after.findIdx? (!·.isAlphanum) with
  | none =>
      rw [List.findIdx?_eq_none_iff] at found
      rw [List.takeWhile_eq_self_iff.mpr]
      intro symbol member
      simpa using found symbol member
  | some index =>
      rw [List.findIdx?_eq_some_iff_findIdx_eq] at found
      rw [List.takeWhile_eq_take_findIdx_not, found.2]
      rfl

theorem maskSlices_eq (fuel : Nat) (rest : List Char) :
    maskSlices fuel rest = some (maskWithin fuel rest) := by
  induction fuel generalizing rest with
  | zero => rfl
  | succ fuel ih =>
      rw [maskSlices, maskWithin]
      cases found : Scan.find tmpMarker.toList rest with
      | none => rfl
      | some position =>
          obtain ⟨front, after, rfl, rfl, _⟩ := Scan.find_split tmpMarker_ne_nil found
          have reached : Utf8.offset (front ++ (tmpMarker.toList ++ after)) front.length =
              Utf8.size front := by
            rw [Utf8.offset, List.take_left]
          have before : Utf8.splitAt (Utf8.size front) (front ++ (tmpMarker.toList ++ after)) =
              some (front, tmpMarker.toList ++ after) :=
            (Utf8.splitAt_iff _ _ _ _).mpr ⟨rfl, rfl⟩
          have behind : Utf8.splitAt (Utf8.size front + Utf8.size tmpMarker.toList)
              (front ++ (tmpMarker.toList ++ after)) =
                some (front ++ tmpMarker.toList, after) :=
            (Utf8.splitAt_iff _ _ _ _).mpr ⟨(List.append_assoc _ _ _).symm, Utf8.size_append _ _⟩
          have dropped : (front ++ (tmpMarker.toList ++ after)).drop
              (front.length + tmpMarker.length) = after := by
            rw [← String.length_toList, ← List.drop_drop, List.drop_left, List.drop_left]
          simp only [Option.map_some, reached, before, behind, tmpPathEnd_split, ih,
            Option.bind_eq_bind, Option.bind_some, Option.pure_def, dropped, List.take_left]

theorem maskSlices_settled (text : String) (more : Nat) :
    maskSlices (text.toList.length + more) text.toList = some (mask text).toList := by
  have replaced := mask_tmpRuns text
  have complete : TmpRuns ['X'] text
      (String.ofList (maskWithin (text.toList.length + more) text.toList)) := by
    rw [TmpRuns, String.toList_ofList, maskWithin_eq]
    exact Scan.replaceRunsWithin_replaced tmpMarker_ne_nil _ _ (Nat.le_add_right _ _)
  rw [maskSlices_eq, complete.unique replaced |>.symm, String.toList_ofList]

theorem normalizeTmpPaths_idempotent (value : Value) :
    normalizeTmpPaths (normalizeTmpPaths value) = normalizeTmpPaths value := by
  have composed := value.mapStrings_mapStrings mask mask
  have settled : mask ∘ mask = mask := funext mask_mask
  rw [settled] at composed
  exact composed

theorem normalizeTmpPaths_string (text : String) :
    normalizeTmpPaths (.string text) = .string (mask text) := by
  unfold normalizeTmpPaths Value.mapStrings
  rfl

theorem normalizeTmpPaths_string_iff (left right : String) :
    normalizeTmpPaths (.string left) = normalizeTmpPaths (.string right) ↔
      withoutTmpRuns left = withoutTmpRuns right := by
  rw [normalizeTmpPaths_string, normalizeTmpPaths_string, Value.string.injEq]
  exact mask_eq_iff left right

/-- Masking hides the random parts of the temporary paths in a document, and nothing else. -/
theorem normalizeTmpPaths_hides :
    (∀ value : Value, normalizeTmpPaths (normalizeTmpPaths value) = normalizeTmpPaths value) ∧
      (∀ value : Value, value.SameBut (TmpRuns ['X']) (normalizeTmpPaths value)) ∧
      (∀ (text : String) (more : Nat),
        maskSlices (text.toList.length + more) text.toList = some (mask text).toList) ∧
      (∀ text, TmpRuns [] text (withoutTmpRuns text)) ∧
      (∀ left right : String,
        normalizeTmpPaths (.string left) = normalizeTmpPaths (.string right) ↔
          withoutTmpRuns left = withoutTmpRuns right) ∧
      ∀ left right : Value, normalizeTmpPaths left = normalizeTmpPaths right ↔
        left.mapStrings withoutTmpRuns = right.mapStrings withoutTmpRuns := by
  refine ⟨normalizeTmpPaths_idempotent, ?_, maskSlices_settled, withoutTmpRuns_tmpRuns,
    normalizeTmpPaths_string_iff, ?_⟩
  · exact fun value => value.sameBut_mapStrings mask_tmpRuns
  · exact fun left right => Value.mapStrings_eq_iff mask_eq_iff left right

end KernelManager
