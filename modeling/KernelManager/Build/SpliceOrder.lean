import KernelManager.Build.Insertion

/-! The two splices of a build in their order: where the second goes once the first is made. -/

namespace KernelManager

def PkgbaseAt (pkgbuild customName : String) (position index : Nat) : Prop :=
  splicePoint pkgbuild "_major=" = some (position, index) ∧
    insertCustomPkgbase pkgbuild customName = String.ofList
      (pkgbuild.toList.take index ++ (customPkgbaseLine customName).toList ++
        pkgbuild.toList.drop index)

/-- Where a position of the PKGBUILD stands once the source array has been inserted. -/
def movedPosition (pkgbuild : String) (block : String) (position : Nat) : Nat :=
  match splicePoint pkgbuild "prepare()" with
  | none => position
  | some (_, cut) => if position < cut then position else position + block.toList.length

/-- The inserted source array does not redirect the pkgbase line: the line is inserted if it would
be without the array, for the same marker of the PKGBUILD, and not inside the array. -/
structure PkgbaseKept (pkgbuild : String) (origEntries patches : List String)
    (customName : String) : Prop where
  inserted :
    insertCustomPkgbase (insertPatchSourceArray pkgbuild origEntries patches) customName ≠
        insertPatchSourceArray pkgbuild origEntries patches ↔
      insertCustomPkgbase pkgbuild customName ≠ pkgbuild
  occurrence : ∀ position index,
    PkgbaseAt (insertPatchSourceArray pkgbuild origEntries patches) customName position index →
      ∃ original before, PkgbaseAt pkgbuild customName original before ∧
        position = movedPosition pkgbuild (buildSourceArray origEntries patches) original
  outside : ∀ position index,
    PkgbaseAt (insertPatchSourceArray pkgbuild origEntries patches) customName position index →
      ∀ marker cut, splicePoint pkgbuild "prepare()" = some (marker, cut) →
        index ≤ cut ∨ cut + (buildSourceArray origEntries patches).toList.length ≤ index

def EntryTaken (pkgbuild : String) (origEntries patches : List String) : Prop :=
  ∃ marker cut, splicePoint pkgbuild "prepare()" = some (marker, cut) ∧
    contains (String.ofList (pkgbuild.toList.take cut)) "_major=" = false ∧
    ∃ entry ∈ sourceEntries origEntries patches, contains entry "_major=" = true

theorem lastNewline_shift (left right : List Char) (member : newline ∈ right) :
    lastNewline (left ++ right) = (lastNewline right).map (left.length + ·) := by
  obtain ⟨before, line, rfl, plain⟩ := Scan.split_last newline right member
  rw [← List.append_assoc, lastNewline_append _ line plain, lastNewline_append before line plain,
    List.length_append]
  rfl

section

variable (marker left right : List Char) {symbol : Char} (nonempty : marker ≠ [])
  (absent : symbol ∉ marker)

include nonempty absent in
theorem spliceIn_left (found : (Scan.find marker left).isSome = true) :
    spliceIn (left ++ symbol :: right) marker = spliceIn left marker := by
  obtain ⟨position, here⟩ := Option.isSome_iff_exists.mp found
  have whole := Scan.find_append_apart marker left right symbol nonempty absent
  rw [here, Option.some_or] at whole
  have fits := Scan.find_fits marker left position (List.length_pos_of_ne_nil nonempty) here
  have positive := List.length_pos_of_ne_nil nonempty
  have slice : (left ++ symbol :: right).take (position + 1) = left.take (position + 1) :=
    List.take_append_of_le_length (by omega)
  simp only [spliceIn, whole, here, slice]

theorem spliceIn_right (nonempty : marker ≠ []) (absent : newline ∉ marker)
    (missing : Scan.find marker left = none) :
    spliceIn (left ++ newline :: right) marker =
      (spliceIn (newline :: right) marker).map fun point =>
        (left.length + point.1, left.length + point.2) := by
  have whole := Scan.find_append_apart marker left right newline nonempty absent
  rw [missing, Option.none_or] at whole
  unfold spliceIn
  rw [whole]
  cases Scan.find marker (newline :: right) with
  | none => rfl
  | some position =>
      have slice : (left ++ newline :: right).take (left.length + position + 1) =
          left ++ (newline :: right).take (position + 1) := by
        rw [Nat.add_assoc, List.take_length_add_append]
      have member : newline ∈ (newline :: right).take (position + 1) := by
        rw [List.take_succ_cons]
        exact List.mem_cons_self
      simp only [Option.map_some, slice, lastNewline_shift left _ member, Option.map_map]
      rfl

theorem spliceIn_newline (found : (Scan.find marker (newline :: right)).isSome = true) :
    ∃ point, spliceIn (newline :: right) marker = some point := by
  obtain ⟨position, here⟩ := Option.isSome_iff_exists.mp found
  have member : newline ∈ (newline :: right).take (position + 1) := by
    rw [List.take_succ_cons]
    exact List.mem_cons_self
  obtain ⟨before, line, spelled, plain⟩ := Scan.split_last newline _ member
  refine ⟨(position, before.length), ?_⟩
  simp only [spliceIn, here, spelled, lastNewline_append before line plain, Option.map_some]

end

def majorMarker : List Char := "_major=".toList

theorem majorMarker_ne_nil : majorMarker ≠ [] := by decide

theorem newline_notMem_majorMarker : newline ∉ majorMarker := by decide

theorem not_infix_nil : ¬majorMarker <:+: [] :=
  fun inside => majorMarker_ne_nil (List.infix_nil.mp inside)

def arrayLines (origEntries patches : List String) : List Char :=
  [newline].intercalate ((sourceEntries origEntries patches).map fun entry =>
    Shell.quotedWord entry.toList) ++ [')', newline]

theorem buildSourceArray_toList (origEntries patches : List String) :
    (buildSourceArray origEntries patches).toList =
      "source=(".toList ++ newline :: arrayLines origEntries patches := by
  have start : "source=(\n".toList = "source=(".toList ++ [newline] := by decide
  have ending : ")\n".toList = [')', newline] := by decide
  have separator : "\n".toList = [newline] := by decide
  have entries : ((sourceEntries origEntries patches).map quoted).map String.toList =
      (sourceEntries origEntries patches).map fun entry => Shell.quotedWord entry.toList := by
    simp [quoted_toList]
  rw [buildSourceArray, String.toList_append, String.toList_append, String.toList_intercalate,
    entries, start, ending, separator]
  simp [arrayLines]

theorem infix_quotedWord (entry : List Char) :
    majorMarker <:+: Shell.quotedWord entry ↔ majorMarker <:+: entry := by
  have spelled : Shell.quotedWord entry = [] ++ Shell.quote :: (entry ++ Shell.quote :: []) := rfl
  have absent : Shell.quote ∉ majorMarker := by decide
  rw [spelled, Scan.infix_append_apart majorMarker _ _ _ majorMarker_ne_nil absent,
    Scan.infix_append_apart majorMarker _ _ _ majorMarker_ne_nil absent]
  simp only [not_infix_nil, false_or, or_false]

theorem infix_intercalate_apart (marker : List Char) (nonempty : marker ≠ [])
    (absent : newline ∉ marker) (lines : List (List Char)) :
    marker <:+: [newline].intercalate lines ↔ ∃ line ∈ lines, marker <:+: line := by
  constructor
  · intro inside
    induction lines with
    | nil => exact absurd (List.infix_nil.mp inside) nonempty
    | cons line lines ih =>
        cases lines with
        | nil =>
            rw [List.intercalate_singleton] at inside
            exact ⟨line, List.mem_cons_self, inside⟩
        | cons next lines =>
            rw [List.intercalate_cons_cons, List.append_assoc, List.singleton_append,
              Scan.infix_append_apart marker _ _ newline nonempty absent] at inside
            rcases inside with here | later
            · exact ⟨line, List.mem_cons_self, here⟩
            · obtain ⟨other, member, found⟩ := ih later
              exact ⟨other, List.mem_cons_of_mem _ member, found⟩
  · rintro ⟨line, member, inside⟩
    exact inside.trans (infix_intercalate [newline] lines line member)

theorem infix_arrayLines (origEntries patches : List String) :
    majorMarker <:+: newline :: arrayLines origEntries patches ↔
      ∃ entry ∈ sourceEntries origEntries patches, contains entry "_major=" = true := by
  have tail : ¬majorMarker <:+: [newline] := by decide
  have first := Scan.infix_append_apart majorMarker [] (arrayLines origEntries patches) newline
    majorMarker_ne_nil newline_notMem_majorMarker
  have last := Scan.infix_append_apart majorMarker
    ([newline].intercalate ((sourceEntries origEntries patches).map fun entry =>
      Shell.quotedWord entry.toList)) [newline] ')' majorMarker_ne_nil (by decide)
  rw [List.nil_append, or_iff_right not_infix_nil] at first
  rw [first, arrayLines, last, or_iff_left tail,
    infix_intercalate_apart _ majorMarker_ne_nil newline_notMem_majorMarker]
  have entries : ∀ entry : String, contains entry "_major=" = true ↔
      majorMarker <:+: entry.toList := by
    intro entry
    rw [contains, Scan.contains_eq_find]
    exact Scan.find_isSome_iff _ _
  simp only [List.mem_map, exists_exists_and_eq_and, infix_quotedWord, entries]

theorem spliceIn_find (text marker : List Char) (position index : Nat)
    (found : spliceIn text marker = some (position, index)) :
    Scan.find marker text = some position := by
  unfold spliceIn at found
  split at found
  · cases found
  · rename_i here located
    obtain ⟨last, _, same⟩ := Option.map_eq_some_iff.mp found
    rw [located, (Prod.mk.inj same).1]

theorem spliceIn_cut (text marker : List Char) (position index : Nat)
    (found : spliceIn text marker = some (position, index)) :
    index ≤ position ∧ ∃ before after, text = before ++ newline :: after ∧
      before.length = index := by
  unfold spliceIn at found
  split at found
  · cases found
  · rename_i here _
    obtain ⟨last, located, same⟩ := Option.map_eq_some_iff.mp found
    obtain ⟨rfl, rfl⟩ := Prod.mk.inj same
    obtain ⟨before, line, spelled, _, rfl⟩ := Scan.findLast_split newline _ last located
    have lengths := congrArg List.length spelled
    rw [List.length_take, List.length_append, List.length_cons] at lengths
    refine ⟨by omega, before, line ++ text.drop (here + 1), ?_, rfl⟩
    rw [← List.cons_append, ← List.append_assoc, ← spelled, List.take_append_drop]

section

variable (before lines after : List Char)

def withArray : List Char :=
  before ++ ("source=(".toList ++ newline :: lines) ++ newline :: after

theorem withArray_front (found : (Scan.find majorMarker before).isSome = true) :
    spliceIn (withArray before lines after) majorMarker =
      spliceIn (before ++ newline :: after) majorMarker := by
  have spelled : withArray before lines after =
      before ++ 's' :: ("ource=(".toList ++ newline :: lines ++ newline :: after) := by
    rw [withArray, List.append_assoc]
    rfl
  rw [spelled, spliceIn_left majorMarker before _ majorMarker_ne_nil (by decide) found,
    spliceIn_left majorMarker before _ majorMarker_ne_nil (by decide) found]

theorem find_array (missing : Scan.find majorMarker before = none) :
    Scan.find majorMarker (before ++ "source=(".toList) = none := by
  have start : Scan.find majorMarker "source=(".toList = none := by decide
  have spelled : before ++ "source=(".toList = before ++ 's' :: "ource=(".toList := rfl
  have whole := Scan.find_append_apart majorMarker before "ource=(".toList 's'
    majorMarker_ne_nil (by decide)
  rw [spelled, whole, missing, Option.none_or]
  exact Option.map_eq_none_iff.mpr start

theorem withArray_behind (missing : Scan.find majorMarker before = none)
    (free : ¬majorMarker <:+: newline :: lines) :
    spliceIn (withArray before lines after) majorMarker =
      (spliceIn (newline :: after) majorMarker).map fun point =>
        (before.length + ("source=(".toList ++ newline :: lines).length + point.1,
          before.length + ("source=(".toList ++ newline :: lines).length + point.2) := by
  have array :
      Scan.find majorMarker (before ++ ("source=(".toList ++ newline :: lines)) = none := by
    rw [← List.append_assoc, Scan.find_append_apart majorMarker _ lines newline
        majorMarker_ne_nil newline_notMem_majorMarker,
      find_array before missing, Option.none_or, (Scan.find_eq_none_iff _ _).mpr free]
    rfl
  rw [withArray,
    spliceIn_right majorMarker _ after majorMarker_ne_nil newline_notMem_majorMarker array]
  simp only [List.length_append]

theorem withArray_inside (missing : Scan.find majorMarker before = none)
    (taken : majorMarker <:+: newline :: lines) :
    ∃ position index,
      spliceIn (withArray before lines after) majorMarker = some (position, index) ∧
      before.length < index ∧
      index < before.length + ("source=(".toList ++ newline :: lines).length := by
  have spelled : withArray before lines after =
      before ++ "source=(".toList ++ newline :: (lines ++ newline :: after) := by
    simp [withArray]
  have found : (Scan.find majorMarker (newline :: lines)).isSome = true :=
    (Scan.find_isSome_iff _ _).mpr taken
  have moved := spliceIn_right majorMarker (before ++ "source=(".toList)
    (lines ++ newline :: after) majorMarker_ne_nil newline_notMem_majorMarker
    (find_array before missing)
  rw [← spelled, ← List.cons_append,
    spliceIn_left majorMarker (newline :: lines) after majorMarker_ne_nil
      newline_notMem_majorMarker found] at moved
  obtain ⟨⟨position, index⟩, point⟩ := spliceIn_newline majorMarker lines found
  obtain ⟨_, front, back, split, long⟩ := spliceIn_cut _ _ position index point
  have lengths := congrArg List.length split
  simp only [List.length_append, List.length_cons] at lengths
  rw [point, Option.map_some] at moved
  refine ⟨_, _, moved, ?_, ?_⟩
  · have eight : "source=(".toList.length = 8 := by decide
    simp only [List.length_append, eight]
    omega
  · simp only [List.length_append, List.length_cons]
    omega

end

theorem insertCustomPkgbase_ne (pkgbuild customName : String) :
    insertCustomPkgbase pkgbuild customName ≠ pkgbuild ↔
      (splicePoint pkgbuild "_major=").isSome = true := by
  rw [insertCustomPkgbase, insertBeforeMarker_splicePoint]
  cases splicePoint pkgbuild "_major=" with
  | none => simp
  | some point =>
      refine iff_of_true ?_ rfl
      intro same
      have lengths := congrArg (fun text => text.toList.length) same
      have line : 0 < (customPkgbaseLine customName).toList.length := by
        have start : "\n\npkgbase=".toList.length = 10 := by decide
        rw [customPkgbaseLine, String.toList_append, List.length_append, start]
        omega
      simp only [String.toList_ofList, List.length_append, List.length_take,
        List.length_drop] at lengths
      omega

theorem pkgbaseAt_iff (pkgbuild customName : String) (position index : Nat) :
    PkgbaseAt pkgbuild customName position index ↔
      splicePoint pkgbuild "_major=" = some (position, index) := by
  refine and_iff_left_of_imp ?_
  intro point
  rw [insertCustomPkgbase, insertBeforeMarker_splicePoint, point]

theorem insertPatchSourceArray_toList (pkgbuild : String) (origEntries patches : List String)
    (marker cut : Nat) (point : splicePoint pkgbuild "prepare()" = some (marker, cut)) :
    ∃ before after, pkgbuild.toList = before ++ newline :: after ∧ before.length = cut ∧
      (insertPatchSourceArray pkgbuild origEntries patches).toList =
        withArray before (arrayLines origEntries patches) after := by
  obtain ⟨_, before, after, spelled, rfl⟩ := spliceIn_cut _ _ marker cut point
  refine ⟨before, after, spelled, rfl, ?_⟩
  rw [insertPatchSourceArray, insertBeforeMarker_splicePoint, point]
  simp only [String.toList_ofList, spelled, List.take_left, List.drop_left,
    buildSourceArray_toList, withArray]

section

variable {pkgbuild : String} {origEntries patches : List String} (customName : String)
  {marker : Nat} {before after : List Char} (spelled : pkgbuild.toList = before ++ newline :: after)
  (point : splicePoint pkgbuild "prepare()" = some (marker, before.length))
  (mutated : (insertPatchSourceArray pkgbuild origEntries patches).toList =
    withArray before (arrayLines origEntries patches) after)

include spelled point in
theorem entryTaken_iff :
    EntryTaken pkgbuild origEntries patches ↔ Scan.find majorMarker before = none ∧
      majorMarker <:+: newline :: arrayLines origEntries patches := by
  have front : contains (String.ofList (pkgbuild.toList.take before.length)) "_major=" = false ↔
      Scan.find majorMarker before = none := by
    have text : (String.ofList (pkgbuild.toList.take before.length)).toList = before := by
      rw [String.toList_ofList, spelled, List.take_left]
    rw [contains, Scan.contains_eq_find, text, Option.isSome_eq_false_iff,
      Option.isNone_iff_eq_none]
    rfl
  rw [infix_arrayLines]
  constructor
  · rintro ⟨_, _, same, missing, entry⟩
    obtain ⟨rfl, rfl⟩ := Prod.mk.inj (Option.some.inj (point.symm.trans same))
    exact ⟨front.mp missing, entry⟩
  · rintro ⟨missing, entry⟩
    exact ⟨marker, before.length, point, front.mpr missing, entry⟩

include spelled in
theorem splicePoint_original :
    splicePoint pkgbuild "_major=" = spliceIn (before ++ newline :: after) majorMarker := by
  rw [splicePoint, spelled]
  rfl

include mutated in
theorem splicePoint_mutated :
    splicePoint (insertPatchSourceArray pkgbuild origEntries patches) "_major=" =
      spliceIn (withArray before (arrayLines origEntries patches) after) majorMarker := by
  rw [splicePoint, mutated]
  rfl

include point in
theorem cut_eq {other cut : Nat} (again : splicePoint pkgbuild "prepare()" = some (other, cut)) :
    cut = before.length :=
  (Prod.mk.inj (Option.some.inj (again.symm.trans point))).2

include spelled point mutated in
theorem pkgbaseKept_front (front : (Scan.find majorMarker before).isSome = true) :
    PkgbaseKept pkgbuild origEntries patches customName := by
  have same : splicePoint (insertPatchSourceArray pkgbuild origEntries patches) "_major=" =
      splicePoint pkgbuild "_major=" := by
    rw [splicePoint_mutated mutated, withArray_front _ _ _ front, ← splicePoint_original spelled]
  have early : ∀ position index, splicePoint pkgbuild "_major=" = some (position, index) →
      index ≤ position ∧ position < before.length := by
    intro position index placed
    rw [splicePoint_original spelled,
      spliceIn_left majorMarker before after majorMarker_ne_nil newline_notMem_majorMarker
        front] at placed
    have fits := Scan.find_fits majorMarker before position (by decide)
      (spliceIn_find before majorMarker position index placed)
    have seven : majorMarker.length = 7 := by decide
    exact ⟨(spliceIn_cut before majorMarker position index placed).1, by omega⟩
  refine ⟨?_, ?_, ?_⟩
  · rw [insertCustomPkgbase_ne, insertCustomPkgbase_ne, same]
  · intro position index placed
    rw [pkgbaseAt_iff, same] at placed
    refine ⟨position, index, (pkgbaseAt_iff _ _ _ _).mpr placed, ?_⟩
    simp only [movedPosition, point, if_pos (early position index placed).2]
  · intro position index placed _ cut again
    rw [pkgbaseAt_iff, same] at placed
    have bounds := early position index placed
    have here := cut_eq point again
    omega

include spelled point mutated in
theorem pkgbaseKept_behind (missing : Scan.find majorMarker before = none)
    (free : ¬majorMarker <:+: newline :: arrayLines origEntries patches) :
    PkgbaseKept pkgbuild origEntries patches customName := by
  have block := congrArg List.length (buildSourceArray_toList origEntries patches)
  have moved := withArray_behind before (arrayLines origEntries patches) after missing free
  have unmoved := spliceIn_right majorMarker before after majorMarker_ne_nil
    newline_notMem_majorMarker missing
  rw [← splicePoint_mutated mutated, ← block] at moved
  rw [← splicePoint_original spelled] at unmoved
  refine ⟨?_, ?_, ?_⟩
  · rw [insertCustomPkgbase_ne, insertCustomPkgbase_ne, moved, unmoved, Option.isSome_map,
      Option.isSome_map]
  · intro position index placed
    rw [pkgbaseAt_iff, moved] at placed
    obtain ⟨here, found, same⟩ := Option.map_eq_some_iff.mp placed
    obtain ⟨rfl, rfl⟩ := Prod.mk.inj same
    refine ⟨before.length + here.1, before.length + here.2, ?_, ?_⟩
    · rw [pkgbaseAt_iff, unmoved, found]
      rfl
    · have late : ¬before.length + here.1 < before.length := by omega
      simp only [movedPosition, point, if_neg late]
      omega
  · intro position index placed _ cut again
    rw [pkgbaseAt_iff, moved] at placed
    obtain ⟨here, _, same⟩ := Option.map_eq_some_iff.mp placed
    obtain ⟨rfl, rfl⟩ := Prod.mk.inj same
    rw [cut_eq point again]
    exact Or.inr (Nat.le_add_right _ _)

include point mutated in
theorem not_pkgbaseKept_inside (missing : Scan.find majorMarker before = none)
    (taken : majorMarker <:+: newline :: arrayLines origEntries patches) :
    ¬PkgbaseKept pkgbuild origEntries patches customName := by
  have block := congrArg List.length (buildSourceArray_toList origEntries patches)
  obtain ⟨position, index, inside, above, below⟩ :=
    withArray_inside before (arrayLines origEntries patches) after missing taken
  rw [← splicePoint_mutated mutated] at inside
  intro kept
  have placed := (pkgbaseAt_iff _ customName position index).mpr inside
  rcases kept.outside position index placed marker _ point with front | behind
  · omega
  · omega

end

theorem pkgbaseKept_unpatched (pkgbuild : String) (origEntries patches : List String)
    (customName : String) (point : splicePoint pkgbuild "prepare()" = none) :
    PkgbaseKept pkgbuild origEntries patches customName := by
  have same : insertPatchSourceArray pkgbuild origEntries patches = pkgbuild := by
    rw [insertPatchSourceArray, insertBeforeMarker_splicePoint, point]
  refine ⟨?_, ?_, ?_⟩
  · rw [same]
  · intro position index placed
    rw [same] at placed
    exact ⟨position, index, placed, by simp only [movedPosition, point]⟩
  · intro position index _ marker cut again
    rw [point] at again
    cases again

/-- The pkgbase line is kept where it belongs exactly if no entry takes it into the array. -/
theorem pkgbaseKept_iff (pkgbuild : String) (origEntries patches : List String)
    (customName : String) :
    PkgbaseKept pkgbuild origEntries patches customName ↔
      ¬EntryTaken pkgbuild origEntries patches := by
  cases point : splicePoint pkgbuild "prepare()" with
  | none =>
      refine iff_of_true (pkgbaseKept_unpatched pkgbuild origEntries patches customName point) ?_
      rintro ⟨marker, cut, again, _⟩
      rw [point] at again
      cases again
  | some found =>
      obtain ⟨marker, cut⟩ := found
      obtain ⟨before, after, spelled, rfl, mutated⟩ :=
        insertPatchSourceArray_toList pkgbuild origEntries patches marker cut point
      rw [entryTaken_iff spelled point]
      cases front : Scan.find majorMarker before with
      | some position =>
          have here : (Scan.find majorMarker before).isSome = true := by rw [front]; rfl
          exact iff_of_true (pkgbaseKept_front customName spelled point mutated here) (by simp)
      | none =>
          by_cases taken : majorMarker <:+: newline :: arrayLines origEntries patches
          · exact iff_of_false (not_pkgbaseKept_inside customName point mutated front taken)
              (not_not.mpr ⟨rfl, taken⟩)
          · exact iff_of_true (pkgbaseKept_behind customName spelled point mutated front taken)
              fun both => taken both.2

namespace Sample

def unmarkedPkgbuild : String := "pkgver=6.14.1\n\nprepare() \x7b :; \x7d\n"

def namedPatch : String := "file:///home/u/_major=6.patch"

end Sample

/-- A PKGBUILD without `_major=` gets the line into the array because of the name of a patch. -/
theorem namedPatch_redirects :
    spliceSafeCustomName "linux-mine" = true ∧
      (∀ patch ∈ [Sample.namedPatch], spliceUnsafeIndex patch = none) ∧
      insertCustomPkgbase Sample.unmarkedPkgbuild "linux-mine" = Sample.unmarkedPkgbuild ∧
      insertCustomPkgbase (insertPatchSourceArray Sample.unmarkedPkgbuild [] [Sample.namedPatch])
          "linux-mine" =
        "pkgver=6.14.1\nsource=(" ++ "\n\npkgbase=\"linux-mine\"" ++
          "\n\"file:///home/u/_major=6.patch\")\n" ++ "\nprepare() \x7b :; \x7d\n" ∧
      ¬PkgbaseKept Sample.unmarkedPkgbuild [] [Sample.namedPatch] "linux-mine" := by
  refine ⟨by decide, by decide, by decide, by decide, ?_⟩
  intro kept
  exact absurd (kept.inserted.mp (by decide)) (by decide)

end KernelManager
