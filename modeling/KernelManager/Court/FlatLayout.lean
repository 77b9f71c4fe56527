import KernelManager.Court.Accessibility

/-! What the extractor makes of a tree that Qt lays out flat. -/

namespace KernelManager

open Json (Value Items Fields)

structure FlatRow where
  raw : String
  version : String
  category : String
  checked : Bool
  shown : ¬(raw.isEmpty ∧ version.isEmpty ∧ category.isEmpty)

def FlatRow.observable (row : FlatRow) : KernelRowObservable where
  raw := row.raw
  version := row.version
  category := row.category
  checked := row.checked
  companions := none

structure IsCheckboxCell (checked : Bool) (cell : Value) : Prop where
  role : isCellRole (roleOf cell) = true
  checkable : hasState cell "checkable" = true
  shows : hasState cell "checked" = checked
  below : ∀ child ∈ childrenOf cell, hasState child "checked" = false

structure IsDataCell (text : String) (cell : Value) : Prop where
  role : isCellRole (roleOf cell) = true
  plain : hasState cell "checkable" = false
  name : textAt "name" cell = text
  text : textAt "text" cell = text

inductive RowCells (row : FlatRow) : List Value → Prop
  | four (box raw version category : Value) (checkbox : IsCheckboxCell row.checked box)
      (name : IsDataCell row.raw raw) (number : IsDataCell row.version version)
      (kind : IsDataCell row.category category) : RowCells row [box, raw, version, category]

/-- Four column headers, the first of which says Choose, and then the cells of row after row. -/
structure FlatLayout (tree : Value) (rows : List FlatRow) : Prop where
  role : isTreeRole (roleOf tree) = true
  laidOut : ∃ choose headers groups, childrenOf tree = choose :: headers ++ groups.flatten ∧
    headers.length = 3 ∧ textAt "text" choose = "Choose" ∧
    (∀ header ∈ choose :: headers, isHeaderRole (roleOf header) = true) ∧
    List.Forall₂ RowCells rows groups

/-! The roles are apart. -/

theorem isTreeRole_not_dialog {role : String} (tree : isTreeRole role = true) :
    isDialogRole role = false := by
  have listed : role ∈ ["65", "66", "TREE", "TREE_TABLE"] := by simpa [isTreeRole] using tree
  have apart : ∀ role ∈ ["65", "66", "TREE", "TREE_TABLE"], isDialogRole role = false := by decide
  exact apart role listed

theorem isHeaderRole_apart {role : String} (header : isHeaderRole role = true) :
    isCellRole role = false ∧ isRowContainerRole role = false := by
  have listed : role ∈ ["57", "10", "TABLE_COLUMN_HEADER", "COLUMN_HEADER"] := by
    simpa [isHeaderRole] using header
  have apart : ∀ role ∈ ["57", "10", "TABLE_COLUMN_HEADER", "COLUMN_HEADER"],
      isCellRole role = false ∧ isRowContainerRole role = false := by decide
  exact apart role listed

theorem isCellRole_apart {role : String} (cell : isCellRole role = true) :
    isHeaderRole role = false ∧ isRowContainerRole role = false := by
  have listed : role ∈ ["56", "TABLE_CELL"] := by simpa [isCellRole] using cell
  have apart : ∀ role ∈ ["56", "TABLE_CELL"],
      isHeaderRole role = false ∧ isRowContainerRole role = false := by decide
  exact apart role listed

/-! A row starts at its checkbox and is filled by the cells behind it. -/

theorem placeCell_starts (chunk : Nat) (rows : List (List Value)) (cell : Value)
    (checkable : hasState cell "checkable" = true) (filled : ∀ row ∈ rows, row ≠ []) :
    placeCell chunk rows cell = rows ++ [[cell]] := by
  have ready : (rows.getLast?.map fun row => !row.isEmpty).getD true = true := by
    cases last : rows.getLast? with
    | none => rfl
    | some row =>
        have nonempty := filled row (List.mem_of_getLast? last)
        simpa using nonempty
  simp only [placeCell, checkable, ready, Bool.and_self, ↓reduceIte]

theorem placeCell_joins (chunk : Nat) (rows : List (List Value)) (row : List Value) (cell : Value)
    (plain : hasState cell "checkable" = false) (room : row.length < chunk) :
    placeCell chunk (rows ++ [row]) cell = rows ++ [row ++ [cell]] := by
  simp only [placeCell, plain, Bool.false_and, Bool.false_eq_true, ↓reduceIte,
    List.getLast?_concat, room, List.dropLast_concat]

theorem RowCells.placed {row : FlatRow} {cells : List Value} (drawn : RowCells row cells)
    (rows : List (List Value)) (filled : ∀ row ∈ rows, row ≠ []) :
    cells.foldl (placeCell 4) rows = rows ++ [cells] := by
  obtain ⟨box, raw, version, category, checkbox, name, number, kind⟩ := drawn
  rw [List.foldl_cons, placeCell_starts 4 rows box checkbox.checkable filled, List.foldl_cons,
    placeCell_joins 4 rows [box] raw name.plain (by simp), List.foldl_cons,
    placeCell_joins 4 rows _ version number.plain (by simp), List.foldl_cons,
    placeCell_joins 4 rows _ category kind.plain (by simp)]
  rfl

theorem RowCells.nonempty {row : FlatRow} {cells : List Value} (drawn : RowCells row cells) :
    cells ≠ [] := by
  cases drawn
  exact List.cons_ne_nil _ _

theorem RowCells.areCells {row : FlatRow} {cells : List Value} (drawn : RowCells row cells) :
    ∀ cell ∈ cells, isCellRole (roleOf cell) = true := by
  obtain ⟨box, raw, version, category, checkbox, name, number, kind⟩ := drawn
  simp [checkbox.role, name.role, number.role, kind.role]

theorem flatten_areCells {rows : List FlatRow} {groups : List (List Value)}
    (drawn : List.Forall₂ RowCells rows groups) :
    ∀ cell ∈ groups.flatten, isCellRole (roleOf cell) = true := by
  induction drawn with
  | nil => simp
  | cons first _ ih =>
      intro cell member
      rcases List.mem_append.mp member with here | later
      · exact first.areCells cell here
      · exact ih cell later

theorem foldl_placeCell {rows : List FlatRow} {groups : List (List Value)}
    (drawn : List.Forall₂ RowCells rows groups) (before : List (List Value))
    (filled : ∀ row ∈ before, row ≠ []) :
    groups.flatten.foldl (placeCell 4) before = before ++ groups := by
  induction drawn generalizing before with
  | nil => simp
  | cons first _ ih =>
      rw [List.flatten_cons, List.foldl_append, first.placed before filled, ih]
      · simp
      · intro row member
        rcases List.mem_append.mp member with earlier | here
        · exact filled row earlier
        · rw [List.mem_singleton.mp here]
          exact first.nonempty

theorem flatRows_groups {rows : List FlatRow} {groups : List (List Value)}
    (drawn : List.Forall₂ RowCells rows groups) : flatRows groups.flatten 4 = groups := by
  have placed := foldl_placeCell drawn [] (by simp)
  rw [List.nil_append] at placed
  simp only [flatRows, placed]
  cases groups with
  | nil => rfl
  | cons first groups => rfl

theorem IsCheckboxCell.nodeChecked {checked : Bool} {cell : Value}
    (checkbox : IsCheckboxCell checked cell) : nodeChecked cell = checked := by
  have below : ((childrenOf cell).any fun child => hasState child "checked") = false := by
    rw [List.any_eq_false]
    intro child member
    simp [checkbox.below child member]
  rw [KernelManager.nodeChecked, checkbox.shows, below, Bool.or_false]

theorem RowCells.read {row : FlatRow} {cells : List Value} (drawn : RowCells row cells) :
    rowFromFlat cells { hasCheckbox := true, chunk := 4 } = some row.observable := by
  obtain ⟨box, raw, version, category, checkbox, name, number, kind⟩ := drawn
  have named : (if row.raw.isEmpty then row.raw else row.raw) = row.raw := ite_self _
  have shown : (row.raw.isEmpty && row.version.isEmpty && row.category.isEmpty) = false := by
    have some_shown := row.shown
    simpa [and_assoc] using some_shown
  simp only [rowFromFlat, ↓reduceIte, List.getElem?_cons_succ, List.getElem?_cons_zero,
    Option.map_some, Option.getD_some, name.name, name.text, number.text, kind.text, named, shown,
    Bool.false_eq_true, List.head?_cons, checkbox.nodeChecked, Bool.true_and, FlatRow.observable]

theorem filterMap_rowFromFlat {rows : List FlatRow} {groups : List (List Value)}
    (drawn : List.Forall₂ RowCells rows groups) :
    groups.filterMap (rowFromFlat · { hasCheckbox := true, chunk := 4 }) =
      rows.map FlatRow.observable := by
  induction drawn with
  | nil => rfl
  | cons first _ ih => simp only [List.filterMap_cons, first.read, ih, List.map_cons]

theorem columnLayout_choose {tree choose : Value} {headers cells : List Value}
    (three : headers.length = 3) (first : textAt "text" choose = "Choose")
    (found : ((childrenOf tree).filter fun child => isHeaderRole (roleOf child)) =
      choose :: headers) :
    columnLayout tree cells = { hasCheckbox := true, chunk := 4 } := by
  have names : contains (lowered "Choose") "choos" = true := by decide
  simp only [columnLayout, found, first, names, three, Bool.or_true, Bool.true_or]

theorem treeRows_flat {tree : Value} {rows : List FlatRow} (layout : FlatLayout tree rows) :
    treeRows tree = rows.map FlatRow.observable := by
  obtain ⟨choose, headers, groups, laidOut, three, first, areHeaders, drawn⟩ := layout.laidOut
  have areCells := flatten_areCells drawn
  have cells : ((childrenOf tree).filter fun child => isCellRole (roleOf child)) =
      groups.flatten := by
    rw [laidOut, List.filter_append, List.filter_eq_nil_iff.mpr, List.nil_append,
      List.filter_eq_self.mpr areCells]
    intro header member
    simp [(isHeaderRole_apart (areHeaders header member)).1]
  have found : ((childrenOf tree).filter fun child => isHeaderRole (roleOf child)) =
      choose :: headers := by
    rw [laidOut, List.filter_append, List.filter_eq_self.mpr areHeaders, List.filter_eq_nil_iff.mpr,
      List.append_nil]
    intro cell member
    simp [(isCellRole_apart (areCells cell member)).1]
  have containers : ((childrenOf tree).filter fun child => isRowContainerRole (roleOf child)) =
      [] := by
    rw [laidOut, List.filter_eq_nil_iff]
    intro child member
    rcases List.mem_append.mp member with header | cell
    · simp [(isHeaderRole_apart (areHeaders child header)).2]
    · simp [(isCellRole_apart (areCells child cell)).2]
  simp only [treeRows, cells, containers, List.filterMap_nil, List.append_nil,
    columnLayout_choose three first found, flatRows_groups drawn, filterMap_rowFromFlat drawn]
  split
  · rename_i empty
    have none : groups = [] := by
      rw [← flatRows_groups drawn, List.isEmpty_iff.mp empty]
      rfl
    subst none
    cases drawn
    rfl
  · rfl

/-! The walk ends at the tree. -/

theorem collectItems_stays (descend : Value → Bool) (items : Items) (observation : Observation)
    (stays : ∀ child ∈ items.toList, descend child = false) :
    collectItems descend items observation = observation := by
  cases items with
  | nil => rw [collectItems]
  | cons first rest =>
      have here : descend first = false := stays first (by simp [Items.toList])
      rw [collectItems, here]
      exact collectItems_stays descend rest observation
        fun child member => stays child (by simp [Items.toList, member])

theorem collectChildren_stays (descend : Value → Bool) (fields : Fields)
    (observation : Observation)
    (stays : ∀ child ∈ childrenOf (.object fields), descend child = false) :
    collectChildren descend fields observation = observation := by
  cases fields with
  | nil => rw [collectChildren]
  | cons key value rest =>
      unfold collectChildren
      by_cases children : key = "children"
      · rw [if_pos children]
        cases value with
        | array items =>
            apply collectItems_stays
            intro child member
            apply stays
            simpa [childrenOf, Value.arrayAt, Value.get, Fields.find, children, Value.asArray]
              using member
        | null | bool | integer | real | string | object => rfl
      · rw [if_neg children]
        apply collectChildren_stays
        intro child member
        apply stays
        simpa [childrenOf, Value.arrayAt, Value.get, Fields.find, children] using member

theorem collectObservations_stays (node : Value) (observation : Observation)
    (stays : ∀ child ∈ childrenOf node, descends node child = false) :
    collectObservations node observation = withRows node (withDialog node observation) := by
  cases node with
  | object fields =>
      rw [collectObservations]
      exact collectChildren_stays _ fields _ stays
  | null | bool | integer | real | string | array =>
      rw [collectObservations]
      intro fields same
      cases same

theorem FlatLayout.stays {tree : Value} {rows : List FlatRow} (layout : FlatLayout tree rows) :
    ∀ child ∈ childrenOf tree, descends tree child = false := by
  obtain ⟨choose, headers, groups, laidOut, _, _, areHeaders, drawn⟩ := layout.laidOut
  intro child member
  rw [laidOut] at member
  rw [descends, layout.role]
  rcases List.mem_append.mp member with header | cell
  · simp [areHeaders child header]
  · simp [flatten_areCells drawn child cell]

/-! The tree that Qt dumps for a list of rows. -/

def flatNode (role roleName text : String) (states : List String) (children : List Value) : Value :=
  .objectOf [("children", .arrayOf children), ("name", .string text), ("role", .string role),
    ("role_name", .string roleName), ("states", .arrayOf (states.map .string)),
    ("text", .string text)]

def flatCell (text : String) (checkable checked : Bool) : Value :=
  flatNode "56" "TABLE_CELL" text
    (["enabled", "focusable", "sensitive"] ++ (if checkable then ["checkable"] else []) ++
      if checked then ["checked"] else []) []

def flatHeader (text : String) : Value := flatNode "57" "TABLE_COLUMN_HEADER" text ["enabled"] []

def FlatRow.cells (row : FlatRow) : List Value :=
  [flatCell "" true row.checked, flatCell row.raw false false, flatCell row.version false false,
    flatCell row.category false false]

def flatTree (rows : List FlatRow) : Value :=
  flatNode "65" "TREE" "" ["enabled"]
    (["Choose", "PkgName", "Version", "Category"].map flatHeader ++
      (rows.map FlatRow.cells).flatten)

section

variable (role roleName text : String) (states : List String) (children : List Value)

@[simp] theorem roleOf_flatNode : roleOf (flatNode role roleName text states children) = role := by
  rfl

@[simp] theorem textAt_flatNode :
    textAt "name" (flatNode role roleName text states children) = text ∧
      textAt "text" (flatNode role roleName text states children) = text := by
  exact ⟨rfl, rfl⟩

@[simp] theorem childrenOf_flatNode :
    childrenOf (flatNode role roleName text states children) = children := by
  have array : (flatNode role roleName text states children).get "children" =
      some (.arrayOf children) := rfl
  rw [childrenOf, Value.arrayAt, array]
  exact Items.toList_ofList children

@[simp] theorem hasState_flatNode (state : String) :
    hasState (flatNode role roleName text states children) state = decide (state ∈ states) := by
  have array : (flatNode role roleName text states children).get "states" =
      some (.arrayOf (states.map .string)) := rfl
  have listed : (Value.arrayOf (states.map .string)).asArray = some (states.map .string) :=
    congrArg some (Items.toList_ofList _)
  rw [hasState, Value.arrayAt, array, Option.bind_some, listed, Option.getD_some, List.any_map]
  simp [Function.comp_def, Value.asStr, List.any_eq]

end

theorem flatCell_checkbox (checked : Bool) : IsCheckboxCell checked (flatCell "" true checked) where
  role := by simp [flatCell, isCellRole]
  checkable := by simp [flatCell]
  shows := by cases checked <;> simp [flatCell]
  below := by simp [flatCell]

theorem flatCell_data (text : String) : IsDataCell text (flatCell text false false) where
  role := by simp [flatCell, isCellRole]
  plain := by simp [flatCell]
  name := by simp [flatCell]
  text := by simp [flatCell]

theorem flatTree_layout (rows : List FlatRow) : FlatLayout (flatTree rows) rows where
  role := by simp [flatTree, isTreeRole]
  laidOut := by
    refine ⟨flatHeader "Choose", ["PkgName", "Version", "Category"].map flatHeader,
      rows.map FlatRow.cells, childrenOf_flatNode _ _ _ _ _, rfl, rfl, ?_, ?_⟩
    · intro header member
      rw [← List.map_cons] at member
      obtain ⟨text, _, rfl⟩ := List.mem_map.mp member
      simp [flatHeader, isHeaderRole]
    · rw [List.forall₂_map_right_iff, List.forall₂_same]
      intro row _
      exact .four _ _ _ _ (flatCell_checkbox _) (flatCell_data _) (flatCell_data _)
        (flatCell_data _)

namespace Sample

def kernelRows : List FlatRow :=
  [{ raw := "cachyos/linux-cachyos-bmq", version := "7.0.11-1", category := "stable"
     checked := false, shown := by decide },
    { raw := "cachyos/linux-cachyos", version := "7.1.8-1", category := "stable", checked := true
      shown := by decide }]

end Sample

/-- Of a tree laid out flat the extractor observes exactly its rows. -/
theorem oracleObservation_flat (state tree : Value) (rows : List FlatRow)
    (holds : (state.get "tree").getD state = tree) (layout : FlatLayout tree rows) :
    oracleObservation state = { rows := rows.map FlatRow.observable, dialogs := [] } := by
  rw [oracleObservation, holds, collectObservations_stays tree _ layout.stays, withRows,
    if_pos layout.role, treeRows_flat layout, withDialog, isTreeRole_not_dialog layout.role]
  rfl

theorem kernelRows_observed :
    let state := Value.objectOf [("app_name", .string "cachyos-kernel-manager"),
      ("tree", flatTree Sample.kernelRows)]
    oracleObservation state =
      { rows := Sample.kernelRows.map FlatRow.observable, dialogs := [] } :=
  oracleObservation_flat _ (flatTree Sample.kernelRows) Sample.kernelRows rfl
    (flatTree_layout Sample.kernelRows)

end KernelManager
