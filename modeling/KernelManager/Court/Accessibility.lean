import KernelManager.Court.Observation

/-! The oracle's observation, taken out of the dump of its accessibility tree. -/

namespace KernelManager

open Json (Value Items Fields)

def isTreeRole (role : String) : Bool := role ∈ ["65", "66", "TREE", "TREE_TABLE"]

def isRowContainerRole (role : String) : Bool :=
  role ∈ ["90", "91", "TABLE_ROW", "TREE_ITEM", "ROW", "LIST_ITEM"]

def isCellRole (role : String) : Bool := role ∈ ["56", "TABLE_CELL"]

def isHeaderRole (role : String) : Bool :=
  role ∈ ["57", "10", "TABLE_COLUMN_HEADER", "COLUMN_HEADER"]

def isDialogRole (role : String) : Bool := role ∈ ["2", "16", "69", "ALERT", "DIALOG", "WINDOW"]

def roleOf (node : Value) : String := ((node.strAt "role").or (node.strAt "role_name")).getD ""

def childrenOf (node : Value) : List Value := (node.arrayAt "children").getD []

def textAt (field : String) (node : Value) : String := (node.strAt field).getD ""

def hasState (node : Value) (state : String) : Bool :=
  ((node.arrayAt "states").getD []).any fun entry => decide (entry.asStr = some state)

def gatherTexts : Nat → Value → List String
  | 0, _ => []
  | depth + 1, node =>
      (childrenOf node).flatMap fun child =>
        [textAt "name" child, textAt "text" child].filter (!·.isEmpty) ++ gatherTexts depth child

/-- Lower case as far as the ASCII needles can tell: only the Kelvin sign joins the letters. -/
def lowered (text : String) : String :=
  String.ofList (text.toList.map fun symbol =>
    if symbol.toNat = 0x212A then 'k' else symbol.toLower)

def longest (texts : List String) : String :=
  texts.foldl (fun best text => if best.utf8ByteSize ≤ text.utf8ByteSize then text else best) ""

def withDialog (node : Value) (observation : Observation) : Observation :=
  if isDialogRole (roleOf node) then
    let texts := [textAt "text" node, textAt "name" node].filter (!·.isEmpty) ++ gatherTexts 4 node
    let hay := lowered (String.intercalate " " texts)
    let dialog := longest texts
    if (contains hay "kernel" || contains hay "pacman" || contains hay "no kernels") &&
        !dialog.isEmpty && !observation.dialogs.contains dialog then
      { observation with dialogs := observation.dialogs ++ [dialog] }
    else observation
  else observation

structure ColumnLayout where
  hasCheckbox : Bool
  chunk : Nat
  deriving DecidableEq, Repr

def columnLayout (tree : Value) (cells : List Value) : ColumnLayout :=
  match (childrenOf tree).filter fun child => isHeaderRole (roleOf child) with
  | header :: headers =>
      let first := lowered (textAt "text" header)
      { hasCheckbox := first.isEmpty || contains first "choos" || contains first "check" ||
          contains first "select"
        chunk := headers.length + 1 }
  | [] =>
      { hasCheckbox := (cells.head?.map fun cell => hasState cell "checkable").getD false
        chunk := 4 }

/-- A cell starts a row if it can be checked, or joins the last row while that has room. -/
def placeCell (chunk : Nat) (rows : List (List Value)) (cell : Value) : List (List Value) :=
  let last := rows.getLast?
  if hasState cell "checkable" && (last.map fun row => !row.isEmpty).getD true then rows ++ [[cell]]
  else
    match last with
    | some row => if row.length < chunk then rows.dropLast ++ [row ++ [cell]] else rows
    | none => rows

def flatRows (cells : List Value) (chunk : Nat) : List (List Value) :=
  let rows := cells.foldl (placeCell chunk) []
  if rows.isEmpty then cells.toChunks chunk else rows

def nodeChecked (node : Value) : Bool :=
  hasState node "checked" || (childrenOf node).any fun child => hasState child "checked"

def rowFromFlat (cells : List Value) (layout : ColumnLayout) : Option KernelRowObservable :=
  let data := if layout.hasCheckbox then 1 else 0
  let cellField := fun index field => ((cells[index]?).map (textAt field)).getD ""
  let named := cellField data "name"
  let raw := if named.isEmpty then cellField data "text" else named
  let version := cellField (data + 1) "text"
  let category := cellField (data + 2) "text"
  if raw.isEmpty && version.isEmpty && category.isEmpty then none
  else
    let checked := layout.hasCheckbox && (cells.head?.map nodeChecked).getD false
    some { raw, version, category, checked, companions := none }

def knownCategories : List String :=
  ["lto optimized", "longterm", "zen-kernel", "hardened kernel", "handheld kernel",
    "server kernel", "next release", "mainline branch", "master branch", "release candidate",
    "stable"]

def cellTexts (node : Value) : List String :=
  (childrenOf node).foldl (fun out child =>
    if (child.strAt "role").getD "" ∈ ["CHECK_BOX", "CHECKBOX"] then out
    else
      let text := textAt "text" child
      let withText := if text.isEmpty then out else out ++ [text]
      let name := textAt "name" child
      if name.isEmpty || withText.contains name then withText else withText ++ [name])
    ([textAt "text" node].filter (!·.isEmpty))

structure RecognisedTexts where
  version : Option String := none
  category : Option String := none
  name : Option String := none

def looksLikeVersion (text : String) : Bool :=
  text.toList.any Char.isDigit &&
    (contains text "-" || contains text "." ||
      startsWith text (String.singleton downgradeMarker) ||
      startsWith text (String.singleton updateMarker))

def recognise (texts : RecognisedTexts) (text : String) : RecognisedTexts :=
  if looksLikeVersion text && texts.version.isNone then { texts with version := some text }
  else if knownCategories.contains text && texts.category.isNone then
    { texts with category := some text }
  else if texts.name.isNone then { texts with name := some text }
  else texts

def rowFromNode (node : Value) : Option KernelRowObservable :=
  match cellTexts node with
  | [] => none
  | texts =>
      let recognised := texts.foldl recognise {}
      some {
        raw := recognised.name.getD ""
        version := recognised.version.getD ""
        category := recognised.category.getD ""
        checked := nodeChecked node
        companions := none }

def treeRows (tree : Value) : List KernelRowObservable :=
  let children := childrenOf tree
  let cells := children.filter fun child => isCellRole (roleOf child)
  let flat :=
    if cells.isEmpty then []
    else
      let layout := columnLayout tree cells
      (flatRows cells layout.chunk).filterMap fun row => rowFromFlat row layout
  flat ++ (children.filter fun child => isRowContainerRole (roleOf child)).filterMap rowFromNode

def withRows (node : Value) (observation : Observation) : Observation :=
  if isTreeRole (roleOf node) then
    { observation with rows := observation.rows ++ treeRows node }
  else observation

def descends (node child : Value) : Bool :=
  !isTreeRole (roleOf node) ||
    (!isRowContainerRole (roleOf child) && !isCellRole (roleOf child) &&
      !isHeaderRole (roleOf child))

mutual

def collectObservations (node : Value) (observation : Observation) : Observation :=
  let here := withRows node (withDialog node observation)
  match node with
  | .object fields => collectChildren (descends node) fields here
  | _ => here

def collectChildren (descend : Value → Bool) (fields : Fields) (observation : Observation) :
    Observation :=
  match fields with
  | .nil => observation
  | .cons key value rest =>
      if key = "children" then
        match value with
        | .array items => collectItems descend items observation
        | _ => observation
      else collectChildren descend rest observation

def collectItems (descend : Value → Bool) (items : Items) (observation : Observation) :
    Observation :=
  match items with
  | .nil => observation
  | .cons first rest =>
      collectItems descend rest
        (if descend first then collectObservations first observation else observation)

end

/-- The tree is wrapped in a document, but a bare tree will do. -/
def oracleObservation (state : Value) : Observation :=
  collectObservations ((state.get "tree").getD state) { rows := [], dialogs := [] }

def KeptByNodes (Kept : Observation → Prop) : Prop :=
  ∀ node observation, Kept observation → Kept (withRows node (withDialog node observation))

section

variable {Kept : Observation → Prop}

mutual

theorem collectObservations_keeps (step : KeptByNodes Kept) (node : Value)
    (observation : Observation) (before : Kept observation) :
    Kept (collectObservations node observation) := by
  have here := step node observation before
  cases node with
  | object fields =>
      rw [collectObservations]
      exact collectChildren_keeps step _ fields _ here
  | null | bool | integer | real | string | array =>
      rw [collectObservations]
      · exact here
      · intro fields same
        cases same

theorem collectChildren_keeps (step : KeptByNodes Kept) (descend : Value → Bool)
    (fields : Fields) (observation : Observation) (before : Kept observation) :
    Kept (collectChildren descend fields observation) := by
  cases fields with
  | nil =>
      rw [collectChildren]
      exact before
  | cons key value rest =>
      unfold collectChildren
      by_cases children : key = "children"
      · rw [if_pos children]
        cases value with
        | array items => exact collectItems_keeps step descend items observation before
        | null | bool | integer | real | string | object => exact before
      · rw [if_neg children]
        exact collectChildren_keeps step descend rest observation before

theorem collectItems_keeps (step : KeptByNodes Kept) (descend : Value → Bool) (items : Items)
    (observation : Observation) (before : Kept observation) :
    Kept (collectItems descend items observation) := by
  cases items with
  | nil =>
      rw [collectItems]
      exact before
  | cons first rest =>
      rw [collectItems]
      refine collectItems_keeps step descend rest _ ?_
      split
      · exact collectObservations_keeps step first observation before
      · exact before

end

end

theorem treeRows_companions (tree : Value) (row : KernelRowObservable)
    (member : row ∈ treeRows tree) : row.companions = none := by
  have flat : ∀ layout cells, rowFromFlat cells layout = some row → row.companions = none := by
    intro layout cells built
    simp only [rowFromFlat, Option.ite_none_left_eq_some, Option.some.injEq] at built
    obtain ⟨_, rfl⟩ := built
    rfl
  have nested : ∀ node, rowFromNode node = some row → row.companions = none := by
    intro node built
    unfold rowFromNode at built
    split at built
    · cases built
    · obtain rfl := Option.some.inj built
      rfl
  rcases List.mem_append.mp member with cells | nodes
  · split at cells
    · cases cells
    · obtain ⟨row, _, built⟩ := List.mem_filterMap.mp cells
      exact flat _ row built
  · obtain ⟨node, _, built⟩ := List.mem_filterMap.mp nodes
    exact nested node built

theorem withDialog_rows (node : Value) (observation : Observation) :
    (withDialog node observation).rows = observation.rows := by
  simp only [withDialog]
  split
  · split <;> rfl
  · rfl

theorem withDialog_dialogs (node : Value) (observation : Observation)
    (before : observation.dialogs.Nodup) : (withDialog node observation).dialogs.Nodup := by
  simp only [withDialog]
  split
  · split
    · rename_i fresh
      simp only [Bool.and_eq_true, Bool.not_eq_true', List.contains_eq_mem,
        decide_eq_false_iff_not] at fresh
      rw [List.nodup_append]
      refine ⟨before, List.nodup_singleton _, ?_⟩
      intro dialog inside other here same
      rw [same, List.mem_singleton.mp here] at inside
      exact fresh.2 inside
    · exact before
  · exact before

theorem withRows_dialogs (node : Value) (observation : Observation) :
    (withRows node observation).dialogs = observation.dialogs := by
  unfold withRows
  split <;> rfl

theorem oracleObservation_companions (state : Value) (row : KernelRowObservable)
    (member : row ∈ (oracleObservation state).rows) : row.companions = none := by
  have step : KeptByNodes fun observation =>
      ∀ row ∈ observation.rows, row.companions = none := by
    intro node observation before row inside
    unfold withRows at inside
    split at inside
    · rcases List.mem_append.mp inside with earlier | here
      · rw [withDialog_rows] at earlier
        exact before row earlier
      · exact treeRows_companions node row here
    · rw [withDialog_rows] at inside
      exact before row inside
  exact collectObservations_keeps step _ _ (fun row inside => by cases inside) row member

theorem oracleObservation_dialogs (state : Value) : (oracleObservation state).dialogs.Nodup := by
  have step : KeptByNodes fun observation => observation.dialogs.Nodup := by
    intro node observation before
    rw [withRows_dialogs]
    exact withDialog_dialogs node observation before
  exact collectObservations_keeps step _ _ List.nodup_nil

end KernelManager
