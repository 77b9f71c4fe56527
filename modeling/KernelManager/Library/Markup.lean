import Mathlib.Data.List.Basic

/-! Element trees, and two readings of the text at the start of an element. -/

namespace Markup

mutual

inductive Node
  | element (tag : String) (attributes : List (String × String)) (children : Nodes)
  | text (content : String)
  | comment (content : String)

inductive Nodes
  | nil
  | cons (first : Node) (rest : Nodes)

end

def Nodes.toList : Nodes → List Node
  | .nil => []
  | .cons first rest => first :: rest.toList

def Nodes.ofList : List Node → Nodes
  | [] => .nil
  | first :: rest => .cons first (Nodes.ofList rest)

@[simp] theorem Nodes.toList_ofList (nodes : List Node) : (Nodes.ofList nodes).toList = nodes := by
  induction nodes with
  | nil => rfl
  | cons first rest ih => rw [Nodes.ofList, Nodes.toList, ih]

mutual

def Node.descendants : Node → List Node
  | .element tag attributes children =>
      .element tag attributes children :: children.descendants
  | .text content => [.text content]
  | .comment content => [.comment content]

def Nodes.descendants : Nodes → List Node
  | .nil => []
  | .cons first rest => first.descendants ++ rest.descendants

end

namespace Node

def children : Node → List Node
  | element _ _ children => children.toList
  | text _ => []
  | comment _ => []

def named (tag : String) : Node → Bool
  | element own _ _ => own = tag
  | text _ => false
  | comment _ => false

def isElement : Node → Bool
  | element .. => true
  | text _ => false
  | comment _ => false

def attributeValue (name : String) : Node → Option String
  | element _ attributes _ => (attributes.find? (·.1 = name)).map (·.2)
  | text _ => none
  | comment _ => none

def child (tag : String) (node : Node) : Option Node := node.children.find? (named tag)

def opening (node : Node) : List Node := node.children.takeWhile (!·.isElement)

/-- The text of a reader that keeps the comments: of the first child, when that is a text. -/
def firstText (node : Node) : Option String :=
  match node.children with
  | .text content :: _ => some content
  | _ => none

/-- The text of a reader that drops the comments: all before the first element, joined. -/
def joinedText (node : Node) : Option String :=
  let joined := node.opening.foldl (fun joined part =>
    match part with
    | .text content => joined ++ content
    | _ => joined) ""
  if joined = "" then none else some joined

/-- Nothing stands before the first element, or one text that is not empty. -/
def Plain (node : Node) : Prop :=
  match node.opening with
  | [] => True
  | [.text own] => own ≠ ""
  | _ => False

instance (node : Node) : Decidable node.Plain := by
  unfold Plain
  split <;> infer_instance

theorem plain_iff (node : Node) :
    node.Plain ↔ node.opening = [] ∨ ∃ own, node.opening = [.text own] ∧ own ≠ "" := by
  rw [Plain]
  split
  · rename_i empty
    simp [empty]
  · rename_i own single
    simp [single]
  · rename_i nonempty other
    constructor
    · exact False.elim
    · rintro (empty | ⟨own, single, -⟩)
      · exact nonempty empty
      · exact other own single

theorem firstText_opening (node : Node) :
    node.firstText = match node.opening with
      | .text content :: _ => some content
      | _ => none := by
  simp only [firstText, opening]
  cases node.children with
  | nil => rfl
  | cons first rest => cases first <;> rfl

theorem joinedText_plain (node : Node) (plain : node.Plain) :
    node.joinedText = node.firstText := by
  rw [firstText_opening]
  rcases node.plain_iff.mp plain with empty | ⟨own, single, nonempty⟩
  · simp only [joinedText, empty, List.foldl_nil, ↓reduceIte]
  · simp only [joinedText, single, List.foldl_cons, List.foldl_nil, String.empty_append,
      if_neg nonempty]

theorem firstText_nonempty (node : Node) (plain : node.Plain) : node.firstText ≠ some "" := by
  rw [firstText_opening]
  rcases node.plain_iff.mp plain with empty | ⟨own, single, nonempty⟩
  · simp [empty]
  · simpa [single] using nonempty

end Node

end Markup
