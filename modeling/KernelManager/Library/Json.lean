import Mathlib.Data.List.Basic

/-! JSON documents: their values, the access to them, and maps over their strings. -/

namespace Json

mutual

/-- A value; an object lists its fields in the order of their keys. -/
inductive Value
  | null
  | bool (value : Bool)
  | integer (value : Int)
  | real (text : String)
  | string (text : String)
  | array (items : Items)
  | object (fields : Fields)
  deriving DecidableEq, Repr

inductive Items
  | nil
  | cons (first : Value) (rest : Items)
  deriving DecidableEq, Repr

inductive Fields
  | nil
  | cons (key : String) (value : Value) (rest : Fields)
  deriving DecidableEq, Repr

end

def Items.toList : Items → List Value
  | .nil => []
  | .cons first rest => first :: rest.toList

def Items.ofList : List Value → Items
  | [] => .nil
  | first :: rest => .cons first (Items.ofList rest)

def Fields.toList : Fields → List (String × Value)
  | .nil => []
  | .cons key value rest => (key, value) :: rest.toList

def Fields.ofList : List (String × Value) → Fields
  | [] => .nil
  | (key, value) :: rest => .cons key value (Fields.ofList rest)

def Fields.find (key : String) : Fields → Option Value
  | .nil => none
  | .cons first value rest => if first = key then some value else rest.find key

theorem Items.ofList_inj (left right : List Value) :
    Items.ofList left = Items.ofList right ↔ left = right := by
  induction left generalizing right with
  | nil => cases right <;> simp [Items.ofList]
  | cons first rest ih => cases right <;> simp [Items.ofList, ih]

@[simp] theorem Items.toList_ofList (items : List Value) :
    (Items.ofList items).toList = items := by
  induction items with
  | nil => rfl
  | cons first rest ih => rw [Items.ofList, Items.toList, ih]

theorem Fields.find_eq_some_iff (key : String) (value : Value) : ∀ fields : Fields,
    (fields.toList.map Prod.fst).Nodup →
      (fields.find key = some value ↔ (key, value) ∈ fields.toList)
  | .nil, _ => by simp [Fields.find, Fields.toList]
  | .cons first held rest, distinct => by
      rw [Fields.toList, List.map_cons, List.nodup_cons] at distinct
      have later := rest.find_eq_some_iff key value distinct.2
      rw [Fields.find, Fields.toList, List.mem_cons, Prod.mk.injEq]
      split
      · rename_i here
        subst here
        have absent : (first, value) ∉ rest.toList :=
          fun member => distinct.1 (List.mem_map.mpr ⟨_, member, rfl⟩)
        simp [absent, eq_comm]
      · rename_i elsewhere
        simp [later, Ne.symm elsewhere]

namespace Value

def arrayOf (items : List Value) : Value := .array (Items.ofList items)

def objectOf (fields : List (String × Value)) : Value := .object (Fields.ofList fields)

def get (key : String) : Value → Option Value
  | .object fields => fields.find key
  | _ => none

def asArray : Value → Option (List Value)
  | .array items => some items.toList
  | _ => none

def asObject : Value → Option (List (String × Value))
  | .object fields => some fields.toList
  | _ => none

def asStr : Value → Option String
  | .string text => some text
  | _ => none

def asBool : Value → Option Bool
  | .bool value => some value
  | _ => none

def asI64 : Value → Option Int
  | .integer value =>
      if -0x8000000000000000 ≤ value ∧ value ≤ 0x7FFFFFFFFFFFFFFF then some value else none
  | _ => none

def arrayAt (key : String) (value : Value) : Option (List Value) := (value.get key).bind asArray

def strAt (key : String) (value : Value) : Option String := (value.get key).bind asStr

theorem arrayOf_inj (left right : List Value) : arrayOf left = arrayOf right ↔ left = right := by
  rw [arrayOf, arrayOf, Value.array.injEq, Items.ofList_inj]

end Value

mutual

def Value.mapStrings (change : String → String) : Value → Value
  | .string text => .string (change text)
  | .array items => .array (items.mapStrings change)
  | .object fields => .object (fields.mapStrings change)
  | other => other

def Items.mapStrings (change : String → String) : Items → Items
  | .nil => .nil
  | .cons first rest => .cons (first.mapStrings change) (rest.mapStrings change)

def Fields.mapStrings (change : String → String) : Fields → Fields
  | .nil => .nil
  | .cons key value rest => .cons key (value.mapStrings change) (rest.mapStrings change)

end

end Json
