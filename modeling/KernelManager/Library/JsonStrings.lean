import KernelManager.Library.Json

/-! Maps over the strings of a JSON document: what they keep, and how they compose. -/

namespace Json

mutual

/-- Two values of one structure, with the same keys and the same values that are no strings;
strings at the same place are related. -/
inductive Value.SameBut (relation : String → String → Prop) : Value → Value → Prop
  | null : Value.SameBut relation .null .null
  | bool (value : Bool) : Value.SameBut relation (.bool value) (.bool value)
  | integer (value : Int) : Value.SameBut relation (.integer value) (.integer value)
  | real (text : String) : Value.SameBut relation (.real text) (.real text)
  | string {left right} (related : relation left right) :
      Value.SameBut relation (.string left) (.string right)
  | array {left right} (items : Items.SameBut relation left right) :
      Value.SameBut relation (.array left) (.array right)
  | object {left right} (fields : Fields.SameBut relation left right) :
      Value.SameBut relation (.object left) (.object right)

inductive Items.SameBut (relation : String → String → Prop) : Items → Items → Prop
  | nil : Items.SameBut relation .nil .nil
  | cons {left right leftRest rightRest} (first : Value.SameBut relation left right)
      (rest : Items.SameBut relation leftRest rightRest) :
      Items.SameBut relation (.cons left leftRest) (.cons right rightRest)

inductive Fields.SameBut (relation : String → String → Prop) : Fields → Fields → Prop
  | nil : Fields.SameBut relation .nil .nil
  | cons {left right leftRest rightRest} (key : String)
      (value : Value.SameBut relation left right)
      (rest : Fields.SameBut relation leftRest rightRest) :
      Fields.SameBut relation (.cons key left leftRest) (.cons key right rightRest)

end

section

variable {relation : String → String → Prop} {change : String → String}

mutual

theorem Value.sameBut_mapStrings (changed : ∀ text, relation text (change text)) :
    ∀ value : Value, value.SameBut relation (value.mapStrings change)
  | .null => .null
  | .bool value => .bool value
  | .integer value => .integer value
  | .real text => .real text
  | .string text => .string (changed text)
  | .array items => .array (items.sameBut_mapStrings changed)
  | .object fields => .object (fields.sameBut_mapStrings changed)

theorem Items.sameBut_mapStrings (changed : ∀ text, relation text (change text)) :
    ∀ items : Items, items.SameBut relation (items.mapStrings change)
  | .nil => .nil
  | .cons first rest => .cons (first.sameBut_mapStrings changed) (rest.sameBut_mapStrings changed)

theorem Fields.sameBut_mapStrings (changed : ∀ text, relation text (change text)) :
    ∀ fields : Fields, fields.SameBut relation (fields.mapStrings change)
  | .nil => .nil
  | .cons key value rest =>
      .cons key (value.sameBut_mapStrings changed) (rest.sameBut_mapStrings changed)

end

end

section

variable (first second : String → String)

mutual

theorem Value.mapStrings_mapStrings : ∀ value : Value,
    (value.mapStrings first).mapStrings second = value.mapStrings (second ∘ first)
  | .null => rfl
  | .bool _ => rfl
  | .integer _ => rfl
  | .real _ => rfl
  | .string _ => rfl
  | .array items => congrArg Value.array items.mapStrings_mapStrings
  | .object fields => congrArg Value.object fields.mapStrings_mapStrings

theorem Items.mapStrings_mapStrings : ∀ items : Items,
    (items.mapStrings first).mapStrings second = items.mapStrings (second ∘ first)
  | .nil => rfl
  | .cons item rest =>
      congrArg₂ Items.cons item.mapStrings_mapStrings rest.mapStrings_mapStrings

theorem Fields.mapStrings_mapStrings : ∀ fields : Fields,
    (fields.mapStrings first).mapStrings second = fields.mapStrings (second ∘ first)
  | .nil => rfl
  | .cons key value rest =>
      congrArg₂ (Fields.cons key) value.mapStrings_mapStrings rest.mapStrings_mapStrings

end

end

section

variable {first second : String → String}

mutual

/-- Documents that one map of their strings makes equal are made equal by every coarser one. -/
theorem Value.mapStrings_coarser
    (coarser : ∀ left right, first left = first right → second left = second right) :
    ∀ left right : Value, left.mapStrings first = right.mapStrings first →
      left.mapStrings second = right.mapStrings second
  | .string left, right => by
      intro same
      cases right with
      | string right =>
          rw [Value.mapStrings, Value.mapStrings, Value.string.injEq] at same ⊢
          exact coarser left right same
      | _ => simp [Value.mapStrings] at same
  | .array left, right => by
      intro same
      cases right with
      | array right =>
          rw [Value.mapStrings, Value.mapStrings, Value.array.injEq] at same ⊢
          exact left.mapStrings_coarser coarser right same
      | _ => simp [Value.mapStrings] at same
  | .object left, right => by
      intro same
      cases right with
      | object right =>
          rw [Value.mapStrings, Value.mapStrings, Value.object.injEq] at same ⊢
          exact left.mapStrings_coarser coarser right same
      | _ => simp [Value.mapStrings] at same
  | .null, right => by cases right <;> simp [Value.mapStrings]
  | .bool _, right => by cases right <;> simp [Value.mapStrings]
  | .integer _, right => by cases right <;> simp [Value.mapStrings]
  | .real _, right => by cases right <;> simp [Value.mapStrings]

theorem Items.mapStrings_coarser
    (coarser : ∀ left right, first left = first right → second left = second right) :
    ∀ left right : Items, left.mapStrings first = right.mapStrings first →
      left.mapStrings second = right.mapStrings second
  | .nil, right => by cases right <;> simp [Items.mapStrings]
  | .cons item rest, right => by
      intro same
      cases right with
      | nil => simp [Items.mapStrings] at same
      | cons other others =>
          rw [Items.mapStrings, Items.mapStrings, Items.cons.injEq] at same ⊢
          exact ⟨item.mapStrings_coarser coarser other same.1,
            rest.mapStrings_coarser coarser others same.2⟩

theorem Fields.mapStrings_coarser
    (coarser : ∀ left right, first left = first right → second left = second right) :
    ∀ left right : Fields, left.mapStrings first = right.mapStrings first →
      left.mapStrings second = right.mapStrings second
  | .nil, right => by cases right <;> simp [Fields.mapStrings]
  | .cons key value rest, right => by
      intro same
      cases right with
      | nil => simp [Fields.mapStrings] at same
      | cons other item others =>
          rw [Fields.mapStrings, Fields.mapStrings, Fields.cons.injEq] at same ⊢
          exact ⟨same.1, value.mapStrings_coarser coarser item same.2.1,
            rest.mapStrings_coarser coarser others same.2.2⟩

end

theorem Value.mapStrings_eq_iff
    (same : ∀ left right, first left = first right ↔ second left = second right)
    (left right : Value) : left.mapStrings first = right.mapStrings first ↔
      left.mapStrings second = right.mapStrings second :=
  ⟨left.mapStrings_coarser (fun left right => (same left right).mp) right,
    left.mapStrings_coarser (fun left right => (same left right).mpr) right⟩

end

end Json
