import KernelManager.Court.VmEvidence

/-! When the interface that the candidate declares is the one that the loader prints. -/

namespace KernelManager

open Json (Value)

/-- The words of a line are the member after a dot, its kind, its signature and its flags. -/
def MemberLine (kind name signature : String) (flags : List String) (line : String) : Prop :=
  splitWhitespace line = ("." ++ name) :: kind :: signature :: flags

def WritableFlag (flag : String) : Prop :=
  contains flag "readwrite" = true ∨ contains flag "writable" = true

/-- The field is this text, or it is missing or no text and this one is empty. -/
def FieldReads (key : String) (document : Value) (text : String) : Prop :=
  document.strAt key = some text ∨ document.strAt key = none ∧ text = ""

def DeclaresArguments (method : Value) (types : String) : Prop :=
  (∃ arguments, method.arrayAt "in_args" = some arguments ∧
      types = String.join (arguments.filterMap (·.strAt "type"))) ∨
    method.arrayAt "in_args" = none ∧ types = ""

def MethodShown (introspection : String) (method : Value) : Prop :=
  ∃ line ∈ lines introspection, ∃ name signature flags,
    MemberLine "method" name signature flags line ∧ FieldReads "name" method name ∧
      (signature = "-" ∧ DeclaresArguments method "" ∨
        signature ≠ "-" ∧ DeclaresArguments method signature)

/-- The first line that prints a property of this name prints its type and its access. -/
def PropertyShown (introspection : String) (property : Value) : Prop :=
  ∃ name before line after, FieldReads "name" property name ∧
    lines introspection = before ++ line :: after ∧
      (∀ earlier ∈ before, ∀ signature flags,
        ¬MemberLine "property" name signature flags earlier) ∧
      ∃ signature flags, MemberLine "property" name signature flags line ∧
        FieldReads "type" property signature ∧
          ((∃ flag ∈ flags, WritableFlag flag) ↔
            property.strAt "access" = some "readwrite" ∨ property.strAt "access" = some "write")

def Lists (key : String) (document item : Value) : Prop :=
  ∃ items, document.arrayAt key = some items ∧ item ∈ items

/-- The loader prints every member that the candidate lists, and no readback differs. -/
structure FaithfulInterface (introspection : String) (properties interface readback : Value) :
    Prop where
  method : ∀ method, Lists "methods" interface method → MethodShown introspection method
  property : ∀ property, Lists "properties" interface property →
    PropertyShown introspection property
  sameReadback : ∀ keys ∈ readbackPairs, properties.get keys.2 = readback.get keys.1

def HasField (key : String) (document : Value) : Prop := (document.get key).isSome = true

def CarryInterface (properties interface readback : Value) : Prop :=
  (HasList "methods" interface ∧ HasList "properties" interface) ∧
    ∀ keys ∈ readbackPairs, HasField keys.2 properties ∧ HasField keys.1 readback

/-- The candidate has both lists, and none of the properties that are read back is missing on both
sides. -/
def ShowInterface (properties interface readback : Value) : Prop :=
  (HasList "methods" interface ∧ HasList "properties" interface) ∧
    ∀ keys ∈ readbackPairs, HasField keys.2 properties ∨ HasField keys.1 readback

theorem fieldReads_iff (key : String) (document : Value) (text : String) :
    FieldReads key document text ↔ (document.strAt key).getD "" = text := by
  rw [FieldReads]
  cases document.strAt key <;> simp [eq_comm]

theorem declaresArguments_iff (method : Value) (types : String) :
    DeclaresArguments method types ↔ (declaredMethod method).signature = types := by
  rw [DeclaresArguments, declaredMethod]
  cases method.arrayAt "in_args" <;> simp [eq_comm]

theorem memberName_eq_some (field name : String) :
    memberName field = some name ↔ field = "." ++ name := by
  constructor
  · intro named
    obtain ⟨rest, stripped, rfl⟩ := Option.map_eq_some_iff.mp named
    have spelled := (Lines.strip_eq_some _ _ _).mp stripped
    apply String.toList_inj.mp
    rw [spelled, String.toList_append, @String.toList_ofList rest]
  · rintro rfl
    rw [memberName, stripStart, String.toList_append, Lines.strip_append, Option.map_some,
      String.ofList_toList]

theorem methodOfLine_iff (line : String) (method : LoaderMethod) :
    methodOfLine line = some method ↔
      ∃ signature flags, MemberLine "method" method.name signature flags line ∧
        (signature = "-" ∧ method.signature = "" ∨
          signature ≠ "-" ∧ method.signature = signature) := by
  obtain ⟨name, types⟩ := method
  unfold methodOfLine MemberLine
  split
  · rename_i member kind signature flags words
    simp only [words, List.cons.injEq, ← memberName_eq_some]
    constructor
    · intro read
      split at read
      · rename_i isMethod
        obtain ⟨shown, named, made⟩ := Option.map_eq_some_iff.mp read
        obtain ⟨rfl, rfl⟩ := LoaderMethod.mk.inj made
        refine ⟨signature, flags, ⟨named, isMethod, rfl, rfl⟩, ?_⟩
        by_cases bare : signature = "-" <;> simp [bare]
      · cases read
    · rintro ⟨signature, flags, ⟨named, rfl, rfl, rfl⟩, ⟨rfl, rfl⟩ | ⟨typed, rfl⟩⟩
      · simp [named]
      · simp [named, typed]
  · rename_i short
    constructor
    · intro read
      cases read
    · rintro ⟨signature, flags, words, _⟩
      exact absurd words (short _ _ _ _)

theorem contains_joined (flags : List String) (pattern : String) (nonempty : pattern.toList ≠ [])
    (plain : ' ' ∉ pattern.toList) :
    contains (String.intercalate " " flags) pattern = true ↔
      ∃ flag ∈ flags, contains flag pattern = true := by
  simp only [contains, Scan.contains_eq_find, Scan.find_isSome_iff]
  induction flags with
  | nil => simpa using nonempty
  | cons first flags ih =>
      cases flags with
      | nil => simp
      | cons second flags =>
          rw [String.intercalate_cons_cons, String.append_assoc, String.toList_append,
            String.toList_append]
          have apart := Scan.infix_append_apart pattern.toList first.toList
            (String.intercalate " " (second :: flags)).toList ' ' nonempty plain
          rw [List.exists_mem_cons_iff, ← ih, ← apart]
          exact Iff.rfl

theorem writableFlags_iff (flags : List String) :
    (contains (String.intercalate " " flags) "readwrite" ||
        contains (String.intercalate " " flags) "writable") = true ↔
      ∃ flag ∈ flags, WritableFlag flag := by
  rw [Bool.or_eq_true, contains_joined flags "readwrite" (by decide) (by decide),
    contains_joined flags "writable" (by decide) (by decide)]
  simp only [WritableFlag, and_or_left, exists_or]

theorem propertyOfLine_iff (line : String) (property : LoaderProperty) :
    propertyOfLine line = some property ↔
      ∃ flags, MemberLine "property" property.name property.signature flags line ∧
        (property.writable = true ↔ ∃ flag ∈ flags, WritableFlag flag) := by
  obtain ⟨name, types, writable⟩ := property
  unfold propertyOfLine MemberLine
  split
  · rename_i member kind signature flags words
    simp only [words, List.cons.injEq, ← memberName_eq_some, ← writableFlags_iff]
    constructor
    · intro read
      split at read
      · rename_i isProperty
        obtain ⟨shown, named, made⟩ := Option.map_eq_some_iff.mp read
        obtain ⟨rfl, rfl, rfl⟩ := LoaderProperty.mk.inj made
        exact ⟨flags, ⟨named, isProperty, rfl, rfl⟩, Iff.rfl⟩
      · cases read
    · rintro ⟨flags, ⟨named, rfl, rfl, rfl⟩, access⟩
      rw [← Bool.eq_iff_iff] at access
      simp [named, access]
  · rename_i short
    constructor
    · intro read
      cases read
    · rintro ⟨flags, words, _⟩
      exact absurd words (short _ _ _ _)

theorem methodShown_iff (introspection : String) (method : Value) :
    MethodShown introspection method ↔
      declaredMethod method ∈ (parseIntrospection introspection).methods := by
  simp only [parseIntrospection, List.mem_filterMap, methodOfLine_iff, MethodShown, fieldReads_iff,
    declaresArguments_iff]
  constructor
  · rintro ⟨line, printed, name, signature, flags, member, named, declared⟩
    subst named
    exact ⟨line, printed, signature, flags, member, declared⟩
  · rintro ⟨line, printed, signature, flags, member, declared⟩
    exact ⟨line, printed, _, signature, flags, member, rfl, declared⟩

theorem find_filterMap_iff {Line Item : Type} (read : Line → Option Item) (wanted : Item → Bool)
    (text : List Line) (item : Item) :
    (text.filterMap read).find? wanted = some item ↔
      ∃ before line after, text = before ++ line :: after ∧ read line = some item ∧
        wanted item = true ∧
          ∀ earlier ∈ before, ∀ other, read earlier = some other → ¬wanted other = true := by
  rw [List.find?_filterMap, Option.bind_eq_some_iff]
  simp only [List.find?_eq_some_iff_append]
  constructor
  · rintro ⟨line, ⟨found, before, after, rfl, none⟩, made⟩
    refine ⟨before, line, after, rfl, made, by simpa [made] using found, ?_⟩
    intro earlier member other readOther
    simpa [readOther] using none earlier member
  · rintro ⟨before, line, after, rfl, made, found, none⟩
    refine ⟨line, ⟨by simpa [made] using found, before, after, rfl, ?_⟩, made⟩
    intro earlier member
    cases readOther : read earlier with
    | none => rfl
    | some other => simpa using none earlier member other readOther

section

variable (printing : Printing) (court : String)

theorem compareMethod_nil (introspection : String) (method : Value) :
    compareMethod court (parseIntrospection introspection) (declaredMethod method) = [] ↔
      MethodShown introspection method := by
  rw [methodShown_iff, compareMethod]
  split
  · rename_i present
    simp [present]
  · rename_i absent
    simp [absent]

theorem declaredProperty_writable (property : Value) :
    (declaredProperty property).writable = true ↔
      property.strAt "access" = some "readwrite" ∨ property.strAt "access" = some "write" := by
  rw [declaredProperty]
  cases property.strAt "access" <;> simp

theorem propertyShown_iff (introspection : String) (property : Value) :
    PropertyShown introspection property ↔
      ∃ found, (parseIntrospection introspection).properties.find?
          (fun found => decide (found.name = (declaredProperty property).name)) = some found ∧
        found.signature = (declaredProperty property).signature ∧
          found.writable = (declaredProperty property).writable := by
  simp only [parseIntrospection, find_filterMap_iff, PropertyShown, fieldReads_iff,
    decide_eq_true_eq]
  constructor
  · rintro ⟨name, before, line, after, rfl, printed, first, signature, flags, member, rfl, access⟩
    refine ⟨declaredProperty property, ⟨before, line, after, printed, ?_, rfl, ?_⟩, rfl, rfl⟩
    · rw [propertyOfLine_iff]
      exact ⟨flags, member, (declaredProperty_writable property).trans access.symm⟩
    · intro earlier listed other readOther named
      obtain ⟨otherFlags, otherMember, _⟩ := (propertyOfLine_iff _ _).mp readOther
      rw [named] at otherMember
      exact first earlier listed _ _ otherMember
  · rintro ⟨found, ⟨before, line, after, printed, made, named, first⟩, types, access⟩
    obtain ⟨flags, member, writable⟩ := (propertyOfLine_iff _ _).mp made
    rw [named] at member
    refine ⟨_, before, line, after, rfl, printed, ?_, found.signature, flags, member, types.symm,
      ?_⟩
    · intro earlier listed signature otherFlags otherMember
      -- The line would be read as a property of this name.
      have readOther := (propertyOfLine_iff earlier ⟨(declaredProperty property).name, signature,
        contains (String.intercalate " " otherFlags) "readwrite" ||
          contains (String.intercalate " " otherFlags) "writable"⟩).mpr
        ⟨otherFlags, otherMember, writableFlags_iff otherFlags⟩
      exact first earlier listed _ readOther rfl
    · rw [← writable, access, declaredProperty_writable]

theorem compareProperty_nil (introspection : String) (property : Value) :
    compareProperty court (parseIntrospection introspection) (declaredProperty property) = [] ↔
      PropertyShown introspection property := by
  rw [propertyShown_iff, compareProperty]
  cases (parseIntrospection introspection).properties.find?
      fun found => decide (found.name = (declaredProperty property).name) with
  | none => simp
  | some found =>
      simp only [Option.some.injEq, exists_eq_left', ← not_and_or, ite_not]
      split
      · rename_i same
        simp [same]
      · rename_i differ
        simp [differ]

theorem compareReadback_nil (properties readback : Value) (keys : String × String) :
    compareReadback printing court properties readback keys = [] ↔
      properties.get keys.2 = readback.get keys.1 := by
  unfold compareReadback
  cases properties.get keys.2 <;> cases readback.get keys.1 <;> simp

theorem forall_listed (key : String) (interface : Value) (Member : Value → Prop) :
    (∀ item ∈ (interface.arrayAt key).getD [], Member item) ↔
      ∀ item, Lists key interface item → Member item := by
  simp only [Lists]
  cases interface.arrayAt key <;> simp

/-- The comparator passes exactly the documents of a faithful interface. -/
theorem compareScxInterface_nil (introspection : String)
    (properties interface readback : Value) :
    compareScxInterface printing court introspection properties interface readback = [] ↔
      FaithfulInterface introspection properties interface readback := by
  simp only [compareScxInterface, List.append_eq_nil_iff, List.flatMap_eq_nil_iff,
    List.forall_mem_map, compareMethod_nil, compareProperty_nil, compareReadback_nil,
    forall_listed]
  constructor
  · rintro ⟨⟨methods, listed⟩, readback⟩
    exact ⟨methods, listed, readback⟩
  · intro faithful
    exact ⟨⟨faithful.method, faithful.property⟩, faithful.sameReadback⟩

end

theorem FaithfulInterface.carried {introspection : String} {properties interface readback : Value}
    (faithful : FaithfulInterface introspection properties interface readback) :
    ShowInterface properties interface readback ↔ CarryInterface properties interface readback := by
  rw [ShowInterface, CarryInterface]
  apply and_congr_right
  intro _
  constructor
  · intro some keys listed
    have same : HasField keys.2 properties ↔ HasField keys.1 readback := by
      rw [HasField, faithful.sameReadback keys listed]
      exact Iff.rfl
    rcases some keys listed with oracle | candidate
    · exact ⟨oracle, same.mp oracle⟩
    · exact ⟨same.mpr candidate, candidate⟩
  · intro both keys listed
    exact Or.inl (both keys listed).1

end KernelManager
