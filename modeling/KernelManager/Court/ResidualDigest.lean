import KernelManager.Court.VmEvidence
import KernelManager.Library.Joined

/-! The digest of a machine residual, and the state of the machine that it stands for. -/

namespace KernelManager

open Json (Value)

def installedPackages (residual : Value) : List String :=
  strings ((residual.arrayAt "installed_packages").getD [])

def localPackages (residual : Value) : List String :=
  strings ((residual.arrayAt "local_db_packages").getD [])

def databaseHash (residual : Value) (name : String) : Option String :=
  (residual.get "sync_db_hashes").bind (Value.strAt name)

def databaseFields (residual : Value) : List (String × Value) :=
  ((residual.get "sync_db_hashes").bind Value.asObject).getD []

def OneLine (text : String) : Prop := newline ∉ text.toList

instance (text : String) : Decidable (OneLine text) := inferInstanceAs (Decidable (_ ∉ _))

/-- A residual lists its packages, and its texts are such that the digest can keep them apart; an
object has each of its keys once. -/
structure PlainResidual (residual : Value) : Prop where
  carried : HasList "installed_packages" residual
  installed : ∀ package ∈ installedPackages residual, OneLine package
  locals : ∀ package ∈ localPackages residual, OneLine package
  names : ∀ database ∈ databaseFields residual, ':' ∉ database.1.toList ∧ OneLine database.1
  hashes : ∀ database ∈ databaseFields residual,
    ∃ hash, database.2 = .string hash ∧ OneLine hash
  distinct : ((databaseFields residual).map Prod.fst).Nodup

/-- The same packages, each as often, and the same hash under every name of a database. -/
structure SameMachine (left right : Value) : Prop where
  installed : (installedPackages left).Perm (installedPackages right)
  databases : ∀ name, databaseHash left name = databaseHash right name
  locals : (localPackages left).Perm (localPackages right)

def databases (residual : Value) : List (String × String) :=
  (databaseFields residual).map fun database => (database.1, database.2.asStr.getD "?")

def databaseText (database : String × String) : String :=
  "db:" ++ database.1 ++ ":" ++ database.2

def digestParts (residual : Value) : List String :=
  (installedPackages residual).map ("pkg:" ++ ·) ++ ((databases residual).map databaseText ++
    (localPackages residual).map ("local:" ++ ·))

def sortedParts (residual : Value) : List String :=
  (digestParts residual).mergeSort fun left right => decide (left ≤ right)

theorem residualDigest_carried (residual : Value)
    (carried : HasList "installed_packages" residual) :
    residualDigest residual =
      .ok (String.intercalate (String.singleton newline) (sortedParts residual)) := by
  obtain ⟨installed, found⟩ := Option.isSome_iff_exists.mp carried
  have parts : residualParts residual installed = digestParts residual := by
    simp only [residualParts, databaseParts, localParts, digestParts, installedPackages, databases,
      databaseFields, localPackages, found, List.map_map, List.append_assoc, Option.getD_some]
    rfl
  simp only [residualDigest, found, parts, sortedParts]

theorem databaseText_inj (left right : String × String) (leftName : ':' ∉ left.1.toList)
    (rightName : ':' ∉ right.1.toList) (same : databaseText left = databaseText right) :
    left = right := by
  have symbols := congrArg String.toList same
  simp only [databaseText, String.toList_append, List.append_assoc] at symbols
  have texts := List.append_cancel_left symbols
  obtain ⟨names, hashes⟩ :=
    Scan.append_separator_inj ':' _ _ _ _ leftName rightName texts
  exact Prod.ext (String.toList_inj.mp names) (String.toList_inj.mp hashes)

theorem asStr_eq_some (value : Value) (text : String) :
    value.asStr = some text ↔ value = .string text := by
  cases value <;> simp [Value.asStr]

theorem databaseHash_eq_some (residual : Value) (name hash : String)
    (distinct : ((databaseFields residual).map Prod.fst).Nodup) :
    databaseHash residual name = some hash ↔
      (name, Value.string hash) ∈ databaseFields residual := by
  revert distinct
  unfold databaseHash databaseFields
  cases residual.get "sync_db_hashes" with
  | none => simp
  | some hashes =>
      cases hashes with
      | object fields =>
          intro distinct
          have found := Json.Fields.find_eq_some_iff name (.string hash) fields distinct
          simpa [Value.strAt, Value.get, Value.asObject, Option.bind_eq_some_iff, asStr_eq_some]
            using found
      | _ => simp [Value.strAt, Value.get, Value.asObject]

namespace PlainResidual

variable {residual left right : Value}

theorem mem_databases (plain : PlainResidual residual) (name hash : String) :
    (name, hash) ∈ databases residual ↔ databaseHash residual name = some hash := by
  rw [databaseHash_eq_some residual name hash plain.distinct, databases, List.mem_map]
  constructor
  · rintro ⟨⟨held, value⟩, member, read⟩
    obtain ⟨text, rfl, _⟩ := plain.hashes _ member
    obtain ⟨rfl, rfl⟩ := Prod.mk.inj read
    exact member
  · intro member
    exact ⟨_, member, rfl⟩

theorem databases_nodup (plain : PlainResidual residual) : (databases residual).Nodup := by
  apply List.Nodup.of_map Prod.fst
  rw [databases, List.map_map]
  exact plain.distinct

theorem databases_perm_iff (leftPlain : PlainResidual left) (rightPlain : PlainResidual right) :
    (databases left).Perm (databases right) ↔
      ∀ name, databaseHash left name = databaseHash right name := by
  rw [List.perm_ext_iff_of_nodup leftPlain.databases_nodup rightPlain.databases_nodup]
  constructor
  · intro same name
    apply Option.ext
    intro hash
    rw [← leftPlain.mem_databases, ← rightPlain.mem_databases]
    exact same (name, hash)
  · rintro same ⟨name, hash⟩
    rw [leftPlain.mem_databases, rightPlain.mem_databases, same name]

theorem database_plain (plain : PlainResidual residual) (database : String × String)
    (member : database ∈ databases residual) :
    ':' ∉ database.1.toList ∧ OneLine database.1 ∧ OneLine database.2 := by
  obtain ⟨field, inside, rfl⟩ := List.mem_map.mp member
  obtain ⟨hash, held, oneLine⟩ := plain.hashes field inside
  obtain ⟨single, named⟩ := plain.names field inside
  refine ⟨single, named, ?_⟩
  rw [held]
  exact oneLine

end PlainResidual

theorem oneLine_append (left right : String) :
    OneLine (left ++ right) ↔ OneLine left ∧ OneLine right := by
  rw [OneLine, String.toList_append, List.mem_append, not_or]
  exact Iff.rfl

theorem digestParts_oneLine (residual : Value) (plain : PlainResidual residual) (part : String)
    (member : part ∈ digestParts residual) : part.toList ≠ [] ∧ OneLine part := by
  simp only [digestParts, List.mem_append, List.mem_map] at member
  rcases member with ⟨package, inside, rfl⟩ | ⟨database, inside, rfl⟩ | ⟨package, inside, rfl⟩
  · refine ⟨by simp, ?_⟩
    rw [oneLine_append]
    exact ⟨by decide, plain.installed package inside⟩
  · obtain ⟨_, named, hashed⟩ := plain.database_plain database inside
    refine ⟨by simp [databaseText], ?_⟩
    rw [databaseText, oneLine_append, oneLine_append, oneLine_append]
    exact ⟨⟨⟨by decide, named⟩, by decide⟩, hashed⟩
  · refine ⟨by simp, ?_⟩
    rw [oneLine_append]
    exact ⟨by decide, plain.locals package inside⟩

def begins (symbol : Char) (part : String) : Bool := part.toList.head? == some symbol

theorem begins_tag (symbol : Char) (tag text : String) (tagged : tag.toList ≠ []) :
    begins symbol (tag ++ text) = begins symbol tag := by
  rw [begins, String.toList_append, List.head?_append_of_ne_nil _ tagged, begins]

theorem begins_tagged (symbol : Char) (tag : String) (tagged : tag.toList ≠ [])
    (packages : List String) :
    ∀ part ∈ packages.map (tag ++ ·), begins symbol part = begins symbol tag := by
  intro part member
  obtain ⟨package, _, rfl⟩ := List.mem_map.mp member
  exact begins_tag symbol tag package tagged

theorem begins_databases (symbol : Char) (residual : Value) :
    ∀ part ∈ (databases residual).map databaseText, begins symbol part = begins symbol "db:" := by
  intro part member
  obtain ⟨database, _, rfl⟩ := List.mem_map.mp member
  rw [databaseText, begins_tag _ _ _ (by simp), begins_tag _ _ _ (by simp),
    begins_tag _ _ _ (by decide)]

theorem tagged_perm_iff (tag : String) (left right : List String) :
    (left.map (tag ++ ·)).Perm (right.map (tag ++ ·)) ↔ left.Perm right := by
  apply Joined.map_perm_map_iff
  intro first _ second _ same
  exact String.append_right_inj _ |>.mp same

theorem databaseTexts_perm_iff (left right : Value) (leftPlain : PlainResidual left)
    (rightPlain : PlainResidual right) :
    ((databases left).map databaseText).Perm ((databases right).map databaseText) ↔
      (databases left).Perm (databases right) := by
  apply Joined.map_perm_map_iff
  intro first firstMember second secondMember
  exact databaseText_inj first second (leftPlain.database_plain first firstMember).1
    (rightPlain.database_plain second secondMember).1

/-- The tags keep the three lists of a residual apart, whatever order the parts are in. -/
theorem digestParts_perm_iff (left right : Value) (leftPlain : PlainResidual left)
    (rightPlain : PlainResidual right) :
    (digestParts left).Perm (digestParts right) ↔ SameMachine left right := by
  have packages : ∀ residual, ∀ part ∈ (installedPackages residual).map ("pkg:" ++ ·),
      begins 'p' part = true := fun residual part member =>
    (begins_tagged 'p' "pkg:" (by decide) _ part member).trans (by decide)
  have others : ∀ residual, ∀ part ∈ (databases residual).map databaseText ++
      (localPackages residual).map ("local:" ++ ·), begins 'p' part = false := by
    intro residual part member
    rcases List.mem_append.mp member with hash | package
    · exact (begins_databases 'p' residual part hash).trans (by decide)
    · exact (begins_tagged 'p' "local:" (by decide) _ part package).trans (by decide)
  have hashes : ∀ residual, ∀ part ∈ (databases residual).map databaseText,
      begins 'd' part = true := fun residual part member =>
    (begins_databases 'd' residual part member).trans (by decide)
  have locals : ∀ residual, ∀ part ∈ (localPackages residual).map ("local:" ++ ·),
      begins 'd' part = false := fun residual part member =>
    (begins_tagged 'd' "local:" (by decide) _ part member).trans (by decide)
  rw [digestParts, digestParts,
    Joined.append_perm_append_iff (begins 'p') _ _ _ _ (packages left) (packages right)
      (others left) (others right),
    Joined.append_perm_append_iff (begins 'd') _ _ _ _ (hashes left) (hashes right)
      (locals left) (locals right),
    tagged_perm_iff, tagged_perm_iff, databaseTexts_perm_iff left right leftPlain rightPlain,
    leftPlain.databases_perm_iff rightPlain]
  exact ⟨fun same => ⟨same.1, same.2.1, same.2.2⟩, fun same => ⟨same.1, same.2, same.3⟩⟩

instance texts_total : Std.Total (fun left right : String => left ≤ right) := ⟨String.le_total⟩

instance texts_antisymm : Std.Antisymm (fun left right : String => left ≤ right) :=
  ⟨fun _ _ => String.le_antisymm⟩

instance texts_trans : IsTrans String (fun left right : String => left ≤ right) :=
  ⟨fun _ _ _ => String.le_trans⟩

theorem residualDigest_eq_iff (left right : Value) (leftPlain : PlainResidual left)
    (rightPlain : PlainResidual right) :
    residualDigest left = residualDigest right ↔ SameMachine left right := by
  have plain : ∀ residual : Value, PlainResidual residual →
      ∀ word ∈ (sortedParts residual).map String.toList, word ≠ [] ∧ newline ∉ word := by
    intro residual residualPlain word member
    obtain ⟨part, inside, rfl⟩ := List.mem_map.mp member
    exact digestParts_oneLine residual residualPlain part (List.mem_mergeSort.mp inside)
  have words : (sortedParts left).map String.toList = (sortedParts right).map String.toList ↔
      sortedParts left = sortedParts right :=
    (List.map_injective_iff.mpr fun _ _ => String.toList_inj.mp).eq_iff
  have sorted : sortedParts left = sortedParts right ↔
      (digestParts left).Perm (digestParts right) :=
    Joined.mergeSort_eq_iff (fun left right : String => left ≤ right) _ _
  rw [residualDigest_carried left leftPlain.carried,
    residualDigest_carried right rightPlain.carried, Except.ok.injEq, ← String.toList_inj,
    String.toList_intercalate, String.toList_intercalate, String.toList_singleton,
    Joined.intercalate_inj newline _ _ (plain left leftPlain) (plain right rightPlain), words,
    sorted, digestParts_perm_iff left right leftPlain rightPlain]

theorem digestText_carried_eq_iff (left right : Value)
    (leftCarried : HasList "installed_packages" left)
    (rightCarried : HasList "installed_packages" right) :
    digestText left = digestText right ↔ residualDigest left = residualDigest right := by
  have leftDigest := residualDigest_carried left leftCarried
  have rightDigest := residualDigest_carried right rightCarried
  simp only [digestText, leftDigest, rightDigest, Except.ok.injEq]

/-- The digest of a residual identifies the machine, and the comparator is silent exactly on two
residuals of one machine. -/
theorem residualDigest_identifies (court : String) (left right : Value)
    (leftPlain : PlainResidual left) (rightPlain : PlainResidual right) :
    (residualDigest left = residualDigest right ↔ SameMachine left right) ∧
      (compareMachines court left right = [] ↔ SameMachine left right) := by
  have digests := residualDigest_eq_iff left right leftPlain rightPlain
  refine ⟨digests, ?_⟩
  rw [compareMachines_nil, digestText_carried_eq_iff left right leftPlain.carried
    rightPlain.carried, digests]

namespace Sample

def machine (installed : List String) : Value :=
  Value.objectOf [
    ("installed_packages", Value.arrayOf (installed.map Value.string)),
    ("local_db_packages", Value.arrayOf (installed.map Value.string)),
    ("sync_db_hashes", Value.objectOf [("core", .string "5f1c")])]

end Sample

theorem strings_map (texts : List String) : strings (texts.map Value.string) = texts := by
  rw [strings, List.filterMap_map]
  exact List.filterMap_some

theorem machine_installed (installed : List String) :
    installedPackages (Sample.machine installed) = installed := by
  have listed : (Sample.machine installed).arrayAt "installed_packages" =
      some (Json.Items.ofList (installed.map Value.string)).toList := rfl
  rw [installedPackages, listed, Option.getD_some, Json.Items.toList_ofList, strings_map]

theorem machine_locals (installed : List String) :
    localPackages (Sample.machine installed) = installed := by
  have listed : (Sample.machine installed).arrayAt "local_db_packages" =
      some (Json.Items.ofList (installed.map Value.string)).toList := rfl
  rw [localPackages, listed, Option.getD_some, Json.Items.toList_ofList, strings_map]

theorem machine_databases (installed : List String) :
    databaseFields (Sample.machine installed) = [("core", .string "5f1c")] := rfl

theorem machine_plain (installed : List String)
    (oneLine : ∀ package ∈ installed, OneLine package) :
    PlainResidual (Sample.machine installed) where
  carried := rfl
  installed := by rwa [machine_installed]
  locals := by rwa [machine_locals]
  names := by
    rw [machine_databases, List.forall_mem_singleton]
    exact ⟨by decide, by decide⟩
  hashes := by
    rw [machine_databases, List.forall_mem_singleton]
    exact ⟨_, rfl, by decide⟩
  distinct := by simp [machine_databases]

theorem reordered_sameDigest :
    residualDigest (Sample.machine ["linux 6.12", "zfs 2.3"]) =
        residualDigest (Sample.machine ["zfs 2.3", "linux 6.12"]) ∧
      compareMachines "court" (Sample.machine ["linux 6.12", "zfs 2.3"])
        (Sample.machine ["zfs 2.3", "linux 6.12"]) = [] := by
  have swapped : ["linux 6.12", "zfs 2.3"].Perm ["zfs 2.3", "linux 6.12"] :=
    List.Perm.swap _ _ _
  have identified := residualDigest_identifies "court"
    (Sample.machine ["linux 6.12", "zfs 2.3"]) (Sample.machine ["zfs 2.3", "linux 6.12"])
    (machine_plain _ (by simp [OneLine, newline])) (machine_plain _ (by simp [OneLine, newline]))
  have same : SameMachine (Sample.machine ["linux 6.12", "zfs 2.3"])
      (Sample.machine ["zfs 2.3", "linux 6.12"]) := {
    installed := by rwa [machine_installed, machine_installed]
    databases := fun name => rfl
    locals := by rwa [machine_locals, machine_locals] }
  exact ⟨identified.1.mpr same, identified.2.mpr same⟩

end KernelManager
