import Mathlib.Logic.Function.Basic

/-!
A directory whose names lead to files. A file that is open is written by its number, also when
another name, or none, leads to it by then.
-/

namespace Volume

variable {Name Byte : Type*}

structure Directory (Name Byte : Type*) where
  entries : Name → Option Nat
  files : Nat → List Byte
  fresh : Nat
  bounded : ∀ name file, entries name = some file → file < fresh

namespace Directory

def empty : Directory Name Byte := ⟨fun _ => none, fun _ => [], 0, nofun⟩

def read (directory : Directory Name Byte) (name : Name) : Option (List Byte) :=
  (directory.entries name).map directory.files

/-- What a file holds after a write at an offset; a gap behind its end is filled. -/
def overlay (filler : Byte) (text : List Byte) (offset : Nat) (bytes : List Byte) : List Byte :=
  text.take offset ++ (List.replicate (offset - text.length) filler ++
    (bytes ++ text.drop (offset + bytes.length)))

def writeAt (filler : Byte) (directory : Directory Name Byte) (file offset : Nat)
    (bytes : List Byte) : Directory Name Byte :=
  { directory with
    files := Function.update directory.files file
      (overlay filler (directory.files file) offset bytes) }

def Sole (directory : Directory Name Byte) (name : Name) (file : Nat) : Prop :=
  directory.entries name = some file ∧ ∀ other, directory.entries other = some file → other = name

/-- A change that concerns some names only: the others lead to the same files with the same
bytes, and the names it concerns lead to files of their own or to new ones. -/
structure Within (own : Name → Prop) (before after : Directory Name Byte) : Prop where
  entries : ∀ name, ¬own name → after.entries name = before.entries name
  files : ∀ name file, ¬own name → before.entries name = some file →
    after.files file = before.files file
  sources : ∀ name file, own name → after.entries name = some file →
    (∃ source, own source ∧ before.entries source = some file) ∨ before.fresh ≤ file

variable {own : Name → Prop} {before after : Directory Name Byte}

theorem Within.refl (directory : Directory Name Byte) : Within own directory directory :=
  ⟨fun _ _ => rfl, fun _ _ _ _ => rfl, fun name _ owned leads => .inl ⟨name, owned, leads⟩⟩

theorem Within.read (within : Within own before after) {name : Name} (other : ¬own name) :
    after.read name = before.read name := by
  simp only [Directory.read, within.entries name other]
  cases leads : before.entries name with
  | none => rfl
  | some file => simp only [Option.map_some, within.files name file other leads]

theorem Within.mono {wider : Name → Prop} (within : Within own before after)
    (included : ∀ name, own name → wider name) : Within wider before after := by
  refine ⟨fun name other => within.entries name (mt (included name) other),
    fun name file other => within.files name file (mt (included name) other), ?_⟩
  intro name file _ leads
  by_cases owned : own name
  · obtain ⟨source, ownedSource, was⟩ | new := within.sources name file owned leads
    · exact .inl ⟨source, included source ownedSource, was⟩
    · exact .inr new
  · exact .inl ⟨name, ‹_›, (within.entries name owned).symm.trans leads⟩

theorem Within.sole (within : Within own before after) {name : Name} {file : Nat}
    (other : ¬own name) (sole : before.Sole name file) :
    after.Sole name file ∧ after.files file = before.files file := by
  refine ⟨⟨(within.entries name other).trans sole.1, ?_⟩, within.files name file other sole.1⟩
  intro second leads
  by_cases owned : own second
  · -- A name that the change concerns cannot have come to lead to this file.
    obtain ⟨source, ownedSource, was⟩ | new := within.sources second file owned leads
    · exact absurd (sole.2 source was ▸ ownedSource) other
    · have below := before.bounded name file sole.1
      omega
  · exact sole.2 second ((within.entries second owned).symm.trans leads)

theorem writeAt_within (filler : Byte) (directory : Directory Name Byte) (name : Name)
    (file offset : Nat) (bytes : List Byte) (sole : directory.Sole name file) :
    Within (· = name) directory (directory.writeAt filler file offset bytes) := by
  refine ⟨fun _ _ => rfl, ?_, fun other _ owned leads => .inl ⟨other, owned, leads⟩⟩
  intro other second different leads
  have apart : second ≠ file := by
    rintro rfl
    exact different (sole.2 other leads)
  exact Function.update_of_ne apart ..

theorem writeAt_files (filler : Byte) (directory : Directory Name Byte) (file offset : Nat)
    (bytes : List Byte) :
    (directory.writeAt filler file offset bytes).files file =
      overlay filler (directory.files file) offset bytes :=
  Function.update_self ..

theorem overlay_end (filler : Byte) (text bytes : List Byte) :
    overlay filler text text.length bytes = text ++ bytes := by
  simp [overlay]

theorem writeAt_next (filler : Byte) (directory : Directory Name Byte) (file written count : Nat)
    (content : List Byte) (held : directory.files file = content.take written)
    (bound : written ≤ content.length) :
    let taken := (content.drop written).take count
    (directory.writeAt filler file written taken).files file =
        content.take (written + taken.length) ∧
      written + taken.length ≤ content.length := by
  have length : (content.take written).length = written := by
    rw [List.length_take]
    omega
  have ended := overlay_end filler (content.take written) ((content.drop written).take count)
  rw [length] at ended
  refine ⟨?_, ?_⟩
  · rw [writeAt_files, held, ended, List.length_take, List.take_add, ← List.take_eq_take_min]
  · simp only [List.length_take, List.length_drop]
    omega

/-- A change that concerns some files only: the others hold what they held, and the names that
lead to them still do. -/
structure Sparing (own : Nat → Prop) (before after : Directory Name Byte) : Prop where
  fresh : before.fresh ≤ after.fresh
  files : ∀ file, file < before.fresh → ¬own file → after.files file = before.files file
  entries : ∀ name file, before.entries name = some file → ¬own file →
    after.entries name = some file

theorem Sparing.refl (own : Nat → Prop) (directory : Directory Name Byte) :
    Sparing own directory directory :=
  ⟨Nat.le_refl _, fun _ _ _ => rfl, fun _ _ leads _ => leads⟩

theorem Sparing.mono {own wider : Nat → Prop} {before after : Directory Name Byte}
    (sparing : Sparing own before after) (included : ∀ file, own file → wider file) :
    Sparing wider before after :=
  ⟨sparing.fresh, fun file below other => sparing.files file below (mt (included file) other),
    fun name file leads other => sparing.entries name file leads (mt (included file) other)⟩

theorem Sparing.trans {own : Nat → Prop} {before between after : Directory Name Byte}
    (first : Sparing own before between) (second : Sparing own between after) :
    Sparing own before after where
  fresh := Nat.le_trans first.fresh second.fresh
  files file below other :=
    (second.files file (Nat.lt_of_lt_of_le below first.fresh) other).trans
      (first.files file below other)
  entries name file leads other :=
    second.entries name file (first.entries name file leads other) other

theorem writeAt_sparing (filler : Byte) (directory : Directory Name Byte) (file offset : Nat)
    (bytes : List Byte) :
    Sparing (· = file) directory (directory.writeAt filler file offset bytes) :=
  ⟨Nat.le_refl _, fun _ _ different => Function.update_of_ne different ..,
    fun _ _ leads _ => leads⟩

variable [DecidableEq Name]

def create (directory : Directory Name Byte) (name : Name) : Directory Name Byte × Nat :=
  match directory.entries name with
  | some file => ({ directory with files := Function.update directory.files file [] }, file)
  | none =>
      ({ entries := Function.update directory.entries name (some directory.fresh)
         files := Function.update directory.files directory.fresh []
         fresh := directory.fresh + 1
         bounded := by
          intro other file leads
          by_cases same : other = name
          · subst same
            rw [Function.update_self] at leads
            obtain rfl := Option.some.inj leads
            exact Nat.lt_succ_self _
          · rw [Function.update_of_ne same] at leads
            exact Nat.lt_succ_of_lt (directory.bounded other file leads) },
        directory.fresh)

/-- Without a file under the source name it fails; two names of one file stay as they are. -/
def rename (directory : Directory Name Byte) (source target : Name) :
    Option (Directory Name Byte) :=
  match _ : directory.entries source with
  | none => none
  | some file =>
      if directory.entries target = some file then some directory
      else some
        { directory with
          entries := Function.update (Function.update directory.entries target (some file))
            source none
          bounded := by
            intro name other leads
            by_cases atSource : name = source
            · subst atSource
              rw [Function.update_self] at leads
              cases leads
            · rw [Function.update_of_ne atSource] at leads
              by_cases atTarget : name = target
              · subst atTarget
                rw [Function.update_self] at leads
                obtain rfl := Option.some.inj leads
                exact directory.bounded source file ‹_›
              · rw [Function.update_of_ne atTarget] at leads
                exact directory.bounded name other leads }

def remove (directory : Directory Name Byte) (name : Name) : Directory Name Byte :=
  { directory with
    entries := Function.update directory.entries name none
    bounded := by
      intro other file leads
      by_cases same : other = name
      · subst same
        rw [Function.update_self] at leads
        cases leads
      · rw [Function.update_of_ne same] at leads
        exact directory.bounded other file leads }

/-- A copy over another file; a file is not copied over itself. -/
def copy (filler : Byte) (directory : Directory Name Byte) (source target : Name) :
    Directory Name Byte :=
  match directory.read source with
  | none => directory
  | some bytes =>
      if directory.entries source = directory.entries target then directory
      else (directory.create target).1.writeAt filler (directory.create target).2 0 bytes

theorem create_opens (directory : Directory Name Byte) (name : Name) :
    (directory.create name).1.entries name = some (directory.create name).2 ∧
      (directory.create name).1.files (directory.create name).2 = [] := by
  unfold create
  split
  · rename_i file leads
    exact ⟨leads, Function.update_self ..⟩
  · exact ⟨Function.update_self .., Function.update_self ..⟩

theorem copy_read (filler : Byte) (directory : Directory Name Byte) (source target : Name)
    (bytes : List Byte) (held : directory.read source = some bytes) :
    (directory.copy filler source target).read target = some bytes := by
  simp only [copy, held]
  split
  · rename_i same
    simp only [read, ← same]
    exact held
  · obtain ⟨leads, empty⟩ := directory.create_opens target
    have written : overlay filler [] 0 bytes = bytes := by simp [overlay]
    simp only [read, writeAt, leads, Option.map_some, Function.update_self, empty, written]

theorem create_within (directory : Directory Name Byte) (name : Name)
    (absent : directory.entries name = none) :
    Within (· = name) directory (directory.create name).1 := by
  have created : (directory.create name).1.entries =
        Function.update directory.entries name (some directory.fresh) ∧
      (directory.create name).1.files = Function.update directory.files directory.fresh [] := by
    unfold create
    split
    · simp_all
    · exact ⟨rfl, rfl⟩
  constructor
  · intro other different
    rw [created.1, Function.update_of_ne different]
  · intro other file different leads
    have below := directory.bounded other file leads
    rw [created.2, Function.update_of_ne (by omega)]
  · rintro other file rfl leads
    rw [created.1, Function.update_self] at leads
    exact .inr (Nat.le_of_eq (Option.some.inj leads))

theorem create_sole (directory : Directory Name Byte) (name : Name)
    (absent : directory.entries name = none) :
    (directory.create name).1.Sole name (directory.create name).2 ∧
      (directory.create name).1.files (directory.create name).2 = [] := by
  unfold create
  split
  · simp_all
  · refine ⟨⟨Function.update_self .., ?_⟩, Function.update_self ..⟩
    intro other leads
    by_contra different
    simp only [Function.update_of_ne different] at leads
    have below := directory.bounded other _ leads
    omega

theorem create_sparing (own : Nat → Prop) (directory : Directory Name Byte) (name : Name)
    (absent : directory.entries name = none) :
    Sparing own directory (directory.create name).1 ∧
      (directory.create name).2 = directory.fresh ∧
        (directory.create name).1.fresh = directory.fresh + 1 := by
  unfold create
  split
  · simp_all
  · refine ⟨⟨Nat.le_succ _, ?_, ?_⟩, rfl, rfl⟩
    · intro file below _
      exact Function.update_of_ne (by omega) ..
    · intro other file leads _
      have different : other ≠ name := by
        rintro rfl
        simp_all
      exact (Function.update_of_ne different ..).trans leads

theorem remove_sparing (directory : Directory Name Byte) (name : Name) (file : Nat)
    (leads : directory.entries name = some file) :
    Sparing (· = file) directory (directory.remove name) := by
  refine ⟨Nat.le_refl _, fun _ _ _ => rfl, ?_⟩
  intro other second reached different
  have apart : other ≠ name := by
    rintro rfl
    exact different (Option.some.inj (reached.symm.trans leads))
  exact (Function.update_of_ne apart ..).trans reached

theorem rename_within (directory after : Directory Name Byte) (source target : Name)
    (renamed : directory.rename source target = some after) :
    Within (fun name => name = source ∨ name = target) directory after := by
  unfold rename at renamed
  split at renamed
  · cases renamed
  · rename_i file leads
    split at renamed
    · obtain rfl := Option.some.inj renamed
      exact .refl directory
    · obtain rfl := Option.some.inj renamed
      refine ⟨?_, fun _ _ _ _ => rfl, ?_⟩
      · intro name different
        obtain ⟨first, second⟩ := not_or.mp different
        simp only [Function.update_of_ne first, Function.update_of_ne second]
      · intro name other owned reached
        refine .inl ⟨source, .inl rfl, ?_⟩
        by_cases atSource : name = source
        · subst atSource
          simp only [Function.update_self] at reached
          cases reached
        · obtain rfl := owned.resolve_left atSource
          simp only [Function.update_of_ne atSource, Function.update_self] at reached
          exact leads.trans reached

theorem rename_read (directory : Directory Name Byte) (source target : Name) (file : Nat)
    (leads : directory.entries source = some file) (different : target ≠ source) :
    ∃ after, directory.rename source target = some after ∧
      after.read target = some (directory.files file) := by
  unfold rename
  split
  · simp_all
  · rename_i other reached
    obtain rfl := Option.some.inj (leads.symm.trans reached)
    split
    · rename_i already
      exact ⟨directory, rfl, by simp only [Directory.read, already, Option.map_some]⟩
    · refine ⟨_, rfl, ?_⟩
      simp only [Directory.read, Function.update_of_ne different, Function.update_self,
        Option.map_some]

theorem remove_within (directory : Directory Name Byte) (name : Name) :
    Within (· = name) directory (directory.remove name) := by
  refine ⟨fun other different => Function.update_of_ne different .., fun _ _ _ _ => rfl, ?_⟩
  rintro other file rfl leads
  simp only [remove, Function.update_self] at leads
  cases leads

inductive Change (Name Byte : Type*)
  | create (name : Name)
  | write (name : Name) (offset : Nat) (bytes : List Byte)
  | remove (name : Name)
  | rename (source target : Name)
  deriving DecidableEq, Repr

omit [DecidableEq Name] in
def Change.names : Change Name Byte → List Name
  | .create name | .write name .. | .remove name => [name]
  | .rename source target => [source, target]

/-- A call on a name that leads nowhere does nothing, but for the creation of a file. -/
def change (filler : Byte) (directory : Directory Name Byte) :
    Change Name Byte → Directory Name Byte
  | .create name => (directory.create name).1
  | .write name offset bytes =>
      match directory.entries name with
      | some file => directory.writeAt filler file offset bytes
      | none => directory
  | .remove name => directory.remove name
  | .rename source target => (directory.rename source target).getD directory

theorem create_sparing_old (directory : Directory Name Byte) (name : Name) (file : Nat)
    (leads : directory.entries name = some file) :
    Sparing (· = file) directory (directory.create name).1 := by
  unfold create
  split
  · rename_i other reached
    obtain rfl := Option.some.inj (leads.symm.trans reached)
    exact ⟨Nat.le_refl _, fun _ _ different => Function.update_of_ne different ..,
      fun _ _ held _ => held⟩
  · simp_all

theorem remove_sparing_none (own : Nat → Prop) (directory : Directory Name Byte) (name : Name)
    (absent : directory.entries name = none) :
    Sparing own directory (directory.remove name) := by
  refine ⟨Nat.le_refl _, fun _ _ _ => rfl, ?_⟩
  intro other file leads _
  have apart : other ≠ name := by
    rintro rfl
    rw [absent] at leads
    cases leads
  exact (Function.update_of_ne apart ..).trans leads

theorem rename_sparing (directory after : Directory Name Byte) (source target : Name)
    (renamed : directory.rename source target = some after) :
    Sparing (fun file => directory.entries source = some file ∨
      directory.entries target = some file) directory after := by
  unfold rename at renamed
  split at renamed
  · cases renamed
  · split at renamed
    · obtain rfl := Option.some.inj renamed
      exact .refl _ directory
    · obtain rfl := Option.some.inj renamed
      refine ⟨Nat.le_refl _, fun _ _ _ => rfl, ?_⟩
      intro name file leads other
      have notSource : name ≠ source := fun same => other (.inl (same ▸ leads))
      have notTarget : name ≠ target := fun same => other (.inr (same ▸ leads))
      simpa only [Function.update_of_ne notSource, Function.update_of_ne notTarget] using leads

theorem change_sparing (filler : Byte) (directory : Directory Name Byte)
    (call : Change Name Byte) :
    Sparing (fun file => ∃ name ∈ call.names, directory.entries name = some file) directory
      (directory.change filler call) := by
  cases call with
  | create name =>
      cases leads : directory.entries name with
      | none => exact (directory.create_sparing _ name leads).1
      | some file =>
          refine (directory.create_sparing_old name file leads).mono ?_
          rintro other rfl
          exact ⟨name, List.mem_singleton_self name, leads⟩
  | write name offset bytes =>
      simp only [change]
      split
      · rename_i file leads
        refine (directory.writeAt_sparing filler file offset bytes).mono ?_
        rintro other rfl
        exact ⟨name, List.mem_singleton_self name, leads⟩
      · exact .refl _ directory
  | remove name =>
      cases leads : directory.entries name with
      | none => exact directory.remove_sparing_none _ name leads
      | some file =>
          refine (directory.remove_sparing name file leads).mono ?_
          rintro other rfl
          exact ⟨name, List.mem_singleton_self name, leads⟩
  | rename source target =>
      simp only [change]
      cases renamed : directory.rename source target with
      | none => exact .refl _ directory
      | some after =>
          refine (directory.rename_sparing after source target renamed).mono ?_
          rintro file (leads | leads)
          · exact ⟨source, by simp [Change.names], leads⟩
          · exact ⟨target, by simp [Change.names], leads⟩

theorem change_entries (filler : Byte) (directory : Directory Name Byte)
    (call : Change Name Byte) (name : Name) (other : name ∉ call.names) :
    (directory.change filler call).entries name = directory.entries name := by
  cases call with
  | create created =>
      have different : name ≠ created := List.ne_of_not_mem_cons other
      simp only [change, create]
      split
      · rfl
      · exact Function.update_of_ne different ..
  | write written offset bytes =>
      simp only [change]
      split <;> rfl
  | remove removed => exact Function.update_of_ne (List.ne_of_not_mem_cons other) ..
  | rename source target =>
      simp only [change]
      cases renamed : directory.rename source target with
      | none => rfl
      | some after =>
          refine (directory.rename_within after source target renamed).entries name ?_
          simpa [Change.names] using other

end Directory

end Volume
