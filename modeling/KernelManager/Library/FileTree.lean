import Mathlib.Data.List.Basic

/-!
Directory trees, and the walk over one with a stack of directories that are still to be read.
-/

namespace FileTree

variable {Content Result : Type*}

/-- The entries of a directory in the order in which they are read; an unreadable entry is a
file or a directory that cannot be opened. -/
inductive Listing (Content : Type*)
  | done
  | file (name : String) (content : Content) (rest : Listing Content)
  | unreadable (name : String) (rest : Listing Content)
  | directory (name : String) (inner rest : Listing Content)
  deriving Repr

def joinPath (base name : String) : String :=
  if base.isEmpty then name else base ++ "/" ++ name

abbrev Stack (Content : Type*) := List (String × Listing Content)

def readDir (add : Result → String → Content → Result) (base : String) :
    Listing Content → Stack Content → Result → Option (Stack Content × Result)
  | .done, stack, out => some (stack, out)
  | .file name content rest, stack, out =>
      readDir add base rest stack (add out (joinPath base name) content)
  | .unreadable _ _, _, _ => none
  | .directory name inner rest, stack, out =>
      readDir add base rest ((joinPath base name, inner) :: stack) out

def Listing.directories : Listing Content → Nat
  | .done => 0
  | .file _ _ rest | .unreadable _ rest => rest.directories
  | .directory _ inner rest => 1 + inner.directories + rest.directories

def Stack.directories : Stack Content → Nat
  | [] => 0
  | entry :: stack => 1 + entry.2.directories + Stack.directories stack

theorem readDir_directories (add : Result → String → Content → Result) (base : String)
    (listing : Listing Content) (stack next : Stack Content) (out final : Result)
    (read : readDir add base listing stack out = some (next, final)) :
    Stack.directories next = Stack.directories stack + listing.directories := by
  induction listing generalizing stack out with
  | done =>
      obtain ⟨rfl, rfl⟩ := Prod.mk.inj (Option.some.inj read)
      rfl
  | file name content rest ih => exact ih stack _ read
  | unreadable name rest ih => cases read
  | directory name inner rest innerIh ih =>
      have rest := ih _ out read
      simp only [Stack.directories, Listing.directories] at rest ⊢
      omega

/-- Reads the directories on the stack, the last one first. -/
def walk (add : Result → String → Content → Result) (stack : Stack Content) (out : Result) :
    Option Result :=
  match stack with
  | [] => some out
  | (base, listing) :: stack =>
      match _ : readDir add base listing stack out with
      | none => none
      | some (next, final) => walk add next final
termination_by Stack.directories stack
decreasing_by
  rename_i read
  have size := readDir_directories add base listing stack next out final read
  simp only [Stack.directories] at size ⊢
  omega

def Listing.Holds : Listing Content → String → String → Content → Prop
  | .done, _, _, _ => False
  | .file name content rest, base, path, held =>
      (path = joinPath base name ∧ held = content) ∨ rest.Holds base path held
  | .unreadable _ rest, base, path, held => rest.Holds base path held
  | .directory name inner rest, base, path, held =>
      inner.Holds (joinPath base name) path held ∨ rest.Holds base path held

def Listing.Readable : Listing Content → Prop
  | .done => True
  | .file _ _ rest => rest.Readable
  | .unreadable _ _ => False
  | .directory _ inner rest => inner.Readable ∧ rest.Readable

def Stack.Holds (stack : Stack Content) (path : String) (content : Content) : Prop :=
  ∃ entry ∈ stack, entry.2.Holds entry.1 path content

theorem Stack.holds_cons (base : String) (listing : Listing Content) (stack : Stack Content)
    (path : String) (content : Content) :
    Stack.Holds ((base, listing) :: stack) path content ↔
      listing.Holds base path content ∨ Stack.Holds stack path content := by
  simp [Stack.Holds]

theorem readDir_holds (add : Result → String → Content → Result) (base : String)
    (listing : Listing Content) (stack next : Stack Content) (out final : Result)
    (read : readDir add base listing stack out = some (next, final)) :
    ∃ files : List (String × Content),
      final = files.foldl (fun out file => add out file.1 file.2) out ∧
      ∀ path content, (path, content) ∈ files ∨ Stack.Holds next path content ↔
        listing.Holds base path content ∨ Stack.Holds stack path content := by
  induction listing generalizing stack out with
  | done =>
      obtain ⟨rfl, rfl⟩ := Prod.mk.inj (Option.some.inj read)
      exact ⟨[], rfl, by simp [Listing.Holds]⟩
  | file name content rest ih =>
      obtain ⟨files, folded, held⟩ := ih stack _ read
      refine ⟨(joinPath base name, content) :: files, folded, ?_⟩
      intro path found
      have rest := held path found
      simp only [List.mem_cons, Prod.mk.injEq, Listing.Holds, or_assoc, rest]
  | unreadable name rest ih => cases read
  | directory name inner rest innerIh ih =>
      obtain ⟨files, folded, held⟩ := ih _ out read
      refine ⟨files, folded, ?_⟩
      intro path found
      rw [held path found, Stack.holds_cons, Listing.Holds]
      tauto

/-- A walk adds exactly the files that its directories hold. -/
theorem walk_holds (add : Result → String → Content → Result) (stack : Stack Content)
    (out final : Result) (walked : walk add stack out = some final) :
    ∃ files : List (String × Content),
      final = files.foldl (fun out file => add out file.1 file.2) out ∧
      ∀ path content, (path, content) ∈ files ↔ Stack.Holds stack path content := by
  induction stack, out using walk.induct add with
  | case1 out =>
      rw [walk] at walked
      obtain rfl := Option.some.inj walked
      exact ⟨[], rfl, by simp [Stack.Holds]⟩
  | case2 out base listing stack read =>
      rw [walk] at walked
      split at walked
      · cases walked
      · rename_i same
        rw [read] at same
        cases same
  | case3 out base listing stack next between read ih =>
      rw [walk] at walked
      split at walked
      · cases walked
      · rename_i same
        obtain ⟨rfl, rfl⟩ := Prod.mk.inj (Option.some.inj (read.symm.trans same))
        obtain ⟨later, laterFolded, laterHeld⟩ := ih walked
        obtain ⟨files, folded, held⟩ := readDir_holds add base listing stack _ out _ read
        refine ⟨files ++ later, ?_, ?_⟩
        · rw [laterFolded, folded, List.foldl_append]
        · intro path content
          rw [List.mem_append, laterHeld, held, Stack.holds_cons]

theorem readDir_readable (add : Result → String → Content → Result) (base : String)
    (listing : Listing Content) (stack : Stack Content) (out : Result) :
    (listing.Readable ∧ ∀ entry ∈ stack, entry.2.Readable) ↔
      ∃ next final, readDir add base listing stack out = some (next, final) ∧
        ∀ entry ∈ next, entry.2.Readable := by
  induction listing generalizing stack out with
  | done => simp [Listing.Readable, readDir]
  | file name content rest ih => exact ih stack _
  | unreadable name rest ih => simp [Listing.Readable, readDir]
  | directory name inner rest innerIh ih =>
      rw [readDir, ← ih, List.forall_mem_cons, Listing.Readable]
      tauto

/-- A walk fails exactly if it meets an entry that it cannot read. -/
theorem walk_readable (add : Result → String → Content → Result) (stack : Stack Content)
    (out : Result) :
    (walk add stack out).isSome = true ↔ ∀ entry ∈ stack, entry.2.Readable := by
  induction stack, out using walk.induct add with
  | case1 out => simp [walk]
  | case2 out base listing stack read =>
      rw [walk, List.forall_mem_cons, readDir_readable add base listing stack out]
      split <;> simp_all
  | case3 out base listing stack next between read ih =>
      rw [walk, List.forall_mem_cons, readDir_readable add base listing stack out]
      split
      · simp_all
      · rename_i same
        obtain ⟨rfl, rfl⟩ := Prod.mk.inj (Option.some.inj (read.symm.trans same))
        rw [ih]
        simp [read]

end FileTree
