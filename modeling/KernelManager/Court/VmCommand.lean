import KernelManager.Court.VmRun
import KernelManager.Library.ShellWords

/-! The command lines that a VM court runs in its two machines. -/

namespace KernelManager

inductive VmSide
  | oracle
  | candidate
  deriving DecidableEq, Repr

structure MutationSpec where
  customName : String
  patchUrl : String
  deriving DecidableEq, Repr

def shellQuote (text : String) : String := "'" ++ replace text "'" "'\\''" ++ "'"

def oracleScript (kind : VmCourt) : String :=
  if kind.closeTransaction then "oracle-close-transaction.sh"
  else if kind.i18nRendered then "oracle-i18n-drive.sh"
  else if kind.guiDrive then "oracle-gui-drive.sh"
  else if kind.scx then "scx-loader-observe.sh"
  else if kind.bootFailure then "oracle-fail-boot.sh"
  else if kind.bootRemove then "oracle-remove-boot.sh"
  else if kind.boot || kind.bootDrift then "oracle-boot-install.sh"
  else if kind.makepkg then "oracle-makepkg.sh"
  else if kind.packaging then "upgrade.sh"
  else if kind.mutation then "oracle-mutate.sh"
  else if kind.configure then "oracle-configure.sh"
  else if kind.transaction then "oracle-transact.sh"
  else "oracle-observe.sh"

def candidateScript (kind : VmCourt) : String :=
  if kind.closeTransaction then "candidate-close-transaction.sh"
  else if kind.i18nRendered then "candidate-i18n-drive.sh"
  else if kind.guiDrive then "candidate-gui-drive.sh"
  else if kind.scx then "scx-loader-candidate.sh"
  else if kind.bootFailure then "candidate-fail-boot.sh"
  else if kind.bootRemove then "candidate-remove-boot.sh"
  else if kind.boot || kind.bootDrift then "candidate-boot-install.sh"
  else if kind.makepkg then "candidate-makepkg.sh"
  else if kind.packaging then "upgrade.sh"
  else if kind.mutation then "candidate-mutate.sh"
  else if kind.configure then "candidate-gitcache.sh"
  else if kind.transaction then "candidate-plan.sh"
  else "candidate-observe.sh"

def vmScript (kind : VmCourt) : VmSide → String
  | .oracle => oracleScript kind
  | .candidate => candidateScript kind

def terminalHelper : VmSide → String
  | .oracle => "/usr/lib/cachyos-kernel-manager/terminal-helper"
  | .candidate => "/mnt/host/packaging/terminal-helper"

def baseCommand (kind : VmCourt) (side : VmSide) : String :=
  "bash /mnt/host/scripts/" ++ vmScript kind side ++ " /mnt/host/out"

def mutateArguments (spec : MutationSpec) : String :=
  " --custom-name " ++ shellQuote spec.customName ++ " --patch-url " ++ shellQuote spec.patchUrl

/-- The line for `vm-ctl exec`; the selected rows are appended as they stand. -/
def vmCommand (kind : VmCourt) (side : VmSide) (mutateSpec : Option MutationSpec)
    (txSelect : List String) : String :=
  if kind.terminalMatrix then
    "bash /mnt/host/scripts/terminal-matrix-run.sh " ++ terminalHelper side ++ " /mnt/host/out"
  else
    txSelect.foldl (fun cmd raw => cmd ++ " " ++ raw)
      (baseCommand kind side ++ (mutateSpec.map mutateArguments).getD "")

def splitWords (line : String) : Option (List String) :=
  (ShellWords.split line.toList).map (·.map String.ofList)

theorem shellQuote_toList (text : String) :
    (shellQuote text).toList = ShellWords.quote text.toList := by
  simp only [shellQuote, replace, String.toList_append, String.toList_ofList, List.append_assoc]
  rfl

theorem splitWords_shellQuote (text : String) : splitWords (shellQuote text) = some [text] := by
  rw [splitWords, shellQuote_toList, ShellWords.split_quote]
  simp

def Ordinary (text : String) : Prop := text.toList.all ShellWords.isOrdinary = true

instance (text : String) : Decidable (Ordinary text) := inferInstanceAs (Decidable (_ = true))

theorem ordinary_ite (condition : Prop) [Decidable condition] (first second : String)
    (firstOrdinary : Ordinary first) (secondOrdinary : Ordinary second) :
    Ordinary (if condition then first else second) := by
  split
  · exact firstOrdinary
  · exact secondOrdinary

theorem vmScript_ordinary (kind : VmCourt) (side : VmSide) : Ordinary (vmScript kind side) := by
  cases side with
  | oracle =>
      rw [vmScript, oracleScript]
      iterate 12 refine ordinary_ite _ _ _ (by decide +kernel) ?_
      decide +kernel
  | candidate =>
      rw [vmScript, candidateScript]
      iterate 12 refine ordinary_ite _ _ _ (by decide +kernel) ?_
      decide +kernel

def mutationWords (kind : VmCourt) (side : VmSide) (spec : MutationSpec) : List String :=
  ["bash", "/mnt/host/scripts/" ++ vmScript kind side, "/mnt/host/out", "--custom-name",
    spec.customName, "--patch-url", spec.patchUrl]

def terminalWords (side : VmSide) : List String :=
  ["bash", "/mnt/host/scripts/terminal-matrix-run.sh", terminalHelper side, "/mnt/host/out"]

def selectedRows (txSelect : List String) : String :=
  txSelect.foldl (fun cmd raw => cmd ++ " " ++ raw) ""

def blank : Char := ' '

theorem blank_separates : ShellWords.isBlank blank = true := by decide

theorem spells_literal (text : String) (nonempty : text.toList ≠ []) (ordinary : Ordinary text) :
    ShellWords.Spells text.toList text.toList :=
  ShellWords.spells_ordinary _ nonempty ordinary

theorem spells_shellQuote (text : String) :
    ShellWords.Spells (shellQuote text).toList text.toList := by
  rw [shellQuote_toList]
  exact ShellWords.spells_quote text.toList

theorem ordinary_append (left right : String) (leftOrdinary : Ordinary left)
    (rightOrdinary : Ordinary right) : Ordinary (left ++ right) := by
  rw [Ordinary, String.toList_append, List.all_append, leftOrdinary, rightOrdinary]
  rfl

theorem spells_script (kind : VmCourt) (side : VmSide) :
    ShellWords.Spells ("/mnt/host/scripts/" ++ vmScript kind side).toList
      ("/mnt/host/scripts/" ++ vmScript kind side).toList :=
  spells_literal _ (by simp) (ordinary_append _ _ (by decide) (vmScript_ordinary kind side))

def mutationPieces (kind : VmCourt) (side : VmSide) (spec : MutationSpec) :
    List (List Char × List Char) :=
  [("bash".toList, "bash".toList),
    (("/mnt/host/scripts/" ++ vmScript kind side).toList,
      ("/mnt/host/scripts/" ++ vmScript kind side).toList),
    ("/mnt/host/out".toList, "/mnt/host/out".toList),
    ("--custom-name".toList, "--custom-name".toList),
    ((shellQuote spec.customName).toList, spec.customName.toList),
    ("--patch-url".toList, "--patch-url".toList)]

theorem mutationPieces_spelled (kind : VmCourt) (side : VmSide) (spec : MutationSpec) :
    ∀ piece ∈ mutationPieces kind side spec, ShellWords.Spells piece.1 piece.2 := by
  simp only [mutationPieces, List.forall_mem_cons, List.not_mem_nil, false_imp_iff, implies_true,
    and_true]
  exact ⟨spells_literal "bash" (by decide) (by decide), spells_script kind side,
    spells_literal "/mnt/host/out" (by decide) (by decide),
    spells_literal "--custom-name" (by decide) (by decide), spells_shellQuote spec.customName,
    spells_literal "--patch-url" (by decide) (by decide)⟩

theorem command_toList :
    "bash /mnt/host/scripts/".toList = "bash".toList ++ blank :: "/mnt/host/scripts/".toList := by
  decide

theorem out_toList : " /mnt/host/out".toList = blank :: "/mnt/host/out".toList := by decide

theorem customName_toList :
    " --custom-name ".toList = blank :: ("--custom-name".toList ++ [blank]) := by decide

theorem patchUrl_toList :
    " --patch-url ".toList = blank :: ("--patch-url".toList ++ [blank]) := by decide

theorem mutationLine_toList (kind : VmCourt) (side : VmSide) (spec : MutationSpec) :
    (baseCommand kind side ++ mutateArguments spec).toList =
      (mutationPieces kind side spec).flatMap (fun piece => piece.1 ++ [blank]) ++
        (shellQuote spec.patchUrl).toList := by
  unfold baseCommand mutateArguments mutationPieces
  simp only [String.toList_append, command_toList, out_toList, customName_toList, patchUrl_toList,
    List.flatMap_cons, List.flatMap_nil, List.append_assoc, List.append_nil, List.cons_append,
    List.nil_append]

theorem mutationPieces_words (kind : VmCourt) (side : VmSide) (spec : MutationSpec) :
    (mutationPieces kind side spec).map Prod.snd ++ [spec.patchUrl.toList] =
      (mutationWords kind side spec).map String.toList := by
  simp only [mutationPieces, mutationWords, List.map_cons, List.map_nil, List.cons_append,
    List.nil_append]

theorem readAll_mutationLine (kind : VmCourt) (side : VmSide) (spec : MutationSpec) :
    ShellWords.Reader.readAll {} (baseCommand kind side ++ mutateArguments spec).toList =
      some { words := (mutationPieces kind side spec).map Prod.snd
             word := some spec.patchUrl.toList } := by
  have read := ShellWords.readAll_pieces blank blank_separates [] (mutationPieces kind side spec)
    (mutationPieces_spelled kind side spec) _ _ (spells_shellQuote spec.patchUrl)
  rw [List.nil_append] at read
  rw [mutationLine_toList]
  exact read

theorem readAll_mutationWords (kind : VmCourt) (side : VmSide) (spec : MutationSpec)
    (rest : List Char) :
    ShellWords.Reader.readAll {}
        ((baseCommand kind side ++ mutateArguments spec).toList ++ blank :: rest) =
      ShellWords.Reader.readAll { words := (mutationWords kind side spec).map String.toList }
        rest := by
  rw [ShellWords.readAll_ended blank blank_separates _ _ _ (readAll_mutationLine kind side spec),
    mutationPieces_words]

theorem selectedRows_append (line : String) (txSelect : List String) :
    (txSelect.foldl (fun cmd raw => cmd ++ " " ++ raw) line).toList =
      line.toList ++ txSelect.flatMap (fun raw => blank :: raw.toList) := by
  have space : " ".toList = [blank] := by decide
  induction txSelect generalizing line with
  | nil => simp
  | cons raw txSelect ih =>
      rw [List.foldl_cons, ih]
      simp only [String.toList_append, space, List.flatMap_cons, List.append_assoc,
        List.cons_append, List.nil_append]

theorem splitWords_mutationLine (kind : VmCourt) (side : VmSide) (spec : MutationSpec)
    (txSelect : List String) :
    splitWords (txSelect.foldl (fun cmd raw => cmd ++ " " ++ raw)
        (baseCommand kind side ++ mutateArguments spec)) =
      (splitWords (selectedRows txSelect)).map (mutationWords kind side spec ++ ·) := by
  have given : ((mutationWords kind side spec).map String.toList).map String.ofList =
      mutationWords kind side spec := by
    simp only [List.map_map, Function.comp_def, String.ofList_toList, List.map_id']
  rw [splitWords, splitWords, selectedRows, selectedRows_append, selectedRows_append,
    String.toList_empty, List.nil_append]
  cases txSelect with
  | nil =>
      have alone : ShellWords.split (baseCommand kind side ++ mutateArguments spec).toList =
          some ((mutationWords kind side spec).map String.toList) := by
        rw [ShellWords.split, readAll_mutationLine, ← mutationPieces_words]
        rfl
      have nothing : ShellWords.split [] = some [] := rfl
      rw [List.flatMap_nil, List.append_nil, alone, nothing]
      simp only [Option.map_some, given, List.map_nil, List.append_nil]
  | cons raw txSelect =>
      rw [List.flatMap_cons, List.cons_append, ShellWords.split_blank _ blank_separates,
        ShellWords.split_append _ blank_separates _ _ _ (readAll_mutationLine kind side spec),
        mutationPieces_words, Option.map_map, Option.map_map]
      simp only [Function.comp_def, List.map_append, given]

theorem splitWords_terminalMatrix (side : VmSide) :
    splitWords ("bash /mnt/host/scripts/terminal-matrix-run.sh " ++ terminalHelper side ++
        " /mnt/host/out") = some (terminalWords side) := by
  cases side with
  | oracle => decide +kernel
  | candidate => decide +kernel

/-- A quoted text is one word; the arguments of a mutation are read as they were given, whatever
rows are selected. -/
theorem vmCommand_recovers :
    (∀ text, splitWords (shellQuote text) = some [text]) ∧
      (∀ kind side spec rest,
        ShellWords.Reader.readAll {}
            ((baseCommand kind side ++ mutateArguments spec).toList ++ blank :: rest) =
          ShellWords.Reader.readAll { words := (mutationWords kind side spec).map String.toList }
            rest) ∧
        ∀ kind side spec txSelect,
          splitWords (vmCommand kind side (some spec) txSelect) =
            if kind.terminalMatrix then some (terminalWords side)
            else (splitWords (selectedRows txSelect)).map (mutationWords kind side spec ++ ·) := by
  refine ⟨splitWords_shellQuote, readAll_mutationWords, fun kind side spec txSelect => ?_⟩
  unfold vmCommand
  split_ifs
  · exact splitWords_terminalMatrix side
  · exact splitWords_mutationLine kind side spec txSelect

end KernelManager
