import KernelManager.Court.VmComparators

/-! One run of a VM court: the files of the two sides and the comparators that read them. -/

namespace KernelManager

structure VmSides (Content : Type) where
  oracle : VmFiles Content
  candidate : VmFiles Content

structure VmCourt where
  scx : Bool := false
  packaging : Bool := false
  boot : Bool := false
  bootRemove : Bool := false
  bootFailure : Bool := false
  bootDrift : Bool := false
  makepkg : Bool := false
  guiDrive : Bool := false
  i18nRendered : Bool := false
  closeTransaction : Bool := false
  terminalMatrix : Bool := false
  transaction : Bool := false
  configure : Bool := false
  mutation : Bool := false
  deriving DecidableEq, Repr

def VmCourt.comparators (kind : VmCourt) : List VmComparator :=
  (if kind.scx then [.scx]
    else if kind.packaging then [.packaging]
    else if kind.boot || kind.bootRemove || kind.bootFailure || kind.bootDrift then [.boot]
    else if kind.makepkg then [.makepkg]
    else if kind.guiDrive then [.guiDrive]
    else if kind.i18nRendered then [.i18nRendered]
    else if kind.closeTransaction then [.closeTransaction]
    else if !kind.terminalMatrix then [.observations]
    else []) ++
    (if kind.terminalMatrix then [.terminalMatrix] else []) ++
      (if kind.transaction || kind.configure then [.transactions] else []) ++
        (if kind.mutation then [.mutation] else [])

section

variable {Content : Type}

def pullFiles (outDir share : VmFiles Content) : VmFiles Content := outDir ∪ share

/-- Without a residual the rename fails, and the failure is ignored. -/
def renameResidual (files : VmFiles Content) : VmFiles Content :=
  match files[residualFile]? with
  | none => files
  | some residual => (files.erase residualFile).insert candidateResidualFile residual

def VmSides.afterRun (prior produced : VmSides Content) : VmSides Content where
  oracle := pullFiles prior.oracle produced.oracle
  candidate := renameResidual (pullFiles prior.candidate produced.candidate)

def VmSides.ofRun (produced : VmSides Content) : VmSides Content where
  oracle := produced.oracle
  candidate := renameResidual produced.candidate

section

variable [DecidableEq Content] (formats : VmFormats Content) (model : CompanionModel)
  (court : String)

def compareAll (sides : VmSides Content) : List VmComparator → Option (List Residual)
  | [] => some []
  | comparator :: comparators => do
      let first ← comparator.compare formats court sides.oracle sides.candidate model
      let rest ← compareAll sides comparators
      return first ++ rest

/-- The residuals of a run; a side that fails or a file that cannot be compared ends it. -/
def courtRunVm (kind : VmCourt) (prior : VmSides Content)
    (oracleShare candidateShare : Option (VmFiles Content)) : Option (List Residual) := do
  let oracle ← oracleShare
  let candidate ← candidateShare
  compareAll formats model court (prior.afterRun { oracle, candidate }) kind.comparators

end

def VmComparator.ReadsOnly (comparator : VmComparator) (prior produced : VmSides Content) : Prop :=
  (∀ name : String, comparator.ReadsOracle name →
      (prior.afterRun produced).oracle[name]? = produced.ofRun.oracle[name]?) ∧
    ∀ name : String, comparator.ReadsCandidate (prior.afterRun produced).oracle name →
      (prior.afterRun produced).candidate[name]? = produced.ofRun.candidate[name]?

def ResidualRenewed (prior produced : VmFiles Content) : Prop :=
  residualFile ∈ produced ∨
    (residualFile ∈ prior ∧ prior[residualFile]? = produced[candidateResidualFile]?) ∨
      (residualFile ∉ prior ∧
        (candidateResidualFile ∈ prior → candidateResidualFile ∈ produced))

def VmComparator.Renewed (comparator : VmComparator) (prior produced : VmSides Content) : Prop :=
  (∀ name : String, comparator.ReadsOracle name → name ∈ prior.oracle → name ∈ produced.oracle) ∧
    (∀ name : String, comparator.ReadsCandidate (prior.afterRun produced).oracle name →
      name ≠ candidateResidualFile → name ≠ residualFile → name ∈ prior.candidate →
        name ∈ produced.candidate) ∧
      (comparator.ReadsCandidate (prior.afterRun produced).oracle candidateResidualFile →
        ResidualRenewed prior.candidate produced.candidate)

theorem pullFiles_getElem (outDir share : VmFiles Content) (name : String) :
    (pullFiles outDir share)[name]? = (share[name]?).or outDir[name]? :=
  Std.TreeMap.getElem?_union

theorem pullFiles_fresh (outDir share : VmFiles Content) (name : String) :
    (pullFiles outDir share)[name]? = share[name]? ↔ (name ∈ outDir → name ∈ share) := by
  rw [pullFiles_getElem, Std.TreeMap.mem_iff_isSome_getElem?, Std.TreeMap.mem_iff_isSome_getElem?]
  cases share[name]? <;> cases outDir[name]? <;> simp

theorem renameResidual_renamed (files : VmFiles Content) :
    (renameResidual files)[candidateResidualFile]? =
      (files[residualFile]?).or files[candidateResidualFile]? := by
  unfold renameResidual
  cases residual : files[residualFile]? with
  | none => simp
  | some content => simp

theorem renameResidual_moved (files : VmFiles Content) :
    (renameResidual files)[residualFile]? = none := by
  have differs : compare candidateResidualFile residualFile ≠ .eq := by decide
  unfold renameResidual
  cases residual : files[residualFile]? with
  | none => exact residual
  | some content =>
      rw [Std.TreeMap.getElem?_insert, if_neg differs, Std.TreeMap.getElem?_erase]
      simp

theorem renameResidual_other (files : VmFiles Content) (name : String)
    (notRenamed : name ≠ candidateResidualFile) (notResidual : name ≠ residualFile) :
    (renameResidual files)[name]? = files[name]? := by
  unfold renameResidual
  cases files[residualFile]? with
  | none => rfl
  | some content =>
      rw [Std.TreeMap.getElem?_insert, if_neg, Std.TreeMap.getElem?_erase, if_neg]
      · rw [Std.LawfulEqCmp.compare_eq_iff_eq]
        exact Ne.symm notResidual
      · rw [Std.LawfulEqCmp.compare_eq_iff_eq]
        exact Ne.symm notRenamed

theorem residual_fresh (outDir share : VmFiles Content) :
    (renameResidual (pullFiles outDir share))[candidateResidualFile]? =
        (renameResidual share)[candidateResidualFile]? ↔
      ResidualRenewed outDir share := by
  rw [renameResidual_renamed, renameResidual_renamed, pullFiles_getElem, pullFiles_getElem,
    ResidualRenewed]
  simp only [Std.TreeMap.mem_iff_isSome_getElem?]
  cases share[residualFile]? with
  | some residual => simp
  | none =>
      cases outDir[residualFile]? with
      | some residual => simp
      | none =>
          cases share[candidateResidualFile]? <;> cases outDir[candidateResidualFile]? <;> simp

/-- A comparator reads only files of this run exactly if those of earlier runs were renewed. -/
theorem readsOnly_iff_renewed (comparator : VmComparator) (prior produced : VmSides Content) :
    comparator.ReadsOnly prior produced ↔ comparator.Renewed prior produced := by
  have oracle : ∀ name : String,
      (prior.afterRun produced).oracle[name]? = produced.ofRun.oracle[name]? ↔
        (name ∈ prior.oracle → name ∈ produced.oracle) :=
    fun name => pullFiles_fresh prior.oracle produced.oracle name
  have residual : (prior.afterRun produced).candidate[candidateResidualFile]? =
      produced.ofRun.candidate[candidateResidualFile]? ↔
        ResidualRenewed prior.candidate produced.candidate :=
    residual_fresh prior.candidate produced.candidate
  have moved : (prior.afterRun produced).candidate[residualFile]? =
      produced.ofRun.candidate[residualFile]? := by
    simp only [VmSides.afterRun, VmSides.ofRun, renameResidual_moved]
  have other : ∀ name : String, name ≠ candidateResidualFile → name ≠ residualFile →
      ((prior.afterRun produced).candidate[name]? = produced.ofRun.candidate[name]? ↔
        (name ∈ prior.candidate → name ∈ produced.candidate)) := by
    intro name notRenamed notResidual
    simp only [VmSides.afterRun, VmSides.ofRun]
    rw [renameResidual_other _ name notRenamed notResidual,
      renameResidual_other _ name notRenamed notResidual]
    exact pullFiles_fresh prior.candidate produced.candidate name
  constructor
  · rintro ⟨oracleFresh, candidateFresh⟩
    refine ⟨?_, ?_, ?_⟩
    · intro name read
      exact (oracle name).mp (oracleFresh name read)
    · intro name read notRenamed notResidual
      exact (other name notRenamed notResidual).mp (candidateFresh name read)
    · intro read
      exact residual.mp (candidateFresh _ read)
  · rintro ⟨oracleRenewed, candidateRenewed, residualRenewed⟩
    refine ⟨?_, ?_⟩
    · intro name read
      exact (oracle name).mpr (oracleRenewed name read)
    · intro name read
      by_cases renamed : name = candidateResidualFile
      · rw [renamed] at read ⊢
        exact residual.mpr (residualRenewed read)
      · by_cases plain : name = residualFile
        · rw [plain]
          exact moved
        · exact (other name renamed plain).mpr (candidateRenewed name read renamed plain)

section

variable [DecidableEq Content] (formats : VmFormats Content) (model : CompanionModel)
  (court : String)

theorem compareAll_readsOnly (prior produced : VmSides Content)
    (comparators : List VmComparator)
    (fresh : ∀ comparator ∈ comparators, comparator.ReadsOnly prior produced) :
    compareAll formats model court (prior.afterRun produced) comparators =
      compareAll formats model court produced.ofRun comparators := by
  induction comparators with
  | nil => rfl
  | cons comparator comparators ih =>
      rw [List.forall_mem_cons] at fresh
      obtain ⟨oracleFresh, candidateFresh⟩ := fresh.1
      rw [compareAll, compareAll, ih fresh.2]
      rw [compare_frame formats model court _ produced.ofRun.oracle _ produced.ofRun.candidate
        comparator oracleFresh candidateFresh]

/-- The residuals of a run whose comparators' files were all renewed are those of its own
files. -/
theorem courtRunVm_renewed (kind : VmCourt) (prior produced : VmSides Content)
    (renewed : ∀ comparator ∈ kind.comparators, comparator.Renewed prior produced) :
    courtRunVm formats model court kind prior (some produced.oracle) (some produced.candidate) =
      compareAll formats model court produced.ofRun kind.comparators :=
  compareAll_readsOnly formats model court prior produced kind.comparators
    fun comparator member => (readsOnly_iff_renewed comparator prior produced).mpr
      (renewed comparator member)

end

end

namespace Sample

def driven : VmFiles String := (∅ : VmFiles String).insert "drive-semantic.json" "linux-cachyos"

def earlierDrive : VmSides String where
  oracle := driven
  candidate := driven

def undriven : VmSides String where
  oracle := (∅ : VmFiles String).insert residualFile "linux 6.12"
  candidate := (∅ : VmFiles String).insert residualFile "linux 6.12"

end Sample

/-- A sequence that this run has not recorded is read from an earlier run. -/
theorem undriven_readsEarlier :
    ¬VmComparator.guiDrive.ReadsOnly Sample.earlierDrive Sample.undriven := by
  rintro ⟨oracleFresh, _⟩
  have read : VmComparator.guiDrive.ReadsOracle "drive-semantic.json" := Or.inl (by decide)
  have fresh := (pullFiles_fresh Sample.driven Sample.undriven.oracle "drive-semantic.json").mp
    (oracleFresh _ read)
  have recorded := fresh (by simp [Sample.driven])
  have absent : compare residualFile "drive-semantic.json" ≠ .eq := by decide
  rw [Sample.undriven, Std.TreeMap.mem_insert] at recorded
  rcases recorded with same | held
  · exact absent same
  · simp at held

end KernelManager
