import KernelManager.Plan.AurDiscovery

/-! The kernel names that repository discovery and the AUR probe make of a header package. -/

namespace KernelManager

structure Stripped (headers : String) : Prop where
  agrees : kernelHeadersName headers = aurName headers
  clean : contains (kernelHeadersName headers) headersSuffix = false
  settled : kernelHeadersName (kernelHeadersName headers) = kernelHeadersName headers
  settledAur : aurName (kernelHeadersName headers) = kernelHeadersName headers

def InterruptsSuffix (headers : String) : Prop :=
  Scan.Interrupted headersSuffix.toList headers.toList

theorem kernelHeadersName_toList (headers : String) :
    (kernelHeadersName headers).toList =
      Scan.replaceAll headersSuffix.toList [] 0 headers.toList := by
  rw [kernelHeadersName, replace, String.toList_ofList]
  rfl

theorem kernelHeadersName_clean_iff (headers : String) :
    contains (kernelHeadersName headers) headersSuffix = false ↔ ¬InterruptsSuffix headers := by
  rw [contains_headersSuffix, kernelHeadersName_toList,
    Scan.replaceAll_infix_iff headersSuffix_unbordered headersSuffix_ne_nil]
  exact Iff.rfl

theorem kernelHeadersName_eq_aurName (headers : String)
    (clean : contains (kernelHeadersName headers) headersSuffix = false) :
    kernelHeadersName headers = aurName headers := by
  rw [contains_headersSuffix, kernelHeadersName_toList] at clean
  apply String.toList_inj.mp
  rw [kernelHeadersName_toList, aurName_toList]
  exact (Scan.removeAll_eq_replaceAll headersSuffix_unbordered headersSuffix_ne_nil _ clean).symm

theorem kernelHeadersName_of_clean (name : String)
    (clean : contains name headersSuffix = false) : kernelHeadersName name = name := by
  rw [contains_headersSuffix] at clean
  apply String.toList_inj.mp
  rw [kernelHeadersName_toList, Scan.replaceAll_absent [] _ clean]

/-- The single replacement strips as the loop does exactly on a text without an interrupted
`-headers`. -/
theorem stripped_iff (headers : String) : Stripped headers ↔ ¬InterruptsSuffix headers := by
  constructor
  · intro stripped
    exact (kernelHeadersName_clean_iff headers).mp stripped.clean
  · intro whole
    have clean := (kernelHeadersName_clean_iff headers).mpr whole
    have settled := kernelHeadersName_of_clean _ clean
    refine ⟨kernelHeadersName_eq_aurName headers clean, clean, settled, ?_⟩
    rw [← kernelHeadersName_eq_aurName (kernelHeadersName headers) (by rw [settled]; exact clean)]
    exact settled

/-- A suffix inside another one is put together by the replacement and stays in the name. -/
theorem interruptedSuffix_remains :
    kernelHeadersName "linux-hea-headersders" = "linux-headers" ∧
      aurName "linux-hea-headersders" = "linux" ∧ ¬Stripped "linux-hea-headersders" := by
  have replaced : kernelHeadersName "linux-hea-headersders" = "linux-headers" := by decide
  have removed : aurName "linux-hea-headersders" = "linux" := by decide
  refine ⟨replaced, removed, ?_⟩
  intro stripped
  have same := stripped.agrees
  rw [replaced, removed] at same
  exact absurd same (by decide)

end KernelManager
