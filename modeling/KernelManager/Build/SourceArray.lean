import KernelManager.Core.Kernel
import KernelManager.Ui.ConfigureWindow

/-! The `source=(...)` block that a build writes into the PKGBUILD. -/

namespace KernelManager

def sourceEntries (origEntries patches : List String) : List String :=
  origEntries.filter (fun entry => !isPatch entry) ++ patches

def quoted (entry : String) : String := "\"" ++ entry ++ "\""

def buildSourceArray (origEntries patches : List String) : String :=
  "source=(\n" ++ "\n".intercalate ((sourceEntries origEntries patches).map quoted) ++ ")\n"

theorem mem_sourceEntries (origEntries patches : List String) (entry : String)
    (member : entry ∈ origEntries) (kept : isPatch entry = true → entry ∈ patches) :
    entry ∈ sourceEntries origEntries patches := by
  simp only [sourceEntries, List.mem_append, List.mem_filter]
  by_cases patch : isPatch entry = true
  · exact Or.inr (kept patch)
  · exact Or.inl ⟨member, by simpa using patch⟩

theorem infix_intercalate {Symbol : Type} (separator : List Symbol) (lines : List (List Symbol))
    (line : List Symbol) (member : line ∈ lines) : line <:+: separator.intercalate lines := by
  apply List.infix_of_mem_flatten
  obtain ⟨index, found⟩ := List.mem_iff_getElem?.mp member
  apply List.mem_of_getElem? (i := 2 * index)
  rw [List.getElem?_intersperse_two_mul, found]

theorem quoted_infix (origEntries patches : List String) (entry : String)
    (listed : entry ∈ sourceEntries origEntries patches) :
    (quoted entry).toList <:+: (buildSourceArray origEntries patches).toList := by
  have line : (quoted entry).toList ∈
      ((sourceEntries origEntries patches).map quoted).map String.toList :=
    List.mem_map_of_mem (List.mem_map_of_mem listed)
  have joined := infix_intercalate "\n".toList _ _ line
  rw [← String.toList_intercalate] at joined
  simp only [buildSourceArray, String.toList_append]
  exact joined.trans ⟨"source=(\n".toList, ")\n".toList, rfl⟩

end KernelManager
