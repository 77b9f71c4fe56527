import KernelManager.Core.Discovery
import KernelManager.Core.Selection
import Mathlib.Data.List.Sort

/-! The rows of the main window and their sort order. -/

namespace KernelManager

structure KernelRowView where
  raw : String
  versionText : String
  category : String
  checked : Bool
  immutable : Bool
  updateAvailable : Bool
  deriving DecidableEq, Repr

abbrev Provenance := Option String × String

def versionText (kernel : DiscoveredKernel) (installedVersion : Option String)
    (vercmp : String → String → Ordering) : String × Bool :=
  if kernel.repo = "aur" then ("unknown-version", false)
  else
    let display := match installedVersion with
      | some localVersion => DisplayVersion.compute (some localVersion) kernel.version vercmp
      | none => DisplayVersion.compute none kernel.version fun _ _ => .eq
    (display.text, display.update)

def rowView (installed : String → Option Provenance) (vercmp : String → String → Ordering)
    (kernel : DiscoveredKernel) : KernelRowView :=
  let provenance := installed kernel.name
  let (text, update) := versionText kernel (provenance.map (·.2)) vercmp
  let immutable := match provenance with
    | some (none, _) => true
    | some (some db, _) => decide (db = kernel.repo)
    | none => false
  { raw := kernel.raw
    versionText := text
    category := (classifyCategory kernel.name).display
    checked := provenance.isSome && immutable
    immutable := immutable
    updateAvailable := update }

def rows (kernels : List DiscoveredKernel) (installed : String → Option Provenance)
    (vercmp : String → String → Ordering) : List KernelRowView :=
  kernels.map (rowView installed vercmp)

def versionSortKey (text : String) : String :=
  match text.toList with
  | symbol :: rest =>
      if symbol = downgradeMarker ∨ symbol = updateMarker then String.ofList rest else text
  | [] => text

def sortText (row : KernelRowView) : Nat → String
  | 0 => ""
  | 1 => row.raw
  | 2 => versionSortKey row.versionText
  | _ => row.category

def compareRows (vercmp : String → String → Ordering) (column : Nat) (ascending : Bool)
    (left right : KernelRowView) : Ordering :=
  let order :=
    if column = 2 then
      vercmp (versionSortKey left.versionText) (versionSortKey right.versionText)
    else compare (sortText left column) (sortText right column)
  if ascending then order else order.swap

def sortRows (vercmp : String → String → Ordering) (column : Nat) (ascending : Bool)
    (rows : List KernelRowView) : List KernelRowView :=
  rows.insertionSort fun left right => compareRows vercmp column ascending left right ≠ .gt

theorem rowView_unchanged (installed : String → Option Provenance)
    (vercmp : String → String → Ordering) (kernel : DiscoveredKernel) :
    (rowView installed vercmp kernel).checked = (rowView installed vercmp kernel).immutable := by
  unfold rowView
  rcases installed kernel.name with _ | ⟨_ | db, version⟩ <;> simp

end KernelManager
