import KernelManager.Library.Scan
import Mathlib.Data.List.Infix

/-! Kernel names, categories and version display. -/

namespace KernelManager

def downgradeMarker : Char := '∨'

def updateMarker : Char := '∧'

inductive KernelCategory
  | ltoOptimized | longterm | zen | hardened | deckify | server | nextRelease | mainline
  | git | rc | stable
  deriving DecidableEq, Repr

def KernelCategory.display : KernelCategory → String
  | .ltoOptimized => "lto optimized"
  | .longterm => "longterm"
  | .zen => "zen-kernel"
  | .hardened => "hardened kernel"
  | .deckify => "handheld kernel"
  | .server => "server kernel"
  | .nextRelease => "next release"
  | .mainline => "mainline branch"
  | .git => "master branch"
  | .rc => "release candidate"
  | .stable => "stable"

def categoryNeedles : List (String × KernelCategory) :=
  [("lto", .ltoOptimized), ("lts", .longterm), ("zen", .zen), ("hardened", .hardened),
    ("deckify", .deckify), ("server", .server), ("next", .nextRelease),
    ("mainline", .mainline), ("git", .git), ("rc", .rc)]

def contains (text needle : String) : Bool :=
  Scan.contains needle.toList text.toList

def startsWith (text start : String) : Bool :=
  start.toList.isPrefixOf text.toList

def endsWith (text ending : String) : Bool :=
  ending.toList.isSuffixOf text.toList

def replace (text pattern replacement : String) : String :=
  String.ofList (Scan.replaceAll pattern.toList replacement.toList 0 text.toList)

def classifyCategory (name : String) : KernelCategory :=
  match categoryNeedles.find? (fun entry => contains name entry.1) with
  | some (_, category) => category
  | none => .stable

def headersSuffix : String := "-headers"

def matchesHeadersNeedle (name : String) : Bool :=
  name.toList.tails.any fun rest =>
    "linux".toList.isPrefixOf rest &&
      match Scan.find headersSuffix.toList (rest.drop 5) with
      | some position => ((rest.drop 5).take position).all (· ≠ ' ')
      | none => false

def kernelHeadersName (headersName : String) : String :=
  replace headersName headersSuffix ""

def isApiHeaders (name : String) : Bool :=
  contains name "linux-api-headers"

structure DisplayVersion where
  text : String
  update : Bool
  deriving DecidableEq, Repr

def DisplayVersion.compute (installed : Option String) (sync : String)
    (vercmp : String → String → Ordering) : DisplayVersion :=
  match installed with
  | none => ⟨sync, false⟩
  | some localVersion =>
      match vercmp localVersion sync with
      | .gt => ⟨downgradeMarker.toString ++ localVersion, false⟩
      | .lt => ⟨updateMarker.toString ++ sync, true⟩
      | .eq => ⟨sync, false⟩

theorem kernelHeadersName_length_mod (headersName : String) :
    (kernelHeadersName headersName).toList.length % 8 = headersName.toList.length % 8 := by
  have mod := Scan.replaceAll_nil_length_mod headersSuffix.toList headersName.toList (by decide)
  have eight : headersSuffix.toList.length = 8 := by decide
  simpa [kernelHeadersName, replace, eight] using mod

theorem matchesHeadersNeedle_occurs (name : String) (matched : matchesHeadersNeedle name = true) :
    headersSuffix.toList <:+: name.toList := by
  obtain ⟨rest, member, found⟩ := List.any_eq_true.mp matched
  have later : rest <:+: name.toList := ((List.mem_tails rest name.toList).mp member).isInfix
  simp only [Bool.and_eq_true] at found
  cases located : Scan.find headersSuffix.toList (rest.drop 5) with
  | none => simp [located] at found
  | some position =>
      have inside := Scan.find_inside _ _ position located
      exact (inside.trans (List.drop_suffix 5 rest).isInfix).trans later

theorem kernelHeadersName_ne (headersName : String)
    (matched : matchesHeadersNeedle headersName = true) :
    kernelHeadersName headersName ≠ headersName := by
  intro same
  have shorter := Scan.replaceAll_nil_length_lt headersSuffix.toList headersName.toList
    (by decide) (matchesHeadersNeedle_occurs headersName matched)
  have lengths := congrArg (fun text => text.toList.length) same
  simp only [kernelHeadersName, replace, String.toList_ofList, String.toList_empty] at lengths
  omega

end KernelManager
