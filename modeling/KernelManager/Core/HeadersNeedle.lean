import KernelManager.Core.Kernel
import KernelManager.Library.Utf8
import Mathlib.Computability.Language

/-! The needle of the header packages, which is matched on bytes, and its regular expression. -/

namespace KernelManager

open scoped Computability

def linuxBytes : List UInt8 := Utf8.encode "linux".toList

def headersBytes : List UInt8 := Utf8.encode headersSuffix.toList

def findSubslice (haystack needle : List UInt8) : Option Nat := Scan.find needle haystack

def matchesHeadersNeedleBytes (bytes : List UInt8) : Bool :=
  bytes.tails.any fun rest =>
    linuxBytes.isPrefixOf rest &&
      match findSubslice (rest.drop linuxBytes.length) headersBytes with
      | some rel => ((rest.drop linuxBytes.length).take rel).all (· ≠ Utf8.byte ' ')
      | none => false

def nonSpace : Language UInt8 := {word | ∃ byte, byte ≠ Utf8.byte ' ' ∧ word = [byte]}

/-- The language of `linux[^ ]*-headers`. -/
def headersNeedle : Language UInt8 := {linuxBytes} * nonSpace∗ * {headersBytes}

theorem mem_nonSpace_kstar (word : List UInt8) :
    word ∈ nonSpace∗ ↔ word.all (· ≠ Utf8.byte ' ') = true := by
  rw [Language.mem_kstar, List.all_eq_true]
  simp only [decide_eq_true_eq]
  constructor
  · rintro ⟨pieces, rfl, plain⟩ byte member
    obtain ⟨piece, inside, holds⟩ := List.mem_flatten.mp member
    obtain ⟨other, free, rfl⟩ := plain piece inside
    obtain rfl := List.mem_singleton.mp holds
    exact free
  · intro plain
    refine ⟨word.map fun byte => [byte], (List.flatMap_singleton' word).symm, ?_⟩
    intro piece member
    obtain ⟨byte, inside, rfl⟩ := List.mem_map.mp member
    exact ⟨byte, plain byte inside, rfl⟩

theorem mem_headersNeedle (word : List UInt8) :
    word ∈ headersNeedle ↔
      ∃ between, word = linuxBytes ++ (between ++ headersBytes) ∧
        between.all (· ≠ Utf8.byte ' ') = true := by
  simp only [headersNeedle, Language.mem_mul]
  constructor
  · rintro ⟨_, ⟨_, rfl, between, plain, rfl⟩, _, rfl, rfl⟩
    exact ⟨between, List.append_assoc _ _ _, (mem_nonSpace_kstar between).mp plain⟩
  · rintro ⟨between, rfl, plain⟩
    exact ⟨linuxBytes ++ between, ⟨linuxBytes, rfl, between, (mem_nonSpace_kstar between).mpr plain,
      rfl⟩, headersBytes, rfl, List.append_assoc _ _ _⟩

theorem matchesHeadersNeedleBytes_iff (bytes : List UInt8) :
    matchesHeadersNeedleBytes bytes = true ↔ ∃ word ∈ headersNeedle, word <:+: bytes := by
  have scan := Scan.spans_iff linuxBytes headersBytes (· ≠ Utf8.byte ' ') bytes
  rw [show matchesHeadersNeedleBytes bytes = Scan.spans linuxBytes headersBytes _ bytes from rfl,
    scan]
  constructor
  · rintro ⟨before, between, after, rfl, plain⟩
    refine ⟨_, (mem_headersNeedle _).mpr ⟨between, rfl, plain⟩, before, after, ?_⟩
    simp only [List.append_assoc]
  · rintro ⟨word, member, before, after, rfl⟩
    obtain ⟨between, rfl, plain⟩ := (mem_headersNeedle word).mp member
    refine ⟨before, between, after, ?_, plain⟩
    simp only [List.append_assoc]

theorem linux_ascii : ∀ symbol ∈ "linux".toList, Utf8.Ascii symbol := by
  simp [Utf8.Ascii]

theorem headersSuffix_ascii : ∀ symbol ∈ headersSuffix.toList, Utf8.Ascii symbol := by
  simp [headersSuffix, Utf8.Ascii]

theorem plain_bytes_iff (text : List Char) :
    (Utf8.encode text).all (· ≠ Utf8.byte ' ') = true ↔ text.all (· ≠ ' ') = true := by
  have space : Utf8.byte ' ' ∈ Utf8.encode text ↔ ' ' ∈ text :=
    Utf8.byte_mem_encode (by decide) text
  simp only [List.all_eq_true, decide_eq_true_eq]
  constructor
  · intro plain symbol member same
    exact plain _ (space.mpr (same ▸ member)) rfl
  · intro plain byte member same
    exact plain _ (space.mp (same ▸ member)) rfl

theorem matchesHeadersNeedleBytes_encode (name : String) :
    matchesHeadersNeedleBytes (Utf8.encode name.toList) = matchesHeadersNeedle name := by
  have bytes := Scan.spans_iff linuxBytes headersBytes (· ≠ Utf8.byte ' ')
    (Utf8.encode name.toList)
  have characters := Scan.spans_iff "linux".toList headersSuffix.toList (· ≠ ' ') name.toList
  rw [Bool.eq_iff_iff]
  refine bytes.trans (Iff.trans ?_ characters.symm)
  constructor
  · rintro ⟨before, between, after, whole, plain⟩
    obtain ⟨first, rest, spelled, _, following⟩ :=
      Utf8.encode_eq_append_pattern "linux".toList (by decide) linux_ascii name.toList before
        (between ++ (headersBytes ++ after)) (by rw [whole, List.append_assoc]; rfl)
    obtain ⟨middle, last, rfl, inner, _⟩ :=
      Utf8.encode_eq_append_pattern headersSuffix.toList (by decide) headersSuffix_ascii rest
        between after (by rw [following, List.append_assoc]; rfl)
    refine ⟨first, middle, last, ?_, ?_⟩
    · rw [spelled]
      simp only [List.append_assoc]
    · rwa [← plain_bytes_iff, inner]
  · rintro ⟨first, middle, last, spelled, plain⟩
    refine ⟨Utf8.encode first, Utf8.encode middle, Utf8.encode last, ?_,
      (plain_bytes_iff middle).mpr plain⟩
    rw [spelled]
    simp only [Utf8.encode_append, linuxBytes, headersBytes]

/-- A name matches exactly if its bytes have a word of `linux[^ ]*-headers` in them. -/
theorem matchesHeadersNeedle_iff_language (name : String) :
    (matchesHeadersNeedleBytes (Utf8.encode name.toList) = true ↔
      ∃ word ∈ headersNeedle, word <:+: Utf8.encode name.toList) ∧
      (matchesHeadersNeedle name = true ↔
        ∃ word ∈ headersNeedle, word <:+: Utf8.encode name.toList) := by
  have scan := matchesHeadersNeedleBytes_iff (Utf8.encode name.toList)
  exact ⟨scan, matchesHeadersNeedleBytes_encode name ▸ scan⟩

end KernelManager
