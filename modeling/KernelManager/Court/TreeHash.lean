import KernelManager.Court.Receipt
import KernelManager.Library.Utf8

/-! The bytes that a tree hash is made of, and the files that they stand for. -/

namespace KernelManager

open FileTree (Listing)

def fieldEnd : Char := Char.ofNat 0

def treeBuffer (files : Fingerprints) : String :=
  files.toList.foldl
    (fun buffer file => buffer ++ file.1 ++ String.singleton fieldEnd ++ file.2 ++
      String.singleton fieldEnd) ""

def treeBytes (files : Fingerprints) : List UInt8 :=
  files.toList.foldl
    (fun buf file => buf ++ Utf8.encode file.1.toList ++ [0] ++ Utf8.encode file.2.toList ++ [0]) []

def visitAll (visited : List (String × String)) : Fingerprints :=
  visited.foldl (fun (out : Fingerprints) file => out.insert file.1 file.2) ∅

def NulFree (files : Fingerprints) : Prop :=
  ∀ path hash, files[path]? = some hash →
    path ≠ "" ∧ fieldEnd ∉ path.toList ∧ fieldEnd ∉ hash.toList

section

variable {Content : Type} (formats : FileFormats Content)

structure HoldsFiles (listing : Listing Content) (files : Fingerprints) : Prop where
  readable : listing.Readable
  holds : ∀ path hash, files[path]? = some hash ↔
    ∃ content, listing.Holds "" path content ∧ formats.digest content = hash

theorem treeHash_read (listing : Listing Content) (files : Fingerprints)
    (read : fingerprintTree formats.digest listing = some files) :
    treeHash formats (some listing) =
      if files.isEmpty then none else some (formats.digest (formats.text (treeBuffer files))) := by
  simp only [treeHash, Option.bind_some, read]
  rfl

end

theorem toList_eq_iff (left right : Fingerprints) :
    left.toList = right.toList ↔ ∀ path : String, left[path]? = right[path]? := by
  rw [← Std.TreeMap.equiv_iff_toList_eq]
  constructor
  · exact fun same path => same.getElem?_eq
  · exact fun same => Std.TreeMap.Equiv.of_forall_constGet?_eq same

def treeFields (files : List (String × String)) : List (List UInt8) :=
  files.flatMap fun file => [Utf8.encode file.1.toList, Utf8.encode file.2.toList]

theorem treeBytes_fields (files : Fingerprints) :
    treeBytes files = (treeFields files.toList).flatMap (· ++ [0]) := by
  have filled : ∀ (listed : List (String × String)) (buf : List UInt8),
      listed.foldl (fun buf file => buf ++ Utf8.encode file.1.toList ++ [0] ++
        Utf8.encode file.2.toList ++ [0]) buf = buf ++ (treeFields listed).flatMap (· ++ [0]) := by
    intro listed buf
    induction listed generalizing buf with
    | nil => simp [treeFields]
    | cons file listed ih =>
        rw [List.foldl_cons, ih]
        simp only [treeFields, List.flatMap_cons, List.flatMap_append, List.flatMap_nil,
          List.append_assoc, List.append_nil]
  exact filled files.toList []

theorem treeBuffer_encode (files : Fingerprints) :
    Utf8.encode (treeBuffer files).toList = treeBytes files := by
  have filled : ∀ (listed : List (String × String)) (buffer : String),
      Utf8.encode (listed.foldl (fun buffer file => buffer ++ file.1 ++ String.singleton fieldEnd ++
          file.2 ++ String.singleton fieldEnd) buffer).toList =
        listed.foldl (fun buf file => buf ++ Utf8.encode file.1.toList ++ [0] ++
          Utf8.encode file.2.toList ++ [0]) (Utf8.encode buffer.toList) := by
    intro listed buffer
    have stop : Utf8.encode [fieldEnd] = [0] := by decide
    induction listed generalizing buffer with
    | nil => rfl
    | cons file listed ih =>
        rw [List.foldl_cons, List.foldl_cons, ih]
        simp only [String.toList_append, String.toList_singleton, Utf8.encode_append, stop]
  exact filled files.toList ""

theorem treeFields_inj (left right : List (String × String))
    (same : treeFields left = treeFields right) : left = right := by
  induction left generalizing right with
  | nil =>
      cases right with
      | nil => rfl
      | cons file right => cases same
  | cons file left ih =>
      cases right with
      | nil => cases same
      | cons other right =>
          obtain ⟨paths, rest⟩ := List.cons.inj same
          obtain ⟨hashes, later⟩ := List.cons.inj rest
          have first : file = other :=
            Prod.ext (String.toList_inj.mp (Utf8.encode_inj paths))
              (String.toList_inj.mp (Utf8.encode_inj hashes))
          rw [first, ih right later]

theorem treeFields_plain (files : Fingerprints) (free : NulFree files) :
    ∀ field ∈ treeFields files.toList, (0 : UInt8) ∉ field := by
  intro field member
  obtain ⟨⟨path, hash⟩, listed, inside⟩ := List.mem_flatMap.mp member
  rw [Std.TreeMap.mem_toList_iff_getElem?_eq_some] at listed
  obtain ⟨_, pathFree, hashFree⟩ := free path hash listed
  have stop : Utf8.byte fieldEnd = 0 := by decide
  have ascii : Utf8.Ascii fieldEnd := by decide
  simp only [List.mem_cons, List.not_mem_nil, or_false] at inside
  rcases inside with rfl | rfl
  · rwa [← stop, Utf8.byte_mem_encode ascii]
  · rwa [← stop, Utf8.byte_mem_encode ascii]

theorem treeBytes_inj (left right : Fingerprints) (leftFree : NulFree left)
    (rightFree : NulFree right) (same : treeBytes left = treeBytes right) :
    left.toList = right.toList := by
  rw [treeBytes_fields, treeBytes_fields] at same
  have fields := congrArg (List.splitOn 0) same
  rw [Scan.splitOn_lines 0 _ (treeFields_plain left leftFree),
    Scan.splitOn_lines 0 _ (treeFields_plain right rightFree)] at fields
  exact treeFields_inj _ _ (List.append_cancel_right fields)

theorem treeBytes_eq_iff (left right : Fingerprints) (leftFree : NulFree left)
    (rightFree : NulFree right) :
    treeBytes left = treeBytes right ↔ ∀ path : String, left[path]? = right[path]? := by
  rw [← toList_eq_iff]
  constructor
  · exact treeBytes_inj left right leftFree rightFree
  · intro same
    rw [treeBytes, treeBytes, same]

theorem insertAll_getElem_eq {Content : Type} (digest : Content → String)
    (hashOf : String → Option String) (files : List (String × Content))
    (known : ∀ file ∈ files, hashOf file.1 = some (digest file.2))
    (complete : ∀ path hash, hashOf path = some hash → ∃ content, (path, content) ∈ files)
    (path : String) :
    (files.foldl (fun (out : Fingerprints) file => out.insert file.1 (digest file.2))
      ∅)[path]? = hashOf path := by
  have present := mem_insertAll digest files ∅ path
  by_cases member : path ∈
      files.foldl (fun (out : Fingerprints) file => out.insert file.1 (digest file.2)) ∅
  · exact insertAll_getElem digest hashOf files ∅ known (by simp) path member
  · rw [Std.TreeMap.getElem?_eq_none member]
    cases hashed : hashOf path with
    | none => rfl
    | some hash =>
        exact absurd (present.mpr (Or.inr (complete path hash hashed))) member

theorem visitAll_getElem (files : Fingerprints) (visited : List (String × String))
    (order : visited.Perm files.toList) (path : String) :
    (visitAll visited)[path]? = files[path]? := by
  have listed : ∀ path hash, files[path]? = some hash ↔ (path, hash) ∈ visited := by
    intro path hash
    rw [order.mem_iff, Std.TreeMap.mem_toList_iff_getElem?_eq_some]
  apply insertAll_getElem_eq id (fun path => files[path]?)
  · exact fun file member => (listed file.1 file.2).mpr member
  · exact fun path hash held => ⟨hash, (listed path hash).mp held⟩

section

variable {Content : Type} (formats : FileFormats Content)

theorem HoldsFiles.fingerprintTree_eq {listing : Listing Content} {files : Fingerprints}
    (held : HoldsFiles formats listing files) :
    ∃ out, fingerprintTree formats.digest listing = some out ∧ out.toList = files.toList := by
  have readable := FileTree.walk_readable (fun (out : Fingerprints) path content =>
    out.insert path (formats.digest content)) [("", listing)] ∅
  have walks : (fingerprintTree formats.digest listing).isSome = true :=
    readable.mpr (by simpa using held.readable)
  obtain ⟨out, read⟩ := Option.isSome_iff_exists.mp walks
  obtain ⟨visited, folded, members⟩ := FileTree.walk_holds _ _ _ _ read
  have member : ∀ path content, (path, content) ∈ visited ↔ listing.Holds "" path content := by
    intro path content
    rw [members]
    simp [FileTree.Stack.Holds]
  refine ⟨out, read, ?_⟩
  rw [toList_eq_iff, folded]
  apply insertAll_getElem_eq formats.digest (fun path => files[path]?)
  · intro file inside
    exact (held.holds file.1 _).mpr ⟨file.2, (member file.1 file.2).mp inside, rfl⟩
  · intro path hash listed
    obtain ⟨content, holds, _⟩ := (held.holds path hash).mp listed
    exact ⟨content, (member path content).mpr holds⟩

theorem HoldsFiles.treeHash_eq {listing : Listing Content} {files : Fingerprints}
    (held : HoldsFiles formats listing files) :
    treeHash formats (some listing) =
      if files.isEmpty then none else some (formats.digest (formats.text (treeBuffer files))) := by
  obtain ⟨out, read, same⟩ := held.fingerprintTree_eq formats
  have empty : out.isEmpty = files.isEmpty := by
    rw [← Std.TreeMap.isEmpty_toList, same, Std.TreeMap.isEmpty_toList]
  rw [treeHash_read formats listing out read, empty, treeBuffer, treeBuffer, same]

/-- The bytes that are hashed stand for one map of files only, and do not depend on the order in
which the files were visited. -/
theorem treeBytes_unambiguous (left right : Fingerprints) (leftFree : NulFree left)
    (rightFree : NulFree right) :
    (treeBytes left = treeBytes right ↔ ∀ path : String, left[path]? = right[path]?) ∧
      (∀ visited : List (String × String), visited.Perm left.toList →
        treeBytes (visitAll visited) = treeBytes left) ∧
      (∀ listing, HoldsFiles formats listing left →
        (∃ out, fingerprintTree formats.digest listing = some out ∧
          treeBytes out = treeBytes left) ∧
        treeHash formats (some listing) =
          if left.isEmpty then none
          else some (formats.digest (formats.text (treeBuffer left)))) ∧
      Utf8.encode (treeBuffer left).toList = treeBytes left := by
  refine ⟨treeBytes_eq_iff left right leftFree rightFree, ?_, ?_, treeBuffer_encode left⟩
  · intro visited order
    have same := (toList_eq_iff _ _).mpr (visitAll_getElem left visited order)
    rw [treeBytes, treeBytes, same]
  · intro listing held
    obtain ⟨out, read, same⟩ := held.fingerprintTree_eq formats
    refine ⟨⟨out, read, ?_⟩, held.treeHash_eq formats⟩
    rw [treeBytes, treeBytes, same]

end

namespace Sample

def oneFile (path hash : String) : Fingerprints := (∅ : Fingerprints).insert path hash

end Sample

theorem oneFile_getElem (path hash other : String) :
    (Sample.oneFile path hash)[other]? = if path = other then some hash else none := by
  rw [Sample.oneFile, Std.TreeMap.getElem?_insert, Std.TreeMap.getElem?_emptyc]
  simp only [Std.LawfulEqCmp.compare_eq_iff_eq]

theorem oneFile_nulFree (path hash : String) (named : path ≠ "") (pathFree : fieldEnd ∉ path.toList)
    (hashFree : fieldEnd ∉ hash.toList) : NulFree (Sample.oneFile path hash) := by
  intro other held found
  rw [oneFile_getElem] at found
  split at found
  · rename_i same
    obtain rfl := Option.some.inj found
    rw [← same]
    exact ⟨named, pathFree, hashFree⟩
  · cases found

/-- A path that ends where a hash begins gives other bytes. -/
theorem movedBoundary_differs :
    treeBytes (Sample.oneFile "a" "bc") ≠ treeBytes (Sample.oneFile "ab" "c") ∧
      treeBytes (visitAll [("a", "bc")]) = treeBytes (Sample.oneFile "a" "bc") := by
  have unambiguous := treeBytes_unambiguous (Sample.plainFormats (Sample.passedRecord ""))
    (Sample.oneFile "a" "bc") (Sample.oneFile "ab" "c")
    (oneFile_nulFree "a" "bc" (by decide) (by decide) (by decide))
    (oneFile_nulFree "ab" "c" (by decide) (by decide) (by decide))
  refine ⟨?_, unambiguous.2.1 _ (List.Perm.of_eq rfl)⟩
  intro same
  have read := unambiguous.1.mp same "a"
  rw [oneFile_getElem, oneFile_getElem] at read
  exact absurd read (by decide)

end KernelManager
