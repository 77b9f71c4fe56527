import KernelManager.Library.Keyed
import KernelManager.Plan.Transaction
import Mathlib.Data.List.Nodup
import Mathlib.Data.List.Pairwise

/-! Whether the raw id `<repo>/<kernel>` identifies a discovered kernel. -/

namespace KernelManager

def SyncDb.Accepts (db : SyncDb) (pkg : DbPackage) : Prop := (db.discover pkg).isSome = true

instance (db : SyncDb) (pkg : DbPackage) : Decidable (db.Accepts pkg) :=
  inferInstanceAs (Decidable (_ = true))

def SyncDb.HeadersApart (db : SyncDb) : Prop :=
  ∀ left ∈ db.packages, ∀ right ∈ db.packages, db.Accepts left → db.Accepts right →
    kernelHeadersName left.name = kernelHeadersName right.name → left = right

def RawUnique (kernels : List DiscoveredKernel) : Prop := (kernels.map (·.raw)).Nodup

theorem discover_raw (db : SyncDb) (pkg : DbPackage) (kernel : DiscoveredKernel)
    (found : db.discover pkg = some kernel) :
    kernel.raw = db.name ++ "/" ++ kernelHeadersName pkg.name := by
  simp only [SyncDb.discover] at found
  split at found
  · cases found
  · split at found
    · cases found
    · cases found
      rfl

theorem raw_inj (left right : String) (leftName rightName : String)
    (leftPlain : '/' ∉ left.toList) (rightPlain : '/' ∉ right.toList)
    (same : left ++ "/" ++ leftName = right ++ "/" ++ rightName) :
    left = right ∧ leftName = rightName := by
  have lists := congrArg String.toList same
  simp only [String.toList_append, List.append_assoc] at lists
  obtain ⟨repos, names⟩ :=
    Scan.append_separator_inj '/' _ _ leftName.toList rightName.toList leftPlain rightPlain lists
  exact ⟨String.toList_inj.mp repos, String.toList_inj.mp names⟩

theorem packages_unique (db : SyncDb) (distinct : (db.packages.map (·.name)).Nodup)
    (left right : DbPackage) (leftMember : left ∈ db.packages)
    (rightMember : right ∈ db.packages) (same : left.name = right.name) : left = right :=
  List.inj_on_of_nodup_map distinct leftMember rightMember same

theorem db_rawUnique_iff (db : SyncDb) (plain : '/' ∉ db.name.toList)
    (distinct : (db.packages.map (·.name)).Nodup) :
    RawUnique (db.packages.filterMap db.discover) ↔ db.HeadersApart := by
  have nodup : db.packages.Nodup := List.Nodup.of_map _ distinct
  rw [RawUnique, List.Nodup, List.pairwise_map, List.pairwise_filterMap]
  constructor
  · intro apart left leftMember right rightMember leftAccepted rightAccepted same
    by_contra different
    have symmetric : Std.Symm fun first second : DbPackage =>
        ∀ kernel, db.discover first = some kernel → ∀ other, db.discover second = some other →
          kernel.raw ≠ other.raw :=
      ⟨fun _ _ clash other found kernel located => (clash kernel located other found).symm⟩
    obtain ⟨kernel, found⟩ := Option.isSome_iff_exists.mp leftAccepted
    obtain ⟨other, located⟩ := Option.isSome_iff_exists.mp rightAccepted
    have clash := apart.forall leftMember rightMember different kernel found other located
    rw [discover_raw db left kernel found, discover_raw db right other located, same] at clash
    exact clash rfl
  · intro apart
    apply nodup.pairwise_of_forall_ne
    intro left leftMember right rightMember different kernel found other located same
    rw [discover_raw db left kernel found, discover_raw db right other located] at same
    have names := (raw_inj _ _ _ _ plain plain same).2
    exact different (apart left leftMember right rightMember
      (Option.isSome_iff_exists.mpr ⟨kernel, found⟩)
      (Option.isSome_iff_exists.mpr ⟨other, located⟩) names)

theorem discovered_raws_apart (first second : SyncDb) (firstPlain : '/' ∉ first.name.toList)
    (secondPlain : '/' ∉ second.name.toList) (different : first.name ≠ second.name)
    (kernel other : DiscoveredKernel) (listed : kernel ∈ first.packages.filterMap first.discover)
    (listedOther : other ∈ second.packages.filterMap second.discover) :
    kernel.raw ≠ other.raw := by
  intro same
  obtain ⟨pkg, _, found⟩ := List.mem_filterMap.mp listed
  obtain ⟨otherPkg, _, located⟩ := List.mem_filterMap.mp listedOther
  rw [discover_raw first pkg kernel found, discover_raw second otherPkg other located] at same
  exact different (raw_inj _ _ _ _ firstPlain secondPlain same).1

theorem kernelsByRaw_complete (kernels : List DiscoveredKernel) (unique : RawUnique kernels)
    (kernel : DiscoveredKernel) (member : kernel ∈ kernels) :
    kernelsByRaw kernels kernel.raw = some kernel := by
  have reversed : (kernels.reverse.map (·.raw)).Nodup := by
    rw [List.map_reverse]
    exact List.nodup_reverse.mpr unique
  exact Keyed.find?_key kernels.reverse DiscoveredKernel.raw reversed kernel
    (List.mem_reverse.mpr member)

/-- Raw ids are unique exactly if no database has two headers packages of one kernel name, and
then each kernel is found under its own raw id. -/
theorem discoverKernels_rawUnique (dbs : List SyncDb) (apart : (dbs.map (·.name)).Nodup)
    (plain : ∀ db ∈ dbs, '/' ∉ db.name.toList)
    (distinct : ∀ db ∈ dbs, (db.packages.map (·.name)).Nodup) :
    (RawUnique (discoverKernels dbs) ↔ ∀ db ∈ dbs, db.HeadersApart) ∧
      (RawUnique (discoverKernels dbs) → ∀ kernel ∈ discoverKernels dbs,
        kernelsByRaw (discoverKernels dbs) kernel.raw = some kernel) ∧
      ((∀ db ∈ dbs, ∀ pkg ∈ db.packages, db.Accepts pkg →
          pkg.name = kernelHeadersName pkg.name ++ headersSuffix) →
        RawUnique (discoverKernels dbs)) := by
  have exact : RawUnique (discoverKernels dbs) ↔ ∀ db ∈ dbs, db.HeadersApart := by
    rw [RawUnique, discoverKernels, List.map_flatMap, List.nodup_flatMap]
    constructor
    · intro unique db member
      exact (db_rawUnique_iff db (plain db member) (distinct db member)).mp (unique.1 db member)
    · intro headers
      refine ⟨fun db member =>
        (db_rawUnique_iff db (plain db member) (distinct db member)).mpr (headers db member), ?_⟩
      refine (List.pairwise_map.mp apart).imp_of_mem ?_
      intro first second firstMember secondMember different raw listed listedToo
      obtain ⟨kernel, member, rfl⟩ := List.mem_map.mp listed
      obtain ⟨other, otherMember, same⟩ := List.mem_map.mp listedToo
      exact discovered_raws_apart first second (plain first firstMember)
        (plain second secondMember) different kernel other member otherMember same.symm
  refine ⟨exact, kernelsByRaw_complete (discoverKernels dbs), fun suffixed => exact.mpr ?_⟩
  intro db member left leftMember right rightMember leftAccepted rightAccepted same
  apply packages_unique db (distinct db member) left right leftMember rightMember
  rw [suffixed db member left leftMember leftAccepted,
    suffixed db member right rightMember rightAccepted, same]

namespace Sample

def archDbs : List SyncDb :=
  [{ name := "core"
     packages := [⟨"linux", "6.14.1-1"⟩, ⟨"linux-headers", "6.14.1-1"⟩] },
    { name := "extra"
      packages := [⟨"linux-zen", "6.14.1-1"⟩, ⟨"linux-zen-headers", "6.14.1-1"⟩] }]

def twiceHeaders : SyncDb where
  name := "core"
  packages :=
    [⟨"linux", "6.14.1-1"⟩, ⟨"linux-headers", "6.14.1-1"⟩,
      ⟨"linux-headers-headers", "6.14.1-1"⟩]

end Sample

theorem discoverKernels_rawUnique_archDbs :
    (RawUnique (discoverKernels Sample.archDbs) ↔ ∀ db ∈ Sample.archDbs, db.HeadersApart) ∧
      (RawUnique (discoverKernels Sample.archDbs) → ∀ kernel ∈ discoverKernels Sample.archDbs,
        kernelsByRaw (discoverKernels Sample.archDbs) kernel.raw = some kernel) ∧
      ((∀ db ∈ Sample.archDbs, ∀ pkg ∈ db.packages, db.Accepts pkg →
          pkg.name = kernelHeadersName pkg.name ++ headersSuffix) →
        RawUnique (discoverKernels Sample.archDbs)) :=
  discoverKernels_rawUnique Sample.archDbs (by decide) (by decide) (by decide)

/-- Both `linux-headers` and `linux-headers-headers` are headers of `linux`. -/
theorem discoverKernels_rawTwice :
    ¬∀ dbs : List SyncDb, (dbs.map (·.name)).Nodup → (∀ db ∈ dbs, '/' ∉ db.name.toList) →
      (∀ db ∈ dbs, (db.packages.map (·.name)).Nodup) → RawUnique (discoverKernels dbs) := by
  intro unique
  have twice := unique [Sample.twiceHeaders] (by decide) (by decide) (by decide)
  have raws : (discoverKernels [Sample.twiceHeaders]).map (·.raw) =
      ["core/linux", "core/linux"] := by
    decide
  rw [RawUnique, raws] at twice
  exact absurd twice (by decide)

end KernelManager
