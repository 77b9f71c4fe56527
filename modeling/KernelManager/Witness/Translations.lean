import KernelManager.Core.Text
import KernelManager.Library.Keyed
import KernelManager.Library.Markup
import KernelManager.Library.Scan
import KernelManager.Ui.Translations

/-! The translation witness of the candidate against the reference tool. -/

namespace KernelManager

open Markup

structure I18nLookup where
  context : String
  source : String
  deriving DecidableEq, Repr

structure I18nCorpus where
  systemLocale : String
  lookups : List I18nLookup
  deriving DecidableEq, Repr

@[ext] structure I18nReport where
  systemLocale : String
  resolved : Option String
  lookups : List (I18nLookup × String)
  deriving DecidableEq, Repr

def unfinishedType (kind : Option String) : Bool :=
  kind = some "unfinished" ∨ kind = some "vanished"

-- The generator of the embedded catalogs.
namespace Ts2Json

def entry (context : String) (message : Node) : Option TranslationEntry :=
  match (message.child "source").bind Node.joinedText with
  | none => none
  | some source =>
      some
        { context := context
          source := source
          translation := ((message.child "translation").bind Node.joinedText).getD ""
          unfinished :=
            unfinishedType ((message.child "translation").bind (Node.attributeValue "type")) }

def contextName (context : Node) : String :=
  match (context.child "name").bind Node.joinedText with
  | some name => trim name
  | none => ""

def parseTs (document : Node) : List TranslationEntry :=
  (document.descendants.filter (Node.named "context")).flatMap fun context =>
    (context.children.filter (Node.named "message")).filterMap (entry (contextName context))

def catalogs (documents : String → Node) : List LocaleCatalog :=
  compiledLocales.map fun key => { qrcAlias := key, entries := parseTs (documents key) }

end Ts2Json

def i18nReport (catalogs : List LocaleCatalog) (corpus : I18nCorpus) : I18nReport where
  systemLocale := corpus.systemLocale
  resolved := resolve corpus.systemLocale
  lookups := corpus.lookups.map fun lookup =>
    (lookup, (ResolvedLocale.ofSystem catalogs corpus.systemLocale).tr lookup.context lookup.source)

namespace OracleI18n

def qrcAliases : List String :=
  ["bg", "ca", "cs", "de", "es", "it", "ja", "ko", "pl", "ru", "sk", "sv", "tr", "nl", "zh-CN"]

def baseLanguage (langTerritory : String) : String :=
  match Scan.findLast '_' langTerritory.toList with
  | some position => String.ofList (langTerritory.toList.take position)
  | none => langTerritory

def loadOrder (systemLocale : String) : List (String × Bool) :=
  let base := OracleI18n.baseLanguage systemLocale
  [(base, true), (systemLocale, true), (base, false), (systemLocale, false)]

def entry (context : String) (message : Node) : TranslationEntry where
  context := context
  source := ((message.child "source").bind Node.firstText).getD ""
  translation := ((message.child "translation").bind Node.firstText).getD ""
  unfinished := unfinishedType ((message.child "translation").bind (Node.attributeValue "type"))

def contextName (context : Node) : String := ((context.child "name").bind Node.firstText).getD ""

def parseTs (document : Node) : List TranslationEntry :=
  (document.descendants.filter (Node.named "context")).flatMap fun context =>
    (context.children.filter (Node.named "message")).map (entry (contextName context))

def translate (entries : List TranslationEntry) (context source : String) : String :=
  let message := entries.find? fun entry => entry.context = context ∧ entry.source = source
  let finished := message.filter fun entry => !entry.unfinished && !entry.translation.isEmpty
  (finished.map (·.translation)).getD source

def resolved (systemLocale : String) : Option String :=
  (loadOrder systemLocale).findSome? fun attempt =>
    if attempt.2 then none else if attempt.1 ∈ qrcAliases then some attempt.1 else none

def report (documents : String → Node) (corpus : I18nCorpus) : I18nReport where
  systemLocale := corpus.systemLocale
  resolved := resolved corpus.systemLocale
  lookups :=
    match resolved corpus.systemLocale with
    | some key => corpus.lookups.map fun lookup =>
        (lookup, translate (parseTs (documents key)) lookup.context lookup.source)
    | none => corpus.lookups.map fun lookup => (lookup, lookup.source)

end OracleI18n

/-- No comment stands in the texts of a context, and no blank around its name. -/
def ReadableContext (context : Node) : Prop :=
  (∀ name ∈ context.child "name", name.Plain ∧ ∀ text ∈ name.firstText, trim text = text) ∧
    ∀ message ∈ context.children, message.named "message" = true →
      (∀ source ∈ message.child "source", source.Plain) ∧
        ∀ translation ∈ message.child "translation", translation.Plain

def ReadableTs (document : Node) : Prop :=
  ∀ context ∈ document.descendants, context.named "context" = true → ReadableContext context

instance (context : Node) : Decidable (ReadableContext context) :=
  inferInstanceAs (Decidable (_ ∧ _))

instance (document : Node) : Decidable (ReadableTs document) :=
  inferInstanceAs (Decidable (∀ context ∈ document.descendants, _ → _))

theorem bind_joinedText (part : Option Node) (plain : ∀ node ∈ part, node.Plain) :
    part.bind Node.joinedText = part.bind Node.firstText := by
  cases part with
  | none => rfl
  | some node => exact Node.joinedText_plain node (plain node rfl)

theorem contextName_eq (context : Node) (readable : ReadableContext context) :
    Ts2Json.contextName context = OracleI18n.contextName context := by
  have names := readable.1
  rw [Ts2Json.contextName, OracleI18n.contextName,
    bind_joinedText _ fun name found => (names name found).1]
  cases found : context.child "name" with
  | none => rfl
  | some name =>
      simp only [Option.bind_some]
      cases shown : name.firstText with
      | none => rfl
      | some text => exact (names name found).2 text shown

theorem entry_eq (context : String) (message : Node)
    (source : ∀ part ∈ message.child "source", part.Plain)
    (translation : ∀ part ∈ message.child "translation", part.Plain) :
    Ts2Json.entry context message =
      (some (OracleI18n.entry context message)).filter (·.source ≠ "") := by
  rw [Ts2Json.entry, bind_joinedText _ source, bind_joinedText _ translation]
  cases found : (message.child "source").bind Node.firstText with
  | none => simp [OracleI18n.entry, found, Option.filter]
  | some text =>
      obtain ⟨part, child, shown⟩ := Option.bind_eq_some_iff.mp found
      have nonempty : text ≠ "" := by
        rintro rfl
        exact Node.firstText_nonempty part (source part child) shown
      simp [OracleI18n.entry, found, nonempty, Option.filter]

theorem filterMap_filter {Item Other : Type*} (items : List Item) (whole : Item → Option Other)
    (part : Item → Other) (keeps : Other → Bool)
    (same : ∀ item ∈ items, whole item = (some (part item)).filter keeps) :
    items.filterMap whole = (items.map part).filter keeps := by
  induction items with
  | nil => rfl
  | cons item items ih =>
      have first := same item List.mem_cons_self
      have rest := ih fun other listed => same other (List.mem_cons_of_mem item listed)
      cases kept : keeps (part item) with
      | true => simp [first, rest, Option.filter, kept]
      | false => simp [first, rest, Option.filter, kept]

theorem flatMap_filter {Item Other : Type*} (items : List Item) (parts : Item → List Other)
    (keeps : Other → Bool) :
    (items.flatMap parts).filter keeps = items.flatMap fun item => (parts item).filter keeps := by
  induction items with
  | nil => rfl
  | cons item items ih => rw [List.flatMap_cons, List.flatMap_cons, List.filter_append, ih]

theorem parseTs_eq (document : Node) (readable : ReadableTs document) :
    Ts2Json.parseTs document = (OracleI18n.parseTs document).filter (·.source ≠ "") := by
  rw [OracleI18n.parseTs, flatMap_filter, Ts2Json.parseTs]
  refine List.flatMap_congr fun context member => ?_
  obtain ⟨listed, named⟩ := List.mem_filter.mp member
  have texts := readable context listed named
  rw [contextName_eq context texts]
  refine filterMap_filter _ _ _ _ fun message inside => ?_
  obtain ⟨below, isMessage⟩ := List.mem_filter.mp inside
  obtain ⟨source, translation⟩ := texts.2 message below isMessage
  exact entry_eq _ message source translation

theorem oracleBaseLanguage_eq (langTerritory : String) :
    OracleI18n.baseLanguage langTerritory = baseLanguage langTerritory := by
  unfold OracleI18n.baseLanguage baseLanguage
  cases found : Scan.findLast '_' langTerritory.toList with
  | none =>
      have absent : '_' ∉ langTerritory.toList := by
        intro member
        obtain ⟨before, after, spelled, plain⟩ := Scan.split_last '_' _ member
        rw [spelled, Scan.findLast_append '_' before after plain] at found
        cases found
      have all : langTerritory.toList.reverse.dropWhile (· ≠ '_') = [] := by
        rw [List.dropWhile_eq_nil_iff]
        rintro symbol member
        exact decide_eq_true fun same => absent (same ▸ List.mem_reverse.mp member)
      rw [all]
  | some position =>
      obtain ⟨before, after, spelled, plain, rfl⟩ := Scan.findLast_split '_' _ position found
      have turned : langTerritory.toList.reverse.dropWhile (· ≠ '_') = '_' :: before.reverse := by
        rw [spelled, List.reverse_append, List.reverse_cons, List.append_assoc,
          List.dropWhile_append_of_pos]
        · rfl
        · intro symbol member
          exact decide_eq_true fun same => plain (same ▸ List.mem_reverse.mp member)
      rw [turned]
      simp only [spelled, List.take_left, List.reverse_reverse]

theorem oracleTranslate_eq (entries : List TranslationEntry) (context source : String) :
    OracleI18n.translate entries context source = translateEntries entries context source := by
  rw [OracleI18n.translate, translateEntries]
  cases entries.find? fun entry => decide (entry.context = context ∧ entry.source = source) with
  | none => rfl
  | some entry =>
      cases unfinished : entry.unfinished with
      | true => simp [unfinished, Option.filter]
      | false => by_cases empty : entry.translation = "" <;> simp [unfinished, empty, Option.filter]

theorem translateEntries_filter (entries : List TranslationEntry) (context source : String) :
    translateEntries (entries.filter (·.source ≠ "")) context source =
      if source = "" then "" else translateEntries entries context source := by
  by_cases empty : source = ""
  · subst empty
    have missing : (entries.filter (·.source ≠ "")).find? (fun entry =>
        decide (entry.context = context ∧ entry.source = "")) = none := by
      rw [List.find?_eq_none]
      intro entry listed same
      have named := (List.mem_filter.mp listed).2
      simp only [ne_eq, decide_not, Bool.not_eq_true', decide_eq_false_iff_not] at named
      exact named (of_decide_eq_true same).2
    rw [translateEntries, missing]
    rfl
  · have same : (fun entry : TranslationEntry =>
        decide (decide (entry.source ≠ "") = true ∧
          decide (entry.context = context ∧ entry.source = source) = true)) =
        fun entry => decide (entry.context = context ∧ entry.source = source) := by
      funext entry
      by_cases own : entry.source = source
      · simp [own, empty]
      · simp [own]
    rw [if_neg empty, translateEntries, translateEntries, List.find?_filter, same]

def LeavesUnsourced (entries : List TranslationEntry) (context : String) : Prop :=
  ∀ entry, entries.find? (fun entry => entry.context = context ∧ entry.source = "") = some entry →
    entry.unfinished = true ∨ entry.translation = ""

theorem leavesUnsourced_iff (entries : List TranslationEntry) (context : String) :
    LeavesUnsourced entries context ↔ translateEntries entries context "" = "" := by
  rw [LeavesUnsourced, translateEntries]
  cases entries.find? fun entry => decide (entry.context = context ∧ entry.source = "") with
  | none => simp
  | some entry =>
      cases unfinished : entry.unfinished with
      | true => simp [unfinished]
      | false => by_cases empty : entry.translation = "" <;> simp [unfinished, empty]

theorem resolved_eq (systemLocale : String) :
    OracleI18n.resolved systemLocale = resolve systemLocale := by
  have listed (key : String) :
      (if key ∈ OracleI18n.qrcAliases then some key else none) = appAlias key := by
    rw [appAlias]
    by_cases member : key ∈ compiledLocales
    · have found : compiledLocales.find? (fun other => decide (other = key)) = some key := by
        have key_found := Keyed.find?_key compiledLocales id (by decide) key member
        exact key_found
      rw [found]
      exact if_pos member
    · have missing : compiledLocales.find? (fun other => decide (other = key)) = none := by
        rw [List.find?_eq_none]
        rintro other held same
        exact member (of_decide_eq_true same ▸ held)
      rw [missing]
      exact if_neg member
  simp only [OracleI18n.resolved, OracleI18n.loadOrder, resolve, loadOrder, oracleBaseLanguage_eq,
    List.findSome?_cons, List.findSome?_nil, listed, ↓reduceIte, Bool.false_eq_true]

theorem resolve_compiled (systemLocale key : String)
    (resolved : resolve systemLocale = some key) : key ∈ compiledLocales := by
  obtain ⟨attempt, -, found⟩ := List.exists_of_findSome?_eq_some resolved
  split at found
  · cases found
  · exact List.mem_of_find?_eq_some found

theorem catalogByAlias_generated (documents : String → Node) (key : String)
    (compiled : key ∈ compiledLocales) :
    catalogByAlias (Ts2Json.catalogs documents) key =
      some { qrcAlias := key, entries := Ts2Json.parseTs (documents key) } := by
  have distinct : ((Ts2Json.catalogs documents).map LocaleCatalog.qrcAlias).Nodup := by
    simp only [Ts2Json.catalogs, List.map_map]
    exact (by decide : compiledLocales.Nodup)
  exact Keyed.find?_key (Ts2Json.catalogs documents) LocaleCatalog.qrcAlias distinct
    { qrcAlias := key, entries := Ts2Json.parseTs (documents key) }
    (List.mem_map.mpr ⟨key, compiled, rfl⟩)

theorem lookup_eq_iff (document : Node) (readable : ReadableTs document) (lookup : I18nLookup) :
    translateEntries (Ts2Json.parseTs document) lookup.context lookup.source =
        OracleI18n.translate (OracleI18n.parseTs document) lookup.context lookup.source ↔
      (lookup.source = "" → LeavesUnsourced (OracleI18n.parseTs document) lookup.context) := by
  rw [parseTs_eq document readable, translateEntries_filter, oracleTranslate_eq,
    leavesUnsourced_iff]
  by_cases empty : lookup.source = ""
  · rw [if_pos empty, empty]
    exact ⟨fun same _ => same.symm, fun leaves => (leaves rfl).symm⟩
  · simp [empty]

namespace Sample

def tsElement (tag : String) (attributes : List (String × String)) (children : List Node) : Node :=
  .element tag attributes (Nodes.ofList children)

def tsDocument : Node :=
  let message (source translation : String) (kind : List (String × String)) : Node :=
    tsElement "message" []
      [tsElement "source" [] [.text source],
        tsElement "translation" kind [.text translation]]
  tsElement "TS" [("language", "es")]
    [tsElement "context" []
      [tsElement "name" [] [.text "ConfWindow"], .comment "the labels of the variants",
        message "RT - Realtime kernel" "RT - Kernel en tiempo real" [],
        message "EEVDF" "EEVDF" [("type", "unfinished")],
        message "EEVDF" "Planificador" [],
        tsElement "message" [] [tsElement "source" [] []]]]

def i18nCorpus : I18nCorpus where
  systemLocale := "es_ES"
  lookups :=
    [{ context := "ConfWindow", source := "RT - Realtime kernel" },
      { context := "ConfWindow", source := "EEVDF" },
      { context := "ConfOptionsPage", source := "RT - Realtime kernel" }]

end Sample

end KernelManager
