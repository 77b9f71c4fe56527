import KernelManager.Ui.ConfigureView

/-! The translation catalogs, and the variants that the translated combo offers. -/

namespace KernelManager

def compiledLocales : List String :=
  ["bg", "ca", "cs", "de", "es", "it", "ja", "ko", "pl", "ru", "sk", "sv", "tr", "nl", "zh-CN"]

structure CatalogAttempt where
  key : String
  qt : Bool
  deriving DecidableEq, Repr

def baseLanguage (langTerritory : String) : String :=
  match langTerritory.toList.reverse.dropWhile (· ≠ '_') with
  | [] => langTerritory
  | _ :: before => String.ofList before.reverse

def loadOrder (systemLocale : String) : List CatalogAttempt :=
  let base := baseLanguage systemLocale
  [{ key := base, qt := true }, { key := systemLocale, qt := true },
    { key := base, qt := false }, { key := systemLocale, qt := false }]

structure TranslationEntry where
  context : String
  source : String
  translation : String
  unfinished : Bool
  deriving DecidableEq, Repr

structure LocaleCatalog where
  qrcAlias : String
  entries : List TranslationEntry
  deriving DecidableEq, Repr

def appAlias (key : String) : Option String := compiledLocales.find? (· = key)

/-- Qt's own catalogs are not the program's. -/
def resolve (systemLocale : String) : Option String :=
  (loadOrder systemLocale).findSome? fun attempt =>
    if attempt.qt then none else appAlias attempt.key

/-- The first entry decides, also when it is unfinished. -/
def translateEntries (entries : List TranslationEntry) (context source : String) : String :=
  match entries.find? fun entry => entry.context = context ∧ entry.source = source with
  | some entry =>
      if entry.unfinished = false ∧ entry.translation ≠ "" then entry.translation else source
  | none => source

def LocaleCatalog.translate (catalog : LocaleCatalog) (context source : String) : String :=
  translateEntries catalog.entries context source

def catalogByAlias (catalogs : List LocaleCatalog) (key : String) : Option LocaleCatalog :=
  catalogs.find? (·.qrcAlias = key)

def ResolvedLocale.ofSystem (catalogs : List LocaleCatalog) (systemLocale : String) :
    ResolvedLocale where
  tr context source :=
    match (resolve systemLocale).bind (catalogByAlias catalogs) with
    | some catalog => catalog.translate context source
    | none => source

def LocaleCatalog.LeavesVariants (catalog : LocaleCatalog) : Prop :=
  ∀ entry ∈ catalog.entries, entry.context = TrCtx.confOptions →
    ∀ variant ∈ KernelVariant.all, entry.source ≠ variantLabel variant

instance (catalog : LocaleCatalog) : Decidable catalog.LeavesVariants :=
  inferInstanceAs (Decidable (∀ entry ∈ catalog.entries, _ → _))

/-- Some item of the variant combo is read back as the variant. -/
def Pickable (locale : ResolvedLocale) (variant : KernelVariant) : Prop :=
  ∃ shown ∈ KernelVariant.all,
    Choices.labelled KernelVariant.all
      (fun other => locale.tr TrCtx.confOptions (variantLabel other))
      (locale.tr TrCtx.conf (variantLabel shown)) = some variant

/-- The callbacks come from an open window, and a variant from the items it shows. -/
def DisplayedInput (app : App) : WindowInput → Prop
  | .configure (.variantSelected label) =>
      app.state.configuration ≠ .closed ∧ label ∈ app.variantLabels
  | .configure _ => app.state.configuration ≠ .closed
  | .message message => message.wired = true ∧ message.picksCombo = false

theorem variantLabel_injective : Function.Injective variantLabel := by
  intro left right same
  revert same
  cases left <;> cases right <;> decide

theorem mem_allVariants (variant : KernelVariant) : variant ∈ KernelVariant.all := by
  cases variant <;> decide

theorem tr_leftVariant (catalogs : List LocaleCatalog) (systemLocale : String)
    (left : ∀ catalog ∈ catalogs, catalog.LeavesVariants) (variant : KernelVariant) :
    (ResolvedLocale.ofSystem catalogs systemLocale).tr TrCtx.confOptions (variantLabel variant) =
      variantLabel variant := by
  simp only [ResolvedLocale.ofSystem]
  split
  · rename_i catalog found
    obtain ⟨key, -, located⟩ := Option.bind_eq_some_iff.mp found
    have leaves := left catalog (List.mem_of_find?_eq_some located)
    have missing : catalog.entries.find? (fun entry =>
        entry.context = TrCtx.confOptions ∧ entry.source = variantLabel variant) = none := by
      rw [List.find?_eq_none]
      intro entry listed both
      obtain ⟨inContext, same⟩ := of_decide_eq_true both
      exact leaves entry listed inContext variant (mem_allVariants variant) same
    simp only [LocaleCatalog.translate, translateEntries, missing]
  · rfl

/-- Where the options page has no labels of its own, an item is read back as the variant whose
English label it shows. -/
theorem pickable_iff (catalogs : List LocaleCatalog) (systemLocale : String)
    (left : ∀ catalog ∈ catalogs, catalog.LeavesVariants) (variant : KernelVariant) :
    Pickable (ResolvedLocale.ofSystem catalogs systemLocale) variant ↔
      ∃ shown ∈ KernelVariant.all,
        (ResolvedLocale.ofSystem catalogs systemLocale).tr TrCtx.conf (variantLabel shown) =
          variantLabel variant := by
  have english := funext (tr_leftVariant catalogs systemLocale left)
  simp only [Pickable, english]
  refine exists_congr fun shown => and_congr_right fun _ => ?_
  constructor
  · intro found
    have same := List.find?_some found
    exact (of_decide_eq_true same).symm
  · intro same
    rw [same]
    exact Choices.labelled_shown KernelVariant.all variantLabel variant (mem_allVariants variant)
      fun other _ labels => variantLabel_injective labels

theorem reconfigure_unpicked (app : App) (message : UiMessage) (wired : message.wired = true)
    (unpicked : ∀ variant, message ≠ .variantPicked variant) :
    (message.reconfigure app).variant = app.configure.variant := by
  cases message with
  | semantic message =>
      cases message with
      | variantChanged variant => cases wired
      | configLoaded config => cases wired
      | _ => rfl
  | variantPicked variant => exact absurd rfl (unpicked variant)
  | checkToggled check => cases check <;> rfl
  | patchOp op =>
      obtain ⟨patches, same⟩ := applyPatchOp_window app.configure op
      simp only [UiMessage.reconfigure, same]
  | configurePrepared generation patches =>
      simp only [UiMessage.reconfigure]
      split <;> rfl
  | patchesRefreshed generation patches =>
      simp only [UiMessage.reconfigure]
      split <;> rfl
  | pathDialogSubmitted =>
      simp only [UiMessage.reconfigure]
      split <;> rfl
  | _ => rfl

theorem step_unpicked (vercmp : String → String → Ordering) (app : App) (message : UiMessage)
    (wired : message.wired = true) (unpicked : ∀ variant, message ≠ .variantPicked variant) :
    (step vercmp app message).configure.variant = app.configure.variant := by
  have configured : (step vercmp app message).configure = message.reconfigure app :=
    update_configure vercmp app message
  rw [configured, reconfigure_unpicked app message wired unpicked]

theorem optionOf_unpicked (app : App) (label : String) (combo : OptionCombo)
    (variant : KernelVariant) : app.optionOf label combo ≠ some (.variantPicked variant) := by
  intro found
  cases combo <;>
    (obtain ⟨_, -, same⟩ := Option.map_eq_some_iff.mp found
     cases same)

theorem variantOf_pickable (app : App) (label : String) (variant : KernelVariant)
    (displayed : label ∈ app.variantLabels) (found : app.variantOf label = some variant) :
    Pickable app.locale variant := by
  obtain ⟨shown, listed, rfl⟩ := List.mem_map.mp displayed
  exact ⟨shown, listed, found⟩

theorem windowStep_variant (vercmp : String → String → Ordering) (app : App)
    (input : WindowInput) (displayed : DisplayedInput app input) :
    (windowStep vercmp app input).configure.variant = app.configure.variant ∨
      Pickable app.locale (windowStep vercmp app input).configure.variant := by
  cases input with
  | message message =>
      refine .inl (step_unpicked vercmp app message displayed.1 ?_)
      rintro variant rfl
      cases displayed.2
  | configure input =>
      by_cases variants : ∃ label, input = .variantSelected label
      · obtain ⟨label, rfl⟩ := variants
        simp only [windowStep, App.wireConfigureWindow]
        cases found : app.variantOf label with
        | none => exact .inl rfl
        | some variant => exact .inr (variantOf_pickable app label variant displayed.2 found)
      · refine .inl ?_
        have unpicked (message : UiMessage) (sent : app.wireConfigureWindow input = [message])
            (variant : KernelVariant) : message ≠ .variantPicked variant := by
          rintro rfl
          cases input with
          | variantSelected label => exact variants ⟨label, rfl⟩
          | checkToggled index =>
              simp only [App.wireConfigureWindow] at sent
              cases found : confCheckAt index <;> simp [found] at sent
          | optionSelected combo label =>
              simp only [App.wireConfigureWindow] at sent
              cases found : app.optionOf label combo with
              | none => simp [found] at sent
              | some message =>
                  rw [found, Option.toList, List.cons.injEq] at sent
                  exact optionOf_unpicked app label combo variant (found.trans (by rw [sent.1]))
          | _ => simp [App.wireConfigureWindow] at sent
        simp only [windowStep]
        obtain same | ⟨message, same, wired, -⟩ | ⟨value, same⟩ :=
          wireConfigureWindow_cases app input
        · rw [same]
          rfl
        · rw [same]
          exact step_unpicked vercmp app message wired (unpicked message same)
        · rw [same]
          exact (step_unpicked vercmp _ .pathDialogSubmitted rfl (by simp)).trans
            (step_unpicked vercmp app (.pathDialogChanged value) rfl (by simp))

theorem run_variantPickable (vercmp : String → String → Ordering) (flags : Flags)
    (locale : ResolvedLocale) (inputs : List WindowInput)
    (displayed : Machine.Admissible (windowStep vercmp) DisplayedInput
      (App.initial flags locale) inputs) :
    let app := Machine.run (windowStep vercmp) (App.initial flags locale) inputs
    app.configure.variant = .cachyos ∨ Pickable locale app.configure.variant := by
  let Holds (app : App) : Prop :=
    app.locale = locale ∧ (app.configure.variant = .cachyos ∨ Pickable locale app.configure.variant)
  have preserved (app : App) (input : WindowInput) (holds : Holds app)
      (shown : DisplayedInput app input) : Holds (windowStep vercmp app input) := by
    obtain ⟨spoken, reached⟩ := holds
    refine ⟨(congrArg Prod.snd (windowStep_setup vercmp app input)).trans spoken, ?_⟩
    rcases windowStep_variant vercmp app input shown with same | picked
    · rw [same]
      exact reached
    · rw [spoken] at picked
      exact .inr picked
  have initial : Holds (App.initial flags locale) := by
    have window : (App.initial flags locale).configure = {} :=
      onEvent_configure { locale := locale, flags := flags } .started
    exact ⟨rfl, .inl (by rw [window])⟩
  exact (Machine.run_invariant Holds preserved initial displayed).2

def pickedSession (label : String) : List WindowInput :=
  [.message (.semantic .configureRequested), .message (.configurePrepared 1 []),
    .configure (.variantSelected label)]

theorem pickedSession_picks (vercmp : String → String → Ordering) (flags : Flags)
    (locale : ResolvedLocale) (variant shown : KernelVariant)
    (read : Choices.labelled KernelVariant.all
      (fun other => locale.tr TrCtx.confOptions (variantLabel other))
      (locale.tr TrCtx.conf (variantLabel shown)) = some variant) :
    let session := pickedSession (locale.tr TrCtx.conf (variantLabel shown))
    Machine.Admissible (windowStep vercmp) DisplayedInput (App.initial flags locale) session ∧
      (Machine.run (windowStep vercmp) (App.initial flags locale) session).configure.variant =
        variant := by
  let opened : App := Machine.run (step vercmp) (App.initial flags locale)
    [.semantic .configureRequested, .configurePrepared 1 []]
  have found : opened.variantOf (locale.tr TrCtx.conf (variantLabel shown)) = some variant := read
  have listed : locale.tr TrCtx.conf (variantLabel shown) ∈ opened.variantLabels :=
    List.mem_map.mpr ⟨shown, mem_allVariants shown, rfl⟩
  refine ⟨⟨⟨rfl, rfl⟩, ⟨rfl, rfl⟩, ⟨?_, listed⟩, trivial⟩, ?_⟩
  · intro closed
    cases closed
  · have stepped : windowStep vercmp opened
        (.configure (.variantSelected (locale.tr TrCtx.conf (variantLabel shown)))) =
          step vercmp opened (.variantPicked variant) := by
      simp only [windowStep, App.wireConfigureWindow, found, Option.map_some, Option.toList,
        Machine.run_cons, Machine.run_nil]
    have picked : (step vercmp opened (.variantPicked variant)).configure.variant = variant :=
      congrArg ConfigureWindowModel.variant
        (update_configure vercmp opened (.variantPicked variant))
    exact (congrArg (fun app : App => app.configure.variant) stepped).trans picked

/-- The items of the variant combo are translated in one context and read back in another. With
catalogs that leave the labels of the second alone, the default aside, a variant can be reached
through the combo exactly if some item still shows its English label. -/
theorem variant_reachable_iff (vercmp : String → String → Ordering) (flags : Flags)
    (catalogs : List LocaleCatalog) (systemLocale : String)
    (left : ∀ catalog ∈ catalogs, catalog.LeavesVariants) (variant : KernelVariant) :
    let locale := ResolvedLocale.ofSystem catalogs systemLocale
    (∃ inputs,
      Machine.Admissible (windowStep vercmp) DisplayedInput (App.initial flags locale) inputs ∧
        (Machine.run (windowStep vercmp) (App.initial flags locale) inputs).configure.variant =
          variant) ↔
      variant = .cachyos ∨
        ∃ shown ∈ KernelVariant.all,
          locale.tr TrCtx.conf (variantLabel shown) = variantLabel variant := by
  intro locale
  rw [← pickable_iff catalogs systemLocale left variant]
  constructor
  · rintro ⟨inputs, displayed, rfl⟩
    exact run_variantPickable vercmp flags locale inputs displayed
  · rintro (rfl | ⟨shown, -, read⟩)
    · refine ⟨[], trivial, ?_⟩
      have window : (App.initial flags locale).configure = {} :=
        onEvent_configure { locale := locale, flags := flags } .started
      simp only [Machine.run_nil, window]
    · exact ⟨_, pickedSession_picks vercmp flags locale variant shown read⟩

namespace Sample

def spanish : LocaleCatalog where
  qrcAlias := "es"
  entries :=
    [{ context := "ConfWindow", source := "CachyOS default Scheduler (tuned EEVDF)"
       translation := "Planificador por defecto de CachyOS (EEVDF ajustado)"
       unfinished := false },
      { context := "ConfWindow", source := "RC - Release Candidate"
        translation := "RC - Candidata a lanzamiento", unfinished := false },
      { context := "ConfWindow", source := "RT - Realtime kernel"
        translation := "RT - Kernel en tiempo real", unfinished := false },
      { context := "ConfWindow", source := "LTS - Long-term support kernel"
        translation := "LTS - Kernel con soporte a largo plazo", unfinished := false }]

end Sample

theorem variant_reachable_iff_spanish :
    let locale := ResolvedLocale.ofSystem [Sample.spanish] "es_ES"
    (∃ inputs,
      Machine.Admissible (windowStep Sample.vercmp) DisplayedInput
          (App.initial Sample.flags locale) inputs ∧
        (Machine.run (windowStep Sample.vercmp) (App.initial Sample.flags locale)
          inputs).configure.variant = .rt) ↔
      KernelVariant.rt = .cachyos ∨
        ∃ shown ∈ KernelVariant.all,
          locale.tr TrCtx.conf (variantLabel shown) = variantLabel .rt :=
  variant_reachable_iff Sample.vercmp Sample.flags [Sample.spanish] "es_ES" (by decide) .rt

/-- So the realtime kernel is out of reach in Spanish. -/
example : ¬∃ shown ∈ KernelVariant.all,
    (ResolvedLocale.ofSystem [Sample.spanish] "es_ES").tr TrCtx.conf (variantLabel shown) =
      variantLabel .rt := by
  decide

end KernelManager
