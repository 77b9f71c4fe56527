import KernelManager.Core.Options
import KernelManager.Library.Keyed

/-! The build-environment witness of the candidate against the reference tool. -/

namespace KernelManager

structure UiState where
  hardly : Bool
  perGov : Bool
  tcpBbr3 : Bool
  cachyConfig : Bool
  nconfig : Bool
  xconfig : Bool
  localmodcfg : Bool
  useCurrent : Bool
  builtinZfs : Bool
  builtinNvidiaOpen : Bool
  buildDebug : Bool
  hzTicks : String
  tickrate : String
  preempt : String
  hugepage : String
  lto : String
  cpuOpt : String
  customName : String
  deriving DecidableEq, Repr

def UiState.checkboxes (state : UiState) : List Bool :=
  [state.hardly, state.perGov, state.tcpBbr3, state.cachyConfig, state.nconfig, state.xconfig,
    state.localmodcfg, state.useCurrent, state.builtinZfs, state.builtinNvidiaOpen,
    state.buildDebug]

def notPossible (debug : String → String) (what value : String) : String :=
  what ++ ": " ++ debug value ++ " is not a UI-possible value"

namespace OracleEnv

def checkboxBindings : List String :=
  ["hardly", "per_gov", "tcp_bbr3", "cachy_config", "nconfig", "xconfig", "localmodcfg",
    "use_current", "builtin_zfs", "builtin_nvidia_open", "build_debug"]

def optionMap : List (String × String) :=
  [("cachy_config", "_cachy_config"), ("nconfig", "_makenconfig"), ("xconfig", "_makexconfig"),
    ("localmodcfg", "_localmodcfg"), ("use_current", "_use_current"), ("hardly", "_cc_harder"),
    ("per_gov", "_per_gov"), ("tcp_bbr3", "_tcp_bbr3"), ("HZ_ticks", "_HZ_ticks"),
    ("tickrate", "_tickrate"), ("preempt", "_preempt"), ("hugepage", "_hugepage"),
    ("cpu_opt", "_processor_opt"), ("lto", "_use_llvm_lto"), ("builtin_zfs", "_build_zfs"),
    ("builtin_nvidia_open", "_build_nvidia_open"), ("build_debug", "_build_debug")]

def hzTicks : List String := ["1000", "750", "600", "500", "300", "250", "100"]

def tickless : List String := ["full", "idle", "periodic"]

def preempt : List String := ["full", "lazy", "voluntary", "none"]

def lto : List String := ["none", "full", "thin", "thin-dist"]

def hugepage : List String := ["always", "madvise"]

def cpuOpt : List String :=
  ["manual", "native", "generic_v1", "generic_v2", "generic_v3", "generic_v4", "zen4"]

def variableOf (option : String) : String :=
  ((optionMap.find? (·.1 = option)).map (·.2)).getD ""

def varAssign (option value : String) : String := variableOf option ++ "=" ++ value ++ "\n"

def varAssignWrapped (option : String) (enabled : Bool) : String :=
  varAssign option (if enabled then "yes" else "no")

def validate (debug : String → String) (value : String) (list : List String) (what : String) :
    Except String Unit :=
  if value ∈ list then .ok () else .error (notPossible debug what value)

def render (debug : String → String) (state : UiState) : Except String String := do
  validate debug state.hzTicks hzTicks "hz_ticks"
  validate debug state.tickrate tickless "tickrate"
  validate debug state.preempt preempt "preempt"
  validate debug state.hugepage hugepage "hugepage"
  validate debug state.lto lto "lto"
  validate debug state.cpuOpt cpuOpt "cpu_opt"
  let out := (checkboxBindings.zip state.checkboxes).foldl
    (fun out entry => out ++ varAssignWrapped entry.1 entry.2) ""
  let out := out ++ varAssign "HZ_ticks" state.hzTicks
  let out := out ++ varAssign "tickrate" state.tickrate
  let out := out ++ varAssign "preempt" state.preempt
  let out := out ++ varAssign "hugepage" state.hugepage
  let out := out ++ varAssign "lto" state.lto
  let out := if state.cpuOpt ≠ "manual" then out ++ varAssign "cpu_opt" state.cpuOpt else out
  return if state.lto ≠ "none" ∧ state.customName ≠ "$pkgbase" then out ++ "_use_lto_suffix=n\n"
    else out

end OracleEnv

def findValue {Item : Type} (debug : String → String) (items : List Item)
    (value : Item → String) (what wanted : String) : Except String Item :=
  match items.find? (value · = wanted) with
  | some item => .ok item
  | none => .error (notPossible debug what wanted)

def buildOptions (debug : String → String) (state : UiState) : Except String BuildOptions := do
  let hzTicks ← findValue debug HzTick.all HzTick.value "hz_ticks" state.hzTicks
  let tickless ← findValue debug TicklessMode.all TicklessMode.value "tickrate" state.tickrate
  let preempt ← findValue debug PreemptMode.all PreemptMode.value "preempt" state.preempt
  let hugepage ← findValue debug HugepageMode.all HugepageMode.value "hugepage" state.hugepage
  let lto ← findValue debug LtoMode.all LtoMode.value "lto" state.lto
  let cpuOpt ← findValue debug CpuOptMode.all CpuOptMode.value "cpu_opt" state.cpuOpt
  return {
    variant := .cachyos
    hardly := state.hardly
    perGov := state.perGov
    tcpBbr3 := state.tcpBbr3
    cachyConfig := state.cachyConfig
    nconfig := state.nconfig
    xconfig := state.xconfig
    localmodcfg := state.localmodcfg
    useCurrent := state.useCurrent
    builtinZfs := state.builtinZfs
    builtinNvidiaOpen := state.builtinNvidiaOpen
    buildDebug := state.buildDebug
    hzTicks, tickless, preempt, hugepage, lto, cpuOpt
    customName := state.customName }

/-- `main` of `cachyos-kernel-manager-env`. -/
def witnessEnv (debug : String → String) (state : UiState) : Except String String := do
  let options ← buildOptions debug state
  return options.envString

theorem findValue_validate {Item : Type} (debug : String → String) (items : List Item)
    (value : Item → String) (what wanted : String) :
    (∃ item, value item = wanted ∧ findValue debug items value what wanted = .ok item ∧
      OracleEnv.validate debug wanted (items.map value) what = .ok ()) ∨
      ∃ message, findValue debug items value what wanted = .error message ∧
        OracleEnv.validate debug wanted (items.map value) what = .error message := by
  unfold findValue OracleEnv.validate
  cases found : items.find? (value · = wanted) with
  | some item =>
      have named : value item = wanted := by simpa using List.find?_some found
      have listed : wanted ∈ items.map value :=
        named ▸ List.mem_map_of_mem (List.mem_of_find?_eq_some found)
      exact .inl ⟨item, named, rfl, if_pos listed⟩
  | none =>
      have absent : wanted ∉ items.map value := by
        rintro listed
        obtain ⟨item, member, named⟩ := List.mem_map.mp listed
        have missing := List.find?_eq_none.mp found item member
        simp [named] at missing
      exact .inr ⟨_, rfl, if_neg absent⟩

theorem findValue_bind {Item : Type} {debug : String → String} {items : List Item}
    {value : Item → String} {what wanted : String} {next : Item → Except String String}
    {other : Unit → Except String String}
    (same : ∀ item, value item = wanted → next item = other ()) :
    (findValue debug items value what wanted >>= next) =
      (OracleEnv.validate debug wanted (items.map value) what >>= other) := by
  obtain ⟨item, named, found, passes⟩ | ⟨message, missing, refused⟩ :=
    findValue_validate debug items value what wanted
  · rw [found, passes]
    exact same item named
  · rw [missing, refused]
    rfl

theorem checkboxes_assigned (checked : List Bool) (text : String) :
    (OracleEnv.checkboxBindings.zip checked).foldl
        (fun out entry => out ++ OracleEnv.varAssignWrapped entry.1 entry.2) text =
      ((checkboxBindings.zip checked).map
          fun entry => (entry.1.2, if entry.2 then "yes" else "no")).foldl
        (fun text pair => text ++ (pair.1 ++ "=" ++ pair.2 ++ "\n")) text := by
  have names : OracleEnv.checkboxBindings = checkboxBindings.map (·.1) := rfl
  have table : ∀ binding ∈ checkboxBindings, OracleEnv.variableOf binding.1 = binding.2 := by
    decide +kernel
  rw [names, List.zip_map_left, List.foldl_map, List.foldl_map]
  refine List.foldl_ext _ _ _ ?_
  rintro out ⟨binding, enabled⟩ member
  have listed := (List.of_mem_zip member).1
  simp only [Prod.map_fst, Prod.map_snd, OracleEnv.varAssignWrapped, OracleEnv.varAssign,
    table binding listed, id_eq]

theorem varAssign_eq (option name value : String) (found : OracleEnv.variableOf option = name) :
    OracleEnv.varAssign option value = name ++ "=" ++ value ++ "\n" := by
  rw [OracleEnv.varAssign, found]

theorem envString_eq (options : BuildOptions) :
    options.envString =
      let out := (OracleEnv.checkboxBindings.zip options.checked).foldl
        (fun out entry => out ++ OracleEnv.varAssignWrapped entry.1 entry.2) ""
      let out := out ++ OracleEnv.varAssign "HZ_ticks" options.hzTicks.value
      let out := out ++ OracleEnv.varAssign "tickrate" options.tickless.value
      let out := out ++ OracleEnv.varAssign "preempt" options.preempt.value
      let out := out ++ OracleEnv.varAssign "hugepage" options.hugepage.value
      let out := out ++ OracleEnv.varAssign "lto" options.lto.value
      let out := if options.cpuOpt.value ≠ "manual" then
          out ++ OracleEnv.varAssign "cpu_opt" options.cpuOpt.value
        else out
      if options.lto.value ≠ "none" ∧ options.customName ≠ "$pkgbase" then
        out ++ "_use_lto_suffix=n\n"
      else out := by
  have manual : options.cpuOpt.value ≠ "manual" ↔ options.cpuOpt ≠ .manual := by
    cases options.cpuOpt <;> decide
  have none : options.lto.value ≠ "none" ↔ options.lto ≠ .none := by
    cases options.lto <;> decide
  have suffix : ("_use_lto_suffix" ++ "=" ++ "n" ++ "\n" : String) = "_use_lto_suffix=n\n" := by
    decide +kernel
  simp only [BuildOptions.envString, BuildOptions.envPairs, List.foldl_append,
    ← checkboxes_assigned, List.foldl_cons, List.foldl_nil, manual, none,
    varAssign_eq "HZ_ticks" "_HZ_ticks" _ (by decide +kernel),
    varAssign_eq "tickrate" "_tickrate" _ (by decide +kernel),
    varAssign_eq "preempt" "_preempt" _ (by decide +kernel),
    varAssign_eq "hugepage" "_hugepage" _ (by decide +kernel),
    varAssign_eq "lto" "_use_llvm_lto" _ (by decide +kernel),
    varAssign_eq "cpu_opt" "_processor_opt" _ (by decide +kernel)]
  have sentinel : pkgbaseSentinel = "$pkgbase" := rfl
  rw [sentinel]
  split <;> split
  all_goals simp only [List.foldl_cons, List.foldl_nil, suffix]

/-- The candidate prints the environment of the reference, or refuses a value with its message,
for every state of the widgets. -/
theorem witnessEnv_eq (debug : String → String) (state : UiState) :
    witnessEnv debug state = OracleEnv.render debug state := by
  simp only [witnessEnv, buildOptions, OracleEnv.render, bind_assoc, pure_bind]
  refine findValue_bind fun hz hzNamed => findValue_bind fun tickless ticklessNamed =>
    findValue_bind fun preempt preemptNamed => findValue_bind fun hugepage hugepageNamed =>
      findValue_bind fun lto ltoNamed => findValue_bind fun cpuOpt cpuOptNamed => ?_
  rw [envString_eq, ← hzNamed, ← ticklessNamed, ← preemptNamed, ← hugepageNamed, ← ltoNamed,
    ← cpuOptNamed]
  rfl

end KernelManager
