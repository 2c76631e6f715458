import AgentBrowser.AccessState
import AgentBrowser.BrowserRecovery
import AgentBrowser.DomainFilter
import AgentBrowser.FlagScanners
import AgentBrowser.UserDurations

namespace AgentBrowser
open Panics Scanning
set_option autoImplicit true

/-- What the command line can set. `warnings` has what is printed about refused values. -/
structure Flags where
  json : Bool
  headed : Bool
  leaveOpen : Bool
  debug : Bool
  session : String
  serviceReconcileIntervalMs : Option Nat
  serviceJobTimeoutMs : Option Nat
  commandJobTimeoutMs : Option Nat
  commandJobTimeoutInvalid : Option String
  serviceMonitorIntervalMs : Option Nat
  serviceRecoveryRetryBudget : Nat
  serviceRecoveryBaseBackoffMs : Nat
  serviceRecoveryMaxBackoffMs : Nat
  serviceRecoveryRetryBudgetSource : BrowserRecoveryPolicyValueSource
  serviceRecoveryBaseBackoffMsSource : BrowserRecoveryPolicyValueSource
  serviceRecoveryMaxBackoffMsSource : BrowserRecoveryPolicyValueSource
  browserBuild : Option String
  runtimeProfile : Option String
  headers : Option String
  executablePath : Option String
  cdp : Option String
  targetId : Option String
  extensions : List String
  profile : Option String
  state : Option String
  proxy : Option String
  proxyBypass : Option String
  args : Option String
  userAgent : Option String
  provider : Option String
  ignoreHttpsErrors : Bool
  allowFileAccess : Bool
  device : Option String
  autoConnect : Bool
  sessionName : Option String
  annotate : Bool
  colorScheme : Option String
  downloadPath : Option String
  contentBoundaries : Bool
  maxOutput : Option Nat
  allowedDomains : Option (List String)
  actionPolicy : Option String
  confirmActions : Option String
  confirmInteractive : Bool
  engine : Option String
  browserHost : Option String
  viewStreamProvider : Option String
  controlInputProvider : Option String
  displayIsolation : Option String
  screenshotDir : Option String
  screenshotQuality : Option Nat
  screenshotFormat : Option String
  idleTimeout : Option String
  noAutoDialog : Bool
  model : Option String
  verbose : Bool
  quiet : Bool
  cliExecutablePath : Bool
  cliExtensions : Bool
  cliProfile : Bool
  cliState : Bool
  cliArgs : Bool
  cliUserAgent : Bool
  cliProxy : Bool
  cliProxyBypass : Bool
  cliAllowFileAccess : Bool
  cliAnnotate : Bool
  cliDownloadPath : Bool
  cliHeaded : Bool
  cliLeaveOpen : Bool
  cliBrowserBuild : Bool
  cliRuntimeProfile : Bool
  cliProvider : Bool
  cliBrowserHost : Bool
  cliViewStreamProvider : Bool
  cliControlInputProvider : Bool
  cliDisplayIsolation : Bool
  warnings : List String
  deriving DecidableEq, Repr

def Flags.warn (flags : Flags) (warning : String) : Flags :=
  { flags with warnings := flags.warnings ++ [warning] }

/-- What reading the values rests on. -/
structure Reader where
  build : Build
  lower : Lowercase

/-- An arm of the loop, by what follows the flag. -/
inductive GlobalFlag where
  | value (set : Reader → Flags → String → Result Empty Flags)
  | switch (set : Flags → Bool → Flags)
  | bare (set : Flags → Flags)

namespace GlobalFlag

def kind : GlobalFlag → Kind
  | .value _ => .value
  | .switch _ => .switch
  | .bare _ => .bare

def stores (set : Flags → String → Flags) : GlobalFlag := .value fun _ flags s => .ok (set flags s)

/-- Milliseconds, with zero for none. -/
def interval (flag : String) (set : Flags → Option Nat → Flags) : GlobalFlag :=
  .stores fun flags s =>
    match parseUnsigned 64 s.toList with
    | some 0 => set flags none
    | some ms => set flags (some ms)
    | none => flags.warn ("Invalid " ++ flag ++ ": expected milliseconds, got " ++ s)

def recoveryNumber (flag expected : String) (set : Flags → Nat → Flags) : GlobalFlag :=
  .stores fun flags s =>
    match parseUnsigned 64 s.toList with
    | some number => set flags number
    | none => flags.warn ("Invalid " ++ flag ++ ": expected " ++ expected ++ ", got " ++ s)

def oneOf (labels : List String) (complaint : String) (set : Flags → String → Flags) : GlobalFlag :=
  .stores fun flags s => if labels.contains s then set flags s else flags.warn (complaint ++ s)

def browserBuild : GlobalFlag :=
  .stores fun flags s =>
    if (BrowserBuild.parseLabel s).isSome then
      { flags with browserBuild := some s, cliBrowserBuild := true }
    else
      flags.warn ("--browser-build must be stock_chrome, stealthcdp_chromium, or " ++
        "cdp_free_headed; got " ++ s)

def idleTimeout : GlobalFlag :=
  .value fun reader flags s =>
    match parseIdleTimeout reader.build s with
    | .ok ms => .ok { flags with idleTimeout := some ms }
    | .err e => .ok (flags.warn ("Invalid --idle-timeout: " ++ e))
    | .panic => .panic

def jobTimeout : GlobalFlag :=
  .stores fun flags s =>
    match (parseUnsigned 64 s.toList).filter (0 < ·) with
    | some ms => { flags with commandJobTimeoutMs := some ms, commandJobTimeoutInvalid := none }
    | none => { flags with commandJobTimeoutMs := none, commandJobTimeoutInvalid := some s }

def maxOutput : GlobalFlag :=
  .stores fun flags s =>
    match parseUnsigned 64 s.toList with
    | some n => { flags with maxOutput := some n }
    | none => flags

def allowedDomains : GlobalFlag :=
  .value fun reader flags s =>
    .ok { flags with allowedDomains := some (parseDomainList reader.lower s) }

def screenshotQuality : GlobalFlag :=
  .stores fun flags s =>
    match parseUnsigned 32 s.toList with
    | some n =>
      if n ≤ 100 then { flags with screenshotQuality := some n }
      else flags.warn ("--screenshot-quality must be 0-100, got " ++ toString n)
    | none => flags

def screenshotFormat : GlobalFlag :=
  .stores fun flags s =>
    if s = "png" ∨ s = "jpeg" then { flags with screenshotFormat := some s }
    else flags.warn ("--screenshot-format must be png or jpeg, got '" ++ s ++ "'")

def provider : GlobalFlag :=
  .stores fun flags s => { flags with provider := some s, cliProvider := true }

end GlobalFlag

open GlobalFlag

/-- The arms of the loop in `parse_flags`. -/
def globalFlags : List (String × GlobalFlag) :=
  [("--json", .switch fun flags val => { flags with json := val }),
    ("--headed", .switch fun flags val => { flags with headed := val, cliHeaded := true }),
    ("--leave-open", .switch fun flags val =>
      { flags with leaveOpen := val, cliLeaveOpen := true }),
    ("--debug", .switch fun flags val => { flags with debug := val }),
    ("--session", stores fun flags s => { flags with session := s }),
    ("--runtime-profile", stores fun flags s =>
      { flags with runtimeProfile := some s, cliRuntimeProfile := true }),
    ("--browser-build", browserBuild),
    ("--idle-timeout", idleTimeout),
    ("--service-reconcile-interval", interval "--service-reconcile-interval" fun flags ms =>
      { flags with serviceReconcileIntervalMs := ms }),
    ("--service-job-timeout", interval "--service-job-timeout" fun flags ms =>
      { flags with serviceJobTimeoutMs := ms }),
    ("--job-timeout-ms", jobTimeout),
    ("--service-monitor-interval", interval "--service-monitor-interval" fun flags ms =>
      { flags with serviceMonitorIntervalMs := ms }),
    ("--service-recovery-retry-budget",
      recoveryNumber "--service-recovery-retry-budget" "unsigned integer" fun flags number =>
        { flags with
          serviceRecoveryRetryBudget := number, serviceRecoveryRetryBudgetSource := .cli }),
    ("--service-recovery-base-backoff",
      recoveryNumber "--service-recovery-base-backoff" "milliseconds" fun flags ms =>
        { flags with
          serviceRecoveryBaseBackoffMs := ms, serviceRecoveryBaseBackoffMsSource := .cli }),
    ("--service-recovery-max-backoff",
      recoveryNumber "--service-recovery-max-backoff" "milliseconds" fun flags ms =>
        { flags with
          serviceRecoveryMaxBackoffMs := ms, serviceRecoveryMaxBackoffMsSource := .cli }),
    ("--headers", stores fun flags h => { flags with headers := some h }),
    ("--executable-path", stores fun flags s =>
      { flags with executablePath := some s, cliExecutablePath := true }),
    ("--extension", stores fun flags s =>
      { flags with extensions := flags.extensions ++ [s], cliExtensions := true }),
    ("--cdp", stores fun flags s => { flags with cdp := some s }),
    ("--target-id", stores fun flags s => { flags with targetId := some s }),
    ("--profile", stores fun flags s => { flags with profile := some s, cliProfile := true }),
    ("--state", stores fun flags s => { flags with state := some s, cliState := true }),
    ("--proxy", stores fun flags p => { flags with proxy := some p, cliProxy := true }),
    ("--proxy-bypass", stores fun flags s =>
      { flags with proxyBypass := some s, cliProxyBypass := true }),
    ("--args", stores fun flags s => { flags with args := some s, cliArgs := true }),
    ("--user-agent", stores fun flags s =>
      { flags with userAgent := some s, cliUserAgent := true }),
    ("-p", provider),
    ("--provider", provider),
    ("--ignore-https-errors", .switch fun flags val => { flags with ignoreHttpsErrors := val }),
    ("--allow-file-access", .switch fun flags val =>
      { flags with allowFileAccess := val, cliAllowFileAccess := true }),
    ("--device", stores fun flags d => { flags with device := some d }),
    ("--auto-connect", .switch fun flags val => { flags with autoConnect := val }),
    ("--session-name", stores fun flags s => { flags with sessionName := some s }),
    ("--annotate", .switch fun flags val => { flags with annotate := val, cliAnnotate := true }),
    ("--color-scheme", stores fun flags s => { flags with colorScheme := some s }),
    ("--download-path", stores fun flags s =>
      { flags with downloadPath := some s, cliDownloadPath := true }),
    ("--content-boundaries", .switch fun flags val => { flags with contentBoundaries := val }),
    ("--max-output", maxOutput),
    ("--allowed-domains", allowedDomains),
    ("--action-policy", stores fun flags s => { flags with actionPolicy := some s }),
    ("--confirm-actions", stores fun flags s => { flags with confirmActions := some s }),
    ("--confirm-interactive", .switch fun flags val => { flags with confirmInteractive := val }),
    ("--engine", stores fun flags s => { flags with engine := some s }),
    ("--browser-host", oneOf
      ["local_headless", "local_headed", "docker_headed", "remote_headed", "cloud_provider",
        "attached_existing"]
      ("--browser-host must be local_headless, local_headed, docker_headed, remote_headed, " ++
        "cloud_provider, or attached_existing; got ")
      fun flags s => { flags with browserHost := some s, cliBrowserHost := true }),
    ("--view-stream-provider", oneOf
      ["cdp_screencast", "chrome_tab_webrtc", "virtual_display_webrtc", "novnc", "rdp_gateway",
        "external_url"]
      ("--view-stream-provider must be cdp_screencast, chrome_tab_webrtc, " ++
        "virtual_display_webrtc, novnc, rdp_gateway, or external_url; got ")
      fun flags s => { flags with viewStreamProvider := some s, cliViewStreamProvider := true }),
    ("--control-input-provider", oneOf
      ["cdp_input", "webrtc_input", "vnc_input", "manual_attached_desktop"]
      ("--control-input-provider must be cdp_input, webrtc_input, vnc_input, or " ++
        "manual_attached_desktop; got ")
      fun flags s =>
        { flags with controlInputProvider := some s, cliControlInputProvider := true }),
    ("--display-isolation", oneOf
      ["private_virtual_display", "shared_display", "ambient_display"]
      ("--display-isolation must be private_virtual_display, shared_display, or " ++
        "ambient_display; got ")
      fun flags s => { flags with displayIsolation := some s, cliDisplayIsolation := true }),
    ("--screenshot-dir", stores fun flags s => { flags with screenshotDir := some s }),
    ("--screenshot-quality", screenshotQuality),
    ("--screenshot-format", screenshotFormat),
    ("--no-auto-dialog", .switch fun flags val => { flags with noAutoDialog := val }),
    ("--model", stores fun flags s => { flags with model := some s }),
    ("-v", .bare fun flags => { flags with verbose := true }),
    ("--verbose", .bare fun flags => { flags with verbose := true }),
    ("-q", .bare fun flags => { flags with quiet := true }),
    ("--quiet", .bare fun flags => { flags with quiet := true }),
    -- The path is read by `load_config`.
    ("--config", stores fun flags _ => flags)]

def globalFlag (arg : String) : Option GlobalFlag := globalFlags.lookup arg

/-- The value of a flag that `true` or `false` may follow, and whether one does. -/
def parseBoolArg : Option String → Bool × Bool
  | some "true" => (true, true)
  | some "false" => (false, true)
  | _ => (true, false)

/-- What an arm does to the flags with the argument after it. -/
def GlobalFlag.run (reader : Reader) (flags : Flags) : GlobalFlag → Option String →
    Result Empty Flags
  | .value set, some s => set reader flags s
  | .value _, none => .ok flags
  | .switch set, next => .ok (set flags (parseBoolArg next).1)
  | .bare set, _ => .ok (set flags)

/-- Whether an arm moves on past the argument after it. -/
def GlobalFlag.consumes (next : String) : GlobalFlag → Bool
  | .value _ => true
  | .switch _ => (parseBoolArg (some next)).2
  | .bare _ => false

/-- The loop of `parse_flags`, from the flags that the environment and the configuration give. -/
def parseFlags (reader : Reader) : Flags → List String → Result Empty Flags
  | flags, [] => .ok flags
  | flags, [arg] =>
    match globalFlag arg with
    | none => .ok flags
    | some flag => flag.run reader flags none
  | flags, arg :: next :: rest =>
    match globalFlag arg with
    | none => parseFlags reader flags (next :: rest)
    | some flag =>
      flag.run reader flags (some next) >>= fun flags =>
        if flag.consumes next then parseFlags reader flags rest
        else parseFlags reader flags (next :: rest)

def globalKind (arg : String) : Option Kind := (globalFlag arg).map GlobalFlag.kind

/-- What one step of the reading does to the flags. -/
def readStep (reader : Reader) (flags : Flags) : Step String → Result Empty Flags
  | .passed _ => .ok flags
  | .flag name next =>
    match globalFlag name with
    | none => .ok flags
    | some flag => flag.run reader flags next

theorem parseBoolArg_of_not_isSetting (h : isSetting next = false) :
    parseBoolArg (some next) = (true, false) := by
  have hnot (setting : String) (hsetting : isSetting setting = true) : next ≠ setting := by
    rintro rfl
    exact Bool.false_ne_true (h.symm.trans hsetting)
  have htrue := hnot "true" rfl
  have hfalse := hnot "false" rfl
  simp [parseBoolArg, htrue, hfalse]

theorem consumes_eq (flag : GlobalFlag) (next : String) :
    flag.consumes next = flag.kind.takes next := by
  cases flag with
  | value => rfl
  | bare => rfl
  | switch =>
    change (parseBoolArg (some next)).2 = isSetting next
    cases h : isSetting next with
    | false => rw [parseBoolArg_of_not_isSetting h]
    | true =>
      simp only [isSetting, Bool.or_eq_true, decide_eq_true_eq] at h
      rcases h with rfl | rfl <;> rfl

theorem run_of_not_consumes {flag : GlobalFlag} (h : flag.consumes next = false) :
    flag.run reader flags (some next) = flag.run reader flags none := by
  rw [consumes_eq] at h
  cases flag with
  | value => cases h
  | bare => rfl
  | switch set =>
    rw [GlobalFlag.run, GlobalFlag.run, parseBoolArg_of_not_isSetting h]
    rfl

theorem globalFlag_of_kind (h : globalKind arg = some k) :
    ∃ flag, globalFlag arg = some flag ∧ flag.kind = k :=
  Option.map_eq_some_iff.mp h

/-- The loop reads the arguments as the table divides them. -/
theorem parseFlags_eq (reader : Reader) (flags : Flags) (args : List String) :
    parseFlags reader flags args = (scan id globalKind args).foldlM (readStep reader) flags := by
  induction args using scan_induction id globalKind generalizing flags with
  | nil => rfl
  | passed arg rest h ih =>
    have hflag : globalFlag arg = none := Option.map_eq_none_iff.mp h
    rw [scan_passed h, List.foldlM_cons, readStep, Result.ok_bind, ← ih]
    cases rest with
    | nil => simp [parseFlags, hflag]
    | cons => simp [parseFlags, hflag]
  | single arg k h =>
    obtain ⟨flag, hflag, rfl⟩ : ∃ flag, globalFlag arg = some flag ∧ flag.kind = k :=
      globalFlag_of_kind h
    rw [scan_single h, List.foldlM_cons, readStep, parseFlags, hflag]
    change flag.run reader flags none = flag.run reader flags none >>= fun flags => .ok flags
    cases flag.run reader flags none <;> rfl
  | takes arg next rest k h htakes ih =>
    obtain ⟨flag, hflag, rfl⟩ : ∃ flag, globalFlag arg = some flag ∧ flag.kind = k :=
      globalFlag_of_kind h
    have hconsumes : flag.consumes next = true := (consumes_eq flag next).trans htakes
    rw [scan_takes h htakes, List.foldlM_cons, readStep, parseFlags, hflag]
    simp only [hconsumes, if_true, ih]
  | alone arg next rest k h htakes ih =>
    obtain ⟨flag, hflag, rfl⟩ : ∃ flag, globalFlag arg = some flag ∧ flag.kind = k :=
      globalFlag_of_kind h
    have hconsumes : flag.consumes next = false := (consumes_eq flag next).trans htakes
    rw [scan_alone h htakes, List.foldlM_cons, readStep, parseFlags, hflag]
    simp only [hconsumes, Bool.false_eq_true, if_false, run_of_not_consumes hconsumes, ih]

section RuntimeProfile

/-- An arm that leaves the runtime profile as it is. -/
def GlobalFlag.LeavesProfile (flag : GlobalFlag) : Prop :=
  ∀ reader flags next after, flag.run reader flags next = .ok after →
    after.runtimeProfile = flags.runtimeProfile

theorem leavesProfile_stores {set : Flags → String → Flags}
    (h : ∀ flags s, (set flags s).runtimeProfile = flags.runtimeProfile) :
    (stores set).LeavesProfile := by
  intro reader flags next after hrun
  cases next with
  | none =>
    cases hrun
    rfl
  | some s =>
    cases hrun
    exact h flags s

theorem leavesProfile_switch {set : Flags → Bool → Flags}
    (h : ∀ flags val, (set flags val).runtimeProfile = flags.runtimeProfile) :
    (switch set).LeavesProfile := by
  intro reader flags next after hrun
  cases hrun
  exact h flags _

theorem leavesProfile_bare {set : Flags → Flags}
    (h : ∀ flags, (set flags).runtimeProfile = flags.runtimeProfile) :
    (bare set).LeavesProfile := by
  intro reader flags next after hrun
  cases hrun
  exact h flags

theorem leavesProfile_interval {set : Flags → Option Nat → Flags}
    (h : ∀ flags ms, (set flags ms).runtimeProfile = flags.runtimeProfile) :
    (interval flag set).LeavesProfile := by
  refine leavesProfile_stores fun flags s => ?_
  split <;> first | exact h _ _ | rfl

theorem leavesProfile_recoveryNumber {set : Flags → Nat → Flags}
    (h : ∀ flags number, (set flags number).runtimeProfile = flags.runtimeProfile) :
    (recoveryNumber flag expected set).LeavesProfile := by
  refine leavesProfile_stores fun flags s => ?_
  split <;> first | exact h _ _ | rfl

theorem leavesProfile_oneOf {set : Flags → String → Flags}
    (h : ∀ flags s, (set flags s).runtimeProfile = flags.runtimeProfile) :
    (oneOf labels complaint set).LeavesProfile := by
  refine leavesProfile_stores fun flags s => ?_
  split <;> first | exact h _ _ | rfl

theorem leavesProfile_idleTimeout : idleTimeout.LeavesProfile := by
  intro reader flags next after hrun
  cases next with
  | none =>
    cases hrun
    rfl
  | some s =>
    simp only [idleTimeout, run] at hrun
    split at hrun <;> cases hrun <;> rfl

theorem leavesProfile_allowedDomains : allowedDomains.LeavesProfile := by
  intro reader flags next after hrun
  cases next <;> cases hrun <;> rfl

theorem leavesProfile_of_mem (hrow : row ∈ globalFlags) (hname : row.1 ≠ "--runtime-profile") :
    row.2.LeavesProfile := by
  have hrows : ∀ row ∈ globalFlags, row.1 = "--runtime-profile" ∨ row.2.LeavesProfile := by
    simp only [globalFlags, List.forall_mem_cons]
    and_intros
    all_goals first
      | exact .inl trivial
      | with_reducible refine .inr (leavesProfile_switch ?_)
      | with_reducible refine .inr (leavesProfile_bare ?_)
      | with_reducible refine .inr (leavesProfile_interval ?_)
      | with_reducible refine .inr (leavesProfile_recoveryNumber ?_)
      | with_reducible refine .inr (leavesProfile_oneOf ?_)
      | with_reducible exact .inr leavesProfile_idleTimeout
      | with_reducible exact .inr leavesProfile_allowedDomains
      | exact fun _ hmem => absurd hmem List.not_mem_nil
      | refine .inr (leavesProfile_stores ?_)
    all_goals
      intros
      first
        | rfl
        | split <;> rfl
        | split <;> first | rfl | (split <;> rfl)
  exact (hrows row hrow).resolve_left hname

theorem runtimeProfile_run (h : (stores fun flags s =>
      { flags with runtimeProfile := some s, cliRuntimeProfile := true }).run reader flags next =
        .ok after) : after.runtimeProfile = next.or flags.runtimeProfile := by
  cases next with
  | none =>
    cases h
    rfl
  | some s =>
    cases h
    rfl

theorem runtimeProfile_readStep (h : readStep reader flags step = .ok after) :
    after.runtimeProfile =
      (valuesRead id "--runtime-profile" [step]).getLast?.or flags.runtimeProfile := by
  cases step with
  | passed arg =>
    cases h
    rfl
  | flag name next =>
    by_cases hname : name = "--runtime-profile"
    · subst hname
      rw [runtimeProfile_run h, valuesRead, id, if_pos rfl]
      cases next <;> rfl
    · rw [valuesRead, id, if_neg hname, valuesRead]
      rw [readStep] at h
      split at h
      · cases h
        rfl
      · rename_i flag hflag
        obtain ⟨front, back, hrows, _⟩ := List.lookup_eq_some_iff.mp hflag
        have hrow : (name, flag) ∈ globalFlags :=
          hrows ▸ List.mem_append_right front List.mem_cons_self
        exact leavesProfile_of_mem hrow hname reader flags next after h

/-- The runtime profile is the value that its flag is last read with. -/
theorem runtimeProfile_parseFlags (h : parseFlags reader flags args = .ok after) :
    after.runtimeProfile =
      (valuesRead id "--runtime-profile" (scan id globalKind args)).getLast?.or
        flags.runtimeProfile := by
  rw [parseFlags_eq] at h
  generalize scan id globalKind args = steps at h ⊢
  induction steps generalizing flags with
  | nil =>
    cases h
    rfl
  | cons step later ih =>
    rw [List.foldlM_cons, Result.bind_eq_ok] at h
    obtain ⟨between, hstep, hlater⟩ := h
    change _ = (valuesRead id "--runtime-profile" ([step] ++ later)).getLast?.or _
    rw [ih hlater, runtimeProfile_readStep hstep, valuesRead_append, List.getLast?_append,
      Option.or_assoc]

end RuntimeProfile

end AgentBrowser
