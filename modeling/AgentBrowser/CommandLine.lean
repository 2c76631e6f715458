import AgentBrowser.GlobalFlags
import Mathlib.Data.List.Enum

namespace AgentBrowser
open Panics Scanning
set_option autoImplicit true

/-- Boolean flags that optionally take true/false. -/
def globalBoolFlags : List String :=
  ["--json", "--headed", "--leave-open", "--debug", "--ignore-https-errors",
    "--allow-file-access", "--auto-connect", "--annotate", "--content-boundaries",
    "--confirm-interactive", "--no-auto-dialog", "-v", "--verbose", "-q", "--quiet"]

def globalFlagsWithValue : List String :=
  ["--session", "--runtime-profile", "--browser-build", "--headers", "--executable-path", "--cdp",
    "--target-id", "--extension", "--profile", "--state", "--proxy", "--proxy-bypass", "--args",
    "--user-agent", "-p", "--provider", "--device", "--session-name", "--color-scheme",
    "--download-path", "--max-output", "--allowed-domains", "--action-policy", "--confirm-actions",
    "--config", "--engine", "--browser-host", "--view-stream-provider",
    "--control-input-provider", "--display-isolation", "--screenshot-dir", "--screenshot-quality",
    "--screenshot-format", "--idle-timeout", "--service-reconcile-interval",
    "--service-job-timeout", "--job-timeout-ms", "--service-recovery-retry-budget",
    "--service-recovery-base-backoff", "--service-recovery-max-backoff", "--model"]

/-- The flags with a value that `extract_config_path` steps over. -/
def configFlagsWithValue : List String :=
  ["--session", "--runtime-profile", "--headers", "--executable-path", "--cdp", "--extension",
    "--profile", "--state", "--proxy", "--proxy-bypass", "--args", "--user-agent", "-p",
    "--provider", "--device", "--session-name", "--color-scheme", "--download-path",
    "--max-output", "--allowed-domains", "--action-policy", "--confirm-actions", "--engine",
    "--screenshot-dir", "--screenshot-quality", "--screenshot-format", "--idle-timeout",
    "--service-reconcile-interval", "--service-job-timeout", "--service-recovery-retry-budget",
    "--service-recovery-base-backoff", "--service-recovery-max-backoff", "--model"]

section Scanners
variable {α : Type} (text : α → String)

/-- The loop of `clean_args`, by `skip_next`. The arguments may carry more than their texts. -/
def cleanArgsFrom : Bool → List α → List α
  | _, [] => []
  | true, _ :: rest => cleanArgsFrom false rest
  | false, [arg] =>
    if globalFlagsWithValue.contains (text arg) then []
    else if globalBoolFlags.contains (text arg) then []
    else [arg]
  | false, arg :: next :: rest =>
    if globalFlagsWithValue.contains (text arg) then cleanArgsFrom true (next :: rest)
    else if globalBoolFlags.contains (text arg) then
      if isSetting (text next) then cleanArgsFrom false rest
      else cleanArgsFrom false (next :: rest)
    else arg :: cleanArgsFrom false (next :: rest)

def cleanArgs (args : List α) : List α := cleanArgsFrom text false args

def extractConfigPath : List α → Option (Option α)
  | [] => none
  | [arg] => if text arg = "--config" then some none else none
  | arg :: next :: rest =>
    if text arg = "--config" then some (some next)
    else if configFlagsWithValue.contains (text arg) then extractConfigPath rest
    else extractConfigPath (next :: rest)

def extractNamedValue (flag : String) : List α → Option α
  | [] => none
  | arg :: rest => if text arg = flag then rest.head? else extractNamedValue flag rest

/-- What `clean_args` takes a flag for. -/
def cleanKind (arg : String) : Option Kind :=
  if globalFlagsWithValue.contains arg then some .value
  else if globalBoolFlags.contains arg then some .switch
  else none

variable {text}

theorem cleanArgsFrom_eq (skip : Bool) (args : List α) :
    cleanArgsFrom text skip args =
      kept (scan text cleanKind (if skip then args.tail else args)) := by
  have hvalueKind {arg : String} (h : globalFlagsWithValue.contains arg = true) :
      cleanKind arg = some .value := if_pos h
  have hboolKind {arg : String} (h : ¬ globalFlagsWithValue.contains arg = true)
      (hbool : globalBoolFlags.contains arg = true) : cleanKind arg = some .switch :=
    (if_neg h).trans (if_pos hbool)
  have hpassed {arg : String} (h : ¬ globalFlagsWithValue.contains arg = true)
      (hbool : ¬ globalBoolFlags.contains arg = true) : cleanKind arg = none :=
    (if_neg h).trans (if_neg hbool)
  induction skip, args using cleanArgsFrom.induct text with
  | case1 skip => cases skip <;> rfl
  | case2 arg rest ih => exact ih
  | case3 arg h =>
    rw [cleanArgsFrom, if_pos h, if_neg Bool.false_ne_true, scan_single (hvalueKind h)]
    rfl
  | case4 arg h hbool =>
    rw [cleanArgsFrom, if_neg h, if_pos hbool, if_neg Bool.false_ne_true,
      scan_single (hboolKind h hbool)]
    rfl
  | case5 arg h hbool =>
    rw [cleanArgsFrom, if_neg h, if_neg hbool, if_neg Bool.false_ne_true,
      scan_passed (hpassed h hbool)]
    rfl
  | case6 arg next rest h ih =>
    rw [cleanArgsFrom, if_pos h, if_neg Bool.false_ne_true, scan_value (hvalueKind h), kept_flag]
    exact ih
  | case7 arg next rest h hbool hsetting ih =>
    rw [cleanArgsFrom, if_neg h, if_pos hbool, if_pos hsetting, if_neg Bool.false_ne_true,
      scan_takes (hboolKind h hbool) hsetting, kept_flag]
    exact ih
  | case8 arg next rest h hbool hsetting ih =>
    rw [cleanArgsFrom, if_neg h, if_pos hbool, if_neg hsetting, if_neg Bool.false_ne_true,
      scan_alone (hboolKind h hbool) (Bool.eq_false_iff.mpr hsetting), kept_flag]
    exact ih
  | case9 arg next rest h hbool ih =>
    rw [cleanArgsFrom, if_neg h, if_neg hbool, if_neg Bool.false_ne_true,
      scan_passed (hpassed h hbool), kept_passed]
    exact congrArg (arg :: ·) ih

/-- `clean_args` keeps what its table of flags leaves to the command. -/
theorem cleanArgs_eq (args : List α) : cleanArgs text args = kept (scan text cleanKind args) :=
  cleanArgsFrom_eq false args

theorem extractConfigPath_eq (args : List α) :
    extractConfigPath text args = seek text configFlagsWithValue.contains "--config" args := by
  induction args using extractConfigPath.induct text with
  | case1 => rfl
  | case2 arg h => rfl
  | case3 arg h => rfl
  | case4 arg next rest h => rw [extractConfigPath, seek, if_pos h, if_pos h]
  | case5 arg next rest h hlisted ih =>
    rw [extractConfigPath, seek, if_neg h, if_neg h, if_pos hlisted, if_pos hlisted, ih]
  | case6 arg next rest h hlisted ih =>
    rw [extractConfigPath, seek, if_neg h, if_neg h, if_neg hlisted, if_neg hlisted, ih]

theorem extractNamedValue_eq (flag : String) (args : List α) :
    extractNamedValue text flag args = (seek text (fun _ => false) flag args).join := by
  induction args with
  | nil => rfl
  | cons arg rest ih =>
    rw [extractNamedValue, seek_cons, if_neg Bool.false_ne_true, ih]
    split <;> rfl

end Scanners

section Tables

def monitorInterval : String := "--service-monitor-interval"

/-- The flags that `parse_flags` reads alone, and after which `clean_args` removes a value. -/
def outputFlags : List String := ["-v", "--verbose", "-q", "--quiet"]

theorem cleanKind_of_mem : ∀ arg ∈ globalFlags.map Prod.fst,
    arg = monitorInterval ∧ globalKind arg = some .value ∧ cleanKind arg = none ∨
      arg ∈ outputFlags ∧ globalKind arg = some .bare ∧ cleanKind arg = some .switch ∨
      arg ≠ monitorInterval ∧ arg ∉ outputFlags ∧ cleanKind arg = globalKind arg := by
  decide +kernel

theorem globalKind_of_not_mem (h : arg ∉ globalFlags.map Prod.fst) : globalKind arg = none := by
  rw [globalKind, Option.map_eq_none_iff, globalFlag, List.lookup_eq_none_iff]
  intro row hrow
  simpa using fun heq : arg = row.1 => h (List.mem_map.mpr ⟨row, hrow, heq.symm⟩)

theorem cleanKind_of_not_mem (hvalue : arg ∉ globalFlagsWithValue) (hbool : arg ∉ globalBoolFlags) :
    cleanKind arg = none := by
  rw [cleanKind, if_neg (by simpa using hvalue), if_neg (by simpa using hbool)]

/-- How the table of `clean_args` differs from the arms of `parse_flags`. -/
theorem cleanKind_cases (arg : String) :
    arg = monitorInterval ∧ globalKind arg = some .value ∧ cleanKind arg = none ∨
      arg ∈ outputFlags ∧ globalKind arg = some .bare ∧ cleanKind arg = some .switch ∨
      arg ≠ monitorInterval ∧ arg ∉ outputFlags ∧ cleanKind arg = globalKind arg := by
  by_cases hmem : arg ∈ globalFlags.map Prod.fst
  · exact cleanKind_of_mem arg hmem
  · have hin : ∀ name ∈ monitorInterval :: outputFlags ++ globalFlagsWithValue ++ globalBoolFlags,
        name ∈ globalFlags.map Prod.fst := by decide
    have hout : arg ∉ monitorInterval :: outputFlags ++ globalFlagsWithValue ++ globalBoolFlags :=
      fun h => hmem (hin arg h)
    simp only [List.mem_append, List.mem_cons, not_or] at hout
    obtain ⟨⟨⟨hmonitor, houtput⟩, hvalue⟩, hbool⟩ := hout
    exact .inr (.inr ⟨hmonitor, houtput,
      (cleanKind_of_not_mem hvalue hbool).trans (globalKind_of_not_mem hmem).symm⟩)

theorem coarser : Coarser globalKind cleanKind := by
  intro arg
  rcases cleanKind_cases arg with ⟨_, hvalue, hnone⟩ | ⟨_, hbare, hswitch⟩ | ⟨_, _, heq⟩
  · exact .inr (.inl ⟨hvalue, hnone⟩)
  · exact .inr (.inr ⟨hbare, hswitch⟩)
  · exact .inl heq

theorem settings_passed (h : isSetting arg = true) : globalKind arg = none := by
  simp only [isSetting, Bool.or_eq_true, decide_eq_true_eq] at h
  rcases h with rfl | rfl
  · decide +kernel
  · decide +kernel

theorem config_kind : globalKind "--config" = some .value := by decide +kernel

theorem runtimeProfile_kind : globalKind "--runtime-profile" = some .value := by decide

theorem configFlags_kind (h : configFlagsWithValue.contains arg = true) :
    globalKind arg = some .value := by
  have hall : ∀ arg ∈ configFlagsWithValue, globalKind arg = some .value := by decide
  exact hall arg (List.contains_iff_mem.mp h)

end Tables

section Positions

/-- The arguments with their positions. -/
def places (args : List String) : List (String × Nat) := args.zipIdx

/-- The division of the arguments into the global flags that `parse_flags` reads, with their
values, and those that are passed on. -/
def reading (args : List String) : List (Step (String × Nat)) :=
  scan Prod.fst globalKind (places args)

theorem places_map (args : List String) : (places args).map Prod.fst = args :=
  List.zipIdx_map_fst 0 args

theorem places_nodup (args : List String) : (places args).Nodup := by
  refine List.Nodup.of_map Prod.snd ?_
  rw [places, List.zipIdx_map_snd]
  exact List.nodup_range'

theorem scan_args (kind : String → Option Kind) (args : List String) :
    scan id kind args = (scan Prod.fst kind (places args)).map (Step.map Prod.fst) := by
  conv_lhs => rw [← places_map args]
  exact scan_map Prod.fst id (places args)

/-- The positions make no difference to the scanners. -/
theorem cleanArgs_places (args : List String) :
    cleanArgs id args = (cleanArgs Prod.fst (places args)).map Prod.fst := by
  rw [cleanArgs_eq, scan_args, kept_map, cleanArgs_eq]

theorem extractConfigPath_places (args : List String) :
    extractConfigPath id args =
      (extractConfigPath Prod.fst (places args)).map (Option.map Prod.fst) := by
  conv_lhs => rw [← places_map args, extractConfigPath_eq]
  rw [extractConfigPath_eq]
  exact seek_map Prod.fst id (places args)

theorem extractNamedValue_places (flag : String) (args : List String) :
    extractNamedValue id flag args =
      (extractNamedValue Prod.fst flag (places args)).map Prod.fst := by
  conv_lhs => rw [← places_map args]
  generalize places args = placed
  induction placed with
  | nil => rfl
  | cons arg rest ih =>
    rw [List.map_cons, extractNamedValue, extractNamedValue, ih, id_eq]
    by_cases hflag : arg.1 = flag
    · rw [if_pos hflag, if_pos hflag, List.head?_map]
    · rw [if_neg hflag, if_neg hflag]

theorem parseFlags_runtimeProfile (h : parseFlags reader flags args = .ok after) :
    after.runtimeProfile =
      ((valuesRead Prod.fst "--runtime-profile" (reading args)).getLast?.map Prod.fst).or
        flags.runtimeProfile := by
  rw [runtimeProfile_parseFlags h, scan_args, valuesRead_map, List.getLast?_map]
  rfl

/-- The arguments that are flags or their values to `parse_flags` are those that `clean_args`
removes, and the path and the profile that are looked for are those that it reads. -/
structure ScannersAgree (args : List String) : Prop where
  removed : taken (reading args) =
    (places args).filter (· ∉ cleanArgs Prod.fst (places args))
  command : cleanArgs Prod.fst (places args) = kept (reading args)
  config : extractConfigPath Prod.fst (places args) =
    firstRead Prod.fst "--config" (reading args)
  runtimeProfile : extractNamedValue Prod.fst "--runtime-profile" (places args) =
    (valuesRead Prod.fst "--runtime-profile" (reading args)).getLast?

/-- A flag that is read alone, and a `true` or `false` that is passed right after it. -/
def PassesSetting : Step (String × Nat) → Step (String × Nat) → Prop
  | .flag name none, .passed arg => name.1 ∈ outputFlags ∧ isSetting arg.1
  | _, _ => False

/-- The command lines on which the differences between the scanners do not show. -/
structure PlainArguments (args : List String) : Prop where
  noMonitorInterval : ∀ name value, .flag name value ∈ reading args → name.1 ≠ monitorInterval
  noPassedSetting : (reading args).IsChain fun step next => ¬ PassesSetting step next
  configReached : Reaches Prod.fst configFlagsWithValue.contains "--config" false (reading args)
  profileFirst : LeadsWith Prod.fst "--runtime-profile" (reading args)
  profileOnce : (valuesRead Prod.fst "--runtime-profile" (reading args)).length ≤ 1

theorem grabs_iff : Grabs Prod.fst globalKind cleanKind step next ↔ PassesSetting step next := by
  match step, next with
  | .passed _, _ => exact Iff.rfl
  | .flag _ (some _), _ => exact Iff.rfl
  | .flag _ none, .flag _ _ => exact Iff.rfl
  | .flag name none, .passed arg =>
    change _ ∧ _ ∧ _ ↔ _ ∧ _
    rw [← and_assoc]
    refine and_congr_left fun _ => ?_
    rcases cleanKind_cases name.1 with ⟨hname, _, hnone⟩ | ⟨hmem, hbare, hswitch⟩ | ⟨_, hmem, heq⟩
    · have hother : monitorInterval ∉ outputFlags := by decide
      rw [hnone, hname]
      exact iff_of_false (fun h => nomatch h.2) hother
    · exact iff_of_true ⟨hbare, hswitch⟩ hmem
    · refine iff_of_false (fun ⟨hbare, hswitch⟩ => ?_) hmem
      rw [heq, hbare] at hswitch
      cases hswitch

theorem knows_iff (h : .flag name value ∈ reading args) :
    Knows Prod.fst cleanKind (.flag name value) ↔ name.1 ≠ monitorInterval := by
  change cleanKind name.1 ≠ none ↔ _
  rcases cleanKind_cases name.1 with ⟨hname, _, hnone⟩ | ⟨hmem, _, hswitch⟩ | ⟨hname, _, heq⟩
  · exact iff_of_false (fun h => h hnone) fun h => h hname
  · have hother : ∀ name ∈ outputFlags, name ≠ monitorInterval := by decide
    exact iff_of_true (by simp [hswitch]) (hother _ hmem)
  · rw [heq]
    exact iff_of_true (kind_of_mem_scan h) hname

theorem aligned_iff (args : List String) :
    Aligned Prod.fst globalKind cleanKind (reading args) ↔
      (∀ name value, .flag name value ∈ reading args → name.1 ≠ monitorInterval) ∧
        (reading args).IsChain fun step next => ¬ PassesSetting step next := by
  constructor
  · intro h
    refine ⟨fun name value hmem => (knows_iff hmem).mp (h.known _ hmem), ?_⟩
    simpa only [grabs_iff] using h.ungrabbed
  · rintro ⟨hinterval, hsetting⟩
    refine ⟨fun step hmem => ?_, by simpa only [grabs_iff] using hsetting⟩
    cases step with
    | passed => exact trivial
    | flag name value => exact (knows_iff hmem).mpr (hinterval name value hmem)

theorem kept_reading_iff (args : List String) :
    kept (reading args) = cleanArgs Prod.fst (places args) ↔
      (∀ name value, .flag name value ∈ reading args → name.1 ≠ monitorInterval) ∧
        (reading args).IsChain fun step next => ¬ PassesSetting step next := by
  rw [cleanArgs_eq, ← aligned_iff]
  exact kept_eq_iff coarser (fun _ => settings_passed) (places_nodup args)

theorem config_iff (args : List String) :
    extractConfigPath Prod.fst (places args) = firstRead Prod.fst "--config" (reading args) ↔
      Reaches Prod.fst configFlagsWithValue.contains "--config" false (reading args) := by
  rw [extractConfigPath_eq]
  exact seek_eq_iff config_kind (fun _ => configFlags_kind) (places_nodup args) false

theorem profile_iff (args : List String) :
    extractNamedValue Prod.fst "--runtime-profile" (places args) =
        (valuesRead Prod.fst "--runtime-profile" (reading args)).getLast? ↔
      LeadsWith Prod.fst "--runtime-profile" (reading args) ∧
        (valuesRead Prod.fst "--runtime-profile" (reading args)).length ≤ 1 := by
  rw [extractNamedValue_eq]
  exact seek_last_iff runtimeProfile_kind (places_nodup args)

theorem scanners_agree (args : List String) : ScannersAgree args ↔ PlainArguments args := by
  constructor
  · intro h
    obtain ⟨hinterval, hsetting⟩ := (kept_reading_iff args).mp h.command.symm
    obtain ⟨hfirst, honce⟩ := (profile_iff args).mp h.runtimeProfile
    exact ⟨hinterval, hsetting, (config_iff args).mp h.config, hfirst, honce⟩
  · intro h
    have hkept := (kept_reading_iff args).mpr ⟨h.noMonitorInterval, h.noPassedSetting⟩
    refine ⟨?_, hkept.symm, (config_iff args).mpr h.configReached,
      (profile_iff args).mpr ⟨h.profileFirst, h.profileOnce⟩⟩
    rw [cleanArgs_eq] at hkept ⊢
    refine ((taken_eq_iff (places_nodup args)).mpr hkept).trans ?_
    exact List.filter_congr fun arg _ => decide_eq_decide.mpr Iff.rfl

theorem monitor_interval_leaks : ¬ ScannersAgree ["--service-monitor-interval", "5", "open"] := by
  intro h
  exact absurd h.command (by decide +kernel)

end Positions

end AgentBrowser
