import AgentBrowser.AsciiLetters
import AgentBrowser.RetainedBrowser

namespace AgentBrowser
set_option autoImplicit true

/-- A browser row as the service writes it: a field that it does not know is null. -/
structure PersistedRow (row : JsonValue) : Prop where
  object : row.isObject = true
  texts : ∀ name ∈ ["host", "health", "browserBuild", "executablePath", "cdpEndpoint", "profileId"],
    ∀ value, row.get name = some value → value = .null ∨ ∃ text, value = .string text
  pid : ∀ value, row.get "pid" = some value →
    value = .null ∨ ∃ pid : Nat, value = .number pid ∧ 0 < pid ∧ pid < 2 ^ 32

/-- No blanks around the identity. -/
def RetainedBrowserExpectation.Trimmed (expectation : RetainedBrowserExpectation) : Prop :=
  jsTrim expectation.profileId = expectation.profileId ∧
    jsTrim expectation.targetId = expectation.targetId ∧ jsTrim expectation.url = expectation.url

/-- A proof that the scripts take as matching names a profile just where it binds an executable
and an endpoint. -/
def Bound (row : JsonValue) : Prop :=
  proofMatches row = true → ∀ profileId,
    (row.get "browserBuildProof").bind (·.get "profileId") = some (.string profileId) →
    (profileId ≠ "" ↔ ((row.get "executablePath").bind (·.asStr)).isSome ∧
      ((row.get "cdpEndpoint").bind (·.asStr)).isSome)

section Profiles
variable {row : JsonValue}

theorem strictEq_string : strictEq value (some (.string text)) = true ↔
    value = some (.string text) := by
  cases value with
  | none => simp [strictEq]
  | some value => cases value <;> simp [strictEq]

theorem strictEq_bool : strictEq value (some (.bool flag)) = true ↔
    value = some (.bool flag) := by
  cases value with
  | none => simp [strictEq]
  | some value => cases value <;> simp [strictEq]

theorem strictEq_number : strictEq value (some (.number number)) = true ↔
    value = some (.number number) := by
  cases value with
  | none => simp [strictEq]
  | some value => cases value <;> simp [strictEq]

/-- A field of the row that is a text, null or not there is compared by value. -/
theorem PersistedRow.strictEq_iff (h : PersistedRow row) (name : String) (hname : name ∈
      ["host", "health", "browserBuild", "executablePath", "cdpEndpoint", "profileId"]) :
    strictEq value (row.get name) = true ↔ value = row.get name := by
  cases hfield : row.get name with
  | none =>
    cases value with
    | none => simp [strictEq]
    | some value => cases value <;> simp [strictEq]
  | some field =>
    rcases h.texts name hname field hfield with rfl | ⟨text, rfl⟩
    · cases value with
      | none => simp [strictEq]
      | some value => cases value <;> simp [strictEq]
    · exact strictEq_string

theorem asStr_eq_some {value : Option JsonValue} :
    value.bind (·.asStr) = some text ↔ value = some (.string text) := by
  cases value with
  | none => simp
  | some value => cases value <;> simp [JsonValue.asStr]

theorem asBool_eq_some {value : Option JsonValue} :
    value.bind (·.asBool) = some flag ↔ value = some (.bool flag) := by
  cases value with
  | none => simp
  | some value => cases value <;> simp [JsonValue.asBool]

theorem asNat_eq_some {value : Option JsonValue} {number : Nat} :
    value.bind (·.asNat) = some number ↔ value = some (.number number) := by
  cases value with
  | none => simp
  | some value =>
    cases value <;> simp [JsonValue.asNat]
    omega

/-- The process of the row is the one of the proof, in both readings. -/
theorem PersistedRow.pid_iff (h : PersistedRow row) (proof : JsonValue) :
    (((row.get "pid").bind (·.asNat)).all fun pid =>
      (proof.get "browserPid").bind (·.asNat) = some pid) = true ↔
    (isNullish (row.get "pid") || strictEq (proof.get "browserPid") (row.get "pid")) = true := by
  cases hpid : row.get "pid" with
  | none => simp [isNullish]
  | some value =>
    rcases h.pid value hpid with rfl | ⟨pid, rfl, _, _⟩
    · simp [isNullish, JsonValue.asNat]
    · have hnat : (some (JsonValue.number pid)).bind (·.asNat) = some pid := by
        rw [asNat_eq_some]
      rw [hnat, Option.all_some, decide_eq_true_eq, asNat_eq_some]
      simp [isNullish, strictEq_number]

theorem PersistedRow.proofMatches_iff (h : PersistedRow row) :
    proofMatches row = true ↔ row.get "host" = some (.string "attached_existing") ∧
      ∃ proof, row.get "browserBuildProof" = some proof ∧
        proof.get "applied" = some (.bool true) ∧
        proof.get "browserBuild" = row.get "browserBuild" ∧
        proof.get "executablePath" = row.get "executablePath" ∧
        proof.get "cdpEndpoint" = row.get "cdpEndpoint" ∧
        (((row.get "pid").bind (·.asNat)).all fun pid =>
          (proof.get "browserPid").bind (·.asNat) = some pid) = true := by
  simp only [proofMatches, Bool.and_eq_true, strictEq_string, strictEq_bool,
    h.strictEq_iff "browserBuild" (by decide),
    h.strictEq_iff "executablePath" (by decide),
    h.strictEq_iff "cdpEndpoint" (by decide)]
  cases hproof : row.get "browserBuildProof" with
  | none => simp
  | some proof =>
    simp only [Option.bind_some, Option.some.injEq, exists_eq_left', h.pid_iff proof, and_assoc]

theorem effectivePersisted_eq_some (h : PersistedRow row) :
    effectivePersistedBrowserProfileId row = some profileId ↔
      proofMatches row = true ∧ ((row.get "executablePath").bind (·.asStr)).isSome ∧
      ((row.get "cdpEndpoint").bind (·.asStr)).isSome ∧
      (row.get "browserBuildProof").bind (·.get "profileId") = some (.string profileId) := by
  rw [h.proofMatches_iff]
  constructor
  · intro hsome
    obtain ⟨proof, hproof, hsome⟩ := Option.bind_eq_some_iff.mp hsome
    obtain ⟨endpoint, hendpoint, hsome⟩ := Option.bind_eq_some_iff.mp hsome
    obtain ⟨endpoint', hendpoint', hsome⟩ := Option.bind_eq_some_iff.mp hsome
    obtain ⟨path, hpath, hsome⟩ := Option.bind_eq_some_iff.mp hsome
    obtain ⟨path', hpath', hsome⟩ := Option.bind_eq_some_iff.mp hsome
    obtain ⟨_, hguard, hid⟩ := Option.bind_eq_some_iff.mp hsome
    obtain ⟨hhost, happlied, hbuild, rfl, rfl, hpid⟩ := (Option.guard_eq_some' _).mp hguard
    have hfound := (Option.filter_eq_some_iff.mp hproof).1
    refine ⟨⟨asStr_eq_some.mp hhost, proof, hfound, asBool_eq_some.mp happlied, hbuild.symm, ?_, ?_,
      hpid⟩, by rw [hpath]; rfl, by rw [hendpoint]; rfl, ?_⟩
    · rw [asStr_eq_some.mp hpath', asStr_eq_some.mp hpath]
    · rw [asStr_eq_some.mp hendpoint', asStr_eq_some.mp hendpoint]
    · rw [hfound, Option.bind_some]
      exact asStr_eq_some.mp hid
  · rintro ⟨⟨hhost, proof, hproof, happlied, hbuild, hpath, hendpoint, hpid⟩, hpathed, hreached, hid⟩
    obtain ⟨path, hsome⟩ := Option.isSome_iff_exists.mp hpathed
    obtain ⟨endpoint, hsome'⟩ := Option.isSome_iff_exists.mp hreached
    rw [hproof, Option.bind_some] at hid
    have hobject : proof.isObject = true := by
      cases proof with
      | object fields => rfl
      | _ => cases hid
    simp only [effectivePersistedBrowserProfileId, hproof, Option.filter_some, hobject, if_true,
      Option.bind_eq_bind, Option.bind_some, hpath, hendpoint, hsome, hsome', asStr_eq_some.mpr hhost,
      asBool_eq_some.mpr happlied, hbuild, hpid, asStr_eq_some.mpr hid]
    rfl

/-- The profile of a browser is the same to the service and to the scripts. -/
theorem effective_profile_eq (h : PersistedRow row) (hbound : Bound row) :
    effectiveRetainedProfileId row = .ofStr (persistedProfileId row) := by
  have hrow : (row.get "profileId").getD .null =
      .ofStr ((row.get "profileId").bind (·.asStr)) := by
    cases hprofile : row.get "profileId" with
    | none => rfl
    | some value =>
      rcases h.texts "profileId" (by decide) value hprofile with rfl | ⟨text, rfl⟩ <;> rfl
  rw [effectiveRetainedProfileId, persistedProfileId]
  cases hpersisted : effectivePersistedBrowserProfileId row with
  | some profileId =>
    obtain ⟨hmatches, hpathed, hreached, hid⟩ := (effectivePersisted_eq_some h).mp hpersisted
    have hne : profileId ≠ "" := (hbound hmatches profileId hid).mpr ⟨hpathed, hreached⟩
    simp [hmatches, hid, typeofString, hne, JsonValue.ofStr]
  | none =>
    have hnone : (proofMatches row && (typeofString
        ((row.get "browserBuildProof").bind (·.get "profileId"))).any (· ≠ "")) = false := by
      rw [Bool.eq_false_iff]
      intro hboth
      obtain ⟨hmatches, htext⟩ := Bool.and_eq_true_iff.mp hboth
      cases hid : (row.get "browserBuildProof").bind (·.get "profileId") with
      | none => simp [hid, typeofString] at htext
      | some value =>
        cases value with
        | string text =>
          have hne : text ≠ "" := by simpa [hid, typeofString] using htext
          obtain ⟨hpathed, hreached⟩ := (hbound hmatches text hid).mp hne
          have hfound := (effectivePersisted_eq_some h).mpr ⟨hmatches, hpathed, hreached, hid⟩
          rw [hpersisted] at hfound
          cases hfound
        | _ => simp [hid, typeofString] at htext
    rw [hnone, Option.none_or]
    exact hrow

end Profiles

section Expectations
variable {expectation : RetainedBrowserExpectation}

theorem jsTrim_of_all (h : ∀ c ∈ value.toList, isJsSpace c = false) : jsTrim value = value := by
  have hdrop (text : List Char) (htext : ∀ c ∈ text, isJsSpace c = false) :
      text.dropWhile isJsSpace = text := by
    cases text with
    | nil => rfl
    | cons c text => rw [List.dropWhile_cons_of_neg (by simp [htext c List.mem_cons_self])]
  rw [jsTrim, hdrop _ h, hdrop _ fun c hc => h c (List.mem_reverse.mp hc), List.reverse_reverse,
    String.ofList_toList]

theorem isJsSpace_sessionChar {c : Char}
    (h : (c.isAlphanum || c = '.' || c = '_' || c = '-') = true) : isJsSpace c = false := by
  have hcode : c.toNat = 45 ∨ c.toNat = 46 ∨ c.toNat = 95 ∨ (48 ≤ c.toNat ∧ c.toNat ≤ 57) ∨
      (65 ≤ c.toNat ∧ c.toNat ≤ 90) ∨ (97 ≤ c.toNat ∧ c.toNat ≤ 122) := by
    simp only [Bool.or_eq_true, decide_eq_true_eq, AsciiLetters.isAlphanum_iff] at h
    rcases h with ((hletter | rfl) | rfl) | rfl
    · omega
    · decide
    · decide
    · decide
  rw [Bool.eq_false_iff]
  intro hspace
  simp only [isJsSpace, Bool.or_eq_true, Bool.and_eq_true, decide_eq_true_eq] at hspace
  omega

theorem isSessionId_eq (value : String) : isSessionId value = validSessionName value := by
  unfold isSessionId validSessionName
  split
  next => rfl
  next first rest _ =>
    congr 1
    congr 1
    funext c
    simp [Bool.or_assoc]

/-- What the scripts make of a requirement's identity. -/
def RetainedBrowserExpectation.normalized (expectation : RetainedBrowserExpectation) :
    NormalizedExpectation where
  sessionName := expectation.sessionName
  browserId := none
  browserPid := none
  cdpUrl := none
  profileId := some expectation.profileId
  targetId := some expectation.targetId
  url := some expectation.url

theorem jsTrim_sessionName (h : validSessionName value = true) : jsTrim value = value := by
  apply jsTrim_of_all
  intro c hc
  apply isJsSpace_sessionChar
  unfold validSessionName at h
  split at h
  next hnil => rw [hnil] at hc; cases hc
  next first rest hlist =>
    rw [hlist] at hc
    obtain ⟨hfirst, hrest⟩ := Bool.and_eq_true_iff.mp h
    rcases List.mem_cons.mp hc with rfl | htail
    · simp [hfirst]
    · exact List.all_eq_true.mp hrest c htail

theorem optionalString_of_trimmed (htrim : jsTrim value = value) (hne : value ≠ "") :
    optionalString (some (.string value)) = some value := by
  simp [optionalString, typeofString, htrim, hne]

theorem normalize_toJson (hsession : validSessionName expectation.sessionName = true)
    (htrimmed : expectation.Trimmed) (hprofile : expectation.profileId ≠ "")
    (htarget : expectation.targetId ≠ "") (hurl : expectation.url ≠ "") :
    normalizeRetainedBrowserExpectation (some expectation.toJson) =
      .ok (some expectation.normalized) := by
  have hname : expectation.sessionName ≠ "" := by
    intro hempty
    rw [hempty] at hsession
    cases hsession
  have hfields : (expectation.toJson.get "sessionName" = some (.string expectation.sessionName) ∧
      expectation.toJson.get "profileId" = some (.string expectation.profileId) ∧
      expectation.toJson.get "targetId" = some (.string expectation.targetId) ∧
      expectation.toJson.get "url" = some (.string expectation.url)) ∧
      expectation.toJson.get "browserId" = none ∧ expectation.toJson.get "browserPid" = none ∧
      expectation.toJson.get "cdpUrl" = none := by
    simp [RetainedBrowserExpectation.toJson, JsonValue.get]
  obtain ⟨⟨hsessionName, hprofileId, htargetId, hurlField⟩, hbrowserId, hbrowserPid, hcdpUrl⟩ :=
    hfields
  have hobject : expectation.toJson.isObject = true := rfl
  -- the checks are those of a value that is there
  have hnull : expectation.toJson ≠ .null := fun h => (by cases h)
  have hnone : optionalString none = none := rfl
  simp only [normalizeRetainedBrowserExpectation]
  simp only [hobject, hsessionName, hprofileId, htargetId,
    hurlField, hbrowserId, hbrowserPid, hcdpUrl, hnone, isSessionId_eq,
    optionalString_of_trimmed (jsTrim_sessionName hsession) hname,
    optionalString_of_trimmed htrimmed.1 hprofile, optionalString_of_trimmed htrimmed.2.1 htarget,
    optionalString_of_trimmed htrimmed.2.2 hurl, Except.bind_eq_ok, refuseIf_eq_ok, orRefuse_eq_ok,
    checkSome_eq_ok]
  exact ⟨(), rfl, none, rfl, _, rfl, (), by rw [hsession]; rfl, (), fun _ h => (by cases h), rfl⟩

/-- What both readers of a requirement say of its identity. -/
structure Accepted (parseUrl : String → Except String ParsedUrl)
    (expectation : RetainedBrowserExpectation) : Prop where
  service : validateExpectation parseUrl expectation = .ok ()
  scripts : ∃ read, readExpectation parseUrl expectation.toJson = .ok read

end Expectations

section Verifiers
variable {probe : ServiceProbe} {expectation : RetainedBrowserExpectation} {row state : JsonValue}
  {targets : List JsonValue}

theorem failIf_eq_ok : failIf bad reason message = .ok u ↔ bad = false := by
  cases bad <;> simp [failIf]

theorem decide_ne_eq_false {a b : α} [Decidable (a ≠ b)] : decide (a ≠ b) = false ↔ a = b := by
  rw [decide_eq_false_iff_not, Classical.not_not]

theorem urlsMatch_eq (expected : String) (observed : Option JsonValue) :
    Guard.retainedTargetUrlsMatch (some (.string expected)) observed =
      (observed.bind (·.asStr)).any (retainedTargetUrlsMatch expected) := by
  cases observed with
  | none => rfl
  | some observed =>
    cases observed with
    | string observed =>
      simp only [Guard.retainedTargetUrlsMatch, JsonValue.asStr, Option.bind_some, Option.any_some,
        retainedTargetUrlsMatch, identity_eq]
      cases conversationPattern expected.toList with
      | none => rfl
      | some left =>
        cases conversationPattern observed.toList with
        | none => rfl
        | some right => simp [Prod.ext_iff]
    | _ => rfl

theorem hasTargetId_eq (targetId : String) (target : JsonValue) :
    hasTargetId targetId target = decide (target.get "id" = some (.string targetId)) := by
  rw [Bool.eq_iff_iff, decide_eq_true_eq, hasTargetId, strictEq_string]

theorem exists_unit {p : Unit → Prop} : (∃ u, p u) ↔ p () :=
  ⟨fun ⟨_, h⟩ => h, fun h => ⟨(), h⟩⟩

theorem checkRetainedBrowser_eq_ok :
    checkRetainedBrowser probe.parseUrl row (some targets) expectation.normalized = .ok () ↔
      row.get "id" = some (.string ("session:" ++ expectation.sessionName)) ∧
      row.get "health" = some (.string "ready") ∧
      effectiveRetainedProfileId row = .string expectation.profileId ∧
      truthy (row.get "cdpEndpoint") = true ∧
      ((row.get "cdpEndpoint").map jsText).any (isLoopbackDevToolsUrl probe.parseUrl) = true ∧
      (targets.filter (hasTargetId expectation.targetId)).length = 1 ∧
      ((((targets.filter (hasTargetId expectation.targetId)).head?.bind (·.get "url")).bind
        (·.asStr)).any (retainedTargetUrlsMatch expectation.url)) = true := by
  simp only [checkRetainedBrowser, RetainedBrowserExpectation.normalized, Except.bind_eq_ok,
    failIf_eq_ok, Bool.not_eq_eq_eq_not, Bool.not_false, Option.getD_none, Option.any_some,
    Option.any_none, Option.isNone_some, Option.isSome_some, Option.isSome_none, Option.map_some,
    Option.getD_some, strictEq_string, urlsMatch_eq, Option.some.injEq, Bool.true_and,
    Bool.false_and, bne_eq_false_iff_eq, exists_const, true_and]

theorem verifyPersistedBrowser_eq_ok (hbrowsers : state.get "browsers" = some browsers)
    (hrow : browsers.get ("session:" ++ expectation.sessionName) = some row)
    (hobject : row.isObject = true) :
    verifyPersistedBrowser expectation probe state = .ok () ↔
      row.get "id" = some (.string ("session:" ++ expectation.sessionName)) ∧
      persistedProfileId row = some expectation.profileId ∧
      row.get "health" = some (.string "ready") ∧
      verifyPersistedPid probe row = .ok () ∧
      activeSessionMatches expectation row = 1 ∧ matchingHandles expectation row = 1 ∧
      ∃ endpoint, row.get "cdpEndpoint" = some (.string endpoint) ∧ endpoint ≠ "" ∧
        ∃ targets, fetchLoopbackCdpTargets probe endpoint = .ok targets ∧
          (targets.filter (hasTargetId expectation.targetId)).length = 1 ∧
          ((((targets.filter (hasTargetId expectation.targetId)).head?.bind (·.get "url")).bind
            (·.asStr)).any (retainedTargetUrlsMatch expectation.url)) = true := by
  have hmap : browsers.isObject = true := by
    cases browsers with
    | object fields => rfl
    | _ => cases hrow
  simp only [verifyPersistedBrowser, hbrowsers, Option.filter_some, hmap, if_true, hrow, hobject,
    Except.bind_eq_ok, orRefuse_eq_ok, refuseIf_eq_ok, Option.some.injEq, exists_eq_left',
    exists_const, decide_ne_eq_false, asStr_eq_some, Option.filter_eq_some_iff, decide_eq_true_eq,
    Bool.not_eq_eq_eq_not, Bool.not_false, and_assoc, true_and, exists_unit, ← hasTargetId_eq]

theorem fetch_eq_ok (htargets : ∀ endpoint, probe.cdpTargets endpoint = .ok targets) :
    fetchLoopbackCdpTargets probe endpoint = .ok found ↔
      isLoopbackEndpoint probe.parseUrl endpoint = true ∧ found = targets := by
  unfold fetchLoopbackCdpTargets isLoopbackEndpoint
  cases probe.parseUrl endpoint with
  | error message => simp
  | ok parsed =>
    simp only [Except.bind_eq_ok, refuseIf_eq_ok, orRefuse_eq_ok, htargets, exists_const]
    cases parsed.host with
    | none => simp
    | some host =>
      simp only [Option.some.injEq, exists_eq_left', Option.any_some, Bool.and_eq_true,
        Bool.or_eq_false_iff, decide_ne_eq_false, decide_eq_true_eq, Bool.not_eq_eq_eq_not,
        Bool.not_false, Except.ok.injEq, Option.isNone_eq_false_iff]
      simp only [and_assoc]
      exact and_congr_right fun _ => and_congr_right fun _ => and_congr_right fun _ => eq_comm

/-- The scripts accept every endpoint that the service accepts. -/
theorem isLoopbackDevToolsUrl_of_endpoint {parseUrl : String → Except String ParsedUrl}
    (h : isLoopbackEndpoint parseUrl endpoint = true) :
    isLoopbackDevToolsUrl parseUrl endpoint = true := by
  unfold isLoopbackEndpoint at h
  unfold isLoopbackDevToolsUrl
  cases hparsed : parseUrl endpoint with
  | error message => simp [hparsed] at h
  | ok parsed =>
    simp only [hparsed, Bool.and_eq_true, decide_eq_true_eq] at h
    obtain ⟨⟨hscheme, _⟩, hhost⟩ := h
    have hloopback : ∀ host ∈ ["127.0.0.1", "localhost", "::1"],
        (bareHost host = "localhost" || bareHost host = "::1" || octetsOfLoopback (bareHost host)) =
          true := by decide +kernel
    cases hnamed : parsed.host with
    | none => simp [hnamed] at hhost
    | some host =>
      rw [hnamed, Option.any_some, List.contains_iff_mem] at hhost
      have hknown := hloopback host hhost
      simp only [hnamed, hscheme, Option.getD_some]
      simpa using hknown

/-- An endpoint that the service reads targets from. -/
def ServedEndpoint (parseUrl : String → Except String ParsedUrl) (endpoint : String) : Prop :=
  ∃ parsed, parseUrl endpoint = .ok parsed ∧ parsed.scheme = "ws" ∧ parsed.port.isSome = true ∧
    (parsed.host = some "127.0.0.1" ∨ parsed.host = some "localhost")

theorem ServedEndpoint.isLoopback {parseUrl : String → Except String ParsedUrl}
    (h : ServedEndpoint parseUrl endpoint) : isLoopbackEndpoint parseUrl endpoint = true := by
  obtain ⟨parsed, hparsed, hscheme, hport, hhost⟩ := h
  unfold isLoopbackEndpoint
  rcases hhost with hhost | hhost <;> simp [hparsed, hscheme, hport, hhost]

/-- The service and the scripts say the same of a row, on these endpoints. -/
structure VerifiersAgree (covered : String → Prop) (probe : ServiceProbe)
    (expectation : RetainedBrowserExpectation) (row state : JsonValue) (targets : List JsonValue) :
    Prop where
  accepted : verifyPersistedBrowser expectation probe state = .ok () →
    ∀ stage, ∃ evaluation, evaluateRetainedBrowserExpectation probe.parseUrl (some row)
      (some targets) (some expectation.toJson) stage = .ok evaluation ∧
      evaluation.verified = true ∧
      evaluation.observed.profileId = .ofStr (persistedProfileId row)
  verified : ∀ stage evaluation endpoint, evaluateRetainedBrowserExpectation probe.parseUrl
      (some row) (some targets) (some expectation.toJson) stage = .ok evaluation →
    evaluation.verified = true → row.get "cdpEndpoint" = some (.string endpoint) →
    covered endpoint → (∃ pid, persistedPid row = some pid ∧ probe.pidIsRunning pid = true) →
    activeSessionMatches expectation row = 1 → matchingHandles expectation row = 1 →
    verifyPersistedBrowser expectation probe state = .ok ()
  profiles : effectiveRetainedProfileId row = .ofStr (persistedProfileId row)
  endpoints : ∀ endpoint, covered endpoint →
    isLoopbackEndpoint probe.parseUrl endpoint = isLoopbackDevToolsUrl probe.parseUrl endpoint

theorem evaluate_eq (hnormalized : normalizeRetainedBrowserExpectation
      (some expectation.toJson) = .ok (some expectation.normalized)) (stage : String) :
    evaluateRetainedBrowserExpectation probe.parseUrl (some row) (some targets)
      (some expectation.toJson) stage = .ok (evaluatedExpectation probe.parseUrl (some row)
        (some targets) expectation.normalized stage) := by
  rw [evaluateRetainedBrowserExpectation, hnormalized]
  rfl

/-- A row that is there is verified where every check passes. -/
theorem evaluated_verified (hobject : row.isObject = true) :
    (evaluatedExpectation probe.parseUrl (some row) (some targets) expectation.normalized
      stage).verified = true ↔
      checkRetainedBrowser probe.parseUrl row (some targets) expectation.normalized = .ok () := by
  have htruthy : truthy (some row) = true := by
    cases row with
    | object fields => rfl
    | _ => cases hobject
  simp only [evaluatedExpectation, Option.filter_some, htruthy, if_true]
  cases checkRetainedBrowser probe.parseUrl row (some targets) expectation.normalized with
  | ok _ => simp
  | error failed => simp

theorem evaluated_profileId {read : NormalizedExpectation} :
    (evaluatedExpectation probe.parseUrl (some row) (some targets) read stage).observed.profileId =
      effectiveRetainedProfileId row := by
  rw [evaluatedExpectation]
  split <;> rfl

theorem normalize_url {value : JsonValue} {read : NormalizedExpectation}
    (h : normalizeRetainedBrowserExpectation (some value) = .ok (some read)) :
    read.url = optionalString (value.get "url") := by
  unfold normalizeRetainedBrowserExpectation at h
  split at h
  next => cases h
  next => cases h
  next found hnull hsome =>
    cases hsome
    simp only [Except.bind_eq_ok] at h
    obtain ⟨_, _, _, _, _, _, _, _, _, _, hread⟩ := h
    cases hread
    rfl

theorem Accepted.normalized (h : Accepted probe.parseUrl expectation)
    (htrimmed : expectation.Trimmed) :
    normalizeRetainedBrowserExpectation (some expectation.toJson) =
      .ok (some expectation.normalized) := by
  have hservice := h.service
  simp only [validateExpectation, Except.bind_eq_ok, refuseIf_eq_ok, Bool.not_eq_eq_eq_not,
    Bool.not_false, Bool.or_eq_false_iff, decide_eq_false_iff_not, exists_const] at hservice
  obtain ⟨hsession, ⟨hprofile, htarget⟩, _⟩ := hservice
  obtain ⟨read, hread⟩ := h.scripts
  simp only [readExpectation, Except.bind_eq_ok, orRefuse_eq_ok, refuseIf_eq_ok, exists_const]
    at hread
  obtain ⟨_, found, hfound, _, rfl, _, _, hurl, _⟩ := hread
  apply normalize_toJson hsession htrimmed hprofile htarget
  intro hempty
  rw [normalize_url hfound] at hurl
  simp [RetainedBrowserExpectation.toJson, JsonValue.get, hempty, optionalString, typeofString]
    at hurl
  exact absurd hurl (by decide)

/-- The service and the scripts agree on an identity without blanks around it and a row whose
attach proof is bound, at the endpoints that the service reads. -/
theorem retained_verifiers_agree (probe : ServiceProbe) (expectation : RetainedBrowserExpectation)
    (row state browsers : JsonValue) (targets : List JsonValue)
    (haccepted : Accepted probe.parseUrl expectation) (htrimmed : expectation.Trimmed)
    (hpersisted : PersistedRow row) (hbound : Bound row)
    (hbrowsers : state.get "browsers" = some browsers)
    (hrow : browsers.get ("session:" ++ expectation.sessionName) = some row)
    (htargets : ∀ endpoint, probe.cdpTargets endpoint = .ok targets) :
    VerifiersAgree (ServedEndpoint probe.parseUrl) probe expectation row state targets := by
  have hnormalized := haccepted.normalized htrimmed
  have hprofile := effective_profile_eq hpersisted hbound
  have hevaluate := @evaluate_eq probe expectation row targets hnormalized
  have hservice := @verifyPersistedBrowser_eq_ok probe expectation row state browsers hbrowsers hrow
    hpersisted.object
  refine ⟨?_, ?_, hprofile, ?_⟩
  · intro hverify stage
    obtain ⟨hid, hnamed, hready, _, _, _, endpoint, hendpoint, hne, found, hfetch, hone, hurl⟩ :=
      hservice.mp hverify
    obtain ⟨hloopback, rfl⟩ := (fetch_eq_ok htargets).mp hfetch
    have hscripts := isLoopbackDevToolsUrl_of_endpoint hloopback
    have hcheck := checkRetainedBrowser_eq_ok.mpr ⟨hid, hready, by rw [hprofile, hnamed]; rfl,
      by simp [hendpoint, truthy, hne], by simpa [hendpoint, jsText] using hscripts, hone, hurl⟩
    exact ⟨_, hevaluate stage, (evaluated_verified hpersisted.object).mpr hcheck, by
      rw [evaluated_profileId]; exact hprofile⟩
  · intro stage evaluation endpoint hevaluation hverified hendpoint hserved hpid hsessions hhandles
    rw [hevaluate stage] at hevaluation
    cases hevaluation
    obtain ⟨hid, hready, hnamed, htruthy, _, hone, hurl⟩ :=
      checkRetainedBrowser_eq_ok.mp ((evaluated_verified hpersisted.object).mp hverified)
    obtain ⟨pid, hpid, hruns⟩ := hpid
    have hprocess : verifyPersistedPid probe row = .ok () := by
      simp [verifyPersistedPid, hpid, hruns]
    have hsame : persistedProfileId row = some expectation.profileId := by
      rw [hprofile] at hnamed
      cases hpersistedId : persistedProfileId row with
      | none => rw [hpersistedId] at hnamed; cases hnamed
      | some profileId => rw [hpersistedId] at hnamed; cases hnamed; rfl
    have hne : endpoint ≠ "" := by
      rintro rfl
      rw [hendpoint] at htruthy
      cases htruthy
    exact hservice.mpr ⟨hid, hsame, hready, hprocess, hsessions, hhandles, endpoint, hendpoint, hne,
      targets, (fetch_eq_ok htargets).mpr ⟨hserved.isLoopback, rfl⟩, hone, hurl⟩
  · intro endpoint hserved
    rw [hserved.isLoopback, isLoopbackDevToolsUrl_of_endpoint hserved.isLoopback]

/-- An attached browser of one session at an endpoint. -/
def attachedRow (endpoint : String) : JsonValue :=
  .object [("id", .string "session:keeper"), ("host", .string "attached_existing"),
    ("health", .string "ready"), ("pid", .number 4242), ("cdpEndpoint", .string endpoint),
    ("browserBuild", .null), ("executablePath", .string "/opt/chrome"),
    ("profileId", .string "row"),
    ("browserBuildProof", .object [("applied", .bool true), ("browserBuild", .null),
      ("executablePath", .string "/opt/chrome"), ("cdpEndpoint", .string endpoint),
      ("browserPid", .number 4242), ("profileId", .string "work")]),
    ("activeSessionIds", .array [.string "keeper"]),
    ("tabHandles", .array [.object [("browserId", .string "session:keeper"),
      ("sessionName", .string "keeper"), ("targetId", .string "T1"),
      ("url", .string "https://a.test/"), ("valid", .bool true)]])]

def attachedTargets : List JsonValue :=
  [.object [("id", .string "T1"), ("url", .string "https://a.test/")]]

def attachedExpectation : RetainedBrowserExpectation :=
  ⟨"keeper", "work", "T1", "https://a.test/"⟩

/-- The URLs of the row, and a process that runs. -/
def attachedProbe : ServiceProbe where
  parseUrl value :=
    if value = "https://a.test/" then .ok ⟨"https", some "a.test", none, "https://a.test/"⟩
    else if value = "ws://127.0.0.1:9222/" then
      .ok ⟨"ws", some "127.0.0.1", some 9222, "ws://127.0.0.1:9222/"⟩
    else if value = "ws://127.0.0.2:9222/" then
      .ok ⟨"ws", some "127.0.0.2", some 9222, "ws://127.0.0.2:9222/"⟩
    else .error "relative URL without a base"
  pidIsRunning pid := pid = 4242
  cdpTargets _ := .ok attachedTargets

def attachedBrowsers (endpoint : String) : JsonValue :=
  .object [("session:keeper", attachedRow endpoint)]

def attachedState (endpoint : String) : JsonValue :=
  .object [("browsers", attachedBrowsers endpoint)]

theorem attachedExpectation_accepted : Accepted attachedProbe.parseUrl attachedExpectation :=
  ⟨by decide, attachedExpectation.normalized, by decide⟩

theorem attachedRow_persisted (endpoint : String) : PersistedRow (attachedRow endpoint) := by
  refine ⟨rfl, ?_, ?_⟩
  · simp [attachedRow, JsonValue.get]
  · intro value hvalue
    have hpid : value = .number (4242 : Nat) := by
      simpa [attachedRow, JsonValue.get] using hvalue.symm
    exact .inr ⟨4242, hpid, by decide, by decide⟩

theorem attachedRow_bound (endpoint : String) : Bound (attachedRow endpoint) := by
  simp [Bound, attachedRow, JsonValue.get, JsonValue.asStr]

theorem attached_verifiers_agree : VerifiersAgree (ServedEndpoint attachedProbe.parseUrl)
    attachedProbe attachedExpectation (attachedRow "ws://127.0.0.1:9222/")
    (attachedState "ws://127.0.0.1:9222/") attachedTargets :=
  retained_verifiers_agree _ _ _ _ (attachedBrowsers "ws://127.0.0.1:9222/") _
    attachedExpectation_accepted ⟨by decide, by decide, by decide⟩
    (attachedRow_persisted _) (attachedRow_bound _) rfl rfl fun _ => rfl

/-- At 127.0.0.2 the scripts verify a browser that the service refuses. -/
theorem verifiers_disagree_on_loopback : ¬ ∀ (probe : ServiceProbe)
    (expectation : RetainedBrowserExpectation) (row state browsers : JsonValue)
    (targets : List JsonValue), Accepted probe.parseUrl expectation → PersistedRow row →
    state.get "browsers" = some browsers →
    browsers.get ("session:" ++ expectation.sessionName) = some row →
    (∀ endpoint, probe.cdpTargets endpoint = .ok targets) →
    VerifiersAgree (fun _ => True) probe expectation row state targets := by
  intro hall
  have hagree := hall attachedProbe attachedExpectation (attachedRow "ws://127.0.0.2:9222/")
    (attachedState "ws://127.0.0.2:9222/") (attachedBrowsers "ws://127.0.0.2:9222/")
    attachedTargets attachedExpectation_accepted (attachedRow_persisted _) rfl rfl fun _ => rfl
  have hverified := hagree.verified "before_install" _ "ws://127.0.0.2:9222/" rfl
    (by decide +kernel) rfl trivial ⟨4242, by decide, by decide⟩
    (by decide) (by decide)
  have hrefused : verifyPersistedBrowser attachedExpectation attachedProbe
      (attachedState "ws://127.0.0.2:9222/") =
      .error (failure "retained_browser_cdp_not_loopback") := by decide
  rw [hrefused] at hverified
  cases hverified

end Verifiers

end AgentBrowser
