import AgentBrowser.AuthorityOps

namespace AgentBrowser
open Durable
set_option autoImplicit true

/-- Calls of the packages with their real answers. -/
structure AuthorityRecords where
  urls : List (String × ParsedUrl) := []
  times : List (Int × String) := []
  bytes : List (Bytes × String) := []
  envelopes : List (TaskAuthorityEnvelope × String) := []
  plans : List (List TaskAuthorityApprovedStep × String) := []
  reconciliations : List ((String × String × TaskAuthorityReconcileRequest) × String) := []
  receipts : List (TaskAuthorityConfirmationRecord × String) := []
  segments : List (ConfirmationTombstoneSegment × String) := []
  actives : List (List String × String) := []
  reviews : List (ConfirmationCleanupReview × String) := []

/-- A digest of 64 zeros. -/
def zeroDigest : String := "0000000000000000000000000000000000000000000000000000000000000000"

/-- The recorded answer, or 64 zeros. -/
def recordedDigest [DecidableEq α] (records : List (α × String)) (a : α) : String :=
  ((records.find? (·.1 = a)).map (·.2)).getD zeroDigest

/-- A text in strokes only, which no real time is. -/
def isStrokes (text : String) : Bool := text.toList.all (· = '|')

/-- Packages that answer the recorded calls as the real ones did, and any other call plainly. -/
def AuthorityEnv.recorded (r : AuthorityRecords) : AuthorityEnv where
  parseUrl value :=
    match r.urls.find? (·.1 = value) with
    | some u => .ok u.2
    | none => .error "relative URL without a base"
  envelopeSha256 := recordedDigest r.envelopes
  planSha256 := recordedDigest r.plans
  reconciliationSha256 session predecessor request :=
    recordedDigest r.reconciliations (session, predecessor, request)
  bytesSha256 := recordedDigest r.bytes
  receiptSha256 := recordedDigest r.receipts
  segmentSha256 := recordedDigest r.segments
  activeSha256 := recordedDigest r.actives
  reviewSha256 := recordedDigest r.reviews
  formatTime t :=
    match r.times.find? (·.1 = t) with
    | some e => e.2
    | none => String.ofList (List.replicate t.toNat '|')
  parseTime text :=
    match r.times.find? (·.2 = text) with
    | some e => some e.1
    | none => if isStrokes text then some text.toList.length else none

/-- The records agree with what the code relies on. -/
structure AuthorityRecords.Genuine (r : AuthorityRecords) : Prop where
  hosts : ∀ u ∈ r.urls, u.2.scheme = "http" ∨ u.2.scheme = "https" →
    u.2.host.isSome = true ∧ (r.urls.find? (·.1 = u.2.bare)).map (·.2) = some u.2
  texts : ∀ a ∈ r.times, isStrokes a.2 = false ∧ ∀ b ∈ r.times, a.2 = b.2 → a.1 = b.1
  digests : ∀ d ∈ r.bytes, isReference d.2 = true

theorem AuthorityEnv.recorded_lawful (h : r.Genuine) : (AuthorityEnv.recorded r).Lawful where
  host := by
    intro v u hu hs
    simp only [AuthorityEnv.recorded] at hu
    split at hu
    · rename_i e he
      cases hu
      exact (h.hosts e (List.mem_of_find?_eq_some he) hs).1
    · cases hu
  reparse := by
    intro v u hu hs
    simp only [AuthorityEnv.recorded] at hu ⊢
    split at hu
    · rename_i e he
      cases hu
      obtain ⟨e', he', hsame⟩ := Option.map_eq_some_iff.mp
        (h.hosts e (List.mem_of_find?_eq_some he) hs).2
      rw [he']
      exact congrArg Except.ok hsame
    · cases hu
  time := by
    intro t hlo _
    simp only [AuthorityEnv.recorded]
    cases hf : r.times.find? (·.1 = t) with
    | some e =>
      have hmem := List.mem_of_find?_eq_some hf
      have ht : e.1 = t := by simpa using List.find?_some hf
      cases hg : r.times.find? (·.2 = e.2) with
      | some e' =>
        have htext : e'.2 = e.2 := by simpa using List.find?_some hg
        exact congrArg some
          (((h.texts e' (List.mem_of_find?_eq_some hg)).2 e hmem htext).trans ht)
      | none =>
        have hn := List.find?_eq_none.mp hg e hmem
        simp at hn
    | none =>
      have hnone : r.times.find? (·.2 = String.ofList (List.replicate t.toNat '|')) = none := by
        apply List.find?_eq_none.mpr
        intro e he hx
        have hstrokes := (h.texts e he).1
        simp only [decide_eq_true_eq] at hx
        rw [hx] at hstrokes
        simp [isStrokes] at hstrokes
      rw [hnone]
      simp only [isStrokes, String.toList_ofList, List.length_replicate, Int.toNat_of_nonneg hlo]
      simp
  digest := by
    intro b
    simp only [AuthorityEnv.recorded, recordedDigest]
    cases hf : r.bytes.find? (·.1 = b) with
    | some d => exact h.digests d (List.mem_of_find?_eq_some hf)
    | none =>
      change isReference zeroDigest = true
      decide

section Sample

/-- Seconds into the year 2026. -/
def recordedTime (seconds : Nat) : Int := (1767225600 + seconds) * nanosPerSecond

def recordedText (seconds : Nat) : String :=
  "2026-01-01T00:0" ++ toString (seconds / 60) ++ ":0" ++ toString (seconds % 60) ++ "+00:00"

def recordedTimes : List (Int × String) :=
  [0, 1, 2, 3, 4, 60, 63].map fun seconds => (recordedTime seconds, recordedText seconds)

def exampleUrl : ParsedUrl := ⟨"https", some "example.com", none, "https://example.com/"⟩

def recordedUrls : List (String × ParsedUrl) :=
  [("https://example.com/", exampleUrl), ("https://example.com", exampleUrl),
    ("about:blank", ⟨"about", none, none, "about:blank"⟩)]

/-- The records of a run at these times with these URLs agree with what the code relies on. -/
theorem sample_genuine (r : AuthorityRecords) (hu : r.urls = recordedUrls)
    (ht : r.times = recordedTimes) (hd : r.bytes.all (fun d => isReference d.2) = true) :
    r.Genuine where
  hosts := by
    rw [hu]
    decide
  texts := by
    rw [ht]
    decide +kernel
  digests := by
    intro d hmem
    exact List.all_eq_true.mp hd d hmem

/-- An authority for one look at the URL of one page. -/
def sampleAuthorityId : String := "authority-11111111-2222-4333-8444-555555555555"

def sampleOperator : TaskAuthorityIssuer := ⟨"operator", "operator-1"⟩

def sampleIssueRequest : TaskAuthorityIssueRequest where
  taskName := "task-1"
  serviceName := none
  agentName := none
  expectedTargetId := "target-1"
  expectedUrl := "https://example.com/"
  issuer := sampleOperator
  approvalReference := "approval-1"
  expiresInSeconds := 60
  consequenceCeiling := none
  steps := [⟨"url", none, none⟩]

/-- The plan of the sample, under an authority's name. -/
def samplePlan (authorityId : String) : List TaskAuthorityApprovedStep :=
  [⟨authorityId ++ ":step-0", 0, "url", "https://example.com/", none, 4096⟩]

def samplePlanSha256 : String := "c28f8d1fb0c9283158815013e1cbcf00d031609ce16b8ebfa6714e82f271aab6"

def sampleEnvelope : TaskAuthorityEnvelope where
  id := sampleAuthorityId
  taskName := "task-1"
  serviceName := none
  agentName := none
  allowedOrigins := ["https://example.com"]
  allowedActions := ["url"]
  planSha256 := some samplePlanSha256
  lineage := none
  targetBinding := ⟨"target-1", "https://example.com/"⟩
  evidenceBudget := ⟨1, 4096⟩
  consequenceCeiling := "read_only"
  expiresAt := recordedText 60

def issuedSample : TaskAuthorityIssuanceRecord where
  schema := issuanceV2
  sessionId := "session-1"
  envelope := sampleEnvelope
  envelopeSha256 := "a3e3c6f929b8359cb715f60c5ed923a4146c73b4ce5dc2147be75565294abbcd"
  issuer := sampleOperator
  approvalReference := "approval-1"
  approvedPlan :=
    { actions := ["url"]
      origins := ["https://example.com"]
      actionCount := 1
      evidenceBytes := 4096
      steps := samplePlan sampleAuthorityId
      planSha256 := some samplePlanSha256 }
  issuedAt := recordedText 0
  revocation := none

def sampleReconcile (url : String) : TaskAuthorityReconcileRequest where
  reconciliationId := "reconciliation-1"
  unresolvedStepId := sampleAuthorityId ++ ":step-0"
  taskName := "task-1"
  serviceName := none
  agentName := none
  expectedTargetId := "target-1"
  expectedUrl := url
  issuer := sampleOperator
  approvalReference := "approval-1"
  expiresInSeconds := 60
  consequenceCeiling := none
  steps := [⟨"url", none, none⟩]

def sampleReplacementId : String := "authority-reconcile-eed5c9bc75550e5f5c5437d43863c7a7"

def sampleReplacementPlanSha256 : String :=
  "75ab057822abd1b250a29872e3a565d8d72f255b3e2ef9e2a87321e00383acff"

/-- The envelope of the authority that replaces the sample. -/
def sampleReplacement : TaskAuthorityEnvelope :=
  { sampleEnvelope with
    id := sampleReplacementId
    planSha256 := some sampleReplacementPlanSha256
    lineage := some
      { reconciliationId := "reconciliation-1"
        predecessorAuthorityId := sampleAuthorityId
        predecessorStepId := sampleAuthorityId ++ ":step-0"
        predecessorStepIndex := 0
        predecessorCommandId := "command-1"
        predecessorOutcomeState := "indeterminate" }
    expiresAt := recordedText 63 }

def sampleResponse : ResponseView where
  bytes := bytesOf "\x7b\"success\":true\x7d"
  success := some true
  written := by decide

/-- The packages as they answer in the sample runs of authorities. -/
def authorityRecords : AuthorityRecords where
  urls := recordedUrls
  times := recordedTimes
  bytes := [(sampleResponse.bytes,
    "c955e57777ec0d73639dca6748560d00aa5eb8e12f13ebb2ed9656add3908f97")]
  envelopes :=
    [(sampleEnvelope, issuedSample.envelopeSha256),
      (sampleReplacement, "d79c49a7304b72e574995d64779a4181824402ae087cc936508d1226d6643423")]
  plans := [(samplePlan sampleAuthorityId, samplePlanSha256),
    (samplePlan sampleReplacementId, sampleReplacementPlanSha256)]
  reconciliations :=
    [(("session-1", sampleAuthorityId, sampleReconcile "https://example.com/"),
        "eed5c9bc75550e5f5c5437d43863c7a743516af070f17e553016e41e460c2926"),
      (("session-1", sampleAuthorityId, sampleReconcile "about:blank"),
        "ed1c2b2076c2c0449dce1f38c142a386b843b5ce906c7777ecda7e7f9b484da2")]

abbrev sampleAuthority : AuthorityEnv := .recorded authorityRecords

theorem sampleAuthority_lawful : sampleAuthority.Lawful :=
  AuthorityEnv.recorded_lawful (sample_genuine _ rfl rfl (by decide))

def sampleContext (targetId : String) : TaskAuthorityContext where
  sessionId := "session-1"
  targetId := some targetId
  url := some "https://example.com/"
  confirmedAuthorityId := none
  requireAuthority := true

/-- The command for the step of the sample. -/
def sampleStep : CommandView where
  taskAuthority := some (.ok sampleEnvelope)
  id := some "command-1"
  taskStepId := some (sampleAuthorityId ++ ":step-0")
  taskName := some "task-1"
  serviceName := none
  agentName := none
  url := none
  paramsUrl := none
  tabHandleUrl := none
  taskEvidenceBytes := some 4096
  maxReturnBytes := none
  maxTextBytes := none
  maxBodyBytes := none

end Sample

end AgentBrowser
