import AgentBrowser.OperationRuns
import AgentBrowser.RecordedPackages

namespace AgentBrowser
open Durable
set_option autoImplicit true

/-- The file whose creation is the phase that a call carries out. -/
def OpCmd.phase : OpCmd → Option FileName
  | .admitOperation _ reference => some (.entry reference .admitted)
  | .storeResult _ reference _ => some (.entry reference .result)
  | .admitDelivery _ reference => some (.entry reference .deliveryAdmitted)
  | .completeDelivery _ reference => some (.entry reference .delivery)
  | _ => none

/-- What a logged call was and what it came to. -/
def callOf {C : Crypto} (e : (operationMachine C).Entry) : OpCmd × OpRes := (e.cmd, e.res)

/-- The call carried out the phase of `name`. -/
def completes {C : Crypto} (name : FileName) (e : (operationMachine C).Entry) : Bool :=
  (callOf e).1.phase = some name ∧ (callOf e).2 = .done

def OperationStatus.rank : OperationStatus → Nat
  | .staged => 0
  | .admitted => 1
  | .resultReady => 2

section Lifecycle
variable {C : Crypto} {key : Bytes}

theorem mem_creates_of_phase {c : OpCmd} (h : c.phase = some name) : name ∈ c.creates C := by
  cases c with
  | admitOperation | storeResult | admitDelivery | completeDelivery =>
    cases h
    exact List.mem_cons_self
  | stage | load | loadResult | status | reserveBackupCode | reserveJourney
  | bindReconciliation | reconciliationReference => cases h

/-- Only the call for a phase creates its file. -/
theorem phase_of_mayCreate {c : OpCmd} (hn : name.needs = some n) (h : c.mayCreate C name) :
    c.phase = some name := by
  rcases h with h | ⟨_, _, _, _, rfl⟩
  · cases c with
    | admitOperation | storeResult | admitDelivery | completeDelivery =>
      rw [List.mem_singleton.mp h]
      rfl
    | bindReconciliation | reserveJourney =>
      rw [List.mem_singleton.mp h] at hn
      cases hn
    | reserveBackupCode h' r =>
      simp only [OpCmd.creates] at h
      cases hr : r.normalized with
      | none =>
        rw [hr] at h
        cases h
      | some normalized =>
        simp only [hr, BackupRequest.reservations, List.map_cons, List.map_nil, List.mem_cons,
          List.not_mem_nil, or_false] at h
        rcases h with rfl | rfl | rfl <;> cases hn
    | stage | load | loadResult | status | reconciliationReference => cases h
  · cases hn

theorem statusIn_mono (h : i <:+ j) (reference : String) :
    (statusIn i reference).rank ≤ (statusIn j reference).rank := by
  have ha := @createdIn_mono i j (.entry reference .admitted) h
  have hr := @createdIn_mono i j (.entry reference .result) h
  by_cases hia : FileName.entry reference .admitted ∈ createdIn i
  · by_cases hir : FileName.entry reference .result ∈ createdIn i
    · simp only [statusIn, if_pos hia, if_pos (ha hia), if_pos hir, if_pos (hr hir), le_refl]
    · have hadmitted : statusIn i reference = .admitted := by
        simp only [statusIn, if_pos hia, if_neg hir]
      rw [hadmitted]
      simp only [statusIn, if_pos (ha hia)]
      split
      · exact Nat.le_succ 1
      · exact Nat.le_refl 1
  · simp only [statusIn, if_neg hia, OperationStatus.rank]
    omega

theorem filter_length_le_one {p : α → Bool} {l : List α}
    (h : l.Pairwise fun a b => ¬ (p a = true ∧ p b = true)) : (l.filter p).length ≤ 1 := by
  induction l with
  | nil => exact Nat.zero_le 1
  | cons a l ih =>
    obtain ⟨ha, hl⟩ := List.pairwise_cons.mp h
    rw [List.filter_cons]
    split
    · rename_i hp
      have hnone : l.filter p = [] := by
        apply List.filter_eq_nil_iff.mpr
        exact fun b hb hpb => ha b hb ⟨hp, hpb⟩
      rw [hnone]
      exact Nat.le_refl 1
    · exact ih hl

variable {s : (operationMachine C).Pool}

/-- Two calls that succeed create different files. -/
theorem creations_differ
    (h : Machine.Reachable (operationMachine C) (freshWorld key device inode) s) :
    s.log.Pairwise fun new old => ∀ name, new.res = .done → old.res = .done →
      name ∈ OpCmd.creates C new.cmd → name ∉ OpCmd.creates C old.cmd := by
  have hk := operation_holds h
  have ho := operation_ordered h
  apply ho.pairs.imp_of_mem
  intro new old hnew hold hle name hdone hdone' hn hn'
  have hmade := ((hk.posts new hnew).2.2.done hdone).2 name hn
  have hmade' := ((hk.posts old hold).2.2.done hdone').2 name hn'
  have hsame : new.tid = old.tid := by
    apply hk.inv.history.creator
    · exact (ho.past new hnew).2.subset hmade.2
    · exact (ho.past old hold).2.subset hmade'.2
  apply hmade.1
  exact createdIn_mono (hle.2 hsame) (mem_createdIn.mpr ⟨_, hmade'.2⟩)

/-- A step that brings a file into being is one of a running call that may create it, after the
file it needs. -/
theorem file_appears (hk : (operationContract C key).Holds s) (hs : s.next e = some s')
    (hn : name ∈ createdIn s'.world.journal) (hs' : name ∉ createdIn s.world.journal) :
    ∃ t ch c since p, e = .step t ch ∧ s.agent t = .busy c since p ∧ OpCmd.mayCreate C c name ∧
      ∀ n, name.needs = some n → n ∈ createdIn s.world.journal := by
  cases e with
  | start t c =>
    cases hb : s.agent t with
    | busy c since p => simp only [Machine.Pool.next, hb, reduceCtorEq] at hs
    | idle l =>
      simp only [Machine.Pool.next, hb, Option.some.injEq] at hs
      subst hs
      exact absurd hn hs'
  | step t ch =>
    cases hb : s.agent t with
    | idle l => simp only [Machine.Pool.next, hb, reduceCtorEq] at hs
    | busy c since p =>
      obtain ⟨_, hg, _⟩ := hk.step_guar hb hs
      obtain ⟨hm, hneeds⟩ := OpGuar.made hg name hn hs'
      exact ⟨t, ch, c, since, p, rfl, hb, hm, hneeds⟩
  | finish t =>
    obtain ⟨c, since, l, r, _, hw, _⟩ := hk.finish_post hs
    rw [hw] at hn
    exact absurd hn hs'
  | stop pid =>
    simp only [Machine.Pool.next, Option.some.injEq] at hs
    subst hs
    exact absurd hn hs'

theorem journal_grows (hk : (operationContract C key).Holds s) (hs : s.next e = some s') :
    s.world.journal <:+ s'.world.journal := by
  cases e with
  | start t c =>
    cases hb : s.agent t with
    | busy c since p => simp only [Machine.Pool.next, hb, reduceCtorEq] at hs
    | idle l =>
      simp only [Machine.Pool.next, hb, Option.some.injEq] at hs
      subst hs
      exact List.suffix_rfl
  | step t ch =>
    cases hb : s.agent t with
    | idle l => simp only [Machine.Pool.next, hb, reduceCtorEq] at hs
    | busy c since p =>
      obtain ⟨_, hg, _⟩ := hk.step_guar hb hs
      exact OpGuar.grows hg
  | finish t =>
    obtain ⟨c, since, l, r, _, hw, _⟩ := hk.finish_post hs
    rw [hw]
  | stop pid =>
    simp only [Machine.Pool.next, Option.some.injEq] at hs
    subst hs
    exact List.suffix_rfl

/-- The phase that an operation has reached, by the files in the directory. -/
def World.status (w : World) (reference : String) : OperationStatus :=
  if .entry reference .admitted ∈ w.dir then
    if .entry reference .result ∈ w.dir then .resultReady else .admitted
  else .staged

theorem status_eq (hi : OpInv key w) (reference : String) :
    w.status reference = statusIn w.journal reference := by
  have hm (role : Role) : FileName.entry reference role ∈ w.dir ↔
      FileName.entry reference role ∈ createdIn w.journal := by
    simp [hi.files]
  simp only [World.status, statusIn, hm]

/-- In every pool a fresh store can come to, over any interleaving and any process stops: each
phase of an operation succeeds at most once; its file appears only in a step of the call for it,
when the file of the phase before is there, and stays; and neither the status nor what calls
that follow each other report of it moves back. A call that starts now follows every call in the
log. -/
theorem operation_lifecycle (device inode : Nat)
    (h : Machine.Reachable (operationMachine C) (freshWorld key device inode) s) :
    (∀ name, (s.log.filter (completes name)).length ≤ 1) ∧
    (∀ e ∈ s.log, ∀ name, completes name e = true → name ∈ s.world.dir) ∧
    (∀ e s', s.next e = some s' →
      (∀ name ∈ s.world.dir, name ∈ s'.world.dir) ∧
      (∀ name n, name.needs = some n → name ∉ s.world.dir → name ∈ s'.world.dir →
        n ∈ s.world.dir ∧ ∃ t ch c since p, e = .step t ch ∧ s.agent t = .busy c since p ∧
          OpCmd.phase c = some name) ∧
      ∀ reference, (s.world.status reference).rank ≤ (s'.world.status reference).rank) ∧
    (∀ e ∈ s.log, e.after.journal <:+ s.world.journal) ∧
    ∀ old ∈ s.log, ∀ new ∈ s.log, old.after.journal <:+ new.before.journal →
      ∀ h h' reference x y, old.cmd = .status h reference → old.res = .status x →
        new.cmd = .status h' reference → new.res = .status y → x.rank ≤ y.rank := by
  have hk := operation_holds h
  have ho := operation_ordered h
  refine ⟨?_, ?_, ?_, ?_, ?_⟩
  · intro name
    apply filter_length_le_one
    apply (creations_differ h).imp
    intro new old hne hboth
    simp only [completes, decide_eq_true_eq] at hboth
    exact hne name hboth.1.2 hboth.2.2 (mem_creates_of_phase hboth.1.1)
      (mem_creates_of_phase hboth.2.1)
  · intro e he name hc
    simp only [completes, decide_eq_true_eq] at hc
    have hmade := ((hk.posts e he).2.2.done hc.2).2 name (mem_creates_of_phase hc.1)
    apply (hk.inv.files name).mpr
    exact .inr (mem_createdIn.mpr ⟨_, (ho.past e he).2.subset hmade.2⟩)
  · intro e s' hs
    have hk' := hk.next hs
    have hgrows := journal_grows hk hs
    refine ⟨?_, ?_, ?_⟩
    · intro name hn
      apply (hk'.inv.files name).mpr
      exact ((hk.inv.files name).mp hn).imp_right (createdIn_mono hgrows)
    · intro name n hneeds hn hn'
      have hnew : name ∈ createdIn s'.world.journal := by
        rcases (hk'.inv.files name).mp hn' with rfl | hc
        · exact absurd ((hk.inv.files _).mpr (.inl rfl)) hn
        · exact hc
      obtain ⟨t, ch, c, since, p, he, hb, hm, hfirst⟩ := file_appears hk hs hnew
        fun hc => hn ((hk.inv.files name).mpr (.inr hc))
      exact ⟨(hk.inv.files n).mpr (.inr (hfirst n hneeds)), t, ch, c, since, p, he, hb,
        phase_of_mayCreate hneeds hm⟩
    · intro reference
      rw [status_eq hk.inv, status_eq hk'.inv]
      exact statusIn_mono hgrows reference
  · exact fun e he => (ho.past e he).2
  · intro old hold new hnew hle h h' reference x y hc hx hc' hy
    obtain ⟨j, _, hj, rfl⟩ := (hk.posts old hold).2.2.status h reference x hc hx
    obtain ⟨j', hj', _, rfl⟩ := (hk.posts new hnew).2.2.status h' reference y hc' hy
    exact statusIn_mono (hj.trans (hle.trans hj')) reference

end Lifecycle

section Sample

/-- A call of AES-256-GCM by the store with the sample key and the `n`th nonce. -/
def storeSeal (reference : String) (role : Role) (n : UInt8) (message ciphertext : Bytes) : Seal where
  key := sampleKey
  nonce := List.replicate 12 n
  aad := associatedData reference role
  message := message
  ciphertext := ciphertext

def sampleReference : String := sampleDigest 'a'

def restagedReference : String := sampleDigest 'c'

def derivedKey : Bytes :=
  bigEndian 32 [0xfc3243685473922cb6f9f46b0e414e8c21bac824659616750228513845a327f2]

/-- The calls of HMAC-SHA-256 that fingerprint two reservations of one code. -/
def storeMacs : List ((Bytes × Bytes) × Bytes) :=
  ((sampleKey, bytesOf "agent-browser-backup-reservation-key-v1"), derivedKey) ::
  [("staged-reference", [sampleReference],
      0x46b4ab834a9f8e4cd5ca62711e05bc1fc11356c96000a0d3b3353e98d33d6eb7),
    ("staged-reference", [restagedReference],
      0xadf741ddccea97d98a6f77e54b85106464f43354bd8e999934205839dc7fcf71),
    ("account-source", ["account", "slot-0"],
      0xb4a28acb730a58e08928be71a39c760ce7e1f3698ac4c1c1044b293fde5abb3e),
    ("account-source", ["account", "slot-1"],
      0x547ecb655dcc3272923a36eff78058493270095d66727b973344ab2650ae3252),
    ("account-code", ["account", "AB12"],
      0x39a204446d0424dc4a210b90ecc8a72c383f01dafff74d90eefbbc41c9ebc8bb),
    ("consent-binding", [sampleDigest 'b', sampleReference, "account", "slot-0", "AB12"],
      0x0e06e87fcca7f9ad4ff2675e3610a4823a28bb1be2595ae9d57c0db57d00fc14),
    ("consent-binding", [sampleDigest 'd', restagedReference, "account", "slot-1", "AB12"],
      0x8f173d0540e9d83b99f93370eb59b539e7e0183ea2d6b58fc5cb51fcf211b6bb)].map
    fun (domain, parts, mac) =>
      ((derivedKey, fingerprintInput (bytesOf domain) (parts.map bytesOf)), bigEndian 32 [mac])

/-- The packages as they answer in the sample runs of the operation store. -/
def storeCrypto : Crypto :=
  .recorded
    [storeSeal sampleReference .payload 1 (bytesOf "operation one")
        (bigEndian 29 [0x1991ecc5f1cb8561bff4b34f157c264928b8eceb08e1c5fd17cfa5cb42]),
      storeSeal sampleReference .result 2 (bytesOf "key material")
        (bigEndian 28 [0x71d19027368ac1426839e7db40ffcba112c76f04ef977c580cb4d228]),
      storeSeal sampleReference .delivery 3
        (bytesOf "\x7b\"installed\":true,\"privacyReleased\":false\x7d")
        (bigEndian 29 [0x5edcca6d295c3f2e1625277ed1238d798810c29fc6fce2114ca7d5d48f,
          0x8021cbd4c35f18fd9ac933abf53a16efc861840e3cb4d881014c2cff7e]),
      storeSeal restagedReference .payload 4 (bytesOf "operation two")
        (bigEndian 29 [0x3a434dba079d12676682d9b9625169859901985112b75c12e2424879b4])]
    [] storeMacs

def sampleHandle (id : Nat) : Handle := ⟨id, sampleKey⟩

/-- A command of task `t`: its start, the answers it gets, its end. -/
def storeCall (C : Crypto) (t : Tid) (c : OpCmd) (answers : List Choice) :
    List (operationMachine C).Event :=
  .start t c :: answers.map (Machine.Event.step (M := operationMachine C) t) ++ [.finish t]

def sampleStage (C : Crypto) (reference : String) (n : UInt8) (payload : String) :
    List (operationMachine C).Event :=
  storeCall C (0, 0) (.stage (sampleHandle 0) (bytesOf payload))
    (oks 4 ++ [Choice.drawn reference, .nonce (List.replicate 12 n)] ++ oks 6)

/-- Two processes take one operation through all its phases; a second admission is refused. -/
def sampleOperation : List (operationMachine storeCrypto).Event :=
  sampleStage _ sampleReference 1 "operation one" ++
  storeCall _ (0, 0) (.status (sampleHandle 0) sampleReference) (oks 6) ++
  storeCall _ (0, 0) (.admitOperation (sampleHandle 0) sampleReference) (oks 10) ++
  storeCall _ (1, 0) (.admitOperation (sampleHandle 1) sampleReference) (oks 7) ++
  storeCall _ (1, 0) (.storeResult (sampleHandle 1) sampleReference (bytesOf "key material"))
    (oks 4 ++ [Choice.nonce (List.replicate 12 2)] ++ oks 6) ++
  storeCall _ (1, 0) (.status (sampleHandle 1) sampleReference) (oks 8) ++
  storeCall _ (0, 0) (.admitDelivery (sampleHandle 0) sampleReference) (oks 10) ++
  storeCall _ (0, 0) (.completeDelivery (sampleHandle 0) sampleReference)
    (oks 4 ++ [Choice.nonce (List.replicate 12 3)] ++ oks 6)

/-- A whole operation, with a second admission that fails. -/
theorem operation_lifecycle_completed :
    ∃ s, Machine.Reachable (operationMachine storeCrypto) (freshWorld sampleKey 1 2) s ∧
      s.log.map (fun e => (callOf e).2) = [.done, .done, .status .resultReady, .done,
        .failed .alreadyExists, .done, .status .staged, .reference sampleReference] ∧
      (s.log.filter (completes (.entry sampleReference .admitted))).length ≤ 1 := by
  have hrun : ((Machine.Pool.initial (operationMachine storeCrypto)
      (freshWorld sampleKey 1 2)).runs sampleOperation).any (fun s =>
        s.log.map (fun e => (callOf e).2) = [.done, .done, .status .resultReady, .done,
          .failed .alreadyExists, .done, .status .staged, .reference sampleReference]) = true := by
    decide +kernel
  obtain ⟨s, hs, hf⟩ := Machine.Reachable.of_runs hrun
  have hlog := of_decide_eq_true hf
  exact ⟨s, hs, hlog, (operation_lifecycle 1 2 hs).1 _⟩

end Sample

end AgentBrowser
