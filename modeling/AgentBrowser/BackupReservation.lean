import AgentBrowser.OperationLifecycle

namespace AgentBrowser
open Durable
set_option autoImplicit true

/-- A code without spaces and hyphens, in upper case: what two writings of a code share. -/
def codeLetters (code : Bytes) : Bytes :=
  (code.filter fun b => b ≠ 32 ∧ b ≠ 45).map toAsciiUppercase

/-- One to `max` printable ASCII bytes that neither begin nor end with a space. -/
structure ScopeOk (scope : String) (max : Nat) : Prop where
  present : bytesOf scope ≠ []
  length : (bytesOf scope).length ≤ max
  printable : ∀ b ∈ bytesOf scope, 32 ≤ b ∧ b ≤ 126
  first : (bytesOf scope).head? ≠ some 32
  last : (bytesOf scope).getLast? ≠ some 32

/-- One to 256 ASCII letters, digits, spaces and hyphens, of which at least one is a letter or a
digit. -/
structure CodeOk (code : Bytes) : Prop where
  length : code.length ≤ 256
  bytes : ∀ b ∈ code, isAsciiAlphanumeric b = true ∨ b = 32 ∨ b = 45
  letter : ∃ b ∈ code, isAsciiAlphanumeric b = true

/-- The files that a reservation creates. -/
def BackupRequest.markers (C : Crypto) (key : Bytes) (r : BackupRequest) : List FileName :=
  (r.reservations C key (codeLetters r.code)).map (·.1)

def FileName.isMarker : FileName → Bool
  | .entry _ .backupReference | .entry _ .backupSource | .entry _ .backupCode => true
  | _ => false

section Normalize

theorem alphanumeric_ne (h : isAsciiAlphanumeric b = true) : b ≠ 32 ∧ b ≠ 45 := by
  constructor
  · rintro rfl
    cases h
  · rintro rfl
    cases h

theorem normalizeCode_eq (h : normalizeCode code = some n) :
    n = codeLetters code ∧ (∀ b ∈ code, isAsciiAlphanumeric b = true ∨ b = 32 ∨ b = 45) ∧
      (n ≠ [] → ∃ b ∈ code, isAsciiAlphanumeric b = true) := by
  induction code generalizing n with
  | nil =>
    cases h
    exact ⟨rfl, nofun, fun hn => absurd rfl hn⟩
  | cons b rest ih =>
    simp only [normalizeCode] at h
    split at h
    · rename_i hb
      obtain ⟨m, hm, rfl⟩ := Option.map_eq_some_iff.mp h
      obtain ⟨hl, hall, _⟩ := ih hm
      have hne := alphanumeric_ne hb
      refine ⟨?_, List.forall_mem_cons.mpr ⟨.inl hb, hall⟩, fun _ => ⟨b, List.mem_cons_self, hb⟩⟩
      rw [hl]
      simp only [codeLetters, List.filter_cons, hne, ne_eq, not_false_eq_true, and_self,
        decide_true, ↓reduceIte, List.map_cons]
    · split at h
      · rename_i hb
        simp only [Bool.or_eq_true, decide_eq_true_eq] at hb
        obtain ⟨hl, hall, hex⟩ := ih h
        refine ⟨?_, List.forall_mem_cons.mpr ⟨.inr hb, hall⟩, ?_⟩
        · rw [hl]
          have hskip : ¬ (b ≠ 32 ∧ b ≠ 45) := by
            rintro ⟨h₁, h₂⟩
            exact hb.elim h₁ h₂
          simp only [codeLetters, List.filter_cons, hskip, decide_false, Bool.false_eq_true,
            ↓reduceIte]
        · intro hn
          obtain ⟨c, hc, hx⟩ := hex hn
          exact ⟨c, List.mem_cons_of_mem _ hc, hx⟩
      · cases h

theorem scopeOk_of_valid (h : scopeValid scope n = true) : ScopeOk scope n := by
  simp only [scopeValid, Bool.and_eq_true, Bool.not_eq_true', List.isEmpty_eq_false_iff,
    decide_eq_true_eq, bne_iff_ne, ne_eq, List.all_eq_true, isPrintable] at h
  obtain ⟨⟨⟨⟨hne, hl⟩, hp⟩, hf⟩, hlast⟩ := h
  exact ⟨hne, hl, hp, hf, hlast⟩

/-- What the checks before the lock let through. -/
theorem BackupRequest.normalized_eq {r : BackupRequest} (h : r.normalized = some n) :
    n = codeLetters r.code ∧ ScopeOk r.accountScope 512 ∧ ScopeOk r.sourceScope 2048 ∧
      CodeOk r.code := by
  simp only [BackupRequest.normalized] at h
  split at h
  · rename_i hc
    simp only [Bool.and_eq_true, decide_eq_true_eq] at hc
    obtain ⟨hn, hne⟩ := Option.filter_eq_some_iff.mp h
    obtain ⟨hl, hall, hex⟩ := normalizeCode_eq hn
    have hletter := hex (by simpa using hne)
    exact ⟨hl, scopeOk_of_valid hc.1.1.1.2, scopeOk_of_valid hc.1.1.2, hc.2, hall, hletter⟩
  · cases h

end Normalize

section Reservation
variable {C : Crypto} {key : Bytes} {s : (operationMachine C).Pool}

theorem creates_reserve (h : name ∈ OpCmd.creates C (.reserveBackupCode hd r)) :
    name ∈ r.markers C hd.key ∧ ScopeOk r.accountScope 512 ∧ ScopeOk r.sourceScope 2048 ∧
      CodeOk r.code := by
  simp only [OpCmd.creates] at h
  cases hn : r.normalized with
  | none =>
    rw [hn] at h
    cases h
  | some n =>
    obtain ⟨rfl, hok⟩ := BackupRequest.normalized_eq hn
    rw [hn] at h
    exact ⟨h, hok⟩

/-- Markers are created by reservations alone. -/
theorem marker_creator {c : OpCmd} (hm : name.isMarker = true) (h : c.mayCreate C name) :
    ∃ hd r, c = .reserveBackupCode hd r ∧ name ∈ c.creates C := by
  rcases h with h | ⟨_, _, _, _, rfl⟩
  · cases c with
    | reserveBackupCode hd r => exact ⟨hd, r, rfl, h⟩
    | admitOperation | storeResult | admitDelivery | completeDelivery | bindReconciliation
    | reserveJourney =>
      rw [List.mem_singleton.mp h] at hm
      cases hm
    | stage | load | loadResult | status | reconciliationReference => cases h
  · cases hm

/-- A reservation that succeeded has created its markers, with the store's key. -/
theorem reserved_markers (hp : OpPost C key t c since res w)
    (hc : c = .reserveBackupCode hd r) (hres : res = .done) :
    hd.key = key ∧ ∀ name ∈ r.markers C key, name ∈ c.creates C ∧
      Made t since.journal w.journal name := by
  obtain ⟨hk, hmade⟩ := hp.done hres
  subst hc
  have hcreates : OpCmd.creates C (.reserveBackupCode hd r) = r.markers C hd.key := by
    cases hn : r.normalized with
    | none =>
      have hfail := hp.invalid hd r rfl hn
      rw [hres] at hfail
      cases hfail
    | some n =>
      simp only [OpCmd.creates, hn, (BackupRequest.normalized_eq hn).1]
      rfl
  have hkey : hd.key = key := hk
  refine ⟨hkey, fun name hm => ?_⟩
  rw [← hkey, ← hcreates] at hm
  exact ⟨hm, hmade name hm⟩

/-- In every pool a fresh store can come to, over any interleaving and any process stops: no two
reservations that succeed share an account and code, an account and source slot, or a reference;
a reservation fails that starts when one of its markers is there, whoever left it, and markers
stay; and a marker appears only in a step of a reservation of a valid account, slot and code. -/
theorem backup_code_reserved_once (device inode : Nat)
    (h : Machine.Reachable (operationMachine C) (freshWorld key device inode) s) :
    (s.log.Pairwise fun new old => ∀ hd hd' r r', new.cmd = .reserveBackupCode hd r →
      new.res = .done → old.cmd = .reserveBackupCode hd' r' → old.res = .done →
      ¬ (r.accountScope = r'.accountScope ∧ codeLetters r.code = codeLetters r'.code) ∧
      ¬ (r.accountScope = r'.accountScope ∧ r.sourceScope = r'.sourceScope) ∧
      r.reference ≠ r'.reference) ∧
    (∀ e ∈ s.log, ∀ hd r, e.cmd = .reserveBackupCode hd r →
      (∃ name ∈ r.markers C key, name ∈ e.before.dir) → e.res ≠ .done) ∧
    (∀ e ∈ s.log, ∀ hd r, e.cmd = .reserveBackupCode hd r →
      ¬ (ScopeOk r.accountScope 512 ∧ ScopeOk r.sourceScope 2048 ∧ CodeOk r.code) →
      e.res = .failed .invalid) ∧
    ∀ e s', s.next e = some s' →
      (∀ name ∈ s.world.dir, name ∈ s'.world.dir) ∧
      ∀ name, name.isMarker = true → name ∉ s.world.dir → name ∈ s'.world.dir →
        ∃ t ch hd r since p, e = .step t ch ∧ s.agent t = .busy (.reserveBackupCode hd r) since p ∧
          name ∈ r.markers C hd.key ∧ ScopeOk r.accountScope 512 ∧ ScopeOk r.sourceScope 2048 ∧
          CodeOk r.code := by
  have hk := operation_holds h
  refine ⟨?_, ?_, ?_, ?_⟩
  · apply (creations_differ h).imp_of_mem
    intro new old hnew hold hne hd hd' r r' hc hdone hc' hdone'
    obtain ⟨_, hm⟩ := reserved_markers (hk.posts new hnew).2.2 hc hdone
    obtain ⟨_, hm'⟩ := reserved_markers (hk.posts old hold).2.2 hc' hdone'
    have hapart (name : FileName) (h₁ : name ∈ r.markers C key) (h₂ : name ∈ r'.markers C key) :
        False := hne name hdone hdone' (hm name h₁).1 (hm' name h₂).1
    refine ⟨?_, ?_, ?_⟩
    · rintro ⟨ha, hl⟩
      apply hapart (.entry (codeKey C key r.accountScope (codeLetters r.code)) .backupCode)
      · simp [BackupRequest.markers, BackupRequest.reservations]
      · simp [BackupRequest.markers, BackupRequest.reservations, ha, hl]
    · rintro ⟨ha, hl⟩
      apply hapart (.entry (sourceKey C key r.accountScope r.sourceScope) .backupSource)
      · simp [BackupRequest.markers, BackupRequest.reservations]
      · simp [BackupRequest.markers, BackupRequest.reservations, ha, hl]
    · intro hr
      apply hapart (.entry (referenceKey C key r.reference) .backupReference)
      · simp [BackupRequest.markers, BackupRequest.reservations]
      · simp [BackupRequest.markers, BackupRequest.reservations, hr]
  · rintro e he hd r hc ⟨name, hn, hdir⟩ hdone
    obtain ⟨hbefore, _, hpost⟩ := hk.posts e he
    obtain ⟨hcreated, hmade⟩ := (reserved_markers hpost hc hdone).2 name hn
    rcases (hbefore.files name).mp hdir with rfl | hold
    · simp [BackupRequest.markers, BackupRequest.reservations] at hn
    · exact hmade.1 hold
  · intro e he hd r hc hinvalid
    apply (hk.posts e he).2.2.invalid hd r hc
    cases hn : r.normalized with
    | none => rfl
    | some n => exact absurd (BackupRequest.normalized_eq hn).2 hinvalid
  · intro e s' hs
    have hk' := hk.next hs
    constructor
    · intro name hn
      apply (hk'.inv.files name).mpr
      exact ((hk.inv.files name).mp hn).imp_right (createdIn_mono (journal_grows hk hs))
    · intro name hmark hn hn'
      have hnew : name ∈ createdIn s'.world.journal := by
        rcases (hk'.inv.files name).mp hn' with rfl | hc
        · cases hmark
        · exact hc
      obtain ⟨t, ch, c, since, p, he, hb, hm, _⟩ := file_appears hk hs hnew
        fun hc => hn ((hk.inv.files name).mpr (.inr hc))
      obtain ⟨hd, r, rfl, hcreates⟩ := marker_creator hmark hm
      exact ⟨t, ch, hd, r, since, p, he, hb, creates_reserve hcreates⟩

/-- A first reservation, and one of the same code under a new reference, slot and consent. -/
def sampleReservations : List (operationMachine storeCrypto).Event :=
  sampleStage _ sampleReference 1 "operation one" ++
  sampleStage _ restagedReference 4 "operation two" ++
  storeCall _ (0, 0) (.reserveBackupCode (sampleHandle 0)
    ⟨sampleReference, sampleDigest 'b', "account", "slot-0", bytesOf "ab-12"⟩) (oks 24) ++
  storeCall _ (1, 0) (.reserveBackupCode (sampleHandle 1)
    ⟨restagedReference, sampleDigest 'd', "account", "slot-1", bytesOf "AB 12"⟩) (oks 8)

theorem backup_code_reserved_once_restaged :
    ∃ s, Machine.Reachable (operationMachine storeCrypto) (freshWorld sampleKey 1 2) s ∧
      s.log.map (fun e => (callOf e).2) = [.failed .backupCodeReserved, .done,
        .reference restagedReference, .reference sampleReference] ∧
      ∀ e s', s.next e = some s' → ∀ name ∈ s.world.dir, name ∈ s'.world.dir := by
  have hrun : ((Machine.Pool.initial (operationMachine storeCrypto)
      (freshWorld sampleKey 1 2)).runs sampleReservations).any (fun s =>
        s.log.map (fun e => (callOf e).2) = [.failed .backupCodeReserved, .done,
          .reference restagedReference, .reference sampleReference]) = true := by
    decide +kernel
  obtain ⟨s, hs, hf⟩ := Machine.Reachable.of_runs hrun
  have hlog := of_decide_eq_true hf
  have hstay := (backup_code_reserved_once 1 2 hs).2.2.2
  exact ⟨s, hs, hlog, fun e s' he => (hstay e s' he).1⟩

end Reservation

end AgentBrowser
