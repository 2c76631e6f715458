import AgentBrowser.ColdRestartTrace

namespace AgentBrowser.ColdRestart
open Durable Publication
set_option autoImplicit true

/-- What a record and a trace say of each other. -/
structure Sound (c : Cold) (past : List Event) : Prop where
  accepted : Accepted c
  backup : truthy c.profileBackup = true → TakenCold c.profileBackup past

structure Inv (w : World) : Prop where
  trace : TraceOk w.trace
  durable : ∃ r, w.journal = .record r ∧ Sound r.rest.coldRestart w.trace

/-- The run's record is the journal's. -/
def Synced (w : World) : Prop := w.journal = .record w.current

/-- The journal went on without the run: a commit whose answer was lost. -/
def Stale (w : World) : Prop := ∃ r, w.journal = .record r ∧ r.revision ≠ w.current.revision

/-- Where a run can fail. -/
def Failed (w : World) : Prop := Synced w ∨ Stale w

def setting : Setting Op Op.Ret Choice World where
  exec := exec
  Inv := Inv
  Rely := Eq
  Guar := fun _ _ => True
  refl := fun _ => rfl

/-- Facts about the record and the past, between two operations. -/
def At (φ : Cold → List Event → Prop) (w : World) : Prop :=
  Synced w ∧ φ w.current.rest.coldRestart w.trace

/-- From `φ`, the script keeps to the setting; its value satisfies `ψ`, and it fails with the
journal as it was or ahead of the run. -/
def Does (φ : Cold → List Event → Prop) (p : Script α) (ψ : α → Cold → List Event → Prop) : Prop :=
  setting.Triple (At φ) p (Outcome (fun a => At (ψ a)) fun _ => Failed)

section Rules
variable {φ φ' : Cold → List Event → Prop} {ψ : α → Cold → List Event → Prop}
  {χ : β → Cold → List Event → Prop} {p : Script α} {f : α → Script β}

theorem Sound.cons (h : Sound c past) : Sound c (e :: past) :=
  ⟨h.accepted, fun hb => (h.backup hb).cons⟩

theorem Sound.put (h : Sound c past) : Sound (c.put key value) past :=
  ⟨h.accepted.put, h.backup⟩

theorem Inv.sound (h : Inv w) (hs : Synced w) : Sound w.current.rest.coldRestart w.trace := by
  obtain ⟨r, hr, hsound⟩ := h.durable
  cases hs.symm.trans hr
  exact hsound

theorem Does.bind (h : Does φ p ψ) (hf : ∀ a, Does (ψ a) (f a) χ) : Does φ (p >>= f) χ :=
  Setting.Triple.seq h hf fun _ _ _ hx => hx

theorem Does.pre (h : Does φ p ψ) (hp : ∀ c past, φ' c past → φ c past) : Does φ' p ψ :=
  h.conseq (fun _ _ hw => ⟨hw.1, hp _ _ hw.2⟩) fun _ _ _ hq => hq

theorem Does.post {ψ' : α → Cold → List Event → Prop} (h : Does φ p ψ)
    (hq : ∀ a c past, ψ a c past → ψ' a c past) : Does φ p ψ' :=
  Setting.Triple.weaken h (fun _ _ hw => hw) (fun _ _ _ hw => ⟨hw.1, hq _ _ _ hw.2⟩)
    fun _ _ _ hx => hx

theorem Does.pure (h : ∀ c past, φ c past → ψ a c past) : Does φ (.pure a) ψ :=
  Setting.Triple.pure (Stable.eq _) fun _ _ hw => ⟨hw.1, h _ _ hw.2⟩

theorem Does.fail : Does φ (.fail e : Script α) ψ :=
  Setting.Triple.fail (Stable.eq _) fun _ _ hw => .inl hw.1

theorem Does.ensure : Does φ (.ensure b e) fun _ c past => b = true ∧ φ c past := by
  cases b with
  | true => exact .pure fun _ _ hw => ⟨rfl, hw⟩
  | false => exact .fail

/-- A fact that holds of no record or past in particular. -/
theorem Does.given {q : Prop} (h : q → Does φ p ψ) : Does (fun c past => q ∧ φ c past) p ψ :=
  fun w hi hw => h hw.2.1 w hi ⟨hw.1, hw.2.2⟩

theorem Does.onlyIf {p : Script Unit} (h : b = true → Does φ p fun _ => φ) :
    Does φ (.onlyIf b p) fun _ => φ := by
  cases b with
  | true => exact h rfl
  | false => exact .pure fun _ _ hw => hw

theorem current_does : Does φ current fun r c past => r.rest.coldRestart = c ∧ φ c past := by
  apply Setting.Triple.request (Stable.eq _)
  · intro w hi hw ch r v he
    cases he
    exact ⟨hi, trivial, hw.1, rfl, hw.2⟩
  · exact fun _ => Stable.eq _

theorem enterRollback_does : Does φ (ask .enterRollback) fun _ _ _ => True := by
  apply Setting.Triple.request (Stable.eq _)
  · intro w hi hw ch r v he
    cases he
    obtain ⟨record, hr, hs⟩ := hi.durable
    exact ⟨⟨hi.trace, record, hr, hs.cons⟩, trivial, hw.1, trivial⟩
  · exact fun _ => Stable.eq _

/-- The rule for a call: it may be made here, whatever the adapter answers. -/
theorem call_does {ψ : Option JsonValue → Cold → List Event → Prop}
    (hok : ∀ r past answer, Sound r.rest.coldRestart past → φ r.rest.coldRestart past →
      CallOk past ⟨request, .record r, answer⟩)
    (hψ : ∀ c past d result, φ c past → d.request = request →
      proven d.request d.answer = .ok result → ψ result c (.call d :: past)) :
    Does φ (call request) ψ := by
  apply Setting.Triple.call (Stable.eq _)
  · intro w hi hw ch r v he
    cases he
    obtain ⟨hsync, hφ⟩ := hw
    have hs := hi.sound hsync
    have hok' := hok w.current w.trace ch.answer hs hφ
    rw [← show w.journal = .record w.current from hsync] at hok'
    refine ⟨⟨⟨hok', hi.trace⟩, w.current, hsync, hs.cons⟩, trivial, ?_⟩
    cases hp : proven request ch.answer with
    | error e => exact .inl hsync
    | ok result => exact ⟨hsync, hψ _ _ ⟨request, w.journal, ch.answer⟩ _ hφ rfl hp⟩
  · exact fun _ => Stable.eq _

theorem committed_eq_ok {file : JournalFile Payload}
    (h : Record.committed r file phase patch time = .ok next) :
    next = r.advance phase patch time := by
  obtain ⟨_, _, h⟩ := Except.bind_eq_ok.mp h
  obtain ⟨_, _, h⟩ := Except.bind_eq_ok.mp h
  split at h
  · obtain ⟨_, _, h⟩ := Except.bind_eq_ok.mp h
    cases h
    rfl
  · cases h

/-- What a commit can come to: nothing, the next record with or without the run knowing. -/
theorem commit_cases {x : Except String ColdRecord × World}
    (h : w.commit phase coldPatch patch ch = x) :
    (∃ message, x = (.error message, w)) ∨
      ∃ time, ∃ next : ColdRecord, next = w.current.advance phase (patchOf coldPatch patch) time ∧
        (x = (.ok next, { w with journal := .record next, current := next }) ∨
          ∃ message, x = (.error message, { w with journal := .record next })) := by
  subst h
  simp only [World.commit]
  split
  · exact .inl ⟨_, rfl⟩
  · rename_i next hnext
    have hnew := committed_eq_ok hnext
    split
    · exact .inr ⟨_, next, hnew, .inl rfl⟩
    · exact .inl ⟨_, rfl⟩
    · exact .inr ⟨_, next, hnew, .inr ⟨_, rfl⟩⟩

/-- A run that lost an answer commits nothing more. -/
theorem commit_stale (h : Stale w) :
    ∃ message, w.commit phase coldPatch patch ch = (.error message, w) := by
  obtain ⟨r, hr, hne⟩ := h
  simp only [World.commit]
  cases hc : w.current.committed w.journal phase (patchOf coldPatch patch) ch.time with
  | error e => exact ⟨e, rfl⟩
  | ok next =>
    obtain ⟨_, _, hc⟩ := Except.bind_eq_ok.mp hc
    obtain ⟨found, hread, hc⟩ := Except.bind_eq_ok.mp hc
    have hfound : found = some r := (read_record hread).mp hr
    have hmatch : revisionMatches found w.current = false := by
      simp [revisionMatches, hfound, hne]
    simp only [hmatch, Bool.false_eq_true, ↓reduceIte, reduceCtorEq] at hc

theorem commit_does {ψ : Cold → List Event → Prop}
    (hs : ∀ c past, Sound c past → φ c past → Sound (coldPatch c) past)
    (hψ : ∀ c past, φ c past → ψ (coldPatch c) past) :
    Does φ (commit phase coldPatch patch) fun _ => ψ := by
  apply Setting.Triple.call (Stable.eq _)
  · intro w hi hw ch r v he
    obtain ⟨hsync, hφ⟩ := hw
    have hsound := hs _ _ (hi.sound hsync) hφ
    rcases commit_cases (Option.some.inj he) with ⟨message, hx⟩ | ⟨time, next, hnew, hx | ⟨message, hx⟩⟩
    · cases hx
      exact ⟨hi, trivial, .inl hsync⟩
    · cases hx
      subst hnew
      exact ⟨⟨hi.trace, _, rfl, hsound⟩, trivial, rfl, hψ _ _ hφ⟩
    · cases hx
      subst hnew
      exact ⟨⟨hi.trace, _, rfl, hsound⟩, trivial, .inr ⟨_, rfl, Nat.succ_ne_self _⟩⟩
  · exact fun _ => Stable.eq _

/-- A commit after a failure works on the durable record or not at all. -/
theorem commit_failed (hs : ∀ c past, Sound c past → Sound (coldPatch c) past) :
    setting.Triple Failed (commit phase coldPatch patch)
      (Outcome (fun _ => At fun _ _ => True) fun _ => Failed) := by
  intro w hi hw
  rcases hw with hsync | hstale
  · have hdoes : Does (fun _ _ => True) (commit phase coldPatch patch) fun _ _ _ => True :=
      commit_does (fun c past h _ => hs c past h) fun _ _ _ => trivial
    exact hdoes w hi ⟨hsync, trivial⟩
  · rintro _ rfl _ ch r v he
    obtain ⟨message, hc⟩ : ∃ message, w.commit phase coldPatch patch ch = (.error message, w) :=
      commit_stale hstale
    cases hc.symm.trans (Option.some.inj he)
    refine ⟨hi, trivial, ?_⟩
    rintro _ rfl _
    exact .inr hstale

end Rules

/-- What a run knows between two operations: flags that are set, and which of the facts about
the past and the backup hold. -/
structure Facts where
  flags : List Flag
  clean : Bool
  idle : Bool
  closed : Bool
  backup : Bool

structure Facts.Hold (F : Facts) (c : Cold) (past : List Event) : Prop where
  flags : ∀ f ∈ F.flags, c.has f = true
  clean : F.clean = true → Clean past
  idle : F.idle = true → idleSince past = true
  closed : F.closed = true → SourceClosed past
  backup : F.backup = true → truthy c.profileBackup = true

/-- A run that knows nothing. -/
def Facts.none : Facts := ⟨[], false, false, false, false⟩

section Calls
variable {F : Facts}

theorem Facts.Hold.none : Facts.none.Hold c past := ⟨nofun, nofun, nofun, nofun, nofun⟩

/-- A call that closes and launches nothing leaves the facts. -/
theorem Facts.Hold.call (h : F.Hold c past) (hm : d.request.moves = false) :
    F.Hold c (.call d :: past) := by
  refine ⟨h.flags, ?_, fun hi => idleSince_cons (h.idle hi) hm, fun hc => (h.closed hc).cons,
    h.backup⟩
  intro hc
  apply (h.clean hc).cons
  intro hd
  rw [hd] at hm
  cases hm

/-- Calls that need neither admission nor idleness. -/
theorem plain_does (ha : request.admission = none) (hr : request.replaces = false)
    (hm : request.moves = false) : Does F.Hold (call request) fun _ => F.Hold := by
  apply call_does
  · exact fun r past answer _ _ => .plain ha hr
  · rintro c past d result h rfl _
    exact h.call hm

theorem requireIdle_does : Does F.Hold (call .requireIdle) fun _ =>
    Facts.Hold { F with idle := true } := by
  apply call_does
  · exact fun r past answer _ _ => .plain rfl rfl
  · intro c past d result h hd hp
    have hm : d.request.moves = false := by rw [hd]; rfl
    have h' := h.call hm
    refine ⟨h'.flags, h'.clean, fun _ => idleSince_proved hd ?_, h'.closed, h'.backup⟩
    rw [Call.succeeded, hp]
    rfl

/-- A call that closes or launches, admitted by a flag that is set. -/
theorem moves_does (hr : request.replaces = false)
    (ha : ∀ f, request.admission = some f → f ∈ F.flags)
    (hc : request = .launch .candidate → F.clean = true) :
    Does F.Hold (call request) fun _ =>
      Facts.Hold { F with clean := false, idle := false } := by
  apply call_does
  · intro r past answer _ h
    refine ⟨?_, fun hl => h.clean (hc hl), ?_, ?_⟩
    · exact fun f hf => ⟨r, rfl, h.flags f (ha f hf)⟩
    · intro hi
      exact absurd (hr.symm.trans hi) nofun
    · intro hp
      have hp : request = .restoreProfile := hp
      subst hp
      cases hr
  · rintro c past d result h rfl _
    exact ⟨h.flags, nofun, nofun, fun hcl => (h.closed hcl).cons, h.backup⟩

theorem closeSource_does (ha : .closeAdmitted ∈ F.flags) :
    Does F.Hold (call .closeSource) fun _ =>
      Facts.Hold { F with idle := false, closed := true } := by
  apply call_does
  · intro r past answer _ h
    refine ⟨?_, nofun, nofun, nofun⟩
    rintro f ⟨⟩
    exact ⟨r, rfl, h.flags _ ha⟩
  · intro c past d result h hd hp
    refine ⟨h.flags, ?_, nofun, fun _ => ⟨d, List.mem_cons_self, hd, ?_⟩, h.backup⟩
    · intro hc
      apply (h.clean hc).cons
      rw [hd]
      exact nofun
    · rw [Call.succeeded, hp]
      rfl

theorem installPair_does (hi : F.idle = true)
    (ha : ∀ f, Request.admission (.installPair selection) = some f → f ∈ F.flags) :
    Does F.Hold (call (.installPair selection)) fun _ => F.Hold := by
  apply call_does
  · intro r past answer _ h
    exact ⟨fun f hf => ⟨r, rfl, h.flags f (ha f hf)⟩, nofun, fun _ => h.idle hi, nofun⟩
  · rintro c past d result h hd _
    exact h.call (by rw [hd]; rfl)

theorem restoreProfile_does (hi : F.idle = true) (hb : F.backup = true) :
    Does F.Hold (call .restoreProfile) fun _ => F.Hold := by
  apply call_does
  · intro r past answer hs h
    refine ⟨nofun, nofun, fun _ => h.idle hi, fun _ => ⟨r, rfl, h.backup hb, ?_⟩⟩
    exact hs.backup (h.backup hb)
  · rintro c past d result h hd _
    exact h.call (by rw [hd]; rfl)

/-- The backup is taken of a source that is closed and idle. -/
theorem backupProfile_does (hi : F.idle = true) (hc : F.closed = true) :
    Does F.Hold (call .backupProfile) fun backup c past => TakenCold backup past ∧ F.Hold c past := by
  apply call_does
  · exact fun r past answer _ _ => .plain rfl rfl
  · rintro c past d result h hd hp
    refine ⟨?_, h.call (by rw [hd]; rfl)⟩
    refine ⟨[], d, past, rfl, hd, ?_, h.closed hc, h.idle hi⟩
    rw [hd] at hp
    obtain ⟨x, hx, hr⟩ := Except.bind_eq_ok.mp hp
    cases hr
    exact hx

theorem note_does (hs : ∀ c past, Sound c past → Sound (coldPatch c) past)
    (hf : ∀ c : Cold, (coldPatch c).flags = c.flags)
    (hb : ∀ c : Cold, (coldPatch c).profileBackup = c.profileBackup) :
    Does F.Hold (commit phase coldPatch patch) fun _ => F.Hold := by
  apply commit_does fun c past h _ => hs c past h
  intro c past h
  refine ⟨?_, h.clean, h.idle, h.closed, ?_⟩
  · intro f hm
    have := h.flags f hm
    rwa [Cold.has, hf]
  · rw [hb]
    exact h.backup

theorem put_does : Does F.Hold (commit phase (·.put key value) patch) fun _ => F.Hold :=
  note_does (fun _ _ h => h.put) (fun _ => rfl) fun _ => rfl

theorem unchanged_does : Does F.Hold (commit phase id patch) fun _ => F.Hold :=
  note_does (fun _ _ h => h) (fun _ => rfl) fun _ => rfl

theorem concluded_does :
    Does F.Hold (commit phase (concluded result final) patch) fun _ => F.Hold :=
  note_does (fun _ _ h => h.put.put.put) (fun _ => rfl) fun _ => rfl

/-- A commit that sets a flag whose presuppositions are known. -/
theorem grant_does (hr : ∀ c past, F.Hold c past → c.ready f) :
    Does F.Hold (commit phase (·.grant f) patch) fun _ =>
      Facts.Hold { F with flags := f :: F.flags } := by
  apply commit_does
  · exact fun c past hs h => ⟨hs.accepted.grant (hr c past h), hs.backup⟩
  · intro c past h
    refine ⟨?_, h.clean, h.idle, h.closed, h.backup⟩
    exact List.forall_mem_cons.mpr ⟨has_grant_self, fun g hg => has_grant (h.flags g hg)⟩

theorem backUp_does (hc : .sourceClosed ∈ F.flags) (hb : truthy backup = true) :
    Does (fun c past => TakenCold backup past ∧ F.Hold c past)
      (commit phase (·.backUp backup) patch) fun _ => Facts.Hold { F with backup := true } := by
  apply commit_does
  · exact fun c past hs h => ⟨hs.accepted.backUp (h.2.flags _ hc) hb, fun _ => h.1⟩
  · exact fun c past h => ⟨h.2.flags, h.2.clean, h.2.idle, h.2.closed, fun _ => hb⟩

end Calls

end AgentBrowser.ColdRestart
