import AgentBrowser.ColdRestart

namespace AgentBrowser.ColdRestart
open Durable Publication
set_option autoImplicit true

/-- Calls that close or launch a browser. -/
def Request.moves : Request → Bool
  | .closeSource | .closeCandidate | .launch _ => true
  | _ => false

/-- Calls that replace the profile or the installed pair. -/
def Request.replaces : Request → Bool
  | .restoreProfile | .installPair _ => true
  | _ => false

/-- The flag that admits a call. -/
def Request.admission : Request → Option Flag
  | .closeSource => some .closeAdmitted
  | .installPair .candidate => some .candidateInstallAdmitted
  | .launch .candidate => some .candidateLaunchAdmitted
  | .launch .source => some .sourceLaunchAdmitted
  | _ => none

/-- The call returned, with proof where it needs proof. -/
def Call.succeeded (c : Call) : Bool := (proven c.request c.answer).isOk

/-- Idleness was proved after the last close and the last launch. -/
def idleSince : List Event → Bool
  | [] => false
  | .rollback :: past => idleSince past
  | .call c :: past =>
    if c.request.moves then false
    else (c.request = .requireIdle && c.succeeded) || idleSince past

/-- A call that closed the source has returned. -/
def SourceClosed (past : List Event) : Prop :=
  ∃ c, Event.call c ∈ past ∧ c.request = .closeSource ∧ c.succeeded = true

/-- The profile backup was taken after the source was closed and found idle. -/
def TakenCold (backup : Option JsonValue) (past : List Event) : Prop :=
  ∃ later c earlier, past = later ++ .call c :: earlier ∧ c.request = .backupProfile ∧
    c.answer = .ok backup ∧ SourceClosed earlier ∧ idleSince earlier = true

/-- Neither a rollback began nor was the candidate launched. -/
def Clean (past : List Event) : Prop :=
  Event.rollback ∉ past ∧ ∀ c, Event.call c ∈ past → c.request ≠ .launch .candidate

/-- A call that respects what came before it and what the journal holds. -/
structure CallOk (past : List Event) (c : Call) : Prop where
  admitted : ∀ f, c.request.admission = some f →
    ∃ r, c.durable = .record r ∧ r.rest.coldRestart.has f = true
  once : c.request = .launch .candidate → Clean past
  idle : c.request.replaces = true → idleSince past = true
  backup : c.request = .restoreProfile → ∃ r, c.durable = .record r ∧
    truthy r.rest.coldRestart.profileBackup = true ∧
    TakenCold r.rest.coldRestart.profileBackup past

def TraceOk : List Event → Prop
  | [] => True
  | .call c :: past => CallOk past c ∧ TraceOk past
  | .rollback :: past => TraceOk past

/-- The flags that each flag presupposes, and the backup between them. -/
structure Bindings (c : Cold) : Prop where
  close : c.has .closeAdmitted = true → c.has .fenceAdmitted = true
  closed : c.has .sourceClosed = true → c.has .closeAdmitted = true
  backup : truthy c.profileBackup = true → c.has .sourceClosed = true
  install : c.has .candidateInstallAdmitted = true →
    c.has .sourceClosed = true ∧ truthy c.profileBackup = true
  launch : c.has .candidateLaunchAdmitted = true → c.has .candidateInstallAdmitted = true
  source : c.has .sourceLaunchAdmitted = true → c.has .closeAdmitted = true

/-- What `validate` asks of the record, apart from its phase. -/
structure Accepted (c : Cold) : Prop where
  schema : c.schemaVersion = some coldRestartSchema
  approved : c.approved = true
  typed : ∀ f, flagTyped c f = true
  bindings : Bindings c

section Validation
variable {c : Cold}

theorem impossible_eq_false : c.impossible = false ↔ Bindings c := by
  simp only [Cold.impossible, Bool.or_eq_false_iff, Bool.and_eq_false_iff, Bool.not_eq_false',
    Bool.or_eq_false_iff]
  constructor
  · rintro ⟨⟨⟨⟨⟨h₁, h₂⟩, h₃⟩, h₄⟩, h₅⟩, h₆⟩
    refine ⟨?_, ?_, ?_, ?_, ?_, ?_⟩
    · intro h
      exact h₁.resolve_left (by simp [h])
    · intro h
      exact h₂.resolve_left (by simp [h])
    · intro h
      exact h₃.resolve_left (by simp [h])
    · intro h
      exact h₄.resolve_left (by simp [h])
    · intro h
      exact h₅.resolve_left (by simp [h])
    · intro h
      exact h₆.resolve_left (by simp [h])
  · intro h
    refine ⟨⟨⟨⟨⟨?_, ?_⟩, ?_⟩, ?_⟩, ?_⟩, ?_⟩
    · exact (Bool.eq_false_or_eq_true _).symm.imp id h.close
    · exact (Bool.eq_false_or_eq_true _).symm.imp id h.closed
    · exact (Bool.eq_false_or_eq_true _).symm.imp id h.backup
    · exact (Bool.eq_false_or_eq_true _).symm.imp id h.install
    · exact (Bool.eq_false_or_eq_true _).symm.imp id h.launch
    · exact (Bool.eq_false_or_eq_true _).symm.imp id h.source

theorem mem_flags (f : Flag) : f ∈ Flag.all := by
  cases f <;> decide

/-- `validate` lets a record through exactly if it is approved, not terminal, and its flags are
booleans that presuppose each other. -/
theorem validate_eq_ok {r : ColdRecord} {adapters : Adapters} :
    validate r adapters = .ok () ↔ Accepted r.rest.coldRestart ∧ r.terminal = false ∧
      ∀ name ∈ requiredAdapters, adapters name = true := by
  simp only [validate]
  split
  · rename_i h
    constructor
    · intro he
      cases he
    · rintro ⟨ha, _⟩
      rcases h with h | h
      · exact absurd ha.schema h
      · rw [ha.approved] at h
        cases h
  · rename_i h
    obtain ⟨hs, hp⟩ := not_or.mp h
    split
    · rename_i ht
      constructor
      · intro he
        cases he
      · rintro ⟨_, hf, _⟩
        rw [hf] at ht
        cases ht
    · rename_i ht
      split
      · rename_i f hf
        have hbad := List.find?_some hf
        constructor
        · intro he
          cases he
        · rintro ⟨ha, _⟩
          rw [ha.typed f] at hbad
          cases hbad
      · rename_i hf
        have htyped := List.find?_eq_none.mp hf
        split
        · rename_i himp
          constructor
          · intro he
            cases he
          · rintro ⟨ha, _⟩
            rw [impossible_eq_false.mpr ha.bindings] at himp
            cases himp
        · rename_i himp
          have hb := impossible_eq_false.mp (Bool.not_eq_true _ ▸ himp)
          have ha : Accepted r.rest.coldRestart :=
            ⟨not_not.mp hs, by simpa using hp, fun f => by simpa using htyped f (mem_flags f), hb⟩
          split
          · rename_i name hn
            constructor
            · intro he
              cases he
            · rintro ⟨_, _, hall⟩
              have hbad := List.find?_some hn
              rw [hall name (List.mem_of_find?_eq_some hn)] at hbad
              cases hbad
          · rename_i hn
            have hall := List.find?_eq_none.mp hn
            refine ⟨fun _ => ⟨ha, by simpa using ht, fun name hm => ?_⟩, fun _ => rfl⟩
            simpa using hall name hm

end Validation

section Flags
variable {c : Cold}

theorem has_grant_self : (c.grant f).has f = true := by
  simp only [Cold.has, Cold.grant, Function.update_self, truthy]

theorem has_grant_of_ne (h : g ≠ f) : (c.grant f).has g = c.has g := by
  simp only [Cold.has, Cold.grant, Function.update_of_ne h]

theorem has_grant (h : c.has g = true) : (c.grant f).has g = true := by
  by_cases hg : g = f
  · rw [hg]
    exact has_grant_self
  · rwa [has_grant_of_ne hg]

/-- What a flag presupposes. -/
def Cold.ready (c : Cold) : Flag → Prop
  | .fenceAdmitted => True
  | .closeAdmitted => c.has .fenceAdmitted = true
  | .sourceClosed => c.has .closeAdmitted = true
  | .candidateInstallAdmitted => c.has .sourceClosed = true ∧ truthy c.profileBackup = true
  | .candidateLaunchAdmitted => c.has .candidateInstallAdmitted = true
  | .sourceLaunchAdmitted => c.has .closeAdmitted = true

/-- A flag whose presuppositions hold can be set. -/
theorem Bindings.grant (h : Bindings c) (hf : c.ready f) : Bindings (c.grant f) := by
  have back (g : Flag) (hg : (c.grant f).has g = true) : g = f ∨ c.has g = true := by
    by_cases he : g = f
    · exact .inl he
    · exact .inr (has_grant_of_ne he ▸ hg)
  refine ⟨?_, ?_, fun hb => has_grant (h.backup hb), ?_, ?_, ?_⟩
  · intro hg
    rcases back _ hg with rfl | hg
    · exact has_grant hf
    · exact has_grant (h.close hg)
  · intro hg
    rcases back _ hg with rfl | hg
    · exact has_grant hf
    · exact has_grant (h.closed hg)
  · intro hg
    rcases back _ hg with rfl | hg
    · exact ⟨has_grant hf.1, hf.2⟩
    · exact ⟨has_grant (h.install hg).1, (h.install hg).2⟩
  · intro hg
    rcases back _ hg with rfl | hg
    · exact has_grant hf
    · exact has_grant (h.launch hg)
  · intro hg
    rcases back _ hg with rfl | hg
    · exact has_grant hf
    · exact has_grant (h.source hg)

theorem Accepted.grant (h : Accepted c) (hf : c.ready f) : Accepted (c.grant f) := by
  refine ⟨h.schema, h.approved, ?_, h.bindings.grant hf⟩
  intro g
  simp only [flagTyped, Cold.grant]
  by_cases hg : g = f
  · subst hg
    simp only [Function.update_self]
  · rw [Function.update_of_ne hg]
    exact h.typed g

theorem Accepted.put (h : Accepted c) : Accepted (c.put key value) :=
  ⟨h.schema, h.approved, h.typed,
    ⟨h.bindings.close, h.bindings.closed, h.bindings.backup, h.bindings.install,
      h.bindings.launch, h.bindings.source⟩⟩

/-- A profile backup is noted once the source is closed. -/
theorem Accepted.backUp (h : Accepted c) (hc : c.has .sourceClosed = true)
    (hb : truthy b = true) : Accepted (c.backUp b) :=
  ⟨h.schema, h.approved, h.typed,
    ⟨h.bindings.close, h.bindings.closed, fun _ => hc, fun hi => ⟨(h.bindings.install hi).1, hb⟩,
      h.bindings.launch, h.bindings.source⟩⟩

end Flags

section Traces
variable {past : List Event}

theorem TakenCold.cons (h : TakenCold b past) : TakenCold b (e :: past) := by
  obtain ⟨later, c, earlier, rfl, hc⟩ := h
  exact ⟨e :: later, c, earlier, rfl, hc⟩

theorem SourceClosed.cons (h : SourceClosed past) : SourceClosed (e :: past) := by
  obtain ⟨c, hc, hr⟩ := h
  exact ⟨c, List.mem_cons_of_mem _ hc, hr⟩

theorem Clean.cons (h : Clean past) (hc : c.request ≠ .launch .candidate) :
    Clean (.call c :: past) := by
  refine ⟨?_, ?_⟩
  · intro hm
    exact h.1 ((List.mem_cons.mp hm).resolve_left nofun)
  · intro d hd
    rcases List.mem_cons.mp hd with he | hd
    · cases he
      exact hc
    · exact h.2 d hd

theorem idleSince_cons (h : idleSince past = true) (hm : c.request.moves = false) :
    idleSince (.call c :: past) = true := by
  simp only [idleSince, hm, h, Bool.or_true, Bool.false_eq_true, ↓reduceIte]

theorem idleSince_proved (hc : c.request = .requireIdle) (hs : c.succeeded = true) :
    idleSince (.call c :: past) = true := by
  simp only [idleSince, hc, hs, Request.moves, Bool.false_eq_true, ↓reduceIte, decide_true,
    Bool.and_self, Bool.true_or]

/-- A call that neither needs admission nor replaces anything. -/
theorem CallOk.plain (ha : c.request.admission = none) (hr : c.request.replaces = false) :
    CallOk past c := by
  refine ⟨?_, ?_, ?_, ?_⟩
  · intro f hf
    rw [ha] at hf
    cases hf
  · intro hl
    rw [hl] at ha
    cases ha
  · intro hi
    rw [hr] at hi
    cases hi
  · intro hl
    rw [hl] at hr
    cases hr

end Traces

end AgentBrowser.ColdRestart
