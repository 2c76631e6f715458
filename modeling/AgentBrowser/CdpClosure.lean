import AgentBrowser.CdpTransport

namespace AgentBrowser
set_option autoImplicit true

/-- How the fields of a shutdown hang together. -/
structure TransportShutdown.Orderly (s : TransportShutdown) : Prop where
  called : s.binding = s.calls.getLast?
  bound : ∀ binding phase, s.closing = some (binding, phase) →
    s.binding = some binding ∧ s.transportSealed = true ∧ s.failed = false
  taken : ∀ binding phase, s.closing = some (binding, phase) → phase ≠ .takingSink →
    s.sinkOpen = false
  joined : ∀ binding, s.closing = some (binding, .joiningKeepalive) → s.readerJoined = true
  shut : s.sinkOpen = false → s.transportSealed = true
  failed : s.failed = true → s.binding.isSome = true
  proved : ∀ proof ∈ s.proofs, s.binding = some proof ∧ s.sinkOpen = false ∧
    s.readerJoined = true ∧ s.keepaliveJoined = true

namespace TransportShutdown
variable {s t : TransportShutdown} {binding : ShutdownBinding} {reader keepalive : TaskPhase}

theorem Orderly.quiesce (h : s.Orderly) (hnext : s.quiesce binding = some t) : t.Orderly := by
  unfold TransportShutdown.quiesce at hnext
  split at hnext
  · rename_i hfree
    split at hnext
    · rename_i hrefused
      cases hnext
      have hbound : s.binding.isSome = true := by
        simp only [Bool.or_eq_true, Option.any_eq_true] at hrefused
        rcases hrefused with ⟨old, hold, _⟩ | hfailed
        · simp [hold]
        · exact h.failed hfailed
      have hcalls : (binding :: s.calls).getLast? = s.calls.getLast? := by
        rw [h.called] at hbound
        cases hlast : s.calls.getLast? with
        | none => simp [hlast] at hbound
        | some last => rw [List.getLast?_cons, hlast, Option.getD_some]
      exact { h with called := h.called.trans hcalls.symm }
    · rename_i hadmitted
      cases hnext
      simp only [Bool.or_eq_true, Option.any_eq_true, not_or, not_exists, not_and,
        decide_eq_true_eq, not_not, Bool.not_eq_true] at hadmitted
      obtain ⟨hsame, hworking⟩ := hadmitted
      have hcalls : (binding :: s.calls).getLast? = some binding := by
        cases hlast : s.calls.getLast? with
        | none => rw [List.getLast?_cons, hlast, Option.getD_none]
        | some last =>
          rw [List.getLast?_cons, hlast, Option.getD_some, hsame last (h.called.trans hlast)]
      refine ⟨hcalls.symm, ?_, ?_, ?_, fun _ => rfl, fun _ => rfl, ?_⟩
      · rintro _ _ ⟨⟩
        exact ⟨rfl, rfl, hworking⟩
      · rintro _ _ ⟨⟩ hphase
        exact absurd rfl hphase
      · rintro _ ⟨⟩
      · intro proof hproof
        obtain ⟨hbinding, hrest⟩ := h.proved proof hproof
        exact ⟨by rw [hsame proof hbinding], hrest⟩
  · cases hnext

theorem Orderly.takeSink (h : s.Orderly) (hnext : s.takeSink = some t) : t.Orderly := by
  unfold TransportShutdown.takeSink at hnext
  split at hnext
  · rename_i binding hclosing
    cases hnext
    obtain ⟨hbinding, hsealed, hworking⟩ := h.bound _ _ hclosing
    refine ⟨h.called, ?_, fun _ _ _ _ => rfl, ?_, fun _ => hsealed, h.failed, ?_⟩
    · rintro _ _ ⟨⟩
      exact ⟨hbinding, hsealed, hworking⟩
    · rintro _ ⟨⟩
    · intro proof hproof
      obtain ⟨hbound, _, hjoined⟩ := h.proved proof hproof
      exact ⟨hbound, rfl, hjoined⟩
  · cases hnext

theorem Orderly.joinReader (h : s.Orderly) (hnext : s.joinReader reader = some t) :
    t.Orderly := by
  unfold TransportShutdown.joinReader at hnext
  split at hnext
  · rename_i binding hclosing
    obtain ⟨hbinding, hsealed, hworking⟩ := h.bound _ _ hclosing
    have hsink := h.taken _ _ hclosing (by decide)
    have hproved : ∀ proof ∈ s.proofs, s.binding = some proof ∧ s.sinkOpen = false ∧
        true = true ∧ s.keepaliveJoined = true := by
      intro proof hproof
      obtain ⟨hbound, hshut, _, hkeepalive⟩ := h.proved proof hproof
      exact ⟨hbound, hshut, rfl, hkeepalive⟩
    split at hnext
    · cases hnext
    · split at hnext <;> cases hnext
      · exact ⟨h.called, by rintro _ _ ⟨⟩, by rintro _ _ ⟨⟩, by rintro _ ⟨⟩, h.shut,
          fun _ => by simp [hbinding], hproved⟩
      · refine ⟨h.called, ?_, fun _ _ _ _ => hsink, fun _ _ => rfl, h.shut, h.failed, hproved⟩
        rintro _ _ ⟨⟩
        exact ⟨hbinding, hsealed, hworking⟩
  · cases hnext

theorem Orderly.joinKeepalive (h : s.Orderly) (hnext : s.joinKeepalive keepalive = some t) :
    t.Orderly := by
  unfold TransportShutdown.joinKeepalive at hnext
  split at hnext
  · rename_i binding hclosing
    obtain ⟨hbinding, hsealed, hworking⟩ := h.bound _ _ hclosing
    have hsink := h.taken _ _ hclosing (by decide)
    have hreader := h.joined _ hclosing
    have hproved : ∀ proof ∈ s.proofs, s.binding = some proof ∧ s.sinkOpen = false ∧
        s.readerJoined = true ∧ true = true := by
      intro proof hproof
      obtain ⟨hbound, hshut, hjoined, _⟩ := h.proved proof hproof
      exact ⟨hbound, hshut, hjoined, rfl⟩
    split at hnext
    · cases hnext
    · split at hnext <;> cases hnext
      · exact ⟨h.called, by rintro _ _ ⟨⟩, by rintro _ _ ⟨⟩, by rintro _ ⟨⟩, h.shut,
          fun _ => by simp [hbinding], hproved⟩
      · refine ⟨h.called, by rintro _ _ ⟨⟩, by rintro _ _ ⟨⟩, by rintro _ ⟨⟩, h.shut, h.failed,
          ?_⟩
        intro proof hproof
        obtain rfl | hproof := List.mem_cons.mp hproof
        · exact ⟨hbinding, hsink, hreader, rfl⟩
        · exact hproved proof hproof
  · cases hnext

theorem Orderly.interrupt (h : s.Orderly) (hnext : s.interrupt = some t) : t.Orderly := by
  unfold TransportShutdown.interrupt at hnext
  split at hnext <;> cases hnext
  exact ⟨h.called, by rintro _ _ ⟨⟩, by rintro _ _ ⟨⟩, by rintro _ ⟨⟩, h.shut, h.failed,
    h.proved⟩

end TransportShutdown

namespace CdpTransport
variable {w u v : CdpTransport} {step : CdpStep}

/-- A joined task has ended, the sink that was taken is not held, and a proof comes with an empty
map. -/
structure ClosureInv (w : CdpTransport) : Prop where
  orderly : w.shutdown.Orderly
  reader : w.shutdown.readerJoined = true → w.reader ≠ .running
  keepalive : w.shutdown.keepaliveJoined = true → w.keepalive ≠ .running
  idle : w.shutdown.sinkOpen = false → w.holder = none
  empty : w.shutdown.proofs ≠ [] → w.pending = ∅

theorem Orderly.shut_of_proofs (h : w.shutdown.Orderly) (hproofs : w.shutdown.proofs ≠ []) :
    w.shutdown.sinkOpen = false := by
  obtain ⟨proof, hproof⟩ := List.exists_mem_of_ne_nil _ hproofs
  exact (h.proved proof hproof).2.1

/-- A step that leaves the shutdown alone keeps the invariant if it starts no task, and neither
takes a closed sink nor fills the map of one. -/
theorem ClosureInv.of_same (h : w.ClosureInv) (hshutdown : u.shutdown = w.shutdown)
    (hreader : w.reader ≠ .running → u.reader ≠ .running)
    (hkeepalive : w.keepalive ≠ .running → u.keepalive ≠ .running)
    (hholder : w.shutdown.sinkOpen = false → w.holder = none → u.holder = none)
    (hpending : w.shutdown.sinkOpen = false → w.pending = ∅ → u.pending = ∅) :
    u.ClosureInv := by
  refine ⟨hshutdown ▸ h.orderly, ?_, ?_, ?_, ?_⟩
  · rw [hshutdown]
    exact fun hjoined => hreader (h.reader hjoined)
  · rw [hshutdown]
    exact fun hjoined => hkeepalive (h.keepalive hjoined)
  · rw [hshutdown]
    exact fun hshut => hholder hshut (h.idle hshut)
  · rw [hshutdown]
    exact fun hproofs => hpending (Orderly.shut_of_proofs h.orderly hproofs) (h.empty hproofs)

theorem closed_of_shut (h : w.shutdown.sinkOpen = false) : w.closed = true := by
  simp [closed, h]

theorem dispatch_fields (w : CdpTransport) (message : CdpMessage) :
    ∃ pending handed, w.dispatch message = { w with pending, handed } ∧
      (w.pending = ∅ → pending = ∅) := by
  unfold dispatch
  split
  · exact ⟨w.pending, w.handed, rfl, id⟩
  · split
    · exact ⟨w.pending, w.handed, rfl, id⟩
    · rename_i id _ ticket hfound
      refine ⟨_, _, rfl, fun hempty => ?_⟩
      rw [hempty] at hfound
      simp at hfound

theorem ClosureInv.next (h : w.ClosureInv) (hnext : w.next step = some u) : u.ClosureInv := by
  cases step with
  | begin sessionId =>
    cases hnext
    exact h.of_same rfl id id (fun _ => id) fun _ => id
  | abandon command =>
    simp only [CdpTransport.next, Option.ite_none_right_eq_some, Option.some.injEq] at hnext
    obtain ⟨_, rfl⟩ := hnext
    exact h.of_same rfl id id (fun _ => id) fun _ => id
  | register command =>
    simp only [CdpTransport.next, Option.ite_none_right_eq_some] at hnext
    obtain ⟨_, hnext⟩ := hnext
    split at hnext <;> cases hnext
    · exact h.of_same rfl id id (fun _ => id) fun _ => id
    · rename_i hopen
      exact h.of_same rfl id id (fun hshut => absurd (closed_of_shut hshut) hopen)
        fun hshut => absurd (closed_of_shut hshut) hopen
  | write command outcome =>
    simp only [CdpTransport.next, Option.ite_none_right_eq_some] at hnext
    obtain ⟨hholder, hnext⟩ := hnext
    have hheld : w.shutdown.sinkOpen = false → w.holder = none → False := by
      intro _ hnone
      rw [hholder] at hnone
      cases hnone
    cases outcome with
    | sent =>
      cases hnext
      exact h.of_same rfl id id (fun _ _ => rfl) fun _ => id
    | dropped written =>
      cases hnext
      exact h.of_same rfl id id (fun _ _ => rfl) fun hshut =>
        absurd (h.idle hshut) fun hnone => hheld hshut hnone
  | receive command message =>
    simp only [CdpTransport.next, Option.ite_none_right_eq_some, Option.some.injEq] at hnext
    obtain ⟨_, rfl⟩ := hnext
    exact h.of_same rfl id id (fun _ => id) fun _ => id
  | giveUp command =>
    simp only [CdpTransport.next, Option.ite_none_right_eq_some, Option.some.injEq] at hnext
    obtain ⟨_, rfl⟩ := hnext
    refine h.of_same rfl id id (fun _ => id) fun _ hempty => ?_
    simp [hempty]
  | lockRaw message =>
    simp only [CdpTransport.next, Option.ite_none_right_eq_some] at hnext
    obtain ⟨_, hnext⟩ := hnext
    split at hnext <;> cases hnext
    · exact h
    · rename_i hopen
      exact h.of_same rfl id id (fun hshut => absurd (closed_of_shut hshut) hopen) fun _ => id
  | writeRaw outcome =>
    simp only [CdpTransport.next] at hnext
    split at hnext <;> cases hnext
    exact h.of_same rfl id id (fun _ _ => rfl) fun _ => id
  | answer message =>
    simp only [CdpTransport.next, Option.ite_none_right_eq_some, Option.some.injEq] at hnext
    obtain ⟨_, rfl⟩ := hnext
    obtain ⟨pending, handed, heq, hempty⟩ :=
      dispatch_fields { w with unanswered := w.unanswered.erase message } message
    rw [heq]
    exact h.of_same rfl id id (fun _ => id) fun _ => hempty
  | readerEnd how =>
    simp only [CdpTransport.next, Option.ite_none_right_eq_some, Option.some.injEq] at hnext
    obtain ⟨_, rfl⟩ := hnext
    refine h.of_same rfl (fun _ => nofun) id (fun _ => id) fun _ hempty => ?_
    dsimp only
    split
    · rfl
    · exact hempty
  | lockPing =>
    simp only [CdpTransport.next, Option.ite_none_right_eq_some] at hnext
    obtain ⟨_, hnext⟩ := hnext
    split at hnext <;> cases hnext
    · exact h.of_same rfl id (fun _ => nofun) (fun _ => id) fun _ => id
    · rename_i hopen
      exact h.of_same rfl id id (fun hshut => absurd (closed_of_shut hshut) hopen) fun _ => id
  | writePing outcome =>
    simp only [CdpTransport.next, Option.ite_none_right_eq_some, Option.some.injEq] at hnext
    obtain ⟨_, rfl⟩ := hnext
    refine h.of_same rfl id (fun hended => ?_) (fun _ _ => rfl) fun _ => id
    dsimp only
    split
    · exact hended
    · exact nofun
  | keepaliveEnd how =>
    simp only [CdpTransport.next, Option.ite_none_right_eq_some, Option.some.injEq] at hnext
    obtain ⟨_, rfl⟩ := hnext
    refine h.of_same rfl id (fun _ => nofun) (fun _ hnone => ?_) fun _ => id
    simp [hnone]
  | quiesce binding =>
    obtain ⟨shutdown, hshutdown, rfl⟩ := Option.map_eq_some_iff.mp hnext
    have horderly := h.orderly.quiesce hshutdown
    unfold TransportShutdown.quiesce at hshutdown
    split at hshutdown
    · split at hshutdown <;> cases hshutdown <;>
        exact ⟨horderly, h.reader, h.keepalive, h.idle, h.empty⟩
    · cases hshutdown
  | takeSink =>
    simp only [CdpTransport.next, Option.ite_none_right_eq_some, Option.map_eq_some_iff] at hnext
    obtain ⟨hfree, shutdown, hshutdown, rfl⟩ := hnext
    have horderly := h.orderly.takeSink hshutdown
    unfold TransportShutdown.takeSink at hshutdown
    split at hshutdown <;> cases hshutdown
    exact ⟨horderly, h.reader, h.keepalive, fun _ => hfree, h.empty⟩
  | joinReader =>
    obtain ⟨shutdown, hshutdown, rfl⟩ := Option.map_eq_some_iff.mp hnext
    have horderly := h.orderly.joinReader hshutdown
    unfold TransportShutdown.joinReader at hshutdown
    split at hshutdown
    · split at hshutdown
      · cases hshutdown
      · rename_i hended
        have hreader : w.reader ≠ .running := by
          intro hrunning
          have hnot : w.shutdown.readerJoined = false :=
            Bool.eq_false_iff.mpr fun hjoined => h.reader hjoined hrunning
          exact hended ⟨hnot, hrunning⟩
        split at hshutdown <;> cases hshutdown <;>
          exact ⟨horderly, fun _ => hreader, h.keepalive, h.idle, h.empty⟩
    · cases hshutdown
  | joinKeepalive =>
    obtain ⟨shutdown, hshutdown, rfl⟩ := Option.map_eq_some_iff.mp hnext
    have horderly := h.orderly.joinKeepalive hshutdown
    unfold TransportShutdown.joinKeepalive at hshutdown
    split at hshutdown
    · rename_i binding hclosing
      have hworking := (h.orderly.bound _ _ hclosing).2.2
      split at hshutdown
      · cases hshutdown
      · rename_i hended
        have hkeepalive : w.keepalive ≠ .running := by
          intro hrunning
          have hnot : w.shutdown.keepaliveJoined = false :=
            Bool.eq_false_iff.mpr fun hjoined => h.keepalive hjoined hrunning
          exact hended ⟨hnot, hrunning⟩
        split at hshutdown <;> cases hshutdown
        · exact ⟨horderly, h.reader, fun _ => hkeepalive, h.idle, h.empty⟩
        · refine ⟨horderly, h.reader, fun _ => hkeepalive, h.idle, fun _ => ?_⟩
          simp [hworking]
    · cases hshutdown
  | interrupt =>
    obtain ⟨shutdown, hshutdown, rfl⟩ := Option.map_eq_some_iff.mp hnext
    have horderly := h.orderly.interrupt hshutdown
    unfold TransportShutdown.interrupt at hshutdown
    split at hshutdown <;> cases hshutdown
    exact ⟨horderly, h.reader, h.keepalive, h.idle, h.empty⟩

/-- A shutdown goes on by one of its own steps. -/
theorem next_shutdown (hnext : w.next step = some u) :
    u.shutdown = w.shutdown ∨ (∃ binding, w.shutdown.quiesce binding = some u.shutdown) ∨
      w.shutdown.takeSink = some u.shutdown ∨
      w.shutdown.joinReader w.reader = some u.shutdown ∨
      w.shutdown.joinKeepalive w.keepalive = some u.shutdown ∨
      w.shutdown.interrupt = some u.shutdown := by
  cases step with
  | quiesce binding =>
    obtain ⟨shutdown, hshutdown, rfl⟩ := Option.map_eq_some_iff.mp hnext
    exact .inr (.inl ⟨binding, hshutdown⟩)
  | takeSink =>
    simp only [CdpTransport.next, Option.ite_none_right_eq_some, Option.map_eq_some_iff] at hnext
    obtain ⟨_, shutdown, hshutdown, rfl⟩ := hnext
    exact .inr (.inr (.inl hshutdown))
  | joinReader =>
    obtain ⟨shutdown, hshutdown, rfl⟩ := Option.map_eq_some_iff.mp hnext
    exact .inr (.inr (.inr (.inl hshutdown)))
  | joinKeepalive =>
    obtain ⟨shutdown, hshutdown, rfl⟩ := Option.map_eq_some_iff.mp hnext
    exact .inr (.inr (.inr (.inr (.inl hshutdown))))
  | interrupt =>
    obtain ⟨shutdown, hshutdown, rfl⟩ := Option.map_eq_some_iff.mp hnext
    exact .inr (.inr (.inr (.inr (.inr hshutdown))))
  | writeRaw outcome =>
    simp only [CdpTransport.next] at hnext
    split at hnext <;> cases hnext
    exact .inl rfl
  | answer message =>
    simp only [CdpTransport.next, Option.ite_none_right_eq_some, Option.some.injEq] at hnext
    obtain ⟨_, rfl⟩ := hnext
    obtain ⟨pending, handed, heq, _⟩ :=
      dispatch_fields { w with unanswered := w.unanswered.erase message } message
    rw [heq]
    exact .inl rfl
  | begin sessionId =>
    cases hnext
    exact .inl rfl
  | write command outcome =>
    simp only [CdpTransport.next, Option.ite_none_right_eq_some] at hnext
    cases outcome <;> cases hnext.2 <;> exact .inl rfl
  | register command | lockRaw message | lockPing =>
    simp only [CdpTransport.next, Option.ite_none_right_eq_some] at hnext
    obtain ⟨_, hnext⟩ := hnext
    split at hnext <;> cases hnext <;> exact .inl rfl
  | _ =>
    simp only [CdpTransport.next, Option.ite_none_right_eq_some, Option.some.injEq] at hnext
    obtain ⟨_, rfl⟩ := hnext
    exact .inl rfl

/-- A taken sink and a failure stay, and a failed shutdown gives no proof. -/
theorem next_keeps (h : w.ClosureInv) (hnext : w.next step = some u) :
    (w.shutdown.sinkOpen = false → u.shutdown.sinkOpen = false) ∧
      (∀ proof ∈ w.shutdown.proofs, proof ∈ u.shutdown.proofs) ∧
      (w.shutdown.failed = true →
        u.shutdown.failed = true ∧ u.shutdown.proofs = w.shutdown.proofs) := by
  have hcases := next_shutdown hnext
  generalize u.shutdown = t at hcases ⊢
  rcases hcases with heq | ⟨binding, heq⟩ | heq | heq | heq | heq
  · rw [heq]
    exact ⟨id, fun _ => id, fun hfailed => ⟨hfailed, rfl⟩⟩
  · unfold TransportShutdown.quiesce at heq
    split at heq
    · split at heq <;> cases heq <;> exact ⟨id, fun _ => id, fun hfailed => ⟨hfailed, rfl⟩⟩
    · cases heq
  · unfold TransportShutdown.takeSink at heq
    split at heq <;> cases heq
    exact ⟨fun _ => rfl, fun _ => id, fun hfailed => ⟨hfailed, rfl⟩⟩
  · unfold TransportShutdown.joinReader at heq
    split at heq
    · split at heq
      · cases heq
      · split at heq <;> cases heq
        · exact ⟨id, fun _ => id, fun _ => ⟨rfl, rfl⟩⟩
        · exact ⟨id, fun _ => id, fun hfailed => ⟨hfailed, rfl⟩⟩
    · cases heq
  · unfold TransportShutdown.joinKeepalive at heq
    split at heq
    · rename_i binding hclosing
      have hworking := (h.orderly.bound _ _ hclosing).2.2
      split at heq
      · cases heq
      · split at heq <;> cases heq
        · exact ⟨id, fun _ => id, fun _ => ⟨rfl, rfl⟩⟩
        · exact ⟨id, fun _ => List.mem_cons_of_mem _, fun hfailed => by simp [hworking] at hfailed⟩
    · cases heq
  · unfold TransportShutdown.interrupt at heq
    split at heq <;> cases heq
    exact ⟨id, fun _ => id, fun hfailed => ⟨hfailed, rfl⟩⟩

theorem next_written (hnext : w.next step = some u) (hidle : w.holder = none) :
    u.written = w.written := by
  cases step with
  | begin sessionId =>
    cases hnext
    rfl
  | write command outcome =>
    simp [CdpTransport.next, hidle] at hnext
  | writeRaw outcome =>
    simp [CdpTransport.next, hidle] at hnext
  | writePing outcome =>
    simp [CdpTransport.next, hidle] at hnext
  | answer message =>
    simp only [CdpTransport.next, Option.ite_none_right_eq_some, Option.some.injEq] at hnext
    obtain ⟨_, rfl⟩ := hnext
    obtain ⟨pending, handed, heq, _⟩ :=
      dispatch_fields { w with unanswered := w.unanswered.erase message } message
    rw [heq]
  | takeSink =>
    simp only [CdpTransport.next, Option.ite_none_right_eq_some, Option.map_eq_some_iff] at hnext
    obtain ⟨_, shutdown, _, rfl⟩ := hnext
    rfl
  | quiesce binding | joinReader | joinKeepalive | interrupt =>
    obtain ⟨shutdown, _, rfl⟩ := Option.map_eq_some_iff.mp hnext
    rfl
  | register command | lockRaw message | lockPing =>
    simp only [CdpTransport.next, Option.ite_none_right_eq_some] at hnext
    obtain ⟨_, hnext⟩ := hnext
    split at hnext <;> cases hnext <;> rfl
  | _ =>
    simp only [CdpTransport.next, Option.ite_none_right_eq_some, Option.some.injEq] at hnext
    obtain ⟨_, rfl⟩ := hnext
    rfl

/-- The transport is closed for good. -/
structure ClosedForGood (w v : CdpTransport) : Prop where
  written : v.written = w.written
  reader : v.reader ≠ .running
  keepalive : v.keepalive ≠ .running
  pending : v.pending = ∅

/-- Once a shutdown call has returned a proof, nothing is written to the socket any more, the
tasks have ended, and no command is pending. All proofs are for the first call, and after a failed
join there are no more of them. -/
theorem sealed_transport (hrun : Transition.Free next steps {} w)
    (hmore : Transition.Free next more w v) :
    (w.shutdown.proofs ≠ [] → w.ClosedForGood v) ∧
    (∀ proof ∈ w.shutdown.proofs, w.shutdown.calls.getLast? = some proof) ∧
    (w.shutdown.failed = true → v.shutdown.proofs = w.shutdown.proofs) := by
  have hstart : ClosureInv {} := by
    refine ⟨⟨rfl, ?_, ?_, ?_, ?_, ?_, ?_⟩, ?_, ?_, fun _ => rfl, fun _ => rfl⟩ <;> simp
  have hw : w.ClosureInv := hrun.keeps (fun _ _ _ h _ hnext => h.next hnext) hstart
  refine ⟨fun hproofs => ?_, fun proof hproof => ?_, fun hfailed => ?_⟩
  · have hv := hmore.keeps
      (p := fun u => u.ClosureInv ∧ u.shutdown.proofs ≠ [] ∧ u.written = w.written)
      (by
        rintro t step u ⟨ht, hsome, hsame⟩ _ hnext
        obtain ⟨proof, hproof⟩ := List.exists_mem_of_ne_nil _ hsome
        have hkept := (next_keeps ht hnext).2.1 proof hproof
        have hidle := ht.idle (Orderly.shut_of_proofs ht.orderly hsome)
        exact ⟨ht.next hnext, List.ne_nil_of_mem hkept, (next_written hnext hidle).trans hsame⟩)
      ⟨hw, hproofs, rfl⟩
    obtain ⟨hinv, hsome, hwritten⟩ := hv
    obtain ⟨proof, hproof⟩ := List.exists_mem_of_ne_nil _ hsome
    obtain ⟨_, _, hreader, hkeepalive⟩ := hinv.orderly.proved proof hproof
    exact ⟨hwritten, hinv.reader hreader, hinv.keepalive hkeepalive, hinv.empty hsome⟩
  · rw [← hw.orderly.called]
    exact (hw.orderly.proved proof hproof).1
  · have hv := hmore.keeps
      (p := fun u => u.ClosureInv ∧ u.shutdown.failed = true ∧
        u.shutdown.proofs = w.shutdown.proofs)
      (by
        rintro t step u ⟨ht, hstill, hsame⟩ _ hnext
        obtain ⟨hafter, hproofs⟩ := (next_keeps ht hnext).2.2 hstill
        exact ⟨ht.next hnext, hafter, hproofs.trans hsame⟩)
      ⟨hw, hfailed, rfl⟩
    exact hv.2.2

def permitBinding : ShutdownBinding := { epochId := "epoch", identityDigest := "digest" }

/-- A command is written, the transport is closed, and the caller gives up. -/
theorem sealed_transport_once : ∃ w v : CdpTransport,
    w.shutdown.proofs = [permitBinding] ∧ w.written = 1 ∧ w.ClosedForGood v :=
  let command : CdpCommand := { ticket := 0, id := 1, sessionId := none }
  have hrun : Transition.Free next [.begin none, .register command, .write command .sent,
      .quiesce permitBinding, .takeSink, .readerEnd .cancelled, .keepaliveEnd .cancelled,
      .joinReader, .joinKeepalive] {} _ :=
    .of_foldlM rfl
  have hmore : Transition.Free next [.giveUp command, .lockRaw ⟨.raw, 1, none⟩] _ _ :=
    .of_foldlM rfl
  ⟨_, _, rfl, rfl, (sealed_transport hrun hmore).1 (by decide)⟩

end CdpTransport

end AgentBrowser
