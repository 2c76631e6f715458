import AgentBrowser.CdpTransport

namespace AgentBrowser
set_option autoImplicit true

namespace CdpTransport
variable {w u v : CdpTransport} {step : CdpStep}

/-- The commands that have an entry, or had one until their answer came. -/
def registered (w : CdpTransport) : List CdpCommand :=
  (match w.holder with
    | some (.command command) => [command]
    | _ => []) ++ w.waiting

/-- The callers that were given an answer. -/
def answered (w : CdpTransport) : List Nat := (w.handed ++ w.received).map (·.1)

/-- The callers received answers to their own messages, at most one each, and each entry belongs to
a command that is not over. -/
structure RepliesOwn (w : CdpTransport) : Prop where
  own : ∀ reply ∈ w.received, reply.2.origin = .command reply.1
  once : (w.received.map (·.1)).Nodup
  live : ∀ id ticket : Nat, w.pending[id]? = some ticket →
    ∃ command ∈ w.registered, command.ticket = ticket ∧ command.id = id

/-- The step mixes up no ids: the answer to a message that no command sent has no id that a command
waits for, and the counter of the ids has not come around. -/
def KeepsApart (w : CdpTransport) : CdpStep → Prop
  | .answer message => message.origin = .raw → message.responseId.bind (w.pending[·]?) = none
  | .begin _ => w.nextTicket + 1 < 2 ^ 64
  | _ => True

instance : (step : CdpStep) → Decidable (w.KeepsApart step)
  | .answer message => inferInstanceAs
      (Decidable (message.origin = .raw → message.responseId.bind (w.pending[·]?) = none))
  | .begin _ => inferInstanceAs (Decidable (w.nextTicket + 1 < 2 ^ 64))
  | .abandon _ | .register _ | .write _ _ | .receive _ _ | .giveUp _ | .lockRaw _ | .writeRaw _
  | .readerEnd _ | .lockPing | .writePing _ | .keepaliveEnd _ | .quiesce _ | .takeSink
  | .joinReader | .joinKeepalive | .interrupt => isTrue trivial

/-- The id of a command is that of its ticket. -/
structure Drawn (w : CdpTransport) (command : CdpCommand) : Prop where
  id : command.id = command.ticket + 1
  small : command.id < 2 ^ 64
  old : command.ticket < w.nextTicket

theorem Drawn.mono (h : w.Drawn command) (hticket : w.nextTicket ≤ u.nextTicket) :
    u.Drawn command :=
  ⟨h.id, h.small, Nat.lt_of_lt_of_le h.old hticket⟩

/-- Ids and tickets belong together, and an entry is that of a command that is not over and was
given no answer. -/
structure RoutingInv (w : CdpTransport) : Prop where
  drawn : ∀ command ∈ w.preparing ++ w.registered, w.Drawn command
  distinct : (w.preparing.map (·.ticket)).Nodup
  raw : ∀ message, w.holder = some (.raw message) → message.origin = .raw
  sent : ∀ message ∈ w.unanswered, ∀ ticket, message.origin = .command ticket →
    message.id = (ticket + 1 : Nat)
  live : ∀ id ticket : Nat, w.pending[id]? = some ticket →
    ∃ command ∈ w.registered, command.ticket = ticket ∧ command.id = id
  expecting : ∀ id ticket : Nat, w.pending[id]? = some ticket → ticket ∉ w.answered
  own : ∀ reply ∈ w.handed ++ w.received, reply.2.origin = .command reply.1
  once : w.answered.Nodup
  old : ∀ ticket ∈ w.answered, ticket < w.nextTicket
  fresh : ∀ command ∈ w.preparing, command.ticket ∉ w.answered ∧
    ∀ id : Nat, w.pending[id]? ≠ some command.ticket

/-- Commands may end, callers take what was handed to them, and entries go with them. -/
theorem RoutingInv.of_less (h : w.RoutingInv) (hpreparing : u.preparing.Sublist w.preparing)
    (hregistered : ∀ command ∈ u.registered, command ∈ w.registered)
    (hraw : ∀ message, u.holder = some (.raw message) → message.origin = .raw)
    (hpending : ∀ id ticket : Nat, u.pending[id]? = some ticket → w.pending[id]? = some ticket)
    (hlive : ∀ id ticket : Nat, u.pending[id]? = some ticket →
      ∃ command ∈ u.registered, command.ticket = ticket ∧ command.id = id)
    (hsent : ∀ message ∈ u.unanswered, message ∈ w.unanswered ∨
      ∀ ticket, message.origin = .command ticket → message.id = (ticket + 1 : Nat))
    (hanswered : u.answered.Perm w.answered)
    (hown : ∀ reply ∈ u.handed ++ u.received, reply ∈ w.handed ++ w.received)
    (hticket : u.nextTicket = w.nextTicket) : u.RoutingInv := by
  refine ⟨?_, ?_, hraw, ?_, hlive, ?_, ?_, ?_, ?_, ?_⟩
  · intro command hmem
    have hbefore : command ∈ w.preparing ++ w.registered := by
      rcases List.mem_append.mp hmem with hmem | hmem
      · exact List.mem_append_left _ (hpreparing.subset hmem)
      · exact List.mem_append_right _ (hregistered command hmem)
    exact (h.drawn command hbefore).mono (Nat.le_of_eq hticket.symm)
  · exact (hpreparing.map _).nodup h.distinct
  · intro message hmem ticket horigin
    rcases hsent message hmem with hbefore | hid
    · exact h.sent message hbefore ticket horigin
    · exact hid ticket horigin
  · intro id ticket hentry hmem
    exact h.expecting id ticket (hpending id ticket hentry) (hanswered.mem_iff.mp hmem)
  · exact fun reply hmem => h.own reply (hown reply hmem)
  · exact hanswered.nodup_iff.mpr h.once
  · intro ticket hmem
    rw [hticket]
    exact h.old ticket (hanswered.mem_iff.mp hmem)
  · intro command hmem
    obtain ⟨hunanswered, hnone⟩ := h.fresh command (hpreparing.subset hmem)
    exact ⟨fun hmem => hunanswered (hanswered.mem_iff.mp hmem),
      fun id hentry => hnone id (hpending id _ hentry)⟩

theorem registered_of_holder (hholder : w.holder = some (.command command)) :
    w.registered = command :: w.waiting := by
  simp [registered, hholder]

theorem mem_registered_of_waiting (hmem : command ∈ w.waiting) : command ∈ w.registered :=
  List.mem_append_right _ hmem

/-- A caller that goes away takes its entry along. -/
theorem RoutingInv.live_erase (h : w.RoutingInv) (gone : CdpCommand) (id ticket : Nat)
    (hentry : (w.pending.erase gone.id)[id]? = some ticket) :
    ∃ command ∈ w.registered, command ≠ gone ∧ command.ticket = ticket ∧ command.id = id := by
  rw [Std.ExtTreeMap.getElem?_erase] at hentry
  split at hentry
  · cases hentry
  · rename_i hother
    obtain ⟨command, hmem, hticket, hid⟩ := h.live id ticket hentry
    refine ⟨command, hmem, ?_, hticket, hid⟩
    rintro rfl
    exact hother (by rw [hid, Std.LawfulEqCmp.compare_eq_iff_eq])

theorem pending_of_erase {pending : Std.ExtTreeMap Nat Nat} {erased id ticket : Nat}
    (hentry : (pending.erase erased)[id]? = some ticket) : pending[id]? = some ticket := by
  rw [Std.ExtTreeMap.getElem?_erase] at hentry
  split at hentry
  · cases hentry
  · exact hentry

theorem ticket_ne_of_mem_erase {preparing : List CdpCommand}
    (hdistinct : (preparing.map (·.ticket)).Nodup) (hmem : command ∈ preparing)
    (hother : other ∈ preparing.erase command) : other.ticket ≠ command.ticket := by
  have hperm := (List.perm_cons_erase hmem).map (·.ticket)
  have hnodup := hperm.nodup_iff.mp hdistinct
  rw [List.map_cons, List.nodup_cons] at hnodup
  exact fun heq => hnodup.1 (heq ▸ List.mem_map_of_mem hother)

theorem RoutingInv.begin (h : w.RoutingInv) (hcounter : w.nextTicket + 1 < 2 ^ 64)
    (hnext : w.next (.begin sessionId) = some u) : u.RoutingInv := by
  cases hnext
  refine ⟨?_, ?_, h.raw, h.sent, h.live, h.expecting, h.own, h.once, ?_, ?_⟩
  · intro command hmem
    obtain rfl | hmem := List.mem_cons.mp hmem
    · exact ⟨Nat.mod_eq_of_lt hcounter, Nat.mod_lt _ (by decide), Nat.lt_succ_self _⟩
    · exact (h.drawn command hmem).mono (Nat.le_succ _)
  · rw [List.map_cons, List.nodup_cons]
    refine ⟨fun hmem => ?_, h.distinct⟩
    obtain ⟨command, hmem, hticket⟩ := List.mem_map.mp hmem
    have hdrawn := h.drawn command (List.mem_append_left _ hmem)
    exact absurd hticket (Nat.ne_of_lt hdrawn.old)
  · exact fun ticket hmem => Nat.lt_succ_of_lt (h.old ticket hmem)
  · intro command hmem
    obtain rfl | hmem := List.mem_cons.mp hmem
    · refine ⟨fun hanswered => absurd (h.old _ hanswered) (Nat.lt_irrefl _), fun id hentry => ?_⟩
      obtain ⟨other, hother, hticket, _⟩ := h.live id _ hentry
      have hdrawn := h.drawn other (List.mem_append_right _ hother)
      exact absurd hticket (Nat.ne_of_lt hdrawn.old)
    · exact h.fresh command hmem

/-- A command that is turned away, or whose caller goes away before its turn. -/
theorem RoutingInv.abandon (h : w.RoutingInv) (command : CdpCommand) :
    RoutingInv { w with preparing := w.preparing.erase command } :=
  h.of_less List.erase_sublist (fun _ hmem => hmem) h.raw (fun _ _ hentry => hentry) h.live
    (fun _ hmem => .inl hmem) (List.Perm.refl _) (fun _ hmem => hmem) rfl

theorem RoutingInv.register (h : w.RoutingInv) (hmem : command ∈ w.preparing)
    (hholder : w.holder = none) :
    RoutingInv { w with
      preparing := w.preparing.erase command
      pending := w.pending.insert command.id command.ticket
      holder := some (.command command) } := by
  have hdrawn := h.drawn command (List.mem_append_left _ hmem)
  obtain ⟨hunanswered, hnone⟩ := h.fresh command hmem
  have hregistered : w.registered = w.waiting := by simp [registered, hholder]
  have hentries (id ticket : Nat)
      (hentry : (w.pending.insert command.id command.ticket)[id]? = some ticket) :
      (command.id = id ∧ command.ticket = ticket) ∨ w.pending[id]? = some ticket := by
    rw [Std.ExtTreeMap.getElem?_insert] at hentry
    split at hentry
    · rename_i heq
      exact .inl ⟨Std.LawfulEqCmp.compare_eq_iff_eq.mp heq, Option.some.inj hentry⟩
    · exact .inr hentry
  refine ⟨?_, ?_, ?_, h.sent, ?_, ?_, h.own, h.once, h.old, ?_⟩
  · intro other hother
    suffices hbefore : w.Drawn other from hbefore.mono (Nat.le_refl _)
    rcases List.mem_append.mp hother with hother | hother
    · exact h.drawn other (List.mem_append_left _ (List.erase_subset hother))
    · obtain rfl | hother := List.mem_cons.mp hother
      · exact hdrawn
      · exact h.drawn other (List.mem_append_right _ (mem_registered_of_waiting hother))
  · exact (List.erase_sublist.map _).nodup h.distinct
  · rintro message ⟨⟩
  · intro id ticket hentry
    rcases hentries id ticket hentry with ⟨hid, hticket⟩ | hbefore
    · exact ⟨command, List.mem_cons_self, hticket, hid⟩
    · obtain ⟨other, hother, heq⟩ := h.live id ticket hbefore
      exact ⟨other, List.mem_cons_of_mem _ (hregistered ▸ hother), heq⟩
  · intro id ticket hentry
    rcases hentries id ticket hentry with ⟨_, rfl⟩ | hbefore
    · exact hunanswered
    · exact h.expecting id ticket hbefore
  · intro other hother
    obtain ⟨hotherUnanswered, hotherNone⟩ := h.fresh other (List.erase_subset hother)
    refine ⟨hotherUnanswered, fun id hentry => ?_⟩
    rcases hentries id other.ticket hentry with ⟨_, hticket⟩ | hbefore
    · exact ticket_ne_of_mem_erase h.distinct hmem hother hticket.symm
    · exact hotherNone id hbefore

theorem RoutingInv.write (h : w.RoutingInv) (hnext : w.next (.write command outcome) = some u) :
    u.RoutingInv := by
  obtain ⟨hholder, hnext⟩ := Option.ite_none_right_eq_some.mp hnext
  have hregistered := registered_of_holder hholder
  have hdrawn := h.drawn command (List.mem_append_right _ (hregistered ▸ List.mem_cons_self))
  have hsent : ∀ message ∈ (w.putMessage command.message outcome).unanswered,
      message ∈ w.unanswered ∨
        ∀ ticket, message.origin = .command ticket → message.id = (ticket + 1 : Nat) := by
    intro message hmem
    simp only [putMessage] at hmem
    split at hmem
    · obtain rfl | hmem := List.mem_cons.mp hmem
      · right
        rintro ticket ⟨⟩
        exact congrArg Int.ofNat hdrawn.id
      · exact .inl hmem
    · exact .inl hmem
  cases outcome with
  | sent =>
    cases hnext
    refine h.of_less (List.Sublist.refl _) ?_ (by rintro _ ⟨⟩) (fun _ _ hentry => hentry) ?_ hsent
      (List.Perm.refl _) (fun _ hmem => hmem) rfl
    · exact fun other hmem => hregistered ▸ hmem
    · exact fun id ticket hentry => hregistered ▸ h.live id ticket hentry
  | dropped written =>
    cases hnext
    refine h.of_less (List.Sublist.refl _) ?_ (by rintro _ ⟨⟩)
      (fun _ _ hentry => pending_of_erase hentry) ?_ hsent (List.Perm.refl _) (fun _ hmem => hmem) rfl
    · exact fun other hmem => mem_registered_of_waiting hmem
    · intro id ticket hentry
      obtain ⟨other, hmem, hne, heq⟩ := h.live_erase command id ticket hentry
      rw [hregistered] at hmem
      exact ⟨other, (List.mem_cons.mp hmem).resolve_left hne, heq⟩

theorem mem_registered_erase {gone : CdpCommand} (hmem : command ∈ w.registered)
    (hne : command ≠ gone) :
    command ∈ registered { w with waiting := w.waiting.erase gone } := by
  rcases List.mem_append.mp hmem with hmem | hmem
  · exact List.mem_append_left _ hmem
  · exact List.mem_append_right _ ((List.mem_erase_of_ne hne).mpr hmem)

theorem RoutingInv.receive (h : w.RoutingInv)
    (hnext : w.next (.receive command message) = some u) : u.RoutingInv := by
  obtain ⟨⟨hwaiting, hhanded⟩, hnext⟩ := Option.ite_none_right_eq_some.mp hnext
  cases hnext
  have hperm : (w.handed.erase (command.ticket, message) ++
      (command.ticket, message) :: w.received).Perm (w.handed ++ w.received) :=
    (List.perm_middle.trans ((List.perm_cons_erase hhanded).symm.append_right _))
  have hanswered : command.ticket ∈ w.answered :=
    List.mem_map.mpr ⟨_, List.mem_append_left _ hhanded, rfl⟩
  refine h.of_less (List.Sublist.refl _) ?_ h.raw (fun _ _ hentry => hentry) ?_
    (fun _ hmem => .inl hmem) (hperm.map _) (fun _ hmem => hperm.mem_iff.mp hmem) rfl
  · intro other hmem
    rcases List.mem_append.mp hmem with hmem | hmem
    · exact List.mem_append_left _ hmem
    · exact mem_registered_of_waiting (List.erase_subset hmem)
  · intro id ticket hentry
    obtain ⟨other, hmem, hticket, hid⟩ := h.live id ticket hentry
    refine ⟨other, mem_registered_erase hmem ?_, hticket, hid⟩
    rintro rfl
    exact h.expecting id ticket hentry (hticket ▸ hanswered)

theorem RoutingInv.giveUp (h : w.RoutingInv) (hnext : w.next (.giveUp command) = some u) :
    u.RoutingInv := by
  obtain ⟨_, hnext⟩ := Option.ite_none_right_eq_some.mp hnext
  cases hnext
  refine h.of_less (List.Sublist.refl _) ?_ h.raw (fun _ _ hentry => pending_of_erase hentry) ?_
    (fun _ hmem => .inl hmem) (List.Perm.refl _) (fun _ hmem => hmem) rfl
  · intro other hmem
    rcases List.mem_append.mp hmem with hmem | hmem
    · exact List.mem_append_left _ hmem
    · exact mem_registered_of_waiting (List.erase_subset hmem)
  · intro id ticket hentry
    obtain ⟨other, hmem, hne, heq⟩ := h.live_erase command id ticket hentry
    exact ⟨other, mem_registered_erase hmem hne, heq⟩

theorem RoutingInv.entry (h : w.RoutingInv) {id ticket : Nat}
    (hentry : w.pending[id]? = some ticket) : id = ticket + 1 ∧ ticket < w.nextTicket := by
  obtain ⟨command, hmem, rfl, rfl⟩ := h.live id ticket hentry
  have hdrawn := h.drawn command (List.mem_append_right _ hmem)
  exact ⟨hdrawn.id, hdrawn.old⟩

/-- The answer to a command has the id of that command only. -/
theorem RoutingInv.ticket_of_answer (h : w.RoutingInv) (hmem : message ∈ w.unanswered)
    (horigin : message.origin = .command sender) {id ticket : Nat}
    (hid : message.responseId = some id) (hentry : w.pending[id]? = some ticket) :
    sender = ticket := by
  have hsent := h.sent message hmem sender horigin
  have hticket := (h.entry hentry).1
  obtain ⟨_, hid⟩ := Option.ite_none_right_eq_some.mp hid
  have hnat : message.id.toNat = id := Option.some.inj hid
  omega

theorem RoutingInv.answer (h : w.RoutingInv) (hapart : w.KeepsApart (.answer message))
    (hnext : w.next (.answer message) = some u) : u.RoutingInv := by
  obtain ⟨⟨_, hmem⟩, hnext⟩ := Option.ite_none_right_eq_some.mp hnext
  obtain rfl := Option.some.inj hnext
  have hless : RoutingInv { w with unanswered := w.unanswered.erase message } :=
    h.of_less (List.Sublist.refl _) (fun _ hmem => hmem) h.raw (fun _ _ hentry => hentry) h.live
      (fun _ hmem => .inl (List.erase_subset hmem)) (List.Perm.refl _) (fun _ hmem => hmem) rfl
  unfold dispatch
  split
  · exact hless
  · rename_i id hid
    split
    · exact hless
    · rename_i ticket hentry
      have hcommand : message.origin = .command ticket := by
        cases horigin : message.origin with
        | raw =>
          have hnone := hapart horigin
          rw [hid] at hnone
          cases hnone.symm.trans hentry
        | command sender =>
          rw [h.ticket_of_answer hmem horigin hid hentry]
      have hentryBefore : w.pending[id]? = some ticket := hentry
      refine ⟨fun command hmem => (h.drawn command hmem).mono (Nat.le_refl _), h.distinct,
        h.raw, hless.sent, ?_, ?_, ?_, ?_, ?_, ?_⟩
      · exact fun other otherTicket hother => h.live other otherTicket (pending_of_erase hother)
      · intro other otherTicket hother hanswered
        obtain rfl | hanswered := List.mem_cons.mp hanswered
        · have hsame := (h.entry hentryBefore).1.trans (h.entry (pending_of_erase hother)).1.symm
          simp [hsame] at hother
        · exact h.expecting other otherTicket (pending_of_erase hother) hanswered
      · intro reply hreply
        obtain rfl | hreply := List.mem_cons.mp hreply
        · exact hcommand
        · exact h.own reply hreply
      · exact List.nodup_cons.mpr ⟨h.expecting id ticket hentryBefore, h.once⟩
      · intro other hother
        obtain rfl | hother := List.mem_cons.mp hother
        · exact (h.entry hentryBefore).2
        · exact h.old other hother
      · intro command hpreparing
        obtain ⟨hunanswered, hnone⟩ := h.fresh command hpreparing
        refine ⟨fun hanswered => ?_, fun other hother => hnone other (pending_of_erase hother)⟩
        obtain heq | hanswered := List.mem_cons.mp hanswered
        · exact hnone id (heq ▸ hentryBefore)
        · exact hunanswered hanswered

/-- A step of raw messages, of the tasks or of the shutdown: it may clear the entries. -/
theorem RoutingInv.of_frame (h : w.RoutingInv) (hpreparing : u.preparing = w.preparing)
    (hregistered : u.registered = w.registered)
    (hraw : ∀ message, u.holder = some (.raw message) → message.origin = .raw)
    (hpending : u.pending = w.pending ∨ u.pending = ∅)
    (hsent : ∀ message ∈ u.unanswered, message ∈ w.unanswered ∨ message.origin = .raw)
    (hhanded : u.handed = w.handed) (hreceived : u.received = w.received)
    (hticket : u.nextTicket = w.nextTicket) : u.RoutingInv := by
  have hentries (id ticket : Nat) (hentry : u.pending[id]? = some ticket) :
      w.pending[id]? = some ticket := by
    rcases hpending with hpending | hpending
    · rwa [hpending] at hentry
    · simp [hpending] at hentry
  refine h.of_less (hpreparing ▸ List.Sublist.refl _) ?_ hraw hentries ?_ ?_ ?_ ?_ hticket
  · exact fun command hmem => hregistered ▸ hmem
  · exact fun id ticket hentry => hregistered ▸ h.live id ticket (hentries id ticket hentry)
  · intro message hmem
    refine (hsent message hmem).imp_right fun horigin ticket hcommand => ?_
    rw [horigin] at hcommand
    cases hcommand
  · simp [answered, hhanded, hreceived]
  · simp [hhanded, hreceived]

theorem RoutingInv.next (h : w.RoutingInv) (hapart : w.KeepsApart step)
    (hnext : w.next step = some u) : u.RoutingInv := by
  cases step with
  | begin sessionId => exact h.begin (hapart) hnext
  | abandon command =>
    obtain ⟨_, hnext⟩ := Option.ite_none_right_eq_some.mp hnext
    cases hnext
    exact h.abandon command
  | register command =>
    obtain ⟨⟨hmem, hholder⟩, hnext⟩ := Option.ite_none_right_eq_some.mp hnext
    split at hnext
    · cases hnext
      exact h.abandon command
    · cases hnext
      exact h.register hmem hholder
  | write command outcome => exact h.write hnext
  | receive command message => exact h.receive hnext
  | giveUp command => exact h.giveUp hnext
  | answer message => exact h.answer hapart hnext
  | lockRaw message =>
    obtain ⟨⟨hholder, horigin⟩, hnext⟩ := Option.ite_none_right_eq_some.mp hnext
    split at hnext
    · cases hnext
      exact h
    · cases hnext
      refine h.of_frame rfl (by simp [registered, hholder]) ?_ (.inl rfl) (fun _ hmem => .inl hmem)
        rfl rfl rfl
      rintro other ⟨⟩
      exact horigin
  | writeRaw outcome =>
    simp only [CdpTransport.next] at hnext
    split at hnext
    · rename_i message hholder
      cases hnext
      refine h.of_frame rfl (by simp [registered, hholder, putMessage, put]) (by rintro _ ⟨⟩)
        (.inl rfl) ?_ rfl rfl rfl
      intro other hmem
      simp only [putMessage] at hmem
      split at hmem
      · obtain rfl | hmem := List.mem_cons.mp hmem
        · exact .inr (h.raw other hholder)
        · exact .inl hmem
      · exact .inl hmem
    · cases hnext
  | readerEnd how =>
    obtain ⟨_, hnext⟩ := Option.ite_none_right_eq_some.mp hnext
    cases hnext
    refine h.of_frame rfl rfl h.raw ?_ (fun _ hmem => .inl hmem) rfl rfl rfl
    by_cases hhow : how = .finished <;> simp [hhow]
  | lockPing =>
    obtain ⟨⟨_, hholder⟩, hnext⟩ := Option.ite_none_right_eq_some.mp hnext
    split at hnext
    · cases hnext
      exact h.of_frame rfl rfl h.raw (.inl rfl) (fun _ hmem => .inl hmem) rfl rfl rfl
    · cases hnext
      exact h.of_frame rfl (by simp [registered, hholder]) (by rintro _ ⟨⟩) (.inl rfl)
        (fun _ hmem => .inl hmem) rfl rfl rfl
  | writePing outcome =>
    obtain ⟨hholder, hnext⟩ := Option.ite_none_right_eq_some.mp hnext
    cases hnext
    exact h.of_frame rfl (by simp [registered, hholder, put]) (by rintro _ ⟨⟩) (.inl rfl)
      (fun _ hmem => .inl hmem) rfl rfl rfl
  | keepaliveEnd how =>
    obtain ⟨_, hnext⟩ := Option.ite_none_right_eq_some.mp hnext
    cases hnext
    by_cases hholder : w.holder = some .keepalive
    · exact h.of_frame rfl (by simp [registered, hholder]) (by simp [hholder]) (.inl rfl)
        (fun _ hmem => .inl hmem) rfl rfl rfl
    · exact h.of_frame rfl (by simp [registered, hholder]) (by simpa [hholder] using h.raw)
        (.inl rfl) (fun _ hmem => .inl hmem) rfl rfl rfl
  | takeSink =>
    obtain ⟨_, hnext⟩ := Option.ite_none_right_eq_some.mp hnext
    obtain ⟨shutdown, _, rfl⟩ := Option.map_eq_some_iff.mp hnext
    exact h.of_frame rfl rfl h.raw (.inl rfl) (fun _ hmem => .inl hmem) rfl rfl rfl
  | joinKeepalive =>
    obtain ⟨shutdown, _, rfl⟩ := Option.map_eq_some_iff.mp hnext
    refine h.of_frame rfl rfl h.raw ?_ (fun _ hmem => .inl hmem) rfl rfl rfl
    by_cases hfailed : shutdown.failed <;> simp [hfailed]
  | quiesce _ | joinReader | interrupt =>
    obtain ⟨shutdown, _, rfl⟩ := Option.map_eq_some_iff.mp hnext
    exact h.of_frame rfl rfl h.raw (.inl rfl) (fun _ hmem => .inl hmem) rfl rfl rfl

theorem RoutingInv.initial : RoutingInv {} where
  drawn := by simp [registered]
  distinct := List.nodup_nil
  raw := by simp
  sent := by simp
  live := by simp
  expecting := by simp
  own := by simp
  once := List.nodup_nil
  old := by simp [answered]
  fresh := by simp

theorem RoutingInv.repliesOwn (h : w.RoutingInv) : w.RepliesOwn where
  own reply hmem := h.own reply (List.mem_append_right _ hmem)
  once := by
    have hnodup := h.once
    rw [answered, List.map_append] at hnodup
    exact (List.nodup_append.mp hnodup).2.1
  live := h.live

/-- As long as the steps mix up no ids, the answers reach their own callers. -/
theorem replies_own (hrun : Transition.Runs next KeepsApart steps {} v) : v.RepliesOwn :=
  (hrun.keeps (p := RoutingInv) (fun _ _ _ h hapart hnext => h.next hapart hnext)
    RoutingInv.initial).repliesOwn

/-- The message of a front end with the given id, in a session of its own. -/
def frontEndMessage (id : Int) : CdpMessage := { origin := .raw, id, sessionId := some "page" }

/-- A front end has picked another id than a command, and both are answered. -/
theorem replies_own_apart : ∃ v : CdpTransport,
    v.received = [(0, { origin := .command 0, id := 1, sessionId := none })] ∧ v.RepliesOwn := by
  let command : CdpCommand := { ticket := 0, id := 1, sessionId := none }
  have hrun : ([.begin none, .register command, .write command .sent,
      .lockRaw (frontEndMessage 7), .writeRaw .sent, .answer (frontEndMessage 7),
      .answer command.message, .receive command command.message].foldlM
        (fun w step => if KeepsApart w step then next w step else none) {}).map received =
      some [(0, command.message)] := by
    decide
  obtain ⟨v, hv, hreceived⟩ := Option.map_eq_some_iff.mp hrun
  exact ⟨v, hreceived, replies_own (.of_foldlM hv)⟩

/-- A front end may pick the id of a pending command: the command gets its answer. -/
theorem reply_of_front_end : ¬∀ (steps : List CdpStep) (v : CdpTransport),
    Transition.Free next steps {} v → v.RepliesOwn := by
  intro h
  let command : CdpCommand := { ticket := 0, id := 1, sessionId := none }
  have hrun : Transition.Free next [.begin none, .register command, .write command .sent,
      .lockRaw (frontEndMessage 1), .writeRaw .sent, .answer (frontEndMessage 1),
      .receive command (frontEndMessage 1)] {} _ :=
    .of_foldlM rfl
  have hown := (h _ _ hrun).own (0, frontEndMessage 1) (by decide)
  cases hown

end CdpTransport

end AgentBrowser
