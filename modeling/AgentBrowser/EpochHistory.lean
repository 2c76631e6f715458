import AgentBrowser.GateContract

namespace AgentBrowser
set_option autoImplicit true

theorem GateHistory.tail (h : GateHistory (new :: past)) : GateHistory past := by
  cases h with
  | cons hp _ => exact hp

theorem GateHistory.suffix (h : GateHistory is) (hs : is' <:+ is) : GateHistory is' := by
  induction is with
  | nil =>
    rw [List.suffix_nil.mp hs]
    exact .nil
  | cons new past ih =>
    rcases List.suffix_cons_iff.mp hs with he | hs
    · exact he ▸ h
    · exact ih h.tail hs

/-- A move that does not begin an epoch continues the newest one. -/
theorem GateMove.continues (h : GateMove past new) :
    (∀ old ∈ past, old.epoch ≠ new.epoch) ∨
      ∃ old rest, past = old :: rest ∧ old.clean = false ∧ new.epoch = old.epoch := by
  cases h with
  | fresh _ name _ _ => exact .inl name
  | advance old s next last dirty _ _ made =>
    obtain ⟨rest, hp⟩ := List.head?_eq_some_iff.mp last
    exact .inr ⟨old, rest, hp, dirty, by rw [made]⟩
  | finish old last dirty made =>
    obtain ⟨rest, hp⟩ := List.head?_eq_some_iff.mp last
    exact .inr ⟨old, rest, hp, dirty, by rw [made]⟩

/-- Nothing follows a finished record in its epoch. -/
theorem GateHistory.finished_last (h : GateHistory (new :: past)) (ho : old ∈ past)
    (hc : old.clean = true) : old.epoch ≠ new.epoch := by
  induction past generalizing new with
  | nil => cases ho
  | cons last rest ih =>
    cases h with
    | cons hp hm =>
      rcases hm.continues with hname | ⟨last', rest', hpast, hdirty, he⟩
      · exact hname old ho
      · cases hpast
        rw [he]
        rcases List.mem_cons.mp ho with rfl | ho
        · rw [hc] at hdirty
          cases hdirty
        · exact ih hp ho

/-- Once another epoch has been recorded an older one never returns. -/
theorem GateHistory.left_behind (h : GateHistory (new :: past)) (hm : mid :: older <:+ past)
    (hne : mid.epoch ≠ new.epoch) (ho : old ∈ older) : old.epoch ≠ new.epoch := by
  induction past generalizing new with
  | nil => exact absurd (List.suffix_nil.mp hm) (List.cons_ne_nil _ _)
  | cons last rest ih =>
    cases h with
    | cons hp hmove =>
      rcases hmove.continues with hname | ⟨last', rest', hpast, _, he⟩
      · exact hname old (hm.subset (List.mem_cons_of_mem _ ho))
      · cases hpast
        rw [he] at hne ⊢
        rcases List.suffix_cons_iff.mp hm with hcons | hm
        · cases hcons
          exact absurd rfl hne
        · exact ih hp hm hne

/-- An epoch without a scope stays at stage 0. -/
def GateState.stage (st : GateState) : Nat := (st.scope.map (·.stage)).getD 0

/-- What stays the same in one epoch: the target and the journey. -/
def GateState.course (st : GateState) : Option (String × List String) :=
  st.scope.map fun s => (s.targetId, s.journey)

/-- The stages reached within an epoch, newest first. -/
def reached : List GateState → List (String × Nat)
  | new :: old :: rest =>
    if new.epoch = old.epoch ∧ new.stage ≠ old.stage then
      (new.epoch, new.stage) :: reached (old :: rest)
    else reached (old :: rest)
  | _ => []

/-- One record follows another in its epoch with the same scope, or one stage on. -/
def NextStage (old new : GateState) : Prop :=
  new.scope = old.scope ∨ ∃ s next, old.scope = some s ∧ s.journey[s.stage + 1]? = some next ∧
    new.scope = some { s with stage := s.stage + 1, identityDigest := next }

/-- The course of a private journey through the records of a gate. -/
structure JourneyLaw (is : List GateState) : Prop where
  course : ∀ new old, [new, old].Sublist is → new.epoch = old.epoch →
    new.course = old.course ∧ old.stage ≤ new.stage
  steps : ∀ newer new old older, is = newer ++ new :: old :: older → new.epoch = old.epoch →
    NextStage old new
  digest : ∀ st ∈ is, ∀ s, st.scope = some s → s.journey ≠ [] →
    s.journey[s.stage]? = some s.identityDigest
  once : (reached is).Nodup

theorem GateMove.nextStage (h : GateMove (old :: past) new) (he : new.epoch = old.epoch) :
    NextStage old new := by
  cases h with
  | fresh _ name _ _ => exact absurd he.symm (name old List.mem_cons_self)
  | advance old' s next last _ scope journey made =>
    cases last
    exact .inr ⟨s, next, scope, journey, by rw [made]⟩
  | finish old' last _ made =>
    cases last
    exact .inl (by rw [made])

theorem NextStage.course (h : NextStage old new) : new.course = old.course := by
  rcases h with h | ⟨s, next, hs, _, hn⟩
  · rw [GateState.course, h]
    rfl
  · rw [GateState.course, GateState.course, hs, hn]
    rfl

theorem NextStage.stage_eq (h : NextStage old new) :
    new.stage = old.stage ∨ new.stage = old.stage + 1 := by
  rcases h with h | ⟨s, next, hs, _, hn⟩
  · left
    rw [GateState.stage, h]
    rfl
  · right
    rw [GateState.stage, GateState.stage, hs, hn]
    rfl

/-- Within an epoch every older record has the newest one's course and no later stage. -/
theorem GateHistory.older (h : GateHistory (new :: past)) (ho : old ∈ past)
    (he : new.epoch = old.epoch) : new.course = old.course ∧ old.stage ≤ new.stage := by
  induction past generalizing new with
  | nil => cases ho
  | cons last rest ih =>
    cases h with
    | cons hp hm =>
      rcases hm.continues with hname | ⟨last', rest', hpast, _, hl⟩
      · exact absurd he.symm (hname old ho)
      · cases hpast
        have hn := hm.nextStage hl
        have hle : last.stage ≤ new.stage := by
          rcases hn.stage_eq with hs | hs <;> omega
        rcases List.mem_cons.mp ho with rfl | ho
        · exact ⟨hn.course, hle⟩
        · obtain ⟨hc, hlo⟩ := ih hp ho (hl.symm.trans he)
          exact ⟨hn.course.trans hc, Nat.le_trans hlo hle⟩

theorem reached_mem (h : (e, k) ∈ reached is) : ∃ st ∈ is, st.epoch = e ∧ st.stage = k := by
  induction is with
  | nil => cases h
  | cons new past ih =>
    cases past with
    | nil => cases h
    | cons old rest =>
      simp only [reached] at h
      split at h
      · rcases List.mem_cons.mp h with hx | h
        · cases hx
          exact ⟨new, List.mem_cons_self, rfl, rfl⟩
        · obtain ⟨st, hst, hx⟩ := ih h
          exact ⟨st, List.mem_cons_of_mem _ hst, hx⟩
      · obtain ⟨st, hst, hx⟩ := ih h
        exact ⟨st, List.mem_cons_of_mem _ hst, hx⟩

theorem GateHistory.reached_nodup (h : GateHistory is) : (reached is).Nodup := by
  induction is with
  | nil => exact List.nodup_nil
  | cons new past ih =>
    cases past with
    | nil => exact List.nodup_nil
    | cons old rest =>
      simp only [reached]
      split
      · rename_i hs
        apply List.nodup_cons.mpr
        apply And.intro _ (ih h.tail)
        intro hmem
        obtain ⟨st, hst, he, hk⟩ := reached_mem hmem
        have hlt : old.stage < new.stage := by
          have hle := (h.older List.mem_cons_self hs.1).2
          omega
        have hst' : st.stage ≤ old.stage := by
          rcases List.mem_cons.mp hst with rfl | hst
          · exact Nat.le_refl _
          · exact (h.tail.older hst (hs.1.symm.trans he.symm)).2
        omega
      · exact ih h.tail

theorem GateHistory.digest (h : GateHistory is) (hst : st ∈ is) (hs : st.scope = some s)
    (hj : s.journey ≠ []) : s.journey[s.stage]? = some s.identityDigest := by
  induction h generalizing st s with
  | nil => cases hst
  | cons hp hm ih =>
    rcases List.mem_cons.mp hst with rfl | hst
    · cases hm with
      | fresh _ _ _ scope =>
        have hv := (scope s hs).1
        simp only [PrivateScope.valid, Bool.and_eq_true, Bool.not_eq_true',
          Bool.or_eq_false_iff] at hv
        have hv' := hv.1.2
        simp [hj] at hv'
        exact hv'.1
      | advance old s' next last _ scope journey made =>
        rw [made] at hs
        cases hs
        exact journey
      | finish old last _ made =>
        rw [made] at hs
        exact ih (List.mem_of_mem_head? last) hs hj
    · exact ih hst hs hj

theorem GateHistory.journeyLaw (h : GateHistory is) : JourneyLaw is where
  course new old hsub he := by
    induction h with
    | nil => cases hsub
    | cons hp hm ih =>
      cases hsub with
      | cons _ hsub => exact ih hsub
      | cons_cons _ hsub =>
        exact (GateHistory.cons hp hm).older (List.singleton_sublist.mp hsub) he
  steps newer new old older hi he := by
    have hh : GateHistory (new :: old :: older) := h.suffix (hi ▸ List.suffix_append _ _)
    cases hh with
    | cons _ hm => exact hm.nextStage he
  digest st hst s hs hj := h.digest hst hs hj
  once := h.reached_nodup

end AgentBrowser
