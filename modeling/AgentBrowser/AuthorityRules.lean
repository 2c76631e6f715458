import AgentBrowser.Sequential
import AgentBrowser.AuthorityStore

namespace AgentBrowser
open Durable
set_option autoImplicit true

/-- A failure that depends on what is stored or on the file system. -/
def Failure.OfStore : Failure → Prop
  | .conflict _ | .io _ => True
  | .invalid _ | .overflow => False

attribute [local simp] authorityExec

theorem authorityExec_store (h : authorityExec o c s = some (r, t)) :
    t = s ∨ (∃ path doc, o = .write path doc ∧ t = s.write path doc) ∨
      ∃ path, o = .remove path ∧ t = s.remove path := by
  cases o with
  | now | list directory =>
    cases c <;> simp only [authorityExec, reduceCtorEq, Option.ite_none_right_eq_some,
      Option.some.injEq, Prod.mk.injEq] at h
    all_goals exact .inl (by simp only [h])
  | uuid | «exists» path =>
    cases c <;> simp only [authorityExec, reduceCtorEq, Option.some.injEq, Prod.mk.injEq] at h
    exact .inl h.2.symm
  | read path =>
    cases c <;> simp only [authorityExec, reduceCtorEq, Option.some.injEq, Prod.mk.injEq] at h
    · split at h
      · exact .inl (Prod.mk.inj (Option.some.inj h)).2.symm
      · exact .inl (Prod.mk.inj (Option.some.inj h)).2.symm
    · exact .inl h.2.symm
  | write path doc =>
    cases c <;> simp only [authorityExec, reduceCtorEq, Option.some.injEq, Prod.mk.injEq] at h
    · exact .inr (.inl ⟨path, doc, rfl, h.2.symm⟩)
    · exact .inl h.2.symm
  | remove path =>
    cases c <;> simp only [authorityExec, reduceCtorEq, Option.some.injEq, Prod.mk.injEq] at h
    · split at h
      · exact .inr (.inr ⟨path, rfl, (Prod.mk.inj (Option.some.inj h)).2.symm⟩)
      · exact .inl (Prod.mk.inj (Option.some.inj h)).2.symm
    · exact .inl h.2.symm

/-- The program `p`, run alone from `s`, writes by `G` only and ends with `Q`. -/
abbrev Does (G : AuthorityStore → AuthorityStore → Prop)
    (Q : Except Failure α → AuthorityStore → Prop) (p : AuthorityProg α) (s : AuthorityStore) :
    Prop :=
  p.Alone authorityExec G Q s

section Rules
variable {G : AuthorityStore → AuthorityStore → Prop} {s : AuthorityStore} {path : Path}
  {T : Except Failure β → AuthorityStore → Prop}

theorem utcNow_then {f : Int → AuthorityProg β}
    (h : ∀ t, 0 ≤ t → t ≤ clockLimit → Does G T (f t) s) : Does G T (utcNow >>= f) s := by
  apply Prog.Alone.call_then
  intro c r t hc
  cases c <;> simp only [authorityExec, reduceCtorEq, Option.ite_none_right_eq_some,
    Option.some.injEq, Prod.mk.injEq] at hc
  obtain ⟨⟨hlo, hhi⟩, hr, ht⟩ := hc
  subst hr ht
  exact ⟨.inl rfl, fun a ha => by cases ha; exact h _ hlo hhi, nofun⟩

theorem newUuid_then {f : String → AuthorityProg β} (h : ∀ u, Does G T (f u) s) :
    Does G T (newUuid >>= f) s := by
  apply Prog.Alone.call_then
  intro c r t hc
  cases c <;> simp only [authorityExec, reduceCtorEq, Option.some.injEq, Prod.mk.injEq] at hc
  obtain ⟨hr, ht⟩ := hc
  subst hr ht
  exact ⟨.inl rfl, fun a ha => by cases ha; exact h _, nofun⟩

theorem pathExists_then {f : Bool → AuthorityProg β}
    (h : Does G T (f (s.lookup path).isSome) s) : Does G T (pathExists path >>= f) s := by
  apply Prog.Alone.call_then
  intro c r t hc
  cases c <;> simp only [authorityExec, reduceCtorEq, Option.some.injEq, Prod.mk.injEq] at hc
  obtain ⟨hr, ht⟩ := hc
  subst hr ht
  exact ⟨.inl rfl, fun a ha => by cases ha; exact h, nofun⟩

theorem readFile_then {f : Doc → AuthorityProg β}
    (he : T (.error (.io label)) s)
    (h : ∀ doc, s.lookup path = some doc → Does G T (f doc) s) :
    Does G T (readFile path label >>= f) s := by
  have hread : ∀ c r t, authorityExec (.read path) c s = some (r, t) →
      t = s ∧ (r = .error () ∨ ∃ doc, s.lookup path = some doc ∧ r = .ok doc) := by
    intro c r t hc
    cases c <;> simp only [authorityExec, reduceCtorEq, Option.some.injEq, Prod.mk.injEq] at hc
    · cases hl : s.lookup path with
      | none =>
        simp only [hl, Option.some.injEq, Prod.mk.injEq] at hc
        exact ⟨hc.2.symm, .inl hc.1.symm⟩
      | some doc =>
        simp only [hl, Option.some.injEq, Prod.mk.injEq] at hc
        exact ⟨hc.2.symm, .inr ⟨doc, rfl, hc.1.symm⟩⟩
    · exact ⟨hc.2.symm, .inl hc.1.symm⟩
  apply Prog.Alone.call_then
  intro c r t hc
  obtain ⟨ht, hr⟩ := hread c r t hc
  subst ht
  refine ⟨.inl rfl, ?_, ?_⟩
  · intro a ha
    rcases hr with hr | ⟨doc, hl, hr⟩
    · rw [hr] at ha
      cases ha
    · rw [hr] at ha
      cases ha
      exact h _ hl
  · intro e hx
    rcases hr with hr | ⟨doc, hl, hr⟩
    · rw [hr] at hx
      cases hx
      exact he
    · rw [hr] at hx
      cases hx

theorem writePrivateJson_then {f : Unit → AuthorityProg β} (hg : G s (s.write path doc))
    (he : T (.error (.io label)) s) (h : Does G T (f ()) (s.write path doc)) :
    Does G T (writePrivateJson path doc label >>= f) s := by
  apply Prog.Alone.call_then
  intro c r t hc
  cases c <;> simp only [authorityExec, reduceCtorEq, Option.some.injEq, Prod.mk.injEq] at hc
  · obtain ⟨hr, ht⟩ := hc
    subst hr ht
    exact ⟨.inr hg, fun a _ => h, nofun⟩
  · obtain ⟨hr, ht⟩ := hc
    subst hr ht
    exact ⟨.inl rfl, nofun, fun e hx => by cases hx; exact he⟩

theorem writePrivateJson_does {Q : Except Failure Unit → AuthorityStore → Prop}
    (hg : G s (s.write path doc)) (he : Q (.error (.io label)) s)
    (h : Q (.ok ()) (s.write path doc)) : Does G Q (writePrivateJson path doc label) s := by
  intro s' hs _ c r t hc
  subst hs
  cases c <;> simp only [authorityExec, reduceCtorEq, Option.some.injEq, Prod.mk.injEq] at hc
  · obtain ⟨hr, ht⟩ := hc
    subst hr ht
    exact ⟨trivial, .inr hg, Prog.Alone.ofExcept h⟩
  · obtain ⟨hr, ht⟩ := hc
    subst hr ht
    exact ⟨trivial, .inl rfl, Prog.Alone.ofExcept he⟩

theorem removeFile_then {f : Unit → AuthorityProg β}
    (hg : (s.lookup path).isSome → G s (s.remove path))
    (he : T (.error (.io label)) s)
    (h : (s.lookup path).isSome → Does G T (f ()) (s.remove path)) :
    Does G T (removeFile path label >>= f) s := by
  apply Prog.Alone.call_then
  intro c r t hc
  cases c with
  | ok =>
    simp only [authorityExec] at hc
    cases hl : s.lookup path with
    | none =>
      rw [hl] at hc
      cases hc
      exact ⟨.inl rfl, nofun, fun e hx => by cases hx; exact he⟩
    | some doc =>
      rw [hl] at hc
      cases hc
      have hs : (s.lookup path).isSome := by rw [hl]; rfl
      exact ⟨.inr (hg hs), fun a _ => h hs, nofun⟩
  | refuse =>
    cases hc
    exact ⟨.inl rfl, nofun, fun e hx => by cases hx; exact he⟩
  | time t => cases hc
  | id u => cases hc
  | listing names => cases hc

theorem removeFile_does {Q : Except Failure Unit → AuthorityStore → Prop}
    (hg : G s (s.remove path)) (he : Q (.error (.io label)) s) (h : Q (.ok ()) (s.remove path)) :
    Does G Q (removeFile path label) s := by
  intro s' hs _ c r t hc
  subst hs
  have hanswer : .ok () = r ∧ s.remove path = t ∨ .error () = r ∧ s = t := by
    cases c <;> simp only [authorityExec, reduceCtorEq, Option.some.injEq, Prod.mk.injEq] at hc
    · split at hc
      · exact .inl (Prod.mk.inj (Option.some.inj hc))
      · exact .inr (Prod.mk.inj (Option.some.inj hc))
    · exact .inr hc
  rcases hanswer with ⟨rfl, rfl⟩ | ⟨rfl, rfl⟩
  · exact ⟨trivial, .inr hg, Prog.Alone.ofExcept h⟩
  · exact ⟨trivial, .inl rfl, Prog.Alone.ofExcept he⟩

theorem readDir_then {f : List Bytes → AuthorityProg β}
    (he : T (.error (.io label)) s)
    (h : ∀ names, names.Perm (s.names path) → Does G T (f names) s) :
    Does G T (readDir path label >>= f) s := by
  apply Prog.Alone.call_then
  intro c r t hc
  cases c <;> simp only [authorityExec, reduceCtorEq, Option.some.injEq, Prod.mk.injEq,
    Option.ite_none_right_eq_some, List.isPerm_iff] at hc
  · obtain ⟨hr, ht⟩ := hc
    subst hr ht
    exact ⟨.inl rfl, nofun, fun e hx => by cases hx; exact he⟩
  · obtain ⟨hp, hr, ht⟩ := hc
    subst hr ht
    exact ⟨.inl rfl, fun a ha => by cases ha; exact h _ hp, nofun⟩

theorem orInvalid_then {x : Except String α} {f : α → AuthorityProg β}
    (he : ∀ m, x = .error m → T (.error (.invalid m)) s)
    (h : ∀ a, x = .ok a → Does G T (f a) s) : Does G T (orInvalid x >>= f) s := by
  cases x with
  | ok a => exact h a rfl
  | error m => exact .fail (he m rfl)

theorem orConflict_then {x : Except String α} {f : α → AuthorityProg β}
    (he : ∀ m, x = .error m → T (.error (.conflict m)) s)
    (h : ∀ a, x = .ok a → Does G T (f a) s) :
    Does G T (orConflict x >>= f) s := by
  cases x with
  | ok a => exact h a rfl
  | error m => exact .fail (he m rfl)

/-- A file is absent, or holds a document of the wanted kind, or the call fails. -/
theorem readOptionalDoc_then {kind : Doc → Option α} {con : α → Doc}
    {f : Option α → AuthorityProg β} (hk : ∀ doc a, kind doc = some a → doc = con a)
    (he : ∀ e : Failure, e.OfStore → T (.error e) s)
    (h : ∀ found, s.lookup path = found.map con → Does G T (f found) s) :
    Does G T (readOptionalDoc kind path label invalid >>= f) s := by
  have hread : Does G (Outcome (fun found t => t = s ∧ s.lookup path = found.map con)
      fun e t => t = s ∧ e.OfStore) (readOptionalDoc kind path label invalid) s := by
    apply pathExists_then
    cases hl : s.lookup path with
    | none =>
      apply Prog.Alone.pure
      exact ⟨rfl, rfl⟩
    | some doc =>
      simp only [Option.isSome_some, if_true]
      apply readFile_then
      · exact ⟨rfl, trivial⟩
      intro doc' hl'
      rw [hl] at hl'
      cases hl'
      apply Prog.Alone.okOr_then
      · exact fun _ => ⟨rfl, trivial⟩
      intro a ha
      apply Prog.Alone.pure
      exact ⟨rfl, congrArg some (hk doc a ha)⟩
  apply hread.bind
  · intro found t ht
    exact ht.1 ▸ h found ht.2
  · intro e t ht
    exact ht.1 ▸ he e ht.2

theorem readLedger_then {f : Option TaskAuthorityLedger → AuthorityProg β}
    (he : ∀ e : Failure, e.OfStore → T (.error e) s)
    (h : ∀ found, s.lookup path = found.map .ledger → Does G T (f found) s) :
    Does G T (readLedger path >>= f) s := by
  apply readOptionalDoc_then _ he h
  intro doc a ha
  cases doc <;> simp only [Doc.ledger?, reduceCtorEq, Option.some.injEq] at ha
  rw [ha]

theorem readIssuance_then {f : Option TaskAuthorityIssuanceRecord → AuthorityProg β}
    (he : ∀ e : Failure, e.OfStore → T (.error e) s)
    (h : ∀ found, s.lookup path = found.map .issuance → Does G T (f found) s) :
    Does G T (readIssuance path >>= f) s := by
  apply readOptionalDoc_then _ he h
  intro doc a ha
  cases doc <;> simp only [Doc.issuance?, reduceCtorEq, Option.some.injEq] at ha
  rw [ha]

end Rules

section Answers
variable {s : AuthorityStore} {path : Path} {T : Except Failure β → AuthorityStore → Prop}

theorem utcNow_may {f : Int → AuthorityProg β} (h : (f 0).May authorityExec T s) :
    (utcNow >>= f).May authorityExec T s :=
  ⟨.time 0, 0, s, rfl, h⟩

theorem pathExists_may {f : Bool → AuthorityProg β}
    (h : (f (s.lookup path).isSome).May authorityExec T s) :
    (pathExists path >>= f).May authorityExec T s :=
  ⟨.ok, (s.lookup path).isSome, s, rfl, h⟩

theorem writePrivateJson_may {f : Unit → AuthorityProg β}
    (h : (f ()).May authorityExec T (s.write path doc)) :
    (writePrivateJson path doc label >>= f).May authorityExec T s :=
  ⟨.ok, .ok (), s.write path doc, rfl, h⟩

theorem readDir_may {f : List Bytes → AuthorityProg β}
    (h : (f (s.names path)).May authorityExec T s) :
    (readDir path label >>= f).May authorityExec T s := by
  refine ⟨.listing (s.names path), .ok (s.names path), s, ?_, h⟩
  have hp : (s.names path).isPerm (s.names path) = true := List.isPerm_iff.mpr (List.Perm.refl _)
  simp only [authorityExec, hp, if_true]

theorem readOptionalDoc_may {kind : Doc → Option α} {con : α → Doc}
    {f : Option α → AuthorityProg β} (hk : ∀ a, kind (con a) = some a) {found : Option α}
    (hs : s.lookup path = found.map con) (h : (f found).May authorityExec T s) :
    (readOptionalDoc kind path label invalid >>= f).May authorityExec T s := by
  have hread : (readOptionalDoc kind path label invalid).May authorityExec
      (fun r t => r = .ok found ∧ t = s) s := by
    apply pathExists_may
    cases found with
    | none =>
      simp only [hs, Option.map_none, Option.isSome_none, Bool.false_eq_true, if_false]
      exact ⟨rfl, rfl⟩
    | some a =>
      simp only [hs, Option.map_some, Option.isSome_some, if_true]
      refine ⟨.ok, .ok (con a), s, ?_, ?_⟩
      · simp only [authorityExec, hs, Option.map_some]
      · change (Prog.bind (.okOr (kind (con a)) _) _).May authorityExec _ s
        rw [hk a]
        exact ⟨rfl, rfl⟩
  apply hread.bind
  · intro a t ht
    obtain ⟨he, rfl⟩ := ht
    cases he
    exact h
  · exact fun e t ht => nomatch ht.1

theorem readIssuance_may {f : Option TaskAuthorityIssuanceRecord → AuthorityProg β}
    {found : Option TaskAuthorityIssuanceRecord} (hs : s.lookup path = found.map .issuance)
    (h : (f found).May authorityExec T s) : (readIssuance path >>= f).May authorityExec T s :=
  readOptionalDoc_may (fun _ => rfl) hs h

theorem readLedger_may {f : Option TaskAuthorityLedger → AuthorityProg β}
    {found : Option TaskAuthorityLedger} (hs : s.lookup path = found.map .ledger)
    (h : (f found).May authorityExec T s) : (readLedger path >>= f).May authorityExec T s :=
  readOptionalDoc_may (fun _ => rfl) hs h

end Answers

section Answered
variable {s : AuthorityStore} {path : Path} {cs : List AuthorityChoice}

theorem run_orInvalid {x : Except String α} {f : α → AuthorityProg β} (h : x = .ok a) :
    (orInvalid x >>= f).run authorityExec cs s = (f a).run authorityExec cs s := by
  subst h
  rfl

theorem run_orConflict {x : Except String α} {f : α → AuthorityProg β} (h : x = .ok a) :
    (orConflict x >>= f).run authorityExec cs s = (f a).run authorityExec cs s := by
  subst h
  rfl

theorem run_okOr {x : Option α} {f : α → AuthorityProg β} (h : x = some a) :
    (Prog.okOr x e >>= f).run authorityExec cs s = (f a).run authorityExec cs s := by
  subst h
  rfl

theorem run_ensure {f : Unit → AuthorityProg β} (h : c = true) :
    (Prog.ensure c e >>= f).run authorityExec cs s = (f ()).run authorityExec cs s := by
  subst h
  rfl

theorem run_utcNow {f : Int → AuthorityProg β} (hlo : 0 ≤ now) (hhi : now ≤ clockLimit) :
    (utcNow >>= f).run authorityExec (.time now :: cs) s = (f now).run authorityExec cs s := by
  have hanswer : authorityExec .now (.time now) s = some (now, s) := by
    simp only [authorityExec, if_pos (And.intro hlo hhi)]
  change Prog.run authorityExec (.call .now fun t => Prog.bind (.ofExcept (.ok t)) f) _ s = _
  simp only [Prog.run, hanswer]
  rfl

theorem run_readOptionalDoc {kind : Doc → Option α} {con : α → Doc} {f : Option α → AuthorityProg β}
    (hk : ∀ a, kind (con a) = some a) (h : s.lookup path = some (con a)) :
    (readOptionalDoc kind path label invalid >>= f).run authorityExec (.ok :: .ok :: cs) s =
      (f (some a)).run authorityExec cs s := by
  have hanswer : authorityExec (.read path) .ok s = some (.ok (con a), s) := by
    simp only [authorityExec, h]
  change Prog.run authorityExec (.call (.exists path) fun b => Prog.bind (if b = true then _ else _)
    f) _ s = _
  have hexists : authorityExec (.exists path) .ok s = some (true, s) := by
    simp only [authorityExec, h, Option.isSome_some]
  simp only [Prog.run, hexists, if_true]
  change Prog.run authorityExec (.call (.read path) fun r => Prog.bind (Prog.bind _ fun doc =>
    Prog.bind (.okOr (kind doc) _) _) f) _ s = _
  simp only [Prog.run, hanswer]
  change Prog.run authorityExec (Prog.bind (Prog.bind (.okOr (kind (con a)) _) _) f) _ s = _
  rw [hk a]
  rfl

theorem run_readIssuance {f : Option TaskAuthorityIssuanceRecord → AuthorityProg β}
    (h : s.lookup path = some (.issuance record)) :
    (readIssuance path >>= f).run authorityExec (.ok :: .ok :: cs) s =
      (f (some record)).run authorityExec cs s :=
  run_readOptionalDoc (fun _ => rfl) h

theorem run_readLedger {f : Option TaskAuthorityLedger → AuthorityProg β}
    (h : s.lookup path = some (.ledger ledger)) :
    (readLedger path >>= f).run authorityExec (.ok :: .ok :: cs) s =
      (f (some ledger)).run authorityExec cs s :=
  run_readOptionalDoc (fun _ => rfl) h

end Answered

end AgentBrowser
