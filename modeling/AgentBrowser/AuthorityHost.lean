import AgentBrowser.Confirmation
import AgentBrowser.AuthorityRules
import AgentBrowser.Restart

namespace AgentBrowser
open Durable
set_option autoImplicit true

/-- What the operating system answers while nothing fails: some time whenever it is asked for,
some new identifiers, and the names of a directory in some order. -/
structure Surroundings where
  clock : Nat → Int
  ids : Nat → String
  order : Nat → List Bytes → List Bytes
  clock_range : ∀ n, 0 ≤ clock n ∧ clock n ≤ clockLimit
  order_perm : ∀ n names, (order n names).Perm names

/-- The files, with the number of answers so far that did not come from them. -/
structure AuthorityHost where
  store : AuthorityStore
  ticks : Nat

namespace AuthorityHost

def write (h : AuthorityHost) (path : Path) (doc : Doc) : AuthorityHost :=
  { h with store := h.store.write path doc }

def remove (h : AuthorityHost) (path : Path) : AuthorityHost :=
  { h with store := h.store.remove path }

def tick (h : AuthorityHost) : AuthorityHost := { h with ticks := h.ticks + 1 }

end AuthorityHost

namespace Surroundings
variable (W : Surroundings)

def answer : Alone AuthorityOp AuthorityOp.Ret AuthorityHost
  | .now, h => (W.clock h.ticks, h.tick)
  | .uuid, h => (W.ids h.ticks, h.tick)
  | .exists path, h => ((h.store.lookup path).isSome, h)
  | .read path, h =>
    (match h.store.lookup path with
      | some doc => .ok doc
      | none => .error (), h)
  | .write path doc, h => (.ok (), h.write path doc)
  | .remove path, h =>
    match h.store.lookup path with
    | some _ => (.ok (), h.remove path)
    | none => (.error (), h)
  | .list directory, h =>
    (.ok (W.order h.ticks (h.store.names directory)), h.tick)

/-- Each answer is one that the operating system can give. -/
theorem answer_possible (o : AuthorityOp) (h : AuthorityHost) :
    ∃ c, authorityExec o c h.store = some ((W.answer o h).1, (W.answer o h).2.store) := by
  cases o with
  | now =>
    refine ⟨.time (W.clock h.ticks), ?_⟩
    simp only [authorityExec, W.clock_range, and_self, if_true]
    rfl
  | uuid => exact ⟨.id (W.ids h.ticks), rfl⟩
  | «exists» path => exact ⟨.ok, rfl⟩
  | read path =>
    refine ⟨.ok, ?_⟩
    cases hd : h.store.lookup path <;> simp only [authorityExec, answer, hd]
  | write path doc => exact ⟨.ok, rfl⟩
  | remove path =>
    refine ⟨.ok, ?_⟩
    cases hd : h.store.lookup path <;>
      simp only [authorityExec, answer, hd, AuthorityHost.remove]
  | list directory =>
    refine ⟨.listing (W.order h.ticks (h.store.names directory)), ?_⟩
    have hp := List.isPerm_iff.mpr (W.order_perm h.ticks (h.store.names directory))
    simp only [authorityExec, hp, if_true]
    rfl

theorem finish_possible (p : AuthorityProg α) (h : AuthorityHost) :
    ∃ choices, p.run authorityExec choices h.store =
      (some (p.finish W.answer h).1, (p.finish W.answer h).2.store) :=
  Prog.finish_run W.answer_possible

section Looking
variable {W} {h : AuthorityHost}

theorem looks_pathExists : (pathExists path).Looks W.answer (.ok found) h ↔
    found = (h.store.lookup path).isSome := by
  constructor
  · intro hl
    cases (hl.2 : Except.ok found = .ok _)
    rfl
  · rintro rfl
    exact ⟨rfl, rfl⟩

theorem looks_readFile : (readFile path label).Looks W.answer (.ok doc) h ↔
    h.store.lookup path = some doc := by
  constructor
  · intro hl
    have hr := Prog.looks_ofExcept_iff.mp hl.2
    simp only [answer] at hr
    cases hd : h.store.lookup path with
    | none =>
      rw [hd] at hr
      cases hr
    | some doc' =>
      rw [hd] at hr
      cases hr
      rfl
  · intro hd
    refine ⟨rfl, Prog.looks_ofExcept_iff.mpr ?_⟩
    simp only [answer, hd]
    rfl

theorem looks_readDoc {kind : Doc → Option α} {con : α → Doc}
    (hk : ∀ doc a, kind doc = some a ↔ doc = con a) :
    (readDoc kind path label invalid).Looks W.answer (.ok a) h ↔
      h.store.lookup path = some (con a) := by
  rw [readDoc, Prog.looks_bind_eq_ok]
  simp only [looks_readFile, Prog.looks_okOr_eq_ok, hk]
  constructor
  · rintro ⟨_, hl, rfl⟩
    exact hl
  · exact fun hl => ⟨_, hl, rfl⟩

theorem looks_orConflict {x : Except String α} :
    (orConflict x).Looks W.answer (.ok a) h ↔ x = .ok a := by
  rw [orConflict, Prog.looks_ofExcept_iff]
  cases x with
  | ok b => exact ⟨fun he => by cases he; rfl, fun he => by cases he; rfl⟩
  | error m => exact ⟨nofun, nofun⟩

theorem looks_readOptionalDoc {kind : Doc → Option α} {con : α → Doc}
    (hk : ∀ doc a, kind doc = some a ↔ doc = con a) {found : Option α} :
    (readOptionalDoc kind path label invalid).Looks W.answer (.ok found) h ↔
      h.store.lookup path = found.map con := by
  rw [readOptionalDoc, Prog.looks_bind_eq_ok]
  simp only [looks_pathExists, exists_eq_left]
  cases hl : h.store.lookup path with
  | none =>
    simp only [Option.isSome_none, Bool.false_eq_true, if_false, Prog.looks_pure_eq_ok]
    cases found <;> simp
  | some doc =>
    simp only [Option.isSome_some, if_true, Prog.looks_bind_eq_ok, looks_readFile, hl,
      Option.some.injEq, exists_eq_left', Prog.looks_okOr_eq_ok, hk, Prog.looks_pure_eq_ok]
    cases found with
    | none => simp
    | some a =>
      constructor
      · rintro ⟨_, rfl, he⟩
        rw [he]
        rfl
      · intro he
        exact ⟨a, Option.some.inj he, rfl⟩

theorem looks_readIssuance : (readIssuance path).Looks W.answer (.ok found) h ↔
    h.store.lookup path = found.map .issuance :=
  looks_readOptionalDoc fun doc a => by cases doc <;> simp [Doc.issuance?]

theorem looks_readLedger : (readLedger path).Looks W.answer (.ok found) h ↔
    h.store.lookup path = found.map .ledger :=
  looks_readOptionalDoc fun doc a => by cases doc <;> simp [Doc.ledger?]

theorem inspects_pathExists : (pathExists path).Inspects W.answer :=
  ⟨fun _ => rfl, fun _ => Prog.inspects_ofExcept _⟩

theorem inspects_readFile : (readFile path label).Inspects W.answer :=
  ⟨fun _ => rfl, fun _ => Prog.inspects_ofExcept _⟩

theorem inspects_orConflict (x : Except String α) : (orConflict x).Inspects W.answer :=
  Prog.inspects_ofExcept _

theorem inspects_readDoc {kind : Doc → Option α} :
    (readDoc kind path label invalid).Inspects W.answer :=
  inspects_readFile.bind fun _ => Prog.inspects_okOr _

theorem inspects_readOptionalDoc {kind : Doc → Option α} :
    (readOptionalDoc kind path label invalid).Inspects W.answer := by
  apply inspects_pathExists.bind
  intro found
  cases found with
  | true => exact inspects_readFile.bind fun _ => (Prog.inspects_okOr _).bind fun _ => trivial
  | false => trivial

end Looking

section Finishing
variable {W} {h t : AuthorityHost}

theorem finish_utcNow : utcNow.finish W.answer h = (.ok now, t) ↔
    now = W.clock h.ticks ∧ t = h.tick := by
  constructor
  · intro hf
    cases (hf : (Except.ok (W.clock h.ticks), h.tick) = _)
    exact ⟨rfl, rfl⟩
  · rintro ⟨rfl, rfl⟩
    rfl

theorem finish_readDir : (readDir directory label).finish W.answer h = (.ok names, t) ↔
    names = W.order h.ticks (h.store.names directory) ∧ t = h.tick := by
  constructor
  · intro hf
    cases (hf : (Except.ok (W.order h.ticks (h.store.names directory)), h.tick) = _)
    exact ⟨rfl, rfl⟩
  · rintro ⟨rfl, rfl⟩
    rfl

theorem finish_write : (writePrivateJson path doc label).finish W.answer h = (.ok u, t) ↔
    t = h.write path doc := by
  constructor
  · intro hf
    cases (hf : (Except.ok (), h.write path doc) = _)
    rfl
  · rintro rfl
    rfl

theorem finish_newUuid : newUuid.finish W.answer h = (.ok uuid, t) ↔
    uuid = W.ids h.ticks ∧ t = h.tick := by
  constructor
  · intro hf
    cases (hf : (Except.ok (W.ids h.ticks), h.tick) = _)
    exact ⟨rfl, rfl⟩
  · rintro ⟨rfl, rfl⟩
    rfl

theorem finish_orInvalid {x : Except String α} :
    (orInvalid x).finish W.answer h = (.ok a, t) ↔ x = .ok a ∧ h = t := by
  rw [orInvalid, Prog.finish_ofExcept]
  cases x with
  | ok b => simp [Except.mapError]
  | error m => simp [Except.mapError]

theorem finish_orConflict {x : Except String α} :
    (orConflict x).finish W.answer h = (.ok a, t) ↔ x = .ok a ∧ h = t := by
  rw [orConflict, Prog.finish_ofExcept]
  cases x with
  | ok b => simp [Except.mapError]
  | error m => simp [Except.mapError]

end Finishing

section Changing
variable {W} {h : AuthorityHost} {I : AuthorityHost → Prop}
  {Q : Except Failure β → AuthorityHost → Prop}

theorem safe_utcNow {f : Int → AuthorityProg β} (hi : I h.tick)
    (hf : (f (W.clock h.ticks)).Safe W.answer I Q h.tick) :
    (utcNow >>= f).Safe W.answer I Q h :=
  ⟨hi, hf⟩

theorem safe_readDir {f : List Bytes → AuthorityProg β} (hi : I h.tick)
    (hf : (f (W.order h.ticks (h.store.names directory))).Safe W.answer I Q h.tick) :
    (readDir directory label >>= f).Safe W.answer I Q h :=
  ⟨hi, hf⟩

theorem safe_write {f : Unit → AuthorityProg β} (hi : I (h.write path doc))
    (hf : (f ()).Safe W.answer I Q (h.write path doc)) :
    (writePrivateJson path doc label >>= f).Safe W.answer I Q h :=
  ⟨hi, hf⟩

theorem safe_remove {f : Unit → AuthorityProg β} (hl : h.store.lookup path = some doc)
    (hi : I (h.remove path)) (hf : (f ()).Safe W.answer I Q (h.remove path)) :
    (removeFile path label >>= f).Safe W.answer I Q h := by
  have hanswer : W.answer (.remove path) h = (.ok (), h.remove path) := by
    simp only [answer, hl]
  change I (W.answer (.remove path) h).2 ∧ _
  rw [hanswer]
  exact ⟨hi, hf⟩

theorem safe_orConflict {x : Except String α} {f : α → AuthorityProg β} (hx : x = .ok a)
    (hf : (f a).Safe W.answer I Q h) : (orConflict x >>= f).Safe W.answer I Q h := by
  subst hx
  exact hf

theorem safe_orInvalid {x : Except String α} {f : α → AuthorityProg β} (hx : x = .ok a)
    (hf : (f a).Safe W.answer I Q h) : (orInvalid x >>= f).Safe W.answer I Q h := by
  subst hx
  exact hf

theorem safe_addU64 {f : UInt64 → AuthorityProg β} {a b c : UInt64}
    (hc : checkedAdd a b = some c) (hf : (f c).Safe W.answer I Q h) :
    (addU64 a b >>= f).Safe W.answer I Q h := by
  rw [addU64, hc]
  exact hf

theorem safe_ensure {c : Bool} {f : Unit → AuthorityProg β} (hc : c = true)
    (hf : (f ()).Safe W.answer I Q h) : (Prog.ensure c e >>= f).Safe W.answer I Q h := by
  subst hc
  exact hf

end Changing

end Surroundings

end AgentBrowser
