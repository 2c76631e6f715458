import AgentBrowser.DaemonFiles
import Mathlib.Data.List.Infix


namespace AgentBrowser
set_option autoImplicit true

namespace DaemonOp

def ofStartup : DaemonOp → Bool
  | .prepare | .bind _ | .identify | .startStream _ => true
  | _ => false

def binds : DaemonOp → Option UnixSocketIdentity
  | .bind identity => some identity
  | _ => none

/-- The file written or removed without a look at who owns the session's files. -/
def unguarded : DaemonOp → Option DaemonFile
  | .writeExecutableSha => some .executableSha
  | .removeStreamFile => some .stream
  | .writeSidecar file _ => some file
  | .removeSidecar file => some file
  | _ => none

end DaemonOp

def Daemon.writes (daemon : Daemon) : DaemonOp → Option DaemonFile
  | .prepare => daemon.startup.head?.bind fun
    | .write file => some file
    | _ => none
  | .bind _ => some .socket
  | .startStream port => port.map fun _ => .stream
  | .writeExecutableSha => some .executableSha
  | .writeSidecar file _ => some file
  | _ => none

namespace SessionDirectory
variable (w : SessionDirectory)

abbrev OwnedBy (d : Nat) (file : DaemonFile) : Prop := (w.files file).map (·.writer) = some d

abbrev Bound (d : Nat) : Prop := (w.boundTo d).isSome

def removals (d : Nat) : Option (List DaemonFile) := w.daemons[d]?.bind (·.removals)

abbrev AwaitsCheck (d : Nat) : Prop := w.removals d = none

/-- What daemon `d` found to be its own and has yet to remove. -/
def pending (d : Nat) : List DaemonFile := (w.removals d).getD []

def writes (d : Nat) (op : DaemonOp) : Option DaemonFile :=
  w.daemons[d]?.bind fun daemon => daemon.writes op

section Conditions
variable (old replacement d : Nat) (op : DaemonOp)

/-- The old daemon takes the identity of its own socket for its own. -/
abbrev KnowsItself : Prop := d = old → op = .identify → w.OwnedBy old .socket

/-- What the old daemon writes or removes unasked is not the bound replacement's. -/
abbrev KeepsOff : Prop :=
  d = old → ∀ file ∈ op.unguarded, w.Bound replacement → ¬ w.OwnedBy replacement file

/-- The old daemon's identity is not given out again before the old daemon has checked. -/
abbrev FreshIdentity : Prop :=
  d ≠ old → ∀ identity ∈ op.binds, w.AwaitsCheck old → w.boundTo old ≠ some identity

/-- The replacement binds while none of its files is among those the old daemon found its own. -/
abbrev BindsClear : Prop :=
  d = replacement → op.binds.isSome →
    ∀ file ∈ w.pending old, file ≠ .socket ∧ ¬ w.OwnedBy replacement file

/-- The bound replacement writes nothing that the old daemon has yet to remove. -/
abbrev WritesClear : Prop :=
  d = replacement → w.Bound replacement →
    ∀ file ∈ w.writes replacement op, file ∉ w.pending old

end Conditions

/-- When a step leaves the replacement's files to the replacement. -/
def Spares (old replacement : Nat) (w : SessionDirectory) : SessionStep → Prop
  | .cli _ => True
  | .daemon d op =>
    w.KnowsItself old d op ∧ w.KeepsOff old replacement d op ∧ w.FreshIdentity old d op ∧
      w.BindsClear old replacement d op ∧ w.WritesClear old replacement d op

instance : Decidable (w.KnowsItself old d op) := inferInstance
instance : Decidable (w.KeepsOff old replacement d op) := inferInstance
instance : Decidable (w.FreshIdentity old d op) := inferInstance
instance : Decidable (w.BindsClear old replacement d op) := inferInstance
instance : Decidable (w.WritesClear old replacement d op) := inferInstance

instance : Decidable (Spares old replacement w step) :=
  match step with
  | .cli _ => inferInstanceAs (Decidable True)
  | .daemon d op => inferInstanceAs (Decidable (w.KnowsItself old d op ∧
    w.KeepsOff old replacement d op ∧ w.FreshIdentity old d op ∧
    w.BindsClear old replacement d op ∧ w.WritesClear old replacement d op))

end SessionDirectory

theorem startup_binds_once (h : .bind :: rest <:+ startupSteps cold) : .bind ∉ rest := by
  have hrest : ∀ steps ∈ (startupSteps cold).tails, steps.head? = some .bind →
      .bind ∉ steps.tail := by
    cases cold <;> decide
  exact hrest _ ((List.mem_tails _ _).mpr h) rfl

theorem startup_writes_no_socket (h : steps <:+ startupSteps cold) : .write .socket ∉ steps := by
  have hnot : .write .socket ∉ startupSteps cold := by cases cold <;> decide
  exact fun hmem => hnot (h.mem hmem)

namespace Daemon
variable {daemon daemon' : Daemon} {w : SessionDirectory}

/-- The daemon is somewhere in its startup, and past the binding once it is bound. -/
structure Ordered (daemon : Daemon) : Prop where
  suffix : daemon.startup <:+ startupSteps daemon.cold
  once : .bind ∈ daemon.startup → daemon.boundTo = none

/-- A daemon binds its socket once; otherwise it keeps to the other files. -/
theorem take_bind (hordered : daemon.Ordered)
    (h : daemon.take self w op = some (daemon', operation)) :
    (∃ identity, op = .bind identity ∧ daemon.boundTo = none ∧ daemon'.boundTo = some identity ∧
      w.files .socket = none ∧ operation = .write .socket "") ∨
    (daemon'.boundTo = daemon.boundTo ∧ ∀ contents, operation ≠ .write .socket contents) := by
  have hwrite := startup_writes_no_socket hordered.suffix
  cases op with
  | bind identity =>
    simp only [take, bindSocket] at h
    split at h
    next rest hstartup =>
      have hunbound := hordered.once (hstartup ▸ List.mem_cons_self)
      have hfree : (w.files .socket).isSome = false → w.files .socket = none := by simp
      have hfailed : daemon.exit.boundTo = daemon.boundTo := rfl
      split at h
      · cases h
        exact .inr ⟨hfailed, nofun⟩
      next hsocket =>
        obtain ⟨-, h⟩ := Option.ite_none_left_eq_some.mp h
        cases h
        exact .inl ⟨identity, rfl, hunbound, rfl, hfree (Bool.not_eq_true _ ▸ hsocket), rfl⟩
    next => cases h
  | _ => grind [DaemonFile.sidecars]

theorem take_startup (h : daemon.take self w op = some (daemon', operation)) :
    daemon'.cold = daemon.cold ∧
      (daemon'.startup = daemon.startup ∧ daemon'.boundTo = daemon.boundTo ∨
        ∃ step, daemon.startup = step :: daemon'.startup ∧
          (daemon'.boundTo = daemon.boundTo ∨ step = .bind)) := by
  cases op <;> grind

theorem take_identity (h : daemon.take self w op = some (daemon', operation)) :
    daemon'.socketIdentity = daemon.socketIdentity ∨
      op = .identify ∧ daemon'.socketIdentity = w.unixSocketIdentity := by
  cases op <;> grind

theorem take_removals (h : daemon.take self w op = some (daemon', operation)) :
    daemon'.removals = daemon.removals ∨
    (daemon.removals = none ∧ daemon'.removals =
      some (if daemon.ownsSessionArtifacts w then DaemonFile.all else []) ∧ operation = .none) ∨
    ∃ file rest, daemon.removals = some (file :: rest) ∧ daemon'.removals = some rest := by
  cases op <;> grind

theorem take_write (h : daemon.take self w op = some (daemon', .write file contents)) :
    daemon.writes op = some file := by
  cases op <;> grind [Daemon.writes]

/-- After the startup a daemon removes what it found its own, or acts unasked. -/
theorem take_later (h : daemon.take self w op = some (daemon', operation))
    (hop : op.ofStartup = false) :
    operation = .none ∨
    (∃ file rest, daemon.removals = some (file :: rest) ∧ operation = .remove file) ∨
    ∃ file, op.unguarded = some file ∧
      (operation = .remove file ∨ ∃ contents, operation = .write file contents) := by
  cases op <;> grind [DaemonOp.unguarded, DaemonOp.ofStartup]

theorem take_ordered (hordered : daemon.Ordered)
    (h : daemon.take self w op = some (daemon', operation)) : daemon'.Ordered := by
  obtain ⟨hcold, ⟨hstartup, hbound⟩ | ⟨step, hstartup, hbound⟩⟩ := take_startup h
  · exact ⟨hcold ▸ hstartup ▸ hordered.suffix, hstartup ▸ hbound ▸ hordered.once⟩
  · have hsuffix : step :: daemon'.startup <:+ startupSteps daemon.cold :=
      hstartup ▸ hordered.suffix
    refine ⟨hcold ▸ (List.suffix_cons _ _).trans hsuffix, fun hbind => ?_⟩
    rcases hbound with hbound | rfl
    · exact hbound ▸ hordered.once (hstartup ▸ List.mem_cons_of_mem _ hbind)
    · exact absurd hbind (startup_binds_once hsuffix)

theorem spawned_ordered {build : DaemonBuild} {cold : Bool} :
    (Daemon.spawned build cold).Ordered :=
  ⟨List.suffix_rfl, fun _ => rfl⟩

end Daemon

namespace SessionDirectory
variable {w v : SessionDirectory}

theorem daemonNext_some (h : w.daemonNext d op = some v) :
    ∃ daemon daemon' operation, w.daemons[d]? = some daemon ∧
      daemon.take d w op = some (daemon', operation) ∧ v = w.proceed d daemon' operation := by
  obtain ⟨daemon, hdaemon, h⟩ := Option.bind_eq_some_iff.mp h
  obtain ⟨-, h⟩ := Option.ite_none_left_eq_some.mp h
  obtain ⟨⟨daemon', operation⟩, htake, h⟩ := Option.bind_eq_some_iff.mp h
  exact ⟨daemon, daemon', operation, hdaemon, htake, (Option.some.inj h).symm⟩

theorem getElem?_proceed {d : Nat} (h : w.daemons[d]? = some daemon) :
    (w.proceed d daemon' operation).daemons[e]? =
      if e = d then some daemon' else w.daemons[e]? := by
  obtain ⟨hlt, -⟩ := List.getElem?_eq_some_iff.mp h
  rw [proceed, List.getElem?_set]
  grind

theorem boundTo_proceed {d : Nat} (h : w.daemons[d]? = some daemon) :
    (w.proceed d daemon' operation).boundTo e =
      if e = d then daemon'.boundTo else w.boundTo e := by
  rw [boundTo, getElem?_proceed h]
  split <;> rfl

theorem removals_proceed {d : Nat} (h : w.daemons[d]? = some daemon) :
    (w.proceed d daemon' operation).removals e =
      if e = d then daemon'.removals else w.removals e := by
  rw [removals, getElem?_proceed h]
  split <;> rfl

/-- A file of a daemon's is one it had, or one it writes in this step. -/
theorem ownedBy_proceed (h : (w.proceed d daemon' operation).OwnedBy e file) :
    w.OwnedBy e file ∨ e = d ∧ ∃ contents, operation = .write file contents := by
  have hfiles : (w.operate d operation file).map (·.writer) = some e := h
  cases operation with
  | none => exact .inl h
  | write target contents =>
    rw [operate] at hfiles
    split at hfiles
    next htarget => exact .inr ⟨(Option.some.inj hfiles).symm, contents, htarget ▸ rfl⟩
    next => exact .inl hfiles
  | remove target =>
    rw [operate] at hfiles
    split at hfiles
    · cases hfiles
    · exact .inl hfiles

/-- The old daemon knows its socket, and no other socket at the path passes for it. -/
structure Identified (old : Nat) (w : SessionDirectory) : Prop where
  ordered : ∀ daemon ∈ w.daemons, daemon.Ordered
  own : ∀ daemon, w.daemons[old]? = some daemon →
    ∀ identity, daemon.socketIdentity = some identity → daemon.boundTo = some identity
  alone : w.AwaitsCheck old → ∀ d identity, w.OwnedBy d .socket →
    w.boundTo d = some identity → w.boundTo old = some identity → d = old

theorem identified_empty : Identified old empty where
  ordered _ hdaemon := (List.not_mem_nil hdaemon).elim
  own _ hdaemon := by cases hdaemon
  alone _ _ _ _ hbound := by cases hbound

theorem unixSocketIdentity_own (h : w.OwnedBy d .socket) : w.unixSocketIdentity = w.boundTo d := by
  obtain ⟨artifact, hartifact, rfl⟩ := Option.map_eq_some_iff.mp h
  rw [unixSocketIdentity, hartifact, Option.bind_some]

theorem Identified.ordered_at {d : Nat} (h : Identified old w)
    (hdaemon : w.daemons[d]? = some daemon) : daemon.Ordered :=
  h.ordered daemon (List.mem_of_getElem? hdaemon)

theorem Identified.own_daemonNext (h : Identified old w) (hknows : w.KnowsItself old d op)
    (hnext : w.daemonNext d op = some v) : ∀ daemon, v.daemons[old]? = some daemon →
    ∀ identity, daemon.socketIdentity = some identity → daemon.boundTo = some identity := by
  obtain ⟨daemon, daemon', operation, hdaemon, htake, rfl⟩ := daemonNext_some hnext
  intro daemon₁ hdaemon₁ identity hidentity
  rw [getElem?_proceed hdaemon] at hdaemon₁
  split at hdaemon₁
  next heq =>
    subst heq
    cases hdaemon₁
    have hbinds := Daemon.take_bind (h.ordered_at hdaemon) htake
    rcases Daemon.take_identity htake with hsame | ⟨rfl, hread⟩
    · have hbound := h.own daemon hdaemon identity (hsame ▸ hidentity)
      rcases hbinds with ⟨_, _, hunbound, _⟩ | ⟨hkept, _⟩
      · cases hunbound.symm.trans hbound
      · exact hkept.trans hbound
    · rcases hbinds with ⟨_, hbind, _⟩ | ⟨hkept, _⟩
      · cases hbind
      · have hself := unixSocketIdentity_own (hknows rfl rfl)
        rw [boundTo, hdaemon] at hself
        exact hkept.trans (hself.symm.trans (hread.symm.trans hidentity))
  next => exact h.own daemon₁ hdaemon₁ identity hidentity

/-- Only a binding makes a daemon bound, and puts a socket at the path. -/
theorem bound_proceed {d : Nat} (h : Identified old w) (hdaemon : w.daemons[d]? = some daemon)
    (htake : daemon.take d w op = some (daemon', operation)) :
    (∃ identity, op = .bind identity ∧ ¬ w.Bound d ∧ daemon'.boundTo = some identity ∧
      w.files .socket = none ∧ operation = .write .socket "") ∨
    ((∀ contents, operation ≠ .write .socket contents) ∧
      ∀ e, (w.proceed d daemon' operation).boundTo e = w.boundTo e) := by
  have hat : w.boundTo d = daemon.boundTo := by rw [boundTo, hdaemon, Option.bind_some]
  rcases Daemon.take_bind (h.ordered_at hdaemon) htake with
    ⟨identity, rfl, hunbound, hbinds, hfree, hwrite⟩ | ⟨hkept, hsocket⟩
  · refine .inl ⟨identity, rfl, ?_, hbinds, hfree, hwrite⟩
    rw [Bound, hat, hunbound]
    nofun
  · refine .inr ⟨hsocket, fun e => ?_⟩
    rw [boundTo_proceed hdaemon]
    split
    next heq => rw [heq, hat, hkept]
    next => rfl

theorem awaitsCheck_proceed {d : Nat} (hdaemon : w.daemons[d]? = some daemon)
    (htake : daemon.take d w op = some (daemon', operation))
    (h : (w.proceed d daemon' operation).AwaitsCheck e) : w.AwaitsCheck e := by
  rw [AwaitsCheck, removals_proceed hdaemon] at h
  split at h
  next heq =>
    subst heq
    rw [AwaitsCheck, removals, hdaemon, Option.bind_some]
    rcases Daemon.take_removals htake with hkept | ⟨hnone, -⟩ | ⟨_, _, _, hsome⟩
    · exact hkept ▸ h
    · exact hnone
    · cases hsome.symm.trans h
  next => exact h

theorem Identified.alone_daemonNext (h : Identified old w) (hfresh : w.FreshIdentity old d op)
    (hnext : w.daemonNext d op = some v) : v.AwaitsCheck old → ∀ e identity,
    v.OwnedBy e .socket → v.boundTo e = some identity → v.boundTo old = some identity →
    e = old := by
  obtain ⟨daemon, daemon', operation, hdaemon, htake, rfl⟩ := daemonNext_some hnext
  intro hawaits e identity howned hbound hold
  have hawaited := awaitsCheck_proceed hdaemon htake hawaits
  rcases bound_proceed h hdaemon htake with
    ⟨identity', rfl, _, hbinds, hfree, rfl⟩ | ⟨hsocket, hkept⟩
  · rcases ownedBy_proceed howned with hearlier | ⟨rfl, _⟩
    · rw [OwnedBy, hfree] at hearlier
      cases hearlier
    · by_contra hne
      rw [boundTo_proceed hdaemon, if_pos rfl] at hbound
      rw [boundTo_proceed hdaemon, if_neg (Ne.symm hne)] at hold
      exact hfresh hne identity' rfl hawaited (hold.trans (hbound.symm.trans hbinds))
  · rcases ownedBy_proceed howned with hearlier | ⟨_, contents, hwritten⟩
    · exact h.alone hawaited e identity hearlier (hkept e ▸ hbound) (hkept old ▸ hold)
    · exact absurd hwritten (hsocket contents)

theorem Identified.daemonNext (h : Identified old w) (hknows : w.KnowsItself old d op)
    (hfresh : w.FreshIdentity old d op) (hnext : w.daemonNext d op = some v) :
    Identified old v where
  ordered := by
    obtain ⟨daemon, daemon', operation, hdaemon, htake, rfl⟩ := daemonNext_some hnext
    intro daemon₁ hmem
    rcases List.mem_or_eq_of_mem_set hmem with hmem | rfl
    · exact h.ordered daemon₁ hmem
    · exact Daemon.take_ordered (h.ordered_at hdaemon) htake
  own := h.own_daemonNext hknows hnext
  alone := h.alone_daemonNext hfresh hnext

/-- The command line removes files and adds daemons that have bound nothing. -/
theorem cliNext_some (h : w.cliNext op = some v) :
    (v.daemons = w.daemons ∨ ∃ build cold, v.daemons = w.daemons ++ [.spawned build cold]) ∧
      ∀ file, v.files file = w.files file ∨ v.files file = none := by
  have hremove : ∀ target file, w.operate 0 (.remove target) file = w.files file ∨
      w.operate 0 (.remove target) file = none := by grind [operate]
  cases op with
  | removeStale =>
    simp only [cliNext] at h
    split at h
    · cases h
      exact ⟨.inl rfl, hremove _⟩
    · cases h
  | _ => grind [cliNext]

theorem cliNext_ownedBy (h : w.cliNext op = some v) (howned : v.OwnedBy d file) :
    w.OwnedBy d file := by
  rcases (cliNext_some h).2 file with hkept | hgone
  · rw [OwnedBy, ← hkept]
    exact howned
  · rw [OwnedBy, hgone] at howned
    cases howned

theorem cliNext_daemon {d : Nat} (h : w.cliNext op = some v)
    (hdaemon : v.daemons[d]? = some daemon) :
    w.daemons[d]? = some daemon ∨
      w.daemons[d]? = none ∧ ∃ build cold, daemon = .spawned build cold := by
  rcases (cliNext_some h).1 with hsame | ⟨build, cold, hadded⟩
  · exact .inl (hsame ▸ hdaemon)
  · grind

theorem cliNext_boundTo (h : w.cliNext op = some v) : v.boundTo d = w.boundTo d := by
  rcases (cliNext_some h).1 with hsame | ⟨build, cold, hadded⟩
  · rw [boundTo, boundTo, hsame]
  · grind [boundTo, Daemon.spawned]

theorem cliNext_removals (h : w.cliNext op = some v) : v.removals d = w.removals d := by
  rcases (cliNext_some h).1 with hsame | ⟨build, cold, hadded⟩
  · rw [removals, removals, hsame]
  · grind [removals, Daemon.spawned]

theorem Identified.cliNext (h : Identified old w) (hnext : w.cliNext op = some v) :
    Identified old v where
  ordered := by
    intro daemon hmem
    obtain ⟨d, hdaemon⟩ := List.mem_iff_getElem?.mp hmem
    rcases cliNext_daemon hnext hdaemon with hdaemon | ⟨_, build, cold, rfl⟩
    · exact h.ordered daemon (List.mem_of_getElem? hdaemon)
    · exact Daemon.spawned_ordered
  own := by
    intro daemon hdaemon identity hidentity
    rcases cliNext_daemon hnext hdaemon with hdaemon | ⟨_, build, cold, rfl⟩
    · exact h.own daemon hdaemon identity hidentity
    · cases hidentity
  alone := by
    intro hawaits d identity howned hbound hold
    rw [AwaitsCheck, cliNext_removals hnext] at hawaits
    rw [cliNext_boundTo hnext] at hbound hold
    exact h.alone hawaits d identity (cliNext_ownedBy hnext howned) hbound hold

theorem Identified.next (h : Identified old w) (hspares : Spares old replacement w step)
    (hnext : w.next step = some v) : Identified old v := by
  cases step with
  | cli op => exact h.cliNext hnext
  | daemon d op => exact h.daemonNext hspares.1 hspares.2.2.1 hnext

/-- The old daemon is bound; a replacement that bound after it has nothing to fear of its exit. -/
structure Succeeded (old replacement : Nat) (w : SessionDirectory) : Prop where
  bound : w.Bound old
  rebound : w.Bound replacement → ¬ w.OwnedBy old .socket
  clear : w.Bound replacement → ∀ file ∈ w.pending old, ¬ w.OwnedBy replacement file

theorem Succeeded.cliNext (h : Succeeded old replacement w) (hnext : w.cliNext op = some v) :
    Succeeded old replacement v where
  bound := by
    rw [Bound, cliNext_boundTo hnext]
    exact h.bound
  rebound := by
    intro hbound howned
    rw [Bound, cliNext_boundTo hnext] at hbound
    exact h.rebound hbound (cliNext_ownedBy hnext howned)
  clear := by
    intro hbound file hfile howned
    rw [Bound, cliNext_boundTo hnext] at hbound
    rw [pending, cliNext_removals hnext] at hfile
    exact h.clear hbound file hfile (cliNext_ownedBy hnext howned)

/-- The old daemon finds nothing its own once a replacement has bound. -/
theorem Succeeded.owns_none (h : Succeeded old replacement w) (hidentified : Identified old w)
    (hbound : w.Bound replacement) (hdaemon : w.daemons[old]? = some daemon)
    (hawaits : daemon.removals = none) : daemon.ownsSessionArtifacts w = false := by
  have hawaits' : w.AwaitsCheck old := by rwa [AwaitsCheck, removals, hdaemon, Option.bind_some]
  rw [Daemon.ownsSessionArtifacts, Option.any_eq_false]
  intro identity hidentity
  rw [unixSocketPathIsOwned, beq_eq_false_iff_ne]
  intro hpath
  obtain ⟨artifact, hartifact, hwriter⟩ := Option.bind_eq_some_iff.mp hpath
  have howned : w.OwnedBy artifact.writer .socket := by rw [OwnedBy, hartifact, Option.map_some]
  have hold : w.boundTo old = some identity := by
    rw [boundTo, hdaemon]
    exact hidentified.own daemon hdaemon identity hidentity
  have hself := hidentified.alone hawaits' artifact.writer identity howned hwriter hold
  exact h.rebound hbound (hself ▸ howned)

theorem Succeeded.pending_daemonNext {d : Nat} (h : Succeeded old replacement w)
    (hidentified : Identified old w) (hbound : w.Bound replacement)
    (hdaemon : w.daemons[d]? = some daemon)
    (htake : daemon.take d w op = some (daemon', operation))
    (hfile : file ∈ (w.proceed d daemon' operation).pending old) : file ∈ w.pending old := by
  rw [pending, removals_proceed hdaemon] at hfile
  split at hfile
  next heq =>
    subst heq
    rw [pending, removals, hdaemon, Option.bind_some]
    rcases Daemon.take_removals htake with hkept | ⟨hnone, hchecked, -⟩ | ⟨first, rest, hhad, hleft⟩
    · exact hkept ▸ hfile
    · rw [hchecked, h.owns_none hidentified hbound hdaemon hnone] at hfile
      cases hfile
    · rw [hleft] at hfile
      rw [hhad]
      exact List.mem_cons_of_mem _ hfile
  next => exact hfile

theorem Succeeded.daemonNext (h : Succeeded old replacement w) (hne : old ≠ replacement)
    (hidentified : Identified old w) (hspares : Spares old replacement w (.daemon d op))
    (hnext : w.daemonNext d op = some v) : Succeeded old replacement v := by
  obtain ⟨-, -, -, hbinds, hwrites⟩ := hspares
  obtain ⟨daemon, daemon', operation, hdaemon, htake, rfl⟩ := daemonNext_some hnext
  rcases bound_proceed hidentified hdaemon htake with
    ⟨identity, rfl, hunbound, hbinds', hfree, rfl⟩ | ⟨hsocket, hkept⟩
  · have hother : old ≠ d := fun heq => hunbound (heq ▸ h.bound)
    have hbound' : w.Bound replacement ∨ d = replacement ∨
        ¬ (w.proceed d daemon' (.write .socket "")).Bound replacement := by
      rw [Bound, Bound, boundTo_proceed hdaemon]
      grind
    constructor
    · rw [Bound, boundTo_proceed hdaemon, if_neg hother]
      exact h.bound
    · intro _ howned
      rcases ownedBy_proceed howned with hearlier | ⟨heq, _⟩
      · rw [OwnedBy, hfree] at hearlier
        cases hearlier
      · exact hother heq
    · intro hafter file hfile howned
      have hpending : file ∈ w.pending old := by
        rw [pending, removals_proceed hdaemon, if_neg hother] at hfile
        exact hfile
      rcases hbound' with hbound | rfl | hnot
      · have hd : replacement ≠ d := fun heq => hunbound (heq ▸ hbound)
        rcases ownedBy_proceed howned with hearlier | ⟨heq, _⟩
        · exact h.clear hbound file hpending hearlier
        · exact hd heq
      · obtain ⟨hsocket, hfree'⟩ := hbinds rfl rfl file hpending
        rcases ownedBy_proceed howned with hearlier | ⟨_, contents, hwritten⟩
        · exact hfree' hearlier
        · cases hwritten
          exact hsocket rfl
      · exact hnot hafter
  · constructor
    · rw [Bound, hkept]
      exact h.bound
    · intro hbound howned
      rw [Bound, hkept] at hbound
      rcases ownedBy_proceed howned with hearlier | ⟨_, contents, hwritten⟩
      · exact h.rebound hbound hearlier
      · exact hsocket contents hwritten
    · intro hbound file hfile howned
      rw [Bound, hkept] at hbound
      have hpending := h.pending_daemonNext hidentified hbound hdaemon htake hfile
      rcases ownedBy_proceed howned with hearlier | ⟨rfl, contents, rfl⟩
      · exact h.clear hbound file hpending hearlier
      · refine hwrites rfl hbound file ?_ hpending
        rw [writes, hdaemon]
        exact Daemon.take_write htake

theorem Succeeded.next (h : Succeeded old replacement w) (hne : old ≠ replacement)
    (hidentified : Identified old w) (hspares : Spares old replacement w step)
    (hnext : w.next step = some v) : Succeeded old replacement v := by
  cases step with
  | cli op => exact h.cliNext hnext
  | daemon d op => exact h.daemonNext hne hidentified hspares hnext

theorem Identified.runs (h : Identified old w)
    (hrun : Transition.Runs SessionDirectory.next (Spares old replacement) steps w v) :
    Identified old v :=
  hrun.keeps (fun _ _ _ hu hspares hnext => hu.next hspares hnext) h

theorem Succeeded.runs (h : Succeeded old replacement w) (hne : old ≠ replacement)
    (hidentified : Identified old w)
    (hrun : Transition.Runs SessionDirectory.next (Spares old replacement) steps w v) :
    Succeeded old replacement v := by
  have hboth := hrun.keeps (p := fun u => Identified old u ∧ Succeeded old replacement u)
    (fun _ _ _ hu hspares hnext =>
      ⟨hu.1.next hspares hnext, hu.2.next hne hu.1 hspares hnext⟩) ⟨hidentified, h⟩
  exact hboth.2

/-- A step of the old daemon's after its startup leaves the files of the bound replacement. -/
theorem Succeeded.files_kept (h : Succeeded old replacement w) (hbound : w.Bound replacement)
    (hop : op.ofStartup = false) (hspares : Spares old replacement w (.daemon old op))
    (hnext : w.daemonNext old op = some v) (howned : w.OwnedBy replacement file) :
    v.files file = w.files file := by
  obtain ⟨daemon, daemon', operation, hdaemon, htake, rfl⟩ := daemonNext_some hnext
  have hunasked := hspares.2.1 rfl
  rcases Daemon.take_later htake hop with rfl | ⟨target, rest, hleft, rfl⟩ |
    ⟨target, htarget, rfl | ⟨contents, rfl⟩⟩
  · rfl
  · have hpending : target ∈ w.pending old := by
      rw [pending, removals, hdaemon, Option.bind_some, hleft]
      exact List.mem_cons_self
    have hne : file ≠ target := fun heq => h.clear hbound target hpending (heq ▸ howned)
    exact if_neg hne
  · have hne : file ≠ target := fun heq => hunasked target htarget hbound (heq ▸ howned)
    exact if_neg hne
  · have hne : file ≠ target := fun heq => hunasked target htarget hbound (heq ▸ howned)
    exact if_neg hne

/-- A session whose first daemon is started, and one whose stale daemon is replaced. -/
def started : List SessionStep :=
  List.flatten [[.cli (.acquire false false)], List.replicate 5 (.cli .removeStale),
    [.cli (.spawn ⟨"0.1.0", some "5e884898"⟩)], List.replicate 4 (.daemon 0 .prepare),
    [.daemon 0 (.bind ⟨1, 40⟩), .daemon 0 .identify], List.replicate 4 (.daemon 0 .prepare),
    [.daemon 0 (.startStream (some "9222")), .cli .release]]

def replaced : List SessionStep :=
  List.flatten [[.daemon 0 .respondExit, .cli (.acquire false true)],
    List.replicate 10 (.cli .removeStale), [.cli (.spawn ⟨"0.2.0", some "6b86b273"⟩)],
    List.replicate 4 (.daemon 1 .prepare), [.daemon 1 (.bind ⟨1, 41⟩), .daemon 1 .identify],
    List.replicate 4 (.daemon 1 .prepare), [.daemon 1 (.startStream (some "9223"))]]

/-- A stale daemon that is done with its own steps before the handoff is answered. -/
def retired : List SessionStep :=
  List.flatten [[.daemon 0 .writeExecutableSha, .daemon 0 .respondExit,
      .daemon 0 .removeStreamFile, .cli (.acquire false true)],
    List.replicate 10 (.cli .removeStale), [.cli (.spawn ⟨"0.2.0", some "6b86b273"⟩)],
    List.replicate 4 (.daemon 1 .prepare), [.daemon 1 (.bind ⟨1, 41⟩), .daemon 1 .identify],
    List.replicate 4 (.daemon 1 .prepare),
    [.daemon 1 (.startStream (some "9223")), .daemon 0 .stopServing]]

end SessionDirectory

end AgentBrowser
