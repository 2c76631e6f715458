import AgentBrowser.Checks
import AgentBrowser.ReconcileMerge

namespace AgentBrowser
set_option autoImplicit true

inductive ServiceEntitySource where
  | builtin | config | persistedState
  deriving DecidableEq, Repr

/-- A service state with what only the store treats. What a handoff holds is not looked at. -/
structure StoredState (Handoff : Type) where
  state : ServiceState := {}
  remoteViewHandoffs : BTreeMap Handoff := ∅
  profileSources : BTreeMap ServiceEntitySource := ∅
  sitePolicySources : BTreeMap ServiceEntitySource := ∅

/-- What is written of it. -/
structure SavedState (Handoff : Type) where
  state : ServiceState := {}
  remoteViewHandoffs : BTreeMap Handoff := ∅

inductive FileContent (α : Type) where
  | missing
  | unreadable (error : String)
  | invalid (error : String)
  | holds (value : α)

/-- The two files of the store. -/
structure StoreDisk (Handoff : Type) where
  path : String
  registryPath : String
  stateFile : FileContent (SavedState Handoff)
  registry : FileContent (BTreeMap Handoff)

/-- `BTreeMap::extend`. -/
def extendEntries (entries extra : BTreeMap α) : BTreeMap α :=
  mergeEntries (fun _ entry _ => some entry) entries extra

@[simp]
theorem getElem?_extendEntries {entries extra : BTreeMap α} {id : String} :
    (extendEntries entries extra)[id]? = extra[id]?.or entries[id]? := by
  rw [extendEntries, getElem?_mergeEntries]
  cases extra[id]? <;> simp

theorem extendEntries_self {entries : BTreeMap α} : extendEntries entries entries = entries := by
  ext id entry
  simp

theorem extendEntries_empty {extra : BTreeMap α} : extendEntries ∅ extra = extra := by
  ext id entry
  simp

namespace StoredState
variable {Handoff : Type} (stored : StoredState Handoff)

def markPersistedEntitySources : StoredState Handoff :=
  let mark (sources : BTreeMap ServiceEntitySource) (id : String) :=
    sources.insertIfNew id .persistedState
  { stored with
    profileSources := stored.state.profiles.keys.foldl mark stored.profileSources
    sitePolicySources := stored.state.sitePolicies.keys.foldl mark stored.sitePolicySources }

/-- The derived views, and the sources of the shipped policies that come in with them. -/
def refresh : StoredState Handoff :=
  { stored with
    state := refreshDerivedViews stored.state
    sitePolicySources := builtinSitePolicies.foldl
      (fun sources policy =>
        if stored.state.sitePolicies.contains policy.id then sources
        else sources.insert policy.id .builtin)
      stored.sitePolicySources }

def removeBuiltinEntityDefaults : StoredState Handoff :=
  { stored with
    state :=
      { stored.state with
        sitePolicies := stored.state.sitePolicies.filter fun id _ =>
          stored.sitePolicySources[id]? ≠ some .builtin }
    sitePolicySources := stored.sitePolicySources.filter fun _ source => source ≠ .builtin }

end StoredState

namespace SavedState
variable {Handoff : Type}

/-- A state as it is after it is read, with the handoffs of the registry over its own. -/
def opened (saved : SavedState Handoff) (handoffs : BTreeMap Handoff) : StoredState Handoff :=
  let stored : StoredState Handoff :=
    { state := saved.state
      remoteViewHandoffs := extendEntries saved.remoteViewHandoffs handoffs }
  stored.markPersistedEntitySources.refresh

end SavedState

/-- What a save writes. -/
def StoredState.saved {Handoff : Type} (stored : StoredState Handoff) : SavedState Handoff :=
  let normalized := stored.refresh.removeBuiltinEntityDefaults
  { state := normalized.state, remoteViewHandoffs := normalized.remoteViewHandoffs }

/-- The replacement of one of the files. -/
inductive Replacement (Handoff : Type) where
  | registry (handoffs : BTreeMap Handoff)
  | stateFile (saved : SavedState Handoff)

namespace StoreDisk
variable {Handoff : Type} (disk : StoreDisk Handoff)

def loadRegistry : Except String (BTreeMap Handoff) :=
  match disk.registry with
  | .missing => .ok ∅
  | .unreadable error => .error ("Failed to read remote-view handoff registry " ++
      disk.registryPath ++ ": " ++ error)
  | .invalid error => .error ("Invalid remote-view handoff registry JSON " ++
      disk.registryPath ++ ": " ++ error)
  | .holds handoffs => .ok handoffs

def load : Except String (StoredState Handoff) :=
  match disk.stateFile with
  | .unreadable error => .error ("Failed to read service state " ++ disk.path ++ ": " ++ error)
  | .invalid error => .error ("Invalid service state JSON " ++ disk.path ++ ": " ++ error)
  | .missing => do
    let handoffs ← disk.loadRegistry
    if handoffs.isEmpty then .ok {} else .ok (SavedState.opened {} handoffs)
  | .holds saved => do
    let handoffs ← disk.loadRegistry
    .ok (saved.opened handoffs)

def replace : Replacement Handoff → StoreDisk Handoff
  | .registry handoffs => { disk with registry := .holds handoffs }
  | .stateFile saved => { disk with stateFile := .holds saved }

end StoreDisk

/-- The replacements of a save, in order. -/
def StoredState.replacements {Handoff : Type} (stored : StoredState Handoff) :
    List (Replacement Handoff) :=
  [.registry stored.saved.remoteViewHandoffs, .stateFile stored.saved]

/-- The disk after a mutation that got so far: the process stopped or the save failed behind that
many replacements. -/
def StoreDisk.mutate {Handoff : Type} (disk : StoreDisk Handoff)
    (mutator : StoredState Handoff → Except String (α × StoredState Handoff)) (replaced : Nat) :
    StoreDisk Handoff :=
  match disk.load with
  | .error _ => disk
  | .ok before =>
    match mutator before with
    | .error _ => disk
    | .ok (_, after) => (after.replacements.take replaced).foldl StoreDisk.replace disk

/-- What is loaded when only the registry was replaced. -/
def StoreDisk.halfMutated {Handoff : Type} (disk : StoreDisk Handoff)
    (before after : StoredState Handoff) : StoredState Handoff :=
  match disk.stateFile with
  | .holds saved =>
    { before with
      remoteViewHandoffs := extendEntries saved.remoteViewHandoffs after.remoteViewHandoffs }
  | _ =>
    if after.remoteViewHandoffs.isEmpty then {}
    else SavedState.opened {} after.remoteViewHandoffs

section Stops
variable {Handoff : Type} {disk : StoreDisk Handoff} {before after : StoredState Handoff}
  {mutator : StoredState Handoff → Except String (α × StoredState Handoff)}

/-- The handoffs are apart from the rest of the state. -/
theorem opened_handoffs {saved : SavedState Handoff} (handoffs other : BTreeMap Handoff) :
    saved.opened other =
      { saved.opened handoffs with
        remoteViewHandoffs := extendEntries saved.remoteViewHandoffs other } := rfl

/-- The state that a complete save leaves, as it is read back. -/
def StoredState.readBack (after : StoredState Handoff) : StoredState Handoff :=
  { after.saved.opened ∅ with remoteViewHandoffs := after.remoteViewHandoffs }

theorem load_halfMutated (hload : disk.load = .ok before) :
    (disk.replace (.registry after.saved.remoteViewHandoffs)).load =
      .ok (disk.halfMutated before after) := by
  unfold StoreDisk.halfMutated
  cases hfile : disk.stateFile with
  | unreadable error | invalid error =>
    simp only [StoreDisk.load, hfile] at hload
    cases hload
  | missing =>
    simp only [StoreDisk.load, StoreDisk.replace, hfile]
    exact (apply_ite _ _ _ _).symm
  | holds saved =>
    simp only [StoreDisk.load, hfile] at hload
    obtain ⟨handoffs, _, hopened⟩ := Except.bind_eq_ok.mp hload
    obtain rfl := Except.ok.inj hopened
    simp only [StoreDisk.load, StoreDisk.replace, hfile]
    exact congrArg Except.ok (opened_handoffs handoffs _)

theorem load_replaced (disk : StoreDisk Handoff) (after : StoredState Handoff) :
    (after.replacements.foldl StoreDisk.replace disk).load = .ok after.readBack := by
  change Except.ok (after.saved.opened after.saved.remoteViewHandoffs) = _
  rw [opened_handoffs ∅, extendEntries_self]
  rfl

/-- The handoffs of the state file. -/
def StoreDisk.savedHandoffs (disk : StoreDisk Handoff) : BTreeMap Handoff :=
  match disk.stateFile with
  | .holds saved => saved.remoteViewHandoffs
  | _ => ∅

theorem halfMutated_handoffs {id : String} :
    (disk.halfMutated before after).remoteViewHandoffs[id]? =
      after.remoteViewHandoffs[id]?.or disk.savedHandoffs[id]? := by
  unfold StoreDisk.halfMutated StoreDisk.savedHandoffs
  split
  · simp
  · split
    · rename_i hempty
      simp [Std.ExtTreeMap.isEmpty_iff.mp hempty]
    · simp [SavedState.opened, StoredState.markPersistedEntitySources, StoredState.refresh]

/-- Without a state file, only the handoffs tell the states apart. -/
theorem eq_of_missing (hload : disk.load = .ok before) (hmissing : disk.stateFile = .missing)
    (hsame : after.remoteViewHandoffs = before.remoteViewHandoffs) :
    disk.halfMutated before after = before := by
  simp only [StoreDisk.load, hmissing] at hload
  obtain ⟨handoffs, _, hopened⟩ := Except.bind_eq_ok.mp hload
  simp only [StoreDisk.halfMutated, hmissing, hsame]
  split at hopened
  · obtain rfl := Except.ok.inj hopened
    simp
  · rename_i hsome
    obtain rfl := Except.ok.inj hopened
    have hown : (SavedState.opened {} handoffs).remoteViewHandoffs = handoffs :=
      extendEntries_empty
    rw [hown, if_neg hsome]

theorem halfMutated_eq_iff (hload : disk.load = .ok before) :
    disk.halfMutated before after = before ↔ ∀ id : String,
      after.remoteViewHandoffs[id]?.or disk.savedHandoffs[id]? =
        before.remoteViewHandoffs[id]? := by
  have hkept (id : String) := @halfMutated_handoffs _ disk before after id
  simp only [← hkept]
  constructor
  · intro heq id
    rw [heq]
  · intro hhandoffs
    cases hfile : disk.stateFile with
    | unreadable error | invalid error =>
      simp only [StoreDisk.load, hfile] at hload
      cases hload
    | missing =>
      refine eq_of_missing hload hfile (Std.ExtTreeMap.ext_getElem? fun id => ?_)
      rw [← hhandoffs id, halfMutated_handoffs, StoreDisk.savedHandoffs, hfile]
      simp
    | holds saved =>
      simp only [StoreDisk.halfMutated, hfile] at hhandoffs ⊢
      rw [Std.ExtTreeMap.ext_getElem? hhandoffs]

/-- After a mutation that stops or fails, the state is the one before or the mutated one, but for
the handoffs between the two replacements: those of the state file are there with the mutated ones
over them. -/
theorem load_after_mutation (hload : disk.load = .ok before) :
    (∀ error replaced, mutator before = .error error →
      (disk.mutate mutator replaced).load = .ok before) ∧
    ∀ r after, mutator before = .ok (r, after) →
      (disk.mutate mutator 0).load = .ok before ∧
      (disk.mutate mutator 1).load = .ok (disk.halfMutated before after) ∧
      (∀ replaced ≥ 2, (disk.mutate mutator replaced).load = .ok after.readBack) ∧
      (disk.halfMutated before after = before ↔ ∀ id : String,
        after.remoteViewHandoffs[id]?.or disk.savedHandoffs[id]? =
          before.remoteViewHandoffs[id]?) := by
  constructor
  · intro error replaced herror
    simp [StoreDisk.mutate, hload, herror]
  · intro r after hmutator
    have hmutate (replaced : Nat) :
        disk.mutate mutator replaced = (after.replacements.take replaced).foldl .replace disk := by
      simp [StoreDisk.mutate, hload, hmutator]
    refine ⟨?_, ?_, fun replaced hall => ?_, halfMutated_eq_iff hload⟩
    · rw [hmutate]
      exact hload
    · rw [hmutate]
      exact load_halfMutated hload
    · rw [hmutate, List.take_of_length_le hall]
      exact load_replaced disk after

end Stops

def emptyDisk : StoreDisk Unit where
  path := "state.json"
  registryPath := "remote-view-handoffs.json"
  stateFile := .holds {}
  registry := .missing

/-- A browser and the handoff of its view are recorded. -/
def recordHandoff (stored : StoredState Unit) : Except String (Unit × StoredState Unit) :=
  .ok ((), { stored with
    state := { stored.state with browsers := stored.state.browsers.insert "b1" { id := "b1" } }
    remoteViewHandoffs := stored.remoteViewHandoffs.insert "h1" () })

theorem load_after_recordHandoff : ∃ before after,
    recordHandoff before = .ok ((), after) ∧
      (emptyDisk.mutate recordHandoff 1).load = .ok (emptyDisk.halfMutated before after) :=
  ⟨_, _, rfl, ((load_after_mutation rfl).2 () _ rfl).2.1⟩

/-- Between the two replacements there is a handoff of a browser that is not there. -/
theorem handoff_without_browser : ¬∀ (disk : StoreDisk Unit)
    (mutator : StoredState Unit → Except String (Unit × StoredState Unit)) (replaced : Nat)
    (before : StoredState Unit), disk.load = .ok before →
      (disk.mutate mutator replaced).load = .ok before ∨
      (disk.mutate mutator replaced).load = (disk.mutate mutator 2).load := by
  intro h
  let shown (loaded : Except String (StoredState Unit)) : Option (Bool × Bool) :=
    loaded.toOption.map fun stored =>
      (stored.state.browsers.contains "b1", stored.remoteViewHandoffs.contains "h1")
  have hhalf : shown (emptyDisk.mutate recordHandoff 1).load = some (false, true) := by
    decide
  rcases h emptyDisk recordHandoff 1 _ rfl with hbefore | hafter
  · have hshown := congrArg shown hbefore
    rw [hhalf] at hshown
    revert hshown
    decide
  · have hshown := congrArg shown hafter
    rw [hhalf] at hshown
    revert hshown
    decide

end AgentBrowser
