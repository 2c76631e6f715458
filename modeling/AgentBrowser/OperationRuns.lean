import AgentBrowser.OperationContract

namespace AgentBrowser
open Durable
set_option autoImplicit true

/-- Task `t` created `name` after the journal was `since`, and nobody had before. -/
def Made (t : Tid) (since journal : List (Tid × Change)) (name : FileName) : Prop :=
  name ∉ createdIn since ∧ (t, .created name) ∈ journal

/-- The phase an operation is in, by the files that were created. -/
def statusIn (journal : List (Tid × Change)) (reference : String) : OperationStatus :=
  if .entry reference .admitted ∈ createdIn journal then
    if .entry reference .result ∈ createdIn journal then .resultReady else .admitted
  else .staged

theorem Made.mono (h : Made t since j name) (hj : j <:+ j') : Made t since j' name :=
  ⟨h.1, hj.subset h.2⟩

section Steps
variable {C : Crypto} {key : Bytes} {t : Tid} {c : OpCmd}

/-- What a call ends with: a value with `Q` of the journal, or a failure. -/
def Ends (t : Tid) (ls : List Lock) (Q : α → List (Tid × Change) → Prop) :
    Except StoreError α → World → Prop :=
  Outcome (fun a w => w.owned t = ls ∧ Q a w.journal) fun _ w => w.owned t = ls

/-- A statement about the journal that later changes cannot make false. -/
def Lasting (Q : List (Tid × Change) → Prop) : Prop := ∀ i j, i <:+ j → Q i → Q j

theorem Lasting.stable (h : Lasting Q) : (opSetting C key t c).Stable fun w => Q w.journal :=
  fun s s' hs hr _ => h s.journal s'.journal (OpRely.grows hr) hs

theorem Lasting.made : Lasting fun j => Made t since j name := fun _ _ hj h => h.mono hj

theorem Lasting.suffix : Lasting (since <:+ ·) := fun _ _ hj h => h.trans hj

theorem Ends.stable {Q : α → List (Tid × Change) → Prop} (h : ∀ a, Lasting (Q a))
    (x : Except StoreError α) : (opSetting C key t c).Stable (Ends t ls Q x) := by
  cases x with
  | ok a => exact owned_stable.and (h a).stable
  | error e => exact owned_stable

theorem locked_flock :
    (opSetting C key t c).Triple (fun w => w.owned t = [] ∧ since <:+ w.journal)
      (flock true (some handle))
      (Outcome (fun l w => w.owned t = [⟨l, t, true, some handle⟩] ∧ since <:+ w.journal)
        fun _ w => w.owned t = []) := by
  apply Setting.Triple.call (owned_stable.and Lasting.suffix.stable)
  · intro s hi hs ch r s' he
    cases ch <;> simp only [opSetting, storeExec, reduceCtorEq, Option.ite_none_left_eq_some,
      Option.some.injEq] at he
    · cases r with
      | error e =>
        have hb : s' = s := by
          simp only [World.flock] at he
          split at he
          · exact absurd he.2 (by simp)
          · cases he.2
            rfl
        rw [hb]
        exact ⟨hi, OpGuar.refl C t c s, hs.1⟩
      | ok l =>
        obtain ⟨hl', hothers, _, ho, _, hd, hj, _⟩ := LockInv.flock hi.toLockInv he.2
        refine ⟨hi.of_locks hl' hd hj, .of_files hothers hd hj, ?_, hj ▸ hs.2⟩
        rw [ho, hs.1]
    · cases he
      exact ⟨hi, OpGuar.refl C t c s, hs.1⟩
  · intro x
    cases x with
    | ok l => exact owned_stable.and Lasting.suffix.stable
    | error e => exact owned_stable

/-- A call under the store's lock starts and ends without it. -/
theorem checkedLock_triple {body : StoreProg α} {Q : α → List (Tid × Change) → Prop}
    (hQ : ∀ a, Lasting (Q a))
    (hbody : ∀ l : Lock, l.exclusive = true → h.key = key → (opSetting C key t c).Triple
      (fun w => w.owned t = [l] ∧ since <:+ w.journal) body (Ends t [l] Q)) :
    (opSetting C key t c).Triple (fun w => w.owned t = [] ∧ since <:+ w.journal)
      (checkedLock h body) (Ends t [] Q) := by
  apply Setting.Reads.then (validDirectory_reads (owned_stable.and Lasting.suffix.stable))
  · intro _ _
    apply Setting.Triple.seq locked_flock
    · intro l
      have hkey : (opSetting C key t c).Triple
          (fun w => w.owned t = [⟨l, t, true, some h.id⟩] ∧ since <:+ w.journal)
          (gateKey h.key >>= fun _ => body) (Ends t [⟨l, t, true, some h.id⟩] Q) := by
        apply Setting.Reads.then (gateKey_reads (owned_stable.and Lasting.suffix.stable)
          fun w hi _ => hi.stored)
        · exact fun _ hk => hbody _ rfl hk
        · exact fun _ _ _ hw => hw.1
      apply Setting.Triple.andThen hkey
      · intro x w hi hw ch r w' he
        cases ch <;> simp only [opSetting, storeExec, reduceCtorEq, Option.some.injEq,
          Prod.mk.injEq, true_and] at he
        subst he
        obtain ⟨hl', hothers, ho⟩ := hi.unlock (t := t) (l := l)
        have hown (hw : w.owned t = [⟨l, t, true, some h.id⟩]) : (w.unlock t l).owned t = [] := by
          rw [ho, hw]
          simp
        refine ⟨hi.of_locks hl' rfl rfl, .of_files hothers rfl rfl, ?_⟩
        cases x with
        | ok a => exact ⟨hown hw.1, hw.2⟩
        | error e => exact hown hw
      · exact Ends.stable hQ
    · exact fun _ _ _ hw => hw
  · exact fun _ _ _ hw => hw.1

/-- Under the lock the directory and the journal are fixed, and agree. -/
theorem locked_intro {body : StoreProg α} {T : Except StoreError α → World → Prop}
    (hl : l.exclusive = true)
    (h : ∀ d j, since <:+ j → (∀ name, name ∈ d ↔ name = .key ∨ name ∈ createdIn j) →
      (opSetting C key t c).Triple (Sole t l fun d' j' => d' = d ∧ j' = j) body T) :
    (opSetting C key t c).Triple (fun w => w.owned t = [l] ∧ since <:+ w.journal) body T :=
  fun w hi hw => h w.dir w.journal hw.2 hi.files w hi ⟨hw.1, hl, rfl, rfl⟩

/-- Under the lock, `names` were created since the call began and `present` are there. -/
def Working (t : Tid) (l : Lock) (since : List (Tid × Change)) (names present : List FileName) :
    World → Prop :=
  Sole t l fun d j => since <:+ j ∧ (∀ n ∈ names, Made t since j n) ∧ ∀ n ∈ present, n ∈ d

theorem create_triple_working (hm : c.mayCreate C name)
    (hneeds : ∀ n, name.needs = some n → n ∈ present) :
    (opSetting C key t c).Triple (Working t l since names present) (create name bytes)
      (Outcome (fun _ => Working t l since (name :: names) []) fun _ w => w.owned t = [l]) := by
  have hstable (names present) : (opSetting C key t c).Stable (Working t l since names present) :=
    Sole.stable
  apply (create_triple (hstable names present) (hstable (name :: names) [])
    (hstable (name :: names) []) ?_ ?_).weaken (fun _ _ h => h) (fun _ _ _ h => h)
  · intro e w _ hw
    rcases hw with hw | hw | hw <;> exact hw.1
  · intro w hi hw hl
    obtain ⟨ho, hx, hsince, hmade, hpresent⟩ := hw
    obtain ⟨hi', hg⟩ := hi.create (c := c) (C := C) (by rw [ho]; exact List.cons_ne_nil _ _) hl
      (fun n hn => hpresent n (hneeds n hn)) hm
    refine ⟨hi', hg, ho, hx, hsince.trans (List.suffix_cons _ _), ?_, nofun⟩
    intro n hn
    rcases List.mem_cons.mp hn with rfl | hn
    · refine ⟨?_, List.mem_cons_self⟩
      intro hc
      apply AList.lookup_eq_none.mp hl
      exact (hi.files n).mpr (.inr (createdIn_mono hsince hc))
    · exact (hmade n hn).mono (List.suffix_cons _ _)
  · intro w b hi hw
    obtain ⟨ho, hx, hsince, hmade, hpresent⟩ := hw
    have hc : name ∈ createdIn w.journal :=
      mem_createdIn.mpr ⟨t, (hmade name List.mem_cons_self).2⟩
    obtain ⟨hi', hg, ho', hj⟩ := OpInv.write (C := C) (c := c) (b := b) hi
      (by rw [ho]; exact List.cons_ne_nil _ _) hc
    have hw' : Working t l since (name :: names) [] (w.write t name b) :=
      ⟨ho'.trans ho, hx, hsince.trans hj, fun n hn => (hmade n hn).mono hj, nofun⟩
    exact ⟨hi', hg, hw', fun _ => hw'⟩

/-- The last step of a call that creates one file. -/
theorem create_ends (hm : c.mayCreate C name) (hj : since <:+ j)
    (hneeds : ∀ n, name.needs = some n → n ∈ d) :
    (opSetting C key t c).Triple (Sole t l fun d' j' => d' = d ∧ j' = j) (create name bytes)
      (Ends t [l] fun _ j => Made t since j name) := by
  apply (@create_triple_working C key t c name name.needs.toList l since [] bytes hm
    fun n hn => by simp [hn]).weaken
  · rintro w _ ⟨ho, hx, rfl, rfl⟩
    refine ⟨ho, hx, hj, nofun, ?_⟩
    intro n hn
    exact hneeds n (by simpa using hn)
  · exact fun _ w _ hw => ⟨hw.1, hw.2.2.2.1 name List.mem_cons_self⟩
  · exact fun _ _ _ hw => hw

section Reading
variable {P : World → Prop} (hp : (opSetting C key t c).Stable P)
include hp

theorem encrypt_any : (opSetting C key t c).Reads P (encrypt C k reference role bytes)
    fun _ => True := by
  apply Setting.Reads.bind (Setting.Reads.ensure hp)
  intro _ _
  apply Setting.Reads.bind (randomNonce_reads hp)
  intro nonce _ s hi hs
  apply (Setting.Reads.okOr hp s hi hs).mono
  exact fun _ _ _ hw => ⟨hw.1, fun _ _ => trivial⟩

theorem checkReservations_reads (list : List (FileName × StoreError)) :
    (opSetting C key t c).Reads P (checkReservations list) fun _ => True := by
  induction list with
  | nil => exact Setting.Reads.pure hp trivial
  | cons x rest ih =>
    apply Setting.Reads.bind (readOptional_any hp)
    intro marker _
    apply Setting.Reads.bind (Setting.Reads.ensure hp)
    exact fun _ _ => ih

theorem decrypt_any : (opSetting C key t c).Reads P (decrypt C k reference role)
    fun _ => True := by
  apply Setting.Reads.bind (Setting.Reads.ensure hp)
  intro _ _
  apply Setting.Reads.bind (readOptional_any hp)
  intro file _
  apply Setting.Reads.bind (Setting.Reads.okOr hp)
  intro envelope _ s hi hs
  apply (Setting.Reads.okOr hp s hi hs).mono
  exact fun _ _ _ hw => ⟨hw.1, fun _ _ => trivial⟩

theorem checkStaged_reads (references seen : List String) :
    (opSetting C key t c).Reads P (checkStaged C k seen references) fun _ => True := by
  induction references generalizing seen with
  | nil => exact Setting.Reads.pure hp trivial
  | cons reference rest ih =>
    apply Setting.Reads.bind (Setting.Reads.ensure hp)
    intro _ _
    apply Setting.Reads.bind (Setting.Reads.ensure hp)
    intro _ _
    apply Setting.Reads.bind (decrypt_any hp)
    exact fun _ _ => ih (reference :: seen)

end Reading

theorem randomReference_keeps :
    (opSetting C key t c).Triple (Sole t l F) randomReference
      (Outcome (fun _ => Sole t l F) fun _ => Sole t l F) := by
  apply Setting.Triple.call Sole.stable
  · intro s hi hs ch r s' he
    cases ch <;> simp only [opSetting, storeExec, reduceCtorEq, Option.ite_none_right_eq_some,
      Option.some.injEq, Prod.mk.injEq] at he
    · obtain ⟨rfl, rfl⟩ := he
      exact ⟨hi, OpGuar.refl C t c s, hs⟩
    · obtain ⟨_, rfl, rfl⟩ := he
      exact ⟨hi.of_locks ⟨hi.alone, hi.ids⟩ rfl rfl, .of_files rfl rfl rfl, hs⟩
  · intro x
    cases x with
    | ok r => exact Sole.stable
    | error e => exact Sole.stable

theorem createAll_triple (names made : List FileName) (hm : ∀ n ∈ names, c.mayCreate C n)
    (hneeds : ∀ n ∈ names, n.needs = none) :
    (opSetting C key t c).Triple (Working t l since made []) (createAll bytes names)
      (Ends t [l] fun _ j => ∀ n ∈ names ++ made, Made t since j n) := by
  induction names generalizing made with
  | nil =>
    exact Setting.Triple.pure Sole.stable fun w _ hw => ⟨hw.1, hw.2.2.2.1⟩
  | cons name rest ih =>
    apply Setting.Triple.seq (create_triple_working (hm name List.mem_cons_self)
      fun n hn => by rw [hneeds name List.mem_cons_self] at hn; cases hn)
    · intro _
      apply (ih (name :: made) (fun n hn => hm n (List.mem_cons_of_mem _ hn))
        fun n hn => hneeds n (List.mem_cons_of_mem _ hn)).weaken (fun _ _ h => h)
      · intro _ w _ hw
        refine ⟨hw.1, fun n hn => hw.2 n ?_⟩
        simp only [List.cons_append, List.mem_cons, List.mem_append] at hn ⊢
        tauto
      · exact fun _ _ _ h => h
    · exact fun _ _ _ h => h

end Steps

section Commands
variable {C : Crypto} {key : Bytes} {t : Tid} {since : List (Tid × Change)} {h : Handle}

/-- A call that starts and ends without the lock. -/
abbrev Runs (C : Crypto) (key : Bytes) (t : Tid) (c : OpCmd) (since : List (Tid × Change))
    (p : StoreProg α) (Q : α → List (Tid × Change) → Prop) : Prop :=
  (opSetting C key t c).Triple (fun w => w.owned t = [] ∧ since <:+ w.journal) p (Ends t [] Q)

/-- A step that only reads, under the lock. -/
theorem sole_then {p : StoreProg α} {f : α → StoreProg β} {V : α → Prop}
    {Q : β → List (Tid × Change) → Prop} (hp : (opSetting C key t c).Reads (Sole t l F) p V)
    (hf : ∀ a, V a → (opSetting C key t c).Triple (Sole t l F) (f a) (Ends t [l] Q)) :
    (opSetting C key t c).Triple (Sole t l F) (p >>= f) (Ends t [l] Q) :=
  hp.then hf fun _ _ _ hw => hw.1

/-- A call that creates `name` with the store's own key. -/
def Creates (t : Tid) (key : Bytes) (h : Handle) (since : List (Tid × Change)) (name : FileName) :
    Unit → List (Tid × Change) → Prop :=
  fun _ j => h.key = key ∧ Made t since j name

theorem Creates.lasting (u : Unit) : Lasting (Creates t key h since name u) :=
  fun _ _ hj hq => ⟨hq.1, hq.2.mono hj⟩

theorem create_creates (hk : h.key = key) (hm : c.mayCreate C name) (hj : since <:+ j)
    (hneeds : ∀ n, name.needs = some n → n ∈ d) :
    (opSetting C key t c).Triple (Sole t l fun d' j' => d' = d ∧ j' = j) (create name bytes)
      (Ends t [l] (Creates t key h since name)) := by
  apply (create_ends hm hj hneeds).weaken (fun _ _ h => h)
  · exact fun _ _ _ hw => ⟨hw.1, hk, hw.2⟩
  · exact fun _ _ _ hw => hw

/-- Seal a text and create the file that holds it. -/
theorem encrypt_creates (hk : h.key = key) (hm : c.mayCreate C (.entry reference role))
    (hj : since <:+ j) (hneeds : ∀ n, (FileName.entry reference role).needs = some n → n ∈ d) :
    (opSetting C key t c).Triple (Sole t l fun d' j' => d' = d ∧ j' = j)
      (encrypt C k reference role bytes >>= create (.entry reference role))
      (Ends t [l] (Creates t key h since (.entry reference role))) :=
  sole_then (encrypt_any Sole.stable) fun _ _ => create_creates hk hm hj hneeds

theorem fileCount_any : (opSetting C key t c).Reads (Sole t l F) fileCount fun _ => True :=
  fileCount_reads Sole.stable fun _ _ _ => trivial

/-- Reading the directory that the lock keeps. -/
theorem present_reads (t : Tid) (l : Lock) (d : AList fun _ : FileName => Bytes)
    (j : List (Tid × Change)) (name : FileName) (max : Nat) :
    (opSetting C key t c).Reads (Sole t l fun d' j' => d' = d ∧ j' = j) (readOptional name max)
      fun file => file = d.lookup name :=
  readOptional_reads Sole.stable fun _ _ hw => congrArg (AList.lookup _) hw.2.2.1

/-- Decrypting tells that the file is there. -/
theorem decrypt_present (t : Tid) (l : Lock) (d : AList fun _ : FileName => Bytes)
    (j : List (Tid × Change)) (reference : String) (role : Role) :
    (opSetting C key t c).Reads (Sole t l fun d' j' => d' = d ∧ j' = j)
      (decrypt C k reference role) fun _ => FileName.entry reference role ∈ d := by
  intro s hi hs
  apply (decrypt_reads Sole.stable C reference role
    (fun _ _ hw => congrArg (AList.lookup _) hw.2.2.1) s hi hs).mono
  intro r w _ hw
  apply And.intro hw.1
  intro a ha
  obtain ⟨_, envelope, he, _⟩ := hw.2 a ha
  exact AList.lookup_isSome.mp (by rw [he]; rfl)

theorem stage_triple :
    Runs C key t (.stage h payload) since (stage C h payload) fun reference j =>
      Made t since j (.entry reference .payload) := by
  apply checkedLock_triple (fun _ => .made)
  intro l hx _
  apply locked_intro hx
  intro d j hj _
  apply sole_then fileCount_any
  intro count _
  apply sole_then (Setting.Reads.ensure Sole.stable)
  intro _ _
  apply Setting.Triple.seq randomReference_keeps
  · intro reference
    apply sole_then (encrypt_any Sole.stable)
    intro encrypted _
    have hname : (OpCmd.stage h payload).mayCreate C (.entry reference .payload) :=
      .inr ⟨h, payload, reference, rfl, rfl⟩
    apply Setting.Triple.seq (create_ends hname hj nofun)
    · intro _
      exact Setting.Triple.pure (owned_stable.and Lasting.made.stable) fun _ _ hw => hw
    · exact fun _ _ _ hw => hw
  · exact fun _ _ _ hw => hw.1

theorem decrypt_triple (role : Role) :
    Runs C key t c since (checkedLock h (decrypt C h.key reference role)) fun _ _ => True := by
  apply checkedLock_triple (fun _ _ _ _ h => h)
  intro l hx _
  apply locked_intro hx
  intro d j _ _
  apply (decrypt_any Sole.stable).outcome.weaken (fun _ _ h => h)
  · exact fun _ _ _ hw => ⟨hw.1.1, trivial⟩
  · exact fun _ _ _ hw => hw.1

theorem reconciliationReference_triple :
    Runs C key t c since (reconciliationReference C h epoch) fun _ _ => True := by
  apply checkedLock_triple (fun _ _ _ _ h => h)
  intro l hx _
  apply locked_intro hx
  intro d j _ _
  apply sole_then (Setting.Reads.ensure Sole.stable)
  intro _ _
  apply sole_then (decrypt_any Sole.stable)
  intro bytes _
  apply sole_then (Setting.Reads.okOr Sole.stable)
  intro reference _
  apply sole_then (Setting.Reads.ensure Sole.stable)
  exact fun _ _ => Setting.Triple.pure Sole.stable fun _ _ hw => ⟨hw.1, trivial⟩

theorem admit_triple :
    Runs C key t (.admitOperation h reference) since (admitOperation C h reference)
      (Creates t key h since (.entry reference .admitted)) := by
  apply checkedLock_triple Creates.lasting
  intro l hx hk
  apply locked_intro hx
  intro d j hj _
  apply sole_then (decrypt_present t l d j reference .payload)
  intro _ hpayload
  exact create_creates hk (.inl List.mem_cons_self) hj fun n hn => by cases hn; exact hpayload

theorem storeResult_triple :
    Runs C key t (.storeResult h reference bytes) since (storeResult C h reference bytes)
      (Creates t key h since (.entry reference .result)) := by
  apply checkedLock_triple Creates.lasting
  intro l hx hk
  apply locked_intro hx
  intro d j hj _
  apply sole_then (Setting.Reads.ensure Sole.stable)
  intro _ _
  apply sole_then (present_reads t l d j _ _)
  rintro _ rfl
  apply sole_then (Setting.Reads.ensure Sole.stable)
  intro _ hadmitted
  exact encrypt_creates hk (.inl List.mem_cons_self) hj
    fun n hn => by cases hn; exact AList.lookup_isSome.mp hadmitted

theorem admitDelivery_triple :
    Runs C key t (.admitDelivery h reference) since (admitDelivery h reference)
      (Creates t key h since (.entry reference .deliveryAdmitted)) := by
  apply checkedLock_triple Creates.lasting
  intro l hx hk
  apply locked_intro hx
  intro d j hj _
  apply sole_then (Setting.Reads.ensure Sole.stable)
  intro _ _
  apply sole_then (present_reads t l d j _ _)
  rintro _ rfl
  apply sole_then (Setting.Reads.ensure Sole.stable)
  intro _ hresult
  exact create_creates hk (.inl List.mem_cons_self) hj
    fun n hn => by cases hn; exact AList.lookup_isSome.mp hresult

theorem completeDelivery_triple :
    Runs C key t (.completeDelivery h reference) since (completeDelivery C h reference)
      (Creates t key h since (.entry reference .delivery)) := by
  apply checkedLock_triple Creates.lasting
  intro l hx hk
  apply locked_intro hx
  intro d j hj _
  apply sole_then (Setting.Reads.ensure Sole.stable)
  intro _ _
  apply sole_then (present_reads t l d j _ _)
  rintro _ rfl
  apply sole_then (Setting.Reads.ensure Sole.stable)
  intro _ hadmitted
  have hin : FileName.entry reference .deliveryAdmitted ∈ d :=
    AList.lookup_isSome.mp (by rw [beq_iff_eq.mp hadmitted]; rfl)
  exact encrypt_creates hk (.inl List.mem_cons_self) hj fun n hn => by cases hn; exact hin

theorem bindReconciliation_triple :
    Runs C key t (.bindReconciliation h epoch reference) since
      (bindReconciliation C h epoch reference)
      (Creates t key h since (.entry (reconciliationKey C h.key epoch) .reconciliation)) := by
  apply checkedLock_triple Creates.lasting
  intro l hx hk
  apply locked_intro hx
  intro d j hj _
  apply sole_then (Setting.Reads.ensure Sole.stable)
  intro _ _
  apply sole_then (Setting.Reads.ensure Sole.stable)
  intro _ _
  apply sole_then (decrypt_any Sole.stable)
  intro _ _
  exact encrypt_creates hk (.inl List.mem_cons_self) hj
    fun n hn => by simp [FileName.needs] at hn

theorem reserveJourney_triple :
    Runs C key t (.reserveJourney h consent references) since
      (reserveJourney C h consent references)
      (Creates t key h since (.entry (journeyKey C h.key consent) .journeyConsent)) := by
  have hp : (opSetting C key t (.reserveJourney h consent references)).Stable
      fun w => w.owned t = [] ∧ since <:+ w.journal := owned_stable.and Lasting.suffix.stable
  apply Setting.Triple.ensure hp _ fun _ _ _ hw => hw.1
  intro _
  apply Setting.Triple.ensure hp _ fun _ _ _ hw => hw.1
  intro _
  apply checkedLock_triple Creates.lasting
  intro l hx hk
  apply locked_intro hx
  intro d j hj _
  apply sole_then (checkStaged_reads Sole.stable references [])
  intro _ _
  apply sole_then (readOptional_any Sole.stable)
  intro marker _
  apply sole_then (Setting.Reads.ensure Sole.stable)
  intro _ _
  apply sole_then fileCount_any
  intro count _
  apply sole_then (Setting.Reads.ensure Sole.stable)
  intro _ _
  exact create_creates hk (.inl List.mem_cons_self) hj fun n hn => by simp [FileName.needs] at hn

/-- The status is that of a moment during the call. -/
theorem status_triple :
    Runs C key t c since (status C h reference) fun x j' =>
      ∃ j, since <:+ j ∧ j <:+ j' ∧ x = statusIn j reference := by
  apply checkedLock_triple
  · rintro x i j hij ⟨m, hm, hmi, hx⟩
    exact ⟨m, hm, hmi.trans hij, hx⟩
  intro l hx _
  apply locked_intro hx
  intro d j hj hfiles
  have hmem (role : Role) : (d.lookup (.entry reference role)).isSome = true ↔
      FileName.entry reference role ∈ createdIn j := by
    simp [AList.lookup_isSome, hfiles]
  have hreport (x : OperationStatus) (hs : x = statusIn j reference) :
      (opSetting C key t c).Triple (Sole t l fun d' j' => d' = d ∧ j' = j) (.pure x)
        (Ends t [l] fun x j' => ∃ j, since <:+ j ∧ j <:+ j' ∧ x = statusIn j reference) :=
    Setting.Triple.pure Sole.stable fun w _ hw =>
      ⟨hw.1, j, hj, hw.2.2.2 ▸ List.suffix_rfl, hs⟩
  apply sole_then (decrypt_any Sole.stable)
  intro _ _
  apply sole_then (present_reads t l d j _ _)
  rintro _ rfl
  by_cases ha : (d.lookup (.entry reference .admitted)).isSome = true
  · rw [if_pos ha]
    apply sole_then (present_reads t l d j _ _)
    rintro _ rfl
    by_cases hr : (d.lookup (.entry reference .result)).isSome = true
    · rw [if_pos hr]
      apply sole_then (decrypt_any Sole.stable)
      intro _ _
      exact hreport _ (by simp only [statusIn, if_pos ((hmem _).mp ha), if_pos ((hmem _).mp hr)])
    · rw [if_neg hr]
      exact hreport _ (by
        simp only [statusIn, if_pos ((hmem _).mp ha), if_neg fun h => hr ((hmem _).mpr h)])
  · rw [if_neg ha]
    exact hreport _ (by simp only [statusIn, if_neg fun h => ha ((hmem _).mpr h)])

theorem reserveBackupCode_triple :
    Runs C key t (.reserveBackupCode h r) since (reserveBackupCode C h r) fun _ j =>
      h.key = key ∧ ∃ normalized, r.normalized = some normalized ∧
        ∀ n ∈ (r.reservations C h.key normalized).map (·.1), Made t since j n := by
  apply Setting.Triple.okOr (owned_stable.and Lasting.suffix.stable) _ fun _ _ _ hw => hw.1
  intro normalized hn
  apply checkedLock_triple
  · rintro _ i j hij ⟨hk, m, hm, hq⟩
    exact ⟨hk, m, hm, fun n hn => (hq n hn).mono hij⟩
  intro l hx hk
  apply locked_intro hx
  intro d j hj _
  apply sole_then (decrypt_any Sole.stable)
  intro _ _
  apply sole_then (checkReservations_reads Sole.stable _)
  intro _ _
  apply sole_then fileCount_any
  intro count _
  apply sole_then (Setting.Reads.ensure Sole.stable)
  intro _ _
  apply (@createAll_triple C key t _ l since _ _ [] _ _).weaken
  · rintro w _ ⟨ho, hx, rfl, rfl⟩
    exact ⟨ho, hx, hj, nofun, nofun⟩
  · exact fun _ w _ hw =>
      ⟨hw.1, hk, normalized, hn, fun n hm => hw.2 n (List.mem_append_left _ hm)⟩
  · exact fun _ _ _ hw => hw
  · intro n hm
    apply Or.inl
    simp only [OpCmd.creates, hn]
    exact hm
  · intro n hm
    simp only [BackupRequest.reservations, List.map_cons, List.map_nil, List.mem_cons,
      List.not_mem_nil, or_false] at hm
    rcases hm with rfl | rfl | rfl <;> rfl

end Commands

def OpCmd.handle : OpCmd → Handle
  | .stage h _ | .load h _ | .admitOperation h _ | .storeResult h _ _ | .admitDelivery h _
  | .completeDelivery h _ | .loadResult h _ | .status h _ | .reserveBackupCode h _
  | .reserveJourney h _ _ | .bindReconciliation h _ _ | .reconciliationReference h _ => h

/-- What a finished call has done since the world it started in. -/
structure OpPost (C : Crypto) (key : Bytes) (t : Tid) (c : OpCmd) (since : World) (r : OpRes)
    (w : World) : Prop where
  done : r = .done → c.handle.key = key ∧
    ∀ name ∈ c.creates C, Made t since.journal w.journal name
  staged : ∀ h payload reference, c = .stage h payload → r = .reference reference →
    Made t since.journal w.journal (.entry reference .payload)
  status : ∀ h reference x, c = .status h reference → r = .status x →
    ∃ j, since.journal <:+ j ∧ j <:+ w.journal ∧ x = statusIn j reference
  invalid : ∀ h q, c = .reserveBackupCode h q → q.normalized = none → r = .failed .invalid

section Runs
variable {C : Crypto} {key : Bytes} {t : Tid} {c : OpCmd}

theorem report_wp {p : StoreProg α} {Q : α → List (Tid × Change) → Prop} {f : α → OpRes}
    (hi : OpInv key s) (hs : s.owned t = []) (h : Runs C key t c s.journal p Q)
    (hok : ∀ a w, Q a w.journal → OpPost C key t c s (f a) w)
    (he : ∀ e w, OpPost C key t c s (.failed e) w) :
    (report p f).Wp (storeExec t) (OpInv key) (OpRely t) (OpGuar C t c)
      (fun r w => ∀ x, r = .ok x → w.owned t = [] ∧ OpPost C key t c s x.2 w) s := by
  have hp := h s hi ⟨hs, List.suffix_rfl⟩
  clear h hs hi
  have hgen (p : StoreProg α) (w : World)
      (hp : p.Wp (storeExec t) (OpInv key) (OpRely t) (OpGuar C t c) (Ends t [] Q) w) :
      (report p f).Wp (storeExec t) (OpInv key) (OpRely t) (OpGuar C t c)
        (fun r w => ∀ x, r = .ok x → w.owned t = [] ∧ OpPost C key t c s x.2 w) w := by
    induction p generalizing w with
    | pure a =>
      intro w' hr hi x hx
      cases hx
      have hw := hp w' hr hi
      exact ⟨hw.1, hok a w' hw.2⟩
    | fail e =>
      intro w' hr hi x hx
      cases hx
      exact ⟨hp w' hr hi, he e w'⟩
    | call o k ih =>
      intro w' hr hi ch r w'' hex
      obtain ⟨hi', hg, hk⟩ := hp w' hr hi ch r w'' hex
      exact ⟨hi', hg, ih r w'' hk⟩
  exact hgen p s hp

/-- A call that reports success has created its file. -/
theorem OpPost.of_creates {s w : World} (hq : Creates t key h s.journal name u w.journal)
    (hh : c.handle = h) (hc : c.creates C = [name])
    (hr : ∀ h q, c ≠ .reserveBackupCode h q) : OpPost C key t c s .done w := by
  refine ⟨?_, nofun, nofun, fun h q he => absurd he (hr h q)⟩
  intro _
  rw [hh, hc]
  apply And.intro hq.1
  intro n hn
  rw [List.mem_singleton.mp hn]
  exact hq.2

theorem OpPost.failed {s w : World} (hr : ∀ h q, c ≠ .reserveBackupCode h q) :
    OpPost C key t c s (.failed e) w :=
  ⟨nofun, nofun, nofun, fun h q he => absurd he (hr h q)⟩

theorem opBody_wp (c : OpCmd) (hi : OpInv key s) (hs : s.owned t = []) :
    (opBody C c).Wp (storeExec t) (OpInv key) (OpRely t) (OpGuar C t c)
      (fun r w => ∀ x, r = .ok x → w.owned t = [] ∧ OpPost C key t c s x.2 w) s := by
  cases c with
  | stage h payload =>
    apply report_wp hi hs stage_triple _ fun _ _ => .failed nofun
    intro reference w hq
    refine ⟨nofun, ?_, nofun, nofun⟩
    rintro _ _ _ ⟨⟩ ⟨⟩
    exact hq
  | load h reference =>
    exact report_wp hi hs (decrypt_triple .payload)
      (fun _ _ _ => ⟨nofun, nofun, nofun, nofun⟩) fun _ _ => .failed nofun
  | loadResult h reference =>
    exact report_wp hi hs (decrypt_triple .result)
      (fun _ _ _ => ⟨nofun, nofun, nofun, nofun⟩) fun _ _ => .failed nofun
  | reconciliationReference h epoch =>
    exact report_wp hi hs reconciliationReference_triple
      (fun _ _ _ => ⟨nofun, nofun, nofun, nofun⟩) fun _ _ => .failed nofun
  | admitOperation h reference =>
    exact report_wp hi hs admit_triple (fun _ _ hq => .of_creates hq rfl rfl nofun)
      fun _ _ => .failed nofun
  | storeResult h reference bytes =>
    exact report_wp hi hs storeResult_triple (fun _ _ hq => .of_creates hq rfl rfl nofun)
      fun _ _ => .failed nofun
  | admitDelivery h reference =>
    exact report_wp hi hs admitDelivery_triple (fun _ _ hq => .of_creates hq rfl rfl nofun)
      fun _ _ => .failed nofun
  | completeDelivery h reference =>
    exact report_wp hi hs completeDelivery_triple (fun _ _ hq => .of_creates hq rfl rfl nofun)
      fun _ _ => .failed nofun
  | bindReconciliation h epoch reference =>
    exact report_wp hi hs bindReconciliation_triple (fun _ _ hq => .of_creates hq rfl rfl nofun)
      fun _ _ => .failed nofun
  | reserveJourney h consent references =>
    exact report_wp hi hs reserveJourney_triple (fun _ _ hq => .of_creates hq rfl rfl nofun)
      fun _ _ => .failed nofun
  | status h reference =>
    apply report_wp (c := .status h reference) hi hs status_triple _ fun _ _ => .failed nofun
    intro x w hq
    refine ⟨nofun, nofun, ?_, nofun⟩
    rintro _ _ _ ⟨⟩ ⟨⟩
    exact hq
  | reserveBackupCode h r =>
    cases hn : r.normalized with
    | none =>
      -- an invalid request makes no call at all
      simp only [opBody, reserveBackupCode, hn, Prog.okOr]
      intro w hr _ x hx
      cases hx
      exact ⟨(OpRely.owned hr).trans hs, nofun, nofun, nofun, fun _ _ _ _ => rfl⟩
    | some normalized =>
      have hvalid (h' : Handle) (q : BackupRequest)
          (he : OpCmd.reserveBackupCode h r = .reserveBackupCode h' q)
          (hq : q.normalized = none) : False := by
        cases he
        rw [hn] at hq
        cases hq
      apply report_wp hi hs reserveBackupCode_triple
      · rintro _ w ⟨hk, m, hm, hq⟩
        refine ⟨fun _ => ⟨hk, ?_⟩, nofun, nofun, fun h' q he hq => (hvalid h' q he hq).elim⟩
        simpa only [OpCmd.creates, hm] using hq
      · exact fun e w => ⟨nofun, nofun, nofun, fun h' q he hq => (hvalid h' q he hq).elim⟩

/-- The operation store's contract, for every task of any process. -/
def operationContract (C : Crypto) (key : Bytes) : (operationMachine C).Contract where
  Inv := OpInv key
  Rely := OpRely
  Guar := OpGuar C
  Held t _ w := w.owned t = []
  Post t c since _ r w := OpInv key since ∧ OpInv key w ∧ OpPost C key t c since r w
  rely_refl := OpRely.refl
  rely_trans := OpRely.trans
  guar_rely hu hi hg := hg.rely hu hi
  held_stable hs hr := hr.owned.trans hs
  halt_rest _ := World.owned_halted
  halt_inv hi := hi.of_locks (hi.toLockInv.halt _) rfl rfl
  halt_rely ht _ := ⟨World.owned_halt ht, fun _ _ _ => ⟨rfl, rfl⟩, List.suffix_rfl⟩
  body_wp hi hs := (opBody_wp _ hi hs).mono fun _ _ hi' h x hx =>
    ⟨(h x hx).1, hi, hi', (h x hx).2⟩

theorem freshStore_inv : OpInv key (freshWorld key device inode) where
  alone _ h := nomatch h
  ids _ h := nomatch h
  stored := AList.lookup_insert _
  files name := by
    simp only [freshWorld, AList.mem_insert, AList.notMem_empty, or_false, createdIn,
      List.filterMap_nil, List.not_mem_nil]
  history := .nil

variable {s : (operationMachine C).Pool}
  (h : Machine.Reachable (operationMachine C) (freshWorld key device inode) s)
include h

theorem operation_holds : (operationContract C key).Holds s :=
  h.holds freshStore_inv fun _ => rfl

theorem operation_ordered :
    Machine.Ordered (M := operationMachine C) (fun v w => World.journal v <:+ World.journal w) s :=
  h.ordered (K := operationContract C key) freshStore_inv (fun _ => rfl)
    (fun _ => List.suffix_rfl) (fun ha hb => ha.trans hb) (fun hg => OpGuar.grows hg)
    fun _ _ => List.suffix_rfl

end Runs

end AgentBrowser
