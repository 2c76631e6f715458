import AgentBrowser.AvoidedFailures
import AgentBrowser.ConfirmationCommands
import AgentBrowser.Panics
import AgentBrowser.StandardText

namespace AgentBrowser
open Durable Panics
set_option autoImplicit true

section StateFiles

/-- A file of the sessions directory. -/
structure SessionEntry where
  fileName : String
  /-- When it changed, in nanoseconds since 1970, if the file system tells. -/
  modified : Option Int
  removable : Bool
  deriving DecidableEq, Repr

inductive SessionsDir where
  | missing
  | unreadable
  | listed (entries : List SessionEntry)
  deriving DecidableEq, Repr

structure CleanReport where
  cleaned : Nat
  keptCount : Nat
  days : UInt64
  deriving DecidableEq, Repr

def isStateFile (fileName : String) : Bool :=
  ".json".toList.isSuffixOf fileName.toList || ".json.enc".toList.isSuffixOf fileName.toList

/-- The time since the last change, which is unknown for a change in the future. -/
def SessionEntry.age (now : Int) (entry : SessionEntry) : Option Int :=
  (entry.modified.filter (· ≤ now)).map (now - ·)

/-- The files that are left, and those counted as deleted and as kept. -/
structure Cleaning where
  left : List SessionEntry
  deleted : Nat
  kept : Nat

/-- One turn of the loop over the files. A file that cannot be removed is counted as deleted. -/
def cleanEntry (now maxAge : Int) (cleaning : Cleaning) (entry : SessionEntry) : Cleaning :=
  if !isStateFile entry.fileName then { cleaning with left := cleaning.left ++ [entry] }
  else if (entry.age now).any (maxAge < ·) then
    { cleaning with
      left := if entry.removable then cleaning.left else cleaning.left ++ [entry]
      deleted := cleaning.deleted + 1 }
  else { cleaning with left := cleaning.left ++ [entry], kept := cleaning.kept + 1 }

def stateClean (build : Build) (dir : SessionsDir) (now : Int) (maxAgeDays : UInt64) :
    Result String (CleanReport × SessionsDir) :=
  match dir with
  | .missing => .ok (⟨0, 0, maxAgeDays⟩, .missing)
  | .unreadable => do
    let _ ← mul build 64 maxAgeDays.toNat 86400
    .ok (⟨0, 0, maxAgeDays⟩, .unreadable)
  | .listed entries => do
    let seconds ← mul build 64 maxAgeDays.toNat 86400
    let cleaning := entries.foldl (cleanEntry now (seconds * nanosPerSecond)) ⟨[], 0, 0⟩
    .ok (⟨cleaning.deleted, cleaning.kept, maxAgeDays⟩, .listed cleaning.left)

/-- A state file that changed more than so many days ago. -/
def SessionEntry.Outdated (days : Nat) (now : Int) (entry : SessionEntry) : Prop :=
  isStateFile entry.fileName ∧
    ∃ modified ∈ entry.modified, modified + days * 86400 * nanosPerSecond < now

instance (days : Nat) (now : Int) (entry : SessionEntry) : Decidable (entry.Outdated days now) :=
  inferInstanceAs (Decidable (_ ∧ ∃ modified ∈ entry.modified, _))

/-- Cleaning goes through, counts the outdated state files, and removes these and no others. -/
def CleansByAge (build : Build) (days : UInt64) : Prop :=
  ∀ dir now, ∃ report after, stateClean build dir now days = .ok (report, after) ∧
    ∀ entries, dir = .listed entries →
      after = .listed (entries.filter fun entry =>
        !(entry.Outdated days.toNat now && entry.removable)) ∧
      report.cleaned = entries.countP (·.Outdated days.toNat now) ∧
      report.keptCount = entries.countP fun entry =>
        isStateFile entry.fileName && !entry.Outdated days.toNat now

theorem any_age {maxAge : Int} (h : 0 ≤ maxAge) (entry : SessionEntry) :
    (entry.age now).any (maxAge < ·) = true ↔
      ∃ modified ∈ entry.modified, modified + maxAge < now := by
  cases hmodified : entry.modified with
  | none => simp [SessionEntry.age, hmodified]
  | some modified =>
    simp only [SessionEntry.age, hmodified, Option.mem_some, exists_eq_left']
    by_cases hpast : modified ≤ now
    · simp only [Option.filter, hpast, decide_true, if_true, Option.map_some, Option.any_some,
        decide_eq_true_eq]
      omega
    · simp only [Option.filter, hpast, decide_false, Bool.false_eq_true, if_false, Option.map_none,
        Option.any_none, false_iff]
      omega

/-- A turn of the loop, by whether the file is outdated. -/
theorem cleanEntry_eq (days : Nat) (now : Int) (cleaning : Cleaning) (entry : SessionEntry) :
    cleanEntry now (days * 86400 * nanosPerSecond) cleaning entry =
      ⟨cleaning.left ++ [entry].filter fun entry =>
          !(entry.Outdated days now && entry.removable),
        cleaning.deleted + [entry].countP (·.Outdated days now),
        cleaning.kept + [entry].countP fun entry =>
          isStateFile entry.fileName && !entry.Outdated days now⟩ := by
  have hnonneg : 0 ≤ (days : Int) * 86400 * nanosPerSecond := by
    simp only [nanosPerSecond]
    omega
  have hage : (entry.age now).any (days * 86400 * nanosPerSecond < ·) = true ↔ _ :=
    any_age hnonneg entry
  unfold cleanEntry
  by_cases hstate : isStateFile entry.fileName = true
  · by_cases hold : ∃ modified ∈ entry.modified, modified + days * 86400 * nanosPerSecond < now
    · have houtdated : entry.Outdated days now := ⟨hstate, hold⟩
      rw [if_neg (by simp [hstate]), if_pos (hage.mpr hold)]
      cases hremovable : entry.removable <;> simp [houtdated, hremovable]
    · have hrecent : ¬ entry.Outdated days now := fun h => hold h.2
      rw [if_neg (by simp [hstate]), if_neg (fun h => hold (hage.mp h))]
      simp [hrecent, hstate]
  · have hother : ¬ entry.Outdated days now := fun h => hstate h.1
    rw [if_pos (by simpa using hstate)]
    simp [hother, hstate]

theorem foldl_cleanEntry (days : Nat) (now : Int) (entries : List SessionEntry)
    (cleaning : Cleaning) :
    entries.foldl (cleanEntry now (days * 86400 * nanosPerSecond)) cleaning =
      ⟨cleaning.left ++ entries.filter fun entry =>
          !(entry.Outdated days now && entry.removable),
        cleaning.deleted + entries.countP (·.Outdated days now),
        cleaning.kept + entries.countP fun entry =>
          isStateFile entry.fileName && !entry.Outdated days now⟩ := by
  induction entries generalizing cleaning with
  | nil => simp
  | cons entry entries ih =>
    rw [List.foldl_cons, ih, cleanEntry_eq, List.append_assoc, ← List.filter_append,
      Nat.add_assoc, Nat.add_assoc, ← List.countP_append, ← List.countP_append,
      List.singleton_append]

/-- A file that the wrapped age removes and the requested age keeps. -/
def youngFile (wrapped : Nat) : SessionEntry where
  fileName := "a.json"
  modified := some (-((wrapped + 1) * nanosPerSecond))
  removable := true

theorem cleansByAge_iff (build : Build) (days : UInt64) :
    CleansByAge build days ↔ days.toNat * 86400 < 2 ^ 64 := by
  refine ⟨fun hcleans => ?_, fun hfits dir now => ?_⟩
  · by_contra hover
    cases build with
    | checked =>
      obtain ⟨report, after, hclean, _⟩ := hcleans .unreadable 0
      rw [stateClean, mul, word_checked (Nat.not_lt.mp hover)] at hclean
      cases hclean
    | wrapping =>
      let wrapped := days.toNat * 86400 % 2 ^ 64
      have hshort : wrapped < days.toNat * 86400 :=
        (Nat.mod_lt _ (by decide)).trans_le (Nat.not_lt.mp hover)
      obtain ⟨report, after, hclean, hlisted⟩ := hcleans (.listed [youngFile wrapped]) 0
      obtain ⟨_, hcleaned, _⟩ := hlisted _ rfl
      have hrecent : ¬ (youngFile wrapped).Outdated days.toNat 0 := by
        rintro ⟨_, modified, hmodified, hold⟩
        cases hmodified
        simp only [nanosPerSecond] at hold
        omega
      have hgone : ((youngFile wrapped).age 0).any (wrapped * nanosPerSecond < ·) = true := by
        have hnonneg : 0 ≤ (wrapped : Int) * nanosPerSecond := by
          simp only [nanosPerSecond]
          omega
        refine (any_age hnonneg _).mpr ⟨_, rfl, ?_⟩
        simp only [nanosPerSecond]
        omega
      rw [stateClean, mul, word_wrapping, Result.ok_bind] at hclean
      obtain ⟨hreport, _⟩ := Prod.mk.inj (Result.ok.inj hclean)
      have hname : isStateFile (youngFile wrapped).fileName = true := by
        change isStateFile "a.json" = true
        decide
      have hturn : cleanEntry 0 (wrapped * nanosPerSecond) ⟨[], 0, 0⟩ (youngFile wrapped) =
          ⟨[], 1, 0⟩ := by
        rw [cleanEntry, hname, if_neg (by decide), if_pos hgone]
        rfl
      rw [← hreport, List.countP_singleton, decide_eq_false hrecent, List.foldl_cons,
        List.foldl_nil, hturn] at hcleaned
      cases hcleaned
  · have hseconds : (mul build 64 days.toNat 86400 : Result String Nat) = .ok _ :=
      word_of_lt hfits
    cases dir with
    | missing => exact ⟨_, _, rfl, nofun⟩
    | unreadable =>
      refine ⟨⟨0, 0, days⟩, .unreadable, ?_, nofun⟩
      rw [stateClean, hseconds, Result.ok_bind]
    | listed entries =>
      refine ⟨⟨entries.countP (·.Outdated days.toNat now), entries.countP fun entry =>
          isStateFile entry.fileName && !entry.Outdated days.toNat now, days⟩,
        .listed (entries.filter fun entry =>
          !(entry.Outdated days.toNat now && entry.removable)), ?_, ?_⟩
      · rw [stateClean, hseconds, Result.ok_bind, Nat.cast_mul]
        simp only [Nat.cast_ofNat, foldl_cleanEntry, Nat.zero_add, List.nil_append]
      · rintro _ ⟨⟩
        exact ⟨rfl, rfl, rfl⟩

end StateFiles

section IdleTimeouts
variable (build : Build)

/-- The milliseconds of a number with a unit. -/
def unitMilliseconds (num : Nat) (unit : Char) : Result String Nat :=
  if unit = 's' then mul build 64 num 1000
  else if unit = 'm' then mul build 64 num 60 >>= (mul build 64 · 1000)
  else if unit = 'h' then mul build 64 num 60 >>= (mul build 64 · 60) >>= (mul build 64 · 1000)
  else .err "Invalid idle timeout unit (use s, m, h, or raw ms)"

/-- A number with the unit `s`, `m` or `h`, or raw milliseconds. -/
def parseIdleTimeout (text : String) : Result String String :=
  let s := (trim text).toList
  match s.getLast? with
  | none => .err "Empty idle timeout"
  | some last =>
    if last.isAlpha then do
      let num ← .okOr (parseUnsigned 64 s.dropLast) "Invalid number"
      let ms ← unitMilliseconds build num last
      .ok (String.ofList (Nat.toDigits 10 ms))
    else do
      let _ ← .okOr (parseUnsigned 64 s) "Invalid idle timeout"
      .ok (String.ofList s)

def millisecondsPer (unit : Char) : Option Nat :=
  if unit = 's' then some 1000
  else if unit = 'm' then some 60000
  else if unit = 'h' then some 3600000
  else none

/-- The milliseconds that a text asks for. -/
def requestedMilliseconds (text : String) : Option Nat :=
  let s := (trim text).toList
  match s.getLast? with
  | none => none
  | some last =>
    if last.isAlpha then do
      let num ← parseUnsigned 64 s.dropLast
      let unit ← millisecondsPer last
      some (num * unit)
    else parseUnsigned 64 s

/-- The text is refused, or becomes the number of milliseconds that it asks for. -/
def HonoursIdleTimeout (text : String) : Prop :=
  (∃ e, parseIdleTimeout build text = .err e) ∨
    ∃ n shown, requestedMilliseconds text = some n ∧ parseIdleTimeout build text = .ok shown ∧
      parseUnsigned 64 shown.toList = some n

variable {build}

theorem parseUnsigned_lt (h : parseUnsigned width text = some n) : n < 2 ^ width := by
  rw [parseUnsigned, Option.ite_none_right_eq_some, Option.some.injEq] at h
  obtain ⟨⟨_, _, hfits⟩, rfl⟩ := h
  exact hfits

theorem word_then_mul (n : Nat) {k : Nat} (hk : 0 < k) :
    (word build 64 n >>= (mul build 64 · k) : Result String Nat) = word build 64 (n * k) := by
  rcases Nat.lt_or_ge n (2 ^ 64) with hfits | hover
  · rw [word_of_lt hfits, Result.ok_bind, mul]
  · cases build with
    | checked =>
      rw [word_checked hover, Result.panic_bind,
        word_checked (hover.trans (Nat.le_mul_of_pos_right n hk))]
    | wrapping => rw [word_wrapping, Result.ok_bind, mul, word_wrapping, word_wrapping,
        Nat.mod_mul_mod]

theorem word_then_ne_err (n : Nat) {f : Nat → String} {e : String} :
    (word build 64 n >>= fun ms => .ok (f ms) : Result String String) ≠ .err e := by
  unfold word
  split
  · intro h
    cases h
  · cases build <;> intro h <;> cases h

theorem unitMilliseconds_some (num : Nat) (h : millisecondsPer last = some unit) :
    unitMilliseconds build num last = word build 64 (num * unit) := by
  have hminutes : (mul build 64 num 60 : Result String Nat) = word build 64 (num * 60) := rfl
  unfold millisecondsPer at h
  unfold unitMilliseconds
  split_ifs at h ⊢
  · cases h
    rfl
  · cases h
    rw [hminutes, word_then_mul _ (by decide), Nat.mul_assoc]
  · cases h
    rw [hminutes, word_then_mul _ (by decide), word_then_mul _ (by decide), Nat.mul_assoc,
      Nat.mul_assoc]

theorem unitMilliseconds_none (num : Nat) (h : millisecondsPer last = none) :
    ∃ e, unitMilliseconds build num last = .err e := by
  unfold millisecondsPer at h
  unfold unitMilliseconds
  split_ifs at h ⊢
  exact ⟨_, rfl⟩

/-- What the parser does with a number and a unit, or with a raw number. -/
theorem parseIdleTimeout_cases (text : String) :
    (requestedMilliseconds text = none ∧ ∃ e, parseIdleTimeout build text = .err e) ∨
      (∃ n, requestedMilliseconds text = some n ∧ parseIdleTimeout build text =
        word build 64 n >>= fun ms => .ok (String.ofList (Nat.toDigits 10 ms))) ∨
      ∃ n shown, n < 2 ^ 64 ∧ requestedMilliseconds text = some n ∧
        parseIdleTimeout build text = .ok shown ∧ parseUnsigned 64 shown.toList = some n := by
  unfold requestedMilliseconds parseIdleTimeout
  cases hlast : (trim text).toList.getLast? with
  | none =>
    simp only [hlast]
    exact .inl ⟨trivial, _, rfl⟩
  | some last =>
    simp only [hlast]
    split
    · cases hnum : parseUnsigned 64 (trim text).toList.dropLast with
      | none => exact .inl ⟨rfl, _, rfl⟩
      | some num =>
        cases hunit : millisecondsPer last with
        | none =>
          obtain ⟨e, herr⟩ : ∃ e, unitMilliseconds build num last = .err e :=
            unitMilliseconds_none num hunit
          refine .inl ⟨rfl, e, ?_⟩
          rw [Result.okOr, Result.ok_bind, herr, Result.err_bind]
        | some unit =>
          refine .inr (.inl ⟨num * unit, rfl, ?_⟩)
          rw [Result.okOr, Result.ok_bind, unitMilliseconds_some num hunit]
    · cases hnum : parseUnsigned 64 (trim text).toList with
      | none => exact .inl ⟨rfl, _, rfl⟩
      | some num =>
        exact .inr (.inr ⟨num, _, parseUnsigned_lt hnum, rfl, rfl, by
          rw [String.toList_ofList, hnum]⟩)

/-- A number of milliseconds in a word is written and read back. -/
theorem honoursIdleTimeout_iff (text : String) :
    HonoursIdleTimeout build text ↔ ∀ n, requestedMilliseconds text = some n → n < 2 ^ 64 := by
  rcases @parseIdleTimeout_cases build text with
    ⟨hnone, e, herr⟩ | ⟨n, hsome, hparse⟩ | ⟨n, shown, hfits, hsome, hparse, hread⟩
  · refine ⟨fun _ n hn => ?_, fun _ => .inl ⟨e, herr⟩⟩
    rw [hnone] at hn
    cases hn
  · constructor
    · rintro (⟨e, herr⟩ | ⟨m, shown, hm, hshown, hread⟩) k hk
      · rw [hparse] at herr
        exact absurd herr (word_then_ne_err n)
      · obtain rfl := Option.some.inj (hsome.symm.trans hm)
        obtain rfl := Option.some.inj (hsome.symm.trans hk)
        exact parseUnsigned_lt hread
    · intro hfits
      have hword : (word build 64 n : Result String Nat) = .ok n := word_of_lt (hfits n hsome)
      rw [hword, Result.ok_bind] at hparse
      exact .inr ⟨n, _, hsome, hparse, by
        rw [String.toList_ofList, parseUnsigned_toDigits (hfits n hsome)]⟩
  · refine ⟨fun _ m hm => ?_, fun _ => .inr ⟨n, shown, hsome, hparse, hread⟩⟩
    obtain rfl := Option.some.inj (hsome.symm.trans hm)
    exact hfits

end IdleTimeouts

section Confirmations
variable (E : AuthorityEnv)

/-- A confirmation that is staged with this lifetime expires exactly so long after it was asked
for, and staging does not panic. -/
def StagesFor (ttl : UInt64) : Prop :=
  ∀ session input choices s r, input.ttlSeconds = ttl →
    ((stageTaskAuthorityConfirmation E session input).run authorityExec choices s).1 = some r →
    r ≠ .error .overflow ∧ ∀ record, r = .ok record →
      0 < ttl.toNat ∧ ∃ now : Int, 0 ≤ now ∧ now ≤ clockLimit ∧
        record.requestedAt = E.formatTime now ∧
        record.expiresAt = E.formatTime (now + ttl.toNat * nanosPerSecond)

/-- A cleanup with this minimum age picks receipts that are at least so old, and does not
panic. -/
def CleansUpAfter (age : UInt64) : Prop :=
  ∀ session input choices s r, input.minAgeSeconds = age →
    ((cleanupTaskAuthorityConfirmations E session input).run authorityExec choices s).1 = some r →
    r ≠ .error .overflow ∧ ∀ cleanup, r = .ok cleanup →
      ∃ (now : Int) (safe : List SafeReceipt), 0 ≤ now ∧ now ≤ clockLimit ∧
        (∀ receipt ∈ safe, FoundIn s session receipt ∧
          confirmationReceiptAgeAnchor E receipt.record = .ok receipt.anchor) ∧
        cleanup.candidates = (((safe.mergeSort SafeReceipt.le).take
          (safe.length - input.retainCount.toNat)).filter fun receipt =>
            receipt.anchor + age.toNat * nanosPerSecond ≤ now).map (SafeReceipt.evidence E)

variable {E : AuthorityEnv}

theorem utcNow_avoids : utcNow.Avoids Failure.overflow := fun _ => trivial

theorem pathExists_avoids (path : Path) : (pathExists path).Avoids .overflow := fun _ => trivial

theorem readFile_avoids (path : Path) (label : String) :
    (readFile path label).Avoids .overflow := by
  rintro (_ | doc)
  · exact Failure.noConfusion
  · trivial

theorem writePrivateJson_avoids (path : Path) (doc : Doc) (label : String) :
    (writePrivateJson path doc label).Avoids .overflow := by
  rintro (_ | _)
  · exact Failure.noConfusion
  · trivial

theorem removeFile_avoids (path : Path) (label : String) :
    (removeFile path label).Avoids .overflow := by
  rintro (_ | _)
  · exact Failure.noConfusion
  · trivial

theorem orConflict_avoids (x : Except String α) : (orConflict x).Avoids .overflow :=
  .ofExcept (by cases x <;> nofun)

theorem ensure_avoids {c : Bool} {message : String} {f : Unit → AuthorityProg α}
    (h : ∀ u, (f u).Avoids .overflow) :
    (Prog.ensure c (.conflict message) >>= f : AuthorityProg α).Avoids .overflow :=
  Prog.Avoids.bind (.ensure nofun) h

theorem okOr_avoids {x : Option α} {message : String} {f : α → AuthorityProg β}
    (h : ∀ a, (f a).Avoids .overflow) :
    (Prog.okOr x (.conflict message) >>= f : AuthorityProg β).Avoids .overflow :=
  Prog.Avoids.bind (.okOr nofun) h

theorem readOptionalDoc_avoids (kind : Doc → Option α) (path : Path) (label invalid : String) :
    (readOptionalDoc kind path label invalid).Avoids .overflow := by
  refine (pathExists_avoids path).bind fun found => ?_
  cases found with
  | false => trivial
  | true =>
    refine (readFile_avoids path label).bind fun doc => ?_
    exact okOr_avoids fun value => trivial

theorem readConfirmationRecord_avoids (path : Path) (session : String) :
    (readConfirmationRecord E path session).Avoids .overflow := by
  refine (readOptionalDoc_avoids _ path _ _).bind fun found => ?_
  cases found with
  | none => trivial
  | some record => exact (orConflict_avoids _).bind fun _ => trivial

theorem loadSegments_avoids (session : String) (capacity left index : Nat)
    (previous : Option String) (known : List String) :
    (loadSegments E session capacity left index previous known).Avoids .overflow := by
  induction left generalizing index previous known with
  | zero => trivial
  | succ left ih =>
    have hread (path : Path) : (readDoc Doc.segment? path
        "Failed to read confirmation tombstone segment"
        "Invalid confirmation tombstone segment").Avoids .overflow :=
      (readFile_avoids path _).bind fun doc => .okOr nofun
    refine (hread _).bind fun segment => ?_
    refine ensure_avoids fun _ => ?_
    exact (orConflict_avoids _).bind fun known => ih _ _ _

theorem loadConfirmationTombstones_avoids (session : String) :
    (loadConfirmationTombstones E session).Avoids .overflow := by
  refine (pathExists_avoids _).bind fun found => ?_
  cases found with
  | false => trivial
  | true =>
    refine (readFile_avoids _ _).bind fun doc => ?_
    cases doc with
    | manifest manifest =>
      refine ensure_avoids fun _ => ?_
      refine (loadSegments_avoids _ _ _ _ _ _).bind fun segments => ?_
      refine ensure_avoids fun _ => ?_
      refine (orConflict_avoids _).bind fun known => ?_
      exact ensure_avoids fun _ => trivial
    | legacyTombstones legacy => trivial
    | ledger | issuance | confirmation | segment => exact Failure.noConfusion

theorem flushSegments_avoids (session : String) (fuel : Nat)
    (manifest : ConfirmationTombstoneManifest) :
    (flushSegments E session fuel manifest).Avoids .overflow := by
  induction fuel generalizing manifest with
  | zero => trivial
  | succ fuel ih =>
    unfold flushSegments
    split
    · refine utcNow_avoids.bind fun now => ?_
      refine (writePrivateJson_avoids _ _ _).bind fun _ => ?_
      exact okOr_avoids fun count => ih _
    · trivial

theorem persistConfirmationTombstones_avoids (session : String)
    (loaded : LoadedConfirmationTombstones) (ids : List String) :
    (persistConfirmationTombstones E session loaded ids).Avoids .overflow := by
  refine (orConflict_avoids _).bind fun known => ?_
  refine (flushSegments_avoids _ _ _).bind fun flushed => ?_
  refine ensure_avoids fun _ => ?_
  refine utcNow_avoids.bind fun now => ?_
  exact (writePrivateJson_avoids _ _ _).bind fun _ => loadConfirmationTombstones_avoids session

theorem removePendingConfirmation_avoids (session : String) :
    (removePendingConfirmation session).Avoids .overflow := by
  refine (pathExists_avoids _).bind fun found => ?_
  cases found with
  | false => trivial
  | true => exact removeFile_avoids _ _

theorem clearPendingConfirmation_avoids (session : String) :
    (clearPendingConfirmation E session).Avoids .overflow := by
  refine (readConfirmationRecord_avoids _ _).bind fun found => ?_
  cases found with
  | none => trivial
  | some existing =>
    refine okOr_avoids fun expiresAt => ?_
    refine utcNow_avoids.bind fun now => ?_
    refine ensure_avoids fun _ => ?_
    refine Prog.Avoids.bind ?_ fun _ => removePendingConfirmation_avoids _
    refine (readConfirmationRecord_avoids _ _).bind fun receipt => ?_
    cases receipt with
    | none => exact writePrivateJson_avoids _ _ _
    | some receipt => exact .ensure nofun

theorem hasTerminalReceipt_avoids (session confirmationId : String) :
    (hasTerminalReceipt E session confirmationId).Avoids .overflow := by
  refine (pathExists_avoids _).bind fun found => ?_
  cases found with
  | false => exact (loadConfirmationTombstones_avoids session).bind fun loaded => trivial
  | true => trivial

theorem inspectReceipts_avoids (session : String) (names : List Bytes) (safe : List SafeReceipt)
    (indeterminate : Nat) :
    (inspectReceipts E session names safe indeterminate).Avoids .overflow := by
  induction names generalizing safe indeterminate with
  | nil => trivial
  | cons name names ih =>
    unfold inspectReceipts
    split
    · refine (readConfirmationRecord_avoids _ _).bind fun found => ?_
      cases found with
      | none => exact ih _ _
      | some record =>
        dsimp only
        split
        · exact ih _ _
        · split
          · exact (orConflict_avoids _).bind fun anchor => ih _ _
          · exact ih _ _
    · exact ih _ _

theorem removeReceipts_avoids (paths : List Path) : (removeReceipts paths).Avoids .overflow := by
  induction paths with
  | nil => trivial
  | cons path paths ih =>
    refine (pathExists_avoids path).bind fun found => ?_
    cases found with
    | false => exact ih
    | true => exact (removeFile_avoids path _).bind fun _ => ih

theorem retireReceipts_avoids (session : String) (loaded : LoadedConfirmationTombstones)
    (candidates : List SafeReceipt) :
    (retireReceipts E session loaded candidates).Avoids .overflow := by
  refine (persistConfirmationTombstones_avoids _ _ _).bind fun final => ?_
  exact (removeReceipts_avoids _).bind fun _ => trivial

theorem stage_does (E : AuthorityEnv) (session : String) (input : StageTaskAuthorityConfirmation)
    (s : AuthorityStore) (h : 2 ^ 63 ≤ input.ttlSeconds.toNat ∨
      clockLimit + input.ttlSeconds.toNat * nanosPerSecond ≤ chronoMax) :
    Does (fun _ _ => True)
      (Outcome (fun record _ => 0 < input.ttlSeconds.toNat ∧
          ∃ now : Int, 0 ≤ now ∧ now ≤ clockLimit ∧ record.requestedAt = E.formatTime now ∧
            record.expiresAt = E.formatTime (now + input.ttlSeconds.toNat * nanosPerSecond))
        fun e _ => e ≠ .overflow)
      (stageTaskAuthorityConfirmation E session input) s := by
  apply Prog.Alone.ensure_then
  · exact fun _ => nofun
  intro hadmitted
  have hpositive : 0 < input.ttlSeconds.toNat := by
    have hne := of_decide_eq_true (Bool.and_eq_true_iff.mp hadmitted).2
    exact Nat.pos_of_ne_zero fun hzero => hne (UInt64.toNat_inj.mp hzero)
  apply (hasTerminalReceipt_avoids _ _).then
  swap
  · exact fun _ _ he => he
  intro used t
  apply Prog.Alone.ensure_then
  · exact fun _ => nofun
  intro _
  apply (clearPendingConfirmation_avoids _).then
  swap
  · exact fun _ _ he => he
  intro _ u
  apply utcNow_then
  intro now hlo hhi
  apply Prog.Alone.ensure_then
  · exact fun _ => nofun
  intro hsigned
  apply Prog.Alone.ensure_then
  · intro hover
    have hsigned := of_decide_eq_true hsigned
    have hover := of_decide_eq_false hover
    omega
  intro _
  apply orInvalid_then
  · exact fun _ _ => nofun
  intro requestedBy _
  apply orInvalid_then
  · exact fun _ _ => nofun
  intro _ _
  apply writePrivateJson_then
  · trivial
  · exact nofun
  exact .pure ⟨hpositive, now, hlo, hhi, rfl, rfl⟩

theorem ensure_may {c : Bool} {e : Failure} {f : Unit → AuthorityProg α}
    {T : Except Failure α → AuthorityStore → Prop} (h : c = true)
    (hf : (f ()).May authorityExec T s) : (Prog.ensure c e >>= f).May authorityExec T s := by
  subst h
  exact hf

theorem ensure_fails {c : Bool} {e : Failure} {f : Unit → AuthorityProg α}
    {T : Except Failure α → AuthorityStore → Prop} (h : c = false) (ht : T (.error e) s) :
    (Prog.ensure c e >>= f).May authorityExec T s := by
  subst h
  exact ht

/-- From an empty store, with the clock at its end, staging reaches the addition. -/
theorem stage_may_overflow (E : AuthorityEnv) (session : String)
    (input : StageTaskAuthorityConfirmation) (haction : input.action ∈ durableConfirmationActions)
    (hsigned : input.ttlSeconds.toNat < 2 ^ 63)
    (hover : chronoMax < clockLimit + input.ttlSeconds.toNat * nanosPerSecond) :
    (stageTaskAuthorityConfirmation E session input).May authorityExec
      (fun r _ => r = .error .overflow) .empty := by
  have hpositive : input.ttlSeconds ≠ 0 := by
    intro hzero
    rw [hzero] at hover
    revert hover
    decide
  apply ensure_may (Bool.and_eq_true_iff.mpr ⟨decide_eq_true haction, decide_eq_true hpositive⟩)
  have hunused : (hasTerminalReceipt E session input.confirmationId).May authorityExec
      (fun r t => r = .ok false ∧ t = .empty) .empty := by
    apply pathExists_may
    apply pathExists_may
    exact ⟨rfl, rfl⟩
  have hcleared : (clearPendingConfirmation E session).May authorityExec
      (fun r t => r = .ok () ∧ t = .empty) .empty := by
    apply pathExists_may
    exact ⟨rfl, rfl⟩
  apply hunused.bind
  swap
  · exact nofun
  rintro _ _ ⟨⟨⟩, rfl⟩
  apply ensure_may rfl
  apply hcleared.bind
  swap
  · exact nofun
  rintro _ _ ⟨_, rfl⟩
  refine ⟨.time clockLimit, clockLimit, .empty, rfl, ?_⟩
  apply ensure_may (decide_eq_true hsigned)
  exact ensure_fails (decide_eq_false (Int.not_le.mpr hover)) rfl

def longConfirmation (ttl : UInt64) : StageTaskAuthorityConfirmation where
  confirmationId := "confirmation-1"
  action := "task_authority_issue"
  consequenceClass := "control_plane"
  command := ⟨bytesOf "\x7b\x7d", some "task_authority_issue", none, none⟩
  targetId := "target-1"
  url := "https://example.com/"
  ttlSeconds := ttl

def oldReceipts (age : UInt64) : CleanupTaskAuthorityConfirmations where
  retainCount := 0
  minAgeSeconds := age
  requestedBy := ⟨"operator", "requester-1"⟩
  apply := false
  reviewSha256 := none

theorem stagesFor_iff : StagesFor E ttl ↔
    2 ^ 63 ≤ ttl.toNat ∨ clockLimit + ttl.toNat * nanosPerSecond ≤ chronoMax := by
  constructor
  · intro hstages
    by_contra hover
    rw [not_or] at hover
    obtain ⟨choices, r, t, hrun, hr⟩ := (stage_may_overflow E "session-1" (longConfirmation ttl)
      List.mem_cons_self (Nat.not_le.mp hover.1) (Int.not_le.mp hover.2)).run
    refine (hstages "session-1" (longConfirmation ttl) choices .empty r rfl ?_).1 hr
    rw [hrun]
  · rintro h session input choices s r rfl hrun
    have hend := ((stage_does E session input s h).run choices).2 r hrun
    cases r with
    | ok record => exact ⟨nofun, fun _ hr => Except.ok.inj hr ▸ hend⟩
    | error e =>
      refine ⟨fun he => hend (Except.error.inj he), ?_⟩
      rintro _ ⟨⟩

theorem cleanup_does (E : AuthorityEnv) (session : String)
    (input : CleanupTaskAuthorityConfirmations) (s : AuthorityStore)
    (h : 2 ^ 63 ≤ input.minAgeSeconds.toNat ∨
      chronoMin ≤ -(input.minAgeSeconds.toNat * nanosPerSecond)) :
    Does (fun _ _ => True)
      (Outcome (fun cleanup _ => ∃ (now : Int) (safe : List SafeReceipt), 0 ≤ now ∧
          now ≤ clockLimit ∧
          (∀ receipt ∈ safe, FoundIn s session receipt ∧
            confirmationReceiptAgeAnchor E receipt.record = .ok receipt.anchor) ∧
          cleanup.candidates = (((safe.mergeSort SafeReceipt.le).take
            (safe.length - input.retainCount.toNat)).filter fun receipt =>
              receipt.anchor + input.minAgeSeconds.toNat * nanosPerSecond ≤ now).map
                (SafeReceipt.evidence E))
        fun e _ => e ≠ .overflow)
      (cleanupTaskAuthorityConfirmations E session input) s := by
  apply Prog.Alone.ensure_then
  · exact fun _ => nofun
  intro _
  apply utcNow_then
  intro now hlo hhi
  apply Prog.Alone.ensure_then
  · exact fun _ => nofun
  intro hsigned
  apply Prog.Alone.ensure_then
  · intro hover
    have hsigned := of_decide_eq_true hsigned
    have hover := of_decide_eq_false hover
    omega
  intro _
  apply readDir_then
  · exact nofun
  intro names _
  apply ((inspectReceipts_does names [] 0 (List.forall_mem_nil _)).avoid
    (inspectReceipts_avoids _ _ _ _)).bind
  swap
  · exact fun e _ he => fun h => he.2 (congrArg _ h)
  intro inspected t ht
  obtain ⟨⟨rfl, hfound⟩, _⟩ := ht
  apply (loadConfirmationTombstones_avoids _).then
  swap
  · exact fun _ _ he => he
  intro loaded u
  apply Prog.Alone.ensure_then
  · exact fun _ => nofun
  intro _
  have hpicked : cleanupCandidates inspected.1 input.retainCount.toNat
        (now - input.minAgeSeconds.toNat * nanosPerSecond) =
      ((inspected.1.mergeSort SafeReceipt.le).take
        (inspected.1.length - input.retainCount.toNat)).filter fun receipt =>
          receipt.anchor + input.minAgeSeconds.toNat * nanosPerSecond ≤ now := by
    unfold cleanupCandidates
    congr
    funext receipt
    exact decide_eq_decide.mpr (by omega)
  rw [hpicked]
  dsimp only
  split
  · apply (retireReceipts_avoids _ _ _).then
    swap
    · exact fun _ _ he => he
    intro final v
    apply pathExists_then
    exact .pure ⟨now, _, hlo, hhi, hfound, rfl⟩
  · apply pathExists_then
    exact .pure ⟨now, _, hlo, hhi, hfound, rfl⟩

theorem cleanup_may_overflow (E : AuthorityEnv) (session : String)
    (input : CleanupTaskAuthorityConfirmations) (s : AuthorityStore)
    (hprincipal : (!isBlank input.requestedBy.id &&
      (input.requestedBy.kind = "operator" || input.requestedBy.kind = "service")) = true)
    (hsigned : input.minAgeSeconds.toNat < 2 ^ 63)
    (hover : -(input.minAgeSeconds.toNat * nanosPerSecond) < chronoMin) :
    (cleanupTaskAuthorityConfirmations E session input).May authorityExec
      (fun r _ => r = .error .overflow) s := by
  apply ensure_may hprincipal
  apply utcNow_may
  apply ensure_may (decide_eq_true hsigned)
  exact ensure_fails (decide_eq_false (by omega)) rfl

theorem cleansUpAfter_iff : CleansUpAfter E age ↔
    2 ^ 63 ≤ age.toNat ∨ chronoMin ≤ -(age.toNat * nanosPerSecond) := by
  constructor
  · intro hcleans
    by_contra hover
    rw [not_or] at hover
    have hid : isBlank "requester-1" = false := by decide
    have hprincipal : (!isBlank (oldReceipts age).requestedBy.id &&
        ((oldReceipts age).requestedBy.kind = "operator" ||
          (oldReceipts age).requestedBy.kind = "service")) = true := by
      change (!isBlank "requester-1" && _) = true
      rw [hid]
      rfl
    obtain ⟨choices, r, t, hrun, hr⟩ := (cleanup_may_overflow E "session-1"
      (oldReceipts age) .empty hprincipal (Nat.not_le.mp hover.1) (Int.not_le.mp hover.2)).run
    refine (hcleans "session-1" (oldReceipts age) choices .empty r rfl ?_).1 hr
    rw [hrun]
  · rintro h session input choices s r rfl hrun
    have hend := ((cleanup_does E session input s h).run choices).2 r hrun
    cases r with
    | ok cleanup => exact ⟨nofun, fun _ hr => Except.ok.inj hr ▸ hend⟩
    | error e => exact ⟨fun he => hend (Except.error.inj he), nofun⟩

end Confirmations

/-- Each duration is refused or used as it is exactly below the limits of the arithmetic: the
seconds and the milliseconds fit into a word, and the calendar reaches from the clock to the end
of the lifetime and to the cutoff. -/
theorem user_durations_exact (build : Build) (E : AuthorityEnv) :
    (∀ days, CleansByAge build days ↔ days.toNat * 86400 < 2 ^ 64) ∧
    (∀ text, HonoursIdleTimeout build text ↔
      ∀ n, requestedMilliseconds text = some n → n < 2 ^ 64) ∧
    (∀ ttl, StagesFor E ttl ↔
      2 ^ 63 ≤ ttl.toNat ∨ clockLimit + ttl.toNat * nanosPerSecond ≤ chronoMax) ∧
    ∀ age, CleansUpAfter E age ↔
      2 ^ 63 ≤ age.toNat ∨ chronoMin ≤ -(age.toNat * nanosPerSecond) :=
  ⟨cleansByAge_iff build, honoursIdleTimeout_iff, fun _ => stagesFor_iff,
    fun _ => cleansUpAfter_iff⟩

/-- Without overflow checks a file of eighteen hours goes when 213503982334602 days are asked for,
and a timeout of 18446744073709552 seconds becomes 384 milliseconds. -/
theorem user_durations_wrap :
    stateClean .wrapping (.listed [⟨"a.json", some 0, true⟩]) (64800 * nanosPerSecond)
        213503982334602 = .ok (⟨1, 0, 213503982334602⟩, .listed []) ∧
      ¬ CleansByAge .wrapping 213503982334602 ∧
      parseIdleTimeout .wrapping "18446744073709552s" = .ok "384" ∧
      ¬ HonoursIdleTimeout .wrapping "18446744073709552s" := by
  refine ⟨by decide, ?_, by decide, ?_⟩
  · rw [cleansByAge_iff]
    decide
  · rw [honoursIdleTimeout_iff]
    have hasked : requestedMilliseconds "18446744073709552s" = some 18446744073709552000 := by
      decide
    exact fun h => absurd (h _ hasked) (by decide)

end AgentBrowser
