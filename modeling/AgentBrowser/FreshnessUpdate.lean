import AgentBrowser.KeyedRows
import AgentBrowser.ServiceConfig

namespace AgentBrowser
open KeyedRows
set_option autoImplicit true

section Lists

theorem pushMissing_eq_put (values : List String) (value : String) :
    pushMissing values value = put id value values := by
  induction values with
  | nil => rfl
  | cons other values ih =>
    by_cases hsame : other = value
    · rw [put, if_pos (by exact hsame), pushMissing, if_pos (by simp [hsame]), hsame]
    · rw [put, if_neg (by exact hsame), ← ih, pushMissing, pushMissing, List.contains_cons]
      have hne : (value == other) = false := by simpa using Ne.symm hsame
      rw [hne, Bool.false_or]
      split <;> rfl

theorem foldl_pushMissing (news values : List String) :
    news.foldl pushMissing values = putAll id news values := by
  induction news generalizing values with
  | nil => rfl
  | cons value news ih => rw [List.foldl_cons, ih, pushMissing_eq_put, putAll_cons]

theorem uniqueNonEmptyStrings_eq (values : List String) :
    uniqueNonEmptyStrings values = putAll id ((values.map trim).filter (· ≠ "")) [] := by
  have hskip (texts out : List String) :
      texts.foldl (fun out value => if value = "" then out else pushMissing out value) out =
        putAll id (texts.filter (· ≠ "")) out := by
    induction texts generalizing out with
    | nil => rfl
    | cons text texts ih =>
      rw [List.foldl_cons, ih]
      by_cases hblank : text = ""
      · rw [if_pos hblank, List.filter_cons_of_neg (by simpa using hblank)]
      · rw [if_neg hblank, List.filter_cons_of_pos (by simpa using hblank), putAll_cons,
          pushMissing_eq_put]
  exact hskip _ _

theorem mem_uniqueNonEmptyStrings {values : List String} {target : String} :
    target ∈ uniqueNonEmptyStrings values ↔
      target ≠ "" ∧ ∃ value ∈ values, trim value = target := by
  rw [uniqueNonEmptyStrings_eq, mem_putAll, List.mem_filter, List.mem_map, decide_eq_true_eq]
  constructor
  · rintro (⟨hvalue, hne⟩ | hnone)
    · exact ⟨hne, hvalue⟩
    · cases hnone
  · rintro ⟨hne, hvalue⟩
    exact .inl ⟨hvalue, hne⟩

theorem uniqueNonEmptyStrings_nodup (values : List String) :
    (uniqueNonEmptyStrings values).Nodup := by
  rw [uniqueNonEmptyStrings_eq]
  exact nodup_putAll List.nodup_nil

theorem upsertReadiness_eq_put (row : ProfileTargetReadiness)
    (rows : List ProfileTargetReadiness) :
    upsertReadiness row rows = put (·.targetServiceId) row rows := by
  induction rows with
  | nil => rfl
  | cons other rows ih => rw [upsertReadiness, put, ih]

theorem foldl_filter_ne (news values : List String) :
    news.foldl (fun ids target => ids.filter (· ≠ target)) values =
      values.filter fun value => value ∉ news := by
  induction news generalizing values with
  | nil => simp
  | cons target news ih =>
    rw [List.foldl_cons, ih, List.filter_filter]
    refine List.filter_congr fun value _ => ?_
    rw [Bool.eq_iff_iff, Bool.and_eq_true, decide_eq_true_eq, decide_eq_true_eq,
      decide_eq_true_eq, List.mem_cons, not_or, and_comm]

theorem getElem?_foldl_modify {keys : List String} (hnodup : keys.Nodup) (f : α → α)
    (rows : BTreeMap α) (key : String) :
    (keys.foldl (fun rows key => rows.modify key f) rows)[key]? =
      if key ∈ keys then rows[key]?.map f else rows[key]? := by
  induction keys generalizing rows with
  | nil => rfl
  | cons first keys ih =>
    rw [List.nodup_cons] at hnodup
    rw [List.foldl_cons, ih hnodup.2]
    by_cases hsame : key = first
    · rw [if_neg (hsame ▸ hnodup.1), hsame, Std.ExtTreeMap.getElem?_modify_self,
        if_pos List.mem_cons_self]
    · have hother : (rows.modify first f)[key]? = rows[key]? :=
        Std.ExtTreeMap.getElem?_modify.trans
          (if_neg fun hcompare => hsame (Std.LawfulEqCmp.eq_of_compare hcompare).symm)
      rw [hother]
      simp only [List.mem_cons, hsame, false_or]

end Lists

namespace ProfileFreshnessUpdate
variable (update : ProfileFreshnessUpdate)

/-- The first of the three names that is not blank. -/
def firstNonBlank : Option String :=
  ((nonBlank update.loginId).or (nonBlank update.siteId)).or (nonBlank update.targetServiceId)

/-- The update is about this target. -/
def Names (target : String) : Prop :=
  target ≠ "" ∧ ((∃ value ∈ update.targetServiceIds, trim value = target) ∨
    update.firstNonBlank = some target)

/-- The target is listed, or is the first of the three names that is given at all. -/
def Takes (target : String) : Prop :=
  target ≠ "" ∧ ((∃ value ∈ update.targetServiceIds, trim value = target) ∨
    ∃ value, update.loginIdForRow = some value ∧ trim value = target)

def nextHandoffState : ProfileSeedingHandoffState :=
  if update.verifies then .fresh else .verificationPending

instance (target : String) : Decidable (update.Names target) :=
  inferInstanceAs (Decidable (_ ∧ _))

variable {update}

theorem mem_targetIds {target : String} : target ∈ update.targetIds ↔ update.Takes target := by
  rw [targetIds, mem_uniqueNonEmptyStrings, Takes]
  simp only [List.mem_append, Option.mem_toList, or_and_right, exists_or]

theorem targetIds_nodup : update.targetIds.Nodup := uniqueNonEmptyStrings_nodup _

theorem nonBlank_of_trim {value : String} (h : trim value = target) (hne : target ≠ "") :
    nonBlank (some value) = some target := by
  rw [nonBlank, Option.map_some, h, Option.filter_some, if_pos (by simpa using hne)]

theorem firstNonBlank_of_given {value target : String} (h : update.loginIdForRow = some value)
    (htarget : trim value = target) (hne : target ≠ "") : update.firstNonBlank = some target := by
  unfold loginIdForRow at h
  unfold firstNonBlank
  have hvalue := nonBlank_of_trim htarget hne
  cases hlogin : update.loginId with
  | some login =>
    rw [hlogin, Option.some_or, Option.some_or] at h
    rw [h, hvalue, Option.some_or, Option.some_or]
  | none =>
    cases hsite : update.siteId with
    | some site =>
      rw [hlogin, hsite, Option.none_or, Option.some_or] at h
      rw [h, hvalue]
      rfl
    | none =>
      rw [hlogin, hsite, Option.none_or, Option.none_or] at h
      rw [h, hvalue]
      rfl

theorem Takes.names {target : String} (h : update.Takes target) : update.Names target := by
  obtain ⟨hne, hlisted | ⟨value, hvalue, htarget⟩⟩ := h
  · exact ⟨hne, .inl hlisted⟩
  · exact ⟨hne, .inr (firstNonBlank_of_given hvalue htarget hne)⟩

end ProfileFreshnessUpdate

section Freshened
variable (before : BrowserProfile) (update : ProfileFreshnessUpdate) (verifiedAt : String)

theorem freshened_targetServiceIds :
    (before.freshened update verifiedAt).targetServiceIds =
      putAll id update.targetIds before.targetServiceIds :=
  foldl_pushMissing _ _

theorem freshened_targetReadiness :
    (before.freshened update verifiedAt).targetReadiness =
      putAll (·.targetServiceId) (update.targetIds.map (update.row verifiedAt))
        before.targetReadiness := by
  rw [putAll, List.foldl_map]
  simp only [← upsertReadiness_eq_put]
  rfl

theorem map_row_targetServiceId (targets : List String) :
    (targets.map (update.row verifiedAt)).map (·.targetServiceId) = targets := by
  rw [List.map_map]
  exact List.map_id targets

theorem freshened_accountIds :
    (before.freshened update verifiedAt).accountIds =
      putAll id (uniqueNonEmptyStrings (update.accountIds ++ update.accountId.toList))
        before.accountIds :=
  foldl_pushMissing _ _

theorem freshened_authenticatedServiceIds :
    (before.freshened update verifiedAt).authenticatedServiceIds =
      if update.updateAuthenticatedServiceIds.getD true then
        if update.verifies then putAll id update.targetIds before.authenticatedServiceIds
        else before.authenticatedServiceIds.filter fun target => target ∉ update.targetIds
      else before.authenticatedServiceIds := by
  rw [← foldl_pushMissing, ← foldl_filter_ne]
  rfl

/-- The same update with the same times changes nothing more. -/
theorem freshened_again :
    (before.freshened update verifiedAt).freshened update verifiedAt =
      before.freshened update verifiedAt := by
  let once := before.freshened update verifiedAt
  have htargets : (once.freshened update verifiedAt).targetServiceIds = once.targetServiceIds := by
    rw [freshened_targetServiceIds]
    refine putAll_of_mem fun target htarget => ?_
    rw [freshened_targetServiceIds]
    exact mem_putAll.mpr (.inl htarget)
  have hrows : (once.freshened update verifiedAt).targetReadiness = once.targetReadiness := by
    rw [freshened_targetReadiness, freshened_targetReadiness]
    refine putAll_putAll ?_
    rw [map_row_targetServiceId]
    exact ProfileFreshnessUpdate.targetIds_nodup
  have haccounts : (once.freshened update verifiedAt).accountIds = once.accountIds := by
    rw [freshened_accountIds]
    refine putAll_of_mem fun account haccount => ?_
    rw [freshened_accountIds]
    exact mem_putAll.mpr (.inl haccount)
  have hauthenticated : (once.freshened update verifiedAt).authenticatedServiceIds =
      once.authenticatedServiceIds := by
    rw [freshened_authenticatedServiceIds, freshened_authenticatedServiceIds]
    split
    · split
      · exact putAll_of_mem fun target htarget => mem_putAll.mpr (.inl htarget)
      · rw [List.filter_filter]
        simp only [Bool.and_self]
    · rfl
  calc once.freshened update verifiedAt
      = { once with
          targetServiceIds := (once.freshened update verifiedAt).targetServiceIds
          targetReadiness := (once.freshened update verifiedAt).targetReadiness
          accountIds := (once.freshened update verifiedAt).accountIds
          authenticatedServiceIds :=
            (once.freshened update verifiedAt).authenticatedServiceIds } := rfl
    _ = once := by rw [htargets, hrows, haccounts, hauthenticated]

end Freshened

/-- The profile has one row for the target, in the state of the update, and lists it as it has
to. -/
structure TargetRefreshed (update : ProfileFreshnessUpdate) (profile : BrowserProfile)
    (target : String) : Prop where
  row : ∃ row, profile.targetReadiness.filter (·.targetServiceId = target) = [row] ∧
    row.state = update.readinessState
  listed : target ∈ profile.targetServiceIds
  authenticated : update.updateAuthenticatedServiceIds.getD true = true →
    (target ∈ profile.authenticatedServiceIds ↔ update.verifies = true)

/-- What the two profiles have for targets that the update does not name. -/
structure OthersKept (update : ProfileFreshnessUpdate) (before profile : BrowserProfile) :
    Prop where
  rows : profile.targetReadiness.filter (fun row => ¬ update.Names row.targetServiceId) =
    before.targetReadiness.filter fun row => ¬ update.Names row.targetServiceId
  targets : profile.targetServiceIds.filter (fun target => ¬ update.Names target) =
    before.targetServiceIds.filter fun target => ¬ update.Names target
  authenticated : profile.authenticatedServiceIds.filter (fun target => ¬ update.Names target) =
    before.authenticatedServiceIds.filter fun target => ¬ update.Names target

section Profiles
variable {before : BrowserProfile} {update : ProfileFreshnessUpdate} {verifiedAt target : String}

theorem refreshed_of_takes (hrows : (before.targetReadiness.map (·.targetServiceId)).Nodup)
    (h : update.Takes target) :
    TargetRefreshed update (before.freshened update verifiedAt) target := by
  have hmem := ProfileFreshnessUpdate.mem_targetIds.mpr h
  have hnodup : ((before.freshened update verifiedAt).targetReadiness.map
      (·.targetServiceId)).Nodup := by
    rw [freshened_targetReadiness, map_putAll]
    exact nodup_putAll hrows
  have hrow : row? (·.targetServiceId) target
      (before.freshened update verifiedAt).targetReadiness =
        some (update.row verifiedAt target) := by
    rw [freshened_targetReadiness]
    refine row?_putAll ?_ (List.mem_map_of_mem hmem) rfl
    rw [map_row_targetServiceId]
    exact ProfileFreshnessUpdate.targetIds_nodup
  refine ⟨⟨_, filter_eq_of_row? hnodup hrow, rfl⟩, ?_, fun hupdates => ?_⟩
  · rw [freshened_targetServiceIds]
    exact mem_putAll.mpr (.inl hmem)
  · rw [freshened_authenticatedServiceIds, if_pos hupdates]
    split
    · rename_i hverifies
      exact iff_of_true (mem_putAll.mpr (.inl hmem)) hverifies
    · rename_i hverifies
      refine iff_of_false (fun hkept => ?_) hverifies
      exact of_decide_eq_true (List.mem_filter.mp hkept).2 hmem

/-- A target that is not taken is as it was. -/
theorem refreshed_of_not_takes (h : ¬ update.Takes target) :
    TargetRefreshed update (before.freshened update verifiedAt) target ↔
      TargetRefreshed update before target := by
  have hmem : target ∉ update.targetIds := fun hmem =>
    h (ProfileFreshnessUpdate.mem_targetIds.mp hmem)
  have hrows : (before.freshened update verifiedAt).targetReadiness.filter
      (·.targetServiceId = target) =
        before.targetReadiness.filter (·.targetServiceId = target) := by
    rw [freshened_targetReadiness]
    refine filter_putAll fun row hrow other hother => decide_eq_false fun hsame => ?_
    obtain ⟨taken, htaken, rfl⟩ := List.mem_map.mp hrow
    exact hmem (hsame.symm.trans hother ▸ htaken)
  have htargets : target ∈ (before.freshened update verifiedAt).targetServiceIds ↔
      target ∈ before.targetServiceIds := by
    rw [freshened_targetServiceIds, mem_putAll, or_iff_right hmem]
  have hauthenticated : target ∈ (before.freshened update verifiedAt).authenticatedServiceIds ↔
      target ∈ before.authenticatedServiceIds := by
    rw [freshened_authenticatedServiceIds]
    split
    · split
      · rw [mem_putAll, or_iff_right hmem]
      · rw [List.mem_filter, decide_eq_true_eq, and_iff_left hmem]
    · rfl
  constructor
  · rintro ⟨hrow, htarget, hlisted⟩
    exact ⟨hrows ▸ hrow, htargets.mp htarget, fun hupdates =>
      hauthenticated.symm.trans (hlisted hupdates)⟩
  · rintro ⟨hrow, htarget, hlisted⟩
    exact ⟨hrows ▸ hrow, htargets.mpr htarget, fun hupdates =>
      hauthenticated.trans (hlisted hupdates)⟩

theorem othersKept : OthersKept update before (before.freshened update verifiedAt) := by
  have hnamed {target : String} (hmem : target ∈ update.targetIds) :
      decide (¬ update.Names target) = false :=
    decide_eq_false (not_not.mpr (ProfileFreshnessUpdate.mem_targetIds.mp hmem).names)
  refine ⟨?_, ?_, ?_⟩
  · rw [freshened_targetReadiness]
    refine filter_putAll fun row hrow other hother => ?_
    obtain ⟨taken, htaken, rfl⟩ := List.mem_map.mp hrow
    exact hother ▸ hnamed htaken
  · rw [freshened_targetServiceIds]
    refine filter_putAll fun target htarget other hother => ?_
    obtain rfl : other = target := hother
    exact hnamed htarget
  · rw [freshened_authenticatedServiceIds]
    split
    · split
      · refine filter_putAll fun target htarget other hother => ?_
        obtain rfl : other = target := hother
        exact hnamed htarget
      · rw [List.filter_filter]
        refine List.filter_congr fun target _ => ?_
        by_cases hmem : target ∈ update.targetIds
        · rw [hnamed hmem, Bool.false_and]
        · rw [decide_eq_true hmem, Bool.and_true]
    · rfl

end Profiles

section Handoffs
variable {config after : ConfigState} {id : String} {update : ProfileFreshnessUpdate}
  {now updatedAt : String} {profile : BrowserProfile} {record : ProfileSeedingHandoffRecord}

def ProfileSeedingHandoffRecord.Awaits (record : ProfileSeedingHandoffRecord) : Prop :=
  record.state = .seedingClosedUnverified ∨ record.state = .verificationPending

theorem ProfileSeedingHandoffRecord.advanced_eq_self {next : ProfileSeedingHandoffState} :
    record.advanced next updatedAt = record ↔ ¬ (record.Awaits ∧ record.state ≠ next) := by
  rw [ProfileSeedingHandoffRecord.advanced]
  split
  · rename_i hadvances
    refine iff_of_false (fun hsame => ?_) (not_not.mpr hadvances)
    exact hadvances.2 (congrArg (·.state) hsame).symm
  · rename_i hkept
    exact iff_of_true rfl hkept

theorem profileSeedingHandoffId_injective (profileId : String) :
    Function.Injective (profileSeedingHandoffId profileId) := by
  intro first second h
  have hlists := congrArg String.toList h
  simp only [profileSeedingHandoffId, String.toList_append] at hlists
  exact String.toList_inj.mp (List.append_cancel_left hlists)

/-- Only the handoffs of the taken targets are advanced. -/
theorem advanced_getElem? (key : String) :
    (config.advanceProfileSeedingHandoffsAfterFreshness id update
        updatedAt).profileSeedingHandoffs[key]? =
      if key ∈ update.targetIds.map (profileSeedingHandoffId id) then
        config.profileSeedingHandoffs[key]?.map (·.advanced update.nextHandoffState updatedAt)
      else config.profileSeedingHandoffs[key]? := by
  rw [← getElem?_foldl_modify (ProfileFreshnessUpdate.targetIds_nodup.map
    (profileSeedingHandoffId_injective id)), List.foldl_map]
  rfl

/-- A handoff changes exactly if it is one of a taken target, awaits an outcome and is not there
yet. -/
theorem advanced_ne_iff (config : ConfigState) (updatedAt key : String) :
    (config.advanceProfileSeedingHandoffsAfterFreshness id update
        updatedAt).profileSeedingHandoffs[key]? ≠ config.profileSeedingHandoffs[key]? ↔
      ∃ target record, update.Takes target ∧ key = profileSeedingHandoffId id target ∧
        config.profileSeedingHandoffs[key]? = some record ∧ record.Awaits ∧
          record.state ≠ update.nextHandoffState := by
  rw [advanced_getElem?]
  constructor
  · intro hchanged
    split at hchanged
    · rename_i hkey
      obtain ⟨target, htarget, rfl⟩ := List.mem_map.mp hkey
      cases hrecord : config.profileSeedingHandoffs[profileSeedingHandoffId id target]? with
      | none =>
        rw [hrecord] at hchanged
        exact absurd rfl hchanged
      | some record =>
        rw [hrecord] at hchanged
        have hadvanced : record.advanced update.nextHandoffState updatedAt ≠ record :=
          fun hsame => hchanged (congrArg some hsame)
        obtain ⟨hawaits, hnext⟩ :=
          not_not.mp (mt ProfileSeedingHandoffRecord.advanced_eq_self.mpr hadvanced)
        exact ⟨target, record, ProfileFreshnessUpdate.mem_targetIds.mp htarget, rfl, rfl, hawaits,
          hnext⟩
    · exact absurd rfl hchanged
  · rintro ⟨target, record, htakes, rfl, hrecord, hawaits, hnext⟩
    rw [if_pos (List.mem_map_of_mem (ProfileFreshnessUpdate.mem_targetIds.mpr htakes)), hrecord]
    intro hsame
    exact ProfileSeedingHandoffRecord.advanced_eq_self.mp (Option.some.inj hsame) ⟨hawaits, hnext⟩

end Handoffs

section Law
variable {config after : ConfigState} {id : String} {update : ProfileFreshnessUpdate}
  {now updatedAt : String} {profile before : BrowserProfile}

/-- What an update that is accepted has done. -/
theorem updateProfileFreshness_ok
    (h : config.updateProfileFreshness id update now updatedAt = (.ok profile, after)) :
    ∃ before, config.state.profiles[id]? = some before ∧
      profile = before.freshened update (update.lastVerifiedAt.getD now) ∧
      validateEntityId id "profile" = .ok () ∧ update.targetIds.isEmpty = false ∧
      validateProfilePolicy profile = .ok () ∧
      after = ((config.setProfile id profile).advanceProfileSeedingHandoffsAfterFreshness id update
        updatedAt).markProfilePersisted id := by
  unfold ConfigState.updateProfileFreshness at h
  split at h
  · cases h
  · rename_i hid
    split at h
    · cases h
    · rename_i htargets
      split at h
      · cases h
      · rename_i before hbefore
        dsimp only at h
        split at h
        · cases h
        · rename_i hpolicy
          obtain ⟨hprofile, hafter⟩ := Prod.mk.inj h
          obtain rfl := Except.ok.inj hprofile
          exact ⟨before, hbefore, rfl, hid, Bool.eq_false_iff.mpr htargets, hpolicy, hafter.symm⟩

theorem updateProfileFreshness_accepted (update : ProfileFreshnessUpdate)
    (now updatedAt : String) (hbefore : config.state.profiles[id]? = some before)
    (hid : validateEntityId id "profile" = .ok ()) (htargets : update.targetIds.isEmpty = false)
    (hpolicy : validateProfilePolicy
      (before.freshened update (update.lastVerifiedAt.getD now)) = .ok ()) :
    let profile := before.freshened update (update.lastVerifiedAt.getD now)
    config.updateProfileFreshness id update now updatedAt =
      (.ok profile, ((config.setProfile id profile).advanceProfileSeedingHandoffsAfterFreshness id
        update updatedAt).markProfilePersisted id) := by
  unfold ConfigState.updateProfileFreshness
  rw [hid, htargets, hbefore]
  dsimp only
  rw [hpolicy]
  rfl

/-- An update of an accepted kind is accepted again, and gives the same profile. -/
theorem updateProfileFreshness_again
    (h : config.updateProfileFreshness id update now updatedAt = (.ok profile, after)) :
    (after.updateProfileFreshness id update now updatedAt).1 = .ok profile := by
  obtain ⟨before, _, hprofile, hid, htargets, hpolicy, rfl⟩ := updateProfileFreshness_ok h
  have hstored : (((config.setProfile id profile).advanceProfileSeedingHandoffsAfterFreshness id
      update updatedAt).markProfilePersisted id).state.profiles[id]? = some profile :=
    Std.ExtTreeMap.getElem?_insert_self
  have hsame : profile.freshened update (update.lastVerifiedAt.getD now) = profile := by
    rw [hprofile]
    exact freshened_again _ _ _
  rw [updateProfileFreshness_accepted _ _ _ hstored hid htargets (by rw [hsame]; exact hpolicy)]
  exact congrArg Except.ok hsame

/-- The update has touched its targets and nothing else. -/
structure TouchesTargets (config after : ConfigState) (id : String)
    (update : ProfileFreshnessUpdate) (now updatedAt : String) (before profile : BrowserProfile) :
    Prop where
  stored : after.state.profiles[id]? = some profile
  refreshed : ∀ target, update.Names target → TargetRefreshed update profile target
  others : OthersKept update before profile
  profiles : ∀ other ≠ id, after.state.profiles[other]? = config.state.profiles[other]?
  handoffs : ∀ key : String,
    after.profileSeedingHandoffs[key]? ≠ config.profileSeedingHandoffs[key]? →
    ∃ record, config.profileSeedingHandoffs[key]? = some record ∧ record.profileId = id ∧
      update.Names record.targetServiceId ∧ record.Awaits
  again : (after.updateProfileFreshness id update now updatedAt).1 = .ok profile

/-- An accepted update touches exactly its targets if and only if each target that it names without
taking it is in the asked state already, and the awaiting handoffs under the derived ids are those
of the profile and the targets. -/
theorem freshness_touches_targets
    (h : config.updateProfileFreshness id update now updatedAt = (.ok profile, after))
    (hbefore : config.state.profiles[id]? = some before)
    (hrows : (before.targetReadiness.map (·.targetServiceId)).Nodup) :
    TouchesTargets config after id update now updatedAt before profile ↔
      (∀ target, update.Names target → ¬ update.Takes target →
        TargetRefreshed update before target) ∧
      ∀ target record, update.Takes target →
        config.profileSeedingHandoffs[profileSeedingHandoffId id target]? = some record →
          record.Awaits → record.state ≠ update.nextHandoffState →
            record.profileId = id ∧ update.Names record.targetServiceId := by
  have hagain := updateProfileFreshness_again h
  obtain ⟨found, hfound, rfl, _, _, _, rfl⟩ := updateProfileFreshness_ok h
  obtain rfl := Option.some.inj (hbefore.symm.trans hfound)
  constructor
  · intro hexact
    constructor
    · intro target hnames hhidden
      exact (refreshed_of_not_takes hhidden).mp (hexact.refreshed target hnames)
    · intro target record htakes hrecord hawaits hnext
      obtain ⟨owner, howner, hprofile, htarget, _⟩ := hexact.handoffs _
        ((advanced_ne_iff config updatedAt _).mpr
          ⟨target, record, htakes, rfl, hrecord, hawaits, hnext⟩)
      obtain rfl := Option.some.inj (hrecord.symm.trans howner)
      exact ⟨hprofile, htarget⟩
  · rintro ⟨hhidden, howned⟩
    refine ⟨Std.ExtTreeMap.getElem?_insert_self, fun target hnames => ?_, othersKept,
      fun other hother => ?_, fun key hchanged => ?_, hagain⟩
    · by_cases htakes : update.Takes target
      · exact refreshed_of_takes hrows htakes
      · exact (refreshed_of_not_takes htakes).mpr (hhidden target hnames htakes)
    · exact Std.ExtTreeMap.getElem?_insert.trans
        (if_neg fun hsame => hother (Std.LawfulEqCmp.eq_of_compare hsame).symm)
    · obtain ⟨target, record, htakes, rfl, hrecord, hawaits, hnext⟩ :=
        (advanced_ne_iff config updatedAt key).mp hchanged
      obtain ⟨hprofile, htarget⟩ := howned target record htakes hrecord hawaits hnext
      exact ⟨record, hrecord, hprofile, htarget, hawaits⟩

end Law

section Sample

def plainConfig : ConfigState where
  state := { profiles := (∅ : BTreeMap BrowserProfile).insert "p" { id := "p" } }

def googleUpdate : ProfileFreshnessUpdate where
  loginId := some "google"

theorem freshness_touches_targets_google :
    ∃ profile after,
      plainConfig.updateProfileFreshness "p" googleUpdate "t0" "t1" = (.ok profile, after) ∧
      TouchesTargets plainConfig after "p" googleUpdate "t0" "t1" { id := "p" } profile := by
  have hbefore : plainConfig.state.profiles["p"]? = some { id := "p" } := by decide
  have haccepted := updateProfileFreshness_accepted googleUpdate "t0" "t1" hbefore
    (by decide) (by decide) (by decide)
  refine ⟨_, _, haccepted, (freshness_touches_targets haccepted hbefore (by decide)).mpr ⟨?_, ?_⟩⟩
  · rintro target ⟨hne, hlisted | hfirst⟩ hhidden
    · obtain ⟨_, hnone, _⟩ := hlisted
      cases hnone
    · have hgoogle : googleUpdate.firstNonBlank = some (trim "google") := by decide
      exact absurd ⟨hne, .inr ⟨_, rfl, Option.some.inj (hgoogle.symm.trans hfirst)⟩⟩ hhidden
  · intro target record _ hrecord
    have hnone : plainConfig.profileSeedingHandoffs[profileSeedingHandoffId "p" target]? = none :=
      Std.ExtTreeMap.getElem?_empty
    rw [hnone] at hrecord
    cases hrecord

/-- A login that is given as a blank text. -/
def blankLogin : ProfileFreshnessUpdate where
  loginId := some ""
  siteId := some "google"
  targetServiceIds := ["gmail"]

/-- The site is left out behind the blank login. -/
theorem site_behind_blank_login :
    ¬ ∀ config id update now updatedAt before profile after,
      ConfigState.updateProfileFreshness config id update now updatedAt = (.ok profile, after) →
      config.state.profiles[id]? = some before →
      (before.targetReadiness.map (·.targetServiceId)).Nodup →
        TouchesTargets config after id update now updatedAt before profile := by
  intro h
  have hbefore : plainConfig.state.profiles["p"]? = some { id := "p" } := by decide
  have haccepted := updateProfileFreshness_accepted blankLogin "t0" "t1" hbefore
    (by decide) (by decide) (by decide)
  have hlisted := ((h _ _ _ _ _ _ _ _ haccepted hbefore (by decide)).refreshed "google"
    (by decide)).listed
  revert hlisted
  decide

end Sample

end AgentBrowser
