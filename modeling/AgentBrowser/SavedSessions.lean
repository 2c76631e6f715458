import AgentBrowser.ServiceModel
import Mathlib.Data.List.MinMax
import Mathlib.Data.List.Infix

namespace AgentBrowser
set_option autoImplicit true

/-- A call of `save_state` without a path. -/
structure SessionSave where
  sessionName : Option String
  sessionId : String
  /-- An encryption key is set. -/
  encrypted : Bool
  savedAt : Nat
  deriving DecidableEq, Repr

/-- A file in the sessions directory. The owner is not part of the file: it is the name under
which the state in it was saved. -/
structure SessionFile where
  fileName : String
  modified : Nat
  owner : String
  deriving DecidableEq, Repr

namespace SessionSave

def name (save : SessionSave) : String := save.sessionName.getD "default"

def fileName (save : SessionSave) : String :=
  save.name ++ "-" ++ save.sessionId ++ ".json" ++ (if save.encrypted then ".enc" else "")

end SessionSave

/-- The sessions directory after one more save, by file name. -/
def saveState (dir : BTreeMap SessionFile) (save : SessionSave) : BTreeMap SessionFile :=
  dir.insert save.fileName
    { fileName := save.fileName, modified := save.savedAt, owner := save.name }

def sessionsDir (saves : List SessionSave) : BTreeMap SessionFile := saves.foldl saveState ∅

/-- A file that the name is taken to have. -/
def SessionFile.matches (file : SessionFile) (sessionName : String) : Bool :=
  (sessionName ++ "-").toList.isPrefixOf file.fileName.toList &&
    (".json".toList.isSuffixOf file.fileName.toList ||
      ".json.enc".toList.isSuffixOf file.fileName.toList)

def autoStateFiles (listing : List SessionFile) (sessionName : String) : List SessionFile :=
  listing.filter (·.matches sessionName)

/-- The first of the newest files that match the name, in the order of the listing. -/
def findAutoStateFile (listing : List SessionFile) (sessionName : String) : Option SessionFile :=
  (autoStateFiles listing sessionName).argmax (·.modified)

/-- The answer is a newest file of the name's own, or there is none. -/
def OwnNewest (listing : List SessionFile) (sessionName : String) :
    Option SessionFile → Prop
  | none => ∀ file ∈ listing, file.owner ≠ sessionName
  | some found => found ∈ listing ∧ found.owner = sessionName ∧
      ∀ file ∈ listing, file.owner = sessionName → file.modified ≤ found.modified

/-- Of the files that match the name, this one is newer, or as new and listed earlier. -/
def Outranks (listing : List SessionFile) (sessionName : String) (own other : SessionFile) :
    Prop :=
  other.modified < own.modified ∨ other.modified = own.modified ∧
    (autoStateFiles listing sessionName).idxOf own <
      (autoStateFiles listing sessionName).idxOf other

variable {file : SessionFile} {listing : List SessionFile}

/-- What is in the directory was saved there by its owner. -/
theorem sessionsDir_owner (saves : List SessionSave)
    {fileName : String} (h : (sessionsDir saves)[fileName]? = some file) :
    ∃ save ∈ saves, file.fileName = save.fileName ∧ file.owner = save.name := by
  have hfold (dir : BTreeMap SessionFile)
      (hfile : (saves.foldl saveState dir)[fileName]? = some file) :
      dir[fileName]? = some file ∨
        ∃ save ∈ saves, file.fileName = save.fileName ∧ file.owner = save.name := by
    clear h
    induction saves generalizing dir with
    | nil => exact .inl hfile
    | cons save saves ih =>
      rcases ih (saveState dir save) hfile with hbefore | ⟨later, hmem, hsame⟩
      · rw [saveState, Std.ExtTreeMap.getElem?_insert] at hbefore
        split at hbefore
        · cases hbefore
          exact .inr ⟨save, List.mem_cons_self, rfl, rfl⟩
        · exact .inl hbefore
      · exact .inr ⟨later, List.mem_cons_of_mem _ hmem, hsame⟩
  rcases hfold ∅ h with hempty | hsaved
  · simp at hempty
  · exact hsaved

/-- A file matches the name that it was saved under. -/
theorem matches_owner {save : SessionSave} (hname : file.fileName = save.fileName) :
    file.matches save.name = true := by
  simp only [SessionFile.matches, hname, SessionSave.fileName, Bool.and_eq_true, Bool.or_eq_true,
    List.isPrefixOf_iff_prefix, List.isSuffixOf_iff_suffix, String.toList_append]
  constructor
  · simp only [List.append_assoc]
    exact List.prefix_append_right_inj _ |>.mpr (List.prefix_append _ _)
  · cases save.encrypted with
    | false =>
      exact .inl ⟨(save.name ++ "-" ++ save.sessionId).toList, by simp⟩
    | true =>
      exact .inr ⟨(save.name ++ "-" ++ save.sessionId).toList, by simp⟩

theorem listed_owner (hlisting : listing.Perm ((sessionsDir saves).toList.map (·.2)))
    (hfile : file ∈ listing) : file.matches file.owner = true := by
  obtain ⟨entry, hentry, rfl⟩ := List.mem_map.mp (hlisting.mem_iff.mp hfile)
  obtain ⟨save, _, hname, howner⟩ := sessionsDir_owner saves
    (Std.ExtTreeMap.mem_toList_iff_getElem?_eq_some.mp hentry)
  rw [howner]
  exact matches_owner hname

/-- After any saves, in whatever order the directory lists its files, a name finds a newest file
of its own (or nothing, where it has none), if and only if every matching file of another name
is outranked by one of its own. -/
theorem findAutoStateFile_own_iff (saves : List SessionSave) (sessionName : String)
    (hlisting : listing.Perm ((sessionsDir saves).toList.map (·.2))) :
    OwnNewest listing sessionName (findAutoStateFile listing sessionName) ↔
      ∀ other ∈ listing, other.matches sessionName = true → other.owner ≠ sessionName →
        ∃ own ∈ listing, own.owner = sessionName ∧ Outranks listing sessionName own other := by
  have hcandidate (own : SessionFile) (hown : own ∈ listing) (howner : own.owner = sessionName) :
      own ∈ autoStateFiles listing sessionName :=
    List.mem_filter.mpr ⟨hown, howner ▸ listed_owner hlisting hown⟩
  unfold findAutoStateFile
  cases hbest : (autoStateFiles listing sessionName).argmax (·.modified) with
  | none =>
    have hnone : autoStateFiles listing sessionName = [] := List.argmax_eq_none.mp hbest
    constructor
    · intro _ other hother hmatches
      have hmem : other ∈ autoStateFiles listing sessionName :=
        List.mem_filter.mpr ⟨hother, hmatches⟩
      simp [hnone] at hmem
    · intro _ own hown howner
      have hmem := hcandidate own hown howner
      simp [hnone] at hmem
  | some best =>
    obtain ⟨hmem, hnewest, hfirst⟩ := List.argmax_eq_some_iff.mp hbest
    obtain ⟨hlisted, hmatches⟩ := List.mem_filter.mp hmem
    constructor
    · rintro ⟨_, howner, _⟩ other hother hmatch hforeign
      have hcand : other ∈ autoStateFiles listing sessionName :=
        List.mem_filter.mpr ⟨hother, hmatch⟩
      refine ⟨best, hlisted, howner, ?_⟩
      rcases (hnewest other hcand).lt_or_eq with hlt | heq
      · exact .inl hlt
      · refine .inr ⟨heq, (hfirst other hcand heq.ge).lt_of_ne fun hsame => ?_⟩
        have hbestOther := (List.idxOf_inj hmem).mp hsame
        exact hforeign (hbestOther ▸ howner)
    · intro houtranked
      have howner : best.owner = sessionName := by
        by_contra hforeign
        obtain ⟨own, hown, howner, hrank⟩ := houtranked best hlisted hmatches hforeign
        have hcand := hcandidate own hown howner
        rcases hrank with hlt | ⟨heq, hearlier⟩
        · exact absurd (hnewest own hcand) (not_le.mpr hlt)
        · exact absurd (hfirst own hcand heq.le) (not_le.mpr hearlier)
      exact ⟨hlisted, howner, fun own hown hsame => hnewest own (hcandidate own hown hsame)⟩

def loginSave : SessionSave :=
  { sessionName := some "work-login", sessionId := "default", encrypted := false, savedAt := 1 }

def loginFile : SessionFile :=
  { fileName := "work-login-default.json", modified := 1, owner := "work-login" }

theorem findAutoStateFile_own_iff_login :
    OwnNewest [loginFile] "work-login" (findAutoStateFile [loginFile] "work-login") :=
  (findAutoStateFile_own_iff [loginSave] "work-login" (by decide)).mpr (by
    intro other hother _ hforeign
    rw [List.mem_singleton.mp hother] at hforeign
    exact absurd rfl hforeign)

/-- A name that never saved finds the file of a longer name. -/
theorem findAutoStateFile_foreign :
    ¬ ∀ (saves : List SessionSave) (listing : List SessionFile) (sessionName : String),
      listing.Perm ((sessionsDir saves).toList.map (·.2)) →
        OwnNewest listing sessionName (findAutoStateFile listing sessionName) := by
  intro h
  have hfound : findAutoStateFile [loginFile] "work" = some loginFile := by decide
  have hown := h [loginSave] [loginFile] "work" (by decide)
  rw [hfound] at hown
  exact absurd hown.2.1 (by decide)

end AgentBrowser
