import AgentBrowser.JsonValue
import AgentBrowser.StandardText
import Mathlib.Data.List.DropRight

namespace AgentBrowser
set_option autoImplicit true

section Paths

/-- A component that says nothing. -/
def isIdleComponent (part : List Char) : Bool := part = [] || part = ['.']

/-- `Path::parent`. -/
def pathParent (path : List Char) : Option (List Char) :=
  match path.splitOn '/' with
  | [] => none
  | first :: parts =>
    let body := parts.rdropWhile isIdleComponent
    if body = [] then if first = [] then none else some []
    else
      let rest := body.dropLast.rdropWhile isIdleComponent
      if rest = [] then some (if first = [] then ['/'] else first)
      else some (['/'].intercalate (first :: rest))

/-- `Path::file_name`, empty where there is none. -/
def pathFileName (path : List Char) : List Char :=
  let parts := path.splitOn '/'
  let last := ((parts.tail.rdropWhile isIdleComponent).getLast?).getD (parts.headD [])
  if isIdleComponent last || last = ['.', '.'] then [] else last

/-- `Path::join`. -/
def pathJoin (dir path : List Char) : List Char :=
  if path.head? = some '/' then path
  else if dir = [] then path
  else if dir.getLast? = some '/' then dir ++ path
  else dir ++ '/' :: path

end Paths

structure StorageState where
  cookies : List JsonValue
  origins : List JsonValue
  deriving DecidableEq

structure StoredFile where
  bytes : Bytes
  modified : Nat
  deriving DecidableEq, Repr

/-- The files by where they are. -/
abbrev Disk (Location : Type) : Type := Location → Option StoredFile

/-- Move a file; what was at the new place is replaced. -/
def Disk.rename [DecidableEq Location] (disk : Disk Location) (source target : Location) :
    Disk Location := fun location =>
  if source = target then disk location
  else if location = target then disk source
  else if location = source then none
  else disk location

/-- The surroundings: which file a path leads to, the key of the environment, the cipher and the
JSON decoder. -/
structure StateEnv (Location : Type) where
  locate : String → Location
  encryptionKey : Option String
  decryptData : Bytes → String → Except String Bytes
  parseState : String → Except String StorageState

structure ShownState where
  filename : String
  path : String
  size : Nat
  modified : Nat
  encrypted : Bool
  summary : String
  state : StorageState
  deriving DecidableEq

def isEncryptedPath (path : String) : Bool := ".enc".toList.isSuffixOf path.toList

section Commands
variable {Location : Type} (env : StateEnv Location)

/-- The text of encrypted bytes. -/
def decryptedText (data : Bytes) (key : String) : Except String String := do
  let decrypted ← env.decryptData data key
  orRefuse (fromUtf8 decrypted) "Decrypted state is not valid UTF-8"

/-- Read an encrypted file. -/
def readEncrypted (disk : Disk Location) (path failure : String) : Except String String := do
  let key ← orRefuse env.encryptionKey
    "Encrypted state file requires AGENT_BROWSER_ENCRYPTION_KEY"
  let file ← orRefuse (disk (env.locate path)) failure
  decryptedText env file.bytes key

/-- `read_to_string`. -/
def readToString (disk : Disk Location) (path : String) : Option String :=
  (disk (env.locate path)).bind (fromUtf8 ·.bytes)

def parseStateText (text : String) : Except String StorageState :=
  (env.parseState text).mapError ("Invalid state file: " ++ ·)

/-- The text that `state_show` reads. -/
def shownText (disk : Disk Location) (path : String) : Except String String :=
  if isEncryptedPath path then readEncrypted env disk path "Failed to read state file"
  else orRefuse (readToString env disk path) "Failed to read state file"

def stateShow (disk : Disk Location) (path : String) : Except String ShownState := do
  let text ← shownText env disk path
  let state ← parseStateText env text
  let metadata := disk (env.locate path)
  .ok
    { filename := String.ofList (pathFileName path.toList)
      path := path
      size := (metadata.map (·.bytes.length)).getD 0
      modified := (metadata.map (·.modified)).getD 0
      encrypted := isEncryptedPath path
      summary := toString state.cookies.length ++ " cookies, " ++
        toString state.origins.length ++ " origins"
      state := state }

/-- The text that `load_state` reads: a file that cannot be read as text is looked for once more
with the ending `.enc`. -/
def loadStateText (disk : Disk Location) (path : String) : Except String String :=
  let failure := "Failed to read state from " ++ path
  if isEncryptedPath path then readEncrypted env disk path failure
  else
    match readToString env disk path with
    | some text => .ok text
    | none =>
      match env.encryptionKey with
      | none => .error failure
      | some key =>
        match disk (env.locate (path ++ ".enc")) with
        | some file => decryptedText env file.bytes key
        | none => .error failure

/-- The state that `load_state` puts into the browser. -/
def loadState (disk : Disk Location) (path : String) : Except String StorageState := do
  let text ← loadStateText env disk path
  parseStateText env text

/-- The path of a file under its new name. -/
def renamedPath (oldPath newName : String) : String :=
  String.ofList (pathJoin ((pathParent oldPath.toList).getD ['.']) (newName ++ ".json").toList)

/-- Rename a file; `renames` says whether the file system does it. -/
def stateRename [DecidableEq Location] (disk : Disk Location) (oldPath newName : String)
    (renames : Bool) : Except String (String × Disk Location) := do
  let _ ← orRefuse (disk (env.locate oldPath)) ("State file not found: " ++ oldPath)
  refuseIf (!renames) "Failed to rename state"
  let newPath := renamedPath oldPath newName
  .ok (newPath, disk.rename (env.locate oldPath) (env.locate newPath))

/-- The state is read from the new path as from the old one, and no other file is lost. -/
structure Renamed (disk after : Disk Location) (oldPath newPath : String) (state : StorageState) :
    Prop where
  shown : ∃ again, stateShow env after newPath = .ok again ∧ again.state = state
  loaded : loadState env after newPath = .ok state
  others : ∀ location file, location ≠ env.locate oldPath → disk location = some file →
    (after location).map (·.bytes) = some file.bytes

/-- The bytes are a state as they are. -/
def ReadsPlain (file : StoredFile) (state : StorageState) : Prop :=
  ∃ text, fromUtf8 file.bytes = some text ∧ env.parseState text = .ok state

variable {env}

theorem suffix_pathJoin (dir path : List Char) : path <:+ pathJoin dir path := by
  unfold pathJoin
  split_ifs
  · exact List.suffix_refl _
  · exact List.suffix_refl _
  · exact List.suffix_append _ _
  · exact (List.suffix_cons _ _).trans (List.suffix_append _ _)

theorem json_suffix_renamedPath (oldPath newName : String) :
    ".json".toList <:+ (renamedPath oldPath newName).toList := by
  simp only [renamedPath, String.toList_ofList, String.toList_append]
  exact (List.suffix_append _ _).trans (suffix_pathJoin _ _)

/-- A renamed file is never taken for an encrypted one. -/
theorem renamedPath_plain (oldPath newName : String) :
    isEncryptedPath (renamedPath oldPath newName) = false := by
  rw [isEncryptedPath, ← Bool.not_eq_true, List.isSuffixOf_iff_suffix]
  intro hencrypted
  have hends := List.suffix_of_suffix_length_le hencrypted
    (json_suffix_renamedPath oldPath newName) (by decide)
  revert hends
  decide

theorem parseStateText_eq_ok : parseStateText env text = .ok state ↔
    env.parseState text = .ok state := by
  unfold parseStateText
  cases env.parseState text <;> simp [Except.mapError]

theorem readToString_eq (h : disk (env.locate path) = some file) :
    readToString env disk path = fromUtf8 file.bytes := by
  rw [readToString, h, Option.bind_some]

theorem stateShow_plain (hplain : isEncryptedPath path = false)
    (h : disk (env.locate path) = some file) :
    (∃ shown, stateShow env disk path = .ok shown ∧ shown.state = state) ↔
      ReadsPlain env file state := by
  simp only [stateShow, shownText, hplain, Bool.false_eq_true, if_false, readToString_eq h,
    Except.bind_eq_ok, orRefuse_eq_ok, parseStateText_eq_ok, Except.ok.injEq]
  constructor
  · rintro ⟨_, ⟨text, htext, _, hstate, rfl⟩, rfl⟩
    exact ⟨text, htext, hstate⟩
  · rintro ⟨text, htext, hstate⟩
    exact ⟨_, ⟨text, htext, state, hstate, rfl⟩, rfl⟩

theorem loadState_plain (hplain : isEncryptedPath path = false)
    (h : disk (env.locate path) = some file) (hread : ReadsPlain env file state) :
    loadState env disk path = .ok state := by
  obtain ⟨text, htext, hstate⟩ := hread
  have hloaded : loadStateText env disk path = .ok text := by
    rw [loadStateText, hplain, if_neg Bool.false_ne_true, readToString_eq h, htext]
  exact Except.bind_eq_ok.mpr ⟨text, hloaded, parseStateText_eq_ok.mpr hstate⟩

theorem stateShow_exists (h : stateShow env disk path = .ok shown) :
    ∃ file, disk (env.locate path) = some file := by
  cases hfile : disk (env.locate path) with
  | some file => exact ⟨file, rfl⟩
  | none =>
    obtain ⟨text, htext, _⟩ := Except.bind_eq_ok.mp h
    unfold shownText readEncrypted readToString at htext
    rw [hfile] at htext
    split at htext
    · obtain ⟨_, _, htext⟩ := Except.bind_eq_ok.mp htext
      cases htext
    · cases htext

variable [DecidableEq Location]

theorem Disk.rename_target (disk : Disk Location) (source target : Location) :
    disk.rename source target target = disk source := by
  unfold Disk.rename
  split
  · rename_i hsame
    rw [hsame]
  · rw [if_pos rfl]

theorem Disk.rename_other {disk : Disk Location} (htarget : location ≠ target)
    (hsource : location ≠ source) : disk.rename source target location = disk location := by
  unfold Disk.rename
  rw [if_neg htarget, if_neg hsource, ite_self]

/-- Renaming loses no other file exactly when it replaces none of another content. -/
theorem rename_keeps_iff {disk : Disk Location} (hfile : disk source = some file) :
    (∀ location other, location ≠ source → disk location = some other →
      (disk.rename source target location).map (·.bytes) = some other.bytes) ↔
    target = source ∨ ∀ other, disk target = some other → other.bytes = file.bytes := by
  by_cases hsame : target = source
  · subst hsame
    refine iff_of_true (fun location other hother hdisk => ?_) (.inl rfl)
    rw [Disk.rename, if_pos rfl, hdisk, Option.map_some]
  · rw [or_iff_right hsame]
    constructor
    · intro hkeeps other hother
      have hmoved := hkeeps target other hsame hother
      rw [Disk.rename_target, hfile, Option.map_some] at hmoved
      exact (Option.some.inj hmoved).symm
    · intro hequal location other hother hdisk
      by_cases htarget : location = target
      · rw [htarget, Disk.rename_target, hfile, Option.map_some, hequal other (htarget ▸ hdisk)]
      · rw [Disk.rename_other htarget hother, hdisk, Option.map_some]

theorem stateRename_eq_ok : stateRename env disk oldPath newName renames = .ok (newPath, after) →
    newPath = renamedPath oldPath newName ∧
      after = disk.rename (env.locate oldPath) (env.locate newPath) := by
  intro h
  simp only [stateRename, Except.bind_eq_ok, Except.ok.injEq, Prod.mk.injEq] at h
  obtain ⟨_, _, _, _, rfl, rfl⟩ := h
  exact ⟨rfl, rfl⟩

/-- A renamed state is read as before exactly when it was not encrypted, or its bytes are the same
state as they are, and nothing of another content was at the new path. -/
theorem state_rename_preserves (env : StateEnv Location) (disk after : Disk Location)
    (oldPath newName newPath : String) (renames : Bool) (shown : ShownState)
    (hshown : stateShow env disk oldPath = .ok shown)
    (hrenamed : stateRename env disk oldPath newName renames = .ok (newPath, after)) :
    Renamed env disk after oldPath newPath shown.state ↔
      ∀ file, disk (env.locate oldPath) = some file →
        (isEncryptedPath oldPath = true → ReadsPlain env file shown.state) ∧
        (env.locate (renamedPath oldPath newName) = env.locate oldPath ∨
          ∀ other, disk (env.locate (renamedPath oldPath newName)) = some other →
            other.bytes = file.bytes) := by
  obtain ⟨rfl, rfl⟩ := stateRename_eq_ok hrenamed
  obtain ⟨file, hfile⟩ := stateShow_exists hshown
  have hplain := renamedPath_plain oldPath newName
  have hmoved : disk.rename (env.locate oldPath) (env.locate (renamedPath oldPath newName))
      (env.locate (renamedPath oldPath newName)) = some file := by
    rw [Disk.rename_target, hfile]
  constructor
  · intro h other hother
    obtain rfl := Option.some.inj (hfile.symm.trans hother)
    exact ⟨fun _ => (stateShow_plain hplain hmoved).mp h.shown,
      (rename_keeps_iff hfile).mp h.others⟩
  · intro h
    obtain ⟨hbytes, hfree⟩ := h file hfile
    have hreads : ReadsPlain env file shown.state := by
      cases hencrypted : isEncryptedPath oldPath with
      | true => exact hbytes hencrypted
      | false => exact (stateShow_plain hencrypted hfile).mp ⟨shown, hshown, rfl⟩
    exact
      { shown := (stateShow_plain hplain hmoved).mpr hreads
        loaded := loadState_plain hplain hmoved hreads
        others := (rename_keeps_iff hfile).mpr hfree }

end Commands

section Sample

def emptyState : Bytes := bytesOf "\x7b\"cookies\":[],\"origins\":[]\x7d"

/-- The empty state, encrypted with `key-1`. -/
def encryptedState : Bytes :=
  [0, 1, 2, 3, 4, 5, 6, 7, 8, 9, 10, 11, 251, 37, 22, 83, 2, 44, 130, 36, 95, 77, 205, 121, 179, 64,
    21, 138, 0, 122, 35, 139, 226, 202, 251, 153, 153, 140, 12, 191, 113, 194, 144, 94, 142, 205,
    242, 213, 11, 177, 232, 198, 115, 217, 159]

def sampleState : StateEnv String where
  locate path := path
  encryptionKey := some "key-1"
  decryptData data key :=
    if data.length < 13 then .error "Ciphertext too short"
    else if data = encryptedState && key = "key-1" then .ok emptyState
    else .error "Decryption failed: aead::Error"
  parseState text :=
    if bytesOf text = emptyState then .ok ⟨[], []⟩
    else .error "expected value at line 1 column 1"

def plainDisk : Disk String := fun path =>
  if path = "s/login.json" then some ⟨emptyState, 7⟩ else none

/-- The sample's plain file under its new name. -/
theorem state_rename_preserves_plain :
    Renamed sampleState plainDisk (plainDisk.rename "s/login.json" "s/work.json") "s/login.json"
      "s/work.json" ⟨[], []⟩ := by
  have hshown : stateShow sampleState plainDisk "s/login.json" =
      .ok ⟨"login.json", "s/login.json", 27, 7, false, "0 cookies, 0 origins", ⟨[], []⟩⟩ := by
    decide
  have hpath : renamedPath "s/login.json" "work" = "s/work.json" := by decide
  have hrenamed : stateRename sampleState plainDisk "s/login.json" "work" true =
      .ok ("s/work.json", plainDisk.rename "s/login.json" "s/work.json") := by
    rw [← hpath]
    rfl
  refine (state_rename_preserves sampleState plainDisk _ "s/login.json" "work" "s/work.json" true _
    hshown hrenamed).mpr fun file hfile => ⟨?_, .inr ?_⟩
  · exact fun hencrypted => absurd hencrypted (by decide)
  · intro other hother
    rw [hpath] at hother
    cases hother

def encryptedDisk : Disk String := fun path =>
  if path = "s/login.json.enc" then some ⟨encryptedState, 7⟩
  else if path = "s/work.json" then some ⟨bytesOf "another state", 3⟩
  else none

/-- An encrypted state can no longer be read under its new name, and what was there is lost. -/
theorem state_rename_loses :
    (stateShow sampleState encryptedDisk "s/login.json.enc").map (·.state) = .ok ⟨[], []⟩ ∧
    stateRename sampleState encryptedDisk "s/login.json.enc" "work" true =
      .ok ("s/work.json", encryptedDisk.rename "s/login.json.enc" "s/work.json") ∧
    (stateShow sampleState (encryptedDisk.rename "s/login.json.enc" "s/work.json")
      "s/work.json").map (·.state) = .error "Failed to read state file" ∧
    loadState sampleState (encryptedDisk.rename "s/login.json.enc" "s/work.json") "s/work.json" =
      .error "Failed to read state from s/work.json" ∧
    ¬ Renamed sampleState encryptedDisk (encryptedDisk.rename "s/login.json.enc" "s/work.json")
      "s/login.json.enc" "s/work.json" ⟨[], []⟩ := by
  have hshown : (stateShow sampleState (encryptedDisk.rename "s/login.json.enc" "s/work.json")
      "s/work.json").map (·.state) = .error "Failed to read state file" := by
    decide
  have hpath : renamedPath "s/login.json.enc" "work" = "s/work.json" := by decide
  refine ⟨by decide, ?_, hshown, by decide, ?_⟩
  · rw [← hpath]
    rfl
  · rintro ⟨⟨again, hagain, _⟩, _, _⟩
    rw [hagain] at hshown
    cases hshown

end Sample

end AgentBrowser
