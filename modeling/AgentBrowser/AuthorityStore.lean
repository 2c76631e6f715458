import AgentBrowser.AuthorityModel

namespace AgentBrowser
open Durable
set_option autoImplicit true

/-- The JSON documents of the authority directory. No document of one kind parses as another:
their required fields differ and unknown fields are refused. -/
inductive Doc where
  | ledger (l : TaskAuthorityLedger)
  | issuance (r : TaskAuthorityIssuanceRecord)
  | confirmation (r : TaskAuthorityConfirmationRecord)
  | legacyTombstones (t : LegacyConfirmationTombstones)
  | manifest (m : ConfirmationTombstoneManifest)
  | segment (s : ConfirmationTombstoneSegment)
  deriving DecidableEq, Repr

/-- The documents on disk, by the file that holds them. -/
structure AuthorityStore where
  files : AList fun _ : Path => Doc

/-- Why a call fails: what was asked is refused whatever is stored; it is refused in view of
what is stored; the file system failed; or unchecked arithmetic overflowed and panicked. -/
inductive Failure where
  | invalid (message : String)
  | conflict (message : String)
  | io (label : String)
  | overflow
  deriving DecidableEq, Repr

/-- The calls made to the operating system. A document is written to a temporary file that is
renamed into place, so it is there as a whole or not at all. -/
inductive AuthorityOp where
  | now
  | uuid
  | exists (path : Path)
  | read (path : Path)
  | write (path : Path) (doc : Doc)
  | remove (path : Path)
  | list (directory : Path)

abbrev AuthorityOp.Ret : AuthorityOp → Type
  | .now => Int
  | .uuid => String
  | .exists _ => Bool
  | .read _ => Except Unit Doc
  | .write _ _ | .remove _ => Except Unit Unit
  | .list _ => Except Unit (List Bytes)

/-- How the operating system answers: as asked, with an error, with the time, with a new
identifier, or with a directory's names in some order. -/
inductive AuthorityChoice where
  | ok
  | refuse
  | time (t : Int)
  | id (u : String)
  | listing (names : List Bytes)
  deriving DecidableEq, Repr

namespace AuthorityStore

def empty : AuthorityStore := ⟨∅⟩

def lookup (s : AuthorityStore) (path : Path) : Option Doc := s.files.lookup path

def write (s : AuthorityStore) (path : Path) (doc : Doc) : AuthorityStore :=
  ⟨s.files.insert path doc⟩

def remove (s : AuthorityStore) (path : Path) : AuthorityStore := ⟨s.files.erase path⟩

/-- The names of the files directly in a directory; a missing directory has none. -/
def names (s : AuthorityStore) (directory : Path) : List Bytes :=
  s.files.keys.filterMap fun path =>
    match path.getLast? with
    | some name => if path.dropLast = directory then some name else none
    | none => none

@[simp]
theorem lookup_empty (path : Path) : empty.lookup path = none := AList.lookup_empty path

@[simp]
theorem lookup_write (s : AuthorityStore) (path : Path) (doc : Doc) :
    (s.write path doc).lookup path = some doc := AList.lookup_insert _

theorem lookup_write_ne {path other : Path} (s : AuthorityStore) (doc : Doc) (h : other ≠ path) :
    (s.write path doc).lookup other = s.lookup other := AList.lookup_insert_ne h

theorem lookup_remove (s : AuthorityStore) (path : Path) :
    (s.remove path).lookup path = none := AList.lookup_erase _ _

theorem lookup_remove_ne {path other : Path} (s : AuthorityStore) (h : other ≠ path) :
    (s.remove path).lookup other = s.lookup other := AList.lookup_erase_ne h

end AuthorityStore

/-- What the operating system does. The clock is between 1970 and the year 9000. -/
def authorityExec : Exec AuthorityOp AuthorityOp.Ret AuthorityChoice AuthorityStore
  | .now, .time t, s => if 0 ≤ t ∧ t ≤ clockLimit then some (t, s) else none
  | .uuid, .id u, s => some (u, s)
  | .exists path, .ok, s => some ((s.lookup path).isSome, s)
  | .read path, .ok, s =>
    match s.lookup path with
    | some doc => some (.ok doc, s)
    | none => some (.error (), s)
  | .read _, .refuse, s => some (.error (), s)
  | .write path doc, .ok, s => some (.ok (), s.write path doc)
  | .write _ _, .refuse, s => some (.error (), s)
  | .remove path, .ok, s =>
    match s.lookup path with
    | some _ => some (.ok (), s.remove path)
    | none => some (.error (), s)
  | .remove _, .refuse, s => some (.error (), s)
  | .list directory, .listing names, s =>
    if names.isPerm (s.names directory) then some (.ok names, s) else none
  | .list _, .refuse, s => some (.error (), s)
  | _, _, _ => none

abbrev AuthorityProg : Type → Type := Prog AuthorityOp AuthorityOp.Ret Failure

def utcNow : AuthorityProg Int := .call .now fun t => .ofExcept (.ok t)

def newUuid : AuthorityProg String := .call .uuid fun u => .ofExcept (.ok u)

def pathExists (path : Path) : AuthorityProg Bool := .call (.exists path) fun b => .ofExcept (.ok b)

def readFile (path : Path) (label : String) : AuthorityProg Doc :=
  .call (.read path) fun r => .ofExcept (r.mapError fun _ => .io label)

def writePrivateJson (path : Path) (doc : Doc) (label : String) : AuthorityProg Unit :=
  .call (.write path doc) fun r => .ofExcept (r.mapError fun _ => .io label)

def removeFile (path : Path) (label : String) : AuthorityProg Unit :=
  .call (.remove path) fun r => .ofExcept (r.mapError fun _ => .io label)

def readDir (directory : Path) (label : String) : AuthorityProg (List Bytes) :=
  .call (.list directory) fun r => .ofExcept (r.mapError fun _ => .io label)

/-- A check that fails with its message. -/
def orInvalid (x : Except String α) : AuthorityProg α := .ofExcept (x.mapError .invalid)

def orConflict (x : Except String α) : AuthorityProg α := .ofExcept (x.mapError .conflict)

/-- A `u64` addition that is not checked: it panics on overflow. -/
def addU64 (a b : UInt64) : AuthorityProg UInt64 := .okOr (checkedAdd a b) .overflow

def Doc.ledger? : Doc → Option TaskAuthorityLedger
  | .ledger l => some l
  | _ => none

def Doc.issuance? : Doc → Option TaskAuthorityIssuanceRecord
  | .issuance r => some r
  | _ => none

def Doc.confirmation? : Doc → Option TaskAuthorityConfirmationRecord
  | .confirmation r => some r
  | _ => none

/-- Read a file that may be absent and must hold a document of the kind that `kind` picks. -/
def readOptionalDoc (kind : Doc → Option α) (path : Path) (label invalid : String) :
    AuthorityProg (Option α) := do
  if ← pathExists path then
    let doc ← readFile path label
    let value ← .okOr (kind doc) (.conflict invalid)
    pure (some value)
  else pure none

def readLedger (path : Path) : AuthorityProg (Option TaskAuthorityLedger) :=
  readOptionalDoc Doc.ledger? path "Failed to read task authority ledger"
    "Invalid task authority ledger"

def readIssuance (path : Path) : AuthorityProg (Option TaskAuthorityIssuanceRecord) :=
  readOptionalDoc Doc.issuance? path "Failed to read task authority issuance"
    "Invalid task authority issuance"

end AgentBrowser
