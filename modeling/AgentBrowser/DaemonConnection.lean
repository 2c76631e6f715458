import AgentBrowser.AuthorityModel
import AgentBrowser.JsonValue

namespace AgentBrowser
set_option autoImplicit true

/-- The answer to a command. -/
structure Response where
  success : Bool
  data : Option JsonValue
  error : Option String
  warning : Option String

/-- JSON as text. -/
structure Serde where
  toString : JsonValue → String
  fromStr : String → Except String JsonValue
  responseFromStr : String → Except String Response

def daemonAuthField : String := "_agentBrowserAuthToken"

/-- What a connection asks of the control plane. -/
inductive ControlCall where
  | statusResponse (id : String)
  | cancelJobResponse (id jobId : String) (reason : Option String)
  | serviceStatusResponse (id : String) (serviceState launchConfig : JsonValue)
      (fullTabHistory : Bool)
  | submit (cmd : JsonValue)
  deriving DecidableEq

def ControlCall.submitted : ControlCall → Option JsonValue
  | .submit cmd => some cmd
  | _ => none

inductive LineOutcome where
  | skipped
  | refused (error : String)
  /-- The connection is closed. -/
  | ended
  | called (call : ControlCall) (exitsDaemon : Bool)
  deriving DecidableEq

def startsWith (text start : String) : Bool := start.toList.isPrefixOf text.toList

def looksLikeHttp (line : String) : Bool :=
  ["GET ", "POST ", "PUT ", "DELETE ", "PATCH ", "HEAD ", "OPTIONS ", "CONNECT ", "TRACE "].any
    (startsWith line)

def successfulExitResponse (exitsDaemon : Bool) (response : JsonValue) : Bool :=
  exitsDaemon && (response.get "success").bind (·.asBool) == some true

def strField (cmd : JsonValue) (field : String) : Option String := (cmd.get field).bind (·.asStr)

def controlCall (cmd : JsonValue) : ControlCall :=
  let text (field : String) : String := (strField cmd field).getD ""
  match strField cmd "action" with
  | some "worker_status" => .statusResponse (text "id")
  | some "service_job_cancel" =>
    .cancelJobResponse (text "id") (text "jobId") (strField cmd "reason")
  | some "service_status" =>
    .serviceStatusResponse (text "id") ((cmd.get "serviceState").getD (.object []))
      ((cmd.get "launchConfig").getD (.object []))
      (((cmd.get "fullTabHistory").bind (·.asBool)).getD false)
  | _ => .submit cmd

def exitsDaemon (cmd : JsonValue) : Bool :=
  strField cmd "action" = some "close" || strField cmd "action" = some "runtime_handoff_prepare"

namespace Serde
variable (serde : Serde) (daemonAuthToken : String)

def handleLine (line : String) : LineOutcome :=
  let trimmed := trim line
  if trimmed = "" then .skipped
  else if looksLikeHttp trimmed then .ended
  else match serde.fromStr trimmed with
    | .error error => .refused ("Invalid JSON: " ++ error)
    | .ok cmd =>
      if strField cmd daemonAuthField ≠ some daemonAuthToken then
        .refused "Unauthorized daemon command"
      else
        let cmd := cmd.remove daemonAuthField
        .called (controlCall cmd) (exitsDaemon cmd)

/-- The calls that a connection makes while it reads these lines. The control plane gives the
responses; a response that cannot be written ends the connection. -/
def handleConnection (response : ControlCall → JsonValue) (written : ControlCall → Bool) :
    List String → List ControlCall
  | [] => []
  | line :: rest =>
    match serde.handleLine daemonAuthToken line with
    | .skipped | .refused _ => handleConnection response written rest
    | .ended => []
    | .called call exits =>
      if !written call || successfulExitResponse exits (response call) then [call]
      else call :: handleConnection response written rest

end Serde

/-- The lines that `read_line` gives for these characters. The last one may have no newline, but
only where the stream has an end; after an error nothing is read. -/
def readLines (closed : Bool) (line : List Char) : List Char → List String
  | [] => if closed ∧ line ≠ [] then [String.ofList line] else []
  | char :: rest =>
    if char = '\n' then String.ofList (line ++ [char]) :: readLines closed [] rest
    else readLines closed (line ++ [char]) rest

theorem readLines_of_notMem (h : '\n' ∉ chars) :
    readLines closed line chars =
      if closed = true ∧ line ++ chars ≠ [] then [String.ofList (line ++ chars)] else [] := by
  induction chars generalizing line with
  | nil => simp [readLines]
  | cons char rest ih =>
    rw [List.mem_cons, not_or] at h
    rw [readLines, if_neg (Ne.symm h.1), ih h.2, List.append_assoc, List.singleton_append]

/-- A line with its newline, and nothing behind it. -/
theorem readLines_line (h : '\n' ∉ chars) :
    readLines closed line (chars ++ ['\n']) = [String.ofList (line ++ chars ++ ['\n'])] := by
  induction chars generalizing line with
  | nil => simp [readLines]
  | cons char rest ih =>
    rw [List.mem_cons, not_or] at h
    rw [List.cons_append, readLines, if_neg (Ne.symm h.1), ih h.2]
    simp

theorem trim_prefix {rest : List Char} (h : isWhiteSpace char = false) :
    (trim (String.ofList (char :: rest))).toList <+: char :: rest := by
  have hfirst : (char :: rest).dropWhile isWhiteSpace = char :: rest := by simp [h]
  rw [trim, String.toList_ofList, String.toList_ofList, hfirst]
  have hsuffix := (char :: rest).reverse.dropWhile_suffix isWhiteSpace
  simpa using List.reverse_prefix.mpr hsuffix

namespace Serde
variable {serde : Serde} {daemonAuthToken : String}

theorem handleLine_of_error (h : ∀ cmd, serde.fromStr (trim line) ≠ .ok cmd) :
    serde.handleLine daemonAuthToken line ≠ .called call exits := by
  simp only [handleLine]
  split
  · exact nofun
  · split
    · exact nofun
    · cases hparsed : serde.fromStr (trim line) with
      | error error => exact nofun
      | ok cmd => exact absurd hparsed (h cmd)

theorem handleConnection_singleton_length :
    (serde.handleConnection daemonAuthToken response written [line]).length ≤ 1 := by
  unfold handleConnection
  split
  · simp [handleConnection]
  · simp [handleConnection]
  · simp
  · split <;> simp [handleConnection]

theorem handleConnection_of_error (h : ∀ cmd, serde.fromStr (trim line) ≠ .ok cmd) :
    serde.handleConnection daemonAuthToken response written [line] = [] := by
  unfold handleConnection
  split
  · rfl
  · rfl
  · rfl
  · rename_i hcalled
    exact absurd hcalled (handleLine_of_error h)

end Serde

end AgentBrowser
