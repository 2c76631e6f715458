import AgentBrowser.Checks
import AgentBrowser.ServiceModel
import AgentBrowser.StandardText

namespace AgentBrowser
set_option autoImplicit true

/-- What a profile's directory says of the browser that runs in it. -/
structure RuntimeState where
  runtimeProfile : String
  userDataDir : String
  browserPid : Nat
  devtoolsPort : Option UInt16 := none
  wsUrl : Option String := none
  deriving DecidableEq, Repr

/-- The parts of a parsed URL that are looked at. -/
structure LaunchUrl where
  scheme : String
  host : Option String
  username : String := ""
  password : Option String := none

/-- The files and links of the machine, as they stand. A directory is read as the names in it. -/
structure ProcessEvidence where
  canonicalize : String → Option String
  readLink : String → Option String
  isFile : String → Bool
  inode : String → Option (Nat × Nat)
  readToString : String → Option String
  readBytes : String → Option Bytes
  readDir : String → Option (List String)
  fileSha256 : String → Option String
  browsersDir : String
  /-- A state that cannot be read, or what there is. -/
  runtimeState : String → Option (Option RuntimeState)
  parseUrl : String → Option LaunchUrl

/-- What is resolved is its own resolution. -/
def ProcessEvidence.Lawful (ev : ProcessEvidence) : Prop :=
  ∀ path resolved, ev.canonicalize path = some resolved → ev.canonicalize resolved = some resolved

structure VerifiedProcess where
  executable : String
  profile : String
  startTicks : Nat
  deriving DecidableEq, Repr

def decimal (n : Nat) : String := String.ofList (Nat.toDigits 10 n)

/-- The front is cut off a text that starts with it. -/
def stripFront (front text : String) : Option String :=
  (stripPrefix front.toList text.toList).map String.ofList

def hasFront (text front : String) : Bool := front.toList.isPrefixOf text.toList

/-- The id of a browser in its endpoint. -/
def isBrowserId (id : List Char) : Bool := id ≠ [] && id.all fun c => c.isAlphanum || c = '-'

section Observation
variable (ev : ProcessEvidence)

def installedChromeForProcess (pid : Nat) (procRoot : String) : Except String String := do
  let actual ← orRefuse (ev.readLink (procRoot ++ "/" ++ decimal pid ++ "/exe"))
    "process_executable_unreadable"
  let entries ← orRefuse (ev.readDir ev.browsersDir) "installed_chrome_missing"
  let candidates := (entries.filter (hasFront · "chrome-")).flatMap fun name =>
    ["chrome", "chrome.exe",
      "Google Chrome for Testing.app/Contents/MacOS/Google Chrome for Testing"].map fun relative =>
        ev.browsersDir ++ "/" ++ name ++ "/" ++ relative
  let installed := candidates.filterMap fun candidate =>
    ((ev.canonicalize candidate).filter ev.isFile).map fun executable => (candidate, executable)
  match installed.find? (·.2 = actual) with
  | some (candidate, _) => .ok candidate
  | none =>
    .error (if installed = [] then "installed_chrome_missing" else "process_executable_mismatch")

def processStartTicks (process : String) : Except String Nat := do
  let stat ← orRefuse (ev.readToString (process ++ "/stat")) "process_stat_unreadable"
  let (_, rest) ← orRefuse (rsplitOnce ") ".toList stat.toList) "process_stat_invalid"
  let fields := splitWhitespace rest
  refuseIf (fields.head? = some ['Z'] || fields.head? = some ['X']) "process_exited"
  orRefuse (fields[19]?.bind (parseUnsigned 64)) "process_stat_invalid"

/-- The port and the path that the browser wrote into its profile. -/
def checkActivePort (profile endpoint : String) (port : UInt16) : Except String Unit := do
  let activePort ← orRefuse (ev.readToString (profile ++ "/DevToolsActivePort"))
    "active_port_unreadable"
  let written := lines activePort.toList
  refuseIf (written[0]?.bind (parseUnsigned 16) ≠ some port.toNat ||
      written[1]?.map String.ofList ≠
        stripFront ("ws://127.0.0.1:" ++ decimal port.toNat) endpoint)
    "active_port_mismatch"

/-- The arguments of a command line that was rewritten into one title. -/
def titleArguments (pid : Nat) (profile executable title : String) :
    Except String (List String) := do
  let singleton ← orRefuse (ev.readLink (profile ++ "/SingletonLock")) "profile_lock_unreadable"
  refuseIf ((rsplitOnce ['-'] singleton.toList).bind (fun parts => parseUnsigned 32 parts.2) ≠
    some pid) "profile_lock_mismatch"
  refuseIf (executable.toList.any isWhiteSpace || profile.toList.any isWhiteSpace ||
      title.toList.any (fun c => ['\'', '"', '\\'].contains c || (isWhiteSpace c && c ≠ ' ')) ||
      !hasFront title (executable ++ " "))
    "process_arguments_ambiguous"
  let arguments := ((title.toList.splitOn ' ').filter (· ≠ [])).map String.ofList
  let positional := (arguments.drop 1).filter fun arg => !hasFront arg "--"
  let validLaunchUrl := positional.length = 1 && (positional.head?.bind ev.parseUrl).any fun url =>
    ["http", "https"].contains url.scheme && url.host.isSome && url.username = "" &&
      url.password = none
  refuseIf (positional ≠ [] && !validLaunchUrl) "process_arguments_ambiguous"
  .ok arguments

def processArguments (pid : Nat) (profile executable : String) (cmdline : Bytes) :
    Except String (List String) := do
  let arguments ← orRefuse (((cmdline.splitOn 0).filter (· ≠ [])).mapM fromUtf8)
    "process_arguments_unreadable"
  match arguments with
  | [title] => titleArguments ev pid profile executable title
  | _ => .ok arguments

def profileDirectories : List String → Except String (List String)
  | [] => .ok []
  | arg :: rest =>
    if hasFront arg "--type=" || arg = "--type" then .error "not_browser_process"
    else
      match stripFront "--user-data-dir=" arg with
      | some value => (profileDirectories rest).map (value :: ·)
      | none =>
        if arg = "--user-data-dir" then
          match rest.head? with
          | some value => (profileDirectories rest).map (value :: ·)
          | none => .error "profile_argument_missing"
        else profileDirectories rest

def checkProfileArgument (profile : String) (arguments : List String) : Except String Unit := do
  let directories ← profileDirectories arguments
  refuseIf (directories.length ≠ 1 || directories.head?.bind ev.canonicalize ≠ some profile)
    "process_profile_mismatch"

/-- The debug port is the argument's, or one that the browser chose and wrote down. -/
def checkDebugPort (profile endpoint : String) (port : UInt16) (arguments : List String) :
    Except String Unit := do
  let fixed := arguments.count ("--remote-debugging-port=" ++ decimal port.toNat) = 1
  let ephemeral := arguments.count "--remote-debugging-port=0" = 1
  refuseIf (fixed = ephemeral) "process_debug_port_mismatch"
  if ephemeral then checkActivePort ev profile endpoint port else .ok ()

/-- A loopback listener on the port, as it stands in the table of sockets. -/
def listenerAddress (port : UInt16) : List Char :=
  let digits := (Nat.toDigits 16 port.toNat).map Char.toUpper
  "0100007F:".toList ++ List.replicate (4 - digits.length) '0' ++ digits

def checkListener (process : String) (port : UInt16) : Except String Unit := do
  let tcp ← orRefuse (ev.readToString (process ++ "/net/tcp")) "listener_unreadable"
  let listeners := (lines tcp.toList).filterMap fun line =>
    let fields := splitWhitespace line
    if fields[1]? = some (listenerAddress port) ∧ fields[3]? = some "0A".toList then fields[9]?
    else none
  match listeners with
  | [inode] => do
    let socket := "socket:[" ++ String.ofList inode ++ "]"
    let entries ← orRefuse (ev.readDir (process ++ "/fd")) "process_descriptors_unreadable"
    refuseIf (!entries.any fun entry => ev.readLink (process ++ "/fd/" ++ entry) = some socket)
      "listener_not_owned_by_process"
  | _ => .error "listener_mismatch"

def onlyIf (asked : Bool) (check : Except String Unit) : Except String Unit :=
  if asked then check else .ok ()

def verifyProcess (pid : Nat) (endpoint profile installed procRoot : String) (port : UInt16)
    (requireActivePort : Bool) : Except String VerifiedProcess := do
  let profile ← orRefuse (ev.canonicalize profile) "profile_unreadable"
  onlyIf requireActivePort (checkActivePort ev profile endpoint port)
  let process := procRoot ++ "/" ++ decimal pid
  let startTicks ← processStartTicks ev process
  let executable ← orRefuse (ev.canonicalize installed) "installed_chrome_unreadable"
  let actual ← orRefuse (ev.readLink (process ++ "/exe")) "process_executable_unreadable"
  refuseIf (actual ≠ executable || !ev.isFile executable) "process_executable_mismatch"
  let actualInode ← orRefuse (ev.inode (process ++ "/exe")) "process_executable_unreadable"
  let installedInode ← orRefuse (ev.inode executable) "installed_chrome_unreadable"
  refuseIf (actualInode ≠ installedInode) "process_executable_replaced"
  let cmdline ← orRefuse (ev.readBytes (process ++ "/cmdline")) "process_arguments_unreadable"
  let arguments ← processArguments ev pid profile executable cmdline
  checkProfileArgument ev profile arguments
  onlyIf (!requireActivePort) (checkDebugPort ev profile endpoint port arguments)
  checkListener ev process port
  let again ← processStartTicks ev process
  refuseIf (again ≠ startTicks || ev.readLink (process ++ "/exe") ≠ some actual ||
    ev.readBytes (process ++ "/cmdline") ≠ some cmdline) "process_changed"
  .ok { executable, profile, startTicks }

def verify (runtime : RuntimeState) (runtimeProfile : String) (pid : Nat)
    (endpoint profile installed procRoot : String) : Except String VerifiedProcess := do
  refuseIf (pid = 0 || runtime.browserPid ≠ pid || runtime.runtimeProfile ≠ runtimeProfile)
    "runtime_identity_mismatch"
  let port ← orRefuse runtime.devtoolsPort "runtime_port_missing"
  let front := "ws://127.0.0.1:" ++ decimal port.toNat ++ "/devtools/browser/"
  refuseIf (runtime.wsUrl ≠ some endpoint ||
    !((stripPrefix front.toList endpoint.toList).any isBrowserId)) "endpoint_mismatch"
  refuseIf (ev.canonicalize runtime.userDataDir ≠ ev.canonicalize profile) "profile_path_mismatch"
  verifyProcess ev pid endpoint profile installed procRoot port true

/-- The loopback port of an endpoint. -/
def endpointPort (endpoint : String) : Option UInt16 := do
  let rest ← stripPrefix "ws://127.0.0.1:".toList endpoint.toList
  let (port, id) ← splitOnce "/devtools/browser/".toList rest
  guard (isBrowserId id)
  (parseUnsigned 16 port).map UInt16.ofNat

def verifyExternalByopProcess (pid : Nat) (endpoint profile executable procRoot : String) :
    Except String Nat := do
  let port ← orRefuse (endpointPort endpoint) "endpoint_mismatch"
  let verified ← verifyProcess ev pid endpoint profile executable procRoot port false
  .ok verified.startTicks

/-- What is seen of a process, whichever way its port is checked. -/
structure Observed (pid : Nat) (procRoot : String) (port : UInt16) (verified : VerifiedProcess)
    (arguments : List String) : Prop where
  ticks : processStartTicks ev (procRoot ++ "/" ++ decimal pid) = .ok verified.startTicks
  executable : ev.readLink (procRoot ++ "/" ++ decimal pid ++ "/exe") = some verified.executable
  file : ev.isFile verified.executable = true
  inode : ∃ inode, ev.inode (procRoot ++ "/" ++ decimal pid ++ "/exe") = some inode ∧
    ev.inode verified.executable = some inode
  cmdline : ∃ cmdline, ev.readBytes (procRoot ++ "/" ++ decimal pid ++ "/cmdline") = some cmdline ∧
    processArguments ev pid verified.profile verified.executable cmdline = .ok arguments
  profile : checkProfileArgument ev verified.profile arguments = .ok ()
  listener : checkListener ev (procRoot ++ "/" ++ decimal pid) port = .ok ()

/-- The process carries an argument for the port of the endpoint. -/
def CarriesDebugPort (pid : Nat) (endpoint profile executable : String) : Prop :=
  ∃ port cmdline arguments, endpointPort endpoint = some port ∧
    ev.readBytes ("/proc/" ++ decimal pid ++ "/cmdline") = some cmdline ∧
    processArguments ev pid profile executable cmdline = .ok arguments ∧
    checkDebugPort ev profile endpoint port arguments = .ok ()

variable {ev}

theorem verifyProcess_eq_ok :
    verifyProcess ev pid endpoint profile installed procRoot port required = .ok verified ↔
      ev.canonicalize profile = some verified.profile ∧
        ev.canonicalize installed = some verified.executable ∧
        onlyIf required (checkActivePort ev verified.profile endpoint port) = .ok () ∧
        ∃ arguments, Observed ev pid procRoot port verified arguments ∧
          onlyIf (!required) (checkDebugPort ev verified.profile endpoint port arguments) =
            .ok () := by
  simp only [verifyProcess, Except.bind_eq_ok, orRefuse_eq_ok, refuseIf_eq_ok]
  constructor
  · rintro ⟨directory, hdirectory, _, hactive, ticks, hticks, executable, hexecutable, actual,
      hactual, _, hsame, inode, hinode, installedInode, hinstalled, _, hinodes, cmdline, hcmdline,
      arguments, harguments, _, hprofile, _, hdebug, _, hlistener, again, hagain, _, hchanged,
      hverified⟩
    obtain rfl := Except.ok.inj hverified
    obtain ⟨rfl, hfile⟩ : actual = executable ∧ ev.isFile executable = true := by
      simpa [-Bool.not_eq_true] using hsame
    have hinodes : inode = installedInode := by simpa using hinodes
    exact ⟨hdirectory, hexecutable, hactive, arguments,
      { ticks := hticks, executable := hactual, file := hfile
        inode := ⟨inode, hinode, hinodes ▸ hinstalled⟩
        cmdline := ⟨cmdline, hcmdline, harguments⟩, profile := hprofile, listener := hlistener },
      hdebug⟩
  · rintro ⟨hdirectory, hexecutable, hactive, arguments, hseen, hdebug⟩
    obtain ⟨inode, hinode, hinstalled⟩ := hseen.inode
    obtain ⟨cmdline, hcmdline, harguments⟩ := hseen.cmdline
    exact ⟨_, hdirectory, (), hactive, _, hseen.ticks, _, hexecutable, _, hseen.executable, (),
      by simp [hseen.file], inode, hinode, inode, hinstalled, (), by simp, cmdline, hcmdline,
      arguments, harguments, (), hseen.profile, (), hdebug, (), hseen.listener, _, hseen.ticks, (),
      by simp [hseen.executable, hcmdline], rfl⟩

/-- An endpoint on a port of the machine has that port. -/
theorem endpointPort_eq_some
    (hfront : stripPrefix
      ("ws://127.0.0.1:" ++ decimal port.toNat ++ "/devtools/browser/").toList endpoint.toList =
        some browserId)
    (hid : isBrowserId browserId = true) : endpointPort endpoint = some port := by
  have hsplit : splitOnce "/devtools/browser/".toList
      (Nat.toDigits 10 port.toNat ++ ("/devtools/browser/".toList ++ browserId)) =
        some (Nat.toDigits 10 port.toNat, browserId) := by
    have hmark : '/' ∉ Nat.toDigits 10 port.toNat := by
      intro hmem
      have hdigit := isDigit_of_mem_toDigits _ _ hmem
      revert hdigit
      decide
    have hsplit : splitOnce ('/' :: "devtools/browser/".toList) (Nat.toDigits 10 port.toNat ++
        ('/' :: "devtools/browser/".toList ++ browserId)) =
          some (Nat.toDigits 10 port.toNat, browserId) := splitOnce_append hmark
    simpa using hsplit
  have hport : parseUnsigned 16 (Nat.toDigits 10 port.toNat) = some port.toNat :=
    parseUnsigned_toDigits port.toNat_lt
  have hrest : stripPrefix "ws://127.0.0.1:".toList endpoint.toList =
      some (Nat.toDigits 10 port.toNat ++ ("/devtools/browser/".toList ++ browserId)) := by
    rw [stripPrefix_eq_some] at hfront ⊢
    rw [hfront]
    simp [decimal, String.toList_append]
  simp only [endpointPort, hrest, hsplit, Option.bind_eq_bind, Option.bind_some]
  simp [hid, hport, guard]

/-- A running browser that was verified has the endpoint's port written in its profile. -/
theorem verify_verifyProcess
    (h : verify ev runtime runtimeProfile pid endpoint profile installed procRoot = .ok verified) :
    ∃ port, endpointPort endpoint = some port ∧
      verifyProcess ev pid endpoint profile installed procRoot port true = .ok verified := by
  simp only [verify, Except.bind_eq_ok, orRefuse_eq_ok, refuseIf_eq_ok] at h
  obtain ⟨_, _, port, hport, _, hendpoint, _, _, hverified⟩ := h
  simp only [Bool.or_eq_false_iff, Bool.not_eq_eq_eq_not, Bool.not_false,
    Option.any_eq_true] at hendpoint
  obtain ⟨_, browserId, hfront, hid⟩ := hendpoint
  exact ⟨port, endpointPort_eq_some hfront hid, hverified⟩

/-- A process that was verified by the port in its profile is found again by its argument, at the
same start. -/
theorem verifyExternalByopProcess_observed (hev : ev.Lawful)
    (hport : endpointPort endpoint = some port)
    (h : verifyProcess ev pid endpoint profile installed "/proc" port true = .ok verified)
    (hdebug : CarriesDebugPort ev pid endpoint verified.profile verified.executable) :
    verifyExternalByopProcess ev pid endpoint verified.profile verified.executable "/proc" =
      .ok verified.startTicks := by
  obtain ⟨hprofile, hinstalled, _, arguments, hseen, _⟩ := verifyProcess_eq_ok.mp h
  obtain ⟨port', cmdline, arguments', hport', hcmdline, harguments, hdebug⟩ := hdebug
  obtain rfl := Option.some.inj (hport.symm.trans hport')
  obtain ⟨cmdline', hcmdline', harguments'⟩ := hseen.cmdline
  obtain rfl := Option.some.inj (hcmdline'.symm.trans hcmdline)
  obtain rfl := Except.ok.inj (harguments'.symm.trans harguments)
  have hagain : verifyProcess ev pid endpoint verified.profile verified.executable "/proc" port
      false = .ok verified :=
    verifyProcess_eq_ok.mpr ⟨hev _ _ hprofile, hev _ _ hinstalled, rfl, arguments, hseen, hdebug⟩
  simp only [verifyExternalByopProcess, Except.bind_eq_ok, orRefuse_eq_ok]
  exact ⟨port, hport, verified, hagain, rfl⟩

end Observation

end AgentBrowser
