import AgentBrowser.Checks
import AgentBrowser.DaemonConnection
import Mathlib.Data.List.Basic

namespace AgentBrowser
set_option autoImplicit true

def isTransientError (error : String) : Bool :=
  ["os error 35", "os error 11", "WouldBlock", "Resource temporarily unavailable", "EOF",
    "line 1 column 0", "Connection reset", "Broken pipe", "os error 54", "os error 104",
    "os error 2", "os error 61", "os error 111", "os error 10061", "os error 10054"].any
    (containsText error)

def isCommandResponseReadTimeout (error : String) : Bool :=
  startsWith error "Failed to read:" &&
    ["os error 11", "os error 35", "WouldBlock", "Resource temporarily unavailable"].any
      (containsText error)

/-- What the calls of one attempt meet with, and the daemon at the other end. -/
structure Attempt where
  connect : Except String Unit
  tokenFile : Except String String
  write : Except String Unit
  readLine : Except String String
  /-- How many characters of the line reach the handler of the connection, and whether it sees
  the end of the stream behind them. -/
  received : Nat
  closed : Bool
  daemonAuthToken : String
  response : ControlCall → JsonValue
  written : ControlCall → Bool

def loadDaemonAuthToken (tokenFile : Except String String) : Except String String :=
  match tokenFile with
  | .ok token => .ok (trim token)
  | .error error => .error ("Failed to read daemon auth token: " ++ error)

def attachDaemonAuthToken (cmd : JsonValue) (tokenFile : Except String String) :
    Except String JsonValue := do
  let token ← loadDaemonAuthToken tokenFile
  match cmd with
  | .object _ => .ok (cmd.set daemonAuthField (.string token))
  | _ => .error "Command payload must be a JSON object"

def maxRetries : Nat := 5

/-- The loop of `send_command`, with the attempts that it makes. -/
def retryLoop (once : Nat → Except String Response) :
    Nat → Nat → String → Except String Response × List Nat
  | 0, _, lastError =>
    (.error (lastError ++ " (after 5 retries - daemon may be busy or unresponsive)"), [])
  | left + 1, attempt, _ =>
    match once attempt with
    | .ok response => (.ok response, [attempt])
    | .error error =>
      if isCommandResponseReadTimeout error then (.error error, [attempt])
      else if isTransientError error then
        let rest := retryLoop once left (attempt + 1) error
        (rest.1, attempt :: rest.2)
      else (.error error, [attempt])

/-- The error that makes the loop go on. -/
def Retried : Except String Response → Prop
  | .ok _ => False
  | .error error => isCommandResponseReadTimeout error = false ∧ isTransientError error = true

namespace Serde
variable (serde : Serde) (cmd : JsonValue) (attempts : Nat → Attempt)

/-- The line that an attempt begins to write. -/
def commandLine (a : Attempt) : Except String String := do
  a.connect.mapError ("Failed to connect: " ++ ·)
  let authenticated ← attachDaemonAuthToken cmd a.tokenFile
  .ok (serde.toString authenticated)

def sendCommandOnce (a : Attempt) : Except String Response := do
  let _ ← serde.commandLine cmd a
  a.write.mapError ("Failed to send: " ++ ·)
  let responseLine ← a.readLine.mapError ("Failed to read: " ++ ·)
  (serde.responseFromStr responseLine).mapError ("Invalid response: " ++ ·)

def sendCommand : Except String Response × List Nat :=
  retryLoop (fun attempt => serde.sendCommandOnce cmd (attempts attempt)) maxRetries 0 ""

/-- What gets through to the handler of the connection. A write that fails has not passed on the
last character. -/
def arrived (a : Attempt) : List Char :=
  match serde.commandLine cmd a with
  | .error _ => []
  | .ok text =>
    match a.write with
    | .ok _ => (text.toList ++ ['\n']).take a.received
    | .error _ => text.toList.take a.received

/-- The calls of the control plane that an attempt makes. -/
def attemptCalls (a : Attempt) : List ControlCall :=
  serde.handleConnection a.daemonAuthToken a.response a.written
    (readLines a.closed [] (serde.arrived cmd a))

/-- What a call of `send_command` makes the daemon submit. -/
def submissions : List JsonValue :=
  (serde.sendCommand cmd attempts).2.flatMap fun attempt =>
    (serde.attemptCalls cmd (attempts attempt)).filterMap ControlCall.submitted

/-- The daemon has the whole command. -/
def Reached (a : Attempt) : Prop :=
  ∃ text, serde.commandLine cmd a = .ok text ∧ text.toList <+: serde.arrived cmd a

/-- What is written is an object on one line, and no part of it is JSON. -/
structure ObjectText (text : String) : Prop where
  opens : ∃ rest, text.toList = '{' :: rest
  line : '\n' ∉ text.toList
  whole : ∀ part : String, part.toList <+: text.toList → part ≠ text →
    ∀ value, serde.fromStr part ≠ .ok value

/-- The command is submitted at most once, and an attempt is made again only where the daemon does
not have the whole command. -/
structure AtMostOnce : Prop where
  once : (serde.submissions cmd attempts).length ≤ 1
  unreached : ∀ attempt, attempt + 1 ∈ (serde.sendCommand cmd attempts).2 →
    ¬serde.Reached cmd (attempts attempt)

end Serde

section Loop
variable {once : Nat → Except String Response}

/-- The loop makes the attempts in order, and one more after each retried error. -/
theorem mem_retryLoop : i ∈ (retryLoop once left attempt lastError).2 ↔
    attempt ≤ i ∧ i < attempt + left ∧ ∀ k, attempt ≤ k → k < i → Retried (once k) := by
  induction left generalizing attempt lastError with
  | zero =>
    simp only [retryLoop, List.not_mem_nil, false_iff]
    omega
  | succ left ih =>
    -- An attempt that is not retried is the last one.
    have hlast (hstop : ¬Retried (once attempt)) : i ∈ [attempt] ↔
        attempt ≤ i ∧ i < attempt + (left + 1) ∧
          ∀ k, attempt ≤ k → k < i → Retried (once k) := by
      rw [List.mem_singleton]
      constructor
      · rintro rfl
        exact ⟨Nat.le_refl _, by omega, by omega⟩
      · rintro ⟨hle, _, hretried⟩
        by_contra hne
        exact hstop (hretried attempt (Nat.le_refl _) (by omega))
    cases honce : once attempt with
    | ok response =>
      simp only [retryLoop, honce]
      exact hlast (by simp [honce, Retried])
    | error error =>
      simp only [retryLoop, honce]
      split
      · rename_i htimeout
        exact hlast (by simp [honce, Retried, htimeout])
      · split
        · rename_i htimeout htransient
          have hretry : Retried (once attempt) := by
            simp [honce, Retried, htimeout, htransient]
          rw [List.mem_cons, ih]
          constructor
          · rintro (rfl | ⟨hle, hlt, hretried⟩)
            · exact ⟨Nat.le_refl _, by omega, by omega⟩
            · refine ⟨by omega, by omega, fun k hk hki => ?_⟩
              rcases Nat.eq_or_lt_of_le hk with rfl | hk
              · exact hretry
              · exact hretried k hk hki
          · rintro ⟨hle, hlt, hretried⟩
            rcases Nat.eq_or_lt_of_le hle with rfl | hle
            · exact .inl rfl
            · exact .inr ⟨hle, by omega, fun k hk => hretried k (by omega)⟩
        · rename_i htransient
          exact hlast (by simp [honce, Retried, htransient])

theorem retryLoop_pairwise : (retryLoop once left attempt lastError).2.Pairwise (· < ·) := by
  induction left generalizing attempt lastError with
  | zero => exact List.Pairwise.nil
  | succ left ih =>
    unfold retryLoop
    split
    · exact List.pairwise_singleton _ _
    · split
      · exact List.pairwise_singleton _ _
      · split
        · exact List.pairwise_cons.mpr ⟨fun i hmem => (mem_retryLoop.mp hmem).1, ih⟩
        · exact List.pairwise_singleton _ _

theorem retryLoop_length : (retryLoop once left attempt lastError).2.length ≤ left := by
  induction left generalizing attempt lastError with
  | zero => exact Nat.le_refl _
  | succ left ih =>
    unfold retryLoop
    split
    · simp
    · split
      · simp
      · split
        · exact Nat.succ_le_succ ih
        · simp

end Loop

/-- Where only the last of the items gives anything, and no item more than one, there is one. -/
theorem length_flatMap_le_one {f : Nat → List α} {items : List Nat}
    (hordered : items.Pairwise (· < ·)) (hone : ∀ i ∈ items, (f i).length ≤ 1)
    (hlast : ∀ i ∈ items, ∀ j ∈ items, i < j → f i = []) : (items.flatMap f).length ≤ 1 := by
  induction items with
  | nil => simp
  | cons first rest ih =>
    cases rest with
    | nil => simpa using hone first (List.mem_singleton.mpr rfl)
    | cons second rest =>
      have hlt : first < second := List.rel_of_pairwise_cons hordered List.mem_cons_self
      have hempty : f first = [] :=
        hlast first List.mem_cons_self second (List.mem_cons_of_mem _ List.mem_cons_self) hlt
      rw [List.flatMap_cons, hempty, List.nil_append]
      exact ih (List.pairwise_cons.mp hordered).2 (fun i hi => hone i (List.mem_cons_of_mem _ hi))
        (fun i hi j hj => hlast i (List.mem_cons_of_mem _ hi) j (List.mem_cons_of_mem _ hj))

namespace Serde
variable {serde : Serde} {cmd : JsonValue} {a : Attempt}

/-- What arrives is the whole line, or a part of the text. -/
theorem arrived_cases (htext : serde.commandLine cmd a = .ok text) :
    serde.arrived cmd a = text.toList ++ ['\n'] ∨ serde.arrived cmd a <+: text.toList := by
  have htake (count : Nat) : (text.toList ++ ['\n']).take count = text.toList ++ ['\n'] ∨
      (text.toList ++ ['\n']).take count <+: text.toList := by
    rcases Nat.lt_or_ge text.toList.length count with hlong | hshort
    · left
      exact List.take_of_length_le (by simpa using Nat.succ_le_of_lt hlong)
    · right
      rw [List.take_append_of_le_length hshort]
      exact List.take_prefix _ _
  simp only [arrived, htext]
  split
  · exact htake _
  · exact .inr (List.take_prefix _ _)

/-- A part of the text is not JSON, and neither is what `trim` leaves of it. -/
theorem ObjectText.trim_error (hobject : serde.ObjectText text) {part : List Char}
    (hpart : part <+: text.toList) (hproper : part ≠ text.toList) (hne : part ≠ [])
    (value : JsonValue) :
    serde.fromStr (trim (String.ofList part)) ≠ .ok value := by
  obtain ⟨rest, hopens⟩ := hobject.opens
  obtain ⟨first, tail, rfl⟩ := List.exists_cons_of_ne_nil hne
  have hfirst : first = '{' := by
    rw [hopens] at hpart
    exact (List.cons_prefix_cons.mp hpart).1
  have htrim : (trim (String.ofList (first :: tail))).toList <+: first :: tail :=
    trim_prefix (by rw [hfirst]; decide)
  refine hobject.whole _ (htrim.trans hpart) (fun heq => ?_) value
  rw [heq] at htrim
  exact hproper (hpart.eq_of_length_le htrim.length_le)

/-- At most one line of an attempt is read, and it is JSON only where the command has arrived. -/
theorem readLines_arrived
    (hobject : ∀ text, serde.commandLine cmd a = .ok text → serde.ObjectText text) :
    readLines a.closed [] (serde.arrived cmd a) = [] ∨
      ∃ line, readLines a.closed [] (serde.arrived cmd a) = [line] ∧
        (¬serde.Reached cmd a → ∀ value, serde.fromStr (trim line) ≠ .ok value) := by
  cases htext : serde.commandLine cmd a with
  | error error =>
    left
    simp [arrived, htext, readLines]
  | ok text =>
    have hline := (hobject text htext).line
    rcases arrived_cases htext with hwhole | hpart
    · right
      refine ⟨_, hwhole ▸ readLines_line hline, fun hunreached => absurd ?_ hunreached⟩
      exact ⟨text, htext, hwhole ▸ List.prefix_append _ _⟩
    · rw [readLines_of_notMem fun hmem => hline (hpart.subset hmem)]
      split
      · rename_i hread
        right
        refine ⟨_, rfl, fun hunreached value => ?_⟩
        refine (hobject text htext).trim_error hpart (fun heq => ?_) hread.2 value
        exact hunreached ⟨text, htext, heq ▸ List.prefix_refl _⟩
      · exact .inl rfl

theorem attemptCalls_length
    (hobject : ∀ text, serde.commandLine cmd a = .ok text → serde.ObjectText text) :
    (serde.attemptCalls cmd a).length ≤ 1 := by
  unfold attemptCalls
  rcases readLines_arrived hobject with hnone | ⟨line, hline, _⟩
  · simp [hnone, handleConnection]
  · rw [hline]
    exact handleConnection_singleton_length

theorem attemptCalls_of_unreached
    (hobject : ∀ text, serde.commandLine cmd a = .ok text → serde.ObjectText text)
    (hunreached : ¬serde.Reached cmd a) : serde.attemptCalls cmd a = [] := by
  unfold attemptCalls
  rcases readLines_arrived hobject with hnone | ⟨line, hline, herror⟩
  · simp [hnone, handleConnection]
  · rw [hline]
    exact handleConnection_of_error (herror hunreached)

variable {attempts : Nat → Attempt}

theorem mem_sendCommand : i ∈ (serde.sendCommand cmd attempts).2 ↔
    i < maxRetries ∧ ∀ k < i, Retried (serde.sendCommandOnce cmd (attempts k)) := by
  rw [sendCommand, mem_retryLoop]
  simp

/-- The CLI makes five attempts at most, one after the other as long as they fail with a transient
error that is no read time-out, and each one makes the daemon submit one command at most. All of
them together do so, and none is made again with the command at the daemon, exactly if no such
error comes after the whole command has reached the daemon with attempts left. -/
theorem send_command_at_most_once (hobject : ∀ attempt text,
      serde.commandLine cmd (attempts attempt) = .ok text → serde.ObjectText text) :
    (serde.sendCommand cmd attempts).2.length ≤ maxRetries ∧
    (∀ attempt, attempt + 1 ∈ (serde.sendCommand cmd attempts).2 →
      Retried (serde.sendCommandOnce cmd (attempts attempt))) ∧
    (∀ attempt, (serde.attemptCalls cmd (attempts attempt)).length ≤ 1) ∧
    (serde.AtMostOnce cmd attempts ↔ ∀ attempt, attempt + 1 < maxRetries →
      (∀ k ≤ attempt, Retried (serde.sendCommandOnce cmd (attempts k))) →
        ¬serde.Reached cmd (attempts attempt)) := by
  have hlength (attempt : Nat) := attemptCalls_length (hobject attempt)
  refine ⟨retryLoop_length, ?_, hlength, fun h => ?_, fun h => ?_⟩
  · exact fun attempt hmem => (mem_sendCommand.mp hmem).2 attempt (Nat.lt_succ_self _)
  · intro attempt hlt hretried
    exact h.unreached attempt (mem_sendCommand.mpr
      ⟨hlt, fun k hk => hretried k (Nat.le_of_lt_succ hk)⟩)
  · have hunreached (attempt : Nat) (hmem : attempt + 1 ∈ (serde.sendCommand cmd attempts).2) :
        ¬serde.Reached cmd (attempts attempt) := by
      obtain ⟨hlt, hretried⟩ := mem_sendCommand.mp hmem
      exact h attempt hlt fun k hk => hretried k (Nat.lt_succ_of_le hk)
    refine ⟨length_flatMap_le_one retryLoop_pairwise (fun i _ => ?_) (fun i _ j hj hij => ?_),
      hunreached⟩
    · exact Nat.le_trans (List.length_filterMap_le _ _) (hlength i)
    · -- A later attempt has the next one before it.
      obtain ⟨hlt, hretried⟩ := mem_sendCommand.mp hj
      have hnext : i + 1 ∈ (serde.sendCommand cmd attempts).2 :=
        mem_sendCommand.mpr ⟨Nat.lt_of_le_of_lt hij hlt,
          fun k hk => hretried k (Nat.lt_of_lt_of_le hk hij)⟩
      rw [attemptCalls_of_unreached (hobject i) (hunreached i hnext)]
      rfl

end Serde

def clickCommand : JsonValue := .ofFields [("action", .string "click"), ("id", .string "r1")]

/-- The text of the command with its token. -/
def clickText : String :=
  "\x7b\"_agentBrowserAuthToken\":\"t\",\"action\":\"click\",\"id\":\"r1\"\x7d"

/-- As much of JSON as one command and its answer need. -/
def clickSerde : Serde where
  toString _ := clickText
  fromStr text :=
    if text = clickText then .ok (clickCommand.set daemonAuthField (.string "t"))
    else .error "expected value at line 1 column 1"
  responseFromStr text :=
    if text = "\x7b\"success\":true\x7d\n" then .ok ⟨true, none, none, none⟩
    else .error "EOF while parsing a value at line 1 column 0"

/-- The command gets to the daemon, and this is what the CLI reads. -/
def clickAttempt (readLine : Except String String) : Attempt where
  connect := .ok ()
  tokenFile := .ok "t"
  write := .ok ()
  readLine
  received := clickText.length + 1
  closed := false
  daemonAuthToken := "t"
  response _ := .object [("success", .bool true)]
  written _ := true

theorem clickSerde_objectText : clickSerde.ObjectText clickText where
  opens := ⟨clickText.toList.tail, by decide⟩
  line := by decide
  whole part _ hne value := by simp [clickSerde, hne]

theorem clickSerde_commandLine (h : clickSerde.commandLine clickCommand a = .ok text) :
    clickSerde.ObjectText text := by
  obtain ⟨_, _, h⟩ := Except.bind_eq_ok.mp h
  obtain ⟨_, _, h⟩ := Except.bind_eq_ok.mp h
  obtain rfl := Except.ok.inj h
  exact clickSerde_objectText

/-- The daemon is still starting when the first attempt is made. -/
def startingAttempts (attempt : Nat) : Attempt :=
  match attempt with
  | 0 => { clickAttempt (.ok "") with connect := .error "Connection refused (os error 111)" }
  | _ + 1 => clickAttempt (.ok "\x7b\"success\":true\x7d\n")

theorem send_command_at_most_once_starting :
    clickSerde.submissions clickCommand startingAttempts = [clickCommand] ∧
      clickSerde.AtMostOnce clickCommand startingAttempts := by
  have hfirst : clickSerde.commandLine clickCommand (startingAttempts 0) =
      .error "Failed to connect: Connection refused (os error 111)" := rfl
  have hlater (n : Nat) : clickSerde.sendCommandOnce clickCommand (startingAttempts (n + 1)) =
      .ok ⟨true, none, none, none⟩ := rfl
  refine ⟨by decide, (Serde.send_command_at_most_once
    fun _ _ => clickSerde_commandLine).2.2.2.mpr fun attempt _ hretried => ?_⟩
  cases attempt with
  | zero =>
    rintro ⟨text, htext, _⟩
    rw [hfirst] at htext
    cases htext
  | succ n =>
    have hretry := hretried (n + 1) (Nat.le_refl _)
    rw [hlater n] at hretry
    exact hretry.elim

/-- The connection is reset while the daemon runs the command. -/
def resetAttempts (attempt : Nat) : Attempt :=
  match attempt with
  | 0 => clickAttempt (.error "Connection reset by peer (os error 104)")
  | _ + 1 => clickAttempt (.ok "\x7b\"success\":true\x7d\n")

/-- A command whose connection is reset is sent once more, and the daemon runs it twice. -/
theorem send_command_twice : ¬∀ (serde : Serde) (cmd : JsonValue) (attempts : Nat → Attempt),
    (∀ attempt text, serde.commandLine cmd (attempts attempt) = .ok text →
      serde.ObjectText text) → serde.AtMostOnce cmd attempts := by
  intro h
  have honce := (h clickSerde clickCommand resetAttempts fun _ _ => clickSerde_commandLine).once
  have htwice : clickSerde.submissions clickCommand resetAttempts =
      [clickCommand, clickCommand] := by
    decide
  rw [htwice] at honce
  exact absurd honce (by decide)

end AgentBrowser
