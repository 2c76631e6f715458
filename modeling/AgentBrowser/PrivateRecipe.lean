import AgentBrowser.CompactJson
import AgentBrowser.PrivateIdentity
import AgentBrowser.PrivacyGate
import AgentBrowser.PrivateOperation
import AgentBrowser.WireText

namespace AgentBrowser.Private
open JsonText
set_option autoImplicit true

def operationInvalid : String := "private_operation_invalid"

inductive Operation where
  | login (emailSelector passwordSelector submitSelector email password : String)
  | backupCode (codeSelector submitSelector accountSelector accountValue code sourceScope : String)
  | renew (submitSelector accountSelector accountValue : String)
  | readKey (selector accountSelector accountValue : String)
  deriving DecidableEq, Repr

structure PrivateOperation where
  schema : String
  serviceTabHandle : JsonValue
  expectedOrigin : String
  expectedUrl : String
  consentSha256 : String
  accountScope : String
  operation : Operation
  deriving DecidableEq

section Decoding

/-- The texts of a record that has only texts. -/
def textFields (names : List String) (value : JsonValue) : Option (List String) := do
  let values ← structValues (names.map (·, false)) value
  values.mapM fun value => value.bind (·.asStr)

/-- The kind of an operation and what is left of it. -/
def taggedFields : JsonValue → Option (String × JsonValue)
  | .array (.string kind :: values) => some (kind, .array values)
  | .object fields =>
    match fields.filter (·.1 = "kind") with
    | [(_, .string kind)] => some (kind, .object (fields.filter (·.1 ≠ "kind")))
    | _ => none
  | _ => none

def decodeOperationKind (value : JsonValue) : Option Operation := do
  let (kind, value) ← taggedFields value
  match kind with
  | "login" =>
    match ← textFields ["email_selector", "password_selector", "submit_selector", "email",
      "password"] value with
    | [emailSelector, passwordSelector, submitSelector, email, password] =>
      some (.login emailSelector passwordSelector submitSelector email password)
    | _ => none
  | "backup_code" =>
    match ← textFields ["code_selector", "submit_selector", "account_selector", "account_value",
      "code", "source_scope"] value with
    | [codeSelector, submitSelector, accountSelector, accountValue, code, sourceScope] =>
      some (.backupCode codeSelector submitSelector accountSelector accountValue code sourceScope)
    | _ => none
  | "renew" =>
    match ← textFields ["submit_selector", "account_selector", "account_value"] value with
    | [submitSelector, accountSelector, accountValue] =>
      some (.renew submitSelector accountSelector accountValue)
    | _ => none
  | "read_key" =>
    match ← textFields ["selector", "account_selector", "account_value"] value with
    | [selector, accountSelector, accountValue] =>
      some (.readKey selector accountSelector accountValue)
    | _ => none
  | _ => none

def decodeOperation (value : JsonValue) : Option PrivateOperation :=
  match structValues [("schema", false), ("service_tab_handle", false), ("expected_origin", false),
      ("expected_url", false), ("consent_sha256", false), ("account_scope", false),
      ("operation", false)] value with
  | some [some (.string schema), some serviceTabHandle, some (.string expectedOrigin),
      some (.string expectedUrl), some (.string consentSha256), some (.string accountScope),
      some operation] => do
    let operation ← decodeOperationKind operation
    some {
      schema, serviceTabHandle, expectedOrigin, expectedUrl, consentSha256, accountScope,
      operation }
  | _ => none

/-- A JSON value of its own, with the fields of its objects in order. -/
def readValue (bytes : Bytes) : Option JsonValue := do
  let text ← fromUtf8 bytes
  parse sortedFields text.toList

/-- The value as it is written, with what is given twice. -/
def readRaw (bytes : Bytes) : Option JsonValue := do
  let text ← fromUtf8 bytes
  parse (fun fields => fields) text.toList

/-- A typed field that is given twice is refused, a field of the handle is not. -/
def readOperation (bytes : Bytes) : Option PrivateOperation := do
  let _ ← (readRaw bytes).bind decodeOperation
  (readValue bytes).bind decodeOperation

section Ascii
variable {text : String} (h : (bytesOf text).all (· < 128) = true)
include h

theorem readValue_ascii : readValue (bytesOf text) =
    parse sortedFields ((bytesOf text).map fun b => Char.ofNat b.toNat) := by
  simp only [readValue, fromUtf8_bytesOf, toList_ascii h, Option.bind_eq_bind, Option.bind_some]

theorem readRaw_ascii : readRaw (bytesOf text) =
    parse (fun fields => fields) ((bytesOf text).map fun b => Char.ofNat b.toNat) := by
  simp only [readRaw, fromUtf8_bytesOf, toList_ascii h, Option.bind_eq_bind, Option.bind_some]

end Ascii

end Decoding

section Validation

def maxBytes : Nat := 64 * 1024

def isAscii (text : String) : Bool := (bytesOf text).all (· < 128)

def isAsciiLowercase (b : UInt8) : Bool := 97 ≤ b && b ≤ 122

def isLowerHexText (text : String) (length : Nat) : Bool :=
  (bytesOf text).length == length && (bytesOf text).all isLowerHex

def selectorValid (selector : String) : Bool :=
  !(selector = "" || (bytesOf selector).length > 1024 || trim selector ≠ selector ||
    selector.toList.any isControl)

/-- Selectors of one operation are different. -/
def selectorsValid (values : List String) : Bool := values.all selectorValid && values.Nodup

def localPartMarks : List Char := ".!#$%&'*+-/=?^_`\x7b|\x7d~".toList

def canonicalEmail (email : String) : Bool :=
  !((bytesOf email).length > 254 || !isAscii email || email ≠ asciiLowercase email) &&
    match splitOnce ['@'] email.toList with
    | none => false
    | some (name, domain) =>
      !name.isEmpty && name.length ≤ 64 && name.head? ≠ some '.' && name.getLast? ≠ some '.' &&
        !(['.', '.'] <:+: name) &&
        name.all (fun c => c.isLower || c.isDigit || localPartMarks.contains c) &&
        domain.contains '.' &&
        (domain.splitOn '.').all fun label =>
          !label.isEmpty && label.length ≤ 63 && label.head? ≠ some '-' &&
            label.getLast? ≠ some '-' && label.all fun c => c.isLower || c.isDigit || c = '-'

/-- The checks of one operation for its account, and the one origin it may run on. -/
def Operation.allowedOrigin (account : String) : Operation → Option String
  | .login emailSelector passwordSelector submitSelector email password =>
    if !selectorsValid [emailSelector, passwordSelector, submitSelector] ||
      (email ≠ account || password = "" || (bytesOf password).length > 4096 ||
        password.toList.contains '\x00') then none
    else some "https://secure.login.gov"
  | .backupCode codeSelector submitSelector accountSelector accountValue code sourceScope =>
    if !selectorsValid [codeSelector, submitSelector, accountSelector] ||
      (accountValue ≠ account || code = "" || (bytesOf code).length > 256 ||
        !(bytesOf code).all (fun b => isAsciiAlphanumeric b || b == 32 || b == 45) ||
        !(bytesOf code).any isAsciiAlphanumeric || sourceScope = "" ||
        (bytesOf sourceScope).length > 2048 || trim sourceScope ≠ sourceScope ||
        !(bytesOf sourceScope).all isPrintable) then none
    else some "https://secure.login.gov"
  | .renew submitSelector accountSelector accountValue =>
    if !selectorsValid [submitSelector, accountSelector] || accountValue ≠ account then none
    else some "https://sam.gov"
  | .readKey selector accountSelector accountValue =>
    if !selectorsValid [selector, accountSelector] || accountValue ≠ account then none
    else some "https://sam.gov"

def PrivateOperation.validate (E : PrivateEnv) (value : PrivateOperation) : Except String Unit := do
  refuseIf (value.schema ≠ "agent-browser.private-operation.v1" ||
    (match value.serviceTabHandle with
      | .object handle => handle.isEmpty
      | _ => true) ||
    !isLowerHexText value.consentSha256 64) operationInvalid
  let account ← orRefuse (stripPrefix "login.gov:".toList value.accountScope.toList)
    operationInvalid
  refuseIf (!canonicalEmail (String.ofList account)) operationInvalid
  let allowedOrigin ← orRefuse (value.operation.allowedOrigin (String.ofList account))
    operationInvalid
  refuseIf (value.expectedOrigin ≠ allowedOrigin || (bytesOf value.expectedUrl).length > 4096 ||
    value.expectedUrl.toList.any fun c => isControl c || isWhiteSpace c) operationInvalid
  let url ← orRefuse (E.parseUrl value.expectedUrl) operationInvalid
  refuseIf (url.scheme ≠ "https" || url.username ≠ "" || url.password.isSome || url.port.isSome ||
    url.fragment.isSome || url.origin ≠ allowedOrigin || url.text ≠ value.expectedUrl)
    operationInvalid

def PrivateOperation.parse (E : PrivateEnv) (payload : Bytes) : Except String PrivateOperation := do
  refuseIf (payload.isEmpty || payload.length > maxBytes) operationInvalid
  let value ← orRefuse (readOperation payload) operationInvalid
  value.validate E
  .ok value

end Validation

end AgentBrowser.Private
