import AgentBrowser.CompactJson
import AgentBrowser.DashboardAuth
import AgentBrowser.WireText

namespace AgentBrowser
open Crlf
set_option autoImplicit true

structure DashboardAuthResponse where
  status : String
  contentType : String
  headers : Headers
  body : Bytes
  deriving DecidableEq, Repr

def decimalText (n : Nat) : String := String.ofList (Nat.toDigits 10 n)

namespace DashboardAuthResponse

def intoHttpBytes (response : DashboardAuthResponse) : Bytes :=
  let text := "HTTP/1.1 " ++ response.status ++ "\r\nContent-Type: " ++ response.contentType ++
    "\r\nContent-Length: " ++ decimalText response.body.length ++
    "\r\nConnection: close\r\nCache-Control: no-store\r\n"
  let text := response.headers.foldl (fun text (name, value) =>
    text ++ name ++ ": " ++ value ++ "\r\n") text
  bytesOf (text ++ "\r\n") ++ response.body

def headerLine (header : String × String) : String := header.1 ++ ": " ++ header.2

/-- The lines that the response is meant to consist of. -/
def lines (response : DashboardAuthResponse) : List String :=
  ["HTTP/1.1 " ++ response.status, "Content-Type: " ++ response.contentType,
    "Content-Length: " ++ decimalText response.body.length, "Connection: close",
    "Cache-Control: no-store"] ++ response.headers.map headerLine

/-- The bytes are one response: its lines up to the first empty one are the status line and one
line for each header, and what follows is the body. -/
def OneResponse (response : DashboardAuthResponse) : Prop :=
  readHead response.intoHttpBytes = some (response.lines.map bytesOf, response.body)

instance (response : DashboardAuthResponse) : Decidable response.OneResponse :=
  inferInstanceAs (Decidable (_ = _))

end DashboardAuthResponse

def jsonResponse (status : String) (value : JsonValue) : DashboardAuthResponse where
  status := status
  contentType := "application/json; charset=utf-8"
  headers := []
  body := bytesOf (String.ofList (JsonText.compact value))

section Headers

/-- `parse_headers`: what stands around the first colon of each line but the first. -/
def parseHeaders (block : String) : Headers :=
  ((AgentBrowser.lines block.toList).drop 1).filterMap fun line =>
    (splitOnce [':'] line).map fun (name, value) =>
      (asciiLowercase (trim (String.ofList name)), trim (String.ofList value))

/-- The headers of a request that is sent on to the login: those of the block, with the path of
its first line. -/
def forwardedHeaders (block : String) : Headers :=
  let first := (AgentBrowser.lines block.toList).headD []
  parseHeaders block ++ [("x-forwarded-uri", String.ofList ((splitWhitespace first).getD 1 ['/']))]

/-- The bytes that `urlencoding` keeps. -/
def isUnreservedByte (b : UInt8) : Bool :=
  let c := Char.ofNat b.toNat
  b < 128 && (c.isAlphanum || c = '-' || c = '.' || c = '_' || c = '~')

def hexDigitUpper (n : Nat) : Char := (Nat.digitChar n).toUpper

/-- `urlencoding::encode`. -/
def urlEncode (text : String) : String :=
  String.ofList ((bytesOf text).flatMap fun b =>
    if isUnreservedByte b then [Char.ofNat b.toNat]
    else ['%', hexDigitUpper (b.toNat / 16), hexDigitUpper (b.toNat % 16)])

def forwardedRequestTarget (headers : Headers) : Option String :=
  headerValue headers "x-forwarded-uri"

def forwardedLoginLocation (headers : Headers) (next : String) : String :=
  let path := "/login?next=" ++ urlEncode next
  match (headerValue headers "x-forwarded-host").or (headerValue headers "host") with
  | none => path
  | some host =>
    let proto := (headerValue headers "x-forwarded-proto").getD "http"
    proto ++ "://" ++ host ++ path

end Headers

def identityJson (identity : DashboardAuthIdentity) : JsonValue :=
  .ofFields [("username", .string identity.username), ("displayName", .string identity.displayName),
    ("role", .string identity.role)]

/-- The body of an answer that refuses. -/
def refusalJson (authenticated : Bool) (error : String) : JsonValue :=
  .ofFields [("success", .bool false), ("authenticated", .bool authenticated),
    ("error", .string error)]

def failureJson (error : String) : JsonValue :=
  .ofFields [("success", .bool false), ("error", .string error)]

section Cookies
variable (hmac : (key message : Bytes) → Bytes)

def createSessionCookie (store : DashboardAuthStore) (now : UInt64)
    (random : Except String Bytes) (identity : DashboardAuthIdentity) (secureCookie : Bool) :
    Except String String := do
  let token ← createSessionToken hmac store now random identity
  .ok (sessionCookieName ++ "=" ++ token ++ "; HttpOnly; SameSite=Lax; Path=/; Max-Age=" ++
    decimalText sessionTtlSeconds.toNat ++ if secureCookie then "; Secure" else "")

def expiredSessionCookie (secureCookie : Bool) : String :=
  sessionCookieName ++ "=; HttpOnly; SameSite=Lax; Path=/; Max-Age=0" ++
    if secureCookie then "; Secure" else ""

end Cookies

/-- The surroundings of the dashboard: the keyed hash, the password check, the JSON decoder, the
pairs of a URL's query where it parses, the stored users, the clock, the random numbers, and what
the environment says of the tailnet. -/
structure DashboardEnv where
  hmac : (key message : Bytes) → Bytes
  verifyPassword : (password encoded : String) → Bool
  parseJson : String → Option JsonValue
  queryPairs : String → Option (List (String × String))
  stored : Except String DashboardAuthStore
  now : UInt64
  random : Except String Bytes
  tailscale : TailscaleEnv

structure DashboardAuthPaths where
  authFile : String
  bootstrapCredentialFile : String

section Responses
variable (env : DashboardEnv)

def loginNextPath (headers : Headers) : Option String := do
  let referer ← headerValue headers "referer"
  let pairs ← env.queryPairs referer
  (pairs.find? (·.1 = "next")).map (·.2)

/-- The identity that a login body proves, and its cookie. -/
def provenLogin (parsed : JsonValue) (store : DashboardAuthStore) :
    Option DashboardAuthIdentity :=
  loginIdentity env.verifyPassword store (((parsed.get "username").bind JsonValue.asStr).getD "")
    (((parsed.get "password").bind JsonValue.asStr).getD "")

def loginResponse (headers : Headers) (body : String) (secureCookie : Bool) :
    DashboardAuthResponse :=
  match env.parseJson body with
  | none => jsonResponse "400 Bad Request" (refusalJson false "Invalid login payload")
  | some parsed =>
    match env.stored with
    | .error err => jsonResponse "500 Internal Server Error" (failureJson err)
    | .ok store =>
      match provenLogin env parsed store with
      | none => jsonResponse "401 Unauthorized" (refusalJson false "Invalid username or password")
      | some identity =>
        match createSessionCookie env.hmac store env.now env.random identity secureCookie with
        | .error err => jsonResponse "500 Internal Server Error" (failureJson err)
        | .ok cookie =>
          { jsonResponse "200 OK" (.ofFields [("success", .bool true),
              ("authenticated", .bool true), ("user", identityJson identity)]) with
            headers := ("Set-Cookie", cookie) ::
              ((loginNextPath env headers).map ("X-Agent-Browser-Next", ·)).toList }

def logoutResponse (secureCookie : Bool) : DashboardAuthResponse :=
  { jsonResponse "200 OK" (.ofFields [("success", .bool true), ("authenticated", .bool false)]) with
    headers := [("Set-Cookie", expiredSessionCookie secureCookie)] }

def verifyForwardAuthResponse (headers : Headers) : DashboardAuthResponse :=
  match authenticateHeaders env.hmac env.stored env.tailscale env.now headers with
  | .ok (some identity) =>
    { status := "204 No Content"
      contentType := "text/plain; charset=utf-8"
      headers := [("Remote-User", identity.username), ("Remote-Name", identity.displayName),
        ("Remote-Groups", identity.role), ("X-Agent-Browser-User", identity.username)]
      body := [] }
  | .ok none =>
    let next := (forwardedRequestTarget headers).getD "/"
    { jsonResponse (if (headerValue headers "x-forwarded-uri").isSome then "302 Found"
        else "401 Unauthorized") (refusalJson false "Login required") with
      headers := [("Location", forwardedLoginLocation headers next)] }
  | .error err => jsonResponse "500 Internal Server Error" (failureJson err)

/-- `paths` is what setting up the store returns. -/
def authStatusResponse (paths : Except String DashboardAuthPaths) (headers : Headers)
    (secureCookie : Bool) : DashboardAuthResponse :=
  match paths with
  | .error err => jsonResponse "500 Internal Server Error" (failureJson err)
  | .ok paths =>
    let identity :=
      match authenticateHeaders env.hmac env.stored env.tailscale env.now headers with
      | .ok identity => identity
      | .error _ => none
    let payload := JsonValue.ofFields [("authenticated", .bool identity.isSome),
      ("user", (identity.map identityJson).getD .null), ("cookieSecure", .bool secureCookie)]
    jsonResponse "200 OK" (if identity.isSome then
      (payload.set "credentialStore" (.string paths.authFile)).set "bootstrapCredentialFile"
        (.string paths.bootstrapCredentialFile) else payload)

def unauthorizedApiResponse (secureCookie : Bool) : DashboardAuthResponse :=
  { jsonResponse "401 Unauthorized" (refusalJson false "Login required") with
    headers := [("Set-Cookie", expiredSessionCookie secureCookie)] }

def forbiddenApiResponse (message : String) : DashboardAuthResponse :=
  jsonResponse "403 Forbidden" (.ofFields [("success", .bool false), ("authenticated", .bool true),
    ("authorized", .bool false), ("error", .string message)])

def requireSuperuser (headers : Headers) (secureCookie : Bool) :
    Except DashboardAuthResponse DashboardAuthIdentity :=
  match authenticateHeaders env.hmac env.stored env.tailscale env.now headers with
  | .ok (some identity) =>
    if identity.role = dashboardRoleSuperuser then .ok identity
    else .error (forbiddenApiResponse "Superuser role required")
  | .ok none => .error (unauthorizedApiResponse secureCookie)
  | .error err => .error (jsonResponse "500 Internal Server Error" (failureJson err))

end Responses

/-- A text without a line end. -/
def Plain (text : String) : Prop := ¬ ['\r', '\n'] <:+: text.toList

section Lines

theorem plain_append_iff {front value : String} (h : '\r' ∉ front.toList) :
    Plain (front ++ value) ↔ Plain value := by
  rw [Plain, Plain, String.toList_append, not_iff_not]
  exact ⟨infix_of_append h, fun hvalue => hvalue.trans (List.suffix_append _ _).isInfix⟩

theorem plain_of_not_mem {text : String} (h : '\n' ∉ text.toList) : Plain text := fun hfound =>
  h (hfound.subset (List.mem_cons_of_mem _ List.mem_cons_self))

theorem plain_decimalText (n : Nat) : Plain (decimalText n) := by
  refine plain_of_not_mem fun hmem => ?_
  rw [decimalText, String.toList_ofList] at hmem
  have hdigit := isDigit_of_mem_toDigits n _ hmem
  revert hdigit
  decide

namespace DashboardAuthResponse
variable {response : DashboardAuthResponse}

theorem bytesOf_foldl (headers : Headers) (text : String) :
    bytesOf (headers.foldl
        (fun text (name, value) => text ++ name ++ ": " ++ value ++ "\r\n") text) =
      bytesOf text ++ (headers.map (bytesOf ∘ headerLine)).flatMap (· ++ crlf) := by
  induction headers generalizing text with
  | nil => simp
  | cons header headers ih =>
    have hend : bytesOf "\r\n" = crlf := by decide
    rw [List.foldl_cons, ih]
    simp only [bytesOf_append, hend, List.map_cons, List.flatMap_cons, List.append_assoc,
      headerLine, Function.comp_apply]

theorem intoHttpBytes_eq (response : DashboardAuthResponse) :
    response.intoHttpBytes = head (response.lines.map bytesOf) ++ response.body := by
  have htype : bytesOf "\r\nContent-Type: " = crlf ++ bytesOf "Content-Type: " := by decide
  have hlength : bytesOf "\r\nContent-Length: " = crlf ++ bytesOf "Content-Length: " := by decide
  have hlast : bytesOf "\r\nConnection: close\r\nCache-Control: no-store\r\n" =
      crlf ++ (bytesOf "Connection: close" ++ crlf ++
        (bytesOf "Cache-Control: no-store" ++ crlf)) := by
    decide
  have hend : bytesOf "\r\n" = crlf := by decide
  rw [intoHttpBytes, bytesOf_append, bytesOf_foldl, head, lines]
  simp only [bytesOf_append, htype, hlength, hlast, hend, List.map_append, List.map_cons,
    List.map_nil, List.flatMap_append, List.flatMap_cons, List.flatMap_nil, List.append_assoc,
    List.append_nil, List.map_map]

theorem ne_nil_of_mem_lines (h : line ∈ response.lines.map bytesOf) : line ≠ [] := by
  have hnonempty (front rest : String) : bytesOf (front ++ ": " ++ rest) ≠ [] := by
    have hmark : bytesOf ": " = [58, 32] := by decide
    simp [bytesOf_append, hmark]
  obtain ⟨text, htext, rfl⟩ := List.mem_map.mp h
  rcases List.mem_append.mp htext with hfixed | hheader
  · have hfront (front rest : String) (hfront : bytesOf front ≠ []) :
        bytesOf (front ++ rest) ≠ [] := by
      rw [bytesOf_append]
      exact fun hnil => hfront (List.append_eq_nil_iff.mp hnil).1
    simp only [List.mem_cons, List.not_mem_nil, or_false] at hfixed
    rcases hfixed with rfl | rfl | rfl | rfl | rfl
    · exact hfront _ _ (by decide)
    · exact hfront _ _ (by decide)
    · exact hfront _ _ (by decide)
    · decide
    · decide
  · obtain ⟨⟨name, value⟩, _, rfl⟩ := List.mem_map.mp hheader
    exact hnonempty name value

/-- A response whose status, content type and header names are plain is one response exactly when
the values are plain. -/
theorem oneResponse_iff (hstatus : Plain response.status) (htype : Plain response.contentType)
    (hnames : ∀ header ∈ response.headers, '\r' ∉ header.1.toList) :
    response.OneResponse ↔ ∀ header ∈ response.headers, Plain header.2 := by
  rw [OneResponse, intoHttpBytes_eq, readHead_head_iff fun _ => ne_nil_of_mem_lines,
    List.forall_mem_map]
  have hline (text : String) : ¬ crlf <:+: bytesOf text ↔ Plain text :=
    not_congr crlf_infix_bytesOf
  have hfixed : ∀ text ∈ ["HTTP/1.1 " ++ response.status, "Content-Type: " ++ response.contentType,
      "Content-Length: " ++ decimalText response.body.length, "Connection: close",
      "Cache-Control: no-store"], Plain text := by
    simp only [List.mem_cons, List.not_mem_nil, or_false]
    rintro text (rfl | rfl | rfl | rfl | rfl)
    · exact (plain_append_iff (by decide)).mpr hstatus
    · exact (plain_append_iff (by decide)).mpr htype
    · exact (plain_append_iff (by decide)).mpr (plain_decimalText _)
    · exact plain_of_not_mem (by decide)
    · exact plain_of_not_mem (by decide)
  simp only [hline, lines, List.forall_mem_append, and_iff_right hfixed, List.forall_mem_map]
  refine forall₂_congr fun header hheader => plain_append_iff ?_
  rw [String.toList_append, List.mem_append, not_or]
  exact ⟨hnames header hheader, by decide⟩

end DashboardAuthResponse

end Lines

/-- No line feed is in the text. -/
def OneLine (text : String) : Prop := '\n' ∉ text.toList

section OneLine

theorem OneLine.append (ha : OneLine a) (hb : OneLine b) : OneLine (a ++ b) := by
  rw [OneLine, String.toList_append, List.mem_append, not_or]
  exact ⟨ha, hb⟩

theorem mem_of_mem_trim {text : String} (h : c ∈ (trim text).toList) : c ∈ text.toList := by
  rw [trim, String.toList_ofList, List.mem_reverse] at h
  have hfront := (List.dropWhile_sublist _).subset h
  exact (List.dropWhile_sublist _).subset (List.mem_reverse.mp hfront)

theorem OneLine.trim (h : OneLine text) : OneLine (trim text) := fun hmem =>
  h (mem_of_mem_trim hmem)

theorem parseHeaders_oneLine (block : String) :
    ∀ header ∈ parseHeaders block, OneLine header.2 := by
  intro header hheader
  obtain ⟨line, hline, hparsed⟩ := List.mem_filterMap.mp hheader
  obtain ⟨⟨name, value⟩, hsplit, rfl⟩ := Option.map_eq_some_iff.mp hparsed
  refine OneLine.trim fun hmem => ?_
  rw [String.toList_ofList] at hmem
  refine not_mem_of_mem_lines (List.mem_of_mem_drop hline) ?_
  rw [splitOnce_eq_some hsplit]
  exact List.mem_append_right _ (List.mem_append_right _ hmem)

theorem forwardedHeaders_oneLine (block : String) :
    ∀ header ∈ forwardedHeaders block, OneLine header.2 := by
  intro header hheader
  rcases List.mem_append.mp hheader with hparsed | hpath
  · exact parseHeaders_oneLine block header hparsed
  · obtain rfl := List.mem_singleton.mp hpath
    intro hmem
    rw [String.toList_ofList, List.getD_eq_getElem?_getD] at hmem
    cases hword : (splitWhitespace ((AgentBrowser.lines block.toList).headD []))[1]? with
    | none =>
      rw [hword] at hmem
      revert hmem
      decide
    | some word =>
      rw [hword, Option.getD_some] at hmem
      have hpart := (List.mem_filter.mp (List.mem_of_getElem? hword)).1
      exact absurd (eq_false_of_mem_splitOnP hpart hmem) (by decide)

theorem headerValue_oneLine (h : ∀ header ∈ headers, OneLine header.2)
    (hvalue : headerValue headers name = some value) : OneLine value := by
  obtain ⟨header, hfound, rfl⟩ := Option.map_eq_some_iff.mp hvalue
  exact h header (List.mem_of_find?_eq_some hfound)

theorem urlEncode_oneLine (text : String) : OneLine (urlEncode text) := by
  intro hmem
  rw [urlEncode, String.toList_ofList] at hmem
  obtain ⟨b, _, hb⟩ := List.mem_flatMap.mp hmem
  split at hb
  · rename_i hkept
    have hcode := List.mem_singleton.mp hb
    rw [isUnreservedByte, ← hcode] at hkept
    exact absurd (Bool.and_eq_true_iff.mp hkept).2 (by decide)
  · have hdigit : ∀ n < 16, hexDigitUpper n ≠ '\n' := by decide
    have hlow := Nat.mod_lt b.toNat (show 0 < 16 by decide)
    have hhigh : b.toNat / 16 < 16 := by
      have hbyte := b.toNat_lt
      omega
    simp only [List.mem_cons, List.not_mem_nil, or_false] at hb
    rcases hb with hb | hb | hb
    · revert hb
      decide
    · exact hdigit _ hhigh hb.symm
    · exact hdigit _ hlow hb.symm

theorem forwardedLoginLocation_oneLine (h : ∀ header ∈ headers, OneLine header.2)
    (next : String) : OneLine (forwardedLoginLocation headers next) := by
  have hpath : OneLine ("/login?next=" ++ urlEncode next) :=
    OneLine.append (by rw [OneLine]; decide) (urlEncode_oneLine next)
  unfold forwardedLoginLocation
  dsimp only
  split
  · exact hpath
  · rename_i host hhost
    have hhost : OneLine host := by
      rcases Option.or_eq_some_iff.mp hhost with hhost | ⟨_, hhost⟩
      · exact headerValue_oneLine h hhost
      · exact headerValue_oneLine h hhost
    have hproto : OneLine ((headerValue headers "x-forwarded-proto").getD "http") := by
      cases hproto : headerValue headers "x-forwarded-proto" with
      | none =>
        rw [Option.getD_none, OneLine]
        decide
      | some proto => exact headerValue_oneLine h hproto
    exact ((hproto.append (by rw [OneLine]; decide)).append hhost).append hpath

end OneLine

/-- `char::is_control`. -/
def isControl (c : Char) : Bool := c.toNat < 32 || (127 ≤ c.toNat && c.toNat < 160)

/-- The fields of the user hold no control characters. -/
def DashboardAuthUser.ControlFree (user : DashboardAuthUser) : Prop :=
  ∀ text ∈ [user.username, user.displayName, user.role], ∀ c ∈ text.toList, isControl c = false

theorem DashboardAuthUser.controlFree_of_all {user : DashboardAuthUser}
    (h : ([user.username, user.displayName, user.role].all fun text =>
      text.toList.all fun c => !isControl c) = true) : user.ControlFree := by
  intro text htext c hc
  simpa using List.all_eq_true.mp (List.all_eq_true.mp h text htext) c hc

structure DashboardAuthIdentity.OneLine (identity : DashboardAuthIdentity) : Prop where
  username : AgentBrowser.OneLine identity.username
  displayName : AgentBrowser.OneLine identity.displayName
  role : AgentBrowser.OneLine identity.role

section Identities
variable {env : DashboardEnv} {headers : Headers} {identity : DashboardAuthIdentity}

theorem DashboardAuthUser.ControlFree.oneLine {user : DashboardAuthUser} (h : user.ControlFree) :
    user.identity.OneLine := by
  have hline (text : String) (htext : text ∈ [user.username, user.displayName, user.role]) :
      AgentBrowser.OneLine text := fun hmem => absurd (h text htext _ hmem) (by decide)
  exact ⟨hline _ List.mem_cons_self, hline _ (List.mem_cons_of_mem _ List.mem_cons_self),
    hline _ (List.mem_cons_of_mem _ (List.mem_cons_of_mem _ List.mem_cons_self))⟩

theorem payloadIdentity_stored (h : payloadIdentity store now payload = some identity) :
    ∃ user ∈ store.users, identity = user.identity := by
  unfold payloadIdentity at h
  obtain ⟨text, _, h⟩ := Option.bind_eq_some_iff.mp h
  split at h
  · obtain ⟨_, _, h⟩ := Option.bind_eq_some_iff.mp h
    obtain ⟨_, _, h⟩ := Option.bind_eq_some_iff.mp h
    obtain ⟨_, _, h⟩ := Option.bind_eq_some_iff.mp h
    obtain ⟨user, huser, hidentity⟩ := Option.bind_eq_some_iff.mp h
    exact ⟨user, List.mem_of_find?_eq_some huser, (Option.some.inj hidentity).symm⟩
  · cases h

theorem tailscaleIdentity_oneLine (hheaders : ∀ header ∈ headers, OneLine header.2)
    (h : tailscaleIdentityFromConfig headers enabled allowedLogins = some identity) :
    identity.OneLine := by
  obtain ⟨_, _, h⟩ := Option.bind_eq_some_iff.mp h
  obtain ⟨_, _, h⟩ := Option.bind_eq_some_iff.mp h
  obtain ⟨_, _, h⟩ := Option.bind_eq_some_iff.mp h
  obtain ⟨login, hlogin, h⟩ := Option.bind_eq_some_iff.mp h
  obtain ⟨_, _, h⟩ := Option.bind_eq_some_iff.mp h
  obtain rfl := Option.some.inj h
  obtain ⟨value, hvalue, rfl⟩ := Option.map_eq_some_iff.mp hlogin
  have hlogin : OneLine (trim value) := (headerValue_oneLine hheaders hvalue).trim
  have hrole : OneLine dashboardRoleSuperuser := by rw [OneLine]; decide
  refine ⟨hlogin, ?_, hrole⟩
  dsimp only
  cases hname : ((headerValue headers "tailscale-user-name").map trim).filter (· ≠ "") with
  | none => exact hlogin
  | some name =>
    obtain ⟨given, hgiven, rfl⟩ := Option.map_eq_some_iff.mp (Option.filter_eq_some_iff.mp hname).1
    exact (headerValue_oneLine hheaders hgiven).trim

theorem authenticateHeaders_oneLine
    (husers : ∀ store, env.stored = .ok store → ∀ user ∈ store.users, user.ControlFree)
    (hheaders : ∀ header ∈ headers, OneLine header.2)
    (h : authenticateHeaders env.hmac env.stored env.tailscale env.now headers =
      .ok (some identity)) : identity.OneLine := by
  obtain ⟨session, hsession, h⟩ := Except.bind_eq_ok.mp h
  rcases Option.or_eq_some_iff.mp (Except.ok.inj h) with rfl | ⟨_, htailscale⟩
  · unfold cookieIdentity at hsession
    split at hsession
    · cases hsession
    · obtain ⟨store, hstore, hverified⟩ := Except.bind_eq_ok.mp hsession
      obtain ⟨payload, _, _, _, hidentity⟩ := verifySessionToken_eq_some.mp hverified
      obtain ⟨user, huser, rfl⟩ := payloadIdentity_stored hidentity
      exact (husers store hstore user huser).oneLine
  · exact tailscaleIdentity_oneLine hheaders htailscale

theorem createSessionCookie_oneLine
    (h : createSessionCookie hmac store now random identity secureCookie = .ok cookie) :
    OneLine cookie := by
  obtain ⟨token, htoken, h⟩ := Except.bind_eq_ok.mp h
  obtain ⟨nonce, secret, _, _, rfl⟩ := createSessionToken_eq_ok htoken
  obtain rfl := Except.ok.inj h
  have htoken : ∀ payload signature, OneLine (tokenOf payload signature) := by
    intro payload signature hmem
    rcases tokenOf_symbols payload signature _ hmem with hdot | hsymbol
    · exact absurd hdot (by decide)
    · exact absurd hsymbol (by decide)
  have hname : OneLine (sessionCookieName ++ "=") := by rw [OneLine]; decide
  have hrest : OneLine "; HttpOnly; SameSite=Lax; Path=/; Max-Age=" := by rw [OneLine]; decide
  have hage : OneLine (decimalText sessionTtlSeconds.toNat) := by rw [OneLine]; decide
  refine ((((hname.append (htoken _ _)).append hrest).append hage).append ?_)
  cases secureCookie <;> rw [OneLine] <;> decide

theorem expiredSessionCookie_oneLine (secureCookie : Bool) :
    OneLine (expiredSessionCookie secureCookie) := by
  cases secureCookie <;> rw [OneLine] <;> decide

end Identities

/-- The login is accepted, so that the answer has headers of its own. -/
def LoginSucceeds (env : DashboardEnv) (body : String) (secureCookie : Bool) : Prop :=
  ∃ parsed store identity cookie, env.parseJson body = some parsed ∧ env.stored = .ok store ∧
    provenLogin env parsed store = some identity ∧
    createSessionCookie env.hmac store env.now env.random identity secureCookie = .ok cookie

section Whole
variable {env : DashboardEnv} {headers : Headers}

theorem json_oneLine : OneLine "application/json; charset=utf-8" := by
  rw [OneLine]
  decide

theorem whole_iff {status contentType : String} (hstatus : OneLine status)
    (htype : OneLine contentType) (hnames : ∀ header ∈ headers, '\r' ∉ header.1.toList) (body : Bytes) :
    (DashboardAuthResponse.mk status contentType headers body).OneResponse ↔
      ∀ header ∈ headers, Plain header.2 :=
  DashboardAuthResponse.oneResponse_iff (plain_of_not_mem hstatus) (plain_of_not_mem htype) hnames

theorem jsonResponse_whole {status : String} (hstatus : OneLine status) (value : JsonValue) :
    (jsonResponse status value).OneResponse :=
  (whole_iff hstatus json_oneLine (List.forall_mem_nil _) _).mpr (List.forall_mem_nil _)

theorem jsonResponse_with_whole {status : String} (hstatus : OneLine status)
    (hname : '\r' ∉ name.toList)
    (hvalue : OneLine value) (json : JsonValue) :
    { jsonResponse status json with headers := [(name, value)] }.OneResponse :=
  (whole_iff hstatus json_oneLine (List.forall_mem_singleton.mpr hname) _).mpr
    (List.forall_mem_singleton.mpr (plain_of_not_mem hvalue))

theorem loginResponse_whole_iff (env : DashboardEnv) (headers : Headers) (body : String)
    (secureCookie : Bool) : (loginResponse env headers body secureCookie).OneResponse ↔
      (LoginSucceeds env body secureCookie →
        ∀ next, loginNextPath env headers = some next → Plain next) := by
  have hrefused {response : DashboardAuthResponse} (hwhole : response.OneResponse)
      (hfails : ¬ LoginSucceeds env body secureCookie) :
      response.OneResponse ↔ (LoginSucceeds env body secureCookie →
        ∀ next, loginNextPath env headers = some next → Plain next) :=
    iff_of_true hwhole fun h => absurd h hfails
  have hline : OneLine "400 Bad Request" ∧ OneLine "500 Internal Server Error" ∧
      OneLine "401 Unauthorized" ∧ OneLine "200 OK" := by
    simp only [OneLine]
    decide
  unfold loginResponse
  split
  · rename_i hparsed
    refine hrefused (jsonResponse_whole hline.1 _) ?_
    rintro ⟨parsed, _, _, _, hsome, _⟩
    cases hparsed.symm.trans hsome
  · rename_i parsed hparsed
    split
    · rename_i err hstored
      refine hrefused (jsonResponse_whole hline.2.1 _) ?_
      rintro ⟨_, _, _, _, _, hok, _⟩
      cases hstored.symm.trans hok
    · rename_i store hstored
      split
      · rename_i hidentity
        refine hrefused (jsonResponse_whole hline.2.2.1 _) ?_
        rintro ⟨other, store', _, _, hother, hstore, hproven, _⟩
        obtain rfl := Option.some.inj (hparsed.symm.trans hother)
        obtain rfl := Except.ok.inj (hstored.symm.trans hstore)
        cases hidentity.symm.trans hproven
      · rename_i identity hidentity
        split
        · rename_i err hcookie
          refine hrefused (jsonResponse_whole hline.2.1 _) ?_
          rintro ⟨other, store', identity', _, hother, hstore, hproven, hok⟩
          obtain rfl := Option.some.inj (hparsed.symm.trans hother)
          obtain rfl := Except.ok.inj (hstored.symm.trans hstore)
          obtain rfl := Option.some.inj (hidentity.symm.trans hproven)
          cases hcookie.symm.trans hok
        · rename_i cookie hcookie
          have hsucceeds : LoginSucceeds env body secureCookie :=
            ⟨parsed, store, identity, cookie, hparsed, hstored, hidentity, hcookie⟩
          have hnames : ∀ header ∈ ("Set-Cookie", cookie) ::
              ((loginNextPath env headers).map ("X-Agent-Browser-Next", ·)).toList,
              '\r' ∉ header.1.toList := by
            rw [List.forall_mem_cons]
            refine ⟨show '\r' ∉ "Set-Cookie".toList by decide, fun header hheader => ?_⟩
            obtain ⟨next, _, rfl⟩ := Option.map_eq_some_iff.mp (Option.mem_toList.mp hheader)
            exact show '\r' ∉ "X-Agent-Browser-Next".toList by decide
          refine (whole_iff hline.2.2.2 json_oneLine hnames _).trans ?_
          rw [List.forall_mem_cons,
            and_iff_right (plain_of_not_mem (createSessionCookie_oneLine hcookie))]
          simp [hsucceeds]

theorem verifyForwardAuthResponse_whole
    (husers : ∀ store, env.stored = .ok store → ∀ user ∈ store.users, user.ControlFree)
    (hheaders : ∀ header ∈ headers, OneLine header.2) :
    (verifyForwardAuthResponse env headers).OneResponse := by
  unfold verifyForwardAuthResponse
  split
  · rename_i identity hidentity
    have hline := authenticateHeaders_oneLine husers hheaders hidentity
    have hstatus : OneLine "204 No Content" := by rw [OneLine]; decide
    have htype : OneLine "text/plain; charset=utf-8" := by rw [OneLine]; decide
    refine (whole_iff hstatus htype ?_ _).mpr ?_
    · simp only [List.forall_mem_cons]
      refine ⟨by decide, by decide, by decide, by decide, List.forall_mem_nil _⟩
    · simp only [List.forall_mem_cons]
      exact ⟨plain_of_not_mem hline.username, plain_of_not_mem hline.displayName,
        plain_of_not_mem hline.role, plain_of_not_mem hline.username, List.forall_mem_nil _⟩
  · dsimp only
    refine jsonResponse_with_whole ?_ (by decide) (forwardedLoginLocation_oneLine hheaders _) _
    split <;> rw [OneLine] <;> decide
  · exact jsonResponse_whole (by rw [OneLine]; decide) _

theorem logoutResponse_whole (secureCookie : Bool) : (logoutResponse secureCookie).OneResponse :=
  jsonResponse_with_whole (by rw [OneLine]; decide) (by decide)
    (expiredSessionCookie_oneLine secureCookie) _

theorem unauthorizedApiResponse_whole (secureCookie : Bool) :
    (unauthorizedApiResponse secureCookie).OneResponse :=
  jsonResponse_with_whole (by rw [OneLine]; decide) (by decide)
    (expiredSessionCookie_oneLine secureCookie) _

theorem forbiddenApiResponse_whole (message : String) :
    (forbiddenApiResponse message).OneResponse :=
  jsonResponse_whole (by rw [OneLine]; decide) _

theorem authStatusResponse_whole (env : DashboardEnv) (paths : Except String DashboardAuthPaths)
    (headers : Headers) (secureCookie : Bool) :
    (authStatusResponse env paths headers secureCookie).OneResponse := by
  unfold authStatusResponse
  split
  · exact jsonResponse_whole (by rw [OneLine]; decide) _
  · exact jsonResponse_whole (by rw [OneLine]; decide) _

theorem requireSuperuser_whole (h : requireSuperuser env headers secureCookie = .error response) :
    response.OneResponse := by
  unfold requireSuperuser at h
  split at h
  · split at h
    · cases h
    · cases h
      exact forbiddenApiResponse_whole _
  · cases h
    exact unauthorizedApiResponse_whole _
  · cases h
    exact jsonResponse_whole (by rw [OneLine]; decide) _

end Whole

/-- Every answer of the dashboard's authentication is one response, but for an accepted login,
whose answer is one exactly when the decoded `next` of the referer holds no line end. -/
theorem dashboard_responses_whole (env : DashboardEnv) (block body message : String)
    (paths : Except String DashboardAuthPaths) (secureCookie : Bool) (headers : Headers)
    (hheaders : headers = parseHeaders block ∨ headers = forwardedHeaders block)
    (husers : ∀ store, env.stored = .ok store → ∀ user ∈ store.users, user.ControlFree) :
    ((loginResponse env headers body secureCookie).OneResponse ↔
      (LoginSucceeds env body secureCookie →
        ∀ next, loginNextPath env headers = some next → Plain next)) ∧
    (logoutResponse secureCookie).OneResponse ∧
    (verifyForwardAuthResponse env headers).OneResponse ∧
    (authStatusResponse env paths headers secureCookie).OneResponse ∧
    (unauthorizedApiResponse secureCookie).OneResponse ∧
    (forbiddenApiResponse message).OneResponse ∧
    ∀ response, requireSuperuser env headers secureCookie = .error response →
      response.OneResponse := by
  have hlines : ∀ header ∈ headers, OneLine header.2 := by
    rcases hheaders with rfl | rfl
    · exact parseHeaders_oneLine block
    · exact forwardedHeaders_oneLine block
  exact ⟨loginResponse_whole_iff env headers body secureCookie, logoutResponse_whole secureCookie,
    verifyForwardAuthResponse_whole husers hlines,
    authStatusResponse_whole env paths headers secureCookie,
    unauthorizedApiResponse_whole secureCookie, forbiddenApiResponse_whole message,
    fun _ => requireSuperuser_whole⟩

section Sample

def passwordStore : DashboardAuthStore where
  sessionSecret := adminStore.sessionSecret
  users := [{
    username := "admin"
    displayName := "Default superuser"
    role := dashboardRoleSuperuser
    passwordHash := "pbkdf2-sha256$120000$AAECAwQFBgcICQoLDA0ODw$" ++
      "TdSUOdJMRLHQUM5RVeswF-upaaHabym8KRc18Wen_m0" }]

def loginBody : String := "\x7b\"username\":\"admin\",\"password\":\"open sesame\"\x7d"

/-- The password is the stored one, and two referers have a `next`. -/
def loginEnv : DashboardEnv where
  hmac := adminHmac
  verifyPassword password encoded :=
    password = "open sesame" && passwordStore.users.any (·.passwordHash = encoded)
  parseJson text :=
    if text = loginBody then
      some (.ofFields [("username", .string "admin"), ("password", .string "open sesame")])
    else none
  queryPairs referer :=
    if referer = "http://localhost/login?next=%2Fjobs" then some [("next", "/jobs")]
    else if referer = "http://localhost/login?next=%0D%0ASet-Cookie:%20theme=dark" then
      some [("next", "\r\nSet-Cookie: theme=dark")]
    else none
  stored := .ok passwordStore
  now := 1700000000
  random := .ok sampleNonce
  tailscale := {}

def loginBlock (referer : String) : String :=
  "POST /api/dashboard-auth/login HTTP/1.1\r\nHost: localhost\r\nReferer: " ++ referer ++
    "\r\n\r\n"

theorem dashboard_responses_whole_jobs :
    (loginResponse loginEnv (parseHeaders (loginBlock "http://localhost/login?next=%2Fjobs"))
      loginBody false).OneResponse := by
  have husers : ∀ store, loginEnv.stored = .ok store → ∀ user ∈ store.users, user.ControlFree := by
    rintro _ ⟨⟩ user huser
    obtain rfl := List.mem_singleton.mp huser
    exact DashboardAuthUser.controlFree_of_all (by decide)
  refine (dashboard_responses_whole loginEnv (loginBlock "http://localhost/login?next=%2Fjobs")
    loginBody "" (.error "") false _ (.inl rfl) husers).1.mpr fun _ next hnext => ?_
  have hjobs : loginNextPath loginEnv
      (parseHeaders (loginBlock "http://localhost/login?next=%2Fjobs")) = some "/jobs" := by
    decide +kernel
  obtain rfl := Option.some.inj (hnext.symm.trans hjobs)
  exact plain_of_not_mem (by decide)

/-- A `next` with an encoded line end adds a cookie to the answer of an accepted login. -/
theorem dashboard_response_split :
    ¬ (loginResponse loginEnv (parseHeaders (loginBlock
      "http://localhost/login?next=%0D%0ASet-Cookie:%20theme=dark")) loginBody
        false).OneResponse := by
  rw [loginResponse_whole_iff]
  intro hwhole
  have hsucceeds : LoginSucceeds loginEnv loginBody false := by
    refine ⟨_, passwordStore, ⟨"admin", "Default superuser", "superuser"⟩, _, rfl, rfl, ?_, rfl⟩
    decide
  have hnext : loginNextPath loginEnv (parseHeaders (loginBlock
      "http://localhost/login?next=%0D%0ASet-Cookie:%20theme=dark")) =
        some "\r\nSet-Cookie: theme=dark" := by
    decide +kernel
  exact hwhole hsucceeds _ hnext ⟨[], "Set-Cookie: theme=dark".toList, by decide⟩

end Sample

end AgentBrowser
