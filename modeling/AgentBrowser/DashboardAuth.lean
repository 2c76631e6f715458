import AgentBrowser.AsciiLetters
import AgentBrowser.Base64Url
import AgentBrowser.Snapshot
import AgentBrowser.StandardText

namespace AgentBrowser
set_option autoImplicit true

def sessionCookieName : String := "agent_browser_dashboard_session"

def sessionTtlSeconds : UInt64 := 7 * 24 * 60 * 60

def dashboardRoleSuperuser : String := "superuser"

def dashboardRoleObserver : String := "observer"

structure DashboardAuthUser where
  username : String
  displayName : String
  role : String
  passwordHash : String := ""
  bootstrap : Bool := true
  deriving DecidableEq, Repr

structure DashboardAuthStore where
  sessionSecret : String
  users : List DashboardAuthUser
  deriving DecidableEq, Repr

structure DashboardAuthIdentity where
  username : String
  displayName : String
  role : String
  deriving DecidableEq, Repr

def DashboardAuthUser.identity (user : DashboardAuthUser) : DashboardAuthIdentity where
  username := user.username
  displayName := user.displayName
  role := user.role

/-- The generated superuser and the generated observer get the roles they are generated with. -/
def DashboardAuthUser.normalized (user : DashboardAuthUser) : DashboardAuthUser :=
  let user :=
    if user.username = "admin" ∧ user.bootstrap ∧ user.role ≠ dashboardRoleSuperuser then
      { user with role := dashboardRoleSuperuser }
    else user
  if user.username = "codex" ∧ user.bootstrap ∧ user.displayName = "Codex observer" ∧
      user.role = dashboardRoleSuperuser then
    { user with role := dashboardRoleObserver }
  else user

theorem DashboardAuthUser.normalized_username (user : DashboardAuthUser) :
    user.normalized.username = user.username := by
  simp only [DashboardAuthUser.normalized]
  split <;> split <;> rfl

def normalizeBootstrapRoles (store : DashboardAuthStore) : DashboardAuthStore × Bool :=
  ({ store with users := store.users.map (·.normalized) },
    store.users.any fun user => user.normalized ≠ user)

abbrev Headers : Type := List (String × String)

/-- What the process environment says of logins over the tailnet. -/
structure TailscaleEnv where
  auth : Option String := none
  allowedLogins : Option String := none

def parseU64 (text : List Char) : Option UInt64 := (parseUnsigned 64 text).map UInt64.ofNat

def constantTimeEq (left right : Bytes) : Bool :=
  left.length = right.length ∧
    (left.zip right).foldl (fun diff pair => diff ||| (pair.1 ^^^ pair.2)) (0 : UInt8) = 0

def headerValue (headers : Headers) (name : String) : Option String :=
  (headers.find? fun header => eqIgnoreAsciiCase header.1 name).map (·.2)

def cookieValue (cookieHeader name : String) : Option String :=
  (cookieHeader.toList.splitOn ';').findSome? fun part =>
    (splitOnce ['='] (trim (String.ofList part)).toList).bind fun (candidate, value) =>
      if candidate = name.toList then some (String.ofList value) else none

def requestIsSecure (headers : Headers) : Bool :=
  (headerValue headers "x-forwarded-proto").any (eqIgnoreAsciiCase · "https")

def envValueIsTrue (value : String) : Bool :=
  ["1", "true", "yes", "on"].contains (asciiLowercase (trim value))

/-- The host that a request was sent to, without port and trailing dots. -/
def forwardedHost (headers : Headers) : Option String :=
  ((headerValue headers "x-forwarded-host").or (headerValue headers "host")).map fun host =>
    let name := (host.toList.splitOn ':').headD []
    asciiLowercase (String.ofList (name.reverse.dropWhile (· = '.')).reverse)

def loginAllowed (allowedLogins login : String) : Bool :=
  (((allowedLogins.toList.splitOn ',').map fun part => trim (String.ofList part)).filter
    (· ≠ "")).any (eqIgnoreAsciiCase · login)

def tailscaleIdentityFromConfig (headers : Headers) (enabled : Bool) (allowedLogins : String) :
    Option DashboardAuthIdentity := do
  guard (enabled && requestIsSecure headers)
  let host ← forwardedHost headers
  guard (".ts.net".toList.isSuffixOf host.toList)
  let login ← (headerValue headers "tailscale-user-login").map trim
  guard (login ≠ "" && loginAllowed allowedLogins login)
  some
    { username := login
      displayName :=
        (((headerValue headers "tailscale-user-name").map trim).filter (· ≠ "")).getD login
      role := dashboardRoleSuperuser }

section Tokens
variable (hmac : (key message : Bytes) → Bytes) (store : DashboardAuthStore)

def generateSecret (random : Except String Bytes) : Except String String :=
  match random with
  | .ok bytes => .ok (String.ofList (Base64Url.encode bytes))
  | .error error => .error ("Failed to generate dashboard secret: " ++ error)

def signPayload (payload : Bytes) : Except String Bytes := do
  let secret ← orRefuse (Base64Url.decode store.sessionSecret.toList)
    "Invalid dashboard session secret"
  .ok (hmac secret payload)

def sessionPayload (identity : DashboardAuthIdentity) (expires : UInt64) (nonce : String) :
    String :=
  "v1|" ++ identity.username ++ "|" ++ identity.role ++ "|" ++
    String.ofList (Nat.toDigits 10 expires.toNat) ++ "|" ++ nonce

def tokenOf (payload signature : Bytes) : String :=
  String.ofList (Base64Url.encode payload) ++ "." ++ String.ofList (Base64Url.encode signature)

def createSessionToken (now : UInt64) (random : Except String Bytes)
    (identity : DashboardAuthIdentity) : Except String String := do
  let nonce ← generateSecret random
  let payload := bytesOf (sessionPayload identity (now + sessionTtlSeconds) nonce)
  let signature ← signPayload hmac store payload
  .ok (tokenOf payload signature)

/-- The user that a signed payload names. -/
def payloadIdentity (now : UInt64) (payload : Bytes) : Option DashboardAuthIdentity := do
  let text ← fromUtf8 payload
  match text.toList.splitOn '|' with
  | [version, username, role, expires, _] =>
    guard (version = "v1".toList)
    let expires ← parseU64 expires
    guard (now < expires)
    let user ← store.users.find? fun user =>
      user.username.toList = username && user.role.toList = role
    some user.identity
  | _ => none

/-- The payload and the signature of a token. -/
def tokenParts (token : String) : Option (Bytes × Bytes) := do
  let (payload, signature) ← splitOnce ['.'] token.toList
  let payload ← Base64Url.decode payload
  let signature ← Base64Url.decode signature
  some (payload, signature)

def verifySessionToken (now : UInt64) (token : String) :
    Except String (Option DashboardAuthIdentity) :=
  match tokenParts token with
  | none => .ok none
  | some (payload, signature) => do
    let expected ← signPayload hmac store payload
    .ok (if constantTimeEq expected signature then payloadIdentity store now payload else none)

end Tokens

section Requests
variable (hmac : (key message : Bytes) → Bytes) (stored : Except String DashboardAuthStore)

/-- The identity of a request's session cookie. -/
def cookieIdentity (now : UInt64) (headers : Headers) :
    Except String (Option DashboardAuthIdentity) :=
  match (headerValue headers "cookie").bind (cookieValue · sessionCookieName) with
  | none => .ok none
  | some token => do
    let store ← stored
    verifySessionToken hmac store now token

def authenticateHeaders (env : TailscaleEnv) (now : UInt64) (headers : Headers) :
    Except String (Option DashboardAuthIdentity) := do
  let session ← cookieIdentity hmac stored now headers
  .ok (session.or (tailscaleIdentityFromConfig headers (env.auth.any envValueIsTrue)
    (env.allowedLogins.getD "")))

def internalProxyCookie (now : UInt64) (random : Except String Bytes)
    (identity : DashboardAuthIdentity) : Except String String := do
  let store ← stored
  let token ← createSessionToken hmac store now random identity
  .ok (sessionCookieName ++ "=" ++ token)

/-- The identity of a login that is not refused. -/
def loginIdentity (verifyPassword : (password encoded : String) → Bool)
    (store : DashboardAuthStore) (username password : String) : Option DashboardAuthIdentity := do
  let user ← store.users.find? (·.username = trim username)
  guard (verifyPassword password user.passwordHash)
  some user.identity

end Requests

theorem foldl_or_eq_zero (pairs : List (UInt8 × UInt8)) (diff : UInt8) :
    pairs.foldl (fun diff pair => diff ||| (pair.1 ^^^ pair.2)) diff = 0 ↔
      diff = 0 ∧ ∀ pair ∈ pairs, pair.1 = pair.2 := by
  induction pairs generalizing diff with
  | nil => simp
  | cons pair pairs ih =>
    rw [List.foldl_cons, ih, UInt8.or_eq_zero_iff, UInt8.xor_eq_zero_iff, List.forall_mem_cons,
      and_assoc]

theorem constantTimeEq_iff : constantTimeEq left right = true ↔ left = right := by
  rw [constantTimeEq, decide_eq_true_iff, foldl_or_eq_zero]
  constructor
  · rintro ⟨hlength, -, hpairs⟩
    refine List.ext_getElem hlength fun i hleft hright => ?_
    have hi : i < (left.zip right).length := by
      rw [List.length_zip]
      exact Nat.lt_min.mpr ⟨hleft, hright⟩
    have hpair := hpairs _ (List.getElem_mem hi)
    rwa [List.getElem_zip] at hpair
  · rintro rfl
    refine ⟨rfl, rfl, fun pair hpair => ?_⟩
    rw [List.zip_eq_zipWith, List.zipWith_self] at hpair
    obtain ⟨b, _, rfl⟩ := List.mem_map.mp hpair
    rfl

theorem parseU64_toDigits (n : UInt64) : parseU64 (Nat.toDigits 10 n.toNat) = some n := by
  rw [parseU64, parseUnsigned_toDigits n.toNat_lt]
  exact congrArg some UInt64.ofNat_toNat

/-- A text is one part exactly if the mark is not in it. -/
theorem splitOn_eq_singleton_iff {mark : Char} {text part : List Char} :
    text.splitOn mark = [part] ↔ mark ∉ text ∧ part = text := by
  constructor
  · intro h
    have hpart : part = text := by
      have hjoin : [mark].intercalate (text.splitOn mark) = text := List.intercalate_splitOn mark
      rw [h] at hjoin
      simpa using hjoin
    refine ⟨fun hmem => ?_, hpart⟩
    obtain ⟨front, rest, htext⟩ := List.append_of_mem hmem
    have hlength := congrArg List.length h
    rw [htext, List.splitOn_append_cons_self, List.length_append] at hlength
    have hfront := List.length_pos_of_ne_nil (List.splitOn_ne_nil mark front)
    have hrest := List.length_pos_of_ne_nil (List.splitOn_ne_nil mark rest)
    simp only [List.length_singleton] at hlength
    omega
  · rintro ⟨hmem, rfl⟩
    exact List.splitOn_eq_singleton hmem

theorem append_of_length_two {front rest : List (List Char)} (hfront : front ≠ [])
    (hrest : rest ≠ []) (h : front ++ rest = [a, b]) : front = [a] ∧ rest = [b] := by
  obtain ⟨first, front, rfl⟩ := List.exists_cons_of_ne_nil hfront
  obtain ⟨second, rest, rfl⟩ := List.exists_cons_of_ne_nil hrest
  cases front with
  | nil =>
    cases h
    exact ⟨rfl, rfl⟩
  | cons other front =>
    have hlength := congrArg List.length h
    simp only [List.length_append, List.length_cons, List.length_nil] at hlength
    omega

/-- The parts of a payload. A name with a mark in it is more than one. -/
theorem sessionPayload_parts (identity : DashboardAuthIdentity) (expires : UInt64)
    (hnonce : '|' ∉ nonce.toList) :
    (sessionPayload identity expires nonce).toList.splitOn '|' =
      "v1".toList :: (identity.username.toList.splitOn '|' ++ identity.role.toList.splitOn '|' ++
        [Nat.toDigits 10 expires.toNat, nonce.toList]) := by
  have hdigits : '|' ∉ Nat.toDigits 10 expires.toNat := fun hmem => by
    have hbad := isDigit_of_mem_toDigits _ _ hmem
    revert hbad
    decide
  have hpayload : (sessionPayload identity expires nonce).toList =
      "v1".toList ++ '|' :: (identity.username.toList ++ '|' :: (identity.role.toList ++ '|' ::
        (Nat.toDigits 10 expires.toNat ++ '|' :: nonce.toList))) := by
    simp [sessionPayload, String.toList_append]
  rw [hpayload, List.splitOn_append_cons_self_of_not_mem (by decide),
    List.splitOn_append_cons_self, List.splitOn_append_cons_self,
    List.splitOn_append_cons_self_of_not_mem hdigits, List.splitOn_eq_singleton hnonce,
    List.append_assoc]

section Reading
variable {hmac : Bytes → Bytes → Bytes} {store : DashboardAuthStore} {now : UInt64}
  {identity read : DashboardAuthIdentity}

/-- The text of a payload that is read as the identity. -/
def Names (text : String) (identity : DashboardAuthIdentity) (expires : UInt64) : Prop :=
  ∃ digits nonce, parseU64 digits = some expires ∧ text.toList.splitOn '|' =
    ["v1".toList, identity.username.toList, identity.role.toList, digits, nonce]

/-- The store has a user of the identity's name and role. -/
def Known (store : DashboardAuthStore) (identity : DashboardAuthIdentity) : Prop :=
  ∃ user ∈ store.users, user.username = identity.username ∧ user.role = identity.role

theorem payloadIdentity_eq_some (h : payloadIdentity store now payload = some identity) :
    ∃ text expires, fromUtf8 payload = some text ∧ Names text identity expires ∧ now < expires ∧
      Known store identity := by
  unfold payloadIdentity at h
  obtain ⟨text, htext, h⟩ := Option.bind_eq_some_iff.mp h
  split at h
  next version username role digits nonce hparts =>
    obtain ⟨_, hversion, h⟩ := Option.bind_eq_some_iff.mp h
    obtain ⟨expires, hexpires, h⟩ := Option.bind_eq_some_iff.mp h
    obtain ⟨_, hnow, h⟩ := Option.bind_eq_some_iff.mp h
    obtain ⟨user, huser, hidentity⟩ := Option.bind_eq_some_iff.mp h
    obtain rfl := Option.some.inj hidentity
    obtain rfl := (Option.guard_eq_some' _).mp hversion
    obtain ⟨rfl, rfl⟩ : user.username.toList = username ∧ user.role.toList = role := by
      simpa using List.find?_some huser
    exact ⟨text, expires, htext, ⟨digits, nonce, hexpires, hparts⟩,
      (Option.guard_eq_some' _).mp hnow, user, List.mem_of_find?_eq_some huser, rfl, rfl⟩
  next => cases h

theorem payloadIdentity_of_names (htext : fromUtf8 payload = some text)
    (hnames : Names text identity expires) (hnow : now < expires) (hknown : Known store identity) :
    ∃ read, payloadIdentity store now payload = some read ∧
      read.username = identity.username ∧ read.role = identity.role := by
  obtain ⟨digits, nonce, hexpires, hparts⟩ := hnames
  obtain ⟨user, huser, hname, hrole⟩ := hknown
  cases hfound : store.users.find? fun user =>
      user.username.toList = identity.username.toList &&
        user.role.toList = identity.role.toList with
  | none =>
    have hother := List.find?_eq_none.mp hfound user huser
    simp [hname, hrole] at hother
  | some found =>
    have hsame := List.find?_some hfound
    simp only [Bool.and_eq_true, decide_eq_true_eq, String.toList_inj] at hsame
    refine ⟨found.identity, ?_, hsame⟩
    simp [payloadIdentity, htext, hparts, hexpires, hnow, hfound, guard]

/-- A payload names the identity that it was made for, and no other, unless there are marks in the
name or the role. -/
theorem names_sessionPayload (hnonce : '|' ∉ nonce.toList) :
    Names (sessionPayload identity made nonce) read expires ↔
      ('|' ∉ identity.username.toList ∧ '|' ∉ identity.role.toList) ∧ expires = made ∧
        read.username = identity.username ∧ read.role = identity.role := by
  unfold Names
  rw [sessionPayload_parts identity made hnonce]
  constructor
  · rintro ⟨digits, nonce', hexpires, hparts⟩
    obtain ⟨hnames, hrest⟩ := @List.append_inj' _ _ _ [read.username.toList, read.role.toList] _
      (List.cons.inj hparts).2 rfl
    obtain ⟨husername, hrole⟩ := append_of_length_two (List.splitOn_ne_nil _ _)
      (List.splitOn_ne_nil _ _) hnames
    obtain ⟨husername, huser⟩ := splitOn_eq_singleton_iff.mp husername
    obtain ⟨hrole, hread⟩ := splitOn_eq_singleton_iff.mp hrole
    obtain ⟨rfl, _⟩ := List.cons.inj hrest
    rw [parseU64_toDigits] at hexpires
    exact ⟨⟨husername, hrole⟩, (Option.some.inj hexpires).symm, String.toList_inj.mp huser,
      String.toList_inj.mp hread⟩
  · rintro ⟨⟨husername, hrole⟩, rfl, huser, hread⟩
    refine ⟨_, nonce.toList, parseU64_toDigits expires, ?_⟩
    rw [List.splitOn_eq_singleton husername, List.splitOn_eq_singleton hrole, huser, hread]
    rfl

theorem tokenParts_tokenOf (payload signature : Bytes) :
    tokenParts (tokenOf payload signature) = some (payload, signature) := by
  have htoken : (tokenOf payload signature).toList =
      Base64Url.encode payload ++ ('.' :: [] ++ Base64Url.encode signature) := by
    simp [tokenOf, String.toList_append]
  have hdot : '.' ∉ Base64Url.encode payload := Base64Url.not_mem_encode (by decide)
  simp only [tokenParts, htoken, splitOnce_append hdot, Base64Url.decode_encode,
    Option.bind_eq_bind, Option.bind_some]

/-- Only a payload with its own signature is read. -/
theorem verifySessionToken_eq_some :
    verifySessionToken hmac store now token = .ok (some identity) ↔ ∃ payload secret,
      Base64Url.decode store.sessionSecret.toList = some secret ∧
        tokenParts token = some (payload, hmac secret payload) ∧
          payloadIdentity store now payload = some identity := by
  unfold verifySessionToken
  cases hparts : tokenParts token with
  | none => simp
  | some parts =>
    obtain ⟨payload, signature⟩ := parts
    simp only [signPayload, Except.bind_eq_ok, orRefuse_eq_ok, Option.some.injEq, Prod.mk.injEq,
      Except.ok.injEq]
    constructor
    · rintro ⟨expected, ⟨secret, hsecret, rfl⟩, hread⟩
      split at hread
      · rename_i hequal
        exact ⟨payload, secret, hsecret, ⟨rfl, (constantTimeEq_iff.mp hequal).symm⟩, hread⟩
      · cases hread
    · rintro ⟨_, secret, hsecret, ⟨rfl, rfl⟩, hread⟩
      exact ⟨_, ⟨secret, hsecret, rfl⟩, by rw [if_pos (constantTimeEq_iff.mpr rfl), hread]⟩

end Reading

theorem isWhiteSpace_of_isSymbol (h : Base64Url.IsSymbol c) : isWhiteSpace c = false := by
  rcases h with h | rfl | rfl
  · rw [AsciiLetters.isAlphanum_iff] at h
    simp only [isWhiteSpace, Bool.or_eq_false_iff, Bool.and_eq_false_iff, decide_eq_false_iff_not]
    omega
  · rfl
  · rfl

theorem cookieValue_of_symbols
    (h : ∀ c ∈ token.toList, c = '.' ∨ Base64Url.IsSymbol c) :
    cookieValue (sessionCookieName ++ "=" ++ token) sessionCookieName = some token := by
  have hheader : (sessionCookieName ++ "=" ++ token).toList =
      sessionCookieName.toList ++ ('=' :: [] ++ token.toList) := by
    simp [String.toList_append]
  have hall : (sessionCookieName.toList.all fun c => c ≠ ';' && !isWhiteSpace c) = true := by decide
  have hname : ∀ c ∈ sessionCookieName.toList, c ≠ ';' ∧ isWhiteSpace c = false := by
    simpa using hall
  have htoken (c : Char) (hc : c ∈ token.toList) : c ≠ ';' ∧ isWhiteSpace c = false := by
    rcases h c hc with rfl | hsymbol
    · decide
    · refine ⟨fun hmark => ?_, isWhiteSpace_of_isSymbol hsymbol⟩
      subst hmark
      exact absurd hsymbol (by decide)
  have hplain : ∀ c ∈ (sessionCookieName ++ "=" ++ token).toList,
      c ≠ ';' ∧ isWhiteSpace c = false := by
    rw [hheader]
    intro c hc
    rcases List.mem_append.mp hc with hc | hc
    · exact hname c hc
    · rcases List.mem_cons.mp hc with rfl | hc
      · decide
      · exact htoken c hc
  have hmark : ';' ∉ (sessionCookieName ++ "=" ++ token).toList := fun hmem =>
    (hplain _ hmem).1 rfl
  have htrim := trim_eq_self fun c hc => (hplain c hc).2
  have hsplit : splitOnce ['='] (sessionCookieName.toList ++ ('=' :: [] ++ token.toList)) =
      some (sessionCookieName.toList, token.toList) := splitOnce_append (by decide)
  rw [cookieValue, List.splitOn_eq_singleton hmark, List.findSome?_cons, String.ofList_toList,
    htrim, hheader, hsplit]
  simp

theorem tokenOf_symbols (payload signature : Bytes) :
    ∀ c ∈ (tokenOf payload signature).toList, c = '.' ∨ Base64Url.IsSymbol c := by
  intro c hc
  simp only [tokenOf, String.toList_append, String.toList_ofList, List.mem_append] at hc
  rcases hc with (hc | hc) | hc
  · exact .inr (Base64Url.isSymbol_of_mem_encode hc)
  · exact .inl (by simpa using hc)
  · exact .inr (Base64Url.isSymbol_of_mem_encode hc)

section Sessions
variable {hmac : Bytes → Bytes → Bytes} {store : DashboardAuthStore} {now later : UInt64}
  {identity read : DashboardAuthIdentity}

/-- A token is signed with the store's secret over the payload of its identity. -/
theorem createSessionToken_eq_ok
    (h : createSessionToken hmac store now random identity = .ok token) :
    ∃ nonce secret, '|' ∉ nonce.toList ∧
      Base64Url.decode store.sessionSecret.toList = some secret ∧
      let payload := bytesOf (sessionPayload identity (now + sessionTtlSeconds) nonce)
      token = tokenOf payload (hmac secret payload) := by
  obtain ⟨nonce, hnonce, h⟩ := Except.bind_eq_ok.mp h
  obtain ⟨signature, hsignature, h⟩ := Except.bind_eq_ok.mp h
  obtain ⟨secret, hsecret, hsigned⟩ := Except.bind_eq_ok.mp hsignature
  obtain rfl := Except.ok.inj hsigned
  obtain rfl := Except.ok.inj h
  refine ⟨nonce, secret, ?_, orRefuse_eq_ok.mp hsecret, rfl⟩
  cases random with
  | error error => cases hnonce
  | ok bytes =>
    obtain rfl := Except.ok.inj hnonce
    rw [String.toList_ofList]
    exact Base64Url.not_mem_encode (by decide)

/-- Name and role of the identity are those of a user of the store and have no mark in them. -/
def Carried (store : DashboardAuthStore) (identity : DashboardAuthIdentity) : Prop :=
  ('|' ∉ identity.username.toList ∧ '|' ∉ identity.role.toList) ∧ Known store identity

instance (store : DashboardAuthStore) (identity : DashboardAuthIdentity) :
    Decidable (Carried store identity) :=
  inferInstanceAs (Decidable ((_ ∧ _) ∧ ∃ _ ∈ _, _))

/-- What a token says is what it was made for. -/
theorem read_of_created (hcreated : createSessionToken hmac store now random identity = .ok token)
    (hread : verifySessionToken hmac other later token = .ok (some read)) :
    Carried other identity ∧ read.username = identity.username ∧ read.role = identity.role := by
  obtain ⟨nonce, secret, hnonce, _, rfl⟩ := createSessionToken_eq_ok hcreated
  obtain ⟨payload, key, _, hparts, hidentity⟩ := verifySessionToken_eq_some.mp hread
  rw [tokenParts_tokenOf] at hparts
  obtain ⟨rfl, _⟩ := Prod.mk.inj (Option.some.inj hparts)
  obtain ⟨text, expires, htext, hnames, _, user, huser, hname, hrole⟩ :=
    payloadIdentity_eq_some hidentity
  rw [fromUtf8_bytesOf] at htext
  obtain rfl := Option.some.inj htext
  obtain ⟨hplain, _, hsame⟩ := (names_sessionPayload hnonce).mp hnames
  exact ⟨⟨hplain, user, huser, hname.trans hsame.1, hrole.trans hsame.2⟩, hsame⟩

/-- Until it expires, a token is read as its identity if the store has that identity. -/
theorem created_read (hcreated : createSessionToken hmac store now random identity = .ok token)
    (hlater : later < now + sessionTtlSeconds) (hcarried : Carried store identity) :
    ∃ read, verifySessionToken hmac store later token = .ok (some read) ∧
      read.username = identity.username ∧ read.role = identity.role := by
  obtain ⟨nonce, secret, hnonce, hsecret, rfl⟩ := createSessionToken_eq_ok hcreated
  have hnames : Names (sessionPayload identity (now + sessionTtlSeconds) nonce) identity
      (now + sessionTtlSeconds) :=
    (names_sessionPayload hnonce).mpr ⟨hcarried.1, rfl, rfl, rfl⟩
  obtain ⟨read, hread, hsame⟩ :=
    payloadIdentity_of_names (fromUtf8_bytesOf _) hnames hlater hcarried.2
  exact ⟨read, verifySessionToken_eq_some.mpr ⟨_, secret, hsecret, tokenParts_tokenOf _ _, hread⟩,
    hsame⟩

/-- The backend reads the token as the identity. -/
def ReadAs (hmac : Bytes → Bytes → Bytes) (store : DashboardAuthStore) (now : UInt64)
    (token : String) (identity : DashboardAuthIdentity) : Prop :=
  ∃ read, verifySessionToken hmac store now token = .ok (some read) ∧
    read.username = identity.username ∧ read.role = identity.role

theorem readAs_iff (hcreated : createSessionToken hmac store now random identity = .ok token)
    (hlater : later < now + sessionTtlSeconds) :
    ReadAs hmac store later token identity ↔ Carried store identity := by
  constructor
  · rintro ⟨read, hread, _⟩
    exact (read_of_created hcreated hread).1
  · exact created_read hcreated hlater

/-- What stands behind an identity that is read of a token. -/
structure Vouched (hmac : Bytes → Bytes → Bytes) (store : DashboardAuthStore) (now : UInt64)
    (token : String) (identity : DashboardAuthIdentity) : Prop where
  signed : ∃ payload secret, Base64Url.decode store.sessionSecret.toList = some secret ∧
    tokenParts token = some (payload, hmac secret payload) ∧
      ∃ text expires, fromUtf8 payload = some text ∧ Names text identity expires ∧ now < expires
  known : Known store identity

theorem vouched_of_read (h : verifySessionToken hmac store now token = .ok (some identity)) :
    Vouched hmac store now token identity := by
  obtain ⟨payload, secret, hsecret, hparts, hidentity⟩ := verifySessionToken_eq_some.mp h
  obtain ⟨text, expires, htext, hnames, hnow, hknown⟩ := payloadIdentity_eq_some hidentity
  exact ⟨⟨payload, secret, hsecret, hparts, text, expires, htext, hnames, hnow⟩, hknown⟩

/-- An identity with a session is one that tokens carry. -/
theorem carried_of_read (h : verifySessionToken hmac store now token = .ok (some identity)) :
    Carried store identity := by
  obtain ⟨⟨_, _, _, _, text, expires, _, ⟨digits, nonce, _, hparts⟩, _⟩, hknown⟩ :=
    vouched_of_read h
  have hpart (part : List Char) (hpart : part ∈ text.toList.splitOn '|') : '|' ∉ part :=
    not_mem_of_mem_splitOn hpart
  rw [hparts] at hpart
  exact ⟨⟨hpart _ (by simp), hpart _ (by simp)⟩, hknown⟩

theorem internalProxyCookie_eq_ok
    (h : internalProxyCookie hmac (.ok store) now random identity = .ok cookie) :
    ∃ token, createSessionToken hmac store now random identity = .ok token ∧
      cookieValue cookie sessionCookieName = some token := by
  obtain ⟨_, hstore, h⟩ := Except.bind_eq_ok.mp h
  obtain rfl := Except.ok.inj hstore
  obtain ⟨token, htoken, h⟩ := Except.bind_eq_ok.mp h
  obtain rfl := Except.ok.inj h
  obtain ⟨nonce, secret, _, _, rfl⟩ := createSessionToken_eq_ok htoken
  exact ⟨_, htoken, cookieValue_of_symbols (tokenOf_symbols _ _)⟩

/-- What is admitted without a session is an allowed login over the tailnet, as a superuser. -/
theorem authenticateHeaders_eq_some
    (h : authenticateHeaders hmac (.ok store) env now headers = .ok (some identity)) :
    Carried store identity ∨
      tailscaleIdentityFromConfig headers (env.auth.any envValueIsTrue)
        (env.allowedLogins.getD "") = some identity := by
  obtain ⟨session, hsession, h⟩ := Except.bind_eq_ok.mp h
  rcases Option.or_eq_some_iff.mp (Except.ok.inj h) with rfl | ⟨_, htailscale⟩
  · left
    unfold cookieIdentity at hsession
    split at hsession
    · cases hsession
    · obtain ⟨_, hstore, hread⟩ := Except.bind_eq_ok.mp hsession
      obtain rfl := Except.ok.inj hstore
      exact carried_of_read hread
  · exact .inr htailscale

/-- After the roles are migrated, no token says that the generated observer is a superuser. -/
theorem migrated_observer
    (h : verifySessionToken hmac (normalizeBootstrapRoles store).1 now token = .ok (some identity))
    (hname : identity.username = "codex") (hrole : identity.role = dashboardRoleSuperuser) :
    ∃ user ∈ store.users, user.username = "codex" ∧
      (user.bootstrap = false ∨ user.displayName ≠ "Codex observer") := by
  obtain ⟨user, huser, huserName, huserRole⟩ := (vouched_of_read h).known
  obtain ⟨old, hold, rfl⟩ := List.mem_map.mp huser
  refine ⟨old, hold, ?_⟩
  have hcodex : old.username = "codex" :=
    (DashboardAuthUser.normalized_username old).symm.trans (huserName.trans hname)
  refine ⟨hcodex, ?_⟩
  by_contra hgenerated
  obtain ⟨hbootstrap, hdisplay⟩ : old.bootstrap = true ∧ old.displayName = "Codex observer" := by
    simpa using hgenerated
  have hnot : "codex" ≠ "admin" := by decide
  have hrole' := huserRole.trans hrole
  simp only [DashboardAuthUser.normalized, hcodex, hnot, hbootstrap, hdisplay, true_and, false_and,
    ↓reduceIte] at hrole'
  split at hrole'
  · have hroles : dashboardRoleObserver ≠ dashboardRoleSuperuser := by decide
    exact hroles hrole'
  · rename_i hother
    exact hother hrole'

end Sessions

/-- Tokens carry the identities of the store whose names have no mark in them, and these alone;
every identity with a session is such a one. What is read of any token is vouched for, and never
another identity than the one that the token was made for. -/
theorem session_tokens_carry_identity (hmac : Bytes → Bytes → Bytes) :
    (∀ store env seen headers identity, authenticateHeaders hmac (.ok store) env seen headers =
        .ok (some identity) →
      (Carried store identity ∨ tailscaleIdentityFromConfig headers (env.auth.any envValueIsTrue)
        (env.allowedLogins.getD "") = some identity) ∧
      ∀ now random cookie, internalProxyCookie hmac (.ok store) now random identity = .ok cookie →
        ∃ token, createSessionToken hmac store now random identity = .ok token ∧
          cookieValue cookie sessionCookieName = some token ∧
          ∀ later < now + sessionTtlSeconds,
            (ReadAs hmac store later token identity ↔ Carried store identity)) ∧
    (∀ store now token identity,
      verifySessionToken hmac store now token = .ok (some identity) →
        Vouched hmac store now token identity) ∧
    ∀ store other now later random identity token read,
      createSessionToken hmac store now random identity = .ok token →
      verifySessionToken hmac other later token = .ok (some read) →
        read.username = identity.username ∧ read.role = identity.role := by
  refine ⟨?_, fun _ _ _ _ => vouched_of_read, fun _ _ _ _ _ _ _ _ hcreated hread =>
    (read_of_created hcreated hread).2⟩
  intro store env seen headers identity hadmitted
  refine ⟨authenticateHeaders_eq_some hadmitted, fun now random cookie hcookie => ?_⟩
  obtain ⟨token, hcreated, hvalue⟩ := internalProxyCookie_eq_ok hcookie
  exact ⟨token, hcreated, hvalue, fun later hlater => readAs_iff hcreated hlater⟩


def adminStore : DashboardAuthStore where
  sessionSecret := "BwcHBwcHBwcHBwcHBwcHBwcHBwcHBwcHBwcHBwcHBwc"
  users := [⟨"admin", "Default superuser", dashboardRoleSuperuser, "", true⟩]

def tailnetEnv (login : String) : TailscaleEnv := ⟨some "1", some login⟩

def tailnetHeaders (login : String) : Headers :=
  [("x-forwarded-proto", "https"), ("x-forwarded-host", "desktop.example.ts.net"),
    ("tailscale-user-login", login)]

def tailnetIdentity (login : String) : DashboardAuthIdentity where
  username := login
  displayName := login
  role := dashboardRoleSuperuser

def sampleNonce : Bytes := (List.range 16).map UInt8.ofNat

/-- The call of HMAC-SHA-256 that signs the token of a superuser with the name of the stored one. -/
def adminHmac (key message : Bytes) : Bytes :=
  if key = List.replicate 32 7 ∧
      message = bytesOf "v1|admin|superuser|1700604800|AAECAwQFBgcICQoLDA0ODw" then
    [0xbc, 0x4e, 0x54, 0xa7, 0x47, 0xf1, 0xaf, 0xb6, 0x77, 0x8c, 0x87, 0xd6, 0xad, 0x01, 0xa3,
      0xbb, 0xde, 0xff, 0x84, 0xfb, 0x4c, 0x9b, 0x55, 0xbd, 0x8c, 0x80, 0xc8, 0x76, 0xa1, 0xea,
      0xed, 0x34]
  else []

theorem session_tokens_carry_identity_admin : ∃ token,
    createSessionToken adminHmac adminStore 1700000000 (.ok sampleNonce)
      (tailnetIdentity "admin") = .ok token ∧
    ReadAs adminHmac adminStore 1700604799 token (tailnetIdentity "admin") := by
  obtain ⟨hadmitted, _⟩ := session_tokens_carry_identity adminHmac
  obtain ⟨_, hproxied⟩ := hadmitted adminStore (tailnetEnv "admin") 1700000000
    (tailnetHeaders "admin") (tailnetIdentity "admin") (by decide +kernel)
  obtain ⟨token, hcreated, _, hread⟩ := hproxied 1700000000 (.ok sampleNonce) _ rfl
  exact ⟨token, hcreated, (hread 1700604799 (by decide)).mpr (by decide)⟩

def codexStore : DashboardAuthStore where
  sessionSecret := adminStore.sessionSecret
  users := [⟨"codex", "Operator", dashboardRoleSuperuser, "", false⟩]

theorem migrated_observer_operator : ∃ user ∈ codexStore.users, user.username = "codex" ∧
    (user.bootstrap = false ∨ user.displayName ≠ "Codex observer") := by
  have hcreated : ∃ token, createSessionToken adminHmac (normalizeBootstrapRoles codexStore).1 0
      (.ok sampleNonce) (tailnetIdentity "codex") = .ok token := ⟨_, rfl⟩
  obtain ⟨token, hcreated⟩ := hcreated
  have hread := readAs_iff hcreated (show (0 : UInt64) < 0 + sessionTtlSeconds by decide)
  obtain ⟨read, hread, hname, hrole⟩ := hread.mpr (by decide)
  exact migrated_observer hread hname hrole

/-- An allowed login that is not in the store is admitted, but its token is refused. -/
theorem tailnet_token_refused :
    ¬∃ hmac : Bytes → Bytes → Bytes, ∀ store env seen headers identity now random token later,
      authenticateHeaders hmac (.ok store) env seen headers = .ok (some identity) →
      createSessionToken hmac store now random identity = .ok token →
      later < now + sessionTtlSeconds → ReadAs hmac store later token identity := by
  rintro ⟨hmac, h⟩
  have hadmitted : authenticateHeaders hmac (.ok adminStore) (tailnetEnv "operator@example.com")
      1700000000 (tailnetHeaders "operator@example.com") =
        .ok (some (tailnetIdentity "operator@example.com")) := by
    have hcookie : headerValue (tailnetHeaders "operator@example.com") "cookie" = none := by
      decide
    have htailscale : tailscaleIdentityFromConfig (tailnetHeaders "operator@example.com")
        ((tailnetEnv "operator@example.com").auth.any envValueIsTrue)
        ((tailnetEnv "operator@example.com").allowedLogins.getD "") =
          some (tailnetIdentity "operator@example.com") := by
      decide +kernel
    rw [authenticateHeaders, cookieIdentity, hcookie, htailscale]
    rfl
  have hcreated : ∃ token, createSessionToken hmac adminStore 1700000000 (.ok sampleNonce)
      (tailnetIdentity "operator@example.com") = .ok token := ⟨_, rfl⟩
  obtain ⟨token, hcreated⟩ := hcreated
  have hread := h adminStore _ _ _ _ 1700000000 _ token 1700000000 hadmitted hcreated (by decide)
  have hcarried := (readAs_iff hcreated (by decide)).mp hread
  revert hcarried
  decide

end AgentBrowser
