import AgentBrowser.CompactJson
import AgentBrowser.StandardText
import Mathlib.Algebra.Order.BigOperators.Group.List

namespace AgentBrowser
set_option autoImplicit true

/-- Lower-casing by the Unicode tables, which `to_lowercase` and the browser's `toLowerCase` share.
Small ASCII letters and dots stay as they are. -/
structure Lowercase where
  convert : String → String
  kept : ∀ text : String, (∀ c ∈ text.toList, c.isLower ∨ c = '.') → convert text = text

/-- A page of the browser. -/
structure PageInfo where
  sessionId : String
  url : String
  deriving DecidableEq, Repr

section Filter
variable (lower : Lowercase)

def parseDomainList (input : String) : List String :=
  ((input.toList.splitOn ',').map fun part =>
    lower.convert (trim (String.ofList part))).filter (· ≠ "")

/-- Whether one entry of the list lets a host name in lower case through. -/
def patternAllows (hostname pattern : String) : Bool :=
  match stripPrefix "*.".toList pattern.toList with
  | some suffix => hostname.toList = suffix || ('.' :: suffix).isSuffixOf hostname.toList
  | none => hostname = pattern

def isAllowed (allowedDomains : List String) (hostname : String) : Bool :=
  allowedDomains.isEmpty || allowedDomains.any (patternAllows (lower.convert hostname))

variable (parseUrl : String → Except String ParsedUrl)

def checkUrl (allowedDomains : List String) (url : String) : Except String Unit :=
  if allowedDomains.isEmpty then .ok ()
  else
    match parseUrl url with
    | .error _ => .error ("Invalid URL: " ++ url)
    | .ok parsed =>
      match parsed.host with
      | none => .error ("No hostname in URL: " ++ url)
      | some hostname =>
        if isAllowed lower allowedDomains hostname then .ok ()
        else .error ("Domain '" ++ hostname ++ "' is not in the allowed domains list")

/-- An empty address or the blank page. -/
def PageInfo.IsBlank (page : PageInfo) : Prop := page.url = "" ∨ page.url = "about:blank"

instance (page : PageInfo) : Decidable page.IsBlank :=
  inferInstanceAs (Decidable (page.url = "" ∨ page.url = "about:blank"))

/-- Whether the browser is told to leave a page. -/
def leavesPage (allowedDomains : List String) (page : PageInfo) : Bool :=
  if page.IsBlank then false
  else
    match parseUrl page.url with
    | .error _ => false
    | .ok parsed => parsed.host.any fun hostname => !isAllowed lower allowedDomains hostname

/-- The loop over the pages, with the pages as they are after it. `navigated` says for which pages
the command succeeds; its failure is ignored. -/
def sanitizeExistingPages (allowedDomains : List String) (navigated : PageInfo → Bool)
    (pages : List PageInfo) : List PageInfo :=
  pages.map fun page =>
    if leavesPage lower parseUrl allowedDomains page && navigated page then
      { page with url := "about:blank" }
    else page

/-- The script for new documents, by the text of its `_allowed`. None is installed for an empty
list. -/
def domainFilterScript (allowedDomains : List String) : Option (List Char) :=
  if allowedDomains.isEmpty then none
  else some (JsonText.compact (.array (allowedDomains.map .string)))

/-- The strings of an array literal. -/
def arrayOfStrings (source : List Char) : Option (List String) := do
  let value ← JsonText.parse (fun fields => fields) source
  let items ← value.asArray
  items.mapM JsonValue.asStr

/-- One turn of the script's loop: `startsWith`, `slice` and `endsWith`. -/
def scriptPatternAllows (hostname p : String) : Bool :=
  if "*.".toList.isPrefixOf p.toList then
    let suffix := p.toList.drop 2
    hostname.toList = suffix || ('.' :: suffix).isSuffixOf hostname.toList
  else hostname = p

/-- `_isDomainAllowed` of the script with this `_allowed`. -/
def scriptAllows (source : List Char) (hostname : String) : Option Bool :=
  (arrayOfStrings source).map fun allowed =>
    allowed.any (scriptPatternAllows (lower.convert hostname))

/-- The hosts that a list of entries is meant to let through: those it names, and for an entry
`*.` with a suffix that suffix and what ends with a dot and it. -/
def Permits (entries : List String) (hostname : String) : Prop :=
  ∃ entry ∈ entries, ¬ "*.".toList <+: entry.toList ∧ lower.convert hostname = entry ∨
    ∃ suffix, suffix ≠ [] ∧ entry.toList = "*.".toList ++ suffix ∧
      ((lower.convert hostname).toList = suffix ∨
        '.' :: suffix <:+ (lower.convert hostname).toList)

/-- No host passes that the text does not permit. -/
def FailsClosed (text : String) : Prop :=
  ∀ hostname, isAllowed lower (parseDomainList lower text) hostname = true →
    Permits lower (parseDomainList lower text) hostname

/-- Where the script is installed it answers as the filter does, and where it is not every host is
allowed. -/
def LayersAgree (text : String) : Prop :=
  ∀ hostname,
    match domainFilterScript (parseDomainList lower text) with
    | some source =>
      scriptAllows lower source hostname =
        some (isAllowed lower (parseDomainList lower text) hostname)
    | none => isAllowed lower (parseDomainList lower text) hostname = true

/-- Every page that is left is blank or has a URL that is accepted. -/
def LeavesAccepted (text : String) (navigated : PageInfo → Bool) (pages : List PageInfo) : Prop :=
  ∀ page ∈ sanitizeExistingPages lower parseUrl (parseDomainList lower text) navigated pages,
    page.IsBlank ∨ checkUrl lower parseUrl (parseDomainList lower text) page.url = .ok ()

end Filter

section Patterns
variable {lower : Lowercase}

theorem patternAllows_iff : patternAllows hostname pattern = true ↔
    ¬ "*.".toList <+: pattern.toList ∧ hostname = pattern ∨
      ∃ suffix, pattern.toList = "*.".toList ++ suffix ∧
        (hostname.toList = suffix ∨ '.' :: suffix <:+ hostname.toList) := by
  unfold patternAllows stripPrefix
  by_cases hwild : "*.".toList <+: pattern.toList
  · obtain ⟨suffix, hsuffix⟩ := hwild
    rw [if_pos (List.isPrefixOf_iff_prefix.mpr ⟨suffix, hsuffix⟩), ← hsuffix]
    simp only [List.drop_left, Bool.or_eq_true, decide_eq_true_eq, List.isSuffixOf_iff_suffix,
      List.prefix_append, not_true_eq_false, false_and, false_or, List.append_cancel_left_eq]
    exact ⟨fun h => ⟨suffix, rfl, h⟩, fun ⟨_, hsame, h⟩ => hsame ▸ h⟩
  · rw [if_neg (fun h => hwild (List.isPrefixOf_iff_prefix.mp h))]
    simp only [decide_eq_true_eq, hwild, not_false_eq_true, true_and]
    refine ⟨.inl, ?_⟩
    rintro (h | ⟨suffix, hsuffix, _⟩)
    · exact h
    · exact absurd ⟨suffix, hsuffix.symm⟩ hwild

theorem scriptPatternAllows_eq (hostname pattern : String) :
    scriptPatternAllows hostname pattern = patternAllows hostname pattern := by
  unfold scriptPatternAllows patternAllows stripPrefix
  split <;> rfl

theorem isAllowed_iff : isAllowed lower allowedDomains hostname = true ↔
    allowedDomains = [] ∨
      ∃ pattern ∈ allowedDomains, patternAllows (lower.convert hostname) pattern = true := by
  simp [isAllowed]

/-- A long host name that ends with a dot. -/
def dotted (n : Nat) : String := String.ofList (List.replicate n 'a' ++ ['.'])

theorem toList_dotted (n : Nat) : (dotted n).toList = List.replicate n 'a' ++ ['.'] :=
  String.toList_ofList

theorem convert_dotted (n : Nat) : lower.convert (dotted n) = dotted n := by
  refine lower.kept _ fun c hc => ?_
  rw [toList_dotted] at hc
  rcases List.mem_append.mp hc with hc | hc
  · rw [List.eq_of_mem_replicate hc]
    exact .inl (by decide)
  · exact .inr (List.mem_singleton.mp hc)

/-- An entry that is only `*.` lets every host pass that ends with a dot. -/
theorem dotted_allowed (h : "*." ∈ allowedDomains) (n : Nat) :
    isAllowed lower allowedDomains (dotted n) = true := by
  refine isAllowed_iff.mpr (.inr ⟨_, h, ?_⟩)
  rw [convert_dotted]
  refine patternAllows_iff.mpr (.inr ⟨[], rfl, .inr ?_⟩)
  exact ⟨List.replicate n 'a', (toList_dotted n).symm⟩

theorem dotted_not_permitted (h : ∀ entry ∈ entries, entry.toList.length < n) :
    ¬ Permits lower entries (dotted n) := by
  have hlength : (dotted n).toList.length = n + 1 := by simp [toList_dotted]
  rintro ⟨entry, hmem, hallowed⟩
  have hshort := h entry hmem
  rw [convert_dotted] at hallowed
  rcases hallowed with ⟨_, rfl⟩ | ⟨suffix, hsuffix, hentry, hsame | ⟨front, hfront⟩⟩
  · omega
  · rw [hentry, List.length_append, ← hsame] at hshort
    omega
  · obtain ⟨initial, last, rfl⟩ := (List.eq_nil_or_concat suffix).resolve_left hsuffix
    rw [toList_dotted, List.concat_eq_append, ← List.cons_append, ← List.append_assoc] at hfront
    obtain ⟨hfront, _⟩ := List.append_inj' hfront rfl
    have hdot : '.' ∈ List.replicate n 'a' := by
      rw [← hfront]
      simp
    exact absurd (List.eq_of_mem_replicate hdot) (by decide)

theorem failsClosed_iff (text : String) : FailsClosed lower text ↔
    parseDomainList lower text ≠ [] ∧ "*." ∉ parseDomainList lower text := by
  constructor
  · intro hcloses
    constructor
    · intro hempty
      obtain ⟨entry, hmem, _⟩ := hcloses "" (isAllowed_iff.mpr (.inl hempty))
      rw [hempty] at hmem
      cases hmem
    · intro hbare
      refine dotted_not_permitted (n := ((parseDomainList lower text).map
        (·.toList.length)).sum + 1) ?_ (hcloses _ (dotted_allowed hbare _))
      intro entry hmem
      exact Nat.lt_succ_of_le (List.le_sum_of_mem (List.mem_map_of_mem hmem))
  · rintro ⟨hsome, hbare⟩ hostname hallowed
    obtain ⟨entry, hmem, hmatch⟩ := (isAllowed_iff.mp hallowed).resolve_left hsome
    refine ⟨entry, hmem, ?_⟩
    rcases patternAllows_iff.mp hmatch with hnamed | ⟨suffix, hentry, hends⟩
    · exact .inl hnamed
    · refine .inr ⟨suffix, ?_, hentry, hends⟩
      rintro rfl
      rw [List.append_nil] at hentry
      exact hbare (String.toList_injective hentry ▸ hmem)

end Patterns

section Layers
variable {lower : Lowercase} {parseUrl : String → Except String ParsedUrl}

theorem arrayOfStrings_compact (texts : List String) :
    arrayOfStrings (JsonText.compact (.array (texts.map .string))) = some texts := by
  have hitems : (texts.map JsonValue.string).mapM JsonValue.asStr = some texts := by
    induction texts with
    | nil => rfl
    | cons text texts ih => simp [ih, JsonValue.asStr]
  rw [arrayOfStrings, JsonText.parse_compact (JsonText.Kept.plain _)]
  exact hitems

theorem layersAgree (text : String) : LayersAgree lower text := by
  intro hostname
  unfold domainFilterScript
  cases hempty : (parseDomainList lower text).isEmpty with
  | true =>
    rw [if_pos rfl]
    dsimp only
    rw [isAllowed, hempty, Bool.true_or]
  | false =>
    rw [if_neg Bool.false_ne_true]
    dsimp only
    rw [scriptAllows, arrayOfStrings_compact, Option.map_some, isAllowed, hempty, Bool.false_or]
    have hturns : scriptPatternAllows (lower.convert hostname) =
        patternAllows (lower.convert hostname) := funext (scriptPatternAllows_eq _)
    rw [hturns]

theorem checkUrl_eq_ok : checkUrl lower parseUrl allowedDomains url = .ok () ↔
    allowedDomains = [] ∨ ∃ parsed hostname, parseUrl url = .ok parsed ∧
      parsed.host = some hostname ∧ isAllowed lower allowedDomains hostname = true := by
  unfold checkUrl
  cases allowedDomains with
  | nil => simp
  | cons pattern patterns =>
    rw [List.isEmpty_cons, if_neg Bool.false_ne_true]
    cases parseUrl url with
    | error e => simp
    | ok parsed => cases hhost : parsed.host <;> simp [hhost]

theorem leavesPage_iff : leavesPage lower parseUrl allowedDomains page = true ↔
    ¬ page.IsBlank ∧ ∃ parsed hostname, parseUrl page.url = .ok parsed ∧
      parsed.host = some hostname ∧ ¬ isAllowed lower allowedDomains hostname = true := by
  unfold leavesPage
  by_cases hblank : page.IsBlank
  · simp [hblank]
  · rw [if_neg hblank]
    cases parseUrl page.url with
    | error e => simp
    | ok parsed => cases hhost : parsed.host <;> simp [hhost, hblank]

/-- One page: it is blank, it has a host, and this is allowed or the page is left. -/
theorem page_accepted_iff (hsome : allowedDomains ≠ []) (navigated : PageInfo → Bool)
    (page : PageInfo) {left : PageInfo}
    (hleft : left = if leavesPage lower parseUrl allowedDomains page && navigated page then
      { page with url := "about:blank" } else page) :
    (left.IsBlank ∨ checkUrl lower parseUrl allowedDomains left.url = .ok ()) ↔
      page.IsBlank ∨ ∃ parsed hostname, parseUrl page.url = .ok parsed ∧
        parsed.host = some hostname ∧
        (isAllowed lower allowedDomains hostname = true ∨ navigated page = true) := by
  cases hleaves : leavesPage lower parseUrl allowedDomains page && navigated page with
  | true =>
    obtain ⟨hleaves, hnavigated⟩ := Bool.and_eq_true_iff.mp hleaves
    obtain ⟨_, parsed, hostname, hparsed, hhost, _⟩ := leavesPage_iff.mp hleaves
    have hblank : left.IsBlank := by
      rw [hleft, hleaves, hnavigated]
      exact .inr rfl
    exact ⟨fun _ => .inr ⟨parsed, hostname, hparsed, hhost, .inr hnavigated⟩,
      fun _ => .inl hblank⟩
  | false =>
    rw [hleaves, if_neg Bool.false_ne_true] at hleft
    rw [hleft, checkUrl_eq_ok, or_iff_right hsome]
    constructor
    · rintro (hblank | ⟨parsed, hostname, hparsed, hhost, hallowed⟩)
      · exact .inl hblank
      · exact .inr ⟨parsed, hostname, hparsed, hhost, .inl hallowed⟩
    · rintro (hblank | ⟨parsed, hostname, hparsed, hhost, hallowed | hnavigated⟩)
      · exact .inl hblank
      · exact .inr ⟨parsed, hostname, hparsed, hhost, hallowed⟩
      · rw [hnavigated, Bool.and_true] at hleaves
        by_contra hrefused
        rw [not_or] at hrefused
        refine Bool.false_ne_true (hleaves.symm.trans (leavesPage_iff.mpr ⟨hrefused.1, ?_⟩))
        exact ⟨parsed, hostname, hparsed, hhost,
          fun hallowed => hrefused.2 ⟨parsed, hostname, hparsed, hhost, hallowed⟩⟩

theorem leavesAccepted_iff : LeavesAccepted lower parseUrl text navigated pages ↔
    parseDomainList lower text = [] ∨ ∀ page ∈ pages, page.IsBlank ∨
      ∃ parsed hostname, parseUrl page.url = .ok parsed ∧ parsed.host = some hostname ∧
        (isAllowed lower (parseDomainList lower text) hostname = true ∨ navigated page = true) := by
  unfold LeavesAccepted sanitizeExistingPages
  by_cases hempty : parseDomainList lower text = []
  · exact ⟨fun _ => .inl hempty, fun _ page _ => .inr (checkUrl_eq_ok.mpr (.inl hempty))⟩
  · rw [or_iff_right hempty, List.forall_mem_map]
    exact forall₂_congr fun page _ => page_accepted_iff hempty navigated page rfl

end Layers

/-- The filter fails closed exactly when the text has a usable name and no entry is only `*.`, its
two layers always agree, and a page is accepted or left exactly when it has a host and the command
to leave a refused one succeeds. -/
theorem domain_filter_layers (lower : Lowercase) (parseUrl : String → Except String ParsedUrl)
    (text : String) :
    (FailsClosed lower text ↔
      parseDomainList lower text ≠ [] ∧ "*." ∉ parseDomainList lower text) ∧
    LayersAgree lower text ∧
    ∀ navigated pages, LeavesAccepted lower parseUrl text navigated pages ↔
      parseDomainList lower text = [] ∨ ∀ page ∈ pages, page.IsBlank ∨
        ∃ parsed hostname, parseUrl page.url = .ok parsed ∧ parsed.host = some hostname ∧
          (isAllowed lower (parseDomainList lower text) hostname = true ∨
            navigated page = true) :=
  ⟨failsClosed_iff text, layersAgree text, fun _ _ => leavesAccepted_iff⟩

section Sample

def asciiLower : Lowercase where
  convert text := String.ofList (text.toList.map Char.toLower)
  kept text h := by
    have hchars : text.toList.map Char.toLower = text.toList := by
      refine (List.map_congr_left fun c hc => ?_).trans (List.map_id _)
      rcases h c hc with hlower | rfl
      · have hsmall : ¬ (c.val ≥ 'A'.val ∧ c.val ≤ 'Z'.val) := by
          rintro ⟨_, hcapital⟩
          have hletter : 'a'.val ≤ c.val :=
            of_decide_eq_true (Bool.and_eq_true_iff.mp hlower).1
          exact absurd (UInt32.le_trans hletter hcapital) (by decide)
        exact dif_neg hsmall
      · rfl
    rw [hchars, String.ofList_toList]

/-- A file has no host. -/
def parseFileUrl (url : String) : Except String ParsedUrl :=
  if url = "file:///etc/passwd" then .ok ⟨"file", none, none, url⟩
  else .error "relative URL without a base"

def localPage : PageInfo := ⟨"page-1", "file:///etc/passwd"⟩

/-- A comma permits every host, `*.` every host with a dot at its end, and a local file stays
open although its URL is refused. -/
theorem domain_filter_opens :
    isAllowed asciiLower (parseDomainList asciiLower ",") "evil.example" = true ∧
      ¬ FailsClosed asciiLower "," ∧
    isAllowed asciiLower (parseDomainList asciiLower "example.com,*.") "evil.example." = true ∧
      ¬ FailsClosed asciiLower "example.com,*." ∧
    sanitizeExistingPages asciiLower parseFileUrl (parseDomainList asciiLower "example.com")
      (fun _ => true) [localPage] = [localPage] ∧
    checkUrl asciiLower parseFileUrl (parseDomainList asciiLower "example.com") localPage.url =
      .error "No hostname in URL: file:///etc/passwd" ∧
    ¬ LeavesAccepted asciiLower parseFileUrl "example.com" (fun _ => true) [localPage] := by
  have hcomma : parseDomainList asciiLower "," = [] := by decide
  have hbare : parseDomainList asciiLower "example.com,*." = ["example.com", "*."] := by decide
  have hlist : parseDomainList asciiLower "example.com" = ["example.com"] := by decide
  rw [failsClosed_iff, failsClosed_iff, leavesAccepted_iff, hcomma, hbare, hlist]
  refine ⟨by decide, by decide, by decide, by decide, by decide, by decide, ?_⟩
  rintro (hempty | haccepted)
  · cases hempty
  · rcases haccepted localPage List.mem_cons_self with
      hblank | ⟨parsed, hostname, hparsed, hhost, _⟩
    · exact absurd hblank (by decide)
    · cases hparsed
      cases hhost

end Sample

end AgentBrowser
