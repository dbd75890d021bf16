import GuardianStake.Sdk.ConfigValidation

/-!
# The private-host guard on names

`isPrivateOrLocalHost` and `validateRpcUrl` of `entity/config-validation.ts` where the host is a
domain, not an IP literal. Names are compared in lower case.

* `UrlDomain` — the domains the URL standard lets through, in lower case.
* `isPrivateOrLocalHost_domain` — which domains the guard rejects.
* `isPrivateOrLocalHost_rootDot_iff` — **when it sees through a root dot**: where the name is not
  local anyway.
* `validateRpcUrl_domain` — what `validateRpcUrl` makes of it.
-/

namespace GuardianStake.Sdk

/-! ## Domains -/

/-- The URL standard's forbidden domain code points. -/
def isForbiddenDomainCodePoint (c : Char) : Bool :=
  c.toNat ≤ 0x1f || c.toNat = 0x7f || c ∈ " #%/:<>?@[\\]^|".toList

/-- The last label of a name, a root dot aside. -/
def lastLabel (host : List Char) : List Char :=
  let parts := host.splitOn '.'
  let parts := if parts.getLast? = some [] then parts.dropLast else parts
  parts.getLast?.getD []

/-- Decimal digits, or an IPv4 number in hex, in lower case. -/
def isNumberLabel (label : List Char) : Bool :=
  (!label.isEmpty && label.all fun c => (digitValue 10 c).isSome) ||
    (['0', 'x'].isPrefixOf label && (label.drop 2).all fun c => (digitValue 16 c).isSome)

/-- The URL standard's ends-in-a-number checker. -/
def endsInNumber (host : List Char) : Bool := isNumberLabel (lastLabel host)

/-- The host of a URL with a domain, in lower case: ASCII without forbidden code points, and not
ending in a number, in which case the parser reads an IPv4 address or fails. -/
structure UrlDomain (host : List Char) : Prop where
  ne_nil : host ≠ []
  isAscii : ∀ c ∈ host, c.toNat < 0x80
  allowed : ∀ c ∈ host, isForbiddenDomainCodePoint c = false
  not_endsInNumber : endsInNumber host = false

instance (host : List Char) : Decidable (UrlDomain host) :=
  decidable_of_iff (host ≠ [] ∧ (host.all fun c => c.toNat < 0x80) = true ∧
      (host.all fun c => isForbiddenDomainCodePoint c = false) = true ∧ endsInNumber host = false)
    ⟨fun ⟨hne, hascii, hallowed, hends⟩ =>
        ⟨hne, by simpa using hascii, by simpa using hallowed, hends⟩,
      fun h => ⟨h.ne_nil, by simpa using h.isAscii, by simpa using h.allowed, h.not_endsInNumber⟩⟩

/-- A host name in lower case. -/
def lowerHost (hostname : String) : List Char := hostname.toList.map Char.toLower

/-- The root dot of a fully qualified name. -/
def HasRootDot (host : List Char) : Prop := host.getLast? = some '.'

instance (host : List Char) : Decidable (HasRootDot host) :=
  inferInstanceAs (Decidable (host.getLast? = some '.'))

/-- A name without its root dot. -/
def withoutRootDot (host : List Char) : List Char :=
  if HasRootDot host then host.dropLast else host

/-- The names of the local host and of local networks. -/
def IsLocalName (host : List Char) : Prop :=
  host = "localhost".toList ∨ ".localhost".toList <:+ host ∨ ".local".toList <:+ host

instance (host : List Char) : Decidable (IsLocalName host) :=
  inferInstanceAs (Decidable (_ ∨ _ ∨ _))

/-! ## The guard -/

section guard

variable {host : List Char} {hostname : String}

/-- There is a last part between dots. -/
theorem exists_splitOn_concat (host : List Char) :
    ∃ parts last, host.splitOn '.' = parts ++ [last] :=
  (List.eq_nil_or_concat' (host.splitOn '.')).resolve_left (List.splitOn_ne_nil _ _)

/-- The last label is that part, unless it is empty. -/
theorem lastLabel_of_splitOn {parts : List (List Char)} {last : List Char}
    (hsplit : host.splitOn '.' = parts ++ [last]) (hne : last ≠ []) : lastLabel host = last := by
  have hlast : ¬(parts ++ [last]).getLast? = some [] := by
    rw [List.getLast?_concat, Option.some.injEq]
    exact hne
  simp only [lastLabel, hsplit]
  rw [if_neg hlast, List.getLast?_concat, Option.getD_some]

/-- After a root dot. -/
theorem lastLabel_rootDot {parts : List (List Char)} {last : List Char}
    (hsplit : host.splitOn '.' = parts ++ [last]) : lastLabel (host ++ ['.']) = last := by
  have hdot : (host ++ ['.']).splitOn '.' = (parts ++ [last]) ++ [[]] := by
    rw [List.splitOn_append_cons_self, hsplit]
    rfl
  simp only [lastLabel, hdot]
  rw [if_pos List.getLast?_concat, List.dropLast_concat, List.getLast?_concat, Option.getD_some]

/-- A dotted IPv4 address ends in a number. -/
theorem endsInNumber_of_parseIpv4 {octets : List ℕ} (h : parseIpv4 host = some octets) :
    endsInNumber host = true := by
  obtain ⟨parts, last, hsplit⟩ := exists_splitOn_concat host
  have hparts : (host.splitOn '.').mapM parseOctet = some octets := by
    simp only [parseIpv4] at h
    split at h
    · cases h
    · exact h
  -- the last octet is a number
  rw [hsplit, List.mapM_append, Option.bind_eq_bind, Option.bind_eq_some_iff] at hparts
  obtain ⟨_, -, hlast⟩ := hparts
  have hoctet : last ≠ [] ∧ (last.all fun c => (digitValue 10 c).isSome) = true := by
    by_cases hpart : 1 ≤ last.length ∧ last.length ≤ 3 ∧
        last.all fun c => (digitValue 10 c).isSome
    · exact ⟨List.length_pos_iff.mp hpart.1, hpart.2.2⟩
    · have hnone : parseOctet last = none := if_neg hpart
      simp [hnone] at hlast
  rw [endsInNumber, lastLabel_of_splitOn hsplit hoctet.1, isNumberLabel, hoctet.2]
  simp [hoctet.1]

/-- A forbidden character is not in a domain. -/
theorem UrlDomain.notMem (h : UrlDomain host) {c : Char}
    (hforbidden : isForbiddenDomainCodePoint c = true) : c ∉ host := by
  intro hmem
  rw [h.allowed c hmem] at hforbidden
  cases hforbidden

/-- A domain is no IP literal. -/
theorem isPrivateLiteral_domain (h : UrlDomain host) (hlower : host.map Char.toLower = host) :
    isPrivateLiteral host = false := by
  have hcolon : ':' ∉ host := h.notMem (by decide)
  have hloopback : host ≠ "::1".toList := by
    rintro rfl
    exact hcolon (by decide)
  have hmapped : parseIpv4MappedIpv6 host = none :=
    parseIpv4MappedIpv6_of_notMem (by rwa [hlower])
  have hipv4 : parseIpv4 host = none := by
    cases hparse : parseIpv4 host with
    | none => rfl
    | some octets =>
        have hends := endsInNumber_of_parseIpv4 hparse
        rw [h.not_endsInNumber] at hends
        cases hends
  rw [isPrivateLiteral, if_neg hloopback, isIpv6UniqueLocalOrLinkLocal_of_notMem hcolon, hmapped,
    Option.getD_none, hipv4]
  rfl

/-- **Which domains the guard rejects.** -/
theorem isPrivateOrLocalHost_domain (h : UrlDomain (lowerHost hostname)) :
    isPrivateOrLocalHost hostname = true ↔ IsLocalName (lowerHost hostname) := by
  have hlower : (lowerHost hostname).map Char.toLower = lowerHost hostname := by
    rw [lowerHost, List.map_map]
    exact List.map_congr_left fun c _ => Char.toLower_toLower_eq_toLower c
  have hliteral : ¬(['['].isPrefixOf (lowerHost hostname) &&
      [']'].isSuffixOf (lowerHost hostname)) = true := by
    intro hbrackets
    have hstarts := List.isPrefixOf_iff_prefix.mp (Bool.and_eq_true_iff.mp hbrackets).1
    exact h.notMem (c := '[') (by decide) (hstarts.mem List.mem_cons_self)
  have hguard : isPrivateOrLocalHost hostname = (if lowerHost hostname = "localhost".toList ||
      ".localhost".toList.isSuffixOf (lowerHost hostname) ||
        ".local".toList.isSuffixOf (lowerHost hostname) then true
      else isPrivateLiteral (lowerHost hostname)) := by
    unfold isPrivateOrLocalHost
    exact if_congr Iff.rfl rfl (congrArg isPrivateLiteral (if_neg hliteral))
  rw [hguard, isPrivateLiteral_domain h hlower]
  simp only [Bool.if_true_left, Bool.or_false, Bool.or_eq_true, List.isSuffixOf_iff_suffix,
    decide_eq_true_eq, or_assoc]
  exact Iff.rfl

/-- A name with a root dot is not spelled as a local one. -/
theorem not_isLocalName_of_hasRootDot (h : HasRootDot host) : ¬IsLocalName host := by
  have hsuffix : ∀ {suffix : List Char} {c : Char}, suffix.getLast? = some c → c ≠ '.' →
      ¬suffix <:+ host := by
    rintro suffix c hlast hne ⟨init, rfl⟩
    rw [HasRootDot, List.getLast?_append, hlast] at h
    exact hne (Option.some.inj h)
  rintro (rfl | hlocal | hlocal)
  · exact absurd h (by decide)
  · exact hsuffix (c := 't') rfl (by decide) hlocal
  · exact hsuffix (c := 'l') rfl (by decide) hlocal

/-- A domain is one with a root dot too. -/
theorem UrlDomain.rootDot (h : UrlDomain host) :
    UrlDomain (host ++ ['.']) where
  ne_nil := by simp
  isAscii := List.forall_mem_append.mpr ⟨h.isAscii, List.forall_mem_singleton.mpr (by decide)⟩
  allowed := List.forall_mem_append.mpr ⟨h.allowed, List.forall_mem_singleton.mpr (by decide)⟩
  not_endsInNumber := by
    obtain ⟨parts, last, hsplit⟩ := exists_splitOn_concat host
    rw [endsInNumber, lastLabel_rootDot hsplit]
    by_cases hlast : last = []
    · rw [hlast]
      rfl
    · rw [← lastLabel_of_splitOn hsplit hlast]
      exact h.not_endsInNumber

/-- **When the guard sees through a root dot**: on a name it judges the name without the dot, and
alike with a dot added, iff there is no dot or the name is not local. -/
theorem isPrivateOrLocalHost_rootDot_iff (h : UrlDomain (lowerHost hostname)) :
    ((isPrivateOrLocalHost hostname = true ↔ IsLocalName (withoutRootDot (lowerHost hostname))) ↔
        ¬(HasRootDot (lowerHost hostname) ∧
          IsLocalName (withoutRootDot (lowerHost hostname)))) ∧
      (¬HasRootDot (lowerHost hostname) →
        (isPrivateOrLocalHost (hostname ++ ".") = isPrivateOrLocalHost hostname ↔
          ¬IsLocalName (lowerHost hostname))) := by
  constructor
  · rw [isPrivateOrLocalHost_domain h]
    by_cases hdot : HasRootDot (lowerHost hostname)
    · have hnot := not_isLocalName_of_hasRootDot hdot
      tauto
    · rw [withoutRootDot, if_neg hdot]
      exact iff_of_true Iff.rfl fun hboth => hdot hboth.1
  · intro hdot
    have hlower : lowerHost (hostname ++ ".") = lowerHost hostname ++ ['.'] := by
      simp [lowerHost]
    have hdomain : UrlDomain (lowerHost (hostname ++ ".")) := hlower ▸ h.rootDot
    have hnot : ¬IsLocalName (lowerHost (hostname ++ ".")) :=
      not_isLocalName_of_hasRootDot (by rw [hlower, HasRootDot, List.getLast?_concat])
    rw [Bool.eq_iff_iff, isPrivateOrLocalHost_domain h, isPrivateOrLocalHost_domain hdomain]
    tauto

end guard

/-- On a fully qualified public name the guard judges the name without its root dot. -/
theorem isPrivateOrLocalHost_rootDot_iff_publicName :
    isPrivateOrLocalHost "rpc.example.com." = true ↔
      IsLocalName (withoutRootDot (lowerHost "rpc.example.com.")) :=
  (@isPrivateOrLocalHost_rootDot_iff "rpc.example.com." (by decide)).1.mpr
    fun h => absurd h.2 (by decide)

/-- `localhost.` is `localhost`, and passes the guard. -/
theorem isPrivateOrLocalHost_localhostDot :
    UrlDomain (lowerHost "localhost.") ∧
      ¬(isPrivateOrLocalHost "localhost." = true ↔
        IsLocalName (withoutRootDot (lowerHost "localhost."))) ∧
      isPrivateOrLocalHost "localhost" = true ∧ isPrivateOrLocalHost "localhost." = false :=
  ⟨by decide, by decide, by decide, by decide⟩

/-! ## The URL -/

/-- Source: `entity/errors.ts`, `ConfigErrorCode`. -/
inductive ConfigErrorCode
  | unsupportedChain
  | invalidRpcUrl
  deriving DecidableEq, Repr

/-- Source: `entity/errors.ts`, `ConfigError`. -/
structure ConfigError where
  code : ConfigErrorCode
  message : String
  deriving DecidableEq, Repr

/-- What `validateRpcUrl` reads of a parsed `URL`. -/
structure ParsedUrl where
  protocol : String
  hostname : String
  deriving DecidableEq, Repr

/-- Source: `entity/config-validation.ts`, `ALLOWED_PROTOCOLS`. -/
def allowedProtocols : List String := ["http:", "https:", "ws:", "wss:"]

/-- Source: `entity/config-validation.ts`, `validateRpcUrl`, over the URL parser. -/
def validateRpcUrl (parseUrl : String → Option ParsedUrl) (rpcUrl : String)
    (rejectPrivateHosts : Bool) : Except ConfigError Unit :=
  match parseUrl rpcUrl with
  | none => .error ⟨.invalidRpcUrl, s!"Invalid rpcUrl: \"{rpcUrl}\" is not a valid URL"⟩
  | some parsed =>
      if parsed.protocol ∉ allowedProtocols then
        let protocol := String.ofList (parsed.protocol.toList.erase ':')
        .error ⟨.invalidRpcUrl, "Invalid rpcUrl: protocol must be http, https, ws, or wss — got " ++
          s!"\"{protocol}\""⟩
      else if rejectPrivateHosts && isPrivateOrLocalHost parsed.hostname then
        .error ⟨.invalidRpcUrl, s!"Invalid rpcUrl: \"{rpcUrl}\" resolves to a " ++
          "loopback/private/link-local host, which is rejected when rejectPrivateHosts is enabled"⟩
      else .ok ()

section validate

variable {parseUrl : String → Option ParsedUrl} {rpcUrl : String} {parsed : ParsedUrl}
  {rejectPrivateHosts : Bool}

/-- Every error is an invalid URL. -/
theorem validateRpcUrl_error {e : ConfigError}
    (h : validateRpcUrl parseUrl rpcUrl rejectPrivateHosts = .error e) :
    e.code = .invalidRpcUrl := by
  unfold validateRpcUrl at h
  split at h
  · exact Except.error.inj h ▸ rfl
  · split at h
    · exact Except.error.inj h ▸ rfl
    · split at h
      · exact Except.error.inj h ▸ rfl
      · cases h

/-- Which URLs with a domain are valid. -/
theorem validateRpcUrl_domain (hparse : parseUrl rpcUrl = some parsed)
    (h : UrlDomain (lowerHost parsed.hostname)) :
    validateRpcUrl parseUrl rpcUrl rejectPrivateHosts = .ok () ↔
      parsed.protocol ∈ allowedProtocols ∧
        (rejectPrivateHosts = true → ¬IsLocalName (lowerHost parsed.hostname)) := by
  rw [← isPrivateOrLocalHost_domain h]
  simp only [validateRpcUrl, hparse]
  by_cases hprotocol : parsed.protocol ∈ allowedProtocols
  · by_cases hguard : (rejectPrivateHosts && isPrivateOrLocalHost parsed.hostname) = true
    · simp_all
    · simp_all
  · simp [hprotocol]

/-- A root dot gets a URL of a local name through the guard. -/
theorem validateRpcUrl_rootDot (hparse : parseUrl rpcUrl = some parsed)
    (h : UrlDomain (lowerHost parsed.hostname)) (hdot : HasRootDot (lowerHost parsed.hostname))
    (hprotocol : parsed.protocol ∈ allowedProtocols) :
    validateRpcUrl parseUrl rpcUrl rejectPrivateHosts = .ok () :=
  (validateRpcUrl_domain hparse h).mpr ⟨hprotocol, fun _ => not_isLocalName_of_hasRootDot hdot⟩

end validate

end GuardianStake.Sdk
