import PipeBolt.Core.Error
import PipeBolt.Rust.IpAddr

/-!
# The egress policy

The part of `pipe_bolt_core::forwarder` that decides which webhook URLs may be called: the policy,
`parse_url` and the checks on the host.

The `url` crate is a parameter.  What is fixed of a parsed URL is its scheme and its host; the host
text of an IPv4 host is the dotted form, that of an IPv6 host stands in brackets.

* `validateEgressHost_eq_ok_iff`, `parseUrl_eq_ok_iff`: what the checks accept.
* `parseUrl_blocks_iff`: an accepted URL has no blocked IP literal for its host, unless the host is
  a blocked IPv6 literal, whose bracketed text no reader of addresses takes.
-/

namespace PipeBolt
namespace Core

open Rust Fallible

/-- `EgressPolicy`. -/
structure EgressPolicy where
  requireHttps : Bool
  allowPrivateNetworks : Bool
  allowedHosts : List String
  deriving DecidableEq, Repr

/-- `EgressPolicy::default`. -/
def EgressPolicy.default : EgressPolicy where
  requireHttps := true
  allowPrivateNetworks := false
  allowedHosts := []

/-! ## URLs -/

/-- `url::Host`. -/
inductive Host where
  | domain (name : String)
  | ipv4 (addr : Ipv4Addr)
  | ipv6 (addr : Ipv6Addr)
  deriving DecidableEq

/-- The address of a host that is an IP literal. -/
def Host.ip : Host → Option IpAddr
  | .domain _ => none
  | .ipv4 addr => some (.v4 addr)
  | .ipv6 addr => some (.v6 addr)

/-- What the forwarder reads of a parsed `Url`. -/
structure Url where
  scheme : String
  host : Option Host
  deriving DecidableEq

/-- The `url` crate: its parser, and the text it gives an IPv6 address. -/
structure UrlCrate where
  parse : String → Option Url
  ipv6Text : Ipv6Addr → String

/-- `Url::host_str`. -/
def UrlCrate.hostStr (urls : UrlCrate) (url : Url) : Option String :=
  url.host.map fun
    | .domain name => name
    | .ipv4 addr => addr.display
    | .ipv6 addr => "[" ++ urls.ipv6Text addr ++ "]"

/-- `is_blocked_ip`. -/
def isBlockedIp : IpAddr → Bool
  | .v4 ip =>
    ip.isPrivate || ip.isLoopback || ip.isLinkLocal || ip.isMulticast || ip.isBroadcast ||
      ip.isDocumentation || ip.isUnspecified
  | .v6 ip =>
    ip.isLoopback || ip.isMulticast || ip.isUnspecified || ip.segment0 &&& 0xfe00 == 0xfc00 ||
      ip.segment0 &&& 0xffc0 == 0xfe80

/-- The host text as `validate_egress_host` compares it. -/
def normalizeHost (host : String) : String := toAsciiLowercase (trimEndMatches host '.')

/-- `validate_egress_host`. -/
def validateEgressHost (host : String) (policy : EgressPolicy) : Except DispatchError Unit :=
  let normalized := normalizeHost host
  if !policy.allowedHosts.isEmpty &&
      !policy.allowedHosts.any fun allowed => eqIgnoreAsciiCase allowed normalized then
    .error (.invalidConfig "sink webhook host is not allowed by egress policy")
  else if normalized = "localhost" ∨ normalized = "localhost.localdomain" then
    .error (.invalidConfig "sink webhook host must not target localhost")
  -- The text of an IPv6 host still has its brackets here.
  else if (parseIpAddr normalized).any fun ip => !policy.allowPrivateNetworks && isBlockedIp ip then
    .error (.invalidConfig "sink webhook host targets a private or reserved network")
  else .ok ()

/-- `parse_url`. -/
def parseUrl (urls : UrlCrate) (value : String) (policy : EgressPolicy) :
    Except DispatchError Url :=
  match urls.parse value with
  | none => .error (.invalidConfig "sink webhook URL is invalid")
  | some url =>
    if url.scheme = "http" ∧ policy.requireHttps = true then
      .error (.invalidConfig "sink webhook URL must use HTTPS")
    else if url.scheme ≠ "https" ∧ url.scheme ≠ "http" then
      .error (.invalidConfig "sink webhook URL must use HTTP or HTTPS")
    else
      match urls.hostStr url with
      | none => .error (.invalidConfig "sink webhook URL must include a host")
      | some host => do
        validateEgressHost host policy
        return url

/-! ### What the URL check accepts -/

/-- The allow list of a policy admits a host. -/
def EgressPolicy.Lists (policy : EgressPolicy) (host : String) : Prop :=
  policy.allowedHosts = [] ∨
    ∃ allowed ∈ policy.allowedHosts, eqIgnoreAsciiCase allowed (normalizeHost host) = true

/-- A policy admits a URL scheme. -/
def EgressPolicy.AdmitsScheme (policy : EgressPolicy) (scheme : String) : Prop :=
  scheme = "https" ∨ scheme = "http" ∧ policy.requireHttps = false

/-- What `validate_egress_host` accepts. -/
structure EgressHost (policy : EgressPolicy) (host : String) : Prop where
  listed : policy.Lists host
  not_localhost : normalizeHost host ≠ "localhost" ∧ normalizeHost host ≠ "localhost.localdomain"
  not_blocked : policy.allowPrivateNetworks = false →
    ∀ ip, parseIpAddr (normalizeHost host) = some ip → isBlockedIp ip = false

theorem validateEgressHost_eq_ok_iff {host : String} {policy : EgressPolicy} :
    validateEgressHost host policy = .ok () ↔ EgressHost policy host := by
  rw [validateEgressHost, guard_eq_ok_iff, guard_eq_ok_iff, guard_eq_ok_iff]
  have hlisted : ¬ (!policy.allowedHosts.isEmpty && !policy.allowedHosts.any fun allowed =>
      eqIgnoreAsciiCase allowed (normalizeHost host)) = true ↔ policy.Lists host := by
    rw [EgressPolicy.Lists, Bool.and_eq_true, not_and_or, Bool.not_eq_true', Bool.not_eq_false,
      List.isEmpty_iff, Bool.not_eq_true', Bool.not_eq_false, List.any_eq_true]
  have hblocked : ¬ ((parseIpAddr (normalizeHost host)).any fun ip =>
      !policy.allowPrivateNetworks && isBlockedIp ip) = true ↔
        (policy.allowPrivateNetworks = false →
          ∀ ip, parseIpAddr (normalizeHost host) = some ip → isBlockedIp ip = false) := by
    cases parseIpAddr (normalizeHost host) with
    | none => simp
    | some ip => cases policy.allowPrivateNetworks <;> simp
  rw [hlisted, hblocked, not_or]
  exact ⟨fun ⟨hl, hn, hb, _⟩ => ⟨hl, hn, hb⟩, fun ⟨hl, hn, hb⟩ => ⟨hl, hn, hb, rfl⟩⟩

theorem parseUrl_eq_ok_iff {urls : UrlCrate} {value : String} {policy : EgressPolicy} {url : Url} :
    parseUrl urls value policy = .ok url ↔
      urls.parse value = some url ∧ policy.AdmitsScheme url.scheme ∧
        ∃ host, urls.hostStr url = some host ∧ EgressHost policy host := by
  cases hparse : urls.parse value with
  | none => simp [parseUrl, hparse]
  | some parsed =>
    have hscheme : (¬ (parsed.scheme = "http" ∧ policy.requireHttps = true)) ∧
        ¬ (parsed.scheme ≠ "https" ∧ parsed.scheme ≠ "http") ↔
          policy.AdmitsScheme parsed.scheme := by
      rw [EgressPolicy.AdmitsScheme]
      by_cases hhttps : parsed.scheme = "https"
      · simp [hhttps]
      · by_cases hhttp : parsed.scheme = "http" <;> simp [hhttps, hhttp]
    rw [parseUrl, hparse]
    simp only [guard_eq_ok_iff, ← and_assoc, hscheme]
    cases hhost : urls.hostStr parsed with
    | none =>
      constructor
      · rintro ⟨-, h⟩
        exact nomatch h
      · rintro ⟨⟨hurl, -⟩, host, h, -⟩
        rw [← Option.some_inj.mp hurl, hhost] at h
        exact nomatch h
    | some host =>
      simp only [check_eq_ok_iff, validateEgressHost_eq_ok_iff]
      constructor
      · rintro ⟨hadmits, hegress, h⟩
        obtain rfl : parsed = url := Except.ok.inj h
        exact ⟨⟨rfl, hadmits⟩, host, hhost, hegress⟩
      · rintro ⟨⟨hurl, hadmits⟩, host', h, hegress⟩
        obtain rfl : parsed = url := Option.some_inj.mp hurl
        obtain rfl : host = host' := Option.some_inj.mp (hhost.symm.trans h)
        exact ⟨hadmits, hegress, rfl⟩

/-! ### IP literals -/

/-- For an IPv4 literal the check looks at the address itself. -/
theorem egressHost_ipv4_blocks {policy : EgressPolicy} {addr : Ipv4Addr}
    (hprivate : policy.allowPrivateNetworks = false) (h : EgressHost policy addr.display) :
    isBlockedIp (.v4 addr) = false := by
  have hparse : parseIpAddr (normalizeHost addr.display) = some (.v4 addr) := by
    rw [normalizeHost, addr.display_normal, parseIpAddr_display]
  exact h.not_blocked hprivate _ hparse

/-- A text in brackets keeps its first bracket when it is normalised. -/
theorem normalizeHost_bracket (text : String) :
    (normalizeHost ("[" ++ text ++ "]")).toList.head? = some '[' := by
  have hlast : ("[" ++ text ++ "]").toList.getLast? ≠ some '.' := by
    rw [String.toList_append, List.getLast?_append_of_ne_nil _ (by decide)]
    decide
  rw [normalizeHost, trimEndMatches_eq_self hlast, toAsciiLowercase, String.toList_ofList,
    String.toList_append, String.toList_append]
  rfl

/-- For an IPv6 literal only the allow list is asked: the bracketed text is no address to
`IpAddr::from_str`. -/
theorem egressHost_bracket_iff {policy : EgressPolicy} {text : String} :
    EgressHost policy ("[" ++ text ++ "]") ↔ policy.Lists ("[" ++ text ++ "]") := by
  have hhead := normalizeHost_bracket text
  constructor
  · exact fun h => h.listed
  · intro hlisted
    refine ⟨hlisted, ⟨fun h => ?_, fun h => ?_⟩, fun _ ip hip => ?_⟩
    · rw [h] at hhead
      exact absurd hhead (by decide)
    · rw [h] at hhead
      exact absurd hhead (by decide)
    · rw [parseIpAddr_bracket hhead] at hip
      exact nomatch hip

/-- No URL that `parse_url` accepts for `value` has a blocked address for its host. -/
def BlocksLiterals (urls : UrlCrate) (value : String) (policy : EgressPolicy) : Prop :=
  ∀ url host ip, parseUrl urls value policy = .ok url → url.host = some host →
    host.ip = some ip → isBlockedIp ip = false

/-- Without private networks, an accepted URL has no blocked IP literal for its host exactly when
it is not a URL with a blocked IPv6 literal that the scheme and the allow list admit. -/
theorem parseUrl_blocks_iff (urls : UrlCrate) (value : String) (policy : EgressPolicy)
    (hprivate : policy.allowPrivateNetworks = false) :
    BlocksLiterals urls value policy ↔
      ¬ ∃ url addr, urls.parse value = some url ∧ policy.AdmitsScheme url.scheme ∧
        url.host = some (.ipv6 addr) ∧ isBlockedIp (.v6 addr) = true ∧
        policy.Lists ("[" ++ urls.ipv6Text addr ++ "]") := by
  have haccept : ∀ url addr, url.host = some (.ipv6 addr) →
      (parseUrl urls value policy = .ok url ↔ urls.parse value = some url ∧
        policy.AdmitsScheme url.scheme ∧ policy.Lists ("[" ++ urls.ipv6Text addr ++ "]")) := by
    intro url addr hhost
    have hstr : urls.hostStr url = some ("[" ++ urls.ipv6Text addr ++ "]") := by
      rw [UrlCrate.hostStr, hhost]
      rfl
    rw [parseUrl_eq_ok_iff, hstr]
    simp only [Option.some.injEq, exists_eq_left', egressHost_bracket_iff]
  constructor
  · rintro h ⟨url, addr, hparse, hscheme, hhost, hblocked, hlisted⟩
    have hok := (haccept url addr hhost).mpr ⟨hparse, hscheme, hlisted⟩
    have hfree := h url (.ipv6 addr) (.v6 addr) hok hhost rfl
    rw [hblocked] at hfree
    exact nomatch hfree
  · intro h url host ip hok hhost hip
    cases host with
    | domain name => exact nomatch hip
    | ipv4 addr =>
      -- The host was checked in its dotted form, which reads back as the address.
      obtain rfl : IpAddr.v4 addr = ip := Option.some_inj.mp hip
      obtain ⟨-, -, host, hstr, hegress⟩ := parseUrl_eq_ok_iff.mp hok
      rw [UrlCrate.hostStr, hhost] at hstr
      obtain rfl : addr.display = host := Option.some_inj.mp hstr
      exact egressHost_ipv4_blocks hprivate hegress
    | ipv6 addr =>
      obtain rfl : IpAddr.v6 addr = ip := Option.some_inj.mp hip
      obtain ⟨hparse, hscheme, hlisted⟩ := (haccept url addr hhost).mp hok
      by_cases hblocked : isBlockedIp (.v6 addr) = true
      · exact absurd ⟨url, addr, hparse, hscheme, hhost, hblocked, hlisted⟩ h
      · exact Bool.eq_false_iff.mpr hblocked

/-- A `url` crate asked about one text only, with the text of its one IPv6 address. -/
def UrlCrate.single (value : String) (url : Url) (ipv6Text : String) : UrlCrate where
  parse text := if text = value then some url else none
  ipv6Text _ := ipv6Text

/-- The parse of `https://[::1]/`. -/
def loopbackUrls : UrlCrate :=
  .single "https://[::1]/" { scheme := "https", host := some (.ipv6 (.ofGroups [] [1])) } "::1"

theorem parseUrl_blocks_iff_loopback :
    BlocksLiterals loopbackUrls "https://[::1]/" .default ↔
      ¬ ∃ url addr, loopbackUrls.parse "https://[::1]/" = some url ∧
        EgressPolicy.default.AdmitsScheme url.scheme ∧ url.host = some (.ipv6 addr) ∧
        isBlockedIp (.v6 addr) = true ∧ EgressPolicy.default.Lists ("[" ++ "::1" ++ "]") :=
  parseUrl_blocks_iff loopbackUrls "https://[::1]/" .default rfl

/-- The loopback address is accepted as the target of a webhook. -/
theorem parseUrl_accepts_loopback :
    EgressPolicy.default.allowPrivateNetworks = false ∧
      parseUrl loopbackUrls "https://[::1]/" .default =
        .ok { scheme := "https", host := some (.ipv6 (.ofGroups [] [1])) } ∧
      ¬ BlocksLiterals loopbackUrls "https://[::1]/" .default := by
  have hok : parseUrl loopbackUrls "https://[::1]/" .default =
      .ok { scheme := "https", host := some (.ipv6 (.ofGroups [] [1])) } := by
    decide +kernel
  refine ⟨rfl, hok, fun h => ?_⟩
  have hfree := h _ _ _ hok rfl rfl
  exact absurd hfree (by decide +kernel)

end Core
end PipeBolt
