import LcpGateway.Base.Prefix
import LcpGateway.Base.Text

/-!
# The destination guard

Library `Server`. Source `src/server/endpoints.py:82–171`. A provider test may fetch a URL whose
host resolves to public addresses, or to private ones an allowlist covers. What the standard library
answers is a parameter: the parts of a URL, the addresses of a host, and the network a token names.
-/

namespace LcpGateway.Server
open LcpGateway.Base

/-! ## Addresses and networks -/

/-- An `ipaddress` address. -/
inductive Address where
  | v4 (n : Fin (2 ^ 32))
  | v6 (n : Fin (2 ^ 128))
  deriving DecidableEq

/-- An `ipaddress` network. -/
inductive Network where
  | v4 (p : Prefix 32)
  | v6 (p : Prefix 128)

/-- `ip in net`. -/
def Network.contains : Network → Address → Bool
  | .v4 p, .v4 n => p.contains n
  | .v6 p, .v6 n => p.contains n
  | _, _ => false

/-- `a.subnet_of(b)`; none for a `TypeError`. -/
def Network.subnetOf : Network → Network → Option Bool
  | .v4 p, .v4 q => some (p.subnetOf q)
  | .v6 p, .v6 q => some (p.subnetOf q)
  | _, _ => none

/-- The IPv4 network `a.b.0.0/length`. -/
def ipv4Network (a b length : Nat)
    (h : length ≤ 32 ∧ 2 ^ (32 - length) ∣ (a * 256 + b) * 65536 ∧ (a * 256 + b) * 65536 < 2 ^ 32) :
    Network :=
  .v4 ⟨(a * 256 + b) * 65536, length, h.1, h.2.1, h.2.2⟩

/-- An IPv6 network by its first address. -/
def ipv6Network (first length : Nat)
    (h : length ≤ 128 ∧ 2 ^ (128 - length) ∣ first ∧ first < 2 ^ 128) : Network :=
  .v6 ⟨first, length, h.1, h.2.1, h.2.2⟩

/-- `127.0.0.0/8`. -/
def loopback4 : Network := ipv4Network 127 0 8 (by decide)

/-- `::1/128`. -/
def loopback6 : Network := ipv6Network 1 128 (by decide)

/-- `_PRIVATE_NETWORKS`; `endpoints.py:85–103`. -/
def privateNetworks : List Network :=
  [ipv4Network 0 0 8 (by decide), ipv4Network 10 0 8 (by decide), ipv4Network 100 64 10 (by decide),
    loopback4, ipv4Network 169 254 16 (by decide), ipv4Network 172 16 12 (by decide),
    ipv4Network 192 0 24 (by decide), ipv4Network 192 168 16 (by decide),
    ipv4Network 198 18 15 (by decide), ipv4Network 224 0 4 (by decide),
    ipv4Network 240 0 4 (by decide), loopback6, ipv6Network 0 128 (by decide),
    ipv6Network (0xfc00 * 2 ^ 112) 7 (by decide), ipv6Network (0xfe80 * 2 ^ 112) 10 (by decide),
    ipv6Network (0xff00 * 2 ^ 112) 8 (by decide),
    ipv6Network (0x20010db8 * 2 ^ 96) 32 (by decide)]

/-- `any(ip in net for net in _PRIVATE_NETWORKS)`. -/
def Address.isPrivate (ip : Address) : Bool := privateNetworks.any (fun net ↦ net.contains ip)

/-! ## The guard -/

/-- The parts of a URL; `port` is none for the `ValueError` of an invalid one. -/
structure ParsedUrl where
  scheme : String
  hostname : Option String
  port : Option (Option Nat)

/-- What `getaddrinfo` does: it returns addresses, or raises a `gaierror`, or something else. -/
inductive Resolution where
  | addresses (ips : List Address)
  | gaierror
  | raised
  deriving DecidableEq

/-- What the guard asks the standard library: `urlparse` and `ip_network(token, strict=False)`, none
for a `ValueError`, `getaddrinfo`, and the text of an address. -/
structure NetLib where
  urlparse : String → Option ParsedUrl
  getaddrinfo : String → Nat → Resolution
  ipNetwork : String → Option Network
  text : Address → String

/-- What the guard returns, or that it raises. -/
inductive Verdict where
  | accepted
  | rejected (reason : String)
  | raised
  deriving DecidableEq

namespace NetLib

variable (lib : NetLib)

/-- The entries of an allowlist text; `endpoints.py:115–122`. -/
def entries (raw : String) : List Network :=
  (raw.toList.splitOn ',').filterMap (fun token ↦
    let token := strip (String.ofList token)
    if token = "" then none else lib.ipNetwork token)

/-- `any(net.subnet_of(other) for other in networks)`; none for a `TypeError`. -/
def anySubnetOf (net : Network) : List Network → Option Bool
  | [] => some false
  | other :: rest =>
    match net.subnetOf other with
    | some true => some true
    | some false => anySubnetOf net rest
    | none => none

/-- `_ssrf_allowlist`; none for a `TypeError`; `endpoints.py:106–128`. -/
def ssrfAllowlist (raw : String) : Option (List Network) :=
  (anySubnetOf loopback4 (lib.entries raw)).map (fun covered ↦
    if covered then lib.entries raw ++ [loopback6] else lib.entries raw)

/-- The URL in front of its resolution: the verdict, or the host and the port. -/
def checkUrl (apiBase : String) : Verdict ⊕ (String × Nat) :=
  match lib.urlparse apiBase with
  | none => .inl .raised
  | some parsed =>
    if parsed.scheme ∉ ["http", "https"] then
      .inl (.rejected ("unsupported scheme '" ++
        (if parsed.scheme = "" then "none" else parsed.scheme) ++
        "' — only http/https are allowed"))
    else
      match parsed.hostname.filter (· ≠ "") with
      | none => .inl (.rejected "missing host")
      | some host =>
        match parsed.port with
        | none => .inl (.rejected "invalid port")
        | some none => .inr (host, if parsed.scheme = "https" then 443 else 80)
        | some (some port) =>
          if 1 ≤ port ∧ port ≤ 65535 then .inr (host, port) else .inl (.rejected "invalid port")

/-- The verdict on a resolved host; `endpoints.py:159–171`. -/
def judge (raw host : String) : Resolution → Verdict
  | .gaierror => .accepted
  | .raised => .raised
  | .addresses ips =>
    match lib.ssrfAllowlist raw with
    | none => .raised
    | some allow =>
      match ips.find? (fun ip ↦ ip.isPrivate && !allow.any (fun net ↦ net.contains ip)) with
      | some ip =>
        .rejected ("destination '" ++ host ++ "' resolves to non-public address " ++ lib.text ip)
      | none => .accepted

/-- `_validate_api_base_destination`; `endpoints.py:131–171`. -/
def validateApiBaseDestination (raw apiBase : String) : Verdict :=
  match lib.checkUrl apiBase with
  | .inl verdict => verdict
  | .inr (host, port) => lib.judge raw host (lib.getaddrinfo host port)

end NetLib

/-! ## What it guards -/

/-- The IPv4 address an IPv6 address `::ffff:a.b.c.d` maps. -/
def Address.mapped : Address → Option Address
  | .v4 _ => none
  | .v6 n => if n.val / 2 ^ 32 = 0xffff then some (.v4 ⟨n.val % 2 ^ 32, Nat.mod_lt _ (by decide)⟩)
    else none

/-- The addresses an address denotes: itself, and the one it maps. -/
def Address.denoted (ip : Address) : List Address := ip :: ip.mapped.toList

/-- `::1`. -/
def localhost6 : Address := .v6 ⟨1, by decide⟩

/-- The address is `127.0.0.0/8` or `::1`. -/
def Address.isLoopback (ip : Address) : Bool := loopback4.contains ip || loopback6.contains ip

/-- The entry covers `127.0.0.0/8`. -/
def Network.coversLoopback4 (net : Network) : Bool := loopback4.subnetOf net = some true

/-- One of the two forms of loopback is allowlisted. -/
def loopbackListed (entries : List Network) : Bool :=
  entries.any (fun net ↦ net.coversLoopback4 || net.contains localhost6)

/-- The networks an allowlist permits: its entries, and both forms of loopback when one is listed.
-/
def listed (entries : List Network) : List Network :=
  if loopbackListed entries then entries ++ [loopback4, loopback6] else entries

/-- An allowlist covers an address that an address denotes. -/
def Covered (entries : List Network) (ip a : Address) : Prop :=
  ∃ net ∈ listed entries, net.contains a = true ∨ net.contains ip = true

namespace NetLib

variable (lib : NetLib) (raw apiBase : String)

/-- What the host of a URL resolves to, when the URL gets so far. -/
def resolution : Option Resolution :=
  (lib.checkUrl apiBase).getRight?.map (fun hostPort ↦ lib.getaddrinfo hostPort.1 hostPort.2)

/-- The guard returns; it accepts no URL whose host resolves to an address that denotes a private
one the allowlist does not cover; and where one form of loopback is allowlisted, it accepts both. -/
structure Guards : Prop where
  returns : lib.validateApiBaseDestination raw apiBase ≠ .raised
  shields : lib.validateApiBaseDestination raw apiBase = .accepted →
    ∀ ips, lib.resolution apiBase = some (.addresses ips) → ∀ ip ∈ ips, ∀ a ∈ ip.denoted,
      a.isPrivate = true → Covered (lib.entries raw) ip a
  loopback : loopbackListed (lib.entries raw) = true →
    ∀ ips, lib.resolution apiBase = some (.addresses ips) → (∀ ip ∈ ips, ip.isLoopback = true) →
      lib.validateApiBaseDestination raw apiBase = .accepted

/-- Every IPv6 entry comes behind an entry that covers `127.0.0.0/8`. -/
def Loopback4First (entries : List Network) : Prop :=
  ∀ before p after, entries = before ++ .v6 p :: after → ∃ net ∈ before, net.coversLoopback4 = true

/-- The URL parses, its host resolves or raises a `gaierror`, every IPv6 entry of the allowlist
comes behind one that covers `127.0.0.0/8`, and no mapped private address that is not covered is
among addresses that are all public or covered. -/
structure GuardCondition : Prop where
  parses : lib.urlparse apiBase ≠ none
  resolves : lib.resolution apiBase ≠ some .raised
  ordered : ∀ ips, lib.resolution apiBase = some (.addresses ips) → Loopback4First (lib.entries raw)
  mapped : ∀ ips, lib.resolution apiBase = some (.addresses ips) →
    (∃ ip ∈ ips, ip.isPrivate = true ∧ ¬ Covered (lib.entries raw) ip ip) ∨
      ∀ ip ∈ ips, ∀ a ∈ ip.mapped, a.isPrivate = true → Covered (lib.entries raw) ip a

variable {lib raw apiBase} {entries rest : List Network} {ip a : Address}

/-! ## The allowlist -/

/-- An IPv4 entry helps the rest exactly when it covers `127.0.0.0/8`. -/
theorem loopback4First_cons_v4 {p : Prefix 32} :
    Loopback4First (.v4 p :: rest) ↔
      (Network.v4 p).coversLoopback4 = true ∨ Loopback4First rest := by
  constructor
  · intro h
    by_cases hcovers : (Network.v4 p).coversLoopback4 = true
    · exact .inl hcovers
    · refine .inr fun before q after hsplit ↦ ?_
      obtain ⟨net, hnet, hcovers'⟩ := h (.v4 p :: before) q after (by rw [hsplit, List.cons_append])
      rcases List.mem_cons.mp hnet with rfl | hnet
      · exact absurd hcovers' hcovers
      · exact ⟨net, hnet, hcovers'⟩
  · intro h before q after hsplit
    cases before with
    | nil => simp at hsplit
    | cons first before =>
      rw [List.cons_append, List.cons.injEq] at hsplit
      obtain ⟨rfl, hsplit⟩ := hsplit
      rcases h with hcovers | hrest
      · exact ⟨_, List.mem_cons_self, hcovers⟩
      · obtain ⟨net, hnet, hcovers⟩ := hrest before q after hsplit
        exact ⟨net, List.mem_cons_of_mem _ hnet, hcovers⟩

/-- The subnet comparison gets through the entries exactly when no IPv6 entry comes too early. -/
theorem isSome_anySubnetOf_iff :
    (anySubnetOf loopback4 entries).isSome ↔ Loopback4First entries := by
  induction entries with
  | nil => exact iff_of_true rfl fun before p after hsplit ↦ by simp at hsplit
  | cons net rest ih =>
    cases net with
    | v6 p =>
      refine iff_of_false (by simp [anySubnetOf, loopback4, ipv4Network, Network.subnetOf])
        fun h ↦ ?_
      obtain ⟨net, hnet, -⟩ := h [] p rest rfl
      exact absurd hnet (List.not_mem_nil)
    | v4 p =>
      rw [loopback4First_cons_v4, anySubnetOf, Network.coversLoopback4]
      cases hsubnet : loopback4.subnetOf (.v4 p) with
      | none => simp [loopback4, ipv4Network, Network.subnetOf] at hsubnet
      | some covered => cases covered <;> simp [ih]

/-- What the comparison says when it gets through. -/
theorem anySubnetOf_eq {covered : Bool} (h : anySubnetOf loopback4 entries = some covered) :
    covered = entries.any Network.coversLoopback4 := by
  induction entries with
  | nil => exact (Option.some.inj h).symm
  | cons net rest ih =>
    rw [anySubnetOf] at h
    rw [List.any_cons, Network.coversLoopback4]
    cases hsubnet : loopback4.subnetOf net with
    | none => simp [hsubnet] at h
    | some covers =>
      cases covers with
      | true => simpa [hsubnet, eq_comm] using h
      | false =>
        rw [hsubnet] at h
        simpa using ih h

/-- An entry that covers `127.0.0.0/8` contains its addresses. -/
theorem contains_of_coversLoopback4 {net : Network} (h : net.coversLoopback4 = true)
    (ha : loopback4.contains a = true) : net.contains a = true := by
  rw [Network.coversLoopback4, decide_eq_true_eq] at h
  cases net with
  | v6 p => simp [loopback4, ipv4Network, Network.subnetOf] at h
  | v4 p =>
    cases a with
    | v6 n => simp [loopback4, ipv4Network, Network.contains] at ha
    | v4 n => exact Prefix.subnetOf_iff.mp (Option.some.inj h) _ ha

/-- Behind a covering entry, loopback is listed only through one. -/
theorem loopbackListed_eq (h : Loopback4First entries) :
    loopbackListed entries = entries.any Network.coversLoopback4 := by
  rw [Bool.eq_iff_iff, loopbackListed, List.any_eq_true, List.any_eq_true]
  constructor
  · rintro ⟨net, hnet, hlisted⟩
    rcases Bool.or_eq_true_iff.mp hlisted with hcovers | hcontains
    · exact ⟨net, hnet, hcovers⟩
    · cases net with
      | v4 p => simp [localhost6, Network.contains] at hcontains
      | v6 p =>
        obtain ⟨before, after, hsplit⟩ := List.append_of_mem hnet
        obtain ⟨first, hfirst, hcovers⟩ := h before p after hsplit
        exact ⟨first, hsplit ▸ List.mem_append_left _ hfirst, hcovers⟩
  · rintro ⟨net, hnet, hcovers⟩
    exact ⟨net, hnet, Bool.or_eq_true_iff.mpr (.inl hcovers)⟩

/-- The allowlist is read exactly when no IPv6 entry comes too early. -/
theorem isSome_ssrfAllowlist_iff :
    (lib.ssrfAllowlist raw).isSome ↔ Loopback4First (lib.entries raw) := by
  rw [ssrfAllowlist, Option.isSome_map, isSome_anySubnetOf_iff]

/-- The allowlist of the code permits what the allowlist lists. -/
theorem any_ssrfAllowlist {allow : List Network} (h : lib.ssrfAllowlist raw = some allow) :
    allow.any (fun net ↦ net.contains a) = true ↔
      ∃ net ∈ listed (lib.entries raw), net.contains a = true := by
  have hfirst : Loopback4First (lib.entries raw) := isSome_ssrfAllowlist_iff.mp (by simp [h])
  rw [ssrfAllowlist, Option.map_eq_some_iff] at h
  obtain ⟨covered, hcovered, rfl⟩ := h
  obtain rfl := anySubnetOf_eq hcovered
  rw [listed, loopbackListed_eq hfirst, List.any_eq_true]
  cases hany : (lib.entries raw).any Network.coversLoopback4 with
  | false => rfl
  | true =>
    rw [if_pos rfl, if_pos rfl]
    obtain ⟨net, hnet, hcovers⟩ := List.any_eq_true.mp hany
    constructor
    · rintro ⟨found, hfound, hcontains⟩
      refine ⟨found, ?_, hcontains⟩
      rcases List.mem_append.mp hfound with hfound | hfound
      · exact List.mem_append_left _ hfound
      · exact List.mem_append_right _ (List.mem_cons_of_mem _ hfound)
    · rintro ⟨found, hfound, hcontains⟩
      rcases List.mem_append.mp hfound with hfound | hfound
      · exact ⟨found, List.mem_append_left _ hfound, hcontains⟩
      · rcases List.mem_cons.mp hfound with rfl | hfound
        · exact ⟨net, List.mem_append_left _ hnet, contains_of_coversLoopback4 hcovers hcontains⟩
        · exact ⟨found, List.mem_append_right _ hfound, hcontains⟩

/-- An address is covered by itself where a network of the allowlist contains it. -/
theorem covered_self_iff :
    Covered entries ip ip ↔ ∃ net ∈ listed entries, net.contains ip = true := by
  simp [Covered]

/-! ## The verdict -/

/-- The verdict on resolved addresses. -/
theorem judge_addresses {allow : List Network} (h : lib.ssrfAllowlist raw = some allow)
    (host : String) (ips : List Address) :
    (lib.judge raw host (.addresses ips) = .accepted ↔
        ∀ ip ∈ ips, ip.isPrivate = true → Covered (lib.entries raw) ip ip) ∧
      lib.judge raw host (.addresses ips) ≠ .raised := by
  have hrefused : ∀ ip : Address,
      (ip.isPrivate && !allow.any (fun net ↦ net.contains ip)) = false ↔
        (ip.isPrivate = true → Covered (lib.entries raw) ip ip) := by
    intro ip
    rw [covered_self_iff, ← any_ssrfAllowlist h]
    cases ip.isPrivate <;> simp
  rw [judge, h]
  dsimp only
  cases hfind : ips.find? (fun ip ↦ ip.isPrivate && !allow.any (fun net ↦ net.contains ip)) with
  | none =>
    rw [List.find?_eq_none] at hfind
    refine ⟨iff_of_true rfl fun ip hip ↦ (hrefused ip).mp ?_, by simp⟩
    simpa using hfind ip hip
  | some ip =>
    refine ⟨iff_of_false (by simp) fun hall ↦ ?_, by simp⟩
    have hip := (hrefused ip).mpr (hall ip (List.mem_of_find?_eq_some hfind))
    exact absurd (List.find?_some hfind) (by simp [hip])

/-- A URL that is settled before its host is resolved is not accepted, and the guard raises on it
exactly when it does not parse. -/
theorem checkUrl_inl {verdict : Verdict} (h : lib.checkUrl apiBase = .inl verdict) :
    verdict ≠ .accepted ∧ (verdict = .raised ↔ lib.urlparse apiBase = none) := by
  rw [checkUrl] at h
  cases hparsed : lib.urlparse apiBase with
  | none =>
    rw [hparsed] at h
    obtain rfl := Sum.inl.inj h
    simp
  | some parsed =>
    rw [hparsed] at h
    dsimp only at h
    split at h
    · obtain rfl := Sum.inl.inj h
      simp
    · cases hhost : parsed.hostname.filter (· ≠ "") with
      | none =>
        rw [hhost] at h
        obtain rfl := Sum.inl.inj h
        simp
      | some host =>
        rw [hhost] at h
        dsimp only at h
        split at h
        · obtain rfl := Sum.inl.inj h
          simp
        · simp at h
        · split at h
          · simp at h
          · obtain rfl := Sum.inl.inj h
            simp

/-- A URL whose host is resolved parses. -/
theorem urlparse_ne_none {hostPort : String × Nat} (h : lib.checkUrl apiBase = .inr hostPort) :
    lib.urlparse apiBase ≠ none := by
  intro hnone
  simp [checkUrl, hnone] at h

/-- Where the allowlist is read, the guard covers resolved addresses but for the mapped ones. -/
theorem shields_iff {allow : List Network} (h : lib.ssrfAllowlist raw = some allow) (host : String)
    (ips : List Address) :
    (lib.judge raw host (.addresses ips) = .accepted →
        ∀ ip ∈ ips, ∀ a ∈ ip.denoted, a.isPrivate = true → Covered (lib.entries raw) ip a) ↔
      (∃ ip ∈ ips, ip.isPrivate = true ∧ ¬ Covered (lib.entries raw) ip ip) ∨
        ∀ ip ∈ ips, ∀ a ∈ ip.mapped, a.isPrivate = true → Covered (lib.entries raw) ip a := by
  rw [(judge_addresses h host ips).1]
  constructor
  · intro hshields
    by_cases hall : ∀ ip ∈ ips, ip.isPrivate = true → Covered (lib.entries raw) ip ip
    · exact .inr fun ip hip a ha ↦ hshields hall ip hip a
        (List.mem_cons_of_mem _ (Option.mem_toList.mpr ha))
    · push Not at hall
      exact .inl hall
  · rintro (⟨ip, hip, hprivate, hnot⟩ | hmapped) hall ip' hip' a ha hprivate'
    · exact absurd (hall ip hip hprivate) hnot
    · rcases List.mem_cons.mp ha with rfl | ha
      · exact hall a hip' hprivate'
      · exact hmapped ip' hip' a (Option.mem_toList.mp ha) hprivate'

/-- Where the allowlist is read and lists one form of loopback, both are accepted. -/
theorem judge_loopback {allow : List Network} (h : lib.ssrfAllowlist raw = some allow)
    (hlisted : loopbackListed (lib.entries raw) = true) (host : String) {ips : List Address}
    (hips : ∀ ip ∈ ips, ip.isLoopback = true) :
    lib.judge raw host (.addresses ips) = .accepted := by
  refine (judge_addresses h host ips).1.mpr fun ip hip _ ↦ covered_self_iff.mpr ?_
  rw [listed, if_pos hlisted]
  rcases Bool.or_eq_true_iff.mp (hips ip hip) with hloop | hloop
  · exact ⟨loopback4, by simp, hloop⟩
  · exact ⟨loopback6, by simp, hloop⟩

/-- A URL that is settled before its host is resolved. -/
theorem guards_iff_of_verdict {verdict : Verdict} (hcheck : lib.checkUrl apiBase = .inl verdict) :
    lib.Guards raw apiBase ↔ lib.GuardCondition raw apiBase := by
  have hvalidate : lib.validateApiBaseDestination raw apiBase = verdict := by
    rw [validateApiBaseDestination, hcheck]
  have hresolution : lib.resolution apiBase = none := by rw [resolution, hcheck]; rfl
  obtain ⟨-, hraised⟩ := checkUrl_inl hcheck
  constructor
  · intro h
    have hreturns := h.returns
    rw [hvalidate, Ne, hraised] at hreturns
    exact ⟨hreturns, by simp [hresolution], by simp [hresolution], by simp [hresolution]⟩
  · intro h
    exact ⟨by rw [hvalidate, Ne, hraised]; exact h.parses, by simp [hresolution],
      by simp [hresolution]⟩

/-- A URL whose host resolves. -/
theorem guards_iff_of_addresses {host : String} {ips : List Address}
    (hparses : lib.urlparse apiBase ≠ none)
    (hvalidate : lib.validateApiBaseDestination raw apiBase = lib.judge raw host (.addresses ips))
    (hresolution : lib.resolution apiBase = some (.addresses ips)) :
    lib.Guards raw apiBase ↔ lib.GuardCondition raw apiBase := by
  have hread : (lib.ssrfAllowlist raw).isSome ↔ Loopback4First (lib.entries raw) :=
    isSome_ssrfAllowlist_iff
  cases hallow : lib.ssrfAllowlist raw with
  | none =>
    rw [hallow] at hread
    refine iff_of_false (fun h ↦ h.returns ?_) (fun h ↦ ?_)
    · rw [hvalidate, judge, hallow]
    · exact absurd (hread.mpr (h.ordered ips hresolution)) (by simp)
  | some allow =>
    rw [hallow] at hread
    have hfirst : Loopback4First (lib.entries raw) := hread.mp rfl
    have hsame : ∀ ips', lib.resolution apiBase = some (.addresses ips') ↔ ips' = ips := by
      intro ips'
      rw [hresolution, Option.some.injEq, Resolution.addresses.injEq, eq_comm]
    constructor
    · intro h
      have hshields := h.shields
      simp only [hsame, forall_eq, hvalidate] at hshields
      refine ⟨hparses, by simp [hresolution], fun _ _ ↦ hfirst, ?_⟩
      simp only [hsame, forall_eq]
      exact (shields_iff hallow host ips).mp hshields
    · intro h
      have hmapped := h.mapped
      simp only [hsame, forall_eq] at hmapped
      refine ⟨hvalidate ▸ (judge_addresses hallow host ips).2, ?_, ?_⟩
      · simp only [hsame, forall_eq, hvalidate]
        exact (shields_iff hallow host ips).mpr hmapped
      · simp only [hsame, forall_eq, hvalidate]
        exact fun hlisted hips ↦ judge_loopback hallow hlisted host hips

/-- The guard does what it is for exactly when nothing it calls raises, the IPv6 entries of the
allowlist come behind one that covers `127.0.0.0/8`, and no mapped private address slips through. -/
theorem guards_iff (lib : NetLib) (raw apiBase : String) :
    lib.Guards raw apiBase ↔ lib.GuardCondition raw apiBase := by
  cases hcheck : lib.checkUrl apiBase with
  | inl verdict => exact guards_iff_of_verdict hcheck
  | inr hostPort =>
    obtain ⟨host, port⟩ := hostPort
    have hvalidate : lib.validateApiBaseDestination raw apiBase =
        lib.judge raw host (lib.getaddrinfo host port) := by
      rw [validateApiBaseDestination, hcheck]
    have hresolution : lib.resolution apiBase = some (lib.getaddrinfo host port) := by
      rw [resolution, hcheck]
      rfl
    have hparses := urlparse_ne_none hcheck
    cases hinfos : lib.getaddrinfo host port with
    | gaierror =>
      rw [hinfos] at hvalidate hresolution
      refine iff_of_true ⟨?_, ?_, ?_⟩ ⟨hparses, ?_, ?_, ?_⟩ <;>
        simp [hvalidate, hresolution, judge]
    | raised =>
      rw [hinfos] at hvalidate hresolution
      exact iff_of_false (fun h ↦ h.returns hvalidate) (fun h ↦ h.resolves hresolution)
    | addresses ips =>
      rw [hinfos] at hvalidate hresolution
      exact guards_iff_of_addresses hparses hvalidate hresolution

end NetLib

/-- What the standard library answers on a mapped loopback address, on `localhost` and on an open
bracket. -/
def sampleLib : NetLib where
  urlparse url :=
    if url = "http://[::ffff:127.0.0.1]/" then some ⟨"http", some "::ffff:127.0.0.1", some none⟩
    else if url = "http://localhost" then some ⟨"http", some "localhost", some none⟩
    else none
  getaddrinfo host _ :=
    if host = "::ffff:127.0.0.1" then .addresses [.v6 ⟨0xffff7f000001, by decide⟩]
    else if host = "localhost" then .addresses [localhost6, .v4 ⟨0x7f000001, by decide⟩]
    else .gaierror
  ipNetwork token := if token = "::1/128" then some loopback6 else none
  text ip := if ip = localhost6 then "::1" else "127.0.0.1"

/-- A mapped loopback address is accepted without an allowlist; an allowlist of `::1` alone makes
the guard raise, and so does a URL that does not parse. -/
theorem guard_fails :
    sampleLib.validateApiBaseDestination "" "http://[::ffff:127.0.0.1]/" = .accepted ∧
      sampleLib.validateApiBaseDestination "::1/128" "http://localhost" = .raised ∧
      sampleLib.validateApiBaseDestination "" "http://[" = .raised ∧
      ¬ sampleLib.Guards "" "http://[::ffff:127.0.0.1]/" ∧
      ¬ sampleLib.Guards "::1/128" "http://localhost" ∧ ¬ sampleLib.Guards "" "http://[" := by
  have hmapped :
      sampleLib.validateApiBaseDestination "" "http://[::ffff:127.0.0.1]/" = .accepted := by
    decide +kernel
  have hlisted : sampleLib.validateApiBaseDestination "::1/128" "http://localhost" = .raised := by
    decide +kernel
  have hbracket : sampleLib.validateApiBaseDestination "" "http://[" = .raised := by decide +kernel
  refine ⟨hmapped, hlisted, hbracket, fun h ↦ ?_, fun h ↦ h.returns hlisted,
    fun h ↦ h.returns hbracket⟩
  obtain ⟨net, hnet, -⟩ := h.shields hmapped [.v6 ⟨0xffff7f000001, by decide⟩] (by decide +kernel)
    _ List.mem_cons_self (.v4 ⟨0x7f000001, by decide⟩) (by decide +kernel) (by decide +kernel)
  have hentries : listed (sampleLib.entries "") = [] := by decide +kernel
  rw [hentries] at hnet
  exact absurd hnet List.not_mem_nil

end LcpGateway.Server
