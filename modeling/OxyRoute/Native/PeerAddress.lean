import OxyRoute.Native.Dispatch
import OxyRoute.Native.Isolation

/-!
# Hosts of peer addresses

Under the strategy `ip` a request is counted under the host of its peer address. The address is
a host and a port with a colon between them, and a host with colons may stand in brackets.

## Main definitions

- `IsHost` — a host as it is written before a port
- `peerAddress` — a host with a port
- `bucketKey` — the key under which a limiter keeps the bucket of a request

## Main results

- `hostOf_peerAddress` — the host of an address
- `ip_buckets` — the buckets of connections
- `long_hosts_share` — two long host names share a bucket
-/

namespace OxyRoute

variable {Ref : Type}

/-- A host as it is written before a port: as it is, or in brackets. -/
inductive IsHost : String → Prop
  | plain {host : String} : host.toList.head? ≠ some '[' → IsHost host
  | bracketed {host : String} : ']' ∉ host.toList → IsHost ("[" ++ host ++ "]")

/-- A port. -/
def IsPort (port : String) : Prop := port.toList.all Char.isDigit = true

instance (port : String) : Decidable (IsPort port) := inferInstanceAs (Decidable (_ = true))

/-- A host with a port. -/
def peerAddress (host port : String) : String := host ++ ":" ++ port

theorem toList_peerAddress (host port : String) :
    (peerAddress host port).toList = host.toList ++ ':' :: port.toList := by
  rw [peerAddress, String.toList_append, String.toList_append, List.append_assoc]
  rfl

theorem peerAddress_ne_empty (host port : String) : peerAddress host port ≠ "" := by
  intro h
  have hlist := toList_peerAddress host port
  rw [h] at hlist
  exact absurd hlist.symm (List.append_ne_nil_of_right_ne_nil _ (List.cons_ne_nil _ _))

theorem IsPort.no_colon {port : String} (h : IsPort port) :
    ∀ c ∈ port.toList, (c == ':') = false := by
  intro c hc
  have hdigit := List.all_eq_true.mp h c hc
  apply beq_eq_false_iff_ne.mpr
  rintro rfl
  exact absurd hdigit (by decide)

theorem hostOf_plain {host port : String} (hhost : host.toList.head? ≠ some '[')
    (hport : IsPort port) : hostOf (peerAddress host port) = host := by
  have hsplit : Text.rsplitOnce (· == ':') (host.toList ++ ':' :: port.toList) =
      some (host.toList, port.toList) := Text.rsplitOnce_append _ rfl hport.no_colon
  unfold hostOf
  rw [toList_peerAddress]
  split
  · next rest hlist =>
    exfalso
    cases hchars : host.toList with
    | nil =>
      rw [hchars] at hlist
      cases hlist
    | cons c cs =>
      rw [hchars] at hlist hhost
      obtain ⟨rfl, -⟩ := List.cons.inj hlist
      exact hhost rfl
  · rw [hsplit]
    have hdigits : port.toList.all Char.isDigit = true := hport
    simp only [hdigits, if_true]
    exact String.ofList_toList

theorem hostOf_bracketed {host : String} (hhost : ']' ∉ host.toList) (port : String) :
    hostOf (peerAddress ("[" ++ host ++ "]") port) = "[" ++ host ++ "]" := by
  have hlist : (peerAddress ("[" ++ host ++ "]") port).toList =
      '[' :: (host.toList ++ ']' :: ':' :: port.toList) := by
    rw [toList_peerAddress, String.toList_append, String.toList_append, List.append_assoc,
      List.append_assoc]
    rfl
  have hsplit : Text.splitOnce (· == ']') (host.toList ++ ']' :: ':' :: port.toList) =
      some (host.toList, ':' :: port.toList) :=
    Text.splitOnce_append (fun c hc => beq_eq_false_iff_ne.mpr (ne_of_mem_of_not_mem hc hhost))
      rfl _
  have hbrackets : "[" ++ host ++ "]" = String.ofList (['['] ++ host.toList ++ [']']) := by
    apply String.toList_injective
    rw [String.toList_ofList, String.toList_append, String.toList_append]
    rfl
  unfold hostOf
  simp only [hlist, hsplit, Option.map_some]
  exact hbrackets.symm

/-- The host of an address. -/
theorem hostOf_peerAddress {host port : String} (hhost : IsHost host) (hport : IsPort port) :
    hostOf (peerAddress host port) = host := by
  cases hhost with
  | plain h => exact hostOf_plain h hport
  | bracketed h => exact hostOf_bracketed h port

/-- The key under which a limiter keeps the bucket of a request. -/
def bucketKey (py : Inspection Ref) (req : HttpRequest Ref) : String :=
  truncateKey (extractRateLimitKey py req .ip)

theorem truncateKey_of_le {key : String} (h : key.utf8ByteSize ≤ maxKeyLen) :
    truncateKey key = key :=
  if_pos h

theorem key_of_client {py : Inspection Ref} {req req' : HttpRequest Ref}
    (h : req.client = req'.client) :
    extractRateLimitKey py req .ip = extractRateLimitKey py req' .ip := by
  simp only [extractRateLimitKey, scopeClientHost, h]

theorem key_of_peerAddress {py : Inspection Ref} {req : HttpRequest Ref} {host port : String}
    (hhost : IsHost host) (hport : IsPort port)
    (hclient : req.client = some (.text (peerAddress host port))) :
    extractRateLimitKey py req .ip = host := by
  have hkey : scopeClientHost py req = some (hostOf (peerAddress host port)) := by
    rw [scopeClientHost, hclient]
    exact if_neg (peerAddress_ne_empty host port)
  rw [extractRateLimitKey, hkey, hostOf_peerAddress hhost hport]
  rfl

/-- The key is that of the peer address, and its host where it has a port: connections from one
host are counted in one bucket, those from two hosts in two, unless the limiter keeps the same
beginning of both. -/
theorem ip_buckets (py : Inspection Ref) :
    (∀ req req' : HttpRequest Ref, req.client = req'.client →
      extractRateLimitKey py req .ip = extractRateLimitKey py req' .ip) ∧
    ∀ (req req' : HttpRequest Ref) (host port host' port' : String), IsHost host → IsPort port →
      IsHost host' → IsPort port' → req.client = some (.text (peerAddress host port)) →
      req'.client = some (.text (peerAddress host' port')) →
      extractRateLimitKey py req .ip = host ∧
      (host = host' → bucketKey py req = bucketKey py req') ∧
      (bucketKey py req = bucketKey py req' ↔ truncateKey host = truncateKey host') ∧
      (host.utf8ByteSize ≤ maxKeyLen → host'.utf8ByteSize ≤ maxKeyLen → host ≠ host' →
        bucketKey py req ≠ bucketKey py req') := by
  refine ⟨fun req req' h => key_of_client h, ?_⟩
  intro req req' host port host' port' hhost hport hhost' hport' hclient hclient'
  have hkey : extractRateLimitKey py req .ip = host := key_of_peerAddress hhost hport hclient
  have hkey' : extractRateLimitKey py req' .ip = host' := key_of_peerAddress hhost' hport' hclient'
  rw [bucketKey, bucketKey, hkey, hkey']
  refine ⟨rfl, fun h => by rw [h], Iff.rfl, fun hshort hshort' hne => ?_⟩
  rw [truncateKey_of_le hshort, truncateKey_of_le hshort']
  exact hne

/-- A request of a peer. -/
def requestFrom (client : String) : HttpRequest String :=
  { plainRequest "GET" "/" with client := some (.text client) }

theorem peer_addresses_counted :
    extractRateLimitKey (plainRuntime segmentMatcher).toInspection
      (requestFrom "203.0.113.9:4711") .ip = "203.0.113.9" ∧
    bucketKey (plainRuntime segmentMatcher).toInspection (requestFrom "203.0.113.9:4711") ≠
      bucketKey (plainRuntime segmentMatcher).toInspection (requestFrom "[::1]:4711") := by
  have hbuckets := (ip_buckets (plainRuntime segmentMatcher).toInspection).2
    (requestFrom "203.0.113.9:4711") (requestFrom "[::1]:4711") "203.0.113.9" "4711" "[::1]" "4711"
    (.plain (by decide)) rfl (IsHost.bracketed (by decide : ']' ∉ "::1".toList)) rfl rfl rfl
  exact ⟨hbuckets.1, hbuckets.2.2.2 (by decide) (by decide) (by decide)⟩

theorem isHost_longKey (c : Char) : IsHost (longKey c) := by
  apply IsHost.plain
  rw [longKey, String.toList_ofList]
  have hhead : (List.replicate maxKeyLen 'x' ++ [c]).head? = some 'x' := rfl
  rw [hhead]
  decide

/-- Two host names that differ in their last character: a request of the one makes a request of the
other be denied. -/
theorem long_hosts_share :
    IsHost (longKey 'a') ∧ IsHost (longKey 'b') ∧ longKey 'a' ≠ longKey 'b' ∧
    bucketKey (plainRuntime segmentMatcher).toInspection
        (requestFrom (peerAddress (longKey 'a') "80")) =
      bucketKey (plainRuntime segmentMatcher).toInspection
        (requestFrom (peerAddress (longKey 'b') "80")) ∧
    TableLayout.only (longKey 'b') ((perSecond 1).decisions plainKeyHashing (fun _ => .empty)
      [(longKey 'a', 0), (longKey 'b', 0)]) = [.denied 1 1] := by
  have hne : longKey 'a' ≠ longKey 'b' := by
    intro h
    exact absurd (longKey_injective h) (by decide)
  have hkept : truncateKey (longKey 'a') = truncateKey (longKey 'b') := by
    rw [truncateKey_longKey, truncateKey_longKey]
  have hkey (c : Char) : extractRateLimitKey (plainRuntime segmentMatcher).toInspection
      (requestFrom (peerAddress (longKey c) "80")) .ip = longKey c :=
    key_of_peerAddress (isHost_longKey c) (by decide : IsPort "80") rfl
  refine ⟨isHost_longKey 'a', isHost_longKey 'b', hne, ?_, (first_key_takes_token hne hkept).2.1⟩
  rw [bucketKey, bucketKey, hkey, hkey, hkept]

end OxyRoute
