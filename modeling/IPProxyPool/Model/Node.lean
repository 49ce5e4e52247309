import IPProxyPool.Lib.Text

/-!
# Nodes and routing specs

The data model of `model.rs`. Ports are 16-bit as in the source; a weight is a `u32` that the
router only compares, sums and rescales, and is a natural number here with the saturation
written out where it can bite.
-/

namespace IPProxyPool
open RustText

inductive EgressProto where
  | http
  | socks5
  | socks4
  deriving DecidableEq, Repr

/-- `EgressProto::from_token`: the `X-Proxy-Proto` header or a `proto-` token. -/
def EgressProto.fromToken (tok : String) : Option EgressProto :=
  match toAsciiLowercase tok with
  | "http" => some .http
  | "https" => some .http
  | "socks5" => some .socks5
  | "socks5h" => some .socks5
  | "socks4" => some .socks4
  | "socks4a" => some .socks4
  | _ => none

/-- Lower case, with the short names expanded; any other tier passes through. -/
def canonicalTier (s : String) : String :=
  match toAsciiLowercase s with
  | "res" => "residential"
  | "dc" => "datacenter"
  | other => other

/-- Upstream egress proxy node. `addr` is the stored `ip:port`. -/
structure ProxyNode where
  ip : String
  port : UInt16
  addr : String
  username : Option String
  password : Option String
  country : String
  tier : String
  provider : String
  weight : Nat
  proto : EgressProto
  exitIp : Option String
  deriving DecidableEq, Repr

def addrOf (ip : String) (port : UInt16) : String := ip ++ ":" ++ toString port.toNat

def ProxyNode.new (ip : String) (port : UInt16) (username password : Option String)
    (country tier provider : String) (weight : Nat) : ProxyNode where
  ip := ip
  port := port
  addr := addrOf ip port
  username := username
  password := password
  country := country
  tier := canonicalTier tier
  provider := provider
  weight := weight
  proto := .http
  exitIp := none

def ProxyNode.withProto (n : ProxyNode) (proto : EgressProto) : ProxyNode :=
  { n with proto := proto }

def ProxyNode.withExitIp (n : ProxyNode) (exitIp : Option String) : ProxyNode :=
  { n with exitIp := exitIp }

/-- Routing policy parsed from a client request. A missing `proto` means plain HTTP. -/
structure RoutingSpec where
  country : Option String := none
  sessionId : Option String := none
  tier : Option String := none
  targetDomain : String := ""
  proto : Option EgressProto := none
  deriving DecidableEq, Repr

lemma canonicalTier_idem (s : String) : canonicalTier (canonicalTier s) = canonicalTier s := by
  have hlow : toAsciiLowercase (toAsciiLowercase s) = toAsciiLowercase s := toAsciiLowercase_idem s
  have hs : canonicalTier s = match toAsciiLowercase s with
      | "res" => "residential"
      | "dc" => "datacenter"
      | other => other := rfl
  rw [hs]
  generalize toAsciiLowercase s = low at hlow
  split
  · decide
  · decide
  · rename_i hres hdc
    unfold canonicalTier
    rw [hlow]
    split
    · exact absurd rfl hres
    · exact absurd rfl hdc
    · rfl

/-- Every constructed node carries a canonical tier. -/
lemma canonicalTier_new (ip : String) (port : UInt16) (username password : Option String)
    (country tier provider : String) (weight : Nat) :
    canonicalTier (ProxyNode.new ip port username password country tier provider weight).tier =
      (ProxyNode.new ip port username password country tier provider weight).tier :=
  canonicalTier_idem tier

example : canonicalTier "RES" = "residential" := by decide

end IPProxyPool
