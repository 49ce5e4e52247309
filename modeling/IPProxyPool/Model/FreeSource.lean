import IPProxyPool.Lib.Ip
import IPProxyPool.Lib.TextSearch
import IPProxyPool.Model.FreeTick
import IPProxyPool.Model.JsonValue

/-!
# Parsing the lists of free sources

The check of an address that the sources share, and the parsers of the JSON API and of the raw
lists. The JSON text layer is a parameter.
-/

namespace IPProxyPool
open RustText RustNet

def parseOctet (s : String) : Option (Fin 256) :=
  (parseUnsigned 256 s).bind (fun n => if h : n < 256 then some ⟨n, h⟩ else none)

/-- The four octets that `is_routable_ip` reads. -/
def ipOctets (ip : String) : Option Ipv4Addr :=
  match split '.' (trimString ip) with
  | [a, b, c, d] => do
    let a ← parseOctet a
    let b ← parseOctet b
    let c ← parseOctet c
    let d ← parseOctet d
    some ⟨a, b, c, d⟩
  | _ => none

def isRoutableIp (ip : String) : Bool :=
  match ipOctets ip with
  | none => false
  | some ⟨a, b, _, _⟩ =>
    if a = 0 ∨ a = 127 ∨ a ≥ 224 then false
    else if a = 10 ∨ (a = 172 ∧ 16 ≤ b ∧ b < 32) ∨ (a = 192 ∧ b = 168) then false
    else if a = 169 ∧ b = 254 then false
    else true

def FreeProto.fromToken (tok : String) : Option FreeProto :=
  let tok := toAsciiLowercase tok
  if tok = "http" then some .http
  else if tok = "https" then some .https
  else if tok = "socks4" then some .socks4
  else if tok = "socks5" then some .socks5
  else none

/-- The protocol that a text in lower case names. -/
def sniffProto (lower : String) (defaultProto : FreeProto) : FreeProto :=
  if contains lower "socks5" then .socks5
  else if contains lower "socks4" then .socks4
  else defaultProto

def parsePort (s : String) : Option UInt16 := (parseUnsigned (2 ^ 16) s).map UInt16.ofNat

/-- `Some(p) if p > 0`. -/
def nonZeroPort (port : Option UInt16) : Option UInt16 := port.filter (fun p => decide (0 < p))

namespace ApiSource

def anonymityPasses (item : Json) : Bool :=
  match (item.get "anonymityLevel").bind Json.asStr with
  | none => true
  | some level => toAsciiLowercase level != "transparent"

def itemIp (item : Json) : String := ((item.get "ip").bind Json.asStr).getD ""

def itemPort (item : Json) : Option UInt16 :=
  nonZeroPort
    (match item.get "port" with
      | some (.num n) => if n < 2 ^ 16 then some (UInt16.ofNat n) else none
      | some (.str s) => parsePort s
      | _ => none)

def itemProto (item : Json) : FreeProto :=
  ((((item.get "protocols").bind Json.asArray).bind List.head?).bind Json.asStr).bind
    FreeProto.fromToken |>.getD .http

def itemCountry (item : Json) : Option String :=
  ((item.get "country").bind Json.asStr).filter (fun c => !c.isEmpty)

/-- One turn of the loop over the items. -/
def parseItem (source : String) (item : Json) : Option RawNode :=
  let ip := itemIp item
  if ip.isEmpty then none
  else if !isRoutableIp ip then none
  else if !anonymityPasses item then none
  else
    (itemPort item).map (fun port =>
      { ip := ip
        port := port
        proto := itemProto item
        country := itemCountry item
        source := source })

def items (fromStr : String → Option Json) (body : String) : List Json :=
  match fromStr body with
  | some v => ((v.get "data").bind Json.asArray).getD []
  | none => []

def parse (fromStr : String → Option Json) (source body : String) : List RawNode :=
  (items fromStr body).filterMap (parseItem source)

end ApiSource

namespace GitHubSource

/-- The address and the port of a line that is no comment. -/
def lineEndpoint (line : String) : Option (String × Option UInt16) :=
  (rsplitOnce ':' (firstWord line).toList).map (fun p =>
    (String.ofList p.1, nonZeroPort (parsePort (String.ofList p.2))))

/-- One turn of the loop over the lines. -/
def parseLine (source : String) (defaultProto : FreeProto) (line : String) : Option RawNode :=
  let line := trimString line
  if line.isEmpty || startsWith line "#" then none
  else
    let proto := sniffProto (toAsciiLowercase line) defaultProto
    match lineEndpoint line with
    | some (ip, some port) =>
      let octets := split '.' ip
      if octets.length ≠ 4 || octets.any (fun o => (parseUnsigned 256 o).isNone) ||
          octets.all (fun o => o == "0" || o == "00" || o == "000") then none
      else if !isRoutableIp ip then none
      else
        some
          { ip := ip
            port := port
            proto := proto
            country := none
            source := source }
    | _ => none

def parseWith (source body : String) (defaultProto : FreeProto) : List RawNode :=
  (lines body).filterMap (parseLine source defaultProto)

end GitHubSource

end IPProxyPool
