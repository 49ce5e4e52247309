import IPProxyPool.Model.Attempts
import IPProxyPool.Model.SocksBridge

/-!
# Translation at the bridge

What `serve_via_socks` makes of a downstream request before its loop, and what
`write_bridge_response` makes of the response. The request line and the fields are taken as the
client sent them.
-/

namespace IPProxyPool
open RustText

/-! ### The target -/

/-- A character that ends the authority of a URI. -/
def isUriDelimiter (c : Char) : Bool := c == '/' || c == '?' || c == '#'

abbrev UriScheme := { s : String // ':' ∉ s.toList }

abbrev UriAuthority := { s : String // ∀ c ∈ s.toList, isUriDelimiter c = false }

/-- A path with its query. -/
abbrev UriPath := { s : String // startsWith s "/" = true }

/-- The four forms of a request target. -/
inductive Uri where
  | origin (path : UriPath)
  | absolute (scheme : UriScheme) (authority : UriAuthority) (path : UriPath)
  | authority (authority : UriAuthority)
  | asterisk

namespace Uri

def scheme? : Uri → Option String
  | .absolute s _ _ => some s.val
  | _ => none

def authority? : Uri → Option String
  | .absolute _ a _ => some a.val
  | .authority a => some a.val
  | _ => none

def pathAndQuery : Uri → Option String
  | .origin p => some p.val
  | .absolute _ _ p => some p.val
  | .authority _ => none
  | .asterisk => some "*"

/-- `Uri::to_string`. -/
def text : Uri → String
  | .origin p => p.val
  | .absolute s a p => s.val ++ "://" ++ a.val ++ p.val
  | .authority a => a.val
  | .asterisk => "*"

end Uri

def bridgeUrlFor (uri : Uri) (host : Option String) : Option String :=
  if uri.scheme?.isSome && uri.authority?.isSome then some uri.text
  else do
    let h ← host
    match uri.pathAndQuery with
    | some pq => some ("http://" ++ h ++ pq)
    | none => some ("http://" ++ h ++ "/")

/-! ### The request -/

/-- A request at the gateway. `reads` is what the calls of `read_request_body` yield before they
yield nothing. -/
structure DownstreamRequest where
  method : String
  uri : Uri
  header : HeaderMap
  isBodyEmpty : Bool
  reads : List (Except String (List UInt8))
  empty_ok : isBodyEmpty = true → reads = []

def readRequestBody (reads : List (Except String (List UInt8))) :
    Except String (Option (List UInt8)) :=
  match reads with
  | [] => .ok none
  | .ok chunk :: _ => .ok (some chunk)
  | .error e :: _ => .error e

/-- The body for the bridge, or the status of an unreadable one. -/
def bridgeBody (req : DownstreamRequest) : Except Nat (Option (List UInt8)) :=
  if req.isBodyEmpty then .ok none
  else
    match readRequestBody req.reads with
    | .ok body => .ok (body.filter (fun b => !b.isEmpty))
    | .error _ => .error 400

/-- What precedes the loop of `serve_via_socks`: the request that every attempt is given, or the
status that the client is sent. -/
def bridgeRequest (bridge : Option SocksBridge) (req : DownstreamRequest) :
    Except Nat BridgeRequest :=
  match bridge with
  | none => .error 503
  | some _ =>
    match bridgeUrlFor req.uri (req.header.getStr "Host") with
    | none => .error 400
    | some url =>
      match bridgeBody req with
      | .error status => .error status
      | .ok body => .ok ⟨req.method, url, bridgeRequestHeaders req.header, body⟩

/-- The requests handed to `bridge.fetch`, one on each attempt, with the node it is made
through. -/
def bridgeAttempts (ucb : BanditArm → VectorD → Nat → ℚ) (bridge : Option SocksBridge)
    (req : DownstreamRequest) (ctx : ProxyContext) (tries : Nat → SocksTry) :
    List (ProxyNode × BridgeRequest) :=
  match bridgeRequest bridge req with
  | .error _ => []
  | .ok breq => (trySocks ucb req.header ctx none tries).attempts.map (fun a => (a.node, breq))

/-- The body that the HTTP path streams to its peer. -/
def streamedBody (chunks : List (List UInt8)) : Option (List UInt8) :=
  if chunks.flatten = [] then none else some chunks.flatten

/-! ### The response -/

/-- What is written to the client, the body write by write. -/
structure DownstreamResponse where
  status : Nat
  headers : HeaderMap
  writes : List (List UInt8)

def responseChunk : Nat := 32 * 1024

/-- The loop over the body from the offset `off` on. -/
def writeLoop (body : List UInt8) (off : Nat) : List (List UInt8) :=
  if off < body.length then
    let stop := min (off + responseChunk) body.length
    (body.drop off).take (stop - off) :: writeLoop body stop
  else []
termination_by body.length - off
decreasing_by
  have hchunk : 0 < responseChunk := by decide
  omega

/-- One field of the bridge's response. The upstream's content length is dropped, and a field that
the header rejects is skipped. -/
def writeHeader (head : HeaderMap) (f : String × String) : HeaderMap :=
  if eqIgnoreAsciiCase f.1 "content-length" then head
  else if isHeaderName f.1 && isHeaderValue f.2 then head.insertHeader f.1 (asciiBytes f.2)
  else head

/-- `write_bridge_response`, or the status of a response that cannot be built. The length given to
`ResponseHeader::build` reserves room for that many fields. -/
def writeBridgeResponse (resp : BridgeResponse) : Except Nat DownstreamResponse :=
  if 100 ≤ resp.status ∧ resp.status < 1000 then
    .ok
      { status := resp.status
        headers := resp.headers.foldl writeHeader []
        writes := writeLoop resp.body 0 ++ [[]] }
  else .error 502

end IPProxyPool
