import IPProxyPool.Model.Node
import IPProxyPool.Model.Domain

/-!
# Routing directives of a request

`parse_routing_spec`: the request headers, then the tokens in the user name of a Basic
`Proxy-Authorization` header. The base64 decoder is a parameter.
-/

namespace IPProxyPool
open RustText

/-- The header fields of a request in order of arrival. -/
abbrev HeaderMap := List (String × List UInt8)

/-- The first value under a name; names are compared without regard to case. -/
def HeaderMap.get (header : HeaderMap) (name : String) : Option (List UInt8) :=
  (header.find? (fun f => eqIgnoreAsciiCase f.1 name)).map Prod.snd

def HeaderMap.containsKey (header : HeaderMap) (name : String) : Bool :=
  (header.get name).isSome

/-- `HeaderValue::to_str`: visible ASCII and tabs only. -/
def headerToStr (value : List UInt8) : Option String :=
  if value.all (fun b => (32 ≤ b.toNat && b.toNat < 127) || b.toNat == 9) then
    some (String.ofList (value.map (fun b => Char.ofNat b.toNat)))
  else none

def HeaderMap.getStr (header : HeaderMap) (name : String) : Option String :=
  (header.get name).bind headerToStr

def stringFromUtf8 (bytes : List UInt8) : Option String := String.fromUTF8? ⟨bytes.toArray⟩

/-- One token of the user name. A protocol token counts only where no protocol is set yet. -/
def applyToken (spec : RoutingSpec) (token : String) : RoutingSpec :=
  match stripPrefix "country-" token with
  | some v => { spec with country := some v }
  | none =>
    match stripPrefix "session-" token with
    | some v => { spec with sessionId := some v }
    | none =>
      match stripPrefix "tier-" token with
      | some v => { spec with tier := some v }
      | none =>
        match stripPrefix "proto-" token with
        | some v =>
          if spec.proto.isNone then { spec with proto := EgressProto.fromToken v } else spec
        | none => spec

def basicUser (b64Decode : String → Option (List UInt8)) (auth : String) : Option String := do
  let b64 ← stripPrefix "Basic " auth
  let decoded ← b64Decode b64
  let authStr ← stringFromUtf8 decoded
  some ((split ':' authStr).headD "")

def headerSpec (header : HeaderMap) : RoutingSpec where
  country := header.getStr "X-Proxy-Country"
  sessionId := header.getStr "X-Proxy-Session"
  tier := header.getStr "X-Proxy-Tier"
  targetDomain := ((header.getStr "Host").map normalizeDomain).getD ""
  proto := (header.getStr "X-Proxy-Proto").bind EgressProto.fromToken

def parseRoutingSpec (b64Decode : String → Option (List UInt8)) (header : HeaderMap) :
    RoutingSpec :=
  let spec := headerSpec header
  match (header.getStr "Proxy-Authorization").bind (basicUser b64Decode) with
  | some user => (split '_' user).foldl applyToken spec
  | none => spec

def hasAuthorization (header : HeaderMap) : Bool := header.containsKey "Authorization"

def hasCookie (header : HeaderMap) : Bool := header.containsKey "Cookie"

lemma targetDomain_applyToken (spec : RoutingSpec) (token : String) :
    (applyToken spec token).targetDomain = spec.targetDomain := by
  unfold applyToken
  split
  · rfl
  · split
    · rfl
    · split
      · rfl
      · split
        · split <;> rfl
        · rfl

/-- The target domain is decided by the `Host` header alone. -/
theorem targetDomain_parseRoutingSpec (b64Decode : String → Option (List UInt8))
    (header : HeaderMap) :
    (parseRoutingSpec b64Decode header).targetDomain =
      ((header.getStr "Host").map normalizeDomain).getD "" := by
  have hfold : ∀ (tokens : List String) (spec : RoutingSpec),
      (tokens.foldl applyToken spec).targetDomain = spec.targetDomain := by
    intro tokens
    induction tokens with
    | nil => intro spec; rfl
    | cons token tokens ih =>
      intro spec
      rw [List.foldl_cons, ih, targetDomain_applyToken]
  unfold parseRoutingSpec
  dsimp only
  split
  · rw [hfold]
    rfl
  · rfl

end IPProxyPool
