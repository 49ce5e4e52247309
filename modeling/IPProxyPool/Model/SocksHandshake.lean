import IPProxyPool.Lib.Ip
import IPProxyPool.Lib.Wire
import IPProxyPool.Model.Node

/-!
# The SOCKS handshake

`socks_handshake.rs` over a connection that has fixed in advance what the server will say and
which writes will fail. Timeouts are up to the callers there and do not appear.
-/

namespace IPProxyPool
open RustNet Wire

/-- `outgoing` holds one message for every completed write. -/
structure Connection where
  incoming : Bytes
  outgoing : List Bytes
  writeError : Nat → Option String

/-- A connection that takes every write. -/
def Connection.toServer (stream : Bytes) : Connection where
  incoming := stream
  outgoing := []
  writeError := fun _ => none

/-- A failed step leaves the connection as it found it or as far as it got. -/
abbrev Session (α : Type) := EStateM String Connection α

/-- The text before the cause in an error names the step. -/
def writeAll (step : String) (message : Bytes) : Session Unit := fun c =>
  match c.writeError c.outgoing.length with
  | some e => .error (step ++ " write failed: " ++ e) c
  | none => .ok () { c with outgoing := c.outgoing ++ [message] }

/-- A stream that ends too early is read to its end. -/
def readExact (step : String) (n : Nat) : Session Bytes := fun c =>
  if n ≤ c.incoming.length then
    .ok (c.incoming.take n) { c with incoming := c.incoming.drop n }
  else .error (step ++ " read failed: early eof") { c with incoming := [] }

/-- Go on only where the condition holds. -/
def ensure (p : Prop) [Decidable p] (e : String) : Session Unit := if p then pure () else throw e

/-- The format of a byte in the error texts. -/
def hexLiteral (b : UInt8) : String :=
  "0x" ++ String.ofList [Nat.digitChar (b.toNat / 16), Nat.digitChar (b.toNat % 16)]

def utf8 (s : String) : Bytes := s.toUTF8.toList

lemma utf8_append (a b : String) : utf8 (a ++ b) = utf8 a ++ utf8 b := by
  simp [utf8, byteArray_toList]

def octets (addr : Ipv4Addr) : Bytes :=
  [addr.a, addr.b, addr.c, addr.d].map (fun o => UInt8.ofNat o.val)

/-! ### SOCKS5 -/

def authMessage (u p : String) : Except String Bytes :=
  let ub := utf8 u
  let pb := utf8 p
  if 255 < ub.length ∨ 255 < pb.length then .error "socks5 credentials too long"
  else .ok ([0x01, UInt8.ofNat ub.length] ++ ub ++ [UInt8.ofNat pb.length] ++ pb)

/-- The sub-negotiation that the server asked for. -/
def authenticate (username password : Option String) : Session Unit := do
  match username, password with
  | some u, some p =>
    let req ← ofExcept (authMessage u p)
    writeAll "socks5 auth" req
    let rep ← readExact "socks5 auth" 2
    ensure (rep = [0x01, 0x00]) "socks5 auth rejected"
  | _, _ => throw "socks5 server requires auth but no credentials"

def connectMessage (targetHost : String) (targetPort : UInt16) : Except String Bytes := do
  let address ←
    match parseIpv4Addr targetHost with
    | some v4 => pure (0x01 :: octets v4)
    | none =>
      if isIpv6Literal targetHost then throw "socks5 ipv6 target not supported"
      else
        let hb := utf8 targetHost
        if hb = [] ∨ 255 < hb.length then throw "socks5 bad domain target"
        else pure (0x03 :: UInt8.ofNat hb.length :: hb)
  return [0x05, 0x01, 0x00] ++ address ++ be16Bytes targetPort

/-- The length of the bound address with its port. -/
def boundLength (atyp : UInt8) : Session Nat :=
  if atyp = 0x01 then pure (4 + 2)
  else if atyp = 0x03 then do
    let l ← readExact "socks5 bnd" 1
    pure ((l.getD 0 0).toNat + 2)
  else if atyp = 0x04 then pure (16 + 2)
  else throw ("socks5 bad atyp " ++ hexLiteral atyp)

/-- The reply is checked up to its address, which is only read. -/
def readReply : Session Unit := do
  let head ← readExact "socks5 connect" 4
  let version := head.getD 0 0
  ensure (version = 0x05) ("socks5 bad connect version " ++ hexLiteral version)
  let rep := head.getD 1 0
  ensure (rep = 0x00) ("socks5 connect rejected rep=" ++ hexLiteral rep)
  let bndLen ← boundLength (head.getD 3 0)
  let _ ← readExact "socks5 bnd" bndLen
  pure ()

/-- What the server's choice of a method asks for. -/
def negotiate (method : UInt8) (username password : Option String) : Session Unit :=
  if method = 0x00 then pure ()
  else if method = 0x02 then authenticate username password
  else if method = 0xFF then throw "socks5 no acceptable method"
  else throw ("socks5 unsupported method " ++ hexLiteral method)

def establishV5 (username password : Option String) (targetHost : String) (targetPort : UInt16) :
    Session Unit := do
  writeAll "socks5 greet" [0x05, 0x01, 0x00]
  let choice ← readExact "socks5 greet" 2
  let version := choice.getD 0 0
  ensure (version = 0x05) ("socks5 bad version " ++ hexLiteral version)
  negotiate (choice.getD 1 0) username password
  let req ← ofExcept (connectMessage targetHost targetPort)
  writeAll "socks5 connect" req
  readReply

/-! ### SOCKS4 -/

def connectMessage4 (username : Option String) (targetHost : String) (targetPort : UInt16) :
    Except String Bytes := do
  let (address, domainSuffix) ←
    match parseIpv4Addr targetHost with
    | some v4 => pure (octets v4, none)
    | none =>
      if isIpv6Literal targetHost then throw "socks4 ipv6 target not supported"
      else
        let hb := utf8 targetHost
        if hb = [] ∨ 255 < hb.length then throw "socks4 bad domain target"
        else pure ([0, 0, 0, 1], some hb)
  let suffix :=
    match domainSuffix with
    | some d => d ++ [0x00]
    | none => []
  return [0x04, 0x01] ++ be16Bytes targetPort ++ address ++ utf8 (username.getD "") ++ [0x00] ++
    suffix

def establishV4 (username : Option String) (targetHost : String) (targetPort : UInt16) :
    Session Unit := do
  let req ← ofExcept (connectMessage4 username targetHost targetPort)
  writeAll "socks4 connect" req
  let rep ← readExact "socks4 connect" 8
  ensure (rep.getD 0 0 = 0x00 ∧ rep.getD 1 0 = 0x5A)
    ("socks4 connect rejected cd=" ++ hexLiteral (rep.getD 1 0))

/-! ### Both versions -/

/-- `establish`, from the outcome of the TCP connect on. -/
def establish (connected : Except String Connection) (proxyIp : String) (proxyPort : UInt16)
    (username password : Option String) (proto : EgressProto) (targetHost : String)
    (targetPort : UInt16) : Except String Connection := do
  let s ←
    match connected with
    | .ok s => pure s
    | .error e =>
      throw ("socks tcp connect " ++ proxyIp ++ ":" ++ toString proxyPort.toNat ++ " failed: " ++ e)
  let session : Session Unit :=
    match proto with
    | .socks5 => establishV5 username password targetHost targetPort
    | .socks4 => establishV4 username targetHost targetPort
    | .http => throw "establish called with Http proto (not socks)"
  match session s with
  | .ok () s => return s
  | .error e _ => throw e

/-- The connection as a session leaves it. -/
def after {α : Type} (session : Session α) (c : Connection) : Connection :=
  match session c with
  | .ok _ c' => c'
  | .error _ c' => c'

example : (after (establishV5 (some "u") (some "pw") "a.b" 80)
      (Connection.toServer [5, 2, 1, 0, 5, 0, 0, 1, 0, 0, 0, 0, 0, 0, 72])).outgoing =
    [[5, 1, 0], [1, 1, 117, 2, 112, 119], [5, 1, 0, 3, 3, 97, 46, 98, 0, 80]] := by
  decide +kernel

/-! ### What a completed step did -/

variable {α β : Type} {c c' c'' : Connection}

lemma session_bind_ok {x : Session α} {f : α → Session β} {b : β} :
    (x >>= f) c = .ok b c'' ↔ ∃ a c', x c = .ok a c' ∧ f a c' = .ok b c'' := by
  change EStateM.bind x f c = _ ↔ _
  unfold EStateM.bind
  cases x c <;> simp

lemma session_pure_ok {a b : α} : (pure a : Session α) c = .ok b c' ↔ a = b ∧ c = c' := by
  change EStateM.Result.ok a c = _ ↔ _
  simp

lemma session_throw_ok {e : String} {b : α} : (throw e : Session α) c = .ok b c' ↔ False := by
  change EStateM.Result.error e c = _ ↔ _
  simp

lemma session_ofExcept_ok {x : Except String α} {b : α} :
    (ofExcept x : Session α) c = .ok b c' ↔ x = .ok b ∧ c = c' := by
  cases x with
  | ok a =>
    change (pure a : Session α) c = .ok b c' ↔ _
    rw [session_pure_ok, Except.ok.injEq]
  | error e =>
    change (throw e : Session α) c = .ok b c' ↔ _
    rw [session_throw_ok]
    simp

lemma ensure_ok {p : Prop} [Decidable p] {e : String} {u : Unit} :
    ensure p e c = .ok u c' ↔ p ∧ c = c' := by
  unfold ensure
  split
  · rename_i hp
    rw [session_pure_ok]
    tauto
  · rename_i hp
    rw [session_throw_ok]
    tauto

lemma readExact_ok {step : String} {n : Nat} {bs : Bytes} :
    readExact step n c = .ok bs c' ↔
      ∃ rest, c.incoming = bs ++ rest ∧ bs.length = n ∧ c' = { c with incoming := rest } := by
  unfold readExact
  split
  · rename_i hle
    rw [EStateM.Result.ok.injEq]
    constructor
    · rintro ⟨rfl, rfl⟩
      exact ⟨c.incoming.drop n, (List.take_append_drop n c.incoming).symm,
        List.length_take_of_le hle, rfl⟩
    · rintro ⟨rest, hin, rfl, rfl⟩
      rw [hin, List.take_left, List.drop_left]
      exact ⟨rfl, rfl⟩
  · rename_i hlt
    constructor
    · intro h
      cases h
    · rintro ⟨rest, hin, rfl, -⟩
      rw [hin, List.length_append] at hlt
      omega

lemma writeAll_ok {step : String} {message : Bytes} {u : Unit} :
    writeAll step message c = .ok u c' ↔
      c.writeError c.outgoing.length = none ∧
        c' = { c with outgoing := c.outgoing ++ [message] } := by
  unfold writeAll
  split
  · rename_i e he
    simp [he]
  · rename_i he
    rw [he, EStateM.Result.ok.injEq]
    simp only [true_and]
    exact eq_comm

/-! ### What a session writes -/

lemma after_bind (x : Session α) (f : α → Session β) (c : Connection) :
    after (x >>= f) c =
      match x c with
      | .ok a c' => after (f a) c'
      | .error _ c' => c' := by
  change (match EStateM.bind x f c with
    | .ok _ c' => c'
    | .error _ c' => c') = _
  unfold EStateM.bind after
  cases x c <;> rfl

/-- A session that writes nothing, however it ends. -/
def Silent (x : Session α) : Prop := ∀ c, (after x c).outgoing = c.outgoing

lemma silent_pure (a : α) : Silent (pure a : Session α) := fun _ => rfl

lemma silent_throw (e : String) : Silent (throw e : Session α) := fun _ => rfl

lemma silent_readExact (step : String) (n : Nat) : Silent (readExact step n) := by
  intro c
  unfold after readExact
  split
  · rename_i h
    split at h <;> cases h
    rfl
  · rename_i h
    split at h <;> cases h
    rfl

lemma Silent.bind {x : Session α} {f : α → Session β} (hx : Silent x) (hf : ∀ a, Silent (f a)) :
    Silent (x >>= f) := by
  intro c
  have hc := hx c
  rw [after_bind]
  unfold after at hc
  cases h : x c with
  | ok a c' =>
    rw [h] at hc
    exact (hf a c').trans hc
  | error e c' =>
    rw [h] at hc
    exact hc

lemma silent_ensure (p : Prop) [Decidable p] (e : String) : Silent (ensure p e) := by
  unfold ensure
  split
  · exact silent_pure ()
  · exact silent_throw e

end IPProxyPool
