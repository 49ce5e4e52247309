import IPProxyPool.Lib.Socks
import IPProxyPool.Model.SocksHandshake

/-!
# What a SOCKS4 request means to the proxy

The bytes that `establish_v4` writes are read back by the grammar of SOCKS4 and 4a. They mean what
was asked unless a NUL or the marker address gets in the way.
-/

namespace IPProxyPool
open RustNet Wire Socks

/-- The target that a host name asks for, where the handshake supports it. -/
def askedTarget (host : String) : Option Target :=
  match parseIpv4Addr host with
  | some v4 => some (.ip4 (octets v4))
  | none =>
    if isIpv6Literal host || utf8 host = [] || 255 < (utf8 host).length then none
    else some (.domain (utf8 host))

/-- Neither the user name nor the host can be mistaken for the structure of a request. -/
def Unambiguous (username : Option String) (host : String) : Prop :=
  0 ∉ utf8 (username.getD "") ∧
    match parseIpv4Addr host with
    | some v4 => isMarker (octets v4) = false
    | none => 0 ∉ utf8 host

/-- The address field of a request, and what follows the user name. -/
def addressFields : Target → Bytes × Bytes
  | .ip4 octets => (octets, [])
  | .domain name => ([0, 0, 0, 1], name ++ [0])
  | .ip6 _ => ([], [])

variable {username : Option String} {host : String} {port : UInt16} {target : Target}

/-- The branches on a host name, in the order both versions take them. -/
lemma askedTarget_cases (host : String) :
    (∃ v4, parseIpv4Addr host = some v4 ∧ askedTarget host = some (.ip4 (octets v4))) ∨
      (parseIpv4Addr host = none ∧ isIpv6Literal host = true ∧ askedTarget host = none) ∨
      (parseIpv4Addr host = none ∧ isIpv6Literal host = false ∧
        (utf8 host = [] ∨ 255 < (utf8 host).length) ∧ askedTarget host = none) ∨
      (parseIpv4Addr host = none ∧ isIpv6Literal host = false ∧
        ¬(utf8 host = [] ∨ 255 < (utf8 host).length) ∧
        askedTarget host = some (.domain (utf8 host))) := by
  unfold askedTarget
  cases hv4 : parseIpv4Addr host with
  | some v4 => exact .inl ⟨v4, rfl, rfl⟩
  | none =>
    cases hv6 : isIpv6Literal host with
    | true => exact .inr (.inl ⟨rfl, rfl, by simp⟩)
    | false =>
      by_cases hbad : utf8 host = [] ∨ 255 < (utf8 host).length
      · exact .inr (.inr (.inl ⟨rfl, rfl, hbad, by simp [hbad]⟩))
      · exact .inr (.inr (.inr ⟨rfl, rfl, hbad, by simp [hbad]⟩))

/-- The request, or a refusal where there is no target to ask for. -/
lemma connectMessage4_spec (username : Option String) (host : String) (port : UInt16) :
    (∃ target, askedTarget host = some target ∧ connectMessage4 username host port =
      .ok (4 :: 1 :: (be16Bytes port ++ ((addressFields target).1 ++
        (utf8 (username.getD "") ++ 0 :: (addressFields target).2))))) ∨
      (askedTarget host = none ∧ ∃ e, connectMessage4 username host port = .error e) := by
  unfold connectMessage4
  rcases askedTarget_cases host with ⟨v4, hv4, h⟩ | ⟨hv4, hv6, h⟩ | ⟨hv4, hv6, hbad, h⟩ |
    ⟨hv4, hv6, hok, h⟩
  · refine .inl ⟨_, h, ?_⟩
    simp [hv4, addressFields, pure, Except.pure, bind, Except.bind]
  · refine .inr ⟨h, "socks4 ipv6 target not supported", ?_⟩
    rw [hv4]
    simp only [hv6]
    rfl
  · refine .inr ⟨h, "socks4 bad domain target", ?_⟩
    rw [hv4]
    simp only [hv6, if_pos hbad]
    rfl
  · refine .inl ⟨_, h, ?_⟩
    simp [hv4, hv6, hok, addressFields, pure, Except.pure, bind, Except.bind]

lemma length_octets (addr : Ipv4Addr) : (octets addr).length = 4 := rfl

/-- The request is the only message, whatever the server answers. -/
lemma outgoing_establishV4 {message : Bytes} (stream : Bytes)
    (h : connectMessage4 username host port = .ok message) :
    (after (establishV4 username host port) (Connection.toServer stream)).outgoing = [message] := by
  unfold establishV4
  rw [h, after_bind]
  change (after (_ >>= _) (Connection.toServer stream)).outgoing = [message]
  rw [after_bind]
  exact (silent_readExact _ _).bind (fun _ => silent_ensure _ _) _

/-- The marker that `establish_v4` writes announces a host name. -/
lemma decode_request (h : askedTarget host = some target) :
    decode request4 (4 :: 1 :: (be16Bytes port ++ ((addressFields target).1 ++
        (utf8 (username.getD "") ++ 0 :: (addressFields target).2)))) =
      some ⟨⟨1, target, port⟩, utf8 (username.getD "")⟩ ↔ Unambiguous username host := by
  unfold askedTarget at h
  unfold Unambiguous
  cases hv4 : parseIpv4Addr host with
  | some v4 =>
    rw [hv4] at h
    cases h
    have hread := decode_request4 ⟨⟨1, .ip4 (octets v4), port⟩, utf8 (username.getD "")⟩
      (length_octets v4) []
    cases hm : isMarker (octets v4) with
    | true =>
      rw [hm] at hread
      simpa [addressFields, hm] using hread
    | false =>
      rw [hm] at hread
      simpa [addressFields, hm] using hread
  | none =>
    rw [hv4] at h
    dsimp only at h
    split at h
    · cases h
    · cases h
      have hlen : ([0, 0, 0, 1] : Bytes).length = 4 := rfl
      have hread := decode_request4 ⟨⟨1, .domain (utf8 host), port⟩, utf8 (username.getD "")⟩
        hlen (utf8 host ++ [0])
      have hmarker : isMarker [0, 0, 0, 1] = true := rfl
      rw [hmarker] at hread
      simpa [addressFields] using hread

/-- `establish_v4` refuses before it writes, or it writes one request; and that request means the
target, port and user it was asked for exactly when it is unambiguous. -/
theorem socks4_request_meaning (username : Option String) (host : String) (port : UInt16)
    (stream : Bytes) :
    match askedTarget host with
    | none => ∃ e, establishV4 username host port (Connection.toServer stream) =
        .error e (Connection.toServer stream)
    | some target => ∃ message,
        (after (establishV4 username host port) (Connection.toServer stream)).outgoing =
          [message] ∧
        (decode request4 message = some ⟨⟨1, target, port⟩, utf8 (username.getD "")⟩ ↔
          Unambiguous username host) := by
  rcases connectMessage4_spec username host port with ⟨target, h, hmessage⟩ | ⟨h, e, he⟩
  · rw [h]
    exact ⟨_, outgoing_establishV4 stream hmessage, decode_request h⟩
  · rw [h]
    refine ⟨e, ?_⟩
    unfold establishV4
    rw [he]
    rfl

/-- A literal in the marker range leaves the proxy waiting for a host name; a NUL in the user name
ends it early. -/
theorem socks4_request_ambiguous :
    (askedTarget "0.0.0.1" = some (.ip4 [0, 0, 0, 1]) ∧
      (after (establishV4 none "0.0.0.1" 80) (Connection.toServer [])).outgoing =
        [[4, 1, 0, 80, 0, 0, 0, 1, 0]] ∧
      decode request4 [4, 1, 0, 80, 0, 0, 0, 1, 0] = none) ∧
    (askedTarget "10.0.0.7" = some (.ip4 [10, 0, 0, 7]) ∧
      (after (establishV4 (some "a\x00b") "10.0.0.7" 80) (Connection.toServer [])).outgoing =
        [[4, 1, 0, 80, 10, 0, 0, 7, 97, 0, 98, 0]] ∧
      decode request4 [4, 1, 0, 80, 10, 0, 0, 7, 97, 0, 98, 0] = none) := by
  decide +kernel

end IPProxyPool
