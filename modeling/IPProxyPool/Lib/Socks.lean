import IPProxyPool.Lib.Wire

/-!
# SOCKS messages

The grammars of SOCKS4 (with the host names of 4a) and SOCKS5, and the user name sub-negotiation
of the latter.
-/

namespace Socks
open Wire

inductive Target where
  | ip4 (octets : Bytes)
  | domain (name : Bytes)
  | ip6 (octets : Bytes)
  deriving DecidableEq, Repr

structure Request where
  command : UInt8
  target : Target
  port : UInt16
  deriving DecidableEq, Repr

/-- A SOCKS4 request also names a user. -/
structure Request4 extends Request where
  userid : Bytes
  deriving DecidableEq, Repr

/-! ### SOCKS4 and 4a -/

/-- An address `0.0.0.x` with `x` not zero announces a host name. -/
def isMarker (octets : Bytes) : Bool := octets.take 3 = [0, 0, 0] && octets.drop 3 ≠ [0]

def request4 : Reader Request4 := do
  literal 4
  let command ← byte
  let port ← be16
  let octets ← exactly 4
  let userid ← cstring
  if isMarker octets then
    let name ← cstring
    return ⟨⟨command, .domain name, port⟩, userid⟩
  else
    return ⟨⟨command, .ip4 octets, port⟩, userid⟩

lemma request4_eq_some {s rest : Bytes} {r : Request4} :
    request4 s = some (r, rest) ↔
      ∃ octets tail,
        s = 4 :: r.command :: (be16Bytes r.port ++ (octets ++ (r.userid ++ 0 :: tail))) ∧
        octets.length = 4 ∧ 0 ∉ r.userid ∧
        if isMarker octets then
          ∃ name, r.target = .domain name ∧ tail = name ++ 0 :: rest ∧ 0 ∉ name
        else r.target = .ip4 octets ∧ tail = rest := by
  unfold request4
  simp only [bind_eq_some, literal_eq_some, byte_eq_some, be16_eq_some, exactly_eq_some,
    cstring_eq_some]
  constructor
  · rintro ⟨-, _, rfl, command, _, rfl, port, _, rfl, octets, _, ⟨rfl, hlen⟩, userid, tail,
      ⟨rfl, huser⟩, h⟩
    by_cases hm : isMarker octets = true
    · rw [if_pos hm] at h
      simp only [bind_eq_some, cstring_eq_some, pure_eq_some] at h
      obtain ⟨name, _, ⟨rfl, hname⟩, rfl, rfl⟩ := h
      exact ⟨octets, _, rfl, hlen, huser, by rw [if_pos hm]; exact ⟨name, rfl, rfl, hname⟩⟩
    · rw [if_neg hm, pure_eq_some] at h
      obtain ⟨rfl, rfl⟩ := h
      exact ⟨octets, _, rfl, hlen, huser, by rw [if_neg hm]; exact ⟨rfl, rfl⟩⟩
  · rintro ⟨octets, tail, rfl, hlen, huser, h⟩
    refine ⟨(), _, rfl, _, _, rfl, _, _, rfl, octets, _, ⟨rfl, hlen⟩, _, tail, ⟨rfl, huser⟩, ?_⟩
    by_cases hm : isMarker octets = true
    · rw [if_pos hm] at h ⊢
      obtain ⟨name, htarget, rfl, hname⟩ := h
      simp only [bind_eq_some, cstring_eq_some, pure_eq_some]
      exact ⟨name, rest, ⟨rfl, hname⟩, by rw [← htarget], rfl⟩
    · rw [if_neg hm] at h ⊢
      obtain ⟨htarget, rfl⟩ := h
      rw [pure_eq_some, ← htarget]
      exact ⟨rfl, rfl⟩

/-- Which request a message means is decided by the NULs in it and by its address. -/
lemma decode_request4 (r : Request4) {octets : Bytes} (hlen : octets.length = 4) (tail : Bytes) :
    decode request4 (4 :: r.command :: (be16Bytes r.port ++ (octets ++ (r.userid ++ 0 :: tail)))) =
        some r ↔
      0 ∉ r.userid ∧
        if isMarker octets then ∃ name, r.target = .domain name ∧ tail = name ++ [0] ∧ 0 ∉ name
        else r.target = .ip4 octets ∧ tail = [] := by
  rw [decode_eq_some, request4_eq_some]
  constructor
  · rintro ⟨octets', tail', heq, hlen', huser, h⟩
    simp only [List.cons.injEq, true_and, List.append_cancel_left_eq] at heq
    obtain ⟨rfl, htail⟩ := List.append_inj heq (hlen.trans hlen'.symm)
    simp only [List.append_cancel_left_eq, List.cons.injEq, true_and] at htail
    subst htail
    exact ⟨huser, h⟩
  · rintro ⟨huser, h⟩
    exact ⟨octets, tail, rfl, hlen, huser, h⟩

/-! ### SOCKS5 -/

/-- The values that the length fields can hold. -/
def Target.Fits : Target → Prop
  | .ip4 octets => octets.length = 4
  | .domain name => name.length ≤ 255
  | .ip6 octets => octets.length = 16

/-- An address with the byte that tells its type. -/
def Target.bytes : Target → Bytes
  | .ip4 octets => 1 :: octets
  | .domain name => 3 :: UInt8.ofNat name.length :: name
  | .ip6 octets => 4 :: octets

def address : Reader Target := do
  let atyp ← byte
  if atyp = 1 then Target.ip4 <$> exactly 4
  else if atyp = 3 then Target.domain <$> prefixed
  else if atyp = 4 then Target.ip6 <$> exactly 16
  else failure

def credentials : Reader (Bytes × Bytes) := do
  literal 1
  let username ← prefixed
  let password ← prefixed
  return (username, password)

def request5 : Reader Request := do
  literal 5
  let command ← byte
  literal 0
  let target ← address
  let port ← be16
  return ⟨command, target, port⟩

/-- What a server says that grants a request: its choice of a method, with the outcome of the
sub-negotiation where it asks for one, and a reply with the address it is bound to. -/
def Granted (hasCredentials : Prop) (handshake : Bytes) : Prop :=
  ∃ choice rsv bound port,
    (choice = [5, 0] ∨ hasCredentials ∧ choice = [5, 2, 1, 0]) ∧ Target.Fits bound ∧
    handshake = choice ++ 5 :: 0 :: rsv :: (bound.bytes ++ be16Bytes port)

variable {s rest : Bytes}

lemma credentials_eq_some {username password : Bytes} :
    credentials s = some ((username, password), rest) ↔
      username.length ≤ 255 ∧ password.length ≤ 255 ∧
      s = 1 :: UInt8.ofNat username.length ::
        (username ++ UInt8.ofNat password.length :: (password ++ rest)) := by
  simp only [credentials, bind_eq_some, literal_eq_some, prefixed_eq_some, pure_eq_some]
  constructor
  · rintro ⟨-, _, rfl, u, _, ⟨hu, rfl⟩, p, _, ⟨hp, rfl⟩, heq, rfl⟩
    cases heq
    exact ⟨hu, hp, rfl⟩
  · rintro ⟨hu, hp, rfl⟩
    exact ⟨(), _, rfl, _, _, ⟨hu, rfl⟩, _, _, ⟨hp, rfl⟩, rfl, rfl⟩

lemma address_of_fits {target : Target} (h : target.Fits) :
    address (target.bytes ++ rest) = some (target, rest) := by
  rw [address, bind_eq_some]
  simp only [byte_eq_some]
  cases target with
  | ip4 octets =>
    refine ⟨1, octets ++ rest, rfl, ?_⟩
    rw [if_pos rfl, map_eq_some]
    exact ⟨octets, exactly_eq_some.mpr ⟨rfl, h⟩, rfl⟩
  | domain name =>
    refine ⟨3, UInt8.ofNat name.length :: (name ++ rest), rfl, ?_⟩
    rw [if_neg (by decide), if_pos rfl, map_eq_some]
    exact ⟨name, prefixed_eq_some.mpr ⟨h, rfl⟩, rfl⟩
  | ip6 octets =>
    refine ⟨4, octets ++ rest, rfl, ?_⟩
    rw [if_neg (by decide), if_neg (by decide), if_pos rfl, map_eq_some]
    exact ⟨octets, exactly_eq_some.mpr ⟨rfl, h⟩, rfl⟩

lemma request5_of_fits {r : Request} (h : r.target.Fits) (rest : Bytes) :
    request5 (5 :: r.command :: 0 :: (r.target.bytes ++ (be16Bytes r.port ++ rest))) =
      some (r, rest) := by
  simp only [request5, bind_eq_some, literal_eq_some, byte_eq_some, be16_eq_some, pure_eq_some]
  exact ⟨(), _, rfl, _, _, rfl, (), _, rfl, _, _, address_of_fits h, _, _, rfl, rfl, rfl⟩

end Socks
