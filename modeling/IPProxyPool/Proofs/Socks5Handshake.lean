import IPProxyPool.Proofs.Socks4Request

/-!
# The SOCKS5 handshake

The messages of `establish_v5` are read back by the grammars of the protocol, and it accepts
exactly the streams that grant the request, of which it takes the handshake and no more.
-/

namespace IPProxyPool
open RustNet Wire Socks

variable {username password : Option String} {host : String} {port : UInt16} {target : Target}
  {c c' : Connection}

/-! ### Messages -/

lemma authMessage_ok {u p : String} {message : Bytes} (h : authMessage u p = .ok message) :
    decode credentials message = some (utf8 u, utf8 p) := by
  unfold authMessage at h
  dsimp only at h
  split at h
  · cases h
  · rename_i hshort
    cases h
    rw [not_or, Nat.not_lt, Nat.not_lt] at hshort
    rw [decode_eq_some, credentials_eq_some]
    exact ⟨hshort.1, hshort.2, by simp⟩

lemma exists_authMessage {u p : String} :
    (∃ message, authMessage u p = .ok message) ↔
      (utf8 u).length ≤ 255 ∧ (utf8 p).length ≤ 255 := by
  unfold authMessage
  dsimp only
  rw [← Nat.not_lt, ← Nat.not_lt, ← not_or]
  split
  · rename_i hlong
    simp [hlong]
  · rename_i hshort
    simp [hshort]

lemma fits_of_asked (h : askedTarget host = some target) : target.Fits := by
  rcases askedTarget_cases host with ⟨v4, -, h'⟩ | ⟨-, -, h'⟩ | ⟨-, -, -, h'⟩ | ⟨-, -, hok, h'⟩
  · cases h.symm.trans h'
    exact length_octets v4
  · cases h.symm.trans h'
  · cases h.symm.trans h'
  · cases h.symm.trans h'
    rw [not_or, Nat.not_lt] at hok
    exact hok.2

lemma connectMessage_ok {message : Bytes} :
    connectMessage host port = .ok message ↔
      ∃ target, askedTarget host = some target ∧
        message = 5 :: 1 :: 0 :: (target.bytes ++ be16Bytes port) := by
  unfold connectMessage
  rcases askedTarget_cases host with ⟨v4, hv4, h⟩ | ⟨hv4, hv6, h⟩ | ⟨hv4, hv6, hbad, h⟩ |
    ⟨hv4, hv6, hok, h⟩
  · simp [hv4, h, Target.bytes, pure, Except.pure, bind, Except.bind, eq_comm]
  · simp [hv4, hv6, h, bind, Except.bind, throw, throwThe, MonadExceptOf.throw]
  · simp [hv4, hv6, hbad, h, bind, Except.bind, throw, throwThe, MonadExceptOf.throw]
  · simp [hv4, hv6, hok, h, Target.bytes, pure, Except.pure, bind, Except.bind, eq_comm]

lemma decode_connectMessage {message : Bytes} (h : connectMessage host port = .ok message) :
    ∃ target, askedTarget host = some target ∧
      decode request5 message = some ⟨1, target, port⟩ := by
  obtain ⟨target, htarget, rfl⟩ := connectMessage_ok.mp h
  refine ⟨target, htarget, decode_eq_some.mpr ?_⟩
  have hread := request5_of_fits (r := ⟨1, target, port⟩) (fits_of_asked htarget) []
  rwa [List.append_nil] at hread

/-! ### Replies -/

lemma boundLength_ok {atyp : UInt8} {n : Nat} :
    boundLength atyp c = .ok n c' ↔
      atyp = 1 ∧ n = 6 ∧ c' = c ∨
      (atyp = 3 ∧ ∃ l rest, c.incoming = l :: rest ∧ n = l.toNat + 2 ∧
        c' = { c with incoming := rest }) ∨
      atyp = 4 ∧ n = 18 ∧ c' = c := by
  unfold boundLength
  by_cases h1 : atyp = 1
  · subst h1
    rw [if_pos rfl, session_pure_ok]
    constructor
    · rintro ⟨rfl, rfl⟩
      exact .inl ⟨rfl, rfl, rfl⟩
    · rintro (⟨-, rfl, rfl⟩ | ⟨h, -⟩ | ⟨h, -⟩)
      · exact ⟨rfl, rfl⟩
      · cases h
      · cases h
  · rw [if_neg h1]
    by_cases h3 : atyp = 3
    · subst h3
      rw [if_pos rfl]
      rw [session_bind_ok]
      constructor
      · rintro ⟨l, c1, hl, hn⟩
        obtain ⟨rest, hin, hlen, rfl⟩ := readExact_ok.mp hl
        obtain ⟨rfl, rfl⟩ := session_pure_ok.mp hn
        obtain ⟨b, rfl⟩ := List.length_eq_one_iff.mp hlen
        exact .inr (.inl ⟨rfl, b, rest, hin, rfl, rfl⟩)
      · rintro (⟨h, -⟩ | ⟨-, b, rest, hin, rfl, rfl⟩ | ⟨h, -⟩)
        · cases h
        · exact ⟨[b], _, readExact_ok.mpr ⟨rest, hin, rfl, rfl⟩, rfl⟩
        · cases h
    · rw [if_neg h3]
      by_cases h4 : atyp = 4
      · subst h4
        rw [if_pos rfl, session_pure_ok]
        constructor
        · rintro ⟨rfl, rfl⟩
          exact .inr (.inr ⟨rfl, rfl, rfl⟩)
        · rintro (⟨h, -⟩ | ⟨h, -⟩ | ⟨-, rfl, rfl⟩)
          · cases h
          · cases h
          · exact ⟨rfl, rfl⟩
      · rw [if_neg h4, session_throw_ok]
        tauto

/-- A bound address of the announced length is an address and a port. -/
lemma exists_split_port {bs : Bytes} {n : Nat} (h : bs.length = n + 2) :
    ∃ addr port, bs = addr ++ be16Bytes port ∧ addr.length = n := by
  have hport : (bs.drop n).length = 2 := by
    rw [List.length_drop]
    omega
  obtain ⟨port, hport⟩ := exists_be16Bytes hport
  refine ⟨bs.take n, port, ?_, List.length_take_of_le (by omega)⟩
  rw [← hport, List.take_append_drop]

/-- Reading the address by its announced length takes a whole address, of any of the types. -/
lemma boundLength_read (c c' : Connection) {atyp : UInt8} {rest : Bytes}
    (hin : c.incoming = atyp :: rest) :
    (∃ n c1, boundLength atyp { c with incoming := rest } = .ok n c1 ∧
      ∃ bs, readExact "socks5 bnd" n c1 = .ok bs c') ↔
    ∃ bound port rest', Target.Fits bound ∧
      c.incoming = bound.bytes ++ (be16Bytes port ++ rest') ∧
      c' = { c with incoming := rest' } := by
  simp only [boundLength_ok, readExact_ok]
  constructor
  · rintro ⟨n, c1, (⟨rfl, rfl, rfl⟩ | ⟨rfl, l, rest1, hl, rfl, rfl⟩ | ⟨rfl, rfl, rfl⟩),
      bs, rest', hbs, hlen, rfl⟩
    · obtain ⟨addr, port, rfl, haddr⟩ := exists_split_port (n := 4) hlen
      dsimp only at hbs
      exact ⟨.ip4 addr, port, rest', haddr, by simp [hin, hbs, Target.bytes], rfl⟩
    · obtain ⟨addr, port, rfl, haddr⟩ := exists_split_port hlen
      dsimp only at hbs hl
      have hl256 : l.toNat < 256 := l.toNat_lt
      refine ⟨.domain addr, port, rest', ?_, ?_, rfl⟩
      · change addr.length ≤ 255
        omega
      · simp [hin, hl, hbs, Target.bytes, haddr]
    · obtain ⟨addr, port, rfl, haddr⟩ := exists_split_port (n := 16) hlen
      dsimp only at hbs
      exact ⟨.ip6 addr, port, rest', haddr, by simp [hin, hbs, Target.bytes], rfl⟩
  · rintro ⟨bound, port, rest', hfits, hbytes, rfl⟩
    rw [hin] at hbytes
    cases bound with
    | ip4 addr =>
      obtain ⟨rfl, rfl⟩ := List.cons.inj hbytes
      refine ⟨6, _, .inl ⟨rfl, rfl, rfl⟩, addr ++ be16Bytes port, rest', by simp, ?_, rfl⟩
      rw [List.length_append, show addr.length = 4 from hfits]
      rfl
    | domain name =>
      obtain ⟨rfl, rfl⟩ := List.cons.inj hbytes
      refine ⟨_, _, .inr (.inl ⟨rfl, _, _, rfl, rfl, rfl⟩), name ++ be16Bytes port, rest',
        by simp, ?_, rfl⟩
      rw [List.length_append, toNat_length hfits]
      rfl
    | ip6 addr =>
      obtain ⟨rfl, rfl⟩ := List.cons.inj hbytes
      refine ⟨18, _, .inr (.inr ⟨rfl, rfl, rfl⟩), addr ++ be16Bytes port, rest', by simp, ?_, rfl⟩
      rw [List.length_append, show addr.length = 16 from hfits]
      rfl

lemma readReply_ok :
    readReply c = .ok () c' ↔
      ∃ rsv bound port rest, Target.Fits bound ∧
        c.incoming = 5 :: 0 :: rsv :: (bound.bytes ++ (be16Bytes port ++ rest)) ∧
        c' = { c with incoming := rest } := by
  unfold readReply
  simp only [session_bind_ok, ensure_ok, session_pure_ok]
  constructor
  · rintro ⟨head, c1, hhead, -, _, ⟨hv, rfl⟩, -, _, ⟨hr, rfl⟩, n, c2, hn, bs, c3, hbs, -, rfl⟩
    obtain ⟨rest, hin, hlen, rfl⟩ := readExact_ok.mp hhead
    obtain ⟨v, r, rsv, atyp, rfl⟩ : ∃ v r rsv atyp, head = [v, r, rsv, atyp] := by
      match head, hlen with
      | [v, r, rsv, atyp], _ => exact ⟨v, r, rsv, atyp, rfl⟩
    obtain rfl : v = 5 := hv
    obtain rfl : r = 0 := hr
    have hread := (boundLength_read { c with incoming := atyp :: rest } c3 rfl).mp
      ⟨n, c2, hn, bs, hbs⟩
    obtain ⟨bound, port, rest', hfits, hbytes, rfl⟩ := hread
    exact ⟨rsv, bound, port, rest', hfits, by rw [hin, ← hbytes]; rfl, rfl⟩
  · rintro ⟨rsv, bound, port, rest, hfits, hin, rfl⟩
    obtain ⟨atyp, tail, hbytes⟩ : ∃ atyp tail, bound.bytes = atyp :: tail := by
      cases bound <;> exact ⟨_, _, rfl⟩
    have hsplit : bound.bytes ++ (be16Bytes port ++ rest) =
        atyp :: (tail ++ (be16Bytes port ++ rest)) := by
      rw [hbytes]
      rfl
    have hread := (boundLength_read
      { c with incoming := bound.bytes ++ (be16Bytes port ++ rest) }
      { c with incoming := rest } hsplit).mpr
      ⟨bound, port, rest, hfits, rfl, rfl⟩
    obtain ⟨n, c1, hn, bs, hbs⟩ := hread
    refine ⟨[5, 0, rsv, atyp], _, readExact_ok.mpr
      ⟨tail ++ (be16Bytes port ++ rest), ?_, rfl, rfl⟩, (), _, ⟨rfl, rfl⟩, (), _, ⟨rfl, rfl⟩,
      n, c1, hn, bs, _, hbs, trivial, rfl⟩
    rw [hin, hbytes]
    rfl

/-! ### The handshake -/

/-- Both parts are given and fit their length fields. -/
def HasCredentials (username password : Option String) : Prop :=
  ∃ u p, username = some u ∧ password = some p ∧ (utf8 u).length ≤ 255 ∧ (utf8 p).length ≤ 255

lemma authenticate_ok (hwrite : ∀ k, c.writeError k = none) :
    authenticate username password c = .ok () c' ↔
      ∃ u p message rest, username = some u ∧ password = some p ∧ authMessage u p = .ok message ∧
        c.incoming = 1 :: 0 :: rest ∧
        c' = { c with incoming := rest, outgoing := c.outgoing ++ [message] } := by
  unfold authenticate
  cases username with
  | none => simp [session_throw_ok]
  | some u =>
    cases password with
    | none => simp [session_throw_ok]
    | some p =>
      simp only [session_bind_ok, session_ofExcept_ok, writeAll_ok, readExact_ok, ensure_ok]
      constructor
      · rintro ⟨message, _, ⟨hm, rfl⟩, -, _, ⟨-, rfl⟩, rep, _, ⟨rest, hin, -, rfl⟩, rfl, rfl⟩
        exact ⟨u, p, message, rest, rfl, rfl, hm, hin, rfl⟩
      · rintro ⟨_, _, message, rest, ⟨⟩, ⟨⟩, hm, hin, rfl⟩
        exact ⟨message, _, ⟨hm, rfl⟩, (), _, ⟨hwrite _, rfl⟩, [1, 0], _, ⟨rest, hin, rfl, rfl⟩, rfl,
          rfl⟩

lemma negotiate_ok {method : UInt8} :
    negotiate method username password c = .ok () c' ↔
      method = 0 ∧ c' = c ∨ method = 2 ∧ authenticate username password c = .ok () c' := by
  unfold negotiate
  by_cases h0 : method = 0
  · subst h0
    rw [if_pos rfl, session_pure_ok]
    simp [eq_comm]
  · rw [if_neg h0]
    by_cases h2 : method = 2
    · subst h2
      rw [if_pos rfl]
      simp
    · rw [if_neg h2]
      by_cases hff : method = 0xFF
      · rw [if_pos hff, session_throw_ok]
        tauto
      · rw [if_neg hff, session_throw_ok]
        tauto

/-- The steps of a handshake that goes through. -/
lemma establishV5_ok :
    establishV5 username password host port c = .ok () c' ↔
      ∃ method rest c1 message, c.writeError c.outgoing.length = none ∧
        c.incoming = 5 :: method :: rest ∧
        negotiate method username password
          { c with incoming := rest, outgoing := c.outgoing ++ [[5, 1, 0]] } = .ok () c1 ∧
        connectMessage host port = .ok message ∧ c1.writeError c1.outgoing.length = none ∧
        readReply { c1 with outgoing := c1.outgoing ++ [message] } = .ok () c' := by
  unfold establishV5
  simp only [session_bind_ok, writeAll_ok, readExact_ok, ensure_ok, session_ofExcept_ok]
  constructor
  · rintro ⟨-, _, ⟨hw, rfl⟩, choice, _, ⟨rest, hin, hlen, rfl⟩, -, _, ⟨hv, rfl⟩, _, c1, hneg,
      message, _, ⟨hm, rfl⟩, -, _, ⟨hw', rfl⟩, hreply⟩
    obtain ⟨v, method, rfl⟩ := List.length_eq_two.mp hlen
    obtain rfl : v = 5 := hv
    exact ⟨method, rest, c1, message, hw, hin, hneg, hm, hw', hreply⟩
  · rintro ⟨method, rest, c1, message, hw, hin, hneg, hm, hw', hreply⟩
    exact ⟨(), _, ⟨hw, rfl⟩, [5, method], _, ⟨rest, hin, rfl, rfl⟩, (), _, ⟨rfl, rfl⟩, (), c1, hneg,
      message, c1, ⟨hm, rfl⟩, (), _, ⟨hw', rfl⟩, hreply⟩

/-- Success takes exactly the handshake from the stream. -/
lemma accepts_iff (stream rest : Bytes) :
    (∃ c', establishV5 username password host port (Connection.toServer stream) = .ok () c' ∧
        c'.incoming = rest) ↔
      (askedTarget host).isSome ∧
        ∃ handshake, Granted (HasCredentials username password) handshake ∧
          stream = handshake ++ rest := by
  simp only [establishV5_ok, negotiate_ok, connectMessage_ok, readReply_ok]
  constructor
  · rintro ⟨_, ⟨method, rest1, c1, message, -, hin, hneg, ⟨target, htarget, rfl⟩, -, rsv, bound,
      bport, rest', hfits, hreply, rfl⟩, rfl⟩
    refine ⟨by rw [htarget]; rfl, ?_⟩
    dsimp only [Connection.toServer] at hin
    rcases hneg with ⟨rfl, rfl⟩ | ⟨rfl, hauth⟩
    · refine ⟨_, ⟨[5, 0], rsv, bound, bport, .inl rfl, hfits, rfl⟩, ?_⟩
      dsimp only at hreply
      simp [hin, hreply]
    · obtain ⟨u, p, m, rest2, hu, hp, hm, hin2, rfl⟩ := (authenticate_ok (fun _ => rfl)).mp hauth
      have hcred := exists_authMessage.mp ⟨m, hm⟩
      refine ⟨_, ⟨[5, 2, 1, 0], rsv, bound, bport, .inr ⟨⟨u, p, hu, hp, hcred⟩, rfl⟩, hfits, rfl⟩,
        ?_⟩
      dsimp only at hin2 hreply
      simp [hin, hin2, hreply]
  · rintro ⟨htarget, handshake, ⟨choice, rsv, bound, bport, hchoice, hfits, rfl⟩, rfl⟩
    obtain ⟨target, htarget⟩ := Option.isSome_iff_exists.mp htarget
    rcases hchoice with rfl | ⟨⟨u, p, hu, hp, hlen⟩, rfl⟩
    · refine ⟨_, ⟨0, _, _, _, rfl, rfl, .inl ⟨rfl, rfl⟩, ⟨target, htarget, rfl⟩, rfl, rsv, bound,
        bport, rest, hfits, ?_, rfl⟩, rfl⟩
      simp
    · obtain ⟨m, hm⟩ := exists_authMessage.mpr hlen
      refine ⟨_, ⟨2, _, _, _, rfl, rfl, .inr ⟨rfl, (authenticate_ok (fun _ => rfl)).mpr
        ⟨u, p, m, _, hu, hp, hm, rfl, rfl⟩⟩, ⟨target, htarget, rfl⟩, rfl, rsv, bound, bport, rest,
        hfits, ?_, rfl⟩, rfl⟩
      simp

/-! ### Everything that is written -/

/-- However the session ends, what it has written satisfies `R`. -/
def Emits {α : Type} (x : Session α) (R : List Bytes → Prop) : Prop :=
  ∀ c, ∃ sent, (after x c).outgoing = c.outgoing ++ sent ∧ R sent

/-- At most one message, which satisfies `P`. -/
def AtMostOne (P : Bytes → Prop) (sent : List Bytes) : Prop :=
  ∃ message : Option Bytes, sent = message.toList ∧ ∀ m ∈ message, P m

def InTurn (R S : List Bytes → Prop) (sent : List Bytes) : Prop :=
  ∃ first second, sent = first ++ second ∧ R first ∧ S second

section
variable {α β : Type} {x : Session α} {f : α → Session β} {R S : List Bytes → Prop}
  {P : Bytes → Prop}

lemma atMostOne_nil : AtMostOne P [] := ⟨none, rfl, by simp⟩

lemma Silent.emits (hx : Silent x) : Emits x (AtMostOne P) := fun c =>
  ⟨[], by rw [hx c, List.append_nil], atMostOne_nil⟩

lemma Emits.bind (hx : Emits x R) (hf : ∀ a, Emits (f a) S) (hS : S []) :
    Emits (x >>= f) (InTurn R S) := by
  intro c
  obtain ⟨first, hfirst, hR⟩ := hx c
  rw [after_bind]
  unfold after at hfirst
  cases h : x c with
  | ok a c' =>
    rw [h] at hfirst
    obtain ⟨second, hsecond, hS⟩ := hf a c'
    refine ⟨first ++ second, ?_, first, second, rfl, hR, hS⟩
    rw [hsecond, hfirst, List.append_assoc]
  | error e c' =>
    rw [h] at hfirst
    exact ⟨first, hfirst, first, [], by simp, hR, hS⟩

lemma Silent.bind_emits (hx : Silent x) (hf : ∀ a, Emits (f a) R) (hR : R []) :
    Emits (x >>= f) R := by
  have hx' : Emits x (fun sent => sent = []) := fun c => ⟨[], by rw [hx c, List.append_nil], rfl⟩
  intro c
  obtain ⟨_, hsent, _, second, rfl, rfl, hS⟩ := hx'.bind hf hR c
  exact ⟨second, hsent, hS⟩

lemma writeAll_emits (step : String) {message : Bytes} (hmessage : P message) :
    Emits (writeAll step message) (AtMostOne P) := by
  intro c
  unfold after writeAll
  cases c.writeError c.outgoing.length with
  | some e => exact ⟨[], by simp, atMostOne_nil⟩
  | none => exact ⟨[message], rfl, some message, rfl, by simpa using hmessage⟩

/-- A message that may be refused, and the answer to it. -/
lemma request_emits {step : String} {r : Except String Bytes} {f : Unit → Session β}
    (hmessage : ∀ m, r = .ok m → P m) (hf : ∀ u, Silent (f u)) :
    Emits (ofExcept r >>= fun m => writeAll step m >>= f) (AtMostOne P) := by
  cases r with
  | error e => exact fun c => ⟨[], by rw [List.append_nil]; rfl, atMostOne_nil⟩
  | ok m =>
    have hwrite := (writeAll_emits step (hmessage m rfl)).bind (S := fun s => s = [])
      (fun u c => ⟨[], by rw [hf u c, List.append_nil], rfl⟩) rfl
    intro c
    obtain ⟨_, hsent, first, _, rfl, hfirst, rfl⟩ := hwrite c
    rw [List.append_nil] at hsent
    exact ⟨first, hsent, hfirst⟩

end

/-- The message gives the server this user name and this password. -/
def GivesCredentials (username password : Option String) (message : Bytes) : Prop :=
  ∃ u p, username = some u ∧ password = some p ∧
    decode credentials message = some (utf8 u, utf8 p)

/-- The message asks for a connection to this target. -/
def AsksFor (host : String) (port : UInt16) (message : Bytes) : Prop :=
  ∃ target, askedTarget host = some target ∧ decode request5 message = some ⟨1, target, port⟩

lemma authenticate_emits :
    Emits (authenticate username password) (AtMostOne (GivesCredentials username password)) := by
  unfold authenticate
  cases username with
  | none => exact (silent_throw _).emits
  | some u =>
    cases password with
    | none => exact (silent_throw _).emits
    | some p =>
      exact request_emits (fun m hm => ⟨u, p, rfl, rfl, authMessage_ok hm⟩)
        (fun _ => (silent_readExact _ _).bind (fun _ => silent_ensure _ _))

lemma negotiate_emits (method : UInt8) :
    Emits (negotiate method username password)
      (AtMostOne (GivesCredentials username password)) := by
  unfold negotiate
  split
  · exact (silent_pure ()).emits
  · split
    · exact authenticate_emits
    · split
      · exact (silent_throw _).emits
      · exact (silent_throw _).emits

lemma silent_boundLength (atyp : UInt8) : Silent (boundLength atyp) := by
  unfold boundLength
  split
  · exact silent_pure _
  · split
    · exact (silent_readExact _ _).bind (fun _ => silent_pure _)
    · split
      · exact silent_pure _
      · exact silent_throw _

lemma silent_readReply : Silent readReply :=
  (silent_readExact _ _).bind fun _ => (silent_ensure _ _).bind fun _ =>
    (silent_ensure _ _).bind fun _ => (silent_boundLength _).bind fun _ =>
      (silent_readExact _ _).bind fun _ => silent_pure ()

/-- A greeting, credentials where they are asked for, and a request. -/
lemma establishV5_emits (username password : Option String) (host : String) (port : UInt16) :
    Emits (establishV5 username password host port)
      (InTurn (AtMostOne (· = [5, 1, 0])) (InTurn
        (AtMostOne (GivesCredentials username password)) (AtMostOne (AsksFor host port)))) := by
  have hnil : InTurn (AtMostOne (GivesCredentials username password))
      (AtMostOne (AsksFor host port)) [] := ⟨[], [], rfl, atMostOne_nil, atMostOne_nil⟩
  have hconnect : Emits (ofExcept (connectMessage host port) >>=
      fun req => writeAll "socks5 connect" req >>= fun _ => readReply)
      (AtMostOne (AsksFor host port)) :=
    request_emits (fun m hm => decode_connectMessage hm) (fun _ => silent_readReply)
  have hgreet : Emits (writeAll "socks5 greet" [5, 1, 0]) (AtMostOne (· = [5, 1, 0])) :=
    writeAll_emits _ rfl
  refine hgreet.bind (fun _ => ?_) hnil
  refine (silent_readExact _ _).bind_emits (fun choice => ?_) hnil
  refine (silent_ensure _ _).bind_emits (fun _ => ?_) hnil
  exact (negotiate_emits _).bind (fun _ => hconnect) atMostOne_nil

/-- What a handshake that goes through has written: the greeting, the credentials exactly where the
server chose them, and the request. -/
def WrittenInFull (username password : Option String) (host : String) (port : UInt16)
    (stream : Bytes) (sent : List Bytes) : Prop :=
  ∃ (method : UInt8) (auth : Option Bytes) (connect : Bytes), [5, method] <+: stream ∧
    sent = [5, 1, 0] :: (auth.toList ++ [connect]) ∧ (auth.isSome ↔ method = 2) ∧
    (∀ m ∈ auth, GivesCredentials username password m) ∧ AsksFor host port connect

lemma writtenInFull_of_ok {stream : Bytes}
    (h : establishV5 username password host port (Connection.toServer stream) = .ok () c') :
    WrittenInFull username password host port stream c'.outgoing := by
  obtain ⟨method, rest, c1, connect, -, hin, hneg, hconnect, -, hreply⟩ := establishV5_ok.mp h
  obtain ⟨rsv, bound, bport, rest', -, -, rfl⟩ := readReply_ok.mp hreply
  have hprefix : [5, method] <+: stream := ⟨rest, hin.symm⟩
  have hasks := decode_connectMessage hconnect
  rcases negotiate_ok.mp hneg with ⟨rfl, rfl⟩ | ⟨rfl, hauth⟩
  · exact ⟨0, none, connect, hprefix, rfl, by decide, by simp, hasks⟩
  · obtain ⟨u, p, auth, rest2, hu, hp, hm, -, rfl⟩ := (authenticate_ok (fun _ => rfl)).mp hauth
    have hgives : GivesCredentials username password auth := ⟨u, p, hu, hp, authMessage_ok hm⟩
    exact ⟨2, some auth, connect, hprefix, rfl, by simp, by simpa using hgives, hasks⟩

/-- Whatever the server says, each message that `establish_v5` writes is read back as what was
asked for. It succeeds on exactly the streams that begin with a complete handshake, of which it
leaves the rest unread, and then it has written every message of the handshake once. -/
theorem socks5_handshake_exact (username password : Option String) (host : String) (port : UInt16)
    (stream : Bytes) :
    (∃ greeting auth connect : Option Bytes,
      (after (establishV5 username password host port) (Connection.toServer stream)).outgoing =
        greeting.toList ++ (auth.toList ++ connect.toList) ∧
      (∀ m ∈ greeting, m = [5, 1, 0]) ∧
      (∀ m ∈ auth, GivesCredentials username password m) ∧
      ∀ m ∈ connect, AsksFor host port m) ∧
    (∀ rest,
      (∃ c', establishV5 username password host port (Connection.toServer stream) = .ok () c' ∧
        c'.incoming = rest) ↔
      (askedTarget host).isSome ∧
        ∃ handshake, Granted (HasCredentials username password) handshake ∧
          stream = handshake ++ rest) ∧
    ∀ c', establishV5 username password host port (Connection.toServer stream) = .ok () c' →
      WrittenInFull username password host port stream c'.outgoing := by
  refine ⟨?_, accepts_iff stream, fun c' => writtenInFull_of_ok⟩
  obtain ⟨sent, hsent, _, _, rfl, ⟨greeting, rfl, hgreeting⟩, _, _, rfl, ⟨auth, rfl, hauth⟩,
    connect, rfl, hconnect⟩ := establishV5_emits username password host port
      (Connection.toServer stream)
  exact ⟨greeting, auth, connect, hsent, hgreeting, hauth, hconnect⟩

end IPProxyPool
