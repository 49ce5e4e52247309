import IPProxyPool.Lib.Scanner
import IPProxyPool.Model.FreeSource

/-!
# The HTML scanner

`HtmlSource::extract` and `match_ip_port` on the bytes of a page. Reads and slices fail outside
the bytes and the loops run on fuel.
-/

namespace IPProxyPool
open RustText RustNet Scanner

namespace HtmlSource

def isAsciiDigit (c : UInt8) : Bool := '0'.toUInt8 ≤ c && c ≤ '9'.toUInt8

def isBlank (c : UInt8) : Bool :=
  c == ' '.toUInt8 || c == '\t'.toUInt8 || c == '\r'.toUInt8 || c == '\n'.toUInt8

/-- `from_utf8` of bytes that are ASCII, and `none` of others. -/
def asciiText (w : List UInt8) : Option String :=
  if w.all (fun c => decide (c < 128)) then
    some (String.ofList (w.map (fun c => Char.ofNat c.toNat)))
  else none

/-- `from_utf8_lossy`, where each byte that is not ASCII is read as one replacement character. The
scanner looks for words of ASCII letters only. -/
def lossyText (w : List UInt8) : String :=
  String.ofList (w.map (fun c => if c < 128 then Char.ofNat c.toNat else Char.ofNat 0xFFFD))

/-- Turn `k` of the loop over the octets: the octet at `pos` and where the next one begins. -/
def readOctet (b : List UInt8) (k pos : Nat) : Except Fault (Option (Fin 256 × Nat)) := do
  let stop ← skipWhile isAsciiDigit b (b.length + 1) pos
  if pos = stop then .ok none
  else
    let digits ← slice b pos stop
    match (asciiText digits).bind (parseUnsigned (2 ^ 32)) with
    | none => .ok none
    | some octet =>
      if h : octet < 256 then
        if k < 3 then
          if stop < b.length then
            let c ← readAt b stop
            if c = '.'.toUInt8 then .ok (some (⟨octet, h⟩, stop + 1)) else .ok none
          else .ok none
        else .ok (some (⟨octet, h⟩, stop))
      else .ok none

/-- The loop over blanks and tags: where the number begins. -/
def portStart (b : List UInt8) : Nat → Nat → Except Fault (Option Nat)
  | 0, _ => .error .outOfFuel
  | fuel + 1, p => do
    let p ← skipWhile (fun c => isBlank c || c == '>'.toUInt8) b (b.length + 1) p
    if p < b.length then
      let c ← readAt b p
      if isAsciiDigit c then .ok (some p)
      else if c = '<'.toUInt8 then
        let p ← skipWhile (fun c => c != '>'.toUInt8) b (b.length + 1) p
        if p < b.length then portStart b fuel (p + 1) else .ok none
      else .ok none
    else .ok none

/-- The loop over the octets: the address and where it ends. -/
def matchIp (b : List UInt8) : Except Fault (Option (Ipv4Addr × Nat)) := do
  let some (o0, pos) ← readOctet b 0 0 | .ok none
  let some (o1, pos) ← readOctet b 1 pos | .ok none
  let some (o2, pos) ← readOctet b 2 pos | .ok none
  let some (o3, pos) ← readOctet b 3 pos | .ok none
  .ok (some (⟨o0, o1, o2, o3⟩, pos))

/-- `pos < b.len() && b[pos] == c` -/
def byteIs (c : UInt8) (b : List UInt8) (pos : Nat) : Except Fault Bool :=
  if pos < b.length then (readAt b pos).map (· == c) else .ok false

/-- The digits of the port at `start`, and where they end. -/
def readPort (b : List UInt8) (start : Nat) : Except Fault (Option (UInt16 × Nat)) := do
  let stop ← skipWhile isAsciiDigit b (b.length + 1) start
  if start = stop then .ok none
  else
    let digits ← slice b start stop
    match (asciiText digits).bind (parseUnsigned (2 ^ 16)) with
    | none => .ok none
    | some port => if port = 0 then .ok none else .ok (some (UInt16.ofNat port, stop))

/-- The port that belongs to an address which ends at `pos`. -/
def matchPort (b : List UInt8) (pos : Nat) : Except Fault (Option (UInt16 × Nat)) := do
  let colon ← byteIs ':'.toUInt8 b pos
  if colon then readPort b (pos + 1)
  else
    let some start ← portStart b (b.length + 1) pos | .ok none
    readPort b start

def matchIpPort (b : List UInt8) : Except Fault (Option (String × UInt16 × Nat)) := do
  let some (addr, pos) ← matchIp b | .ok none
  let some (port, consumed) ← matchPort b pos | .ok none
  .ok (some (addr.text, port, consumed))

/-- A digit or a dot stands before position `i`. -/
def insideToken (bytes : List UInt8) (i : Nat) : Except Fault Bool :=
  if 0 < i then
    (readAt bytes (i - 1)).map (fun prev => isAsciiDigit prev || prev == '.'.toUInt8)
  else .ok false

/-- The loop of `extract` from position `i` on. -/
def extractFrom (source : String) (bytes : List UInt8) (defaultProto : FreeProto) :
    Nat → Nat → List RawNode → Except Fault (List RawNode)
  | 0, _, _ => .error .outOfFuel
  | fuel + 1, i, out =>
    if i < bytes.length then do
      let c ← readAt bytes i
      if !isAsciiDigit c then extractFrom source bytes defaultProto fuel (i + 1) out
      else
        if ← insideToken bytes i then extractFrom source bytes defaultProto fuel (i + 1) out
        else
          let rest ← slice bytes i bytes.length
          match ← matchIpPort rest with
          | some (ip, port, consumed) =>
            if !isRoutableIp ip then
              extractFrom source bytes defaultProto fuel (i + consumed) out
            else
              let window ← slice bytes (i - 200) i
              let node :=
                { ip := ip
                  port := port
                  proto := sniffProto (toAsciiLowercase (lossyText window)) defaultProto
                  country := none
                  source := source }
              extractFrom source bytes defaultProto fuel (i + consumed) (out ++ [node])
          | none => extractFrom source bytes defaultProto fuel (i + 1) out
    else .ok out

def extract (source : String) (bytes : List UInt8) (defaultProto : FreeProto) :
    Except Fault (List RawNode) :=
  extractFrom source bytes defaultProto (bytes.length + 1) 0 []

end HtmlSource

end IPProxyPool
