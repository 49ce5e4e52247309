import IPProxyPool.Lib.Chunked
import IPProxyPool.Lib.Loop

/-!
# The chunked bodies of the forward adapter

`_read_chunked_body` of `ipp_forward.py` over a finite stream, and what its handler makes of the
exceptions. The two loops of the source are one loop here, which reads a line in every round.
-/

namespace IPProxyPool
open Wire PyBytes

inductive PyException where
  | valueError | overflowError
  deriving DecidableEq

inductive ChunkError where
  | truncatedSizeLine
  | badChunkSize (s : Bytes)
  | overCap (maxBytes : Nat)
  | truncatedData
  | missingCrlf
  deriving DecidableEq

namespace ChunkError

def exception : ChunkError → PyException
  | overCap _ => .overflowError
  | _ => .valueError

/-- `repr` is Python's. -/
def text (repr : Bytes → String) : ChunkError → String
  | truncatedSizeLine => "truncated chunk-size line"
  | badChunkSize s => "bad chunk-size " ++ repr s
  | overCap maxBytes => "body over " ++ toString maxBytes ++ " bytes cap"
  | truncatedData => "truncated chunk data"
  | missingCrlf => "missing CRLF after chunk"

/-- The status and the body of the answer that `_handle` gives. -/
def answer (repr : Bytes → String) (maxBody : Nat) (e : ChunkError) : Nat × String :=
  match e.exception with
  | .overflowError => (413, "body over " ++ toString maxBody ++ " bytes cap")
  | .valueError =>
    (501, "chunked decode failed (" ++ e.text repr ++ "); resend with Content-Length")

end ChunkError

/-- Besides the variables of the source, the size tokens that were acted on and the number of bytes
that were read as chunk data. -/
structure ChunkReader where
  rfile : Bytes
  inTrailers : Bool
  chunks : List Bytes
  total : Int
  tokens : List Bytes
  taken : Nat

namespace ChunkReader

def new (rfile : Bytes) : ChunkReader := ⟨rfile, false, [], 0, [], 0⟩

/-- How the function is left, and the stream behind it. -/
abbrev Outcome := Except ChunkError Bytes × ChunkReader

def lineLimit : Nat := 8192

/-- `s` in the source. -/
def sizeToken (line : Bytes) : Bytes := strip ((strip line).takeWhile (· ≠ Chunked.semicolon))

/-- The reading of a chunk whose size is not zero. -/
def readChunk (maxBytes : Nat) (size : Int) (r : ChunkReader) : ChunkReader ⊕ Outcome :=
  if r.total + size > maxBytes then .inr (.error (.overCap maxBytes), r)
  else
    let p := read size r.rfile
    let r := { r with rfile := p.2, taken := r.taken + p.1.length }
    if (p.1.length : Int) < size then .inr (.error .truncatedData, r)
    else
      let q := read 2 r.rfile
      let r := { r with rfile := q.2, chunks := r.chunks ++ [p.1], total := r.total + size }
      if q.1 = crlf then .inl r else .inr (.error .missingCrlf, r)

/-- A round of the loop over the trailers. -/
def trailerRound (r : ChunkReader) : ChunkReader ⊕ Outcome :=
  let p := readline lineLimit r.rfile
  let r := { r with rfile := p.2 }
  if p.1 = [] ∨ p.1 = crlf ∨ p.1 = [lf] then .inr (.ok r.chunks.flatten, r) else .inl r

/-- A round of the loop over the chunks; a size of zero goes on with the trailers. -/
def chunkRound (maxBytes : Nat) (r : ChunkReader) : ChunkReader ⊕ Outcome :=
  let p := readline lineLimit r.rfile
  let r := { r with rfile := p.2 }
  if p.1 = [] then .inr (.error .truncatedSizeLine, r)
  else
    let s := sizeToken p.1
    if s = [] then .inl r
    else
      match int16 s with
      | none => .inr (.error (.badChunkSize s), r)
      | some size =>
        let r := { r with tokens := r.tokens ++ [s] }
        if size = 0 then .inl { r with inTrailers := true } else readChunk maxBytes size r

def round (maxBytes : Nat) (r : ChunkReader) : ChunkReader ⊕ Outcome :=
  if r.inTrailers then trailerRound r else chunkRound maxBytes r

end ChunkReader

/-- `_read_chunked_body`, if it is left within so many rounds. -/
def readChunkedBody (rounds : Nat) (rfile : Bytes) (maxBytes : Nat) : Option ChunkReader.Outcome :=
  Loop.iterate (ChunkReader.round maxBytes) rounds (.new rfile)

end IPProxyPool
