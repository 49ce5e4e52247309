import IPProxyPool.Lib.PyBytes

/-!
# The chunked transfer coding

The encodings of a body in chunks as HTTP/1.1 has them, with lines up to a limit. They are taken
widely: an extension is any text after a semicolon, and a trailer any line that is not empty.
-/

namespace Chunked
open Wire PyBytes

/-- `;` -/
def semicolon : UInt8 := 59

def IsExtension (ext : Bytes) : Prop := lf ∉ ext ∧ ∀ c ∈ ext.head?, c = semicolon

/-- The size and the extension of a chunk, as they stand on its line. -/
structure SizeLine (limit : Nat) where
  size : Bytes
  ext : Bytes
  isHexNumber : isHexNumber size = true
  isExtension : IsExtension ext
  short : (size ++ ext ++ crlf).length ≤ limit

structure Chunk (limit : Nat) extends SizeLine limit where
  data : Bytes
  data_ne_nil : data ≠ []
  size_eq : hexNumber size = data.length

structure Trailer (limit : Nat) where
  text : Bytes
  ne_nil : text ≠ []
  lf_notMem : lf ∉ text
  short : (text ++ crlf).length ≤ limit

structure Encoding (limit : Nat) where
  chunks : List (Chunk limit)
  last : SizeLine limit
  last_zero : ∀ c ∈ last.size, c = 48
  trailers : List (Trailer limit)

variable {limit : Nat}

def SizeLine.bytes (l : SizeLine limit) : Bytes := l.size ++ l.ext ++ crlf

def Chunk.bytes (c : Chunk limit) : Bytes := c.toSizeLine.bytes ++ c.data ++ crlf

def Trailer.bytes (t : Trailer limit) : Bytes := t.text ++ crlf

def Encoding.body (e : Encoding limit) : Bytes := e.chunks.flatMap Chunk.data

def Encoding.bytes (e : Encoding limit) : Bytes :=
  e.chunks.flatMap Chunk.bytes ++ e.last.bytes ++ e.trailers.flatMap Trailer.bytes ++ crlf

lemma hexNumber_eq_zero {s : Bytes} (h : ∀ c ∈ s, c = 48) : hexNumber s = 0 := by
  have hfold : ∀ n, s.foldl (fun n c => 16 * n + (hexValue c).getD 0) n = 16 ^ s.length * n := by
    induction s with
    | nil => simp
    | cons c s ih =>
      intro n
      have hc : hexValue c = some 0 := by
        rw [h c List.mem_cons_self]
        rfl
      rw [List.foldl_cons, ih (fun d hd => h d (List.mem_cons_of_mem c hd)), hc, List.length_cons,
        pow_succ, Option.getD_some, add_zero, mul_assoc]
  exact (hfold 0).trans (mul_zero _)

lemma hex_ne {c d : UInt8} (hd : isHexDigit d = false) (hc : isHexDigit c = true) : c ≠ d := by
  rintro rfl
  exact Bool.false_ne_true (hd.symm.trans hc)

lemma SizeLine.fullLine (l : SizeLine limit) : FullLine limit l.bytes := by
  refine fullLine_crlf ?_ l.short
  rw [List.mem_append, not_or]
  exact ⟨fun hmem => hex_ne (by decide) ((isHexNumber_iff.mp l.isHexNumber).2 lf hmem) rfl,
    l.isExtension.1⟩

lemma Trailer.fullLine (t : Trailer limit) : FullLine limit t.bytes :=
  fullLine_crlf t.lf_notMem t.short

lemma takeWhile_extension {ext tail : Bytes} (hext : IsExtension ext) (hne : ext ≠ [])
    (htail : tail <+: ext ++ crlf) : tail.takeWhile (· ≠ semicolon) = [] := by
  cases tail with
  | nil => rfl
  | cons d tail =>
    obtain ⟨c, ext, rfl⟩ := List.exists_cons_of_ne_nil hne
    obtain rfl : c = semicolon := hext.2 c rfl
    obtain rfl : d = semicolon := (List.cons_prefix_cons.mp htail).1
    rfl

/-- What is before the extension, without blanks. -/
lemma SizeLine.strip_takeWhile (l : SizeLine limit) :
    strip ((strip l.bytes).takeWhile (· ≠ semicolon)) = l.size := by
  obtain ⟨hne, hhex⟩ := isHexNumber_iff.mp l.isHexNumber
  have hspace : ∀ c ∈ l.size, isSpace c = false := fun c hc => not_isSpace_of_hex (hhex c hc)
  have hsemi : ∀ c ∈ l.size, decide (c ≠ semicolon) = true := fun c hc =>
    decide_eq_true (hex_ne (by decide) (hhex c hc))
  have hrest : ((l.ext ++ crlf).rdropWhile isSpace).takeWhile (· ≠ semicolon) = [] := by
    by_cases hext : l.ext = []
    · rw [hext]
      decide
    · exact takeWhile_extension l.isExtension hext (List.rdropWhile_prefix _ _)
  have hsize := strip_append hne hspace []
  rw [List.append_nil, List.rdropWhile_nil, List.append_nil] at hsize
  rw [SizeLine.bytes, List.append_assoc, strip_append hne hspace,
    List.takeWhile_append_of_pos hsemi, hrest, List.append_nil, hsize]

end Chunked
