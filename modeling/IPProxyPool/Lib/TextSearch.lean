import IPProxyPool.Lib.Text

/-!
# Searching and splitting text

Substrings, lines and the first word of a text, as `str` of the Rust standard library documents
them.
-/

namespace RustText

def contains (s pat : String) : Bool := decide (pat.toList <:+: s.toList)

/-- The line without the carriage return that stands before its line feed. -/
def stripCarriageReturn (line : List Char) : List Char :=
  if line.getLast? = some '\r' then line.dropLast else line

/-- `str::lines`: each line feed, with a carriage return before it, ends a line; what follows the
last one is a line if it is not empty. -/
def lines (s : String) : List String :=
  let parts := s.toList.splitOn '\n'
  let ended := parts.dropLast.map stripCarriageReturn
  let rest := parts.getLast?.filter (fun line => !line.isEmpty)
  (ended ++ rest.toList).map String.ofList

/-- `split_whitespace().next().unwrap_or("")`. -/
def firstWord (s : String) : String :=
  String.ofList ((s.toList.dropWhile isWhitespace).takeWhile (fun c => !isWhitespace c))

end RustText
