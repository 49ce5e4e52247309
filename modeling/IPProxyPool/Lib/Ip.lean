import Mathlib.Tactic
import IPProxyPool.Lib.Text

/-!
# IP address literals

The address parser of the standard library, on lists of characters. A parser returns what it
read and the rest of the input. Of an IPv6 literal only the extent is kept: its value is not
needed here.
-/

namespace RustNet

structure Ipv4Addr where
  a : Fin 256
  b : Fin 256
  c : Fin 256
  d : Fin 256
  deriving DecidableEq, Repr

inductive IpAddr where
  | v4 (addr : Ipv4Addr)
  | v6
  deriving DecidableEq, Repr

/-- `char::to_digit` for a radix up to 36. -/
def toDigit (radix : Nat) (c : Char) : Option Nat :=
  let n := c.toNat
  let value : Option Nat :=
    if 48 ≤ n ∧ n ≤ 57 then some (n - 48)
    else if 97 ≤ n ∧ n ≤ 122 then some (n - 87)
    else if 65 ≤ n ∧ n ≤ 90 then some (n - 55)
    else none
  value.filter (· < radix)

/-- The longest run of digits at the front of the input. -/
def readDigits (radix : Nat) : List Char → List Nat × List Char
  | [] => ([], [])
  | c :: cs =>
    match toDigit radix c with
    | some d => let p := readDigits radix cs; (d :: p.1, p.2)
    | none => ([], c :: cs)

def ofDigits (radix : Nat) (ds : List Nat) : Nat := ds.foldl (fun n d => n * radix + d) 0

/-- `read_number` with a bound on the number of digits and on the value. -/
def readNumber (radix maxDigits : Nat) (allowZeroPrefix : Bool) (bound : Nat) (s : List Char) :
    Option (Nat × List Char) :=
  let p := readDigits radix s
  let value := ofDigits radix p.1
  if p.1.length = 0 ∨ maxDigits < p.1.length then none
  else if !allowZeroPrefix && p.1.head? == some 0 && 1 < p.1.length then none
  else if bound ≤ value then none
  else some (value, p.2)

/-- `read_separator`: every element but the first is preceded by the separator. -/
def readSeparator {α : Type*} (sep : Char) (index : Nat) (inner : List Char → Option (α × List Char))
    (s : List Char) : Option (α × List Char) :=
  if index = 0 then inner s
  else
    match s with
    | [] => none
    | c :: cs => if c = sep then inner cs else none

/-- A decimal octet; a leading zero is not allowed. -/
def readOctet (s : List Char) : Option (Fin 256 × List Char) :=
  (readNumber 10 3 false 256 s).bind (fun p => if h : p.1 < 256 then some (⟨p.1, h⟩, p.2) else none)

def readIpv4Addr (s : List Char) : Option (Ipv4Addr × List Char) := do
  let (a, s) ← readSeparator '.' 0 readOctet s
  let (b, s) ← readSeparator '.' 1 readOctet s
  let (c, s) ← readSeparator '.' 2 readOctet s
  let (d, s) ← readSeparator '.' 3 readOctet s
  some (⟨a, b, c, d⟩, s)

/-- `read_groups` from group `i` on, with `room` slots left: how many groups were read, whether
the last two were an embedded IPv4 address, and the rest of the input. -/
def readGroups : Nat → Nat → List Char → Nat × Bool × List Char
  | 0, i, s => (i, false, s)
  | room + 1, i, s =>
    let embedded := if 0 < room then readSeparator ':' i readIpv4Addr s else none
    match embedded with
    | some (_, s') => (i + 2, true, s')
    | none =>
      match readSeparator ':' i (readNumber 16 4 true 65536) s with
      | some (_, s') => readGroups room (i + 1) s'
      | none => (i, false, s)

/-- `read_ipv6_addr`: eight groups, or fewer around one `::`. -/
def readIpv6Addr (s : List Char) : Option (List Char) :=
  match readGroups 8 0 s with
  | (headSize, headIpv4, rest) =>
    if headSize = 8 then some rest
    else if headIpv4 then none
    else
      match rest with
      | ':' :: ':' :: tail => some (readGroups (8 - (headSize + 1)) 0 tail).2.2
      | _ => none

/-- `str::parse::<IpAddr>`: the whole input must be read, and an input that begins with an IPv4
address is not tried as an IPv6 address. -/
def parseIpAddr (s : String) : Option IpAddr :=
  match readIpv4Addr s.toList with
  | some (addr, rest) => if rest = [] then some (.v4 addr) else none
  | none =>
    match readIpv6Addr s.toList with
    | some rest => if rest = [] then some .v6 else none
    | none => none

/-- `str::parse::<Ipv4Addr>`. -/
def parseIpv4Addr (s : String) : Option Ipv4Addr :=
  match readIpv4Addr s.toList with
  | some (addr, []) => some addr
  | _ => none

/-- `str::parse::<Ipv6Addr>` succeeds. -/
def isIpv6Literal (s : String) : Bool := readIpv6Addr s.toList = some []

def octetText (o : Fin 256) : List Char := Nat.toDigits 10 o.val

/-- The `Display` form of an IPv4 address. -/
def Ipv4Addr.text (addr : Ipv4Addr) : String :=
  String.ofList (octetText addr.a ++ '.' :: (octetText addr.b ++ '.' :: (octetText addr.c ++
    '.' :: octetText addr.d)))

example : parseIpAddr "203.0.113.9" = some (.v4 ⟨203, 0, 113, 9⟩) := by decide +kernel
example : parseIpAddr "203.0.113.09" = none := by decide +kernel
example : parseIpAddr "::ffff:1.2.3.4" = some .v6 := by decide +kernel

/-! ### Printing and parsing back -/

/-- What the parser checks of a printed octet. -/
lemma octetText_digits (o : Fin 256) :
    readDigits 10 (octetText o) = ((octetText o).map (fun c => c.toNat - 48), []) ∧
      readNumber 10 3 false 256 (octetText o) = some (o.val, []) := by
  revert o
  decide +kernel

lemma octetText_noBlank (o : Fin 256) :
    (octetText o).all (fun c => !RustText.isWhitespace c) = true := by
  revert o
  decide +kernel

lemma readDigits_append {radix : Nat} {s : List Char} {ds : List Nat}
    (hs : readDigits radix s = (ds, [])) {rest : List Char}
    (hrest : ∀ c ∈ rest.head?, toDigit radix c = none) :
    readDigits radix (s ++ rest) = (ds, rest) := by
  induction s generalizing ds with
  | nil =>
    cases hs
    cases rest with
    | nil => rfl
    | cons c cs =>
      have hc : toDigit radix c = none := hrest c (by simp)
      simp [readDigits, hc]
  | cons c cs ih =>
    cases hc : toDigit radix c with
    | none => simp [readDigits, hc] at hs
    | some d =>
      simp only [readDigits, hc, Prod.mk.injEq] at hs
      obtain ⟨hds, hnil⟩ := hs
      have hrun : readDigits radix cs = ((readDigits radix cs).1, []) := Prod.ext rfl hnil
      have htail := ih hrun
      simp only [List.cons_append, readDigits, hc, htail]
      rw [← hds]

/-- A printed octet is read back, whatever follows it, as long as no digit does. -/
lemma readOctet_octetText (o : Fin 256) {rest : List Char}
    (hrest : ∀ c ∈ rest.head?, toDigit 10 c = none) :
    readOctet (octetText o ++ rest) = some (o, rest) := by
  obtain ⟨hdigits, hnumber⟩ := octetText_digits o
  have happend := readDigits_append hdigits hrest
  have hread : readNumber 10 3 false 256 (octetText o ++ rest) = some (o.val, rest) := by
    unfold readNumber at hnumber ⊢
    rw [hdigits] at hnumber
    rw [happend]
    dsimp only at hnumber ⊢
    split at hnumber
    · cases hnumber
    · split at hnumber
      · cases hnumber
      · split at hnumber
        · cases hnumber
        · rename_i h1 h2 h3
          rw [if_neg h1, if_neg h2, if_neg h3]
          rw [Option.some.injEq, Prod.mk.injEq] at hnumber
          rw [hnumber.1]
  simp [readOctet, hread, o.isLt]

lemma readSeparator_cons {α : Type*} {sep : Char} {index : Nat} (hindex : index ≠ 0)
    (inner : List Char → Option (α × List Char)) (s : List Char) :
    readSeparator sep index inner (sep :: s) = inner s := by
  simp [readSeparator, hindex]

lemma readSeparator_zero {α : Type*} {sep : Char} (inner : List Char → Option (α × List Char))
    (s : List Char) : readSeparator sep 0 inner s = inner s := rfl

theorem readIpv4Addr_text (addr : Ipv4Addr) :
    readIpv4Addr addr.text.toList = some (addr, []) := by
  have hdot : ∀ s : List Char, ∀ c ∈ ('.' :: s).head?, toDigit 10 c = none := by
    intro s c hc
    simp only [List.head?_cons, Option.mem_def, Option.some.injEq] at hc
    rw [← hc]
    decide
  have hend : ∀ c ∈ ([] : List Char).head?, toDigit 10 c = none := by simp
  have hlast := readOctet_octetText addr.d hend
  rw [List.append_nil] at hlast
  unfold readIpv4Addr Ipv4Addr.text
  rw [String.toList_ofList]
  simp only [readSeparator_zero, readOctet_octetText _ (hdot _), Option.bind_eq_bind,
    Option.bind_some, readSeparator_cons Nat.one_ne_zero, readSeparator_cons two_ne_zero,
    readSeparator_cons three_ne_zero, hlast]

/-- Parsing inverts printing. -/
theorem parseIpAddr_text (addr : Ipv4Addr) : parseIpAddr addr.text = some (.v4 addr) := by
  simp [parseIpAddr, readIpv4Addr_text]

lemma text_noBlank (addr : Ipv4Addr) :
    ∀ c ∈ addr.text.toList, RustText.isWhitespace c = false := by
  have hoctet : ∀ o : Fin 256, ∀ c ∈ octetText o, RustText.isWhitespace c = false := by
    intro o c hc
    have hall := List.all_eq_true.mp (octetText_noBlank o) c hc
    simpa using hall
  have hdot : RustText.isWhitespace '.' = false := by decide
  intro c hc
  simp only [Ipv4Addr.text, String.toList_ofList, List.mem_append, List.mem_cons] at hc
  rcases hc with h | rfl | h | rfl | h | rfl | h
  · exact hoctet _ c h
  · exact hdot
  · exact hoctet _ c h
  · exact hdot
  · exact hoctet _ c h
  · exact hdot
  · exact hoctet _ c h

end RustNet
