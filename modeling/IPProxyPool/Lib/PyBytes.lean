import IPProxyPool.Lib.Text
import IPProxyPool.Lib.Wire

/-!
# Bytes as Python reads them

The reading methods of a binary file, `str.strip` and `int(_, 16)`. A text decoded from Latin-1 is
the list of its bytes.
-/

namespace PyBytes
open Wire

def latin1 (s : String) : Bytes := s.toList.map (fun c => UInt8.ofNat c.toNat)

def lf : UInt8 := 10

def crlf : Bytes := [13, lf]

/-- `readline(limit)`, with what it leaves. -/
def readline : Nat → Bytes → Bytes × Bytes
  | 0, s => ([], s)
  | _ + 1, [] => ([], [])
  | limit + 1, c :: s =>
    if c = lf then ([c], s)
    else
      let p := readline limit s
      (c :: p.1, p.2)

/-- `read(size)`. A negative size stands for everything that is left. -/
def read (size : Int) (s : Bytes) : Bytes × Bytes :=
  if size < 0 then (s, []) else (s.take size.toNat, s.drop size.toNat)

/-- `str.isspace` of a character of Latin-1. -/
def isSpace (c : UInt8) : Bool := (9 ≤ c && c ≤ 13) || (28 ≤ c && c ≤ 32) || c == 133 || c == 160

def strip (s : Bytes) : Bytes := (s.dropWhile isSpace).rdropWhile isSpace

/-! ### Numbers -/

def hexValue (c : UInt8) : Option Nat :=
  if 48 ≤ c ∧ c ≤ 57 then some (c.toNat - 48)
  else if 97 ≤ c ∧ c ≤ 102 then some (c.toNat - 87)
  else if 65 ≤ c ∧ c ≤ 70 then some (c.toNat - 55)
  else none

def isHexDigit (c : UInt8) : Bool := (hexValue c).isSome

/-- Digits and nothing else. -/
def isHexNumber (s : Bytes) : Bool := s ≠ [] && s.all isHexDigit

def hexNumber (s : Bytes) : Nat := s.foldl (fun n c => 16 * n + (hexValue c).getD 0) 0

/-- The sign, the underscore and the letter of the base. -/
def marks : Bytes := latin1 "+-_xX"

/-- The rest after `0x`, with which an underscore may go. -/
def dropBase (s : Bytes) : Bytes :=
  if s.take 2 = latin1 "0x" ∨ s.take 2 = latin1 "0X" then
    if s[2]? = some 95 then s.drop 3 else s.drop 2
  else s

/-- Single underscores may stand between the digits. -/
def digits16 (s : Bytes) : Option Nat :=
  if (s.splitOn 95).all isHexNumber then some (hexNumber (s.filter (· ≠ 95))) else none

/-- `int(s, 16)` of a text without blanks around it. -/
def int16 (s : Bytes) : Option Int :=
  if s.head? = some 45 then (digits16 (dropBase s.tail)).map (fun n => -(n : Int))
  else if s.head? = some 43 then (digits16 (dropBase s.tail)).map Int.ofNat
  else (digits16 (dropBase s)).map Int.ofNat

example : int16 (latin1 "-0X_1_f") = some (-31) := by decide +kernel
example : int16 (latin1 "1__f") = none := by decide +kernel

lemma isHexNumber_iff {s : Bytes} :
    isHexNumber s = true ↔ s ≠ [] ∧ ∀ c ∈ s, isHexDigit c = true := by
  rw [isHexNumber, Bool.and_eq_true, List.all_eq_true, decide_eq_true_iff]

lemma not_isSpace_of_hex {c : UInt8} : isHexDigit c = true → isSpace c = false :=
  forall_byte (P := fun c => isHexDigit c = true → isSpace c = false) (by decide +kernel) c

lemma not_isHexDigit_of_mark {c : UInt8} (h : c ∈ marks) : isHexDigit c = false := by
  have hall : marks.all (fun c => !isHexDigit c) = true := by decide +kernel
  simpa using List.all_eq_true.mp hall c h

lemma dropBase_of_no_marks {s : Bytes} (h : ∀ c ∈ s, c ∉ marks) : dropBase s = s := by
  refine if_neg ?_
  rintro (h0x | h0x)
  · have hx : (120 : UInt8) ∈ s.take 2 := by
      rw [h0x]
      decide +kernel
    exact h _ (List.mem_of_mem_take hx) (by decide +kernel)
  · have hx : (88 : UInt8) ∈ s.take 2 := by
      rw [h0x]
      decide +kernel
    exact h _ (List.mem_of_mem_take hx) (by decide +kernel)

/-- Without marks there is only the plain reading. -/
lemma int16_of_no_marks {s : Bytes} (h : ∀ c ∈ s, c ∉ marks) :
    int16 s = if isHexNumber s then some (hexNumber s : Int) else none := by
  have hhead : ∀ c ∈ marks, s.head? ≠ some c := fun c hc hs =>
    h c (List.mem_of_mem_head? hs) hc
  have hsplit : s.splitOn 95 = [s] :=
    List.splitOn_eq_singleton (fun hmem => h _ hmem (by decide +kernel))
  have hfilter : s.filter (· ≠ 95) = s := by
    rw [List.filter_eq_self]
    rintro c hc
    refine decide_eq_true ?_
    rintro rfl
    exact h _ hc (by decide +kernel)
  rw [int16, if_neg (hhead 45 (by decide +kernel)), if_neg (hhead 43 (by decide +kernel)),
    dropBase_of_no_marks h, digits16, hsplit, hfilter]
  by_cases hs : isHexNumber s = true
  · simp [hs]
  · simp [hs]

lemma int16_of_isHexNumber {s : Bytes} (h : isHexNumber s = true) :
    int16 s = some (hexNumber s : Int) := by
  rw [int16_of_no_marks, if_pos h]
  intro c hc hmark
  have hhex : isHexDigit c = true := (isHexNumber_iff.mp h).2 c hc
  exact Bool.false_ne_true ((not_isHexDigit_of_mark hmark).symm.trans hhex)

lemma ne_nil_of_int16 {s : Bytes} {z : Int} (h : int16 s = some z) : s ≠ [] := by
  rintro rfl
  have hnil : int16 [] = none := by decide +kernel
  rw [hnil] at h
  cases h

/-- What else is taken for a number has a mark. -/
lemma isHexNumber_or_mark {s : Bytes} {z : Int} (h : int16 s = some z) :
    isHexNumber s = true ∨ ∃ c ∈ s, c ∈ marks := by
  by_contra hnot
  push Not at hnot
  rw [int16_of_no_marks hnot.2, if_neg hnot.1] at h
  cases h

/-! ### Lines -/

/-- The first line of what is left, with its end. A line is cut at the limit, and the last one may
lack its end. -/
structure IsLine (limit : Nat) (line rest : Bytes) : Prop where
  ne_nil : line ≠ []
  short : line.length ≤ limit
  first : lf ∉ line.dropLast
  ends : line.getLast? = some lf ∨ line.length = limit ∨ rest = []

/-- A line whatever comes after it. -/
def FullLine (limit : Nat) (line : Bytes) : Prop := ∀ rest, IsLine limit line rest

/-- Only the last line depends on what comes after it. -/
lemma IsLine.fullLine {limit : Nat} {line rest : Bytes} (h : IsLine limit line rest)
    (hne : rest ≠ []) : FullLine limit line := by
  intro rest'
  refine ⟨h.ne_nil, h.short, h.first, ?_⟩
  rcases h.ends with hend | hend | hend
  · exact .inl hend
  · exact .inr (.inl hend)
  · exact absurd hend hne

lemma readline_of_isLine {limit : Nat} {line rest : Bytes} (h : IsLine limit line rest) :
    readline limit (line ++ rest) = (line, rest) := by
  induction limit generalizing line with
  | zero => exact absurd (List.length_eq_zero_iff.mp (Nat.le_zero.mp h.short)) h.ne_nil
  | succ limit ih =>
    cases line with
    | nil => exact absurd rfl h.ne_nil
    | cons c line =>
      have hlen : line.length ≤ limit := Nat.le_of_succ_le_succ h.short
      by_cases hc : c = lf
      · have hnil : line = [] := by
          by_contra hne
          refine h.first ?_
          rw [List.dropLast_cons_of_ne_nil hne, hc]
          exact List.mem_cons_self
        subst hnil
        exact if_pos hc
      · rw [List.cons_append, readline, if_neg hc]
        cases line with
        | nil =>
          rcases h.ends with hend | hend | rfl
          · exact absurd (Option.some.inj hend) hc
          · obtain rfl : limit = 0 := by simpa using hend.symm
            rfl
          · cases limit with
            | zero => rfl
            | succ limit => rfl
        | cons d line =>
          have hrest : IsLine limit (d :: line) rest := by
            refine ⟨List.cons_ne_nil d line, hlen, fun hmem => h.first ?_, ?_⟩
            · exact List.mem_cons_of_mem c hmem
            · rcases h.ends with hend | hend | hend
              · exact .inl (by rw [← hend, List.getLast?_cons_cons])
              · exact .inr (.inl (Nat.succ.inj hend))
              · exact .inr (.inr hend)
          rw [ih hrest]

lemma readline_append (limit : Nat) (s : Bytes) :
    (readline limit s).1 ++ (readline limit s).2 = s := by
  induction limit generalizing s with
  | zero => rfl
  | succ limit ih =>
    cases s with
    | nil => rfl
    | cons c s =>
      by_cases hc : c = lf
      · rw [readline, if_pos hc]
        rfl
      · rw [readline, if_neg hc]
        exact congrArg (c :: ·) (ih s)

lemma isLine_readline {limit : Nat} {s : Bytes} (hs : s ≠ []) :
    IsLine (limit + 1) (readline (limit + 1) s).1 (readline (limit + 1) s).2 := by
  induction limit generalizing s with
  | zero =>
    obtain ⟨c, s, rfl⟩ := List.exists_cons_of_ne_nil hs
    have hread : (readline 1 (c :: s)).1 = [c] := by
      rw [readline]
      split
      · rfl
      · rfl
    rw [hread]
    exact ⟨List.cons_ne_nil c [], le_rfl, List.not_mem_nil, .inr (.inl rfl)⟩
  | succ limit ih =>
    obtain ⟨c, s, rfl⟩ := List.exists_cons_of_ne_nil hs
    by_cases hc : c = lf
    · rw [readline, if_pos hc, hc]
      exact ⟨List.cons_ne_nil lf [], Nat.le_add_left 1 _, List.not_mem_nil, .inl rfl⟩
    · rw [readline, if_neg hc]
      cases s with
      | nil =>
        exact ⟨List.cons_ne_nil c _, Nat.le_add_left 1 _, List.not_mem_nil, .inr (.inr rfl)⟩
      | cons d s =>
        have h := ih (List.cons_ne_nil d s)
        refine ⟨List.cons_ne_nil c _, Nat.succ_le_succ h.short, ?_, ?_⟩
        · rw [List.dropLast_cons_of_ne_nil h.ne_nil, List.mem_cons, not_or]
          exact ⟨Ne.symm hc, h.first⟩
        · rcases h.ends with hend | hend | hend
          · refine .inl ?_
            rw [List.getLast?_cons, hend]
            rfl
          · exact .inr (.inl (congrArg Nat.succ hend))
          · exact .inr (.inr hend)

/-- A text without line feeds is a line with its end. -/
lemma fullLine_crlf {limit : Nat} {text : Bytes} (hlf : lf ∉ text)
    (hlen : (text ++ crlf).length ≤ limit) : FullLine limit (text ++ crlf) := by
  intro rest
  have hsplit : text ++ crlf = (text ++ [13]) ++ [lf] := by rw [List.append_assoc]; rfl
  refine ⟨by simp [crlf], hlen, ?_, .inl ?_⟩
  · rw [hsplit, List.dropLast_concat, List.mem_append, not_or]
    exact ⟨hlf, by decide⟩
  · rw [hsplit, List.getLast?_concat]

lemma read_append (data rest : Bytes) : PyBytes.read data.length (data ++ rest) = (data, rest) := by
  rw [PyBytes.read, if_neg (by omega), Int.toNat_natCast, List.take_left, List.drop_left]

lemma read_of_neg {size : Int} (h : size < 0) (s : Bytes) : PyBytes.read size s = (s, []) :=
  if_pos h

/-- A read of a size that is not negative, when it is not short. -/
lemma read_of_nonneg {size : Int} {s : Bytes} (h : 0 ≤ size)
    (hlen : ¬((PyBytes.read size s).1.length : Int) < size) :
    ((PyBytes.read size s).1.length : Int) = size ∧
      (PyBytes.read size s).1 ++ (PyBytes.read size s).2 = s := by
  rw [PyBytes.read, if_neg (not_lt.mpr h)] at hlen ⊢
  have hle := List.length_take_le size.toNat s
  exact ⟨by dsimp only at hlen ⊢; omega, List.take_append_drop _ _⟩

lemma length_read_le {size : Int} (h : 0 ≤ size) (s : Bytes) :
    ((PyBytes.read size s).1.length : Int) ≤ size := by
  rw [PyBytes.read, if_neg (not_lt.mpr h)]
  have hle := List.length_take_le size.toNat s
  dsimp only
  omega

/-! ### Blanks -/

/-- Only what comes after the last character that stays is stripped. -/
lemma strip_append {s : Bytes} (hs : s ≠ []) (h : ∀ c ∈ s, isSpace c = false) (t : Bytes) :
    strip (s ++ t) = s ++ t.rdropWhile isSpace := by
  have hfront : (s ++ t).dropWhile isSpace = s ++ t := by
    obtain ⟨c, s, rfl⟩ := List.exists_cons_of_ne_nil hs
    rw [List.cons_append, List.dropWhile_cons_of_neg (by simp [h c List.mem_cons_self])]
  rw [strip, hfront]
  induction s using List.reverseRecOn with
  | nil => exact absurd rfl hs
  | append_singleton a y =>
    have hy : isSpace y = false := h y (List.mem_append_right a List.mem_cons_self)
    rw [List.append_assoc, List.singleton_append, RustText.rdropWhile_append_cons hy,
      List.append_assoc, List.singleton_append]

end PyBytes
