import Mathlib.Data.List.DropRight
import Mathlib.Data.String.Basic
import Mathlib.Tactic

/-!
# Rust string operations

The operations of `str` that header and host parsing is written with, on lists of
characters and lifted to `String`. The case operations touch ASCII letters only, and
`trim` strips the Unicode `White_Space` characters, as the standard library documents.
-/

namespace RustText

def toAsciiLowercase (s : String) : String := String.ofList (s.toList.map Char.toLower)

def toAsciiUppercase (s : String) : String := String.ofList (s.toList.map Char.toUpper)

def eqIgnoreAsciiCase (a b : String) : Bool := toAsciiLowercase a == toAsciiLowercase b

/-- The Unicode property `White_Space`. -/
def isWhitespace (c : Char) : Bool :=
  let n := c.toNat
  (9 ≤ n && n ≤ 13) || n == 0x20 || n == 0x85 || n == 0xA0 || n == 0x1680 ||
    (0x2000 ≤ n && n ≤ 0x200A) || n == 0x2028 || n == 0x2029 || n == 0x202F || n == 0x205F ||
    n == 0x3000

def trim (l : List Char) : List Char := (l.dropWhile isWhitespace).rdropWhile isWhitespace

def trimString (s : String) : String := String.ofList (trim s.toList)

/-- `char::is_control`, the general category `Cc`. -/
def isControl (c : Char) : Bool := c.toNat < 32 || (127 ≤ c.toNat && c.toNat < 160)

def trimEndMatches (c : Char) (l : List Char) : List Char := l.rdropWhile (· == c)

/-- The parts before and after the first `c`, as `str::find` locates it. -/
def splitOnce (c : Char) : List Char → Option (List Char × List Char)
  | [] => none
  | x :: xs =>
    if x = c then some ([], xs) else (splitOnce c xs).map (fun p => (x :: p.1, p.2))

/-- The parts before and after the last `c`, as `str::rfind` locates it. -/
def rsplitOnce (c : Char) : List Char → Option (List Char × List Char)
  | [] => none
  | x :: xs =>
    match rsplitOnce c xs with
    | some p => some (x :: p.1, p.2)
    | none => if x = c then some ([], xs) else none

def stripPrefix (pre s : String) : Option String :=
  if pre.toList.isPrefixOf s.toList then some (String.ofList (s.toList.drop pre.toList.length))
  else none

def startsWith (s pre : String) : Bool := pre.toList.isPrefixOf s.toList

lemma startsWith_iff (s pre : String) : startsWith s pre = true ↔ pre.toList <+: s.toList :=
  List.isPrefixOf_iff_prefix

def split (c : Char) (s : String) : List String := (s.toList.splitOn c).map String.ofList

/-- `str::parse` for an unsigned integer type with `bound` values: an optional plus sign, then at
least one decimal digit, and no overflow. -/
def parseUnsigned (bound : Nat) (s : String) : Option Nat :=
  let digits := match s.toList with
    | '+' :: rest => rest
    | l => l
  if digits.isEmpty || !digits.all Char.isDigit then none
  else
    let n := digits.foldl (fun n c => 10 * n + (c.toNat - 48)) 0
    if n < bound then some n else none

/-- `str::len`, the number of bytes of the UTF-8 encoding. -/
def byteLen (s : String) : Nat := s.utf8ByteSize

/-- What holds of the 128 characters of ASCII, which can be checked one by one. -/
lemma of_ascii {P : Char → Prop} (h : ∀ n : Fin 128, P (Char.ofNat n)) {c : Char}
    (hc : c.toNat < 128) : P c := by
  have hn := h ⟨c.toNat, hc⟩
  dsimp only at hn
  rwa [Char.ofNat_toNat] at hn

lemma toLower_of_not_ascii {c : Char} (h : ¬c.toNat < 128) : c.toLower = c := by
  have hupper : ¬(c.val ≥ 'A'.val ∧ c.val ≤ 'Z'.val) := by
    rintro ⟨-, hz⟩
    have hle : c.toNat ≤ 90 := UInt32.le_iff_toNat_le.mp hz
    omega
  unfold Char.toLower
  rw [dif_neg hupper]

/-- What does not tell the two cases of an ASCII letter apart does not tell them apart at all. -/
lemma apply_toLower {β : Type*} (f : Char → β)
    (h : ∀ n : Fin 128, f (Char.ofNat n).toLower = f (Char.ofNat n)) (c : Char) :
    f c.toLower = f c := by
  by_cases hc : c.toNat < 128
  · exact of_ascii (P := fun c => f c.toLower = f c) h hc
  · rw [toLower_of_not_ascii hc]

lemma toLower_toLower (c : Char) : c.toLower.toLower = c.toLower :=
  apply_toLower Char.toLower (by decide +kernel) c

@[simp] lemma toList_toAsciiLowercase (s : String) :
    (toAsciiLowercase s).toList = s.toList.map Char.toLower := by
  simp [toAsciiLowercase]

@[simp] lemma toAsciiLowercase_idem (s : String) :
    toAsciiLowercase (toAsciiLowercase s) = toAsciiLowercase s := by
  apply String.toList_injective
  rw [toList_toAsciiLowercase, toList_toAsciiLowercase, List.map_map]
  congr 1
  funext c
  exact toLower_toLower c

lemma eqIgnoreAsciiCase_iff (a b : String) :
    eqIgnoreAsciiCase a b = true ↔ toAsciiLowercase a = toAsciiLowercase b := by
  simp [eqIgnoreAsciiCase]

@[simp] lemma eqIgnoreAsciiCase_self (a : String) : eqIgnoreAsciiCase a a = true := by
  simp [eqIgnoreAsciiCase]

/-! ### Trimming -/

lemma trim_eq_self {l : List Char} (h : ∀ c ∈ l, isWhitespace c = false) : trim l = l := by
  have hfront : l.dropWhile isWhitespace = l := by
    cases l with
    | nil => rfl
    | cons c cs => rw [List.dropWhile_cons_of_neg (by simp [h c List.mem_cons_self])]
  unfold trim
  rw [hfront, List.rdropWhile_eq_self_iff]
  intro hl
  simp [h _ (List.getLast_mem hl)]

lemma trim_idem (l : List Char) : trim (trim l) = trim l := by
  have hfront : (trim l).dropWhile isWhitespace = trim l := by
    rw [List.dropWhile_eq_self_iff]
    intro hpos
    have hpre : trim l <+: l.dropWhile isWhitespace := List.rdropWhile_prefix _ _
    have hlen : 0 < (l.dropWhile isWhitespace).length := lt_of_lt_of_le hpos hpre.length_le
    have hhead : (trim l)[0] = (l.dropWhile isWhitespace)[0] := hpre.getElem hpos
    rw [hhead]
    exact List.dropWhile_get_zero_not isWhitespace l hlen
  calc trim (trim l) = ((trim l).dropWhile isWhitespace).rdropWhile isWhitespace := rfl
    _ = (trim l).rdropWhile isWhitespace := by rw [hfront]
    _ = trim l := List.rdropWhile_idempotent _ _

@[simp] lemma trimString_idem (s : String) : trimString (trimString s) = trimString s := by
  simp [trimString, trim_idem]

/-! ### Separators and numbers -/

lemma two_le_length_splitOn {c : Char} {l : List Char} (h : c ∈ l) :
    2 ≤ (l.splitOn c).length := by
  obtain ⟨pre, post, rfl⟩ := List.append_of_mem h
  rw [List.splitOn_append_cons_self, List.length_append]
  have hpre := List.length_pos_iff.mpr (List.splitOn_ne_nil c pre)
  have hpost := List.length_pos_iff.mpr (List.splitOn_ne_nil c post)
  omega

lemma split_append_sep (c : Char) (s t : String) :
    split c (s ++ String.singleton c ++ t) = split c s ++ split c t := by
  unfold split
  simp [List.splitOn_append_cons_self]

lemma split_eq_singleton_iff {c : Char} {s t : String} : split c s = [t] ↔ t = s ∧ c ∉ s.toList := by
  constructor
  · intro h
    have hmem : c ∉ s.toList := by
      intro hc
      have hlen := congrArg List.length h
      rw [split, List.length_map, List.length_singleton] at hlen
      have htwo := two_le_length_splitOn hc
      omega
    rw [split, List.splitOn_eq_singleton hmem] at h
    exact ⟨by simpa using h.symm, hmem⟩
  · rintro ⟨rfl, hmem⟩
    rw [split, List.splitOn_eq_singleton hmem]
    simp

lemma split_ne_nil (c : Char) (s : String) : split c s ≠ [] := by
  simp [split]

lemma parseUnsigned_of_digits {bound : Nat} {s : String} (hne : s.toList ≠ [])
    (h : ∀ c ∈ s.toList, c.isDigit = true) :
    parseUnsigned bound s =
      if s.toList.foldl (fun n c => 10 * n + (c.toNat - 48)) 0 < bound then
        some (s.toList.foldl (fun n c => 10 * n + (c.toNat - 48)) 0)
      else none := by
  have hsign : (match s.toList with
      | '+' :: rest => rest
      | l => l) = s.toList := by
    split
    · rename_i rest heq
      have hplus : Char.isDigit '+' = true := h '+' (by rw [heq]; exact List.mem_cons_self)
      exact absurd hplus (by decide)
    · rfl
  unfold parseUnsigned
  rw [hsign]
  simp [hne, List.all_eq_true.mpr h]

lemma parseUnsigned_toString {bound n : Nat} (h : n < bound) :
    parseUnsigned bound (toString n) = some n := by
  have hlist : (toString n).toList = Nat.toDigits 10 n := Nat.toList_repr
  have hdigits : ∀ c ∈ (toString n).toList, c.isDigit = true := fun c hc =>
    Nat.isDigit_of_mem_toDigits (by decide) (by decide) (hlist ▸ hc)
  have hne : (toString n).toList ≠ [] := by
    rw [hlist]
    exact Nat.toDigits_ne_nil
  have hvalue : (Nat.toDigits 10 n).foldl (fun n c => 10 * n + (c.toNat - 48)) 0 = n :=
    Nat.ofDigitChars_ten_toDigits
  rw [parseUnsigned_of_digits hne hdigits, hlist, hvalue, if_pos h]

lemma digit_bounds {c : Char} (h : c.isDigit = true) : 48 ≤ c.toNat ∧ c.toNat ≤ 57 :=
  Char.isDigit_iff_toNat.mp h

lemma digitChar_toNat_sub {c : Char} (h : c.isDigit = true) : (c.toNat - 48).digitChar = c := by
  have hc := digit_bounds h
  apply Char.toNat_inj.mp
  rw [Nat.toNat_digitChar_of_lt_ten (by omega)]
  omega

/-- Digits that follow a number that is not zero are read and printed back as they are. -/
lemma toDigits_foldl {digits : List Char} (h : ∀ c ∈ digits, c.isDigit = true) {n : Nat}
    (hn : 0 < n) :
    Nat.toDigits 10 (digits.foldl (fun n c => 10 * n + (c.toNat - 48)) n) =
      Nat.toDigits 10 n ++ digits := by
  induction digits generalizing n with
  | nil => simp
  | cons c cs ih =>
    have hdigit := h c List.mem_cons_self
    have hd : c.toNat - 48 < 10 := by
      have hc := digit_bounds hdigit
      omega
    have hstep : Nat.toDigits 10 (10 * n + (c.toNat - 48)) = Nat.toDigits 10 n ++ [c] := by
      rw [← Nat.toDigits_append_toDigits (by decide) hn hd, Nat.toDigits_of_lt_base hd,
        digitChar_toNat_sub hdigit]
    rw [List.foldl_cons, ih (fun x hx => h x (List.mem_cons_of_mem c hx)) (by omega), hstep,
      List.append_assoc, List.singleton_append]

/-- A number without a sign and without leading zeros is the only text that is read so. -/
lemma toList_of_parseUnsigned {bound n : Nat} {s : String} (h : parseUnsigned bound s = some n)
    (hsign : ∀ rest, s.toList ≠ '+' :: rest) (hzero : ∀ c rest, s.toList ≠ '0' :: c :: rest) :
    s.toList = Nat.toDigits 10 n := by
  have hbody : (match s.toList with
      | '+' :: rest => rest
      | l => l) = s.toList := by
    split
    · rename_i rest heq
      exact absurd heq (hsign rest)
    · rfl
  unfold parseUnsigned at h
  rw [hbody] at h
  dsimp only at h
  split at h
  · cases h
  · rename_i hchecks
    simp only [Bool.or_eq_true, List.isEmpty_iff, Bool.not_eq_true', not_or,
      Bool.not_eq_false, List.all_eq_true] at hchecks
    obtain ⟨hne, hall⟩ := hchecks
    split at h
    · cases h
      rcases hl : s.toList with _ | ⟨c, cs⟩
      · exact absurd hl hne
      · rw [hl] at hall
        have hdigit := hall c List.mem_cons_self
        by_cases hc : c = '0'
        · cases cs with
          | nil =>
            rw [hc]
            rfl
          | cons x xs => exact absurd (by rw [hl, hc]) (hzero x xs)
        · have hbounds := digit_bounds hdigit
          have hpos : 0 < c.toNat - 48 := by
            have hne48 : c.toNat ≠ 48 := fun h48 => hc (Char.toNat_inj.mp h48)
            omega
          have hd : c.toNat - 48 < 10 := by omega
          rw [List.foldl_cons, Nat.mul_zero, Nat.zero_add,
            toDigits_foldl (fun x hx => hall x (List.mem_cons_of_mem c hx)) hpos,
            Nat.toDigits_of_lt_base hd, digitChar_toNat_sub hdigit, List.singleton_append]
    · cases h

/-! ### ASCII letters -/

lemma isAlpha_lt {c : Char} (h : c.isAlpha = true) : c.toNat < 128 := by
  change ((decide (c.val ≥ 'A'.val ∧ c.val ≤ 'Z'.val) ||
    (decide (c.val ≥ 'a'.val) && decide (c.val ≤ 'z'.val))) = true) at h
  simp only [Bool.or_eq_true, Bool.and_eq_true, decide_eq_true_eq] at h
  rcases h with ⟨-, hz⟩ | ⟨-, hz⟩
  · exact lt_of_le_of_lt (UInt32.le_iff_toNat_le.mp hz) (by decide)
  · exact lt_of_le_of_lt (UInt32.le_iff_toNat_le.mp hz) (by decide)

/-- What the country check needs of a letter and of its upper-case form. -/
structure LetterFacts (c : Char) : Prop where
  not_blank : isWhitespace c = false
  size_eq : c.utf8Size = 1
  upper_alpha : c.toUpper.isAlpha = true
  upper_size : c.toUpper.utf8Size = 1
  upper_upper : c.toUpper.toUpper = c.toUpper

lemma letterFacts {c : Char} (h : c.isAlpha = true) : LetterFacts c := by
  have hall : ∀ n : Fin 128, (Char.ofNat n).isAlpha = true →
      isWhitespace (Char.ofNat n) = false ∧ (Char.ofNat n).utf8Size = 1 ∧
        (Char.ofNat n).toUpper.isAlpha = true ∧ (Char.ofNat n).toUpper.utf8Size = 1 ∧
        (Char.ofNat n).toUpper.toUpper = (Char.ofNat n).toUpper := by
    decide +kernel
  have hfacts : ∀ n : Fin 128, (Char.ofNat n).isAlpha = true → LetterFacts (Char.ofNat n) := by
    intro n hn
    obtain ⟨hblank, hsize, halpha, hupperSize, hupper⟩ := hall n hn
    exact ⟨hblank, hsize, halpha, hupperSize, hupper⟩
  exact of_ascii (P := fun c => c.isAlpha = true → LetterFacts c) hfacts (isAlpha_lt h) h

/-! ### Lengths in bytes -/

lemma utf8Size_toLower (c : Char) : c.toLower.utf8Size = c.utf8Size :=
  apply_toLower Char.utf8Size (by decide +kernel) c

lemma byteLen_ofList_cons (c : Char) (l : List Char) :
    byteLen (String.ofList (c :: l)) = byteLen (String.ofList l) + c.utf8Size := by
  unfold byteLen
  rw [String.utf8ByteSize_ofList, String.utf8ByteSize_ofList, String.utf8Len_cons]

lemma byteLen_le_of_sublist {l m : List Char} (h : l.Sublist m) :
    byteLen (String.ofList l) ≤ byteLen (String.ofList m) := by
  induction h with
  | slnil => exact le_rfl
  | cons c _ ih =>
    rw [byteLen_ofList_cons]
    exact ih.trans (Nat.le_add_right _ _)
  | cons_cons c _ ih =>
    rw [byteLen_ofList_cons, byteLen_ofList_cons]
    exact Nat.add_le_add_right ih _

@[simp] lemma byteLen_toAsciiLowercase (l : List Char) :
    byteLen (toAsciiLowercase (String.ofList l)) = byteLen (String.ofList l) := by
  unfold toAsciiLowercase
  rw [String.toList_ofList]
  induction l with
  | nil => rfl
  | cons c l ih => rw [List.map_cons, byteLen_ofList_cons, byteLen_ofList_cons, ih, utf8Size_toLower]

lemma splitOnce_fst_prefixed {c : Char} {l : List Char} {p : List Char × List Char}
    (h : splitOnce c l = some p) : p.1 <+: l := by
  induction l generalizing p with
  | nil => cases h
  | cons x xs ih =>
    unfold splitOnce at h
    split at h
    · cases h
      exact List.nil_prefix
    · obtain ⟨q, hq, rfl⟩ := Option.map_eq_some_iff.mp h
      exact (List.prefix_cons_inj x).mpr (ih hq)

lemma rsplitOnce_fst_prefixed {c : Char} {l : List Char} {p : List Char × List Char}
    (h : rsplitOnce c l = some p) : p.1 <+: l := by
  induction l generalizing p with
  | nil => cases h
  | cons x xs ih =>
    unfold rsplitOnce at h
    split at h
    · rename_i q hq
      cases h
      exact (List.prefix_cons_inj x).mpr (ih hq)
    · split at h
      · cases h
        exact List.nil_prefix
      · cases h

lemma trim_sublist (l : List Char) : (trim l).Sublist l :=
  (List.rdropWhile_prefix _ _).sublist.trans (List.dropWhile_suffix _).sublist

/-! ### Parts of a text -/

lemma splitOnce_eq_some {c : Char} {l a b : List Char} (h : splitOnce c l = some (a, b)) :
    l = a ++ c :: b ∧ c ∉ a := by
  induction l generalizing a with
  | nil => cases h
  | cons x xs ih =>
    unfold splitOnce at h
    split at h
    · rename_i hx
      cases h
      exact ⟨by rw [hx, List.nil_append], List.not_mem_nil⟩
    · rename_i hx
      obtain ⟨⟨a', b'⟩, hsplit, heq⟩ := Option.map_eq_some_iff.mp h
      cases heq
      obtain ⟨rfl, hnot⟩ := ih hsplit
      refine ⟨rfl, fun hmem => ?_⟩
      rcases List.mem_cons.mp hmem with hc | hrest
      · exact hx hc.symm
      · exact hnot hrest

lemma splitOnce_append {c : Char} {a : List Char} (h : c ∉ a) (b : List Char) :
    splitOnce c (a ++ c :: b) = some (a, b) := by
  induction a with
  | nil => simp [splitOnce]
  | cons x xs ih =>
    rw [List.mem_cons, not_or] at h
    rw [List.cons_append, splitOnce, if_neg (Ne.symm h.1), ih h.2]
    rfl

lemma rsplitOnce_eq_some {c : Char} {l a b : List Char} (h : rsplitOnce c l = some (a, b)) :
    l = a ++ c :: b := by
  induction l generalizing a with
  | nil => cases h
  | cons x xs ih =>
    unfold rsplitOnce at h
    split at h
    · rename_i q hq
      cases h
      exact congrArg (x :: ·) (ih hq)
    · split at h
      · rename_i hx
        cases h
        rw [hx, List.nil_append]
      · cases h

lemma rdropWhile_append_cons {α : Type*} {p : α → Bool} {c : α} (hc : p c = false) (a b : List α) :
    (a ++ c :: b).rdropWhile p = a ++ c :: b.rdropWhile p := by
  induction b using List.reverseRecOn with
  | nil =>
    rw [List.rdropWhile_nil]
    exact List.rdropWhile_concat_neg p a c (by simp [hc])
  | append_singleton b x ih =>
    rw [← List.cons_append, ← List.append_assoc]
    by_cases hx : p x = true
    · rw [List.rdropWhile_concat_pos p _ x hx, List.rdropWhile_concat_pos p _ x hx, ih]
    · rw [List.rdropWhile_concat_neg p _ x hx, List.rdropWhile_concat_neg p _ x hx,
        List.append_assoc, List.cons_append]

/-- Trimming a text that is bounded by two characters that stay. -/
lemma trim_append_cons {pre : List Char} (hpre : ∀ c ∈ pre, isWhitespace c = true) {x y : Char}
    (hx : isWhitespace x = false) (hy : isWhitespace y = false) (mid post : List Char) :
    trim (pre ++ x :: (mid ++ y :: post)) = x :: (mid ++ y :: post.rdropWhile isWhitespace) := by
  unfold trim
  rw [List.dropWhile_append_of_pos hpre, List.dropWhile_cons_of_neg (by simp [hx]),
    ← List.cons_append, rdropWhile_append_cons hy, List.cons_append]

/-- A text is its trimmed form between blanks. -/
lemma exists_eq_append_trim (l : List Char) :
    ∃ pre post, l = pre ++ (trim l ++ post) ∧ (∀ c ∈ pre, isWhitespace c = true) ∧
      ∀ c ∈ post, isWhitespace c = true := by
  refine ⟨l.takeWhile isWhitespace, (l.dropWhile isWhitespace).rtakeWhile isWhitespace, ?_,
    fun c hc => List.mem_takeWhile_imp hc, fun c hc => List.mem_rtakeWhile_imp hc⟩
  rw [trim, List.rdropWhile_append_rtakeWhile, List.takeWhile_append_dropWhile]

lemma mem_trim {c : Char} {l : List Char} (hc : c ∈ l) (hw : isWhitespace c = false) :
    c ∈ trim l := by
  obtain ⟨pre, post, heq, hpre, hpost⟩ := exists_eq_append_trim l
  rw [heq, List.mem_append, List.mem_append] at hc
  rcases hc with hc | hc | hc
  · rw [hpre c hc] at hw
    cases hw
  · exact hc
  · rw [hpost c hc] at hw
    cases hw

end RustText
