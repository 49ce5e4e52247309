import IPProxyPool.Lib.Wire
import IPProxyPool.Model.HtmlScan

/-!
# Rows of an HTML page

What `match_ip_port` takes for an address with its port, as a grammar on the bytes, and that the
loops over the bytes match exactly this.
-/

namespace IPProxyPool
open RustText RustNet Scanner

namespace HtmlSource

/-! ### Numbers, addresses and what may stand before the port -/

def numeralValue (w : List UInt8) : Nat := w.foldl (fun n c => 10 * n + (c.toNat - 48)) 0

structure Numeral (w : List UInt8) (n : Nat) : Prop where
  ne_nil : w ≠ []
  digits : ∀ c ∈ w, isAsciiDigit c = true
  value : numeralValue w = n

/-- What a digit is as a character. -/
lemma digitFacts (c : UInt8) : isAsciiDigit c = true →
    c < 128 ∧ (Char.ofNat c.toNat).isDigit = true ∧ (Char.ofNat c.toNat).toNat = c.toNat :=
  Wire.forall_byte (P := fun c => isAsciiDigit c = true → c < 128 ∧ (Char.ofNat c.toNat).isDigit = true ∧
    (Char.ofNat c.toNat).toNat = c.toNat) (by decide +kernel) c

lemma parse_digits {w : List UInt8} (hne : w ≠ []) (hdigits : ∀ c ∈ w, isAsciiDigit c = true)
    (bound : Nat) : (asciiText w).bind (parseUnsigned bound) =
      if numeralValue w < bound then some (numeralValue w) else none := by
  have hascii : w.all (fun c => decide (c < 128)) = true :=
    List.all_eq_true.mpr (fun c hc => decide_eq_true (digitFacts c (hdigits c hc)).1)
  have hchars : ∀ c ∈ w.map (fun c => Char.ofNat c.toNat), c.isDigit = true := by
    intro c hc
    obtain ⟨x, hx, rfl⟩ := List.mem_map.mp hc
    exact (digitFacts x (hdigits x hx)).2.1
  have hvalue : (w.map (fun c => Char.ofNat c.toNat)).foldl
      (fun n c => 10 * n + (c.toNat - 48)) 0 = numeralValue w := by
    rw [List.foldl_map, numeralValue]
    refine List.foldl_ext _ _ _ (fun n c hc => ?_)
    rw [(digitFacts c (hdigits c hc)).2.2]
  rw [asciiText, if_pos hascii, Option.bind_some, parseUnsigned_of_digits
    (by rw [String.toList_ofList]; simpa using hne) (by rw [String.toList_ofList]; exact hchars),
    String.toList_ofList, hvalue]

/-- `a.b.c.d` -/
inductive AddressText : List UInt8 → Ipv4Addr → Prop
  | intro {wa wb wc wd : List UInt8} {addr : Ipv4Addr} (ha : Numeral wa addr.a)
      (hb : Numeral wb addr.b) (hc : Numeral wc addr.c) (hd : Numeral wd addr.d) :
      AddressText (wa ++ '.'.toUInt8 :: (wb ++ '.'.toUInt8 :: (wc ++ '.'.toUInt8 :: wd))) addr

/-- Characters of `skip` and complete tags. -/
inductive Filler (skip : UInt8 → Bool) : List UInt8 → Prop
  | nil : Filler skip []
  | char {c : UInt8} {w : List UInt8} (hc : skip c = true) (hw : Filler skip w) :
      Filler skip (c :: w)
  | tag {body w : List UInt8} (hbody : '>'.toUInt8 ∉ body) (hw : Filler skip w) :
      Filler skip ('<'.toUInt8 :: (body ++ '>'.toUInt8 :: w))

/-- What the scanner takes for the space around tags. -/
def blankOrClose (c : UInt8) : Bool := isBlank c || c == '>'.toUInt8

lemma blankOrClose_of_digit (c : UInt8) : isAsciiDigit c = true → blankOrClose c = false :=
  Wire.forall_byte (P := fun c => isAsciiDigit c = true → blankOrClose c = false) (by decide +kernel) c

lemma Filler.append {skip : UInt8 → Bool} {s w : List UInt8} (hs : ∀ c ∈ s, skip c = true)
    (hw : Filler skip w) : Filler skip (s ++ w) := by
  induction s with
  | nil => exact hw
  | cons c s ih =>
    exact .char (hs c List.mem_cons_self) (ih (fun x hx => hs x (List.mem_cons_of_mem c hx)))

variable {b w l rest : List UInt8} {pos : Nat}

/-! ### An octet -/

/-- The octet loop at a run of digits. -/
lemma readOctet_run (h : At b pos (w ++ rest)) (hrun : IsRun isAsciiDigit w rest) (hne : w ≠ [])
    (k : Nat) : readOctet b k pos =
      if hv : numeralValue w < 256 then
        if k < 3 then
          match rest with
          | c :: _ =>
            if c = '.'.toUInt8 then .ok (some (⟨numeralValue w, hv⟩, pos + w.length + 1))
            else .ok none
          | [] => .ok none
        else .ok (some (⟨numeralValue w, hv⟩, pos + w.length))
      else .ok none := by
  have hlen := List.length_pos_iff.mpr hne
  have hpos : ¬pos = pos + w.length := by omega
  rw [readOctet, h.skipWhile_length hrun]
  simp only [bind, Except.bind, h.slice, parse_digits hne hrun.all, if_neg hpos]
  by_cases hv : numeralValue w < 256
  · rw [if_pos (by omega : numeralValue w < 2 ^ 32), dif_pos hv]
    dsimp only
    rw [dif_pos hv]
    split
    · cases rest with
      | nil =>
        rw [List.append_nil] at h
        rw [if_neg (by rw [← h.length_eq]; omega)]
      | cons c rest =>
        rw [if_pos h.append.lt, h.append.readAt]
    · rfl
  · rw [dif_neg hv]
    by_cases h32 : numeralValue w < 2 ^ 32
    · rw [if_pos h32]
      dsimp only
      rw [dif_neg hv]
    · rw [if_neg h32]

lemma readOctet_nil (h : At b pos (w ++ rest)) (hrun : IsRun isAsciiDigit w rest) (hne : w = [])
    (k : Nat) : readOctet b k pos = .ok none := by
  rw [readOctet, h.skipWhile_length hrun, hne]
  exact if_pos rfl

/-- An octet before a dot is read in each of the first three places. -/
lemma readOctet_dot {o : Fin 256} {k : Nat} (hk : k < 3) (h : At b pos (w ++ '.'.toUInt8 :: rest))
    (hw : Numeral w o) : readOctet b k pos = .ok (some (o, pos + w.length + 1)) := by
  have hrun : IsRun isAsciiDigit w ('.'.toUInt8 :: rest) :=
    ⟨hw.digits, fun c hc => by cases hc; decide⟩
  have hv : numeralValue w < 256 := hw.value ▸ o.isLt
  rw [readOctet_run h hrun hw.ne_nil, dif_pos hv, if_pos hk]
  simp [hw.value]

lemma readOctet_last {o : Fin 256} {k : Nat} (hk : ¬k < 3) (h : At b pos (w ++ rest))
    (hw : Numeral w o) (hstop : ∀ c ∈ rest.head?, isAsciiDigit c = false) :
    readOctet b k pos = .ok (some (o, pos + w.length)) := by
  have hv : numeralValue w < 256 := hw.value ▸ o.isLt
  rw [readOctet_run h ⟨hw.digits, hstop⟩ hw.ne_nil, dif_pos hv, if_neg hk]
  simp [hw.value]

lemma readOctet_cases (h : At b pos l) (k : Nat) :
    readOctet b k pos = .ok none ∨ ∃ (w rest : List UInt8) (o : Fin 256),
      l = w ++ rest ∧ Numeral w o ∧ ∀ c ∈ rest.head?, isAsciiDigit c = false := by
  obtain ⟨w, rest, rfl, hrun⟩ := exists_run isAsciiDigit l
  by_cases hne : w = []
  · exact .inl (readOctet_nil h hrun hne k)
  by_cases hv : numeralValue w < 256
  · exact .inr ⟨w, rest, ⟨numeralValue w, hv⟩, rfl, ⟨hne, hrun.all, rfl⟩, hrun.stop⟩
  · left
    rw [readOctet_run h hrun hne, dif_neg hv]

/-- In the first three places an octet before a dot is read, or none. -/
lemma readOctet_dot_cases {k : Nat} (hk : k < 3) (h : At b pos l) :
    readOctet b k pos = .ok none ∨ ∃ (w rest : List UInt8) (o : Fin 256),
      l = w ++ '.'.toUInt8 :: rest ∧ Numeral w o ∧ At b (pos + w.length + 1) rest ∧
        readOctet b k pos = .ok (some (o, pos + w.length + 1)) := by
  rcases readOctet_cases h k with hnone | ⟨w, rest, o, rfl, hw, hstop⟩
  · exact .inl hnone
  have hv : numeralValue w < 256 := hw.value ▸ o.isLt
  have hread := readOctet_run h ⟨hw.digits, hstop⟩ hw.ne_nil k
  rw [dif_pos hv, if_pos hk] at hread
  cases rest with
  | nil => exact .inl hread
  | cons c rest =>
    by_cases hc : c = '.'.toUInt8
    · subst hc
      exact .inr ⟨w, rest, o, rfl, hw, h.append.next, readOctet_dot hk h hw⟩
    · dsimp only at hread
      rw [if_neg hc] at hread
      exact .inl hread

/-! ### Where the number begins -/

lemma portStart_skip {fuel : Nat} {c : UInt8} (h : At b pos (c :: l))
    (hc : blankOrClose c = true) :
    portStart b (fuel + 1) pos = portStart b (fuel + 1) (pos + 1) := by
  obtain ⟨s, rest, rfl, hrun⟩ := exists_run blankOrClose l
  have hfront : IsRun blankOrClose (c :: s) rest :=
    ⟨List.forall_mem_cons.mpr ⟨hc, hrun.all⟩, hrun.stop⟩
  have hsame : pos + (c :: s).length = pos + 1 + s.length := by
    rw [List.length_cons]
    omega
  have hat : At b pos ((c :: s) ++ rest) := h
  have hskip := hat.skipWhile_length hfront
  have hskip' := h.next.skipWhile_length hrun
  unfold blankOrClose at hskip hskip'
  rw [portStart, portStart, hskip, hskip', hsame]

lemma portStart_run {fuel : Nat} {s : List UInt8} (hs : ∀ c ∈ s, blankOrClose c = true)
    (h : At b pos (s ++ l)) :
    portStart b (fuel + 1) pos = portStart b (fuel + 1) (pos + s.length) := by
  induction s generalizing pos with
  | nil => rfl
  | cons c s ih =>
    have htail := ih (fun x hx => hs x (List.mem_cons_of_mem c hx)) (At.next h)
    rw [portStart_skip h (hs c List.mem_cons_self), htail, List.length_cons, Nat.add_assoc,
      Nat.add_comm 1]

/-- Where nothing is skipped the loop looks at the byte before it. -/
lemma portStart_cons (fuel : Nat) {c : UInt8} (h : At b pos (c :: l))
    (hc : blankOrClose c = false) : portStart b (fuel + 1) pos =
      if isAsciiDigit c then .ok (some pos)
      else if c = '<'.toUInt8 then do
        let p ← skipWhile (fun c => c != '>'.toUInt8) b (b.length + 1) pos
        if p < b.length then portStart b fuel (p + 1) else .ok none
      else .ok none := by
  have hskip := h.skipWhile_nil (p := blankOrClose) (fun x hx => by cases hx; exact hc)
  unfold blankOrClose at hskip
  rw [portStart, hskip]
  simp only [bind, Except.bind, if_pos h.lt, h.readAt]

/-- At a tag the loop goes on behind it. -/
lemma portStart_tag {fuel : Nat} {body : List UInt8} (hbody : '>'.toUInt8 ∉ body)
    (h : At b pos ('<'.toUInt8 :: (body ++ '>'.toUInt8 :: l))) :
    portStart b (fuel + 1) pos = portStart b fuel (pos + (body.length + 1) + 1) := by
  have hrun : IsRun (fun c => c != '>'.toUInt8) ('<'.toUInt8 :: body) ('>'.toUInt8 :: l) := by
    refine ⟨fun c hc => bne_iff_ne.mpr ?_, fun c hc => by cases hc; decide⟩
    rintro rfl
    rcases List.mem_cons.mp hc with hlt | hmem
    · exact absurd hlt (by decide)
    · exact hbody hmem
  have hat : At b pos (('<'.toUInt8 :: body) ++ '>'.toUInt8 :: l) := h
  have hclose := hat.skipWhile_length hrun
  have hlt := hat.append.lt
  rw [portStart_cons fuel h (by decide), if_neg (by decide), if_pos rfl, hclose]
  exact if_pos hlt

/-- At the end of the text there is no number. -/
lemma portStart_nil (fuel : Nat) (h : At b pos []) : portStart b (fuel + 1) pos = .ok none := by
  have hskip := h.skipWhile_nil (p := blankOrClose) (by simp)
  unfold blankOrClose at hskip
  rw [portStart, hskip]
  exact if_neg h.not_lt

/-- Behind a tag that nothing closes there is no number. -/
lemma portStart_unclosed (fuel : Nat) {body : List UInt8}
    (hbody : ∀ c ∈ body, (c != '>'.toUInt8) = true) (h : At b pos ('<'.toUInt8 :: body)) :
    portStart b (fuel + 1) pos = .ok none := by
  have hat : At b pos (('<'.toUInt8 :: body) ++ []) := by
    rw [List.append_nil]
    exact h
  have hstop := hat.skipWhile_length (p := fun c => c != '>'.toUInt8)
    ⟨List.forall_mem_cons.mpr ⟨by decide, hbody⟩, by simp⟩
  rw [portStart_cons fuel h (by decide), if_neg (by decide), if_pos rfl, hstop]
  exact if_neg hat.append.not_lt

/-- Behind blanks and tags the loop finds the number. -/
lemma portStart_filler {g : List UInt8} (hg : Filler blankOrClose g) {c : UInt8}
    (hc : isAsciiDigit c = true) {fuel : Nat} (h : At b pos (g ++ c :: rest))
    (hfuel : g.length < fuel) : portStart b fuel pos = .ok (some (pos + g.length)) := by
  obtain ⟨fuel, rfl⟩ := Nat.exists_eq_add_one_of_ne_zero (Nat.ne_of_gt (Nat.zero_lt_of_lt hfuel))
  induction hg generalizing pos fuel with
  | nil => rw [portStart_cons _ h (blankOrClose_of_digit c hc), if_pos hc]; rfl
  | char hx _ ih =>
    rw [List.length_cons] at hfuel ⊢
    rw [portStart_skip h hx, ih h.next fuel (by omega), Nat.add_assoc, Nat.add_comm 1]
  | @tag body w hbody _ ih =>
    have hat : At b pos ('<'.toUInt8 :: (body ++ '>'.toUInt8 :: (w ++ c :: rest))) := by
      simpa using h
    have hlen : ('<'.toUInt8 :: (body ++ '>'.toUInt8 :: w)).length =
        body.length + 2 + w.length := by
      simp
      omega
    rw [hlen] at hfuel ⊢
    obtain ⟨fuel, rfl⟩ := Nat.exists_eq_add_one_of_ne_zero (by omega : fuel ≠ 0)
    have hnext : At b (pos + (body.length + 1) + 1) (w ++ c :: rest) :=
      (At.append (w := '<'.toUInt8 :: body) hat).next
    rw [portStart_tag hbody hat, ih hnext fuel (by omega)]
    congr 2
    omega

/-- What the loop finds: no number, or one behind blanks and tags. -/
lemma portStart_cases {fuel : Nat} (h : At b pos l) (hfuel : l.length < fuel) :
    portStart b fuel pos = .ok none ∨
      ∃ g c rest, l = g ++ c :: rest ∧ Filler blankOrClose g ∧ isAsciiDigit c = true := by
  induction fuel generalizing pos l with
  | zero => omega
  | succ fuel ih =>
    obtain ⟨s, rest, rfl, hrun⟩ := exists_run blankOrClose l
    have hrest := h.append
    rw [portStart_run hrun.all h]
    cases rest with
    | nil => exact .inl (portStart_nil fuel hrest)
    | cons c rest =>
      have hcons := portStart_cons fuel hrest (hrun.stop c rfl)
      by_cases hdigit : isAsciiDigit c = true
      · exact .inr ⟨s, c, rest, rfl, by simpa using Filler.append hrun.all .nil, hdigit⟩
      rw [if_neg hdigit] at hcons
      by_cases hopen : c = '<'.toUInt8
      · -- behind the tag the argument starts again
        subst hopen
        obtain ⟨body, tail, rfl, hbody⟩ := exists_run (fun c => c != '>'.toUInt8) rest
        have hfresh : '>'.toUInt8 ∉ body := fun hmem => by simpa using hbody.all _ hmem
        cases tail with
        | nil =>
          rw [List.append_nil] at hrest
          exact .inl (portStart_unclosed fuel hbody.all hrest)
        | cons d tail =>
          obtain rfl : d = '>'.toUInt8 := by simpa using hbody.stop d rfl
          have hnext : At b (pos + s.length + (body.length + 1) + 1) tail :=
            (At.append (w := '<'.toUInt8 :: body) hrest).next
          have hshort : tail.length < fuel := by
            simp only [List.length_append, List.length_cons] at hfuel
            omega
          rw [portStart_tag hfresh hrest]
          rcases ih hnext hshort with hnone | ⟨g, c, r, rfl, hg, hc⟩
          · exact .inl hnone
          · exact .inr ⟨s ++ '<'.toUInt8 :: (body ++ '>'.toUInt8 :: g), c, r, by simp,
              Filler.append hrun.all (.tag hfresh hg), hc⟩
      · left
        rw [hcons, if_neg hopen]

/-! ### A row -/

/-- An address, what separates it from a port, the port, and no digit behind it. -/
inductive Row (separates : List UInt8 → Prop) : List UInt8 → Ipv4Addr → UInt16 → Nat → Prop
  | intro {w sep wp rest : List UInt8} {addr : Ipv4Addr} {port : UInt16}
      (haddr : AddressText w addr) (hsep : separates sep) (hport : Numeral wp port.toNat)
      (hne : port ≠ 0) (hstop : ∀ c ∈ rest.head?, isAsciiDigit c = false) :
      Row separates (w ++ (sep ++ (wp ++ rest))) addr port (w.length + sep.length + wp.length)

def IsColon (sep : List UInt8) : Prop := sep = [':'.toUInt8]

/-- A colon, or blanks and tags. -/
def IsSeparator (sep : List UInt8) : Prop := IsColon sep ∨ sep ≠ [] ∧ Filler isBlank sep

/-- What the scanner takes for a separator. -/
def IsSkipped (sep : List UInt8) : Prop := IsColon sep ∨ sep ≠ [] ∧ Filler blankOrClose sep

/-! ### The parts of a row -/

lemma matchIp_address {addr : Ipv4Addr} (hw : AddressText w addr)
    (hstop : ∀ c ∈ rest.head?, isAsciiDigit c = false) :
    matchIp (w ++ rest) = .ok (some (addr, w.length)) := by
  cases hw with
  | @intro wa wb wc wd addr ha hb hc hd =>
    obtain ⟨l, hl⟩ : ∃ l, l = wa ++ '.'.toUInt8 :: (wb ++ '.'.toUInt8 :: (wc ++ '.'.toUInt8 ::
      (wd ++ rest))) := ⟨_, rfl⟩
    have hwhole : (wa ++ '.'.toUInt8 :: (wb ++ '.'.toUInt8 :: (wc ++ '.'.toUInt8 :: wd))) ++ rest =
        l := by
      simp [hl]
    have h0 : At l 0 (wa ++ '.'.toUInt8 :: (wb ++ '.'.toUInt8 :: (wc ++ '.'.toUInt8 ::
      (wd ++ rest)))) := hl ▸ At.start _
    have h1 := h0.append.next
    have h2 := h1.append.next
    have h3 := h2.append.next
    have hread0 := readOctet_dot (k := 0) (by decide) h0 ha
    have hread1 := readOctet_dot (k := 1) (by decide) h1 hb
    have hread2 := readOctet_dot (k := 2) (by decide) h2 hc
    have hread3 := readOctet_last (k := 3) (by decide) h3 hd hstop
    rw [hwhole, matchIp]
    simp only [bind, Except.bind, hread0, hread1, hread2, hread3, Except.ok.injEq,
      Option.some.injEq, Prod.mk.injEq, List.length_append, List.length_cons, true_and]
    omega

lemma matchIp_cases (b : List UInt8) : matchIp b = .ok none ∨
    ∃ w rest addr, b = w ++ rest ∧ AddressText w addr ∧
      ∀ c ∈ rest.head?, isAsciiDigit c = false := by
  rcases readOctet_dot_cases (k := 0) (by decide) (At.start b) with
    hnone | ⟨wa, r0, oa, rfl, ha, h1, hread0⟩
  · left
    simp only [matchIp, bind, Except.bind, hnone]
  rcases readOctet_dot_cases (k := 1) (by decide) h1 with
    hnone | ⟨wb, r1, ob, rfl, hb, h2, hread1⟩
  · left
    simp only [matchIp, bind, Except.bind, hread0, hnone]
  rcases readOctet_dot_cases (k := 2) (by decide) h2 with
    hnone | ⟨wc, r2, oc, rfl, hc, h3, hread2⟩
  · left
    simp only [matchIp, bind, Except.bind, hread0, hread1, hnone]
  rcases readOctet_cases h3 3 with hnone | ⟨wd, rest, od, rfl, hd, hstop⟩
  · left
    simp only [matchIp, bind, Except.bind, hread0, hread1, hread2, hnone]
  exact .inr ⟨_, rest, ⟨oa, ob, oc, od⟩, by simp, .intro ha hb hc hd, hstop⟩

/-- The port at a run of digits. -/
lemma readPort_run (h : At b pos (w ++ rest)) (hrun : IsRun isAsciiDigit w rest) :
    readPort b pos =
      if w ≠ [] ∧ numeralValue w < 2 ^ 16 ∧ numeralValue w ≠ 0 then
        .ok (some (UInt16.ofNat (numeralValue w), pos + w.length))
      else .ok none := by
  rw [readPort, h.skipWhile_length hrun]
  by_cases hne : w = []
  · simp [bind, Except.bind, hne]
  · have hlen := List.length_pos_iff.mpr hne
    simp only [bind, Except.bind, h.slice, parse_digits hne hrun.all,
      if_neg (by omega : ¬pos = pos + w.length)]
    by_cases hlt : numeralValue w < 2 ^ 16
    · rw [if_pos hlt]
      by_cases hzero : numeralValue w = 0
      · rw [if_neg (fun hall => hall.2.2 hzero)]
        exact if_pos hzero
      · rw [if_pos ⟨hne, hlt, hzero⟩]
        exact if_neg hzero
    · rw [if_neg hlt, if_neg (fun hall => hlt hall.2.1)]

lemma readPort_numeral {port : UInt16} (hw : Numeral w port.toNat) (hne : port ≠ 0)
    (hstop : ∀ c ∈ rest.head?, isAsciiDigit c = false) (h : At b pos (w ++ rest)) :
    readPort b pos = .ok (some (port, pos + w.length)) := by
  have hzero : port.toNat ≠ 0 := fun h0 => hne (UInt16.toNat_inj.mp h0)
  rw [readPort_run h ⟨hw.digits, hstop⟩, hw.value,
    if_pos ⟨hw.ne_nil, UInt16.toNat_lt port, hzero⟩, UInt16.ofNat_toNat]

lemma readPort_cases (h : At b pos l) : readPort b pos = .ok none ∨
    ∃ (w rest : List UInt8) (port : UInt16), l = w ++ rest ∧ Numeral w port.toNat ∧ port ≠ 0 ∧
      ∀ c ∈ rest.head?, isAsciiDigit c = false := by
  obtain ⟨w, rest, rfl, hrun⟩ := exists_run isAsciiDigit l
  by_cases hport : w ≠ [] ∧ numeralValue w < 2 ^ 16 ∧ numeralValue w ≠ 0
  · obtain ⟨hne, hlt, hzero⟩ := hport
    have hvalue : (UInt16.ofNat (numeralValue w)).toNat = numeralValue w :=
      UInt16.toNat_ofNat_of_lt hlt
    refine .inr ⟨w, rest, UInt16.ofNat (numeralValue w), rfl, ⟨hne, hrun.all, hvalue.symm⟩, ?_,
      hrun.stop⟩
    intro h0
    rw [h0] at hvalue
    exact hzero hvalue.symm
  · left
    rw [readPort_run h hrun, if_neg hport]

lemma matchPort_of_portStart (h : At b pos l) (hcolon : ¬∃ tail, l = ':'.toUInt8 :: tail)
    {start : Option Nat} (hstart : portStart b (b.length + 1) pos = .ok start) :
    matchPort b pos = start.elim (.ok none) (readPort b) := by
  have hother : byteIs ':'.toUInt8 b pos = .ok false := by
    cases l with
    | nil => rw [byteIs, if_neg h.not_lt]
    | cons c tail =>
      have hc : c ≠ ':'.toUInt8 := fun hc => hcolon ⟨tail, by rw [hc]⟩
      rw [byteIs, if_pos h.lt, h.readAt, Except.map, beq_false_of_ne hc]
  rw [matchPort, hother]
  simp only [bind, Except.bind, hstart]
  cases start <;> rfl

lemma matchPort_of_colon (h : At b pos (':'.toUInt8 :: l)) :
    matchPort b pos = readPort b (pos + 1) := by
  rw [matchPort, byteIs, if_pos h.lt, h.readAt]
  rfl

lemma matchPort_separator {sep wp : List UInt8} {port : UInt16} (hsep : IsSkipped sep)
    (hport : Numeral wp port.toNat) (hne : port ≠ 0)
    (hstop : ∀ c ∈ rest.head?, isAsciiDigit c = false) (h : At b pos (sep ++ (wp ++ rest))) :
    matchPort b pos = .ok (some (port, pos + sep.length + wp.length)) := by
  have hread := readPort_numeral hport hne hstop h.append
  rcases hsep with hcolon | ⟨hsep, hfiller⟩
  · obtain rfl : sep = [':'.toUInt8] := hcolon
    rw [matchPort_of_colon h]
    exact hread
  · obtain ⟨c, wp, rfl⟩ := List.exists_cons_of_ne_nil hport.ne_nil
    have hfuel : sep.length < b.length + 1 := by
      have hlen := h.length_eq
      rw [List.length_append] at hlen
      omega
    have hstart := portStart_filler hfiller (hport.digits c List.mem_cons_self) h hfuel
    rw [matchPort_of_portStart h ?_ hstart]
    · exact hread
    · rintro ⟨tail, heq⟩
      obtain ⟨x, xs, rfl⟩ := List.exists_cons_of_ne_nil hsep
      obtain rfl := (List.cons.inj heq).1
      cases hfiller with
      | char hx _ => exact absurd hx (by decide)

lemma matchPort_cases (h : At b pos l) (hdigit : ∀ c ∈ l.head?, isAsciiDigit c = false) :
    matchPort b pos = .ok none ∨
      ∃ (sep wp rest : List UInt8) (port : UInt16), l = sep ++ (wp ++ rest) ∧ IsSkipped sep ∧
        Numeral wp port.toNat ∧ port ≠ 0 ∧ ∀ c ∈ rest.head?, isAsciiDigit c = false := by
  by_cases hcolon : ∃ tail, l = ':'.toUInt8 :: tail
  · obtain ⟨tail, rfl⟩ := hcolon
    rcases readPort_cases h.next with hnone | ⟨wp, rest, port, rfl, hport, hne, hstop⟩
    · exact .inl (by rw [matchPort_of_colon h, hnone])
    · exact .inr ⟨[':'.toUInt8], wp, rest, port, rfl, .inl rfl, hport, hne, hstop⟩
  · have hlen := h.length_eq
    have hfuel : l.length < b.length + 1 := by omega
    rcases portStart_cases h hfuel with hnone | ⟨g, c, tail, rfl, hg, hc⟩
    · exact .inl (matchPort_of_portStart h hcolon hnone)
    · have hshort : g.length < b.length + 1 := by
        rw [List.length_append] at hlen
        omega
      have hstart := portStart_filler hg hc h hshort
      rw [matchPort_of_portStart h hcolon hstart]
      rcases readPort_cases h.append with hnone | ⟨wp, rest, port, heq, hport, hne, hstop⟩
      · exact .inl hnone
      · have hgap : g ≠ [] := by
          rintro rfl
          rw [hdigit c rfl] at hc
          cases hc
        exact .inr ⟨g, wp, rest, port, by rw [heq], .inr ⟨hgap, hg⟩, hport, hne, hstop⟩

/-- No digit begins a separator. -/
lemma IsSkipped.head {sep : List UInt8} (h : IsSkipped sep) (l : List UInt8) :
    ∀ c ∈ (sep ++ l).head?, isAsciiDigit c = false := by
  intro c hc
  rcases h with hcolon | ⟨hne, hfiller⟩
  · obtain rfl : sep = [':'.toUInt8] := hcolon
    cases hc
    decide
  · cases hfiller with
    | nil => exact absurd rfl hne
    | char hx _ =>
      cases hc
      rw [← Bool.not_eq_true]
      intro hdigit
      rw [blankOrClose_of_digit c hdigit] at hx
      cases hx
    | tag _ _ =>
      cases hc
      decide

lemma Row.port_ne_zero {separates : List UInt8 → Prop} {addr : Ipv4Addr} {port : UInt16} {n : Nat}
    (h : Row separates l addr port n) : port ≠ 0 := by
  cases h with
  | intro _ _ _ hne _ => exact hne

/-- A row is matched, with its address, its port and its length. -/
theorem matchIpPort_row {addr : Ipv4Addr} {port : UInt16} {n : Nat}
    (h : Row IsSkipped b addr port n) : matchIpPort b = .ok (some (addr.text, port, n)) := by
  cases h with
  | @intro w sep wp rest _ _ haddr hsep hport hne hstop =>
    have hip := matchIp_address haddr (hsep.head (wp ++ rest))
    have hat := At.append (At.start (w ++ (sep ++ (wp ++ rest))))
    rw [Nat.zero_add] at hat
    simp only [matchIpPort, bind, Except.bind, hip, matchPort_separator hsep hport hne hstop hat]

/-- What is matched is a row. -/
theorem matchIpPort_cases (b : List UInt8) : matchIpPort b = .ok none ∨
    ∃ addr port n, Row IsSkipped b addr port n := by
  rcases matchIp_cases b with hnone | ⟨w, rest, addr, rfl, haddr, hdigit⟩
  · left
    rw [matchIpPort, hnone]
    rfl
  · have hip := matchIp_address haddr hdigit
    have hat := At.append (At.start (w ++ rest))
    rw [Nat.zero_add] at hat
    rcases matchPort_cases hat hdigit with hnone |
      ⟨sep, wp, rest, port, rfl, hsep, hport, hne, hstop⟩
    · left
      simp only [matchIpPort, bind, Except.bind, hip, hnone]
    · exact .inr ⟨addr, port, _, .intro haddr hsep hport hne hstop⟩

end HtmlSource

end IPProxyPool
