import IPProxyPool.Lib.Text

/-!
# A line-based exposition format of metrics

The Prometheus text format: each line is blank, a comment, the help or the type of a metric, or a
sample, whose label values stand in quotes with `\\`, `\"` and `\n` escaped.
-/

namespace Exposition

def isBlank (c : Char) : Bool := c == ' ' || c == '\t'

def skipBlanks (l : List Char) : List Char := l.dropWhile isBlank

/-- The next token and what follows it. -/
def nextToken (l : List Char) : List Char × List Char := (skipBlanks l).span (fun c => !isBlank c)

def isLabelStart (c : Char) : Bool := c.isAlpha || c == '_'

def isLabelChar (c : Char) : Bool := c.isAlphanum || c == '_'

def isMetricStart (c : Char) : Bool := isLabelStart c || c == ':'

def isMetricChar (c : Char) : Bool := isLabelChar c || c == ':'

def isName (start more : Char → Bool) : List Char → Bool
  | [] => false
  | c :: cs => start c && cs.all more

def readName (start more : Char → Bool) : List Char → Option (List Char × List Char)
  | [] => none
  | c :: cs => if start c then some (c :: cs.takeWhile more, cs.dropWhile more) else none

abbrev MetricName := {l : List Char // isName isMetricStart isMetricChar l = true}

abbrev LabelName := {l : List Char // isName isLabelStart isLabelChar l = true}

def unescape : Char → Option Char
  | '\\' => some '\\'
  | '"' => some '"'
  | 'n' => some '\n'
  | _ => none

/-- A label value after its opening quote, and what follows its closing one. -/
def readQuoted : List Char → Option (List Char × List Char)
  | [] => none
  | c :: l =>
    if c = '"' then some ([], l)
    else if c = '\\' then
      match l with
      | [] => none
      | e :: l' => do
        let d ← unescape e
        let (value, rest) ← readQuoted l'
        return (d :: value, rest)
    else (readQuoted l).map (fun p => (c :: p.1, p.2))

def expect (c : Char) (l : List Char) : Option (List Char) :=
  match skipBlanks l with
  | [] => none
  | d :: rest => if d = c then some rest else none

def readLabel (l : List Char) : Option ((List Char × List Char) × List Char) := do
  let (name, l) ← readName isLabelStart isLabelChar (skipBlanks l)
  let l ← expect '=' l
  let l ← expect '"' l
  let (value, l) ← readQuoted l
  return ((name, value), l)

/-- The labels after an opening brace; the last one may be followed by a comma. -/
def readLabels : Nat → List Char → Option (List (List Char × List Char) × List Char)
  | 0, _ => none
  | fuel + 1, l =>
    match expect '}' l with
    | some rest => some ([], rest)
    | none => do
      let (label, l) ← readLabel l
      match expect ',' l with
      | some l => (readLabels fuel l).map (fun p => (label :: p.1, p.2))
      | none => (expect '}' l).map (fun rest => ([label], rest))

def isDigits (l : List Char) : Bool := !l.isEmpty && l.all Char.isDigit

def dropSign : List Char → List Char
  | [] => []
  | c :: cs => if c = '+' ∨ c = '-' then cs else c :: cs

def isExponent : List Char → Bool
  | [] => true
  | c :: cs => (c == 'e' || c == 'E') && isDigits (dropSign cs)

/-- A number in decimal notation, an infinity or `NaN`. -/
def isFloat (l : List Char) : Bool :=
  let body := dropSign l
  let whole := body.takeWhile Char.isDigit
  let lower := body.map Char.toLower
  lower == "inf".toList || lower == "infinity".toList || l.map Char.toLower == "nan".toList ||
    match body.dropWhile Char.isDigit with
    | '.' :: l =>
      (!whole.isEmpty || !(l.takeWhile Char.isDigit).isEmpty) &&
        isExponent (l.dropWhile Char.isDigit)
    | l => !whole.isEmpty && isExponent l

structure Reading where
  name : List Char
  labels : List (List Char × List Char)
  value : List Char
  timestamp : Option (List Char)
  deriving DecidableEq

/-- The value and the timestamp that may follow it. -/
def readValue (l : List Char) : Option (List Char × Option (List Char)) :=
  let (value, l) := nextToken l
  let (timestamp, l) := nextToken l
  if isFloat value && skipBlanks l == [] then
    if timestamp = [] then some (value, none)
    else if isDigits (dropSign timestamp) then some (value, some timestamp)
    else none
  else none

def readSample (l : List Char) : Option Reading := do
  let (name, l) ← readName isMetricStart isMetricChar l
  let (labels, l) ← match expect '{' l with
    | some l => readLabels (l.length + 1) l
    | none => some ([], l)
  let (value, timestamp) ← readValue l
  return ⟨name, labels, value, timestamp⟩

inductive Line where
  | blank
  | comment
  | help (name doc : List Char)
  | type (name kind : List Char)
  | sample (reading : Reading)
  deriving DecidableEq

/-- In a help text only `\\` and `\n` are escapes. -/
def isDoc : List Char → Bool
  | [] => true
  | c :: l =>
    if c = '\\' then
      match l with
      | [] => false
      | e :: l' => (e == '\\' || e == 'n') && isDoc l'
    else isDoc l

def kinds : List (List Char) :=
  ["counter".toList, "gauge".toList, "histogram".toList, "summary".toList, "untyped".toList]

def isMetricName (l : List Char) : Bool := isName isMetricStart isMetricChar l

/-- The comment after its `#`. -/
def readComment (l : List Char) : Option Line :=
  let (keyword, l) := nextToken l
  let (name, l) := nextToken l
  if keyword = "HELP".toList then
    if isMetricName name && isDoc (skipBlanks l) then some (.help name (skipBlanks l)) else none
  else if keyword = "TYPE".toList then
    let (kind, l) := nextToken l
    if isMetricName name && kinds.contains kind && skipBlanks l == [] then some (.type name kind)
    else none
  else some .comment

def parseLine (l : List Char) : Option Line :=
  match skipBlanks l with
  | [] => some .blank
  | c :: rest => if c = '#' then readComment rest else (readSample (c :: rest)).map .sample

/-- The lines of a text; one that is not terminated counts as well. -/
def lines : List Char → List (List Char)
  | [] => []
  | c :: l =>
    if c = '\n' then [] :: lines l
    else match lines l with
      | [] => [[c]]
      | line :: rest => (c :: line) :: rest

def Line.reading : Line → Option Reading
  | .sample r => some r
  | _ => none

/-- The samples of the lines that can be read. -/
def readings (text : List Char) : List Reading :=
  (lines text).filterMap (fun l => (parseLine l).bind Line.reading)

/-! ### Quoted values -/

/-- A label value that needs no escapes. -/
def Plain (v : List Char) : Prop := '"' ∉ v ∧ '\\' ∉ v ∧ '\n' ∉ v

instance (v : List Char) : Decidable (Plain v) := inferInstanceAs (Decidable (_ ∧ _ ∧ _))

def cutLine (l : List Char) : List Char := l.takeWhile (· ≠ '\n')

lemma readQuoted_quote (l : List Char) : readQuoted ('"' :: l) = some ([], l) := by
  rw [readQuoted.eq_def]
  exact if_pos rfl

lemma readQuoted_of_ne {c : Char} (hquote : c ≠ '"') (hescape : c ≠ '\\') (l : List Char) :
    readQuoted (c :: l) = (readQuoted l).map (fun p => (c :: p.1, p.2)) := by
  rw [readQuoted.eq_def]
  exact (if_neg hquote).trans (if_neg hescape)

lemma readQuoted_escape {l value rest : List Char}
    (h : readQuoted ('\\' :: l) = some (value, rest)) :
    ∃ e l' d v, l = e :: l' ∧ unescape e = some d ∧ value = d :: v ∧
      readQuoted l' = some (v, rest) := by
  rw [readQuoted.eq_def] at h
  simp only [Char.reduceEq, if_false, if_true] at h
  cases l with
  | nil => cases h
  | cons e l' =>
    simp only [Option.bind_eq_bind, Option.bind_eq_some_iff, Prod.exists] at h
    obtain ⟨d, hd, v, r, hv, heq⟩ := h
    cases heq
    exact ⟨e, l', d, v, rfl, hd, rfl, hv⟩

/-- A value and its closing quote take at least their length. -/
lemma length_readQuoted {l value rest : List Char} (h : readQuoted l = some (value, rest)) :
    value.length + rest.length + 1 ≤ l.length := by
  induction l using readQuoted.induct generalizing value rest with
  | case1 => cases h
  | case2 l =>
    rw [readQuoted_quote] at h
    cases h
    simp
  | case3 =>
    obtain ⟨_, _, _, _, hl, _⟩ := readQuoted_escape h
    cases hl
  | case4 e l' hquote ih =>
    obtain ⟨_, _, _, v, hl, -, rfl, hv⟩ := readQuoted_escape h
    cases hl
    have hlen := ih hv
    simp only [List.length_cons]
    omega
  | case5 c l hquote hescape ih =>
    rw [readQuoted_of_ne hquote hescape, Option.map_eq_some_iff] at h
    obtain ⟨⟨v, r⟩, hv, heq⟩ := h
    cases heq
    have hlen := ih hv
    simp only [List.length_cons]
    omega

lemma unescape_eq_backslash {e : Char} (h : unescape e = some '\\') : e = '\\' := by
  unfold unescape at h
  split at h
  · rfl
  · cases h
  · cases h
  · cases h

lemma readQuoted_plain {v : List Char} (hquote : '"' ∉ v) (hescape : '\\' ∉ v) (rest : List Char) :
    readQuoted (v ++ '"' :: rest) = some (v, rest) := by
  induction v with
  | nil => exact readQuoted_quote rest
  | cons c v ih =>
    rw [List.mem_cons, not_or] at hquote hescape
    rw [List.cons_append, readQuoted_of_ne (Ne.symm hquote.1) (Ne.symm hescape.1),
      ih hquote.2 hescape.2]
    rfl

/-- After an escape the value lags behind: what is missing are the backslashes. -/
lemma readQuoted_ne_lag (n : Nat) (u rest : List Char) (r : List Char) :
    readQuoted (u ++ '"' :: rest) ≠ some (List.replicate (n + 1) '\\' ++ u, r) := by
  induction hlen : u.length using Nat.strong_induction_on generalizing n u with
  | _ len ih =>
    intro h
    cases u with
    | nil =>
      rw [List.nil_append, readQuoted_quote] at h
      cases h
    | cons c u =>
      rw [List.cons_append] at h
      by_cases hquote : c = '"'
      · subst hquote
        rw [readQuoted_quote] at h
        cases h
      · by_cases hescape : c = '\\'
        · subst hescape
          obtain ⟨e, l', d, v, hl, hd, hv, hread⟩ := readQuoted_escape h
          rw [List.replicate_succ, List.cons_append, List.cons.injEq] at hv
          obtain ⟨rfl, rfl⟩ := hv
          obtain rfl := unescape_eq_backslash hd
          cases u with
          | nil => cases hl
          | cons c u =>
            rw [List.cons_append, List.cons.injEq] at hl
            obtain ⟨rfl, rfl⟩ := hl
            have hshift : List.replicate n '\\' ++ '\\' :: '\\' :: u =
                List.replicate (n + 1 + 1) '\\' ++ u := by
              rw [List.replicate_succ', List.replicate_succ']
              simp
            rw [hshift] at hread
            exact ih u.length (by rw [← hlen]; simp) (n + 1) u rfl hread
        · rw [readQuoted_of_ne hquote hescape, Option.map_eq_some_iff] at h
          obtain ⟨⟨v, r'⟩, -, heq⟩ := h
          rw [List.replicate_succ, List.cons_append] at heq
          cases heq
          exact hescape rfl

/-- Only a plain value stands for itself. -/
lemma plain_of_readQuoted {v rest r : List Char}
    (h : readQuoted (v ++ '"' :: rest) = some (v, r)) : '"' ∉ v ∧ '\\' ∉ v := by
  induction v with
  | nil => exact ⟨List.not_mem_nil, List.not_mem_nil⟩
  | cons c v ih =>
    rw [List.cons_append] at h
    by_cases hquote : c = '"'
    · subst hquote
      rw [readQuoted_quote] at h
      cases h
    · by_cases hescape : c = '\\'
      · subst hescape
        obtain ⟨e, l', d, w, hl, hd, hw, hread⟩ := readQuoted_escape h
        rw [List.cons.injEq] at hw
        obtain ⟨rfl, rfl⟩ := hw
        obtain rfl := unescape_eq_backslash hd
        cases v with
        | nil => cases hl
        | cons c v =>
          rw [List.cons_append, List.cons.injEq] at hl
          obtain ⟨rfl, rfl⟩ := hl
          exact absurd hread (readQuoted_ne_lag 0 v rest r)
      · rw [readQuoted_of_ne hquote hescape, Option.map_eq_some_iff] at h
        obtain ⟨⟨w, r'⟩, hread, heq⟩ := h
        rw [Prod.mk.injEq, List.cons.injEq] at heq
        obtain ⟨⟨-, rfl⟩, rfl⟩ := heq
        obtain ⟨ihquote, ihescape⟩ := ih hread
        exact ⟨by simp [Ne.symm hquote, ihquote], by simp [Ne.symm hescape, ihescape]⟩

lemma cutLine_append {v : List Char} (h : '\n' ∉ v) (l : List Char) :
    cutLine (v ++ l) = v ++ cutLine l := by
  refine List.takeWhile_append_of_pos (fun c hc => ?_)
  exact decide_eq_true (fun heq => h (heq ▸ hc))

lemma cutLine_cons {c : Char} (h : c ≠ '\n') (l : List Char) :
    cutLine (c :: l) = c :: cutLine l := by
  simp [cutLine, h]

/-- On a line that may be cut, too, a value is read back only if it is plain. -/
lemma plain_of_readQuoted_cut {v rest r : List Char}
    (h : readQuoted (cutLine (v ++ '"' :: rest)) = some (v, r)) : Plain v := by
  have hline : '\n' ∉ v := by
    intro hmem
    obtain ⟨a, b, rfl, ha⟩ := List.eq_append_cons_of_mem hmem
    have hlen := length_readQuoted h
    rw [List.append_assoc, cutLine_append ha] at hlen
    have hcut : cutLine ('\n' :: b ++ '"' :: rest) = [] := rfl
    rw [hcut] at hlen
    simp only [List.length_append, List.length_cons, List.length_nil] at hlen
    omega
  rw [cutLine_append hline, cutLine_cons (by decide)] at h
  obtain ⟨hquote, hescape⟩ := plain_of_readQuoted h
  exact ⟨hquote, hescape, hline⟩

end Exposition
