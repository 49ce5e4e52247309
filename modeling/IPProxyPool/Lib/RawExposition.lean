import IPProxyPool.Lib.Exposition

/-!
# Expositions without escapes

A writer of the exposition format that puts label values in as they are. What is read back shows
that this is right exactly for values that need no escapes.
-/

namespace Exposition

structure Sample where
  name : MetricName
  labels : List (LabelName × List Char)
  /-- Whether a blank follows the commas between the labels. -/
  spaced : Bool
  value : Nat

def rawLabel (label : LabelName × List Char) : List Char :=
  label.1.val ++ '=' :: '"' :: label.2 ++ ['"']

def gap (spaced : Bool) : List Char := if spaced then [' '] else []

/-- The labels and the closing brace. -/
def rawLabels (spaced : Bool) : List (LabelName × List Char) → List Char
  | [] => ['}']
  | [label] => rawLabel label ++ ['}']
  | label :: labels => rawLabel label ++ ',' :: gap spaced ++ rawLabels spaced labels

def Sample.raw (s : Sample) : List Char :=
  let labels := if s.labels = [] then [] else '{' :: rawLabels s.spaced s.labels
  s.name.val ++ labels ++ ' ' :: Nat.toDigits 10 s.value

def labelPairs (labels : List (LabelName × List Char)) : List (List Char × List Char) :=
  labels.map (fun p => (p.1.val, p.2))

def Sample.reading (s : Sample) : Reading :=
  ⟨s.name.val, labelPairs s.labels, Nat.toDigits 10 s.value, none⟩

def helpLine (name doc : List Char) : List Char := "# HELP ".toList ++ name ++ ' ' :: doc

def typeLine (name kind : List Char) : List Char := "# TYPE ".toList ++ name ++ ' ' :: kind

def isHeader (name doc kind : List Char) : Bool :=
  parseLine (helpLine name doc) == some (.help name doc) &&
    parseLine (typeLine name kind) == some (.type name kind) &&
    (helpLine name doc ++ typeLine name kind).all (· != '\n')

/-- A check of a literal can be made on its characters. -/
lemma check_toList {p : List Char → Bool} {s : String} (l : List Char) (hs : s = String.ofList l)
    (h : p l = true) : p s.toList = true := by
  rw [hs, String.toList_ofList, h]

lemma isHeader_toList {name doc kind : String} (n d k : List Char) (hname : name = String.ofList n)
    (hdoc : doc = String.ofList d) (hkind : kind = String.ofList k) (h : isHeader n d k = true) :
    isHeader name.toList doc.toList kind.toList = true := by
  rw [hname, hdoc, hkind, String.toList_ofList, String.toList_ofList, String.toList_ofList, h]

/-- The help and the type of a metric, which are read as such. -/
structure Header where
  name : MetricName
  doc : List Char
  kind : List Char
  valid : isHeader name.val doc kind = true

/-- The samples may have names of their own. -/
structure Family where
  header : Header
  samples : List Sample

def samples (d : List Family) : List Sample := d.flatMap Family.samples

/-- The lines of the family, as far as its label values do not break them, each with the sample
it is to be read as. -/
def Family.pieces (f : Family) : List (List Char × Option Reading) :=
  (helpLine f.header.name.val f.header.doc, none) ::
    (typeLine f.header.name.val f.header.kind, none) ::
    f.samples.map (fun s => (s.raw, some s.reading))

def terminate (pieces : List (List Char × Option Reading)) : List Char :=
  pieces.flatMap (fun p => p.1 ++ ['\n'])

def raw (d : List Family) : List Char := terminate (d.flatMap Family.pieces)

/-- Each line can be read, and the samples read are those of the document, no more and no fewer. -/
structure Faithful (d : List Family) : Prop where
  parses : ∀ l ∈ lines (raw d), (parseLine l).isSome
  exact : readings (raw d) = (samples d).map Sample.reading

/-! ### Tokens -/

lemma skipBlanks_cons {c : Char} (h : isBlank c = false) (l : List Char) :
    skipBlanks (c :: l) = c :: l := by
  rw [skipBlanks, List.dropWhile_cons_of_neg (by simp [h])]

lemma skipBlanks_gap (spaced : Bool) (l : List Char) :
    skipBlanks (gap spaced ++ l) = skipBlanks l := by
  cases spaced with
  | true => rfl
  | false => rfl

lemma expect_self {c : Char} (h : isBlank c = false) (l : List Char) :
    expect c (c :: l) = some l := by
  rw [expect, skipBlanks_cons h]
  exact if_pos rfl

lemma expect_of_ne {c d : Char} (h : isBlank d = false) (hne : d ≠ c) (l : List Char) :
    expect c (d :: l) = none := by
  rw [expect, skipBlanks_cons h]
  exact if_neg hne

lemma readName_append {start more : Char → Bool} {name : List Char} (rest : List Char)
    (hname : isName start more name = true) (hrest : ∀ c ∈ rest.head?, more c = false) :
    readName start more (name ++ rest) = some (name, rest) := by
  cases name with
  | nil => cases hname
  | cons c cs =>
    rw [isName, Bool.and_eq_true, List.all_eq_true] at hname
    have htake : (cs ++ rest).takeWhile more = cs := by
      rw [List.takeWhile_append_of_pos hname.2]
      cases rest with
      | nil => simp
      | cons d rest => simp [hrest d rfl]
    have hdrop : (cs ++ rest).dropWhile more = rest := by
      rw [List.dropWhile_append_of_pos hname.2]
      cases rest with
      | nil => rfl
      | cons d rest => simp [hrest d rfl]
    rw [List.cons_append, readName, if_pos hname.1, htake, hdrop]

/-- A name begins with a letter, `_` or `:`, and no character of it ends a line. -/
lemma isMetricStart_spec {c : Char} (h : isMetricStart c = true) :
    isBlank c = false ∧ c ≠ '#' ∧ c ≠ '}' := by
  refine ⟨?_, ?_, ?_⟩
  · by_contra hblank
    simp only [isBlank, Bool.not_eq_false, Bool.or_eq_true, beq_iff_eq] at hblank
    rcases hblank with rfl | rfl
    · revert h
      decide
    · revert h
      decide
  · rintro rfl
    revert h
    decide
  · rintro rfl
    revert h
    decide

lemma isMetricStart_of_isLabelStart {c : Char} (h : isLabelStart c = true) :
    isMetricStart c = true := by
  rw [isMetricStart, h, Bool.true_or]

lemma isName_ne_nil {start more : Char → Bool} {name : List Char}
    (h : isName start more name = true) : ∃ c cs, name = c :: cs ∧ start c = true := by
  cases name with
  | nil => cases h
  | cons c cs => exact ⟨c, cs, rfl, (Bool.and_eq_true_iff.mp h).1⟩

lemma lf_notMem_name {start more : Char → Bool} {name : List Char}
    (hstart : start '\n' = false) (hmore : more '\n' = false)
    (h : isName start more name = true) : '\n' ∉ name := by
  cases name with
  | nil => exact List.not_mem_nil
  | cons c cs =>
    rw [isName, Bool.and_eq_true, List.all_eq_true] at h
    intro hmem
    rcases List.mem_cons.mp hmem with rfl | hmem
    · exact Bool.false_ne_true (hstart.symm.trans h.1)
    · exact Bool.false_ne_true (hmore.symm.trans (h.2 _ hmem))

lemma lf_notMem_label (name : LabelName) : '\n' ∉ name.val :=
  lf_notMem_name (by decide) (by decide) name.property

lemma lf_notMem_metric (name : MetricName) : '\n' ∉ name.val :=
  lf_notMem_name (by decide) (by decide) name.property

/-! ### Labels -/

lemma readLabel_raw (name : LabelName) (l : List Char) :
    readLabel (name.val ++ '=' :: '"' :: l) =
      (readQuoted l).map (fun p => ((name.val, p.1), p.2)) := by
  obtain ⟨c, cs, hname, hstart⟩ := isName_ne_nil name.property
  have hblank := (isMetricStart_spec (isMetricStart_of_isLabelStart hstart)).1
  have hskip : skipBlanks (name.val ++ '=' :: '"' :: l) = name.val ++ '=' :: '"' :: l := by
    rw [hname, List.cons_append, skipBlanks_cons hblank]
  have hread := readName_append ('=' :: '"' :: l) name.property (fun d hd => by
    cases hd
    decide)
  unfold readLabel
  rw [hskip, hread]
  simp only [Option.bind_eq_bind, Option.bind_some, expect_self (c := '=') (by decide),
    expect_self (c := '"') (by decide)]
  cases readQuoted l with
  | none => rfl
  | some p => rfl

/-- What follows a label. -/
def readMore (fuel : Nat) (label : List Char × List Char) (l : List Char) :
    Option (List (List Char × List Char) × List Char) :=
  match expect ',' l with
  | some l => (readLabels fuel l).map (fun p => (label :: p.1, p.2))
  | none => (expect '}' l).map (fun rest => ([label], rest))

lemma readLabels_raw (fuel : Nat) (name : LabelName) (l : List Char) :
    readLabels (fuel + 1) (name.val ++ '=' :: '"' :: l) =
      (readQuoted l).bind (fun p => readMore fuel (name.val, p.1) p.2) := by
  obtain ⟨c, cs, hname, hstart⟩ := isName_ne_nil name.property
  obtain ⟨hblank, -, hbrace⟩ := isMetricStart_spec (isMetricStart_of_isLabelStart hstart)
  have hopen : expect '}' (name.val ++ '=' :: '"' :: l) = none := by
    rw [hname, List.cons_append, expect_of_ne hblank hbrace]
  rw [readLabels, hopen]
  dsimp only
  rw [readLabel_raw]
  cases readQuoted l with
  | none => rfl
  | some p => rfl

lemma readLabels_gap (fuel : Nat) (spaced : Bool) (l : List Char) :
    readLabels fuel (gap spaced ++ l) = readLabels fuel l := by
  cases fuel with
  | zero => rfl
  | succ fuel =>
    have hexpect : expect '}' (gap spaced ++ l) = expect '}' l := by
      unfold expect
      rw [skipBlanks_gap]
    have hlabel : readLabel (gap spaced ++ l) = readLabel l := by
      unfold readLabel
      rw [skipBlanks_gap]
    rw [readLabels, readLabels, hexpect, hlabel]

lemma rawLabels_cons (spaced : Bool) (label next : LabelName × List Char)
    (labels : List (LabelName × List Char)) (rest : List Char) :
    rawLabels spaced (label :: next :: labels) ++ rest =
      label.1.val ++ '=' :: '"' :: (label.2 ++ '"' ::
        (',' :: (gap spaced ++ (rawLabels spaced (next :: labels) ++ rest)))) := by
  rw [rawLabels, rawLabel]
  · simp
  · simp

lemma rawLabels_singleton (spaced : Bool) (label : LabelName × List Char) (rest : List Char) :
    rawLabels spaced [label] ++ rest =
      label.1.val ++ '=' :: '"' :: (label.2 ++ '"' :: ('}' :: rest)) := by
  simp [rawLabels, rawLabel]

/-- Plain labels are read back. -/
lemma readLabels_plain {spaced : Bool} {labels : List (LabelName × List Char)} {fuel : Nat}
    (hne : labels ≠ []) (hfuel : labels.length ≤ fuel) (hplain : ∀ p ∈ labels, Plain p.2)
    (rest : List Char) :
    readLabels fuel (rawLabels spaced labels ++ rest) = some (labelPairs labels, rest) := by
  induction labels generalizing fuel with
  | nil => exact absurd rfl hne
  | cons label labels ih =>
    obtain ⟨fuel, rfl⟩ : ∃ n, fuel = n + 1 := ⟨fuel - 1, by simp at hfuel; omega⟩
    have hlabel := hplain label List.mem_cons_self
    have hfuel' : labels.length ≤ fuel := Nat.le_of_succ_le_succ hfuel
    cases labels with
    | nil =>
      rw [rawLabels_singleton, readLabels_raw, readQuoted_plain hlabel.1 hlabel.2.1,
        Option.bind_some, readMore, expect_of_ne (by decide) (by decide)]
      dsimp only
      rw [expect_self (by decide)]
      rfl
    | cons next labels =>
      have htail := ih (by simp) hfuel' (fun p hp => hplain p (List.mem_cons_of_mem _ hp))
      rw [rawLabels_cons, readLabels_raw, readQuoted_plain hlabel.1 hlabel.2.1, Option.bind_some,
        readMore, expect_self (by decide)]
      dsimp only
      rw [readLabels_gap, htail]
      rfl

lemma head_readMore {fuel : Nat} {label : List Char × List Char} {l rest : List Char}
    {labels : List (List Char × List Char)} (h : readMore fuel label l = some (labels, rest)) :
    labels.head? = some label := by
  unfold readMore at h
  split at h
  · rw [Option.map_eq_some_iff] at h
    obtain ⟨p, -, heq⟩ := h
    cases heq
    rfl
  · rw [Option.map_eq_some_iff] at h
    obtain ⟨r, -, heq⟩ := h
    cases heq
    rfl

/-- The first label is read from its own text. -/
lemma plain_head {fuel : Nat} {label : LabelName × List Char}
    {labels : List (LabelName × List Char)} {tail r : List Char}
    (h : readLabels fuel (cutLine (label.1.val ++ '=' :: '"' :: (label.2 ++ '"' :: tail))) =
      some (labelPairs (label :: labels), r)) :
    Plain label.2 ∧ ∃ fuel', fuel = fuel' + 1 ∧
      readMore fuel' (label.1.val, label.2) (cutLine tail) =
        some (labelPairs (label :: labels), r) := by
  cases fuel with
  | zero => cases h
  | succ fuel =>
    rw [cutLine_append (lf_notMem_label label.1), cutLine_cons (by decide),
      cutLine_cons (by decide), readLabels_raw, Option.bind_eq_some_iff] at h
    obtain ⟨⟨v, l⟩, hread, hmore⟩ := h
    have hhead := head_readMore hmore
    rw [labelPairs, List.map_cons, List.head?_cons, Option.some.injEq, Prod.mk.injEq] at hhead
    obtain ⟨-, rfl⟩ := hhead
    have hplain := plain_of_readQuoted_cut hread
    rw [cutLine_append hplain.2.2, cutLine_cons (by decide),
      readQuoted_plain hplain.1 hplain.2.1] at hread
    cases hread
    exact ⟨hplain, fuel, rfl, hmore⟩

/-- On a line that may be cut, the labels are read back only if they are plain. -/
lemma plain_of_readLabels {spaced : Bool} {labels : List (LabelName × List Char)} {fuel : Nat}
    {rest r : List Char}
    (h : readLabels fuel (cutLine (rawLabels spaced labels ++ rest)) =
      some (labelPairs labels, r)) : ∀ p ∈ labels, Plain p.2 := by
  induction labels generalizing fuel r with
  | nil => exact fun _ hp => absurd hp List.not_mem_nil
  | cons label labels ih =>
    cases labels with
    | nil =>
      rw [rawLabels_singleton] at h
      intro p hp
      rw [List.mem_singleton.mp hp]
      exact (plain_head h).1
    | cons next labels =>
      rw [rawLabels_cons] at h
      obtain ⟨hplain, fuel, rfl, hmore⟩ := plain_head h
      have hgap : '\n' ∉ gap spaced := by
        cases spaced <;> decide
      rw [cutLine_cons (by decide), readMore, expect_self (by decide)] at hmore
      dsimp only at hmore
      rw [cutLine_append hgap, readLabels_gap, Option.map_eq_some_iff] at hmore
      obtain ⟨⟨labels', r'⟩, hread, heq⟩ := hmore
      rw [Prod.mk.injEq] at heq
      obtain ⟨heq, -⟩ := heq
      rw [labelPairs, List.map_cons, List.cons.injEq] at heq
      obtain ⟨-, rfl⟩ := heq
      intro p hp
      rcases List.mem_cons.mp hp with rfl | hp
      · exact hplain
      · exact ih hread p hp

/-! ### Values and samples -/

lemma isBlank_of_isDigit {c : Char} (h : c.isDigit = true) : isBlank c = false := by
  by_contra hblank
  simp only [isBlank, Bool.not_eq_false, Bool.or_eq_true, beq_iff_eq] at hblank
  rcases hblank with rfl | rfl
  · revert h
    decide
  · revert h
    decide

lemma isDigit_of_mem_toDigits {n : Nat} {c : Char} (h : c ∈ Nat.toDigits 10 n) :
    c.isDigit = true := Nat.isDigit_of_mem_toDigits (by decide) (by decide) h

lemma toDigits_eq_cons (n : Nat) :
    ∃ c cs, Nat.toDigits 10 n = c :: cs ∧ c.isDigit = true := by
  cases h : Nat.toDigits 10 n with
  | nil => exact absurd h Nat.toDigits_ne_nil
  | cons c cs =>
    exact ⟨c, cs, rfl, isDigit_of_mem_toDigits (h.symm ▸ List.mem_cons_self)⟩

lemma isFloat_toDigits (n : Nat) : isFloat (Nat.toDigits 10 n) = true := by
  have hall : ∀ c ∈ Nat.toDigits 10 n, c.isDigit = true := fun c => isDigit_of_mem_toDigits
  obtain ⟨c, cs, hdigits, hc⟩ := toDigits_eq_cons n
  have hsign : dropSign (Nat.toDigits 10 n) = Nat.toDigits 10 n := by
    rw [hdigits, dropSign, if_neg]
    rintro (rfl | rfl)
    · revert hc
      decide
    · revert hc
      decide
  have htake : (Nat.toDigits 10 n).takeWhile Char.isDigit = Nat.toDigits 10 n :=
    List.takeWhile_eq_self_iff.mpr hall
  have hdrop : (Nat.toDigits 10 n).dropWhile Char.isDigit = [] :=
    List.dropWhile_eq_nil_iff.mpr hall
  simp [isFloat, hsign, htake, hdrop, isExponent]

lemma readValue_toDigits (n : Nat) :
    readValue (' ' :: Nat.toDigits 10 n) = some (Nat.toDigits 10 n, none) := by
  have hall : ∀ c ∈ Nat.toDigits 10 n, (!isBlank c) = true := fun c hc => by
    rw [isBlank_of_isDigit (isDigit_of_mem_toDigits hc)]
    rfl
  obtain ⟨c, cs, hdigits, hc⟩ := toDigits_eq_cons n
  have hskip : skipBlanks (' ' :: Nat.toDigits 10 n) = Nat.toDigits 10 n := by
    rw [hdigits]
    exact skipBlanks_cons (isBlank_of_isDigit hc) cs
  have htoken : nextToken (' ' :: Nat.toDigits 10 n) = (Nat.toDigits 10 n, []) := by
    rw [nextToken, hskip, List.span_eq_takeWhile_dropWhile, List.takeWhile_eq_self_iff.mpr hall,
      List.dropWhile_eq_nil_iff.mpr hall]
  have hend : nextToken [] = ([], []) := rfl
  unfold readValue
  rw [htoken]
  dsimp only
  rw [hend]
  dsimp only
  rw [isFloat_toDigits]
  rfl

lemma readSample_labels (name : MetricName) (l : List Char) :
    readSample (name.val ++ '{' :: l) = (readLabels (l.length + 1) l).bind (fun p =>
      (readValue p.2).map (fun v => ⟨name.val, p.1, v.1, v.2⟩)) := by
  have hread := readName_append ('{' :: l) name.property (fun c hc => by
    cases hc
    decide)
  unfold readSample
  rw [hread]
  simp only [Option.bind_eq_bind, Option.bind_some, expect_self (c := '{') (by decide)]
  cases readLabels (l.length + 1) l with
  | none => rfl
  | some p =>
    simp only [Option.bind_some]
    cases readValue p.2 <;> rfl

lemma readSample_bare (name : MetricName) (n : Nat) :
    readSample (name.val ++ ' ' :: Nat.toDigits 10 n) =
      some ⟨name.val, [], Nat.toDigits 10 n, none⟩ := by
  have hread := readName_append (' ' :: Nat.toDigits 10 n) name.property (fun c hc => by
    cases hc
    decide)
  have hopen : expect '{' (' ' :: Nat.toDigits 10 n) = none := by
    obtain ⟨c, cs, hdigits, hc⟩ := toDigits_eq_cons n
    rw [hdigits]
    refine expect_of_ne (isBlank_of_isDigit hc) ?_ cs
    rintro rfl
    revert hc
    decide
  unfold readSample
  rw [hread]
  simp only [Option.bind_eq_bind, Option.bind_some, hopen, readValue_toDigits]
  rfl

lemma length_le_rawLabels (spaced : Bool) (labels : List (LabelName × List Char)) :
    labels.length ≤ (rawLabels spaced labels).length := by
  induction labels with
  | nil => exact Nat.zero_le _
  | cons label labels ih =>
    cases labels with
    | nil => simp [rawLabels]
    | cons next labels =>
      rw [rawLabels]
      · simp only [List.length_append, List.length_cons] at ih ⊢
        omega
      · simp

lemma raw_eq_bare {s : Sample} (h : s.labels = []) :
    s.raw = s.name.val ++ ' ' :: Nat.toDigits 10 s.value := by
  simp [Sample.raw, h]

lemma raw_eq_labels {s : Sample} (h : s.labels ≠ []) :
    s.raw = s.name.val ++
      '{' :: (rawLabels s.spaced s.labels ++ ' ' :: Nat.toDigits 10 s.value) := by
  simp [Sample.raw, h]

lemma readSample_plain {s : Sample} (h : ∀ p ∈ s.labels, Plain p.2) :
    readSample s.raw = some s.reading := by
  by_cases hne : s.labels = []
  · rw [raw_eq_bare hne, readSample_bare, Sample.reading, hne]
    rfl
  · have hlen := length_le_rawLabels s.spaced s.labels
    rw [raw_eq_labels hne, readSample_labels,
      readLabels_plain hne (by simp only [List.length_append]; omega) h, Option.bind_some,
      readValue_toDigits]
    rfl

lemma plain_of_readSample {s : Sample} (h : readSample (cutLine s.raw) = some s.reading) :
    ∀ p ∈ s.labels, Plain p.2 := by
  by_cases hne : s.labels = []
  · intro p hp
    rw [hne] at hp
    cases hp
  · rw [raw_eq_labels hne, cutLine_append (lf_notMem_metric s.name), cutLine_cons (by decide),
      readSample_labels, Option.bind_eq_some_iff] at h
    obtain ⟨⟨labels, l⟩, hread, hvalue⟩ := h
    rw [Option.map_eq_some_iff] at hvalue
    obtain ⟨v, -, heq⟩ := hvalue
    have hlabels : labels = labelPairs s.labels := congrArg Reading.labels heq
    subst hlabels
    exact plain_of_readLabels hread

lemma parseLine_name (name : MetricName) (l : List Char) :
    parseLine (name.val ++ l) = (readSample (name.val ++ l)).map .sample := by
  obtain ⟨c, cs, hname, hstart⟩ := isName_ne_nil name.property
  obtain ⟨hblank, hhash, -⟩ := isMetricStart_spec hstart
  rw [hname, List.cons_append, parseLine, skipBlanks_cons hblank]
  exact if_neg hhash

lemma exists_raw (s : Sample) : ∃ l, s.raw = s.name.val ++ l := by
  unfold Sample.raw
  exact ⟨_, List.append_assoc ..⟩

/-! ### Lines -/

/-- The first line ends where the text is cut. -/
lemma lines_eq_cutLine (l : List Char) : ∃ more, lines (l ++ ['\n']) = cutLine l :: more := by
  induction l with
  | nil => exact ⟨[], rfl⟩
  | cons c l ih =>
    rw [List.cons_append, lines]
    by_cases hc : c = '\n'
    · subst hc
      exact ⟨_, if_pos rfl⟩
    · obtain ⟨more, hmore⟩ := ih
      rw [if_neg hc, hmore, cutLine_cons hc]
      exact ⟨more, rfl⟩

lemma lines_append (l r : List Char) : lines (l ++ '\n' :: r) = lines (l ++ ['\n']) ++ lines r := by
  induction l with
  | nil => rfl
  | cons c l ih =>
    obtain ⟨more, hmore⟩ := lines_eq_cutLine l
    rw [List.cons_append, List.cons_append, lines, lines, ih, hmore]
    by_cases hc : c = '\n'
    · rw [if_pos hc, if_pos hc]
      rfl
    · rw [if_neg hc, if_neg hc]
      rfl

lemma lines_single {l : List Char} (h : '\n' ∉ l) : lines (l ++ ['\n']) = [l] := by
  induction l with
  | nil => rfl
  | cons c l ih =>
    rw [List.mem_cons, not_or] at h
    rw [List.cons_append, lines, if_neg (Ne.symm h.1), ih h.2]

lemma lines_terminate (pieces : List (List Char × Option Reading)) :
    lines (terminate pieces) = pieces.flatMap (fun p => lines (p.1 ++ ['\n'])) := by
  induction pieces with
  | nil => rfl
  | cons p pieces ih =>
    rw [List.flatMap_cons, ← ih, ← lines_append, terminate, List.flatMap_cons, List.append_assoc]
    rfl

lemma readings_terminate (pieces : List (List Char × Option Reading)) :
    readings (terminate pieces) = pieces.flatMap (fun p => readings (p.1 ++ ['\n'])) := by
  unfold readings
  rw [lines_terminate, List.filterMap_flatMap]

/-- Lists of lists that agree as a whole and are no shorter piece by piece agree piece by piece. -/
lemma eq_of_flatMap_eq {α β : Type*} {f g : α → List β} {l : List α}
    (hle : ∀ a ∈ l, (g a).length ≤ (f a).length) (h : l.flatMap f = l.flatMap g) :
    ∀ a ∈ l, f a = g a := by
  induction l with
  | nil => exact fun _ ha => absurd ha List.not_mem_nil
  | cons a l ih =>
    have hle' : ∀ b ∈ l, (g b).length ≤ (f b).length :=
      fun b hb => hle b (List.mem_cons_of_mem a hb)
    have hsum : (l.flatMap g).length ≤ (l.flatMap f).length := by
      rw [List.length_flatMap, List.length_flatMap]
      exact List.sum_le_sum hle'
    have hlen := congrArg List.length h
    rw [List.flatMap_cons, List.flatMap_cons, List.length_append, List.length_append] at hlen
    have hhead : (f a).length = (g a).length := by
      have := hle a List.mem_cons_self
      omega
    rw [List.flatMap_cons, List.flatMap_cons] at h
    obtain ⟨hfirst, hrest⟩ := List.append_inj h hhead
    intro b hb
    rcases List.mem_cons.mp hb with rfl | hb
    · exact hfirst
    · exact ih hle' hrest b hb

/-- The piece is one line, read as expected. -/
def Exact (p : List Char × Option Reading) : Prop :=
  (∀ l ∈ lines (p.1 ++ ['\n']), (parseLine l).isSome) ∧ readings (p.1 ++ ['\n']) = p.2.toList

lemma exact_of_parseLine {l : List Char} {line : Line} {reading : Option Reading}
    (hline : '\n' ∉ l) (hparse : parseLine l = some line) (hread : line.reading = reading) :
    Exact (l, reading) := by
  constructor
  · intro l' hl'
    rw [lines_single hline, List.mem_singleton] at hl'
    rw [hl', hparse]
    rfl
  · subst hread
    simp only [readings, lines_single hline, List.filterMap_cons, hparse, Option.bind_some,
      List.filterMap_nil]
    cases line.reading <;> rfl

lemma exact_header (h : Header) :
    Exact (helpLine h.name.val h.doc, none) ∧ Exact (typeLine h.name.val h.kind, none) := by
  have hvalid := h.valid
  simp only [isHeader, Bool.and_eq_true, beq_iff_eq, List.all_append] at hvalid
  obtain ⟨⟨hhelp, htype⟩, hhelpline, htypeline⟩ := hvalid
  have hlf : ∀ l : List Char, l.all (· != '\n') = true → '\n' ∉ l := by
    intro l hall hmem
    have hne := List.all_eq_true.mp hall _ hmem
    simp at hne
  exact ⟨exact_of_parseLine (hlf _ hhelpline) hhelp rfl,
    exact_of_parseLine (hlf _ htypeline) htype rfl⟩

lemma lf_notMem_rawLabels {spaced : Bool} {labels : List (LabelName × List Char)}
    (h : ∀ p ∈ labels, Plain p.2) : '\n' ∉ rawLabels spaced labels := by
  induction labels with
  | nil => simp [rawLabels]
  | cons label labels ih =>
    have hname := lf_notMem_label label.1
    have hvalue := (h label List.mem_cons_self).2.2
    have hrest := ih (fun p hp => h p (List.mem_cons_of_mem label hp))
    have hgap : '\n' ∉ gap spaced := by
      cases spaced <;> decide
    cases labels with
    | nil => simp [rawLabels, rawLabel, hname, hvalue]
    | cons next labels =>
      have hcons := rawLabels_cons spaced label next labels []
      rw [List.append_nil, List.append_nil] at hcons
      rw [hcons]
      simp [hname, hvalue, hgap, hrest]

lemma lf_notMem_raw {s : Sample} (h : ∀ p ∈ s.labels, Plain p.2) : '\n' ∉ s.raw := by
  have hname := lf_notMem_metric s.name
  have hdigits : '\n' ∉ Nat.toDigits 10 s.value := by
    intro hmem
    have hdigit := isDigit_of_mem_toDigits hmem
    revert hdigit
    decide
  by_cases hne : s.labels = []
  · rw [raw_eq_bare hne]
    simp [hname, hdigits]
  · rw [raw_eq_labels hne]
    simp [hname, hdigits, lf_notMem_rawLabels h]

/-- The first line of a sample can only be read as a sample. -/
lemma exists_reading {s : Sample} (h : ∀ l ∈ lines (s.raw ++ ['\n']), (parseLine l).isSome) :
    ∃ r more, readSample (cutLine s.raw) = some r ∧ readings (s.raw ++ ['\n']) = r :: more := by
  obtain ⟨more, hmore⟩ := lines_eq_cutLine s.raw
  obtain ⟨l, hl⟩ := exists_raw s
  have hfirst := h (cutLine s.raw) (hmore.symm ▸ List.mem_cons_self)
  have hcut : cutLine s.raw = s.name.val ++ cutLine l := by
    rw [hl, cutLine_append (lf_notMem_metric s.name)]
  have hparse : parseLine (cutLine s.raw) = (readSample (cutLine s.raw)).map .sample := by
    rw [hcut, parseLine_name]
  rw [hparse, Option.isSome_map, Option.isSome_iff_exists] at hfirst
  obtain ⟨r, hr⟩ := hfirst
  refine ⟨r, more.filterMap (fun l => (parseLine l).bind Line.reading), hr, ?_⟩
  rw [readings, hmore, List.filterMap_cons, hparse, hr]
  rfl

lemma exact_sample_iff (s : Sample) :
    Exact (s.raw, some s.reading) ↔ ∀ p ∈ s.labels, Plain p.2 := by
  constructor
  · rintro ⟨hparses, hread⟩
    obtain ⟨r, more, hr, hcons⟩ := exists_reading hparses
    rw [hcons, Option.toList_some, List.cons.injEq] at hread
    rw [hread.1] at hr
    exact plain_of_readSample hr
  · intro h
    obtain ⟨l, hl⟩ := exists_raw s
    have hparse := parseLine_name s.name l
    rw [← hl, readSample_plain h] at hparse
    exact exact_of_parseLine (lf_notMem_raw h) hparse rfl

/-- Either no sample is expected of the piece, or it is the text of that sample. -/
lemma length_le_readings {f : Family} {p : List Char × Option Reading} (hp : p ∈ f.pieces)
    (h : ∀ l ∈ lines (p.1 ++ ['\n']), (parseLine l).isSome) :
    p.2.toList.length ≤ (readings (p.1 ++ ['\n'])).length := by
  rw [Family.pieces, List.mem_cons, List.mem_cons, List.mem_map] at hp
  rcases hp with rfl | rfl | ⟨s, -, rfl⟩
  · exact Nat.zero_le _
  · exact Nat.zero_le _
  · obtain ⟨r, more, -, hcons⟩ := exists_reading h
    rw [hcons]
    exact Nat.succ_le_succ (Nat.zero_le _)

lemma expected_pieces (d : List Family) :
    (d.flatMap Family.pieces).flatMap (fun p => p.2.toList) =
      (samples d).map Sample.reading := by
  induction d with
  | nil => rfl
  | cons f d ih =>
    have hfamily : f.pieces.flatMap (fun p => p.2.toList) = f.samples.map Sample.reading := by
      change (f.samples.map _).flatMap _ = _
      rw [List.flatMap_map, List.map_eq_flatMap]
      rfl
    rw [List.flatMap_cons, List.flatMap_append, hfamily, ih, samples, samples, List.flatMap_cons,
      List.map_append]

lemma faithful_iff_exact (d : List Family) :
    Faithful d ↔ ∀ p ∈ d.flatMap Family.pieces, Exact p := by
  constructor
  · intro h p hp
    have hparses : ∀ q ∈ d.flatMap Family.pieces, ∀ l ∈ lines (q.1 ++ ['\n']),
        (parseLine l).isSome := by
      intro q hq l hl
      refine h.parses l ?_
      rw [raw, lines_terminate]
      exact List.mem_flatMap.mpr ⟨q, hq, hl⟩
    have hexact := h.exact
    rw [raw, readings_terminate, ← expected_pieces] at hexact
    have hpieces := eq_of_flatMap_eq (fun q hq => ?_) hexact
    · exact ⟨hparses p hp, hpieces p hp⟩
    · obtain ⟨f, -, hf⟩ := List.mem_flatMap.mp hq
      exact length_le_readings hf (hparses q hq)
  · intro h
    constructor
    · intro l hl
      rw [raw, lines_terminate] at hl
      obtain ⟨p, hp, hl⟩ := List.mem_flatMap.mp hl
      exact (h p hp).1 l hl
    · rw [raw, readings_terminate, ← expected_pieces]
      exact List.flatMap_congr (fun p hp => (h p hp).2)

/-- A document written without escapes is faithful exactly when no label value needs one. -/
theorem faithful_iff (d : List Family) :
    Faithful d ↔ ∀ s ∈ samples d, ∀ p ∈ s.labels, Plain p.2 := by
  rw [faithful_iff_exact]
  constructor
  · intro h s hs
    obtain ⟨f, hf, hs⟩ := List.mem_flatMap.mp hs
    refine (exact_sample_iff s).mp (h _ (List.mem_flatMap.mpr ⟨f, hf, ?_⟩))
    exact List.mem_cons_of_mem _ (List.mem_cons_of_mem _ (List.mem_map_of_mem hs))
  · intro h p hp
    obtain ⟨f, hf, hp⟩ := List.mem_flatMap.mp hp
    rw [Family.pieces, List.mem_cons, List.mem_cons, List.mem_map] at hp
    rcases hp with rfl | rfl | ⟨s, hs, rfl⟩
    · exact (exact_header f.header).1
    · exact (exact_header f.header).2
    · exact (exact_sample_iff s).mpr (h s (List.mem_flatMap.mpr ⟨f, hf, hs⟩))

end Exposition
