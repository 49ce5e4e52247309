import IPProxyPool.Model.ChunkedBody

/-!
# What the chunked reader returns and how much it takes

A stream is read in pieces: lines without a size, and chunks. Where the reader stands is determined
by the pieces behind it, so the streams on which it takes too much or is content with too little can
be described without it.
-/

namespace IPProxyPool
open Wire PyBytes

namespace ChunkReader

inductive Piece where
  | blank (line : Bytes)
  | chunk (line data : Bytes)

namespace Piece

def bytes : Piece → Bytes
  | blank line => line
  | chunk line data => line ++ (data ++ crlf)

def data : Piece → Bytes
  | blank _ => []
  | chunk _ data => data

def chunks : Piece → List Bytes
  | blank _ => []
  | chunk _ data => [data]

def tokens : Piece → List Bytes
  | blank _ => []
  | chunk line _ => [sizeToken line]

def Accepted : Piece → Prop
  | blank line => FullLine lineLimit line ∧ sizeToken line = []
  | chunk line data =>
    FullLine lineLimit line ∧ data ≠ [] ∧ int16 (sizeToken line) = some (data.length : Int)

end Piece

/-- The reader after the pieces. -/
def ofPieces (ps : List Piece) (rest : Bytes) : ChunkReader where
  rfile := rest
  inTrailers := false
  chunks := ps.flatMap Piece.chunks
  total := (ps.flatMap Piece.data).length
  tokens := ps.flatMap Piece.tokens
  taken := (ps.flatMap Piece.data).length

/-- The stream has a line after pieces that are within the cap. -/
structure LineAt (stream : Bytes) (maxBytes : Nat) (ps : List Piece) (line rest : Bytes) :
    Prop where
  stream_eq : stream = ps.flatMap Piece.bytes ++ (line ++ rest)
  accepted : ∀ p ∈ ps, p.Accepted
  within : (ps.flatMap Piece.data).length ≤ maxBytes
  isLine : IsLine lineLimit line rest

variable {stream line rest : Bytes} {maxBytes : Nat} {ps : List Piece} {r r' : ChunkReader}
  {o : Outcome} {size : Int}

lemma flatten_chunks (ps : List Piece) :
    (ps.flatMap Piece.chunks).flatten = ps.flatMap Piece.data := by
  induction ps with
  | nil => rfl
  | cons p ps ih =>
    rw [List.flatMap_cons, List.flatMap_cons, List.flatten_append, ih]
    cases p with
    | blank line => rfl
    | chunk line data => simp [Piece.chunks, Piece.data]

lemma length_data_concat (ps : List Piece) (p : Piece) :
    ((ps ++ [p]).flatMap Piece.data).length =
      (ps.flatMap Piece.data).length + p.data.length := by
  rw [List.flatMap_append, List.length_append, List.flatMap_singleton]

lemma ofPieces_blank (ps : List Piece) (line rest : Bytes) :
    ofPieces (ps ++ [.blank line]) rest = ofPieces ps rest := by
  simp [ofPieces, Piece.data, Piece.chunks, Piece.tokens]

lemma ofPieces_chunk (ps : List Piece) (line data rest : Bytes) :
    ofPieces (ps ++ [.chunk line data]) rest = { ofPieces ps rest with
      tokens := (ofPieces ps rest).tokens ++ [sizeToken line],
      taken := (ofPieces ps rest).taken + data.length,
      chunks := (ofPieces ps rest).chunks ++ [data],
      total := (ofPieces ps rest).total + data.length } := by
  simp [ofPieces, Piece.data, Piece.chunks, Piece.tokens]

/-! ### Reading a chunk -/

lemma readChunk_data {data : Bytes} (hcap : r.total + data.length ≤ maxBytes)
    (hfile : r.rfile = data ++ (crlf ++ rest)) :
    readChunk maxBytes data.length r = .inl { r with
      rfile := rest, taken := r.taken + data.length, chunks := r.chunks ++ [data],
      total := r.total + data.length } := by
  have hcrlf : PyBytes.read 2 (crlf ++ rest) = (crlf, rest) := read_append crlf rest
  rw [readChunk, if_neg (not_lt.mpr hcap), hfile, read_append]
  simp only [lt_irrefl, if_false, hcrlf, if_true]

/-- Only a chunk of the announced size and its line end lead to another round. -/
lemma readChunk_inl (hsize : size ≠ 0) (h : readChunk maxBytes size r = .inl r') :
    ∃ data rest, data ≠ [] ∧ size = data.length ∧ r.total + size ≤ maxBytes ∧
      r.rfile = data ++ (crlf ++ rest) := by
  unfold readChunk at h
  split at h
  · cases h
  · rename_i hcap
    dsimp only at h
    split at h
    · cases h
    · rename_i hlen
      split at h
      · rename_i hcrlf
        have hnonneg : 0 ≤ size := by
          by_contra hneg
          rw [read_of_neg (not_le.mp hneg)] at hcrlf
          cases hcrlf
        obtain ⟨heq, happend⟩ := read_of_nonneg hnonneg hlen
        set p := PyBytes.read size r.rfile with hp
        have hrest : crlf ++ p.2.drop 2 = p.2 := by
          rw [← hcrlf]
          exact List.take_append_drop 2 _
        refine ⟨p.1, p.2.drop 2, ?_, heq.symm, not_lt.mp hcap, ?_⟩
        · rw [← List.length_pos_iff]
          omega
        · rw [hrest, happend]
      · cases h

/-- Only a negative size takes more than the cap leaves. -/
lemma readChunk_inr (htotal : r.total = r.taken) (hcap : r.taken ≤ maxBytes)
    (h : readChunk maxBytes size r = .inr o) :
    (∃ e, o.1 = .error e) ∧
      (o.2.taken ≤ maxBytes ∨ size < 0 ∧ o.2.taken = r.taken + r.rfile.length) := by
  unfold readChunk at h
  split at h
  · cases h
    exact ⟨⟨_, rfl⟩, .inl hcap⟩
  · rename_i hover
    dsimp only at h
    have htaken : r.taken + (PyBytes.read size r.rfile).1.length ≤ maxBytes ∨
        size < 0 ∧ r.taken + (PyBytes.read size r.rfile).1.length = r.taken + r.rfile.length := by
      by_cases hneg : size < 0
      · rw [read_of_neg hneg]
        exact .inr ⟨hneg, rfl⟩
      · have hle := length_read_le (not_lt.mp hneg) r.rfile
        omega
    split at h
    · cases h
      exact ⟨⟨_, rfl⟩, htaken⟩
    · split at h
      · cases h
      · cases h
        exact ⟨⟨_, rfl⟩, htaken⟩

/-- A negative size takes all that is left, and there is no line end behind it. -/
lemma readChunk_negative (hneg : size < 0) (hcap : r.total ≤ maxBytes) :
    ∃ o, readChunk maxBytes size r = .inr o ∧ o.2.taken = r.taken + r.rfile.length := by
  rw [readChunk, if_neg (by omega), read_of_neg hneg]
  dsimp only
  rw [if_neg (by omega), if_neg (by decide)]
  exact ⟨_, rfl, rfl⟩

/-! ### Rounds -/

lemma chunkRound_blank (hline : IsLine lineLimit line rest) (hfile : r.rfile = line ++ rest)
    (hblank : sizeToken line = []) : chunkRound maxBytes r = .inl { r with rfile := rest } := by
  simp only [chunkRound, hfile, readline_of_isLine hline, if_neg hline.ne_nil, hblank, if_true]

lemma chunkRound_bad (hline : IsLine lineLimit line rest) (hfile : r.rfile = line ++ rest)
    (htoken : sizeToken line ≠ []) (hbad : int16 (sizeToken line) = none) :
    chunkRound maxBytes r =
      .inr (.error (.badChunkSize (sizeToken line)), { r with rfile := rest }) := by
  simp only [chunkRound, hfile, readline_of_isLine hline, if_neg hline.ne_nil, if_neg htoken, hbad]

lemma chunkRound_size (hline : IsLine lineLimit line rest) (hfile : r.rfile = line ++ rest)
    (hint : int16 (sizeToken line) = some size) :
    chunkRound maxBytes r =
      if size = 0 then
        .inl { r with
          rfile := rest, tokens := r.tokens ++ [sizeToken line], inTrailers := true }
      else readChunk maxBytes size
        { r with rfile := rest, tokens := r.tokens ++ [sizeToken line] } := by
  simp only [chunkRound, hfile, readline_of_isLine hline, if_neg hline.ne_nil,
    if_neg (ne_nil_of_int16 hint), hint]

lemma round_piece {p : Piece} (hp : p.Accepted)
    (hcap : ((ps ++ [p]).flatMap Piece.data).length ≤ maxBytes) :
    round maxBytes (ofPieces ps (p.bytes ++ rest)) = .inl (ofPieces (ps ++ [p]) rest) := by
  rw [round, if_neg (by simp [ofPieces])]
  cases p with
  | blank line =>
    rw [chunkRound_blank (hp.1 rest) rfl hp.2, ofPieces_blank]
    rfl
  | chunk line data =>
    obtain ⟨hfull, hdata, hint⟩ := hp
    have hpos : (data.length : Int) ≠ 0 := by simpa using hdata
    have hfile : (ofPieces ps ((Piece.chunk line data).bytes ++ rest)).rfile =
        line ++ (data ++ (crlf ++ rest)) := by
      simp [ofPieces, Piece.bytes]
    have htotal : ((ps.flatMap Piece.data).length : Int) + data.length ≤ maxBytes := by
      rw [length_data_concat] at hcap
      exact_mod_cast hcap
    rw [chunkRound_size (hfull _) hfile hint, if_neg hpos, ofPieces_chunk]
    exact readChunk_data htotal rfl

/-- The pieces at the front of the stream are read one after the other. -/
theorem ends_pieces (hps : ∀ p ∈ ps, p.Accepted)
    (hcap : (ps.flatMap Piece.data).length ≤ maxBytes) :
    Loop.Ends (round maxBytes) (.new (ps.flatMap Piece.bytes ++ rest)) o ↔
      Loop.Ends (round maxBytes) (ofPieces ps rest) o := by
  induction ps using List.reverseRecOn generalizing rest with
  | nil => exact Iff.rfl
  | append_singleton ps p ih =>
    have hfront : (ps.flatMap Piece.data).length ≤ maxBytes := by
      rw [length_data_concat] at hcap
      omega
    rw [List.flatMap_append, List.flatMap_singleton, List.append_assoc,
      ih (fun q hq => hps q (List.mem_append_left _ hq)) hfront]
    exact Loop.ends_of_inl (round_piece (hps p (by simp)) hcap)

/-! ### What a round can do -/

lemma exists_line {s : Bytes} (h : s ≠ []) :
    ∃ line rest, IsLine lineLimit line rest ∧ s = line ++ rest :=
  ⟨_, _, isLine_readline h, (readline_append lineLimit s).symm⟩

lemma round_nil (h : r.rfile = []) :
    round maxBytes r =
      .inr (if r.inTrailers then .ok r.chunks.flatten else .error .truncatedSizeLine, r) := by
  obtain ⟨rfile, inTrailers, chunks, total, tokens, taken⟩ := r
  obtain rfl : rfile = [] := h
  cases inTrailers with
  | false => rfl
  | true => rfl

lemma trailerRound_line (hline : IsLine lineLimit line rest) (hfile : r.rfile = line ++ rest) :
    trailerRound r =
      if line = crlf ∨ line = [lf] then .inr (.ok r.chunks.flatten, { r with rfile := rest })
      else .inl { r with rfile := rest } := by
  simp only [trailerRound, hfile, readline_of_isLine hline, hline.ne_nil, false_or]

/-- Another round is for a line without a size, for the trailers, or for the chunk after this. -/
lemma chunkRound_inl (hne : r.rfile ≠ []) (h : chunkRound maxBytes r = .inl r') :
    ∃ line rest, IsLine lineLimit line rest ∧ r.rfile = line ++ rest ∧
      (sizeToken line = [] ∧ r' = { r with rfile := rest } ∨
        int16 (sizeToken line) = some 0 ∧ r' = { r with
          rfile := rest, tokens := r.tokens ++ [sizeToken line], inTrailers := true } ∨
        ∃ data rest', data ≠ [] ∧ int16 (sizeToken line) = some (data.length : Int) ∧
          r.total + data.length ≤ maxBytes ∧ rest = data ++ (crlf ++ rest') ∧ r' = { r with
            rfile := rest', tokens := r.tokens ++ [sizeToken line],
            taken := r.taken + data.length, chunks := r.chunks ++ [data],
            total := r.total + data.length }) := by
  obtain ⟨line, rest, hline, hfile⟩ := exists_line hne
  refine ⟨line, rest, hline, hfile, ?_⟩
  by_cases hblank : sizeToken line = []
  · rw [chunkRound_blank hline hfile hblank] at h
    exact .inl ⟨hblank, (Sum.inl.inj h).symm⟩
  · cases hint : int16 (sizeToken line) with
    | none =>
      rw [chunkRound_bad hline hfile hblank hint] at h
      cases h
    | some size =>
      rw [chunkRound_size hline hfile hint] at h
      by_cases hzero : size = 0
      · rw [if_pos hzero] at h
        exact .inr (.inl ⟨congrArg some hzero, (Sum.inl.inj h).symm⟩)
      · rw [if_neg hzero] at h
        obtain ⟨data, rest', hdata, rfl, hcap, hrest⟩ := readChunk_inl hzero h
        rw [readChunk_data hcap hrest] at h
        exact .inr (.inr ⟨data, rest', hdata, rfl, hcap, hrest, (Sum.inl.inj h).symm⟩)

/-- The loop over the chunks is only left with an exception, and within the cap unless there is a
negative size. -/
lemma chunkRound_inr (htotal : r.total = r.taken) (hcap : r.taken ≤ maxBytes)
    (hne : r.rfile ≠ []) (h : chunkRound maxBytes r = .inr o) :
    (∃ e, o.1 = .error e) ∧ (o.2.taken ≤ maxBytes ∨
      ∃ line rest size, IsLine lineLimit line rest ∧ r.rfile = line ++ rest ∧
        int16 (sizeToken line) = some size ∧ size < 0 ∧ o.2.taken = r.taken + rest.length) := by
  obtain ⟨line, rest, hline, hfile⟩ := exists_line hne
  by_cases hblank : sizeToken line = []
  · rw [chunkRound_blank hline hfile hblank] at h
    cases h
  · cases hint : int16 (sizeToken line) with
    | none =>
      rw [chunkRound_bad hline hfile hblank hint] at h
      cases h
      exact ⟨⟨_, rfl⟩, .inl hcap⟩
    | some size =>
      rw [chunkRound_size hline hfile hint] at h
      by_cases hzero : size = 0
      · rw [if_pos hzero] at h
        cases h
      · rw [if_neg hzero] at h
        obtain ⟨herror, htaken⟩ := readChunk_inr
          (r := { r with rfile := rest, tokens := r.tokens ++ [sizeToken line] }) htotal hcap h
        refine ⟨herror, htaken.imp_right ?_⟩
        rintro ⟨hneg, htaken⟩
        exact ⟨line, rest, size, hline, hfile, hint, hneg, htaken⟩

/-- A round reads a line at least. -/
lemma round_shorter (h : round maxBytes r = .inl r') : r'.rfile.length < r.rfile.length := by
  have hne : r.rfile ≠ [] := by
    intro hnil
    rw [round_nil hnil] at h
    cases h
  have hlt : ∀ {line rest : Bytes}, IsLine lineLimit line rest → r.rfile = line ++ rest →
      rest.length < r.rfile.length := by
    intro line rest hline hfile
    have hpos := List.length_pos_iff.mpr hline.ne_nil
    rw [hfile, List.length_append]
    omega
  unfold round at h
  split at h
  · obtain ⟨line, rest, hline, hfile⟩ := exists_line hne
    rw [trailerRound_line hline hfile] at h
    split at h
    · cases h
    · cases h
      exact hlt hline hfile
  · obtain ⟨line, rest, hline, hfile, hcases⟩ := chunkRound_inl hne h
    obtain ⟨-, rfl⟩ | ⟨-, rfl⟩ | ⟨data, rest', -, -, -, rfl, rfl⟩ := hcases
    · exact hlt hline hfile
    · exact hlt hline hfile
    · refine lt_of_le_of_lt ?_ (hlt hline hfile)
      simp only [List.length_append]
      omega

theorem exists_ends (stream : Bytes) (maxBytes : Nat) :
    ∃ o, Loop.Ends (round maxBytes) (.new stream) o :=
  Loop.exists_ends (fun r => r.rfile.length) (fun _ _ h => round_shorter h) _

/-! ### Where the reader stands -/

/-- Between the chunks, at the end of a stream that stops there, or past the last size line. -/
inductive Standing (stream : Bytes) (maxBytes : Nat) : ChunkReader → Prop
  | pieces {ps : List Piece} {rest : Bytes} (stream_eq : stream = ps.flatMap Piece.bytes ++ rest)
      (accepted : ∀ p ∈ ps, p.Accepted) (within : (ps.flatMap Piece.data).length ≤ maxBytes) :
      Standing stream maxBytes (ofPieces ps rest)
  | exhausted {r : ChunkReader} (rfile : r.rfile = []) (inTrailers : r.inTrailers = false)
      (taken : r.taken ≤ maxBytes) : Standing stream maxBytes r
  | trailers {r : ChunkReader} {ps : List Piece} {line rest : Bytes}
      (lineAt : LineAt stream maxBytes ps line rest) (zero : int16 (sizeToken line) = some 0)
      (inTrailers : r.inTrailers = true) (taken : r.taken = (ps.flatMap Piece.data).length)
      (tokens : r.tokens = ps.flatMap Piece.tokens ++ [sizeToken line]) :
      Standing stream maxBytes r

/-- How the function is left. -/
inductive Left (stream : Bytes) (maxBytes : Nat) : Outcome → Prop
  | refused {e : ChunkError} {r : ChunkReader} (taken : r.taken ≤ maxBytes) :
      Left stream maxBytes (.error e, r)
  | overread {e : ChunkError} {r : ChunkReader} {ps : List Piece} {line rest : Bytes} {size : Int}
      (lineAt : LineAt stream maxBytes ps line rest) (int16 : int16 (sizeToken line) = some size)
      (negative : size < 0) (taken : r.taken = (ps.flatMap Piece.data).length + rest.length) :
      Left stream maxBytes (.error e, r)
  | returned {body : Bytes} {r : ChunkReader} {ps : List Piece} {line rest : Bytes}
      (lineAt : LineAt stream maxBytes ps line rest) (zero : int16 (sizeToken line) = some 0)
      (taken : r.taken ≤ maxBytes)
      (tokens : r.tokens = ps.flatMap Piece.tokens ++ [sizeToken line]) :
      Left stream maxBytes (.ok body, r)

lemma standing_append {p : Piece} (hstream : stream = ps.flatMap Piece.bytes ++ (p.bytes ++ rest))
    (hps : ∀ p ∈ ps, p.Accepted) (hp : p.Accepted)
    (hcap : ((ps ++ [p]).flatMap Piece.data).length ≤ maxBytes) :
    Standing stream maxBytes (ofPieces (ps ++ [p]) rest) := by
  refine .pieces ?_ ?_ hcap
  · rw [hstream, List.flatMap_append, List.flatMap_singleton, List.append_assoc]
  · intro q hq
    rcases List.mem_append.mp hq with hq | hq
    · exact hps q hq
    · rw [List.mem_singleton.mp hq]
      exact hp

theorem Standing.round (h : Standing stream maxBytes r) (hr : round maxBytes r = .inl r') :
    Standing stream maxBytes r' := by
  have hne : r.rfile ≠ [] := by
    intro hnil
    rw [round_nil hnil] at hr
    cases hr
  cases h with
  | exhausted hnil => exact absurd hnil hne
  | trailers lineAt zero inTrailers taken tokens =>
    rw [ChunkReader.round, if_pos inTrailers] at hr
    obtain ⟨line', rest', hline, hfile⟩ := exists_line hne
    rw [trailerRound_line hline hfile] at hr
    split at hr
    · cases hr
    · cases hr
      exact .trailers lineAt zero inTrailers taken tokens
  | @pieces ps rest stream_eq accepted within =>
    obtain ⟨line, rest', hline, hfile, hcases⟩ := chunkRound_inl hne hr
    obtain rfl : rest = line ++ rest' := hfile
    have hat : LineAt stream maxBytes ps line rest' := ⟨stream_eq, accepted, within, hline⟩
    obtain ⟨hblank, rfl⟩ | ⟨hzero, rfl⟩ | ⟨data, rest'', hdata, hint, hcap, rfl, rfl⟩ := hcases
    · by_cases hrest : rest' = []
      · exact .exhausted hrest rfl within
      · have hp : (Piece.blank line).Accepted := ⟨hline.fullLine hrest, hblank⟩
        have hlen : ((ps ++ [Piece.blank line]).flatMap Piece.data).length ≤ maxBytes := by
          rw [length_data_concat]
          exact within
        have hs := standing_append stream_eq accepted hp hlen
        rwa [ofPieces_blank] at hs
    · exact .trailers hat hzero rfl rfl rfl
    · have hrest : data ++ (crlf ++ rest'') ≠ [] := by simp [hdata]
      have hp : (Piece.chunk line data).Accepted := ⟨hline.fullLine hrest, hdata, hint⟩
      have hlen : ((ps ++ [Piece.chunk line data]).flatMap Piece.data).length ≤ maxBytes := by
        have hcap' : ((ps.flatMap Piece.data).length : Int) + data.length ≤ maxBytes := hcap
        rw [length_data_concat]
        exact_mod_cast hcap'
      have hfile : stream =
          ps.flatMap Piece.bytes ++ ((Piece.chunk line data).bytes ++ rest'') := by
        simpa [Piece.bytes] using stream_eq
      have hs := standing_append hfile accepted hp hlen
      rwa [ofPieces_chunk] at hs

theorem Standing.last (h : Standing stream maxBytes r)
    (hr : ChunkReader.round maxBytes r = .inr o) : Left stream maxBytes o := by
  cases h with
  | exhausted hnil inTrailers taken =>
    rw [round_nil hnil, if_neg (by simp [inTrailers])] at hr
    cases hr
    exact .refused taken
  | trailers lineAt zero inTrailers taken tokens =>
    have hcap : r.taken ≤ maxBytes := taken.trans_le lineAt.within
    by_cases hnil : r.rfile = []
    · rw [round_nil hnil, if_pos inTrailers] at hr
      cases hr
      exact .returned lineAt zero hcap tokens
    · rw [ChunkReader.round, if_pos inTrailers] at hr
      obtain ⟨line', rest', hline, hfile⟩ := exists_line hnil
      rw [trailerRound_line hline hfile] at hr
      split at hr
      · cases hr
        exact .returned lineAt zero hcap tokens
      · cases hr
  | @pieces ps rest stream_eq accepted within =>
    by_cases hnil : rest = []
    · rw [round_nil hnil, if_neg (by simp [ofPieces])] at hr
      cases hr
      exact .refused within
    · obtain ⟨⟨e, herror⟩, htaken⟩ := chunkRound_inr rfl within hnil hr
      obtain ⟨res, r'⟩ := o
      obtain rfl : res = .error e := herror
      rcases htaken with htaken | ⟨line, rest', size, hline, hfile, hint, hneg, htaken⟩
      · exact .refused htaken
      · obtain rfl : rest = line ++ rest' := hfile
        exact .overread ⟨stream_eq, accepted, within, hline⟩ hint hneg htaken

theorem left_of_ends (h : Loop.Ends (round maxBytes) (.new stream) o) : Left stream maxBytes o := by
  have hstart : Standing stream maxBytes (ofPieces [] stream) :=
    .pieces rfl (fun p hp => absurd hp List.not_mem_nil) (Nat.zero_le _)
  exact h.of_invariant hstart (fun _ _ hs hr => hs.round hr) (fun _ _ hs hr => hs.last hr)

/-! ### Past a size line -/

/-- The loop over the trailers only reads on. -/
lemma ends_trailers (maxBytes : Nat) (hr : r.inTrailers = true) :
    ∃ o, Loop.Ends (round maxBytes) r o ∧ o.1 = .ok r.chunks.flatten ∧ o.2.tokens = r.tokens := by
  obtain ⟨o, ho⟩ :=
    Loop.exists_ends (fun r : ChunkReader => r.rfile.length) (fun _ _ h => round_shorter h) r
  refine ⟨o, ho, ?_⟩
  refine ho.of_invariant
    (I := fun s => s.inTrailers = true ∧ s.chunks = r.chunks ∧ s.tokens = r.tokens)
    (P := fun o => o.1 = .ok r.chunks.flatten ∧ o.2.tokens = r.tokens) ⟨hr, rfl, rfl⟩ ?_ ?_
  · rintro s s' ⟨hs, hchunks, htokens⟩ hround
    rw [round, if_pos hs, trailerRound] at hround
    dsimp only at hround
    split at hround
    · cases hround
    · cases hround
      exact ⟨hs, hchunks, htokens⟩
  · rintro s o ⟨hs, hchunks, htokens⟩ hround
    rw [round, if_pos hs, trailerRound] at hround
    dsimp only at hround
    split at hround
    · cases hround
      exact ⟨by rw [hchunks], htokens⟩
    · cases hround

lemma ends_lineAt (h : LineAt stream maxBytes ps line rest) :
    Loop.Ends (round maxBytes) (.new stream) o ↔
      Loop.Ends (round maxBytes) (ofPieces ps (line ++ rest)) o := by
  rw [h.stream_eq]
  exact ends_pieces h.accepted h.within

lemma ends_of_zero (h : LineAt stream maxBytes ps line rest)
    (hzero : int16 (sizeToken line) = some 0) :
    Loop.Ends (round maxBytes) (.new stream) o ↔
      Loop.Ends (round maxBytes) { ofPieces ps rest with
        tokens := ps.flatMap Piece.tokens ++ [sizeToken line], inTrailers := true } o := by
  rw [ends_lineAt h]
  exact Loop.ends_of_inl (chunkRound_size h.isLine rfl hzero)

lemma ends_of_negative (h : LineAt stream maxBytes ps line rest)
    (hint : int16 (sizeToken line) = some size) (hneg : size < 0) :
    ∃ o, Loop.Ends (round maxBytes) (.new stream) o ∧
      o.2.taken = (ps.flatMap Piece.data).length + rest.length := by
  have hcap : ((ps.flatMap Piece.data).length : Int) ≤ maxBytes := by exact_mod_cast h.within
  obtain ⟨o, ho, htaken⟩ := readChunk_negative
    (r := { ofPieces ps rest with tokens := ps.flatMap Piece.tokens ++ [sizeToken line] }) hneg hcap
  refine ⟨o, (ends_lineAt h).mpr (Loop.ends_of_inr ?_), htaken⟩
  refine (chunkRound_size h.isLine rfl hint).trans ?_
  rw [if_neg hneg.ne]
  exact ho

/-! ### Encodings -/

def ofChunk (c : Chunked.Chunk lineLimit) : Piece := .chunk c.toSizeLine.bytes c.data

lemma sizeToken_bytes (l : Chunked.SizeLine lineLimit) : sizeToken l.bytes = l.size :=
  l.strip_takeWhile

lemma ofChunk_accepted (c : Chunked.Chunk lineLimit) : (ofChunk c).Accepted := by
  refine ⟨c.fullLine, c.data_ne_nil, ?_⟩
  rw [sizeToken_bytes, int16_of_isHexNumber c.isHexNumber, c.size_eq]

lemma ends_of_trailers (ts : List (Chunked.Trailer lineLimit)) (hr : r.inTrailers = true)
    (hfile : r.rfile = ts.flatMap Chunked.Trailer.bytes ++ (crlf ++ rest)) :
    Loop.Ends (round maxBytes) r (.ok r.chunks.flatten, { r with rfile := rest }) := by
  induction ts generalizing r with
  | nil =>
    have hline : IsLine lineLimit ([] ++ crlf) rest :=
      fullLine_crlf List.not_mem_nil (by decide) rest
    refine Loop.ends_of_inr ?_
    rw [round, if_pos hr, trailerRound_line hline hfile, if_pos (.inl rfl)]
  | cons t ts ih =>
    have hline := t.fullLine (ts.flatMap Chunked.Trailer.bytes ++ (crlf ++ rest))
    have hfile' : r.rfile = t.bytes ++ (ts.flatMap Chunked.Trailer.bytes ++ (crlf ++ rest)) := by
      rw [hfile, List.flatMap_cons, List.append_assoc]
    have hblank : ¬(t.bytes = crlf ∨ t.bytes = [lf]) := by
      rintro (hb | hb)
      · exact t.ne_nil (List.append_left_eq_self.mp hb)
      · have hlen := congrArg List.length hb
        simp [Chunked.Trailer.bytes, crlf] at hlen
    have hround : round maxBytes r = .inl { r with
        rfile := ts.flatMap Chunked.Trailer.bytes ++ (crlf ++ rest) } := by
      rw [round, if_pos hr, trailerRound_line hline hfile', if_neg hblank]
    exact (Loop.ends_of_inl hround).mpr (ih hr rfl)

/-- An encoding of a body within the cap is read as that body, to its end. -/
theorem ends_encoding (e : Chunked.Encoding lineLimit) (rest : Bytes)
    (hcap : e.body.length ≤ maxBytes) :
    ∃ r, r.rfile = rest ∧
      Loop.Ends (round maxBytes) (.new (e.bytes ++ rest)) (.ok e.body, r) := by
  have hbytes : (e.chunks.map ofChunk).flatMap Piece.bytes =
      e.chunks.flatMap Chunked.Chunk.bytes := by
    rw [List.flatMap_map]
    refine List.flatMap_congr (fun c _ => ?_)
    simp [ofChunk, Piece.bytes, Chunked.Chunk.bytes]
  have hdata : (e.chunks.map ofChunk).flatMap Piece.data = e.body := List.flatMap_map _ _ _
  have hat : LineAt (e.bytes ++ rest) maxBytes (e.chunks.map ofChunk) e.last.bytes
      (e.trailers.flatMap Chunked.Trailer.bytes ++ (crlf ++ rest)) := by
    refine ⟨?_, ?_, ?_, e.last.fullLine _⟩
    · rw [hbytes, Chunked.Encoding.bytes]
      simp only [List.append_assoc]
    · intro p hp
      obtain ⟨c, -, rfl⟩ := List.mem_map.mp hp
      exact ofChunk_accepted c
    · rw [hdata]
      exact hcap
  have hzero : int16 (sizeToken e.last.bytes) = some 0 := by
    rw [sizeToken_bytes, int16_of_isHexNumber e.last.isHexNumber,
      Chunked.hexNumber_eq_zero e.last_zero]
    rfl
  have hends := (ends_of_zero hat hzero).mpr (ends_of_trailers e.trailers rfl rfl)
  have hbody : (ofPieces (e.chunks.map ofChunk) rest).chunks.flatten = e.body :=
    (flatten_chunks _).trans hdata
  exact ⟨_, rfl, hbody ▸ hends⟩

/-! ### When the reader is exact and bounded -/

def Leaves (stream : Bytes) (maxBytes : Nat) (o : Outcome) : Prop :=
  ∃ rounds, readChunkedBody rounds stream maxBytes = some o

/-- The function is left, with the body where there is an encoding of one, having taken no more
than the cap and having been content with hexadecimal digits only. -/
structure ExactAndBounded (stream : Bytes) (maxBytes : Nat) : Prop where
  ends : ∃ o, Leaves stream maxBytes o
  exact : ∀ (e : Chunked.Encoding lineLimit) (rest : Bytes), stream = e.bytes ++ rest →
    e.body.length ≤ maxBytes →
      ∀ o, Leaves stream maxBytes o → o.1 = .ok e.body ∧ o.2.rfile = rest
  bounded : ∀ o, Leaves stream maxBytes o → o.2.taken ≤ maxBytes
  hexOnly : ∀ o body, Leaves stream maxBytes o → o.1 = .ok body →
    ∀ t ∈ o.2.tokens, isHexNumber t = true

/-- After chunks within the cap there is a negative size with more behind it than the cap leaves. -/
def CapBypass (stream : Bytes) (maxBytes : Nat) : Prop :=
  ∃ ps line rest size, LineAt stream maxBytes ps line rest ∧
    int16 (sizeToken line) = some size ∧ size < 0 ∧
      maxBytes < (ps.flatMap Piece.data).length + rest.length

/-- The chunks go on to a size of zero, and one of the sizes has a sign, an underscore or a base. -/
def LooseSize (stream : Bytes) (maxBytes : Nat) : Prop :=
  ∃ ps line rest, LineAt stream maxBytes ps line rest ∧ int16 (sizeToken line) = some 0 ∧
    ∃ t ∈ ps.flatMap Piece.tokens ++ [sizeToken line], ∃ c ∈ t, c ∈ marks

/-- Every size that was acted on is one for `int`. -/
lemma exists_int16 (hps : ∀ p ∈ ps, p.Accepted) {last : Bytes} (hlast : int16 last = some size)
    {t : Bytes} (ht : t ∈ ps.flatMap Piece.tokens ++ [last]) : ∃ z, int16 t = some z := by
  rcases List.mem_append.mp ht with ht | ht
  · obtain ⟨p, hp, ht⟩ := List.mem_flatMap.mp ht
    cases p with
    | blank line => cases ht
    | chunk line data =>
      rw [List.mem_singleton.mp ht]
      exact ⟨_, (hps _ hp).2.2⟩
  · rw [List.mem_singleton.mp ht]
    exact ⟨size, hlast⟩

theorem bounded_iff :
    (∀ o, Leaves stream maxBytes o → o.2.taken ≤ maxBytes) ↔ ¬CapBypass stream maxBytes := by
  constructor
  · rintro h ⟨ps, line, rest, size, hat, hint, hneg, hover⟩
    obtain ⟨o, ho, htaken⟩ := ends_of_negative hat hint hneg
    have hle := h o ho
    omega
  · intro h o ho
    cases left_of_ends ho with
    | refused taken => exact taken
    | returned _ _ taken _ => exact taken
    | overread lineAt hint negative taken =>
      by_contra hover
      exact h ⟨_, _, _, _, lineAt, hint, negative, taken ▸ not_le.mp hover⟩

theorem hexOnly_iff :
    (∀ o body, Leaves stream maxBytes o → o.1 = .ok body →
      ∀ t ∈ o.2.tokens, isHexNumber t = true) ↔ ¬LooseSize stream maxBytes := by
  constructor
  · rintro h ⟨ps, line, rest, hat, hzero, t, ht, c, hc, hmark⟩
    obtain ⟨o, ho, hbody, htokens⟩ := ends_trailers maxBytes
      (r := { ofPieces ps rest with
        tokens := ps.flatMap Piece.tokens ++ [sizeToken line], inTrailers := true }) rfl
    have hhex := h o _ ((ends_of_zero hat hzero).mpr ho) hbody t (htokens ▸ ht)
    exact Bool.false_ne_true
      ((not_isHexDigit_of_mark hmark).symm.trans ((isHexNumber_iff.mp hhex).2 c hc))
  · intro h o body ho hbody t ht
    cases left_of_ends ho with
    | refused taken => cases hbody
    | overread => cases hbody
    | returned lineAt zero taken tokens =>
      rw [tokens] at ht
      obtain ⟨z, hz⟩ := exists_int16 lineAt.accepted zero ht
      refine (isHexNumber_or_mark hz).resolve_right (fun hmark => h ?_)
      exact ⟨_, _, _, lineAt, zero, t, ht, hmark⟩

end ChunkReader

open ChunkReader

theorem readChunkedBody_iff (stream : Bytes) (maxBytes : Nat) :
    ExactAndBounded stream maxBytes ↔
      ¬CapBypass stream maxBytes ∧ ¬LooseSize stream maxBytes := by
  constructor
  · intro h
    exact ⟨bounded_iff.mp h.bounded, hexOnly_iff.mp h.hexOnly⟩
  · rintro ⟨hcap, hloose⟩
    refine ⟨exists_ends stream maxBytes, ?_, bounded_iff.mpr hcap, hexOnly_iff.mpr hloose⟩
    rintro e rest rfl hbody o ho
    obtain ⟨r, hrest, hr⟩ := ends_encoding e rest hbody
    obtain rfl := hr.unique ho
    exact ⟨rfl, hrest⟩

theorem readChunkedBody_lax :
    ¬ExactAndBounded (latin1 "-1\r\nhello") 3 ∧
      ¬ExactAndBounded (latin1 "0x5\r\nhello\r\n0\r\n\r\n") 5 := by
  constructor
  · intro h
    have hrun : ∃ o, readChunkedBody 1 (latin1 "-1\r\nhello") 3 = some o ∧ o.2.taken = 5 :=
      ⟨_, rfl, by decide +kernel⟩
    obtain ⟨o, ho, htaken⟩ := hrun
    have hle := h.bounded o ⟨1, ho⟩
    omega
  · intro h
    have hrun : ∃ o, readChunkedBody 3 (latin1 "0x5\r\nhello\r\n0\r\n\r\n") 5 = some o ∧
        o.1 = .ok (latin1 "hello") ∧ latin1 "0x5" ∈ o.2.tokens :=
      ⟨_, rfl, rfl, by decide +kernel⟩
    obtain ⟨o, ho, hbody, ht⟩ := hrun
    have hhex := h.hexOnly o _ ⟨3, ho⟩ hbody _ ht
    have hnot : isHexNumber (latin1 "0x5") = false := by decide +kernel
    exact Bool.false_ne_true (hnot.symm.trans hhex)

end IPProxyPool
