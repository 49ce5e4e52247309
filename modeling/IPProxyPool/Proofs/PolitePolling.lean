import IPProxyPool.Model.SourceTick
import IPProxyPool.Proofs.Validators

/-!
# Polite polling across ticks

A source keeps the validators of its last response, but `build_sources` makes every source anew at
each tick. So no request of the worker is ever conditional.
-/

namespace IPProxyPool

/-- The fetch delivered a successful response with the header. -/
def Brings (f : FetchRecord) (header : String) (value : List UInt8) : Prop :=
  f.reply.timedOut = false ∧ f.reply.first.delivers = true ∧
    f.reply.first.headers.get header = some value

def Sends (f : FetchRecord) (field : String) (value : List UInt8) : Prop :=
  ∃ text, (field, text) ∈ f.conditional ∧ text.toUTF8.toList = value

/-- API and HTML sources keep a `Last-Modified` as well. -/
def Source.keepsLastModified (s : Source) : Bool :=
  match s.kind with
  | .github _ => false
  | _ => true

/-- `g` is the next fetch of the source of `f`, at a later tick. -/
def NextFetch (log : List FetchRecord) (f g : FetchRecord) : Prop :=
  ∃ pre mid post, log = pre ++ f :: (mid ++ g :: post) ∧ f.tick < g.tick ∧
    g.source.name = f.source.name ∧ ∀ h ∈ mid, h.source.name ≠ f.source.name

/-- The validators that a fetch delivers are sent with the next fetch of the source. -/
structure PolitePolling (log : List FetchRecord) : Prop where
  etag : ∀ f g, NextFetch log f g → ∀ value, Brings f "etag" value →
    Sends g "If-None-Match" value
  lastModified : ∀ f g, NextFetch log f g → f.source.keepsLastModified = true →
    ∀ value, Brings f "last-modified" value → Sends g "If-Modified-Since" value

/-- The fetch delivers a validator that its source keeps. -/
def BringsValidator (f : FetchRecord) : Prop :=
  (∃ value, Brings f "etag" value) ∨
    (f.source.keepsLastModified = true ∧ ∃ value, Brings f "last-modified" value)

/-! ### What the worker does -/

lemma validators_buildSources (c : SourceConfig) :
    ∀ s ∈ buildSources c, s.validators = ⟨none, none⟩ := by
  intro s hs
  simp only [buildSources, List.mem_append, List.mem_mapIdx] at hs
  rcases hs with (⟨i, hi, rfl⟩ | ⟨i, hi, rfl⟩) | ⟨i, hi, rfl⟩
  · rfl
  · rfl
  · rfl

lemma conditional_of_fresh {s : Source} (h : s.validators = ⟨none, none⟩) : s.conditional = [] := by
  unfold Source.conditional
  rw [h]
  split <;> rfl

lemma conditional_fetched (c : SourceConfig) (s : PollState) (replies : SourceName → SourceReply) :
    ∀ f ∈ s.fetched c replies, f.conditional = [] := by
  intro f hf
  obtain ⟨p, hp, rfl⟩ := List.mem_map.mp hf
  have hmem := (List.of_mem_zip (List.mem_filter.mp hp).1).1
  exact conditional_of_fresh (validators_buildSources c p.1 hmem)

/-- No fetch of a run is conditional. -/
lemma conditional_log (fromStr : String → Option Json) (pageUrl : String → Nat → String)
    (c : SourceConfig) (s : PollState) (ticks : List (SourceName → SourceReply)) :
    ∀ f ∈ PollState.log fromStr pageUrl c s ticks, f.conditional = [] := by
  induction ticks generalizing s with
  | nil => exact fun f hf => absurd hf List.not_mem_nil
  | cons replies ticks ih =>
    intro f hf
    rcases List.mem_append.mp hf with hf | hf
    · exact conditional_fetched c s replies f hf
    · exact ih _ f hf

/-- For every configuration and every run of ticks: the polling is polite exactly when no source is
fetched again after a fetch that delivered a validator of it. -/
theorem politePolling_iff (fromStr : String → Option Json) (pageUrl : String → Nat → String)
    (c : SourceConfig) (ticks : List (SourceName → SourceReply)) :
    PolitePolling (PollState.log fromStr pageUrl c (.new c) ticks) ↔
      ∀ f g, NextFetch (PollState.log fromStr pageUrl c (.new c) ticks) f g →
        ¬BringsValidator f := by
  have hsends : ∀ f g field value,
      NextFetch (PollState.log fromStr pageUrl c (.new c) ticks) f g → ¬Sends g field value := by
    rintro f g field value ⟨pre, mid, post, hlog, -⟩ ⟨text, htext, -⟩
    have hg : g ∈ PollState.log fromStr pageUrl c (.new c) ticks := by
      rw [hlog]
      simp
    rw [conditional_log fromStr pageUrl c _ ticks g hg] at htext
    cases htext
  constructor
  · rintro h f g hnext (⟨value, hbrings⟩ | ⟨hkeeps, value, hbrings⟩)
    · exact hsends f g _ _ hnext (h.etag f g hnext value hbrings)
    · exact hsends f g _ _ hnext (h.lastModified f g hnext hkeeps value hbrings)
  · intro h
    refine ⟨fun f g hnext value hbrings => ?_, fun f g hnext hkeeps value hbrings => ?_⟩
    · exact absurd (.inl ⟨value, hbrings⟩) (h f g hnext)
    · exact absurd (.inr ⟨hkeeps, value, hbrings⟩) (h f g hnext)

/-- One API source, and a server that sends the same `ETag` at two ticks. -/
theorem poll_unconditional :
    let c : SourceConfig := ⟨["https://api.example/list"], 1, [], [], 3, 12⟩
    let reply : SourceReply :=
      ⟨.response 200 [("etag", "v1".toUTF8.toList)] (.ok "[]"), [], false⟩
    ¬PolitePolling (PollState.log (fun _ => none) (fun url _ => url) c (.new c)
      [fun _ => reply, fun _ => reply]) := by
  intro c reply h
  have hlog : PollState.log (fun _ => none) (fun url _ => url) c (.new c)
      [fun _ => reply, fun _ => reply] =
        [⟨1, ApiSource.new 0 "https://api.example/list" 1, [], reply⟩,
          ⟨2, ApiSource.new 0 "https://api.example/list" 1, [], reply⟩] := rfl
  obtain ⟨text, htext, -⟩ := h.etag _ _
    ⟨[], [], [], hlog, Nat.lt_succ_self 1, rfl, fun g hg => absurd hg List.not_mem_nil⟩
    "v1".toUTF8.toList ⟨rfl, rfl, rfl⟩
  cases htext

end IPProxyPool
