import IPProxyPool.Model.ConditionalGet
import IPProxyPool.Model.FreeSource
import IPProxyPool.Model.HtmlScan
import IPProxyPool.Model.Metrics

/-!
# The fetches of a tick

The part of `FreePoolWorker` that polls the sources: `run_once` builds them anew, fetches those
whose guards allow it, and drops them. What the servers answer is an input; the JSON parser and the
paging of a URL are parameters.
-/

namespace IPProxyPool
open RustText

structure SourceConfig where
  apiUrls : List String
  apiPages : Nat
  htmlUrls : List String
  githubUrls : List String
  maxZeroCycles : UInt32
  suspendRetryEvery : UInt64

inductive SourceKind where
  | api (pages : Nat)
  | html (defaultProto : FreeProto)
  | github (defaultProto : FreeProto)

structure Source where
  name : SourceName
  url : String
  kind : SourceKind
  validators : Validators

/-- What the servers answer to a fetch: the first page, the further pages, and whether the fetch is
given up at its timeout. -/
structure SourceReply where
  first : SourceAnswer
  rest : List SourceAnswer
  timedOut : Bool

def apiMaxPages : Nat := 5

/-- `ApiSource::new` with `with_pages`. -/
def ApiSource.new (i : Nat) (url : String) (pages : Nat) : Source :=
  ⟨.api i, url, .api (max 1 (min pages apiMaxPages)), ⟨none, none⟩⟩

def HtmlSource.new (i : Nat) (url : String) (defaultProto : FreeProto) : Source :=
  ⟨.html i, url, .html defaultProto, ⟨none, none⟩⟩

def GitHubSource.new (i : Nat) (url : String) (defaultProto : FreeProto) : Source :=
  ⟨.gh i, url, .github defaultProto, ⟨none, none⟩⟩

/-- The sources of `build_sources`. The protocol of a file is looked for in its URL. -/
def buildSources (c : SourceConfig) : List Source :=
  c.apiUrls.mapIdx (fun i url => ApiSource.new i url c.apiPages) ++
    c.htmlUrls.mapIdx (fun i url => HtmlSource.new i url .http) ++
    c.githubUrls.mapIdx (fun i url =>
      GitHubSource.new i url (sniffProto (toAsciiLowercase url) .http))

namespace Source

section
variable (fromStr : String → Option Json) (pageUrl : String → Nat → String)

/-- The URL that is asked for conditionally. -/
def firstUrl (s : Source) : String :=
  match s.kind with
  | .api pages => if pages ≤ 1 then s.url else pageUrl s.url 1
  | _ => s.url

/-- The nodes that the source finds in a body; the scan of a page never faults. -/
def parse (s : Source) (body : String) : List RawNode :=
  match s.kind with
  | .api _ => ApiSource.parse fromStr s.name.text body
  | .html defaultProto =>
    match HtmlSource.extract s.name.text body.toUTF8.toList defaultProto with
    | .ok nodes => nodes
    | .error _ => []
  | .github defaultProto => GitHubSource.parseWith s.name.text body defaultProto

/-- `fetch`, with the validators that it leaves in the source. -/
def fetch (s : Source) (r : SourceReply) : Except String FetchOutcome × Validators :=
  match s.kind with
  | .api pages =>
    if pages ≤ 1 then fetchPage (s.parse fromStr) s.url r.first s.validators
    else fetchPages (s.parse fromStr) pages (s.firstUrl pageUrl) r.first r.rest s.validators
  | .html _ => fetchPage (s.parse fromStr) s.url r.first s.validators
  | .github _ =>
    let p := fetchGitHub (s.parse fromStr) s.url r.first s.validators.etag
    (p.1, { s.validators with etag := p.2 })

/-- The fields of the first request; a GitHub source sends an `ETag` only. -/
def conditional (s : Source) : List (String × String) :=
  match s.kind with
  | .github _ => (Validators.mk s.validators.etag none).requestHeaders
  | _ => s.validators.requestHeaders

/-- What the tick makes of a fetch. -/
def result (s : Source) (r : SourceReply) : SourceFetch :=
  if r.timedOut then .timedOut
  else match (s.fetch fromStr pageUrl r).1 with
    | .ok outcome => .fetched outcome
    | .error _ => .failed

end

end Source

/-- A fetch as the servers see it. -/
structure FetchRecord where
  tick : Nat
  source : Source
  conditional : List (String × String)
  reply : SourceReply

structure PollState where
  guards : List SourceGuard
  tick : Nat

namespace PollState

variable (fromStr : String → Option Json) (pageUrl : String → Nat → String)

def freshGuards (c : SourceConfig) (n : Nat) : List SourceGuard :=
  List.replicate n (.new c.maxZeroCycles c.suspendRetryEvery)

/-- `FreePoolWorker::new` makes at least one guard. -/
def new (c : SourceConfig) : PollState where
  guards :=
    freshGuards c (max 1 (c.apiUrls.length + c.htmlUrls.length + c.githubUrls.length))
  tick := 0

/-- The guards that `build_sources` leaves. -/
def alignedGuards (c : SourceConfig) (s : PollState) : List SourceGuard :=
  let n := (buildSources c).length
  if s.guards.length = n then s.guards else freshGuards c n

/-- The sources that are fetched at this tick, with the replies to them. -/
def fetched (c : SourceConfig) (s : PollState) (replies : SourceName → SourceReply) :
    List FetchRecord :=
  (((buildSources c).zip (s.alignedGuards c)).filter
    (fun p => p.2.shouldFetch (s.tick + 1))).map (fun p =>
      ⟨s.tick + 1, p.1, p.1.conditional, replies p.1.name⟩)

/-- The polling of `run_once`: the sources live as long as the tick. -/
def runOnce (c : SourceConfig) (s : PollState) (replies : SourceName → SourceReply) :
    PollState where
  guards := ((buildSources c).zip (s.alignedGuards c)).map (fun p =>
    p.2.tick (s.tick + 1) (p.1.result fromStr pageUrl (replies p.1.name)))
  tick := s.tick + 1

/-- The fetches of `run` over the ticks, in order. -/
def log (c : SourceConfig) : PollState → List (SourceName → SourceReply) → List FetchRecord
  | _, [] => []
  | s, replies :: later =>
    s.fetched c replies ++ log c (s.runOnce fromStr pageUrl c replies) later

end PollState

end IPProxyPool
