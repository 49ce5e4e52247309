import IPProxyPool.Model.Headers
import IPProxyPool.Model.SourceGuard

/-!
# Conditional fetches

`conditional_get` and the fetches of the three sources around it. The validators of a source are
its cached `ETag` and `Last-Modified` values; what the server answers is an input, and so is the
parser of the source.
-/

namespace IPProxyPool

structure Validators where
  etag : Option String
  lastModified : Option String
  deriving DecidableEq

/-- The request fails, or there is a response whose body can be read or breaks off. -/
inductive SourceAnswer where
  | failed (error : String)
  | response (status : Nat) (headers : HeaderMap) (body : Except String String)

/-- The fields that the cached values add to the request. -/
def Validators.requestHeaders (v : Validators) : List (String × String) :=
  (v.etag.map (fun e => ("If-None-Match", e))).toList ++
    (v.lastModified.map (fun m => ("If-Modified-Since", m))).toList

/-- The values of the response replace the cached ones, each where the response has it. -/
def Validators.store (v : Validators) (headers : HeaderMap) : Validators where
  etag := (headers.getStr "etag").or v.etag
  lastModified := (headers.getStr "last-modified").or v.lastModified

def conditionalGet (url : String) (answer : SourceAnswer) (v : Validators) :
    Except String (Option String) × Validators :=
  match answer with
  | .failed error => (.error ("GET " ++ url ++ " failed: " ++ error), v)
  | .response status headers body =>
    if status = 304 then (.ok none, v)
    else
      match body with
      | .ok text => (.ok (some text), v.store headers)
      | .error error => (.error ("read " ++ url ++ " failed: " ++ error), v.store headers)

/-! ### Fetches of the sources -/

/-- `fetch` of an HTML source, and of an API source with one page. -/
def fetchPage (parse : String → List RawNode) (url : String) (answer : SourceAnswer)
    (v : Validators) : Except String FetchOutcome × Validators :=
  match conditionalGet url answer v with
  | (.ok (some body), v') => (.ok ⟨parse body, false⟩, v')
  | (.ok none, v') => (.ok ⟨[], true⟩, v')
  | (.error error, v') => (.error error, v')

/-- The body that `text()` reads, whatever the status. -/
def SourceAnswer.text? : SourceAnswer → Option String
  | failed _ => none
  | response _ _ (.ok text) => some text
  | response _ _ (.error _) => none

/-- `fetch_pages`: only the first page is asked for conditionally. -/
def fetchPages (parse : String → List RawNode) (pages : Nat) (url : String)
    (first : SourceAnswer) (rest : List SourceAnswer) (v : Validators) :
    Except String FetchOutcome × Validators :=
  let p := conditionalGet url first v
  let firstBody := match p.1 with
    | .ok body => body
    | .error _ => none
  let bodies := firstBody.toList ++ rest.filterMap SourceAnswer.text?
  let notModified := match p.1 with
    | .ok none => true
    | _ => false
  (if bodies.isEmpty then
      if notModified then .ok ⟨[], true⟩
      else .error ("all " ++ toString pages ++ " api pages failed")
    else .ok ⟨bodies.flatMap parse, false⟩, p.2)

/-- `fetch` of a GitHub source, which keeps an `ETag` only. -/
def fetchGitHub (parse : String → List RawNode) (url : String) (answer : SourceAnswer)
    (etag : Option String) : Except String FetchOutcome × Option String :=
  match answer with
  | .failed error => (.error ("GET " ++ url ++ " failed: " ++ error), etag)
  | .response status headers body =>
    if status = 304 then (.ok ⟨[], true⟩, etag)
    else
      let etag' := (headers.getStr "etag").or etag
      match body with
      | .ok text => (.ok ⟨parse text, false⟩, etag')
      | .error error => (.error ("read " ++ url ++ " failed: " ++ error), etag')

end IPProxyPool
