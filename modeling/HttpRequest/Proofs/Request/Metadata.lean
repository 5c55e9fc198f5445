import HttpRequest.Proofs.Text.Decoding
import HttpRequest.Proofs.Text.Path
import HttpRequest.Request.Metadata
import HttpRequest.Uri.Grammar

/-! # Path information leads only down

A grammar is rooted when the paths of the targets that it accepts are empty or absolute. An empty path is
refused, and an absolute one stays absolute when it is decoded, so that canonical form has the last word:
what a request is handled by has no `.` and no `..` left, however they and the slashes around them were
written in the target.
-/
namespace HttpRequest

namespace Target

theorem path_of_pathQuery? {text path : List Char} {query : Option (List Char)}
    (read : pathQuery? text = some (path,query)) : path <+: text ∧ '?' ∉ path ∧ '#' ∉ path := by
  unfold pathQuery? at read
  dsimp only at read
  split at read
  · have first : path = (text.takeWhile (· != '#')).takeWhile (· != '?') := by
      rw [← cutAt_fst]
      exact (congrArg Prod.fst (Option.some.inj read)).symm
    subst first
    refine ⟨(List.takeWhile_prefix _).trans (List.takeWhile_prefix _),fun mem => ?_,fun mem => ?_⟩
    · simpa using List.mem_takeWhile_imp mem
    · simpa using List.mem_takeWhile_imp ((List.takeWhile_prefix _).mem mem)
  · cases read

theorem absolute_of_pathQuery? {text path : List Char} {query : Option (List Char)}
    (read : pathQuery? text = some (path,query)) (start : ∀ c ∈ text.head?, Authority.isEnd c) :
    path = [] ∨ path.head? = some '/' := by
  obtain ⟨⟨tail,rfl⟩,noQuery,noFragment⟩ := path_of_pathQuery? read
  cases path with
  | nil => exact .inl rfl
  | cons c path =>
    have ends : Authority.isEnd c := start c rfl
    simp only [Authority.isEnd, Bool.or_eq_true, beq_iff_eq] at ends
    rcases ends with (rfl | rfl) | rfl
    · exact .inr rfl
    · simp at noQuery
    · simp at noFragment

theorem rest_of_split? {text authority rest : List Char}
    (split : Authority.split? text = some (authority,rest)) : ∀ c ∈ rest.head?, Authority.isEnd c := by
  unfold Authority.split? at split
  dsimp only at split
  split at split
  · split at split
    · cases split
      intro c mem
      have stopped := List.head?_dropWhile_not (fun c => !Authority.isEnd c) text
      rw [Option.mem_def.mp mem] at stopped
      simpa using stopped
    · cases split
  · cases split

theorem path_of_read? {text : List Char} {parts : Parts} (read : read? text = some parts)
    (plain : text ≠ ['*']) : parts.path = [] ∨ parts.path.head? = some '/' := by
  unfold read? at read
  split at read
  · cases read
  · split at read
    · exact absurd rfl plain
    · obtain ⟨⟨path,query⟩,found,rfl⟩ := Option.map_eq_some_iff.mp read
      exact absolute_of_pathQuery? found (by simp [Authority.isEnd])
    · split at read
      · cases read
      next scheme rest _ =>
        unfold absolute? at read
        split at read
        next behind cut =>
          obtain ⟨⟨path,query⟩,found,rfl⟩ := Option.map_eq_some_iff.mp read
          rcases absolute_of_pathQuery? found (rest_of_split? cut) with rfl | absolute
          · exact .inr rfl
          · refine .inr ?_
            cases path with
            | nil => cases absolute
            | cons c path => exact absolute
        · cases read
      · obtain ⟨authority,-,rfl⟩ := Option.map_eq_some_iff.mp read
        exact .inl rfl

end Target

/-- The path of every target but the asterisk that is accepted is empty or absolute. -/
def UriGrammar.Rooted [UriGrammar] : Prop :=
  ∀ target u, target ≠ "*" → Uri.parse target = .ok u → u.path = "" ∨ u.path.toList.head? = some '/'

theorem CommonGrammar.rooted : common.Rooted := by
  intro target u plain parsed
  unfold Uri.parse UriGrammar.target? common at parsed
  split at parsed
  · cases parsed
  next found =>
    cases parsed
    obtain ⟨parts,read,rfl⟩ := Option.map_eq_some_iff.mp found
    have notStar : target.toList ≠ ['*'] := fun star => plain (by rw [← String.ofList_toList (s := target), star])
    rcases Target.path_of_read? read notStar with empty | absolute
    · exact .inl (by rw [ofParts, empty])
    · exact .inr (by rw [ofParts, String.toList_ofList]; exact absolute)

theorem Uri.parse_eq_error [UriGrammar] {target : String} {f : Failure} (refused : Uri.parse target = .error f) :
    f = badUri := by
  unfold Uri.parse at refused
  split at refused <;> cases refused
  rfl

namespace Request
variable {r : Request} {method target : String} {version : Version} {headers : Headers}

theorem completeScheme_path (r : Request) (u : Uri) : (r.completeScheme u).path = u.path := by
  unfold completeScheme
  split <;> rfl

theorem completeHost_cases [UriGrammar] (headers : Headers) (u : Uri) :
    (∃ whole, completeHost headers u = .ok whole ∧ whole.path = u.path) ∨ completeHost headers u = .error badUri := by
  unfold completeHost Uri.withAuthority
  split
  · split
    · exact .inr rfl
    · exact .inl ⟨_,rfl,rfl⟩
  · exact .inl ⟨u,rfl,rfl⟩

theorem completeHost_path [UriGrammar] {u whole : Uri} (host : completeHost headers (completeScheme r u) = .ok whole) :
    whole.path = u.path := by
  rcases completeHost_cases headers (completeScheme r u) with ⟨_,found,same⟩ | refused
  · rw [host] at found
    cases found
    rw [same, completeScheme_path]
  · rw [host] at refused
    cases refused

/-- What a request is handled by: the decoded path in canonical form. -/
theorem safePath_eq_ok {u : Uri} {path : String} (safe : safePath u = .ok path) :
    ∃ decoded, Path.decode u.path = .ok decoded ∧ Path.canonical? decoded = some path := by
  unfold safePath Uri.decodedPath at safe
  split at safe
  · cases safe
  · split at safe
    · cases safe
    next decoded read =>
      split at safe
      next canonical =>
        cases safe
        exact ⟨decoded,read,canonical⟩
      · cases safe

theorem safePath_eq_error {u : Uri} {f : Failure} (refused : safePath u = .error f) : f = badUri := by
  unfold safePath Uri.decodedPath at refused
  split at refused
  · cases refused
    rfl
  · split at refused
    next broken =>
      cases refused
      exact (Path.decode_eq_error_iff.mp broken).1
    · split at refused
      · cases refused
      · cases refused
        rfl

/-- A path that is empty or absolute is used exactly when it is safe. -/
theorem safePath_isOk_iff {u : Uri} (wellFormed : u.path = "" ∨ u.path.toList.head? = some '/') :
    (∃ path, safePath u = .ok path) ↔ ¬Path.Forbidden u.path := by
  rcases wellFormed with empty | absolute
  · simp [safePath, empty, Path.forbidden_empty]
  · have nonempty : u.path ≠ "" := by
      intro empty
      rw [empty] at absolute
      cases absolute
    rw [Path.not_forbidden_iff absolute]
    constructor
    · rintro ⟨path,safe⟩
      obtain ⟨decoded,read,canonical⟩ := safePath_eq_ok safe
      exact ⟨decoded,path,read,canonical⟩
    · rintro ⟨decoded,path,read,canonical⟩
      exact ⟨path,by simp [safePath, nonempty, Uri.decodedPath, read, canonical]⟩

/-- What a request line says: the address, how it is reported, and the path by which it is handled. -/
def requestLine [UriGrammar] (r : Request) (method target : String) (headers : Headers) :
    Except Failure (Uri × String × String) :=
  (targetUri method target).bind fun u => (completeHost headers (completeScheme r u)).bind fun whole =>
    (targetPaths method target whole).map fun paths => (whole,paths)

def withLine (r : Request) (method : String) (version : Version) (headers : Headers)
    (line : Uri × String × String) : Request :=
  { r with
    clientId := RequestId.ofHeaders? headers
    received := true
    method := some method
    version
    headers
    uri := some line.1
    arrivedUri := some line.2.1
    pathInfo := some line.2.2 }

theorem withMetadata_eq [UriGrammar] (r : Request) (method target : String) (version : Version) (headers : Headers) :
    r.withMetadata method target version headers =
      (r.requestLine method target headers).map (r.withLine method version headers) := by
  simp only [withMetadata, requestLine, bind, pure]
  cases targetUri method target with
  | error f => rfl
  | ok u =>
    simp only [Except.bind]
    cases completeHost headers (completeScheme r u) with
    | error f => rfl
    | ok whole =>
      dsimp only
      cases targetPaths method target whole <;> rfl

theorem requestLine_congr [UriGrammar] {r other : Request} (secure : other.secure = r.secure) (method target : String)
    (headers : Headers) : other.requestLine method target headers = r.requestLine method target headers := by
  have scheme (u : Uri) : completeScheme other u = completeScheme r u := by
    simp only [completeScheme, defaultScheme, secure]
  simp only [requestLine, scheme]

theorem requestLine_plain [UriGrammar] (r : Request) (headers : Headers) (plainMethod : method ≠ "CONNECT")
    (plainTarget : target ≠ "*") :
    r.requestLine method target headers =
      (Uri.parse target).bind fun u => (completeHost headers (completeScheme r u)).bind fun whole =>
        (safePath whole).map fun path => (whole,whole.pathQuery,path) := by
  have plain : isVerbatim method target = false := by simp [isVerbatim, plainMethod, plainTarget]
  simp only [requestLine, targetUri, targetPaths, plain, Bool.false_eq_true, if_false]
  congr 1
  funext u
  congr 1
  funext whole
  cases safePath whole <;> rfl

theorem withMetadata_cases [UriGrammar] (r : Request) (version : Version) (headers : Headers)
    (plainMethod : method ≠ "CONNECT") (plainTarget : target ≠ "*") :
    (∃ u whole path after, Uri.parse target = .ok u ∧ completeHost headers (completeScheme r u) = .ok whole ∧
      safePath whole = .ok path ∧ r.withMetadata method target version headers = .ok after ∧
      after.pathInfo = some path) ∨
    (r.withMetadata method target version headers = .error badUri ∧
      ∀ u whole path, Uri.parse target = .ok u → completeHost headers (completeScheme r u) = .ok whole →
        safePath whole ≠ .ok path) := by
  rw [withMetadata_eq, requestLine_plain r headers plainMethod plainTarget]
  cases parsed : Uri.parse target with
  | error f =>
    refine .inr ⟨?_,fun _ _ _ accepted => by cases accepted⟩
    rw [Uri.parse_eq_error parsed]
    rfl
  | ok u =>
    rcases completeHost_cases headers (completeScheme r u) with ⟨whole,host,-⟩ | host
    · cases safe : safePath whole with
      | error f =>
        refine .inr ⟨?_,?_⟩
        · simp only [Except.bind, host, safe, Except.map, safePath_eq_error safe]
        · rintro _ _ path ⟨⟩ hosted
          rw [host] at hosted
          cases hosted
          simp [safe]
      | ok path => exact .inl ⟨u,whole,path,_,rfl,host,safe,by simp only [Except.bind, host, safe, Except.map]; rfl,rfl⟩
    · refine .inr ⟨?_,?_⟩
      · simp only [Except.bind, host, Except.map]
      · rintro _ _ _ ⟨⟩ hosted
        rw [host] at hosted
        cases hosted

/-- For all rooted grammars, all methods but CONNECT and all targets but the asterisk: what a request is
handled by is absolute, leads only down and is the canonical form of the decoded path; a path with a broken
escape, an empty one and one that climbs above the root are refused as bad input. Nothing else is wrong
with a refused target than its form, its path, or the host it is sent to. -/
theorem pathInfo_confined [UriGrammar] (rooted : UriGrammar.Rooted) (r : Request) (method target : String)
    (version : Version) (headers : Headers) (plainMethod : method ≠ "CONNECT") (plainTarget : target ≠ "*") :
    (∀ after, r.withMetadata method target version headers = .ok after →
      ∃ uri decoded path, Uri.parse target = .ok uri ∧ Path.decode uri.path = .ok decoded ∧
        Path.canonical? decoded = some path ∧ after.pathInfo = some path ∧
        path.toList.head? = some '/' ∧ ∀ s ∈ path.toList.splitOn '/', s ≠ ['.'] ∧ s ≠ ['.', '.']) ∧
    (∀ uri, Uri.parse target = .ok uri → Path.Forbidden uri.path →
      r.withMetadata method target version headers = .error (.badMessage 400 "Bad URI")) ∧
    (∀ f, r.withMetadata method target version headers = .error f → f = .badMessage 400 "Bad URI") ∧
    (∀ uri whole, Uri.parse target = .ok uri → ¬Path.Forbidden uri.path →
      completeHost headers (completeScheme r uri) = .ok whole →
      ∃ after, r.withMetadata method target version headers = .ok after) := by
  rcases withMetadata_cases r version headers plainMethod plainTarget with
    ⟨u,whole,path,after,parsed,host,safe,accepted,handled⟩ | ⟨refused,unusable⟩
  · have same := completeHost_path host
    obtain ⟨decoded,read,canonical⟩ := safePath_eq_ok safe
    have sound := (safePath_isOk_iff (same ▸ rooted target u plainTarget parsed)).mp ⟨path,safe⟩
    rw [same] at read sound
    have absolute : decoded.toList.head? = some '/' := by
      rcases rooted target u plainTarget parsed with empty | absolute
      · exact absurd (empty ▸ Path.forbidden_empty) sound
      · exact Path.decode_absolute absolute read
    have confined := Path.confined_of_canonical? absolute canonical
    rw [accepted]
    refine ⟨?_,?_,fun _ failed => (by cases failed),fun _ _ _ _ _ => ⟨after,rfl⟩⟩
    · rintro _ ⟨⟩
      exact ⟨u,decoded,path,parsed,read,canonical,handled,confined.absolute,confined.down⟩
    · intro uri again climbs
      rw [parsed] at again
      cases again
      exact absurd climbs sound
  · rw [refused]
    refine ⟨fun _ accepted => (by cases accepted),fun _ _ _ => rfl,?_,?_⟩
    · rintro _ ⟨⟩
      rfl
    · intro uri whole parsed sound host
      have same := completeHost_path host
      obtain ⟨path,safe⟩ := (safePath_isOk_iff (same ▸ rooted target uri plainTarget parsed)).mpr (same ▸ sound)
      exact absurd safe (unusable uri whole path parsed host)

open CommonGrammar

/-- Dots and slashes count as such when they are escaped. -/
theorem pathInfo_of_escapes :
    common.Rooted ∧ "GET" ≠ "CONNECT" ∧ "/x/%2E%2e/y%2F.%2e/z" ≠ "*" ∧
      ∃ after, (Request.new {}).withMetadata "GET" "/x/%2E%2e/y%2F.%2e/z" .http11 {} = .ok after ∧
        after.pathInfo = some "/z" := by
  have target : Target.read? "/x/%2E%2e/y%2F.%2e/z".toList = some { path := "/x/%2E%2e/y%2F.%2e/z".toList } := by
    decide +kernel
  have parsed : Uri.parse "/x/%2E%2e/y%2F.%2e/z" = .ok { path := "/x/%2E%2e/y%2F.%2e/z" } := by
    simp only [Uri.parse, UriGrammar.target?, target]
    rfl
  have bytes : Escape.decode? (octetsOf "/x/%2E%2e/y%2F.%2e/z") = some (octetsOf "/x/../y/../z") := by
    decide +kernel
  have text : Utf8.decode? (octetsOf "/x/../y/../z") = some "/x/../y/../z" := by decide +kernel
  have read : Path.decode "/x/%2E%2e/y%2F.%2e/z" = .ok "/x/../y/../z" := by simp only [Path.decode, bytes, text]
  have canonical : Path.canonical? "/x/../y/../z" = some "/z" := by decide +kernel
  obtain ⟨handled,-,-,accepted⟩ := pathInfo_confined CommonGrammar.rooted (Request.new {}) "GET"
    "/x/%2E%2e/y%2F.%2e/z" .http11 {} (by decide) (by decide)
  obtain ⟨after,ok⟩ := accepted _ _ parsed ((Path.not_forbidden_iff (by decide)).mpr ⟨_,_,read,canonical⟩) rfl
  obtain ⟨uri,decoded,path,parsed',read',canonical',known,-⟩ := handled after ok
  cases parsed.symm.trans parsed'
  cases read.symm.trans read'
  cases canonical.symm.trans canonical'
  exact ⟨CommonGrammar.rooted,by decide,by decide,after,ok,known⟩

end Request

end HttpRequest
