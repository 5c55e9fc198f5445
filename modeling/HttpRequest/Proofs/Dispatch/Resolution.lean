import HttpRequest.Dispatch.Target
import HttpRequest.Proofs.Text.Slashes

/-! # Resolving a target

A target is resolved by making its runs of slashes single, putting it behind the directory of the place
when it is relative, cutting it at the first question mark, and making the path in front canonical. So
what is found lies within the context, and nothing is found exactly when the path leads above its root.
The query behind is taken as the caller gave it, except for two things: its runs of slashes are made
single too, and a question mark in the directory comes before the caller's own.
-/
namespace HttpRequest

namespace Path

@[simp] theorem toList_compact (path : String) : (compact path).toList = compactChars path.toList :=
  String.toList_ofList

theorem splitQuery_of_plain {target : String} (plain : '?' ∉ target.toList) : splitQuery target = (target,none) := by
  simp [splitQuery, cutAt_of_not_mem plain]

theorem splitQuery_of_cut {target : String} {path query : List Char} (plain : '?' ∉ path)
    (cut : target.toList = path ++ '?' :: query) :
    splitQuery target = (String.ofList path,if query = [] then none else some (String.ofList query)) := by
  rw [splitQuery, cut, cutAt_append plain]
  cases query <;> simp

theorem plain_splitQuery (target : String) : '?' ∉ (splitQuery target).1.toList := by
  by_cases marked : '?' ∈ target.toList
  · obtain ⟨path,query,cut,plain⟩ := List.eq_append_cons_of_mem marked
    rw [splitQuery_of_cut plain cut]
    simpa using plain
  · rwa [splitQuery_of_plain marked]

theorem splitQuery_snd_ne (target : String) : (splitQuery target).2 ≠ some "" := by
  by_cases marked : '?' ∈ target.toList
  · obtain ⟨path,query,cut,plain⟩ := List.eq_append_cons_of_mem marked
    rw [splitQuery_of_cut plain cut]
    by_cases empty : query = [] <;> simp [empty]
  · simp [splitQuery_of_plain marked]

theorem head?_splitQuery {target : String} (absolute : target.toList.head? = some '/') :
    (splitQuery target).1.toList.head? = some '/' := by
  by_cases marked : '?' ∈ target.toList
  · obtain ⟨path,query,cut,plain⟩ := List.eq_append_cons_of_mem marked
    rw [cut] at absolute
    rw [splitQuery_of_cut plain cut]
    cases path with
    | nil => cases absolute
    | cons c path => simpa using absolute
  · rwa [splitQuery_of_plain marked]

theorem not_mem_of_canonical? {c : Char} (other : c ≠ '/') {path out : String}
    (canonical : canonical? path = some out) (outside : c ∉ path.toList) : c ∉ out.toList := by
  obtain ⟨chars,found,rfl⟩ := Option.map_eq_some_iff.mp canonical
  rw [String.toList_ofList]
  exact not_mem_of_canonicalChars? other found outside

theorem not_doubled_of_canonical? {path out : String} (canonical : canonical? path = some out)
    (single : ¬Doubled path.toList) : ¬Doubled out.toList := by
  obtain ⟨chars,found,rfl⟩ := Option.map_eq_some_iff.mp canonical
  rw [String.toList_ofList]
  exact not_doubled_of_canonicalChars? found single

theorem not_doubled_splitQuery {target : String} (single : ¬Doubled target.toList) :
    ¬Doubled (splitQuery target).1.toList := by
  by_cases marked : '?' ∈ target.toList
  · obtain ⟨path,query,cut,plain⟩ := List.eq_append_cons_of_mem marked
    rw [splitQuery_of_cut plain cut, String.toList_ofList]
    intro double
    rw [cut] at single
    exact single (double.trans (List.prefix_append path _).isInfix)
  · rwa [splitQuery_of_plain marked]

theorem parentChars_eq_append {path : List Char} (nonempty : parentChars path ≠ []) :
    ∃ front, parentChars path = front ++ ['/'] := by
  have slash := List.head?_dropWhile_not (· != '/') path.reverse
  unfold parentChars at nonempty ⊢
  cases kept : path.reverse.dropWhile (· != '/') with
  | nil => simp [kept] at nonempty
  | cons c rest =>
    rw [kept] at slash
    have last : c = '/' := by simpa using slash
    exact ⟨rest.reverse,by simp [last]⟩

theorem parentChars_prefix (path : List Char) : parentChars path <+: path := by
  have inside := List.reverse_prefix.mpr (List.dropWhile_suffix (fun c => c != '/') (l := path.reverse))
  rwa [List.reverse_reverse] at inside

theorem joinChars_rooted {base path : List Char} (front : base = [] ∨ base.head? = some '/')
    (back : path = [] ∨ path.head? = some '/') : joinChars base path = [] ∨ (joinChars base path).head? = some '/' := by
  cases base with
  | nil => simpa [joinChars] using back
  | cons c base =>
    right
    have slash : c = '/' := by simpa using front
    unfold joinChars
    split
    · simp [slash]
    · split <;> simp [slash]

end Path

open HttpRequest.Path

theorem DispatchTarget.forPath_eq (contextPath : String) {path : String} {query : Option String}
    (plain : '?' ∉ path.toList) (some_ : query ≠ some "") :
    forPath contextPath (query.elim path fun query => path ++ "?" ++ query) =
      .path { path := join contextPath path, query := query } contextPath path := by
  cases query with
  | none => simp [forPath, splitQuery_of_plain plain, Uri.withPathQuery, Uri.withQuery]
  | some query =>
    have cut : (path ++ "?" ++ query).toList = path.toList ++ '?' :: query.toList := by simp
    have nonempty : query ≠ "" := fun empty => some_ (congrArg some empty)
    simp [forPath, splitQuery_of_cut plain cut, Uri.withPathQuery, Uri.withQuery, nonempty]

namespace Request
variable (r : Request)

/-- All that resolving does: the absolute target is cut, and its path made canonical. -/
theorem resolve_eq (target : String) :
    r.resolve target = (canonical? (splitQuery (r.absolutePath target)).1).map fun path =>
      .path { path := join (r.contextPath.getD "") path, query := (splitQuery (r.absolutePath target)).2 }
        (r.contextPath.getD "") path := by
  have plain := plain_splitQuery (r.absolutePath target)
  have nonempty := splitQuery_snd_ne (r.absolutePath target)
  unfold resolve
  cases cut : splitQuery (r.absolutePath target) with
  | mk place query =>
    rw [cut] at plain nonempty
    dsimp only
    cases canonical : canonical? place with
    | none => rw [Option.map_none, Option.map_none]
    | some path =>
      have kept : '?' ∉ path.toList := not_mem_of_canonical? (by decide) canonical plain
      rw [Option.map_some, Option.map_some, DispatchTarget.forPath_eq _ kept nonempty]

theorem resolve_eq_some_iff {target : String} {t : DispatchTarget} : r.resolve target = some t ↔
    ∃ path, canonical? (splitQuery (r.absolutePath target)).1 = some path ∧
      t = .path { path := join (r.contextPath.getD "") path, query := (splitQuery (r.absolutePath target)).2 }
        (r.contextPath.getD "") path := by
  rw [resolve_eq]
  cases canonical? (splitQuery (r.absolutePath target)).1 with
  | none => simp
  | some path => simp [eq_comm]

theorem resolve_eq_none_iff (target : String) :
    r.resolve target = none ↔ Climbs (splitQuery (r.absolutePath target)).1.toList := by
  rw [resolve_eq, Option.map_eq_none_iff, canonical?_eq_none_iff]

theorem baseDirectory_cases : r.baseDirectory = "/" ∨
    ∃ place, place = join (r.handlerPath.getD "") (r.pathInfo.getD "") ∧ parentChars place.toList ≠ [] ∧
      r.baseDirectory = String.ofList (parentChars place.toList) := by
  unfold baseDirectory
  generalize join (r.handlerPath.getD "") (r.pathInfo.getD "") = place
  dsimp only
  split
  next long =>
    right
    refine ⟨place,rfl,?_,rfl⟩
    intro empty
    simp [empty] at long
  · exact .inl rfl

theorem baseDirectory_eq : ∃ front, r.baseDirectory.toList = front ++ ['/'] := by
  rcases r.baseDirectory_cases with root | ⟨place,-,nonempty,directory⟩
  · exact ⟨[],by simp [root]⟩
  · rw [directory, String.toList_ofList]
    exact parentChars_eq_append nonempty

theorem absolutePath_of_absolute {target : String} (absolute : target.toList.head? = some '/') :
    (r.absolutePath target).toList = compactChars target.toList := by
  simp [absolutePath, head?_compactChars, absolute]

theorem absolutePath_of_relative {target : String} (relative : target.toList.head? ≠ some '/') :
    (r.absolutePath target).toList = r.baseDirectory.toList ++ compactChars target.toList := by
  obtain ⟨front,ends⟩ := r.baseDirectory_eq
  have start : (compactChars target.toList).head? ≠ some '/' := by rwa [head?_compactChars]
  have last : r.baseDirectory.toList.getLast? = some '/' := by simp [ends]
  unfold absolutePath
  simp [start, join, joinChars, last]

/-- What a caller puts behind a question mark stays behind what comes before it. -/
theorem absolutePath_append (path query : String) : (r.absolutePath (path ++ "?" ++ query)).toList =
    (r.absolutePath path).toList ++ '?' :: compactChars query.toList := by
  have whole : (path ++ "?" ++ query).toList = path.toList ++ '?' :: query.toList := by simp
  have mark : '?' ≠ '/' := by decide
  have start : (path ++ "?" ++ query).toList.head? = some '/' ↔ path.toList.head? = some '/' := by
    rw [whole]
    cases path.toList <;> simp
  by_cases absolute : path.toList.head? = some '/'
  · rw [r.absolutePath_of_absolute absolute, r.absolutePath_of_absolute (start.mpr absolute), whole,
      compactChars_append_cons mark]
  · have relative : (path ++ "?" ++ query).toList.head? ≠ some '/' := fun both => absolute (start.mp both)
    rw [r.absolutePath_of_relative absolute, r.absolutePath_of_relative relative, whole,
      compactChars_append_cons mark, List.append_assoc]

theorem plain_absolutePath_iff {path : String} (plain : '?' ∉ path.toList) :
    '?' ∉ (r.absolutePath path).toList ↔ path.toList.head? = some '/' ∨ '?' ∉ r.baseDirectory.toList := by
  have compact : '?' ∉ compactChars path.toList := fun mem => plain ((compactChars_sublist _).subset mem)
  by_cases absolute : path.toList.head? = some '/'
  · simp [r.absolutePath_of_absolute absolute, absolute, compact]
  · simp [r.absolutePath_of_relative absolute, absolute, compact]

/-! ## The caller's query -/

section Query
variable {r} {path query : String} {t : DispatchTarget}

theorem query_of_unmarked (unmarked : '?' ∉ (r.absolutePath path).toList)
    (resolved : r.resolve (path ++ "?" ++ query) = some t) :
    t.query? = if query = "" then none else some (compact query) := by
  obtain ⟨place,-,rfl⟩ := r.resolve_eq_some_iff.mp resolved
  have nothing : compactChars query.toList = [] ↔ query = "" := by simp [compactChars_eq_nil_iff]
  rw [DispatchTarget.query?, DispatchTarget.uri?, Option.bind_some,
    splitQuery_of_cut unmarked (r.absolutePath_append path query)]
  simp only [nothing, compact]

theorem absolutePath_append_of_cut {place behind : List Char}
    (cut : (r.absolutePath path).toList = place ++ '?' :: behind) :
    (r.absolutePath (path ++ "?" ++ query)).toList =
      place ++ '?' :: (behind ++ '?' :: compactChars query.toList) := by
  rw [r.absolutePath_append, cut]
  simp

/-- The query that is found begins with what stands behind the first question mark of the directory. -/
theorem query_of_marked (marked : '?' ∈ (r.absolutePath path).toList)
    (resolved : r.resolve (path ++ "?" ++ query) = some t) :
    ∃ front, t.query? = some (String.ofList (front ++ '?' :: compactChars query.toList)) := by
  obtain ⟨place,behind,cut,plain⟩ := List.eq_append_cons_of_mem marked
  obtain ⟨found,-,rfl⟩ := r.resolve_eq_some_iff.mp resolved
  refine ⟨behind,?_⟩
  rw [DispatchTarget.query?, DispatchTarget.uri?, Option.bind_some,
    splitQuery_of_cut plain (absolutePath_append_of_cut cut)]
  simp

theorem splitQuery_absolutePath_append (r : Request) (path query : String) :
    (splitQuery (r.absolutePath (path ++ "?" ++ query))).1 = (splitQuery (r.absolutePath path)).1 := by
  by_cases marked : '?' ∈ (r.absolutePath path).toList
  · obtain ⟨place,behind,cut,plain⟩ := List.eq_append_cons_of_mem marked
    rw [splitQuery_of_cut plain (absolutePath_append_of_cut cut), splitQuery_of_cut plain cut]
  · rw [splitQuery_of_cut marked (r.absolutePath_append path query), splitQuery_of_plain marked,
      String.ofList_toList]

theorem pathInContext_of_append (resolved : r.resolve (path ++ "?" ++ query) = some t) :
    ∃ u, r.resolve path = some u ∧ u.pathInContext? = t.pathInContext? := by
  obtain ⟨found,canonical,rfl⟩ := r.resolve_eq_some_iff.mp resolved
  rw [splitQuery_absolutePath_append] at canonical
  refine ⟨_,r.resolve_eq_some_iff.mpr ⟨found,canonical,rfl⟩,?_⟩
  simp only [DispatchTarget.pathInContext?]

/-- A path without a question mark is found as it is found without a query. Its query has single slashes
where the caller's has runs of them, unless the path is relative to a directory that holds a question
mark. So the caller's query is kept exactly when there is no such run in it and no such mark. -/
theorem query_kept_iff (plain : '?' ∉ path.toList) (resolved : r.resolve (path ++ "?" ++ query) = some t) :
    (∃ u, r.resolve path = some u ∧ u.pathInContext? = t.pathInContext?) ∧
      (path.toList.head? = some '/' ∨ '?' ∉ r.baseDirectory.toList →
        t.query? = if query = "" then none else some (compact query)) ∧
      (t.query? = (if query = "" then none else some query) ↔
        ¬Doubled query.toList ∧ (path.toList.head? = some '/' ∨ '?' ∉ r.baseDirectory.toList)) := by
  rw [← r.plain_absolutePath_iff plain]
  refine ⟨pathInContext_of_append resolved,fun unmarked => query_of_unmarked unmarked resolved,?_⟩
  by_cases marked : '?' ∈ (r.absolutePath path).toList
  · obtain ⟨front,found⟩ := query_of_marked marked resolved
    have mark : '?' ≠ '/' := by decide
    have longer : String.ofList (front ++ '?' :: compactChars query.toList) ≠ query := by
      intro same
      apply append_compactChars_ne mark front query.toList
      rw [← String.toList_ofList (l := front ++ '?' :: compactChars query.toList), same]
    rw [found]
    by_cases empty : query = ""
    · simp [marked, empty]
    · simp only [empty, if_false, Option.some.injEq, longer, marked, not_true, and_false]
  · have kept : compact query = query ↔ ¬Doubled query.toList := by
      rw [← compactChars_eq_self_iff, ← String.toList_inj, toList_compact]
    rw [query_of_unmarked marked resolved]
    by_cases empty : query = ""
    · simp [marked, empty, not_doubled_nil]
    · simp [marked, empty, kept]

def shopItem : Request :=
  { contextPath := some "/app"
    handlerPath := some "/shop"
    pathInfo := some "/list/item"
    body := .new 30000 }

/-- A relative path with a query whose slashes stand alone. -/
theorem shopItem_query_kept : '?' ∉ "..//other".toList ∧ ¬Doubled "next=/a/b&back=?/".toList ∧
    ∃ t, shopItem.resolve ("..//other" ++ "?" ++ "next=/a/b&back=?/") = some t ∧
      t.query? = some "next=/a/b&back=?/" ∧
      ∃ u, shopItem.resolve "..//other" = some u ∧ u.pathInContext? = t.pathInContext? := by
  have plain : '?' ∉ "..//other".toList := by decide
  have single : ¬Doubled "next=/a/b&back=?/".toList := by
    rw [← compactChars_eq_self_iff]
    decide
  have unmarked : '?' ∉ shopItem.baseDirectory.toList := by decide +kernel
  have resolved : shopItem.resolve ("..//other" ++ "?" ++ "next=/a/b&back=?/") =
      some (.path { path := "/app/shop/other", query := some "next=/a/b&back=?/" } "/app" "/shop/other") := by
    decide +kernel
  obtain ⟨samePath,-,kept⟩ := query_kept_iff plain resolved
  exact ⟨plain,single,_,resolved,kept.mpr ⟨single,.inr unmarked⟩,samePath⟩

/-- A slash is lost from a query that holds an address. -/
theorem shopItem_query_changed : '?' ∉ "/p".toList ∧
    ∃ t, shopItem.resolve ("/p" ++ "?" ++ "u=a//b") = some t ∧ t.query? = some "u=a/b" ∧ t.query? ≠ some "u=a//b" := by
  refine ⟨by decide,.path { path := "/app/p", query := some "u=a/b" } "/app" "/p",?_,rfl,by decide⟩
  decide +kernel

end Query

/-! ## The context -/

/-- Absent, empty or absolute. -/
def Rooted (path : Option String) : Prop :=
  ∀ text, path = some text → text = "" ∨ text.toList.head? = some '/'

theorem Rooted.chars {path : Option String} (rooted : Rooted path) :
    (path.getD "").toList = [] ∨ (path.getD "").toList.head? = some '/' := by
  cases path with
  | none => exact .inl rfl
  | some text =>
    rcases rooted text rfl with rfl | absolute
    · exact .inl rfl
    · exact .inr absolute

section Rooted
variable {r} (handler : Rooted r.handlerPath) (info : Rooted r.pathInfo)
include handler info

theorem head?_baseDirectory : r.baseDirectory.toList.head? = some '/' := by
  rcases r.baseDirectory_cases with root | ⟨place,joined,nonempty,directory⟩
  · simp [root]
  · have start : place.toList = [] ∨ place.toList.head? = some '/' := by
      rw [joined, join, String.toList_ofList]
      exact joinChars_rooted handler.chars info.chars
    obtain ⟨behind,split⟩ := parentChars_prefix place.toList
    rw [directory, String.toList_ofList]
    cases front : parentChars place.toList with
    | nil => exact absurd front nonempty
    | cons c rest =>
      rw [front] at split
      rw [← split] at start
      simpa using start

theorem head?_absolutePath (target : String) : (r.absolutePath target).toList.head? = some '/' := by
  by_cases absolute : target.toList.head? = some '/'
  · rw [r.absolutePath_of_absolute absolute, head?_compactChars, absolute]
  · rw [r.absolutePath_of_relative absolute, List.head?_append, head?_baseDirectory handler info]
    rfl

/-- For a request whose handler path and path info are absent, empty or absolute, whatever target is
resolved: the path that is found is absolute and leads nowhere but down, it has no run of slashes when
the target is absolute, and the address is the context path with this path behind it. Nothing is found
exactly when the absolute path up to the first question mark leads above its root. -/
theorem resolve_confined (target : String) :
    (∀ t, r.resolve target = some t → ∃ path, t.pathInContext? = some path ∧ Confined path.toList ∧
        (target.toList.head? = some '/' → ¬Doubled path.toList) ∧
        t.uri?.map (·.path) = some (join (r.contextPath.getD "") path)) ∧
      (r.resolve target = none ↔ Climbs (splitQuery (r.absolutePath target)).1.toList) := by
  refine ⟨?_,r.resolve_eq_none_iff target⟩
  intro t resolved
  obtain ⟨path,canonical,rfl⟩ := r.resolve_eq_some_iff.mp resolved
  have absolute := head?_splitQuery (head?_absolutePath handler info target)
  refine ⟨path,rfl,confined_of_canonical? absolute canonical,?_,rfl⟩
  intro start
  apply not_doubled_of_canonical? canonical
  apply not_doubled_splitQuery
  rw [r.absolutePath_of_absolute start]
  exact not_doubled_compactChars _

end Rooted

/-- A relative target with dots in its path and in its query, and one that leads above the context. -/
theorem shopItem_confined : Rooted shopItem.handlerPath ∧ Rooted shopItem.pathInfo ∧
    (∃ t, shopItem.resolve "..//other/./x/..?u=/../.." = some t ∧ t.pathInContext? = some "/shop/other/" ∧
      Confined "/shop/other/".toList ∧ t.uri?.map (·.path) = some "/app/shop/other/") ∧
    shopItem.resolve "../../../x" = none := by
  have handler : Rooted shopItem.handlerPath := by
    rintro _ ⟨⟩
    exact .inr rfl
  have info : Rooted shopItem.pathInfo := by
    rintro _ ⟨⟩
    exact .inr rfl
  have resolved : shopItem.resolve "..//other/./x/..?u=/../.." =
      some (.path { path := "/app/shop/other/", query := some "u=/../.." } "/app" "/shop/other/") := by
    decide +kernel
  have above : Climbs (splitQuery (shopItem.absolutePath "../../../x")).1.toList := by
    rw [← canonical?_eq_none_iff]
    decide +kernel
  obtain ⟨path,found,confined,-,address⟩ := (resolve_confined handler info "..//other/./x/..?u=/../..").1 _ resolved
  cases found
  have whole : join (shopItem.contextPath.getD "") "/shop/other/" = "/app/shop/other/" := by decide +kernel
  rw [whole] at address
  exact ⟨handler,info,⟨_,resolved,rfl,confined,address⟩,(resolve_confined handler info "../../../x").2.mpr above⟩

end Request

end HttpRequest
