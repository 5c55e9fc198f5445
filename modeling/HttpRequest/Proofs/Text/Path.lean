import HttpRequest.Path
import HttpRequest.Proofs.Text.Escape

/-! # Canonical paths

Read from left to right, a path climbs above its root when at some point more of its segments were `..`
than names, where an empty segment counts as a name. Canonical form is refused exactly then. What it
gives is an absolute path again, none of whose segments is `.` or `..`, so nothing is left to resolve.
-/
namespace HttpRequest.Path

def here : Segment := ['.']

def up : Segment := ['.', '.']

/-- How many segments lead down. -/
def names (segments : List Segment) : Nat :=
  segments.countP fun s => s ≠ here && s ≠ up

def ups (segments : List Segment) : Nat :=
  segments.count up

/-- From left to right, at some point more segments have led up than down. -/
def ClimbsFrom (height : Nat) (segments : List Segment) : Prop :=
  ∃ front, front <+: segments ∧ height + names front < ups front

/-- An absolute path leads above its root. -/
def Climbs (path : List Char) : Prop :=
  ∃ rest, path = '/' :: rest ∧ ClimbsFrom 0 (rest.splitOn '/')

section Climbing

theorem not_climbsFrom_nil (height : Nat) : ¬ClimbsFrom height [] := by
  rintro ⟨front,inside,more⟩
  rw [List.prefix_nil.mp inside] at more
  simp [ups] at more

theorem climbsFrom_cons_iff {height after : Nat} {s : Segment} {rest : List Segment}
    (moved : ∀ front, (height + names (s :: front) < ups (s :: front)) ↔ (after + names front < ups front)) :
    ClimbsFrom height (s :: rest) ↔ ClimbsFrom after rest := by
  constructor
  · rintro ⟨front,inside,more⟩
    rcases List.prefix_cons_iff.mp inside with rfl | ⟨front,rfl,below⟩
    · simp [ups] at more
    · exact ⟨front,below,(moved front).mp more⟩
  · rintro ⟨front,inside,more⟩
    exact ⟨s :: front,List.prefix_cons_iff.mpr (.inr ⟨front,rfl,inside⟩),(moved front).mpr more⟩

theorem climbsFrom_here (height : Nat) (rest : List Segment) :
    ClimbsFrom height (here :: rest) ↔ ClimbsFrom height rest :=
  climbsFrom_cons_iff fun front => by simp [names, ups, here, up]

theorem climbsFrom_up (height : Nat) (rest : List Segment) :
    ClimbsFrom (height + 1) (up :: rest) ↔ ClimbsFrom height rest :=
  climbsFrom_cons_iff fun front => by simp [names, ups]; omega

theorem climbsFrom_name {s : Segment} (notHere : s ≠ here) (notUp : s ≠ up) (height : Nat)
    (rest : List Segment) : ClimbsFrom height (s :: rest) ↔ ClimbsFrom (height + 1) rest :=
  climbsFrom_cons_iff fun front => by simp [names, ups, notHere, notUp]; omega

theorem climbs_at_root (rest : List Segment) : ClimbsFrom 0 (up :: rest) :=
  ⟨[up],by simp,by simp [names, ups]⟩

end Climbing

/-! ## Resolving -/

section Resolving
variable (kept rest : List Segment)

theorem resolve_here : resolve kept (here :: rest) = resolve (closeLast rest kept) rest :=
  rfl

theorem resolve_up_nil : resolve [] (up :: rest) = none :=
  rfl

theorem resolve_up (name : Segment) : resolve (name :: kept) (up :: rest) = resolve (closeLast rest kept) rest :=
  rfl

theorem resolve_name {s : Segment} (notHere : s ≠ here) (notUp : s ≠ up) :
    resolve kept (s :: rest) = resolve (s :: kept) rest := by
  have other : ¬(s == ['.']) = true := by simpa [here] using notHere
  have other' : ¬(s == ['.','.']) = true := by simpa [up] using notUp
  rw [resolve.eq_def]
  simp only [other, other', Bool.false_eq_true, if_false]

/-- The empty segment that keeps the final slash stands behind everything else. -/
theorem resolve_closeLast :
    resolve (closeLast rest kept) rest = (resolve kept rest).map (· ++ if rest = [] then [[]] else []) := by
  cases rest <;> simp [closeLast, resolve]

end Resolving

theorem resolve_eq_none_iff (kept rest : List Segment) :
    resolve kept rest = none ↔ ClimbsFrom kept.length rest := by
  induction rest generalizing kept with
  | nil => simp [resolve, not_climbsFrom_nil]
  | cons s rest ih =>
    by_cases isHere : s = here
    · rw [isHere, resolve_here, resolve_closeLast, Option.map_eq_none_iff, ih, climbsFrom_here]
    by_cases isUp : s = up
    · rw [isUp]
      cases kept with
      | nil => exact iff_of_true (resolve_up_nil rest) (climbs_at_root rest)
      | cons name kept =>
        rw [resolve_up, resolve_closeLast, Option.map_eq_none_iff, ih, List.length_cons, climbsFrom_up]
    · rw [resolve_name kept rest isHere isUp, ih, List.length_cons, climbsFrom_name isHere isUp]

/-- What resolving gives is made of what was kept, of names, and of the empty segment at the end. -/
theorem resolve_forall {P : Segment → Prop} (empty : P []) {kept rest out : List Segment}
    (resolved : resolve kept rest = some out) (before : ∀ s ∈ kept, P s)
    (coming : ∀ s ∈ rest, s ≠ here → s ≠ up → P s) : ∀ s ∈ out, P s := by
  have closing {rest kept : List Segment} (before : ∀ s ∈ kept, P s) : ∀ s ∈ closeLast rest kept, P s := by
    unfold closeLast
    split
    · exact List.forall_mem_cons.mpr ⟨empty,before⟩
    · exact before
  induction rest generalizing kept with
  | nil =>
    cases resolved
    simpa using before
  | cons s rest ih =>
    obtain ⟨name,coming⟩ := List.forall_mem_cons.mp coming
    by_cases isHere : s = here
    · rw [isHere, resolve_here] at resolved
      exact ih resolved (closing before) coming
    by_cases isUp : s = up
    · rw [isUp] at resolved
      cases kept with
      | nil => cases resolved
      | cons k kept =>
        rw [resolve_up] at resolved
        exact ih resolved (closing (List.forall_mem_cons.mp before).2) coming
    · rw [resolve_name kept rest isHere isUp] at resolved
      exact ih resolved (List.forall_mem_cons.mpr ⟨name isHere isUp,before⟩) coming

theorem slash_not_mem_of_mem_splitOn {path : List Char} {s : Segment} (mem : s ∈ path.splitOn '/') :
    '/' ∉ s := by
  induction path generalizing s with
  | nil =>
    rw [List.splitOn_nil, List.mem_singleton] at mem
    simp [mem]
  | cons c path ih =>
    rw [List.splitOn_cons_eq_if_modifyHead] at mem
    split at mem
    · rcases List.mem_cons.mp mem with rfl | mem
      · simp
      · exact ih mem
    next other =>
      obtain ⟨first,others,cut⟩ := List.exists_cons_of_ne_nil (List.splitOn_ne_nil '/' path)
      rw [cut] at ih mem
      rcases List.mem_cons.mp mem with rfl | mem
      · have apart : '/' ≠ c := fun same => other (beq_iff_eq.mpr same.symm)
        simpa [apart] using ih List.mem_cons_self
      · exact ih (List.mem_cons_of_mem first mem)

theorem plain_of_resolve {path : List Char} {segments : List Segment}
    (resolved : resolve [] (path.splitOn '/') = some segments) : ∀ s ∈ segments, '/' ∉ s :=
  resolve_forall (P := ('/' ∉ ·)) (by simp) resolved (by simp) fun _ mem _ _ => slash_not_mem_of_mem_splitOn mem

theorem splitOn_ofSegments {segments : List Segment} (plain : ∀ s ∈ segments, '/' ∉ s)
    (nonempty : segments ≠ []) : (ofSegments segments).splitOn '/' = [] :: segments := by
  rw [ofSegments, List.splitOn_cons_eq_if_modifyHead, if_pos (by simp),
    List.splitOn_intercalate '/' plain nonempty]

theorem canonicalChars?_eq_none_iff (path : List Char) : canonicalChars? path = none ↔ Climbs path := by
  unfold canonicalChars?
  split
  next rest =>
    rw [Option.map_eq_none_iff, resolve_eq_none_iff]
    constructor
    · exact fun climbs => ⟨rest,rfl,climbs⟩
    · rintro ⟨_,same,climbs⟩
      cases same
      exact climbs
  next relative =>
    simp only [reduceCtorEq, false_iff]
    rintro ⟨rest,rfl,-⟩
    exact relative rest rfl

/-- An absolute path in which no segment leads anywhere but down. -/
structure Confined (path : List Char) : Prop where
  absolute : path.head? = some '/'
  down : ∀ s ∈ path.splitOn '/', s ≠ here ∧ s ≠ up

theorem confined_of_canonicalChars? {rest path : List Char}
    (canonical : canonicalChars? ('/' :: rest) = some path) : Confined path := by
  obtain ⟨segments,resolved,rfl⟩ := Option.map_eq_some_iff.mp canonical
  refine ⟨rfl,?_⟩
  have down : ∀ s ∈ segments, s ≠ here ∧ s ≠ up :=
    resolve_forall (by simp [here, up]) resolved (by simp) fun s _ notHere notUp => ⟨notHere,notUp⟩
  by_cases none : segments = []
  · subst none
    decide
  · rw [splitOn_ofSegments (plain_of_resolve resolved) none]
    exact List.forall_mem_cons.mpr ⟨by simp [here, up],down⟩

/-! ## Decoding -/

theorem decodeFrom_text_prefix {state : Utf8.State} {text out : List Char} {bs : Octets}
    (decoded : Utf8.decodeFrom state text bs = some out) : text.reverse <+: out := by
  fun_induction Utf8.decodeFrom state text bs with
  | case1 text =>
    cases decoded
    exact List.prefix_rfl
  | case2 => cases decoded
  | case3 state text b bs next _ ih => exact ih decoded
  | case4 state text b bs c _ ih => exact (by simp : text.reverse <+: (c :: text).reverse).trans (ih decoded)
  | case5 => cases decoded

theorem decode_eq_error_iff {raw : String} {f : Failure} :
    decode raw = .error f ↔ f = badUri ∧ Escape.Malformed (octetsOf raw) := by
  rw [← Escape.decode?_eq_none_iff]
  unfold decode
  cases Escape.decode? (octetsOf raw) with
  | none => simp [eq_comm]
  | some bs =>
    dsimp only
    cases Utf8.decode? bs <;> simp

theorem decode_eq_ok {raw text : String} (decoded : decode raw = .ok text) :
    ∃ bs, Escape.decode? (octetsOf raw) = some bs ∧
      (Utf8.decode? bs = some text ∨ text = String.ofList (Charset.latin1Chars bs)) := by
  unfold decode at decoded
  cases bytes : Escape.decode? (octetsOf raw) with
  | none => rw [bytes] at decoded; cases decoded
  | some bs =>
    rw [bytes] at decoded
    dsimp only at decoded
    cases chars : Utf8.decode? bs with
    | none => rw [chars] at decoded; cases decoded; exact ⟨bs,rfl,.inr rfl⟩
    | some _ => rw [chars] at decoded; cases decoded; exact ⟨bs,rfl,.inl chars⟩

theorem decode_absolute {raw text : String} (absolute : raw.toList.head? = some '/')
    (decoded : decode raw = .ok text) : text.toList.head? = some '/' := by
  obtain ⟨chars,split⟩ := List.head?_eq_some_iff.mp absolute
  have octets : octetsOf raw = 0x2F :: Utf8.encode chars := by rw [octetsOf, split]; rfl
  obtain ⟨bs,bytes,reading⟩ := decode_eq_ok decoded
  rw [octets] at bytes
  obtain ⟨rest,rfl⟩ := Escape.head_of_decode? (by decide) bytes
  rcases reading with utf8 | rfl
  · obtain ⟨_,read,rfl⟩ := Option.map_eq_some_iff.mp utf8
    -- the first byte is a slash of its own, and whatever follows is read behind it
    have behind : Utf8.decodeFrom .start ['/'] rest = some _ := read
    obtain ⟨_,rfl⟩ := decodeFrom_text_prefix behind
    rw [String.toList_ofList]
    rfl
  · rw [String.toList_ofList]
    rfl

theorem canonical?_eq_none_iff (path : String) : canonical? path = none ↔ Climbs path.toList := by
  rw [canonical?, Option.map_eq_none_iff, canonicalChars?_eq_none_iff]

theorem confined_of_canonical? {decoded path : String} (absolute : decoded.toList.head? = some '/')
    (canonical : canonical? decoded = some path) : Confined path.toList := by
  obtain ⟨chars,found,rfl⟩ := Option.map_eq_some_iff.mp canonical
  obtain ⟨rest,split⟩ := List.head?_eq_some_iff.mp absolute
  rw [split] at found
  rw [String.toList_ofList]
  exact confined_of_canonicalChars? found

/-- A path that must not be followed: an escape is broken, or what it decodes to is empty or leads
above the root. -/
def Forbidden (raw : String) : Prop :=
  Escape.Malformed (octetsOf raw) ∨ ∃ decoded, decode raw = .ok decoded ∧ (decoded = "" ∨ Climbs decoded.toList)

theorem forbidden_empty : Forbidden "" :=
  .inr ⟨"",rfl,.inl rfl⟩

theorem not_forbidden_iff {raw : String} (absolute : raw.toList.head? = some '/') :
    ¬Forbidden raw ↔ ∃ decoded path, decode raw = .ok decoded ∧ canonical? decoded = some path := by
  cases decoded : decode raw with
  | error f => simp [Forbidden, (decode_eq_error_iff.mp decoded).2]
  | ok text =>
    have sound : ¬Escape.Malformed (octetsOf raw) := fun bad => by
      rw [decode_eq_error_iff.mpr ⟨rfl,bad⟩] at decoded
      cases decoded
    have nonempty : text ≠ "" := by
      rintro rfl
      cases decode_absolute absolute decoded
    have climbs : ¬Climbs text.toList ↔ ∃ path, canonical? text = some path := by
      rw [← canonical?_eq_none_iff]
      exact Option.ne_none_iff_exists'
    simp [Forbidden, sound, decoded, nonempty, climbs]

end HttpRequest.Path
