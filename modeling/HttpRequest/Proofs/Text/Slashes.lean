import HttpRequest.Proofs.Text.Path

/-! # Runs of slashes

Compaction leaves one slash of every run and changes nothing else, so it changes exactly the texts in
which two slashes follow each other, and parts of a text that another character divides are made compact
each on its own. In a path without such slashes only the last segment can be empty. Canonical form
takes names away and puts an empty segment at the end only, so it makes no new runs.
-/
namespace HttpRequest.Path

/-- Somewhere two slashes follow each other. -/
def Doubled (path : List Char) : Prop :=
  ['/','/'] <:+: path

theorem not_doubled_nil : ¬Doubled [] := by
  simp [Doubled]

theorem doubled_cons_iff (c : Char) (path : List Char) :
    Doubled (c :: path) ↔ (c = '/' ∧ path.head? = some '/') ∨ Doubled path := by
  unfold Doubled
  rw [List.infix_cons_iff]
  refine or_congr_left ?_
  cases path with
  | nil => simp
  | cons d path => simp [List.cons_prefix_cons, eq_comm]

section Compaction

theorem compactChars_cons (c : Char) (path : List Char) : compactChars (c :: path) =
    if c == '/' && (compactChars path).head? == some '/' then compactChars path else c :: compactChars path :=
  rfl

theorem head?_compactChars (path : List Char) : (compactChars path).head? = path.head? := by
  cases path with
  | nil => rfl
  | cons c path =>
    rw [compactChars_cons]
    split
    next both =>
      obtain ⟨slash,next⟩ := Bool.and_eq_true_iff.mp both
      rw [eq_of_beq next, eq_of_beq slash]
      rfl
    · rfl

theorem compactChars_cons_of_single {c : Char} {path : List Char} (single : ¬(c = '/' ∧ path.head? = some '/')) :
    compactChars (c :: path) = c :: compactChars path := by
  rw [compactChars_cons, head?_compactChars, if_neg]
  simpa using single

theorem compactChars_cons_of_double {path : List Char} (next : path.head? = some '/') :
    compactChars ('/' :: path) = compactChars path := by
  rw [compactChars_cons, head?_compactChars, if_pos]
  simpa using next

theorem not_doubled_compactChars (path : List Char) : ¬Doubled (compactChars path) := by
  induction path with
  | nil => exact not_doubled_nil
  | cons c path ih =>
    by_cases double : c = '/' ∧ path.head? = some '/'
    · obtain ⟨rfl,next⟩ := double
      rwa [compactChars_cons_of_double next]
    · rw [compactChars_cons_of_single double, doubled_cons_iff, head?_compactChars]
      rintro (both | later)
      · exact double both
      · exact ih later

theorem compactChars_eq_self_iff (path : List Char) : compactChars path = path ↔ ¬Doubled path := by
  constructor
  · intro same
    rw [← same]
    exact not_doubled_compactChars path
  · intro single
    induction path with
    | nil => rfl
    | cons c path ih =>
      rw [doubled_cons_iff, not_or] at single
      rw [compactChars_cons_of_single single.1, ih single.2]

/-- A character other than a slash divides the runs before it from those behind. -/
theorem compactChars_append_cons {c : Char} (other : c ≠ '/') (front back : List Char) :
    compactChars (front ++ c :: back) = compactChars front ++ c :: compactChars back := by
  induction front with
  | nil => exact compactChars_cons_of_single (by simp [other])
  | cons d front ih =>
    have same : (front ++ c :: back).head? = some '/' ↔ front.head? = some '/' := by
      cases front <;> simp [other]
    rw [List.cons_append]
    by_cases double : d = '/' ∧ front.head? = some '/'
    · obtain ⟨rfl,next⟩ := double
      rw [compactChars_cons_of_double next, compactChars_cons_of_double (same.mpr next), ih]
    · rw [compactChars_cons_of_single double, compactChars_cons_of_single (by rwa [same]), ih]
      rfl

theorem compactChars_sublist (path : List Char) : (compactChars path).Sublist path := by
  induction path with
  | nil => exact .slnil
  | cons c path ih =>
    rw [compactChars_cons]
    split
    · exact ih.cons c
    · exact ih.cons_cons c

theorem compactChars_eq_nil_iff (path : List Char) : compactChars path = [] ↔ path = [] := by
  rw [← List.head?_eq_none_iff, head?_compactChars, List.head?_eq_none_iff]

theorem append_compactChars_ne {c : Char} (other : c ≠ '/') (front back : List Char) :
    front ++ c :: compactChars back ≠ back := by
  intro same
  have compact := congrArg compactChars same
  rw [compactChars_append_cons other, (compactChars_eq_self_iff _).mpr (not_doubled_compactChars back)] at compact
  have longer := congrArg List.length compact
  simp at longer
  omega

end Compaction

section Segments

theorem doubled_iff (path : List Char) : Doubled path ↔ [] ∈ (path.splitOn '/').tail.dropLast := by
  -- By induction on the text: the run of slashes stands where an empty segment has others on
  -- both sides.
  induction path with
  | nil => simp [not_doubled_nil]
  | cons c path ih =>
    obtain ⟨first,others,cut⟩ := List.exists_cons_of_ne_nil (List.splitOn_ne_nil '/' path)
    rw [doubled_cons_iff, ih, List.splitOn_cons_eq_if_modifyHead, cut]
    by_cases slash : c = '/'
    · have starts : path.head? = some '/' ↔ first = [] ∧ others ≠ [] := by
        cases path with
        | nil =>
          rw [List.splitOn_nil] at cut
          cases cut
          simp
        | cons d path =>
          rw [List.splitOn_cons_eq_if_modifyHead] at cut
          obtain ⟨next,more,later⟩ := List.exists_cons_of_ne_nil (List.splitOn_ne_nil '/' path)
          rw [later] at cut
          by_cases again : d = '/'
          · simp only [again, beq_self_eq_true, if_true] at cut
            cases cut
            simp [again]
          · simp only [beq_iff_eq, again, if_false] at cut
            cases cut
            simp [again]
      subst slash
      rw [starts]
      cases others with
      | nil => simp
      | cons second others => simp [eq_comm]
    · simp [slash]

def Packed (segments : List Segment) : Prop :=
  [] ∉ segments.dropLast

theorem packed_of_not_doubled {path : List Char} (single : ¬Doubled ('/' :: path)) : Packed (path.splitOn '/') := by
  rw [doubled_iff, List.splitOn_cons_eq_if_modifyHead, if_pos (by simp)] at single
  exact single

theorem Packed.tail {s : Segment} {rest : List Segment} (packed : Packed (s :: rest)) : Packed rest :=
  fun mem => packed (List.mem_of_mem_tail (by rwa [List.tail_dropLast]))

theorem resolve_packed {kept rest out : List Segment} (named : [] ∉ kept) (packed : Packed rest)
    (resolved : resolve kept rest = some out) : Packed out := by
  induction rest generalizing kept with
  | nil =>
    cases resolved
    intro mem
    exact named (List.mem_reverse.mp ((List.dropLast_sublist _).subset mem))
  | cons s rest ih =>
    have closed {kept : List Segment} (named : [] ∉ kept) (resolved : resolve (closeLast rest kept) rest = some out) :
        Packed out := by
      cases rest with
      | nil =>
        cases resolved
        simpa [Packed, closeLast] using named
      | cons next rest => exact ih named packed.tail resolved
    by_cases isHere : s = here
    · rw [isHere, resolve_here] at resolved
      exact closed named resolved
    by_cases isUp : s = up
    · rw [isUp] at resolved
      cases kept with
      | nil => cases resolved
      | cons k kept => exact closed (List.not_mem_of_not_mem_cons named) resolved
    · rw [resolve_name kept rest isHere isUp] at resolved
      cases rest with
      | nil =>
        cases resolved
        simpa [Packed] using named
      | cons next rest =>
        have nonempty : [] ≠ s := fun empty => packed (by simp [← empty])
        exact ih (by simp [nonempty, named]) packed.tail resolved

end Segments

theorem not_doubled_of_canonicalChars? {path out : List Char} (canonical : canonicalChars? path = some out)
    (single : ¬Doubled path) : ¬Doubled out := by
  unfold canonicalChars? at canonical
  split at canonical
  next rest =>
    obtain ⟨segments,resolved,rfl⟩ := Option.map_eq_some_iff.mp canonical
    have packed := resolve_packed (by simp) (packed_of_not_doubled single) resolved
    by_cases none : segments = []
    · subst none
      simp [ofSegments, doubled_cons_iff, not_doubled_nil]
    · rw [doubled_iff, splitOn_ofSegments (plain_of_resolve resolved) none]
      exact packed
  · cases canonical
    exact single

theorem mem_intercalate_iff {c : Char} (other : c ≠ '/') (segments : List Segment) :
    c ∈ ['/'].intercalate segments ↔ ∃ s ∈ segments, c ∈ s := by
  induction segments with
  | nil => simp
  | cons s rest ih =>
    cases rest with
    | nil => simp
    | cons next rest => simp [List.intercalate_cons_cons, ih, other]

theorem not_mem_of_canonicalChars? {c : Char} (other : c ≠ '/') {path out : List Char}
    (canonical : canonicalChars? path = some out) (outside : c ∉ path) : c ∉ out := by
  unfold canonicalChars? at canonical
  split at canonical
  next rest =>
    obtain ⟨segments,resolved,rfl⟩ := Option.map_eq_some_iff.mp canonical
    have before : ∀ s ∈ rest.splitOn '/', c ∉ s := by
      intro s mem inside
      have joined := (mem_intercalate_iff other _).mpr ⟨s,mem,inside⟩
      rw [List.intercalate_splitOn] at joined
      exact outside (List.mem_cons_of_mem _ joined)
    have after : ∀ s ∈ segments, c ∉ s := resolve_forall (P := (c ∉ ·)) (by simp) resolved (by simp)
      fun s mem _ _ => before s mem
    simp only [ofSegments, List.mem_cons, other, false_or, mem_intercalate_iff other]
    rintro ⟨s,mem,inside⟩
    exact after s mem inside
  · cases canonical
    exact outside

end HttpRequest.Path
