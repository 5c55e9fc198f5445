import HttpRequest.Proofs.Text.Path
import Mathlib.Data.List.Infix

/-! # What remains of a path

A name in a path is taken away by the segments behind it if these lead above it, and otherwise remains. Canonical
form is made of the names that remain, in their order, and keeps a slash at the end where the last segment was empty
or led nowhere down. Nothing is left to resolve in it, so it is its own canonical form.
-/
namespace HttpRequest.Path

theorem climbsFrom_iff_inits (height : Nat) (segments : List Segment) :
    ClimbsFrom height segments ↔ ∃ front ∈ segments.inits, height + names front < ups front := by
  simp only [ClimbsFrom, List.mem_inits]

instance (height : Nat) (segments : List Segment) : Decidable (ClimbsFrom height segments) :=
  decidable_of_iff _ (climbsFrom_iff_inits height segments).symm

/-- The names that no segments behind them take away. -/
def remaining : List Segment → List Segment
  | [] => []
  | s :: rest => if (s ≠ here ∧ s ≠ up) ∧ ¬ClimbsFrom 0 rest then s :: remaining rest else remaining rest

/-- The empty segment that stands for a last one that leads nowhere down. -/
def closing (segments : List Segment) : List Segment :=
  if segments.getLast? = some here ∨ segments.getLast? = some up then [[]] else []

section Remaining
variable {a b kept rest : List Segment}

theorem climbsFrom_append_congr (same : ∀ height, ClimbsFrom height a ↔ ClimbsFrom height b) (front : List Segment)
    (height : Nat) : ClimbsFrom height (front ++ a) ↔ ClimbsFrom height (front ++ b) := by
  induction front generalizing height with
  | nil => exact same height
  | cons s front ih =>
    rw [List.cons_append, List.cons_append]
    by_cases isHere : s = here
    · rw [isHere, climbsFrom_here, climbsFrom_here, ih]
    by_cases isUp : s = up
    · rw [isUp]
      cases height with
      | zero => exact iff_of_true (climbs_at_root _) (climbs_at_root _)
      | succ height => rw [climbsFrom_up, climbsFrom_up, ih]
    · rw [climbsFrom_name isHere isUp, climbsFrom_name isHere isUp, ih]

theorem remaining_append_congr (climbs : ∀ height, ClimbsFrom height a ↔ ClimbsFrom height b)
    (same : remaining a = remaining b) (front : List Segment) : remaining (front ++ a) = remaining (front ++ b) := by
  induction front with
  | nil => exact same
  | cons s front ih => simp only [List.cons_append, remaining, climbsFrom_append_congr climbs front 0, ih]

theorem remaining_here (front rest : List Segment) : remaining (front ++ here :: rest) = remaining (front ++ rest) :=
  remaining_append_congr (fun height => climbsFrom_here height rest) (by simp [remaining]) front

theorem remaining_up {name : Segment} (isName : name ≠ here ∧ name ≠ up) (front rest : List Segment) :
    remaining (front ++ name :: up :: rest) = remaining (front ++ rest) := by
  refine remaining_append_congr (fun height => ?_) ?_ front
  · rw [climbsFrom_name isName.1 isName.2, climbsFrom_up]
  · simp [remaining, climbs_at_root]

theorem not_climbsFrom_of_names (isName : ∀ s ∈ rest, s ≠ here ∧ s ≠ up) (height : Nat) : ¬ClimbsFrom height rest := by
  rintro ⟨front,inside,more⟩
  have level : ups front = 0 := List.count_eq_zero.mpr fun mem => (isName up (inside.subset mem)).2 rfl
  omega

theorem remaining_of_names (isName : ∀ s ∈ rest, s ≠ here ∧ s ≠ up) : remaining rest = rest := by
  induction rest with
  | nil => rfl
  | cons s rest ih =>
    rw [List.forall_mem_cons] at isName
    rw [remaining, if_pos ⟨isName.1,not_climbsFrom_of_names isName.2 0⟩, ih isName.2]

theorem mem_of_mem_remaining {s : Segment} (mem : s ∈ remaining rest) : s ∈ rest ∧ s ≠ here ∧ s ≠ up := by
  induction rest with
  | nil => cases mem
  | cons t rest ih =>
    rw [remaining] at mem
    split at mem
    next kept =>
      rcases List.mem_cons.mp mem with rfl | mem
      · exact ⟨List.mem_cons_self,kept.1⟩
      · exact ⟨List.mem_cons_of_mem t (ih mem).1,(ih mem).2⟩
    · exact ⟨List.mem_cons_of_mem t (ih mem).1,(ih mem).2⟩

end Remaining

section Closing
variable (rest : List Segment)

theorem closing_name {s : Segment} (isName : s ≠ here ∧ s ≠ up) : closing (s :: rest) = closing rest := by
  cases rest <;> simp [closing, isName]

theorem closing_dots {s : Segment} (dots : s = here ∨ s = up) :
    closing (s :: rest) = closing rest ++ if rest = [] then [[]] else [] := by
  cases rest <;> simp [closing, dots]

end Closing

theorem resolve_eq_some {kept rest : List Segment} (isName : ∀ s ∈ kept, s ≠ here ∧ s ≠ up)
    (stays : ¬ClimbsFrom kept.length rest) :
    resolve kept rest = some (remaining (kept.reverse ++ rest) ++ closing rest) := by
  -- By induction on the segments to come, whatever names were kept: these stand in front of what
  -- is to come.
  induction rest generalizing kept with
  | nil =>
    have names : ∀ s ∈ kept.reverse, s ≠ here ∧ s ≠ up := fun s mem => isName s (List.mem_reverse.mp mem)
    rw [List.append_nil, remaining_of_names names, closing, if_neg (by simp), List.append_nil]
    rfl
  | cons s rest ih =>
    by_cases isHere : s = here
    · subst isHere
      rw [climbsFrom_here] at stays
      rw [resolve_here, resolve_closeLast, ih isName stays, Option.map_some, remaining_here, closing_dots rest (.inl rfl),
        List.append_assoc]
    by_cases isUp : s = up
    · subst isUp
      cases kept with
      | nil => exact absurd (climbs_at_root rest) stays
      | cons name kept =>
        rw [List.forall_mem_cons] at isName
        rw [List.length_cons, climbsFrom_up] at stays
        rw [resolve_up, resolve_closeLast, ih isName.2 stays, Option.map_some, closing_dots rest (.inr rfl),
          ← List.append_assoc, List.reverse_cons, List.append_assoc _ [name], List.singleton_append, remaining_up isName.1]
    · rw [climbsFrom_name isHere isUp] at stays
      have more := ih (List.forall_mem_cons.mpr ⟨⟨isHere,isUp⟩,isName⟩) stays
      rw [resolve_name kept rest isHere isUp, more, List.reverse_cons, List.append_assoc, List.singleton_append,
        closing_name rest ⟨isHere,isUp⟩]

theorem resolve_of_names {segments : List Segment} (isName : ∀ s ∈ segments, s ≠ here ∧ s ≠ up) :
    resolve [] segments = some segments := by
  have unclosed : closing segments = [] := by
    rw [closing, if_neg]
    rintro (last | last)
    · exact (isName here (List.mem_of_getLast? last)).1 rfl
    · exact (isName up (List.mem_of_getLast? last)).2 rfl
  rw [resolve_eq_some (by simp) (not_climbsFrom_of_names isName _), List.reverse_nil, List.nil_append,
    remaining_of_names isName, unclosed, List.append_nil]

theorem getLast?_resolved {segments : List Segment} {last : Segment} (ends : segments.getLast? = some last) :
    (remaining segments ++ closing segments).getLast? = some (if last = here ∨ last = up then [] else last) := by
  induction segments with
  | nil => cases ends
  | cons s rest ih =>
    cases rest with
    | nil =>
      obtain rfl : s = last := Option.some.inj ends
      by_cases dots : s = here ∨ s = up
      · rw [closing_dots [] dots, if_pos dots, if_pos rfl, ← List.append_assoc, List.getLast?_concat]
      · rw [if_neg dots]
        rw [not_or] at dots
        rw [closing_name [] dots, remaining, if_pos ⟨dots,not_climbsFrom_nil 0⟩]
        rfl
    | cons next rest =>
      rw [List.getLast?_cons_cons] at ends
      have close : closing (s :: next :: rest) = closing (next :: rest) := by simp [closing]
      rw [close, remaining]
      split
      · rw [List.cons_append, List.getLast?_cons, ih ends]
        rfl
      · exact ih ends

section Joining
variable {segments : List Segment}

/-- The text of segments ends with a slash exactly if the last of them is empty. -/
theorem getLast?_ofSegments (plain : ∀ s ∈ segments, '/' ∉ s) (nonempty : segments ≠ []) :
    (ofSegments segments).getLast? = some '/' ↔ segments.getLast? = some [] := by
  induction segments with
  | nil => exact absurd rfl nonempty
  | cons s rest ih =>
    rw [List.forall_mem_cons] at plain
    cases rest with
    | nil =>
      rw [ofSegments, List.intercalate_singleton, List.getLast?_cons, List.getLast?_singleton]
      cases found : s.getLast? with
      | none => simp [List.getLast?_eq_none_iff.mp found]
      | some c =>
        have inside := List.mem_of_getLast? found
        have other : c ≠ '/' := fun same => plain.1 (same ▸ inside)
        have nonempty : s ≠ [] := List.ne_nil_of_mem inside
        simp [other, nonempty]
    | cons next rest =>
      have joined : ofSegments (s :: next :: rest) = ('/' :: s) ++ ofSegments (next :: rest) := by
        simp [ofSegments, List.intercalate_cons_cons]
      have more : ofSegments (next :: rest) ≠ [] := List.cons_ne_nil _ _
      rw [joined, List.getLast?_append_of_ne_nil _ more, ih plain.2 (List.cons_ne_nil _ _), List.getLast?_cons_cons]

end Joining

def segmentsOf (path : String) : List Segment :=
  (path.toList.drop 1).splitOn '/'

/-- What the canonical form of an absolute path is like. -/
structure CanonicalForm (path out : String) : Prop where
  absolute : out.toList.head? = some '/'
  down : ∀ s ∈ segmentsOf out, s ≠ here ∧ s ≠ up
  kept : segmentsOf out = remaining (segmentsOf path) ++ closing (segmentsOf path)
  closed : out.toList.getLast? = some '/' ↔ (segmentsOf path).getLast? ∈ [some [],some here,some up]
  fixed : canonical? out = some out

section Canonical
variable {path : String}

theorem canonicalForm_ofSegments {out : List Segment} {last : Segment}
    (kept : out = remaining (segmentsOf path) ++ closing (segmentsOf path))
    (ends : (segmentsOf path).getLast? = some last) : CanonicalForm path (String.ofList (ofSegments out)) := by
  have final : out.getLast? = some (if last = here ∨ last = up then [] else last) := kept ▸ getLast?_resolved ends
  have nonempty : out ≠ [] := by
    rintro rfl
    cases final
  have parts : ∀ s ∈ out, '/' ∉ s ∧ s ≠ here ∧ s ≠ up := by
    rw [kept, List.forall_mem_append]
    refine ⟨fun s mem => ?_,?_⟩
    · obtain ⟨old,name⟩ := mem_of_mem_remaining mem
      exact ⟨slash_not_mem_of_mem_splitOn old,name⟩
    · unfold closing
      split <;> simp [here, up]
  have segments : segmentsOf (String.ofList (ofSegments out)) = out := by
    rw [segmentsOf, String.toList_ofList]
    exact List.splitOn_intercalate '/' (fun s mem => (parts s mem).1) nonempty
  refine ⟨?_,?_,?_,?_,?_⟩
  · rw [String.toList_ofList]
    rfl
  · rw [segments]
    exact fun s mem => (parts s mem).2
  · rw [segments, kept]
  · rw [String.toList_ofList, getLast?_ofSegments (fun s mem => (parts s mem).1) nonempty, final, ends]
    by_cases dots : last = here ∨ last = up <;> simp [dots]
  · have again : canonicalChars? (ofSegments out) = (resolve [] out).map ofSegments := by
      rw [ofSegments, canonicalChars?, List.splitOn_intercalate '/' (fun s mem => (parts s mem).1) nonempty]
    rw [canonical?, String.toList_ofList, again, resolve_of_names fun s mem => (parts s mem).2]
    rfl

/-- An absolute path has no canonical form exactly if it climbs above the root, that is if from left to right a `..`
comes where all names before it are taken away; otherwise its form is made of the names that remain. -/
theorem canonical?_form (absolute : path.toList.head? = some '/') :
    (canonical? path = none ↔ Climbs path.toList) ∧
      (¬Climbs path.toList → ∃ out, canonical? path = some out ∧ CanonicalForm path out) := by
  refine ⟨canonical?_eq_none_iff path,fun stays => ?_⟩
  obtain ⟨rest,split⟩ := List.head?_eq_some_iff.mp absolute
  have behind : segmentsOf path = rest.splitOn '/' := by rw [segmentsOf, split]; rfl
  have below : ¬ClimbsFrom 0 (segmentsOf path) := fun climbs => stays ⟨rest,split,behind ▸ climbs⟩
  obtain ⟨last,ends⟩ : ∃ last, (segmentsOf path).getLast? = some last := by
    rw [← Option.isSome_iff_exists, List.getLast?_isSome]
    exact List.splitOn_ne_nil _ _
  refine ⟨_,?_,canonicalForm_ofSegments rfl ends⟩
  rw [canonical?, split, canonicalChars?, ← behind, resolve_eq_some (List.forall_mem_nil _) below]
  rfl

/-- An empty segment counts as a name, a `.` does not, and the name before the last `..` goes away. -/
theorem canonical?_dotted : "/a/./b//../../c/..".toList.head? = some '/' ∧
    canonical? "/a/./b//../../c/.." = some "/a/" ∧ CanonicalForm "/a/./b//../../c/.." "/a/" := by
  have absolute : "/a/./b//../../c/..".toList.head? = some '/' := by decide
  have found : canonical? "/a/./b//../../c/.." = some "/a/" := by decide
  obtain ⟨refused,form⟩ := canonical?_form absolute
  obtain ⟨out,same,form⟩ := form fun climbs => by cases found.symm.trans (refused.mpr climbs)
  cases found.symm.trans same
  exact ⟨absolute,found,form⟩

end Canonical

end HttpRequest.Path
