import HttpRequest.Proofs.Request.Operation

/-! # Parameters that are computed once

What the three ways to ask for parameters make of those computed so far. Looking at the body uses the
body and nothing else of the request, so the marks that the cache bears before and after it are all that
changes. The merged view is made last, from parts that are there by then and stay.
-/
namespace HttpRequest

namespace ParamCache

/-- A merged view was made of parameters of the query that are stored and of a body that was looked at,
and it still is what these give. -/
def Coherent (c : ParamCache) : Prop :=
  ∀ p, c.merged = some p → c.query.isSome ∧ c.bodyTried = true ∧ p = c.combined

theorem coherent_of_unmerged {c : ParamCache} (unmerged : c.merged = none) : c.Coherent := by
  intro p merged
  rw [unmerged] at merged
  cases merged

namespace Coherent
variable {c : ParamCache}

theorem unmerged_of_untried (h : c.Coherent) (untried : c.bodyTried = false) : c.merged = none := by
  cases merged : c.merged with
  | none => rfl
  | some p =>
    have tried := (h p merged).2.1
    exact absurd (untried.symm.trans tried) nofun

theorem materialize (known : c.query.isSome) (tried : c.bodyTried = true) (h : c.Coherent) :
    c.materialize.2.Coherent := by
  unfold ParamCache.materialize
  cases merged : c.merged with
  | none =>
    intro p made
    cases made
    exact ⟨known,tried,rfl⟩
  | some p => exact h

end Coherent

theorem merged_materialize (c : ParamCache) : c.materialize.2.merged = some c.materialize.1 := by
  unfold materialize
  cases merged : c.merged with
  | none => rfl
  | some p => exact merged

end ParamCache

namespace Request

variable {E : Type}

def KeepsParams {α : Type} (a : Attempt (Request × E) α) : Prop :=
  a.Within fun s t => t.1.params = s.1.params

theorem keepsParams_bind {α β : Type} {a : Attempt (Request × E) α} {f : α → Attempt (Request × E) β}
    (first : KeepsParams a) (next : ∀ x, KeepsParams (f x)) : KeepsParams (a >>= f) :=
  Attempt.within_bind (R := fun s t : Request × E => t.1.params = s.1.params) (fun _ _ _ h g => g.trans h) first next

theorem keepsParams_unless {α : Type} {c : Prop} [Decidable c] (f : Failure)
    {next : Unit → Attempt (Request × E) α} (h : KeepsParams (next ())) :
    KeepsParams (if c then throw f >>= next else next ()) := by
  split
  · intro s
    rfl
  · exact h

theorem keepsParams_lift {α : Type} (result : Except Failure α) :
    KeepsParams (liftM result : Attempt (Request × E) α) :=
  Attempt.within_lift (R := fun s t : Request × E => t.1.params = s.1.params) (fun _ => rfl) result

theorem keepsParams_current : KeepsParams (current : Attempt (Request × E) Request) :=
  fun _ => rfl

theorem keepsParams_onBody {α : Type} (a : Attempt (Body.Input × E) α) : KeepsParams (onBody a) :=
  fun _ => rfl

theorem keepsParams_chooseBody (choice : Body.Input → Except Failure Body.Input) :
    KeepsParams (chooseBody choice : Attempt (Request × E) Unit) := by
  rintro ⟨r,e⟩
  rw [chooseBody_exec]
  cases choice r.body <;> rfl

theorem queryParams_known {s : Request × E} {p : Params} (asked : (queryParams.exec s).1 = .ok p) :
    (queryParams.exec s).2.1.params.query.isSome := by
  obtain ⟨r,e⟩ := s
  rw [queryParams_exec] at asked ⊢
  dsimp only at asked ⊢
  cases stored : r.params.query with
  | some q => simp [stored]
  | none => simp [asked]

theorem queryParams_coherent {s : Request × E} (h : s.1.params.Coherent) :
    (queryParams.exec s).2.1.params.Coherent := by
  obtain ⟨r,e⟩ := s
  rw [queryParams_exec]
  cases stored : r.params.query with
  | some q => exact h
  | none =>
    cases seen : r.seenQuery with
    | error f => exact h
    | ok p =>
      apply ParamCache.coherent_of_unmerged
      cases merged : r.params.merged with
      | none => rfl
      | some q =>
        have known := (h q merged).1
        simp [stored] at known

section Sources
variable [Body.ExternalSources E]

theorem keepsParams_openStream : KeepsParams (openStream : Attempt (Request × E) Unit) :=
  keepsParams_bind (keepsParams_chooseBody _) fun _ => keepsParams_onBody _

theorem keepsParams_openReader : KeepsParams (openReader : Attempt (Request × E) Unit) := by
  apply keepsParams_bind keepsParams_current
  intro r
  split
  · apply keepsParams_bind (keepsParams_lift _)
    intro charset
    exact keepsParams_bind (keepsParams_chooseBody _) fun _ => keepsParams_onBody _
  · exact keepsParams_chooseBody _

theorem keepsParams_extractForm : KeepsParams (extractForm : Attempt (Request × E) Params) := by
  refine keepsParams_bind keepsParams_current fun r => keepsParams_unless _ ?_
  apply keepsParams_bind (keepsParams_lift _)
  intro charset
  apply keepsParams_bind keepsParams_openStream
  intro _
  refine keepsParams_bind keepsParams_current fun opened => keepsParams_unless _ ?_
  apply keepsParams_bind (keepsParams_onBody _)
  intro bytes
  split
  · exact fun _ => rfl
  · exact fun _ => rfl

theorem keepsParams_extractBody : KeepsParams (extractBody : Attempt (Request × E) Params) := by
  apply keepsParams_bind keepsParams_current
  intro r
  split
  · exact fun _ => rfl
  · exact keepsParams_unless _ keepsParams_extractForm

/-- The body is marked before it is looked at, and what was found in it is stored if nothing failed. -/
theorem bodyParams_exec (r : Request) (e : E) :
    bodyParams.exec (r,e) =
      if r.params.bodyTried then (.ok (r.params.body.getD .empty),(r,e))
      else match extractBody.exec ({ r with params := r.params.markBodyTried },e) with
        | (.ok p, found, e) => (.ok p,({ found with params := found.params.withBody p },e))
        | (.error f, found) => (.error f,found) := by
  rw [bodyParams, exec_current_bind]
  split
  · rfl
  · have marked (next : Attempt (Request × E) Params) :
        (changeParams ParamCache.markBodyTried >>= fun _ => next).exec (r,e) =
          next.exec ({ r with params := r.params.markBodyTried },e) := rfl
    rw [marked, Attempt.exec_bind]
    generalize extractBody.exec ({ r with params := r.params.markBodyTried },e) = result
    obtain ⟨_ | _,_,_⟩ := result <;> rfl

theorem allParams_exec (r : Request) (e : E) :
    allParams.exec (r,e) =
      match r.params.merged with
      | some p => (.ok p,(r,e))
      | none =>
        match queryParams.exec (r,e) with
        | (.error f, s) => (.error f,s)
        | (.ok _, s) =>
          match bodyParams.exec s with
          | (.error f, s) => (.error f,s)
          | (.ok _, r, e) => (.ok r.params.materialize.1,({ r with params := r.params.materialize.2 },e)) := by
  rw [allParams, exec_current_bind]
  cases merged : r.params.merged with
  | some p =>
    have kept : r.params.materialize = (p,r.params) := by simp only [ParamCache.materialize, merged]
    have last : ((current : Attempt (Request × E) Request) >>= fun r => do
        changeParams fun _ => r.params.materialize.2
        return r.params.materialize.1).exec (r,e) =
          (.ok r.params.materialize.1,({ r with params := r.params.materialize.2 },e)) := rfl
    rw [kept] at last
    exact last
  | none =>
    rw [Option.isNone_none, if_pos rfl, Attempt.exec_bind]
    generalize queryParams.exec (r,e) = asked
    obtain ⟨_ | _,s⟩ := asked
    · rfl
    · dsimp only
      rw [Attempt.exec_bind]
      generalize bodyParams.exec s = looked
      obtain ⟨_ | _,s⟩ := looked <;> rfl

theorem bodyParams_tried (s : Request × E) : (bodyParams.exec s).2.1.params.bodyTried = true := by
  obtain ⟨r,e⟩ := s
  have kept := keepsParams_extractBody ({ r with params := r.params.markBodyTried },e)
  rw [bodyParams_exec]
  cases tried : r.params.bodyTried with
  | true => exact tried
  | false =>
    generalize extractBody.exec ({ r with params := r.params.markBodyTried },e) = result at kept
    obtain ⟨f | p,found,e⟩ := result
    · exact congrArg ParamCache.bodyTried kept
    · rfl

theorem bodyParams_coherent {s : Request × E} (h : s.1.params.Coherent) :
    (bodyParams.exec s).2.1.params.Coherent := by
  obtain ⟨r,e⟩ := s
  have kept := keepsParams_extractBody ({ r with params := r.params.markBodyTried },e)
  rw [bodyParams_exec]
  cases tried : r.params.bodyTried with
  | true => exact h
  | false =>
    -- nothing was merged before the body is looked at, and looking merges nothing
    have unmerged := h.unmerged_of_untried tried
    generalize extractBody.exec ({ r with params := r.params.markBodyTried },e) = result at kept
    obtain ⟨f | p,found,e⟩ := result
    · exact ParamCache.coherent_of_unmerged ((congrArg ParamCache.merged kept).trans unmerged)
    · exact ParamCache.coherent_of_unmerged ((congrArg ParamCache.merged kept).trans unmerged)

theorem allParams_coherent {s : Request × E} (h : s.1.params.Coherent) :
    (allParams.exec s).2.1.params.Coherent := by
  obtain ⟨r,e⟩ := s
  have asked := queryParams_coherent h
  have known (p : Params) (got : (queryParams.exec (r,e)).1 = .ok p) := queryParams_known got
  rw [allParams_exec]
  cases merged : r.params.merged with
  | some p => exact h
  | none =>
    generalize queryParams.exec (r,e) = first at asked known
    obtain ⟨f | q,s⟩ := first
    · exact asked
    · dsimp only
      have looked := bodyParams_coherent asked
      have tried := bodyParams_tried s
      have stays := (looks_bodyParams s).computed (known q rfl)
      generalize bodyParams.exec s = second at looked tried stays
      obtain ⟨f | p,t⟩ := second
      · exact looked
      · exact looked.materialize (stays ▸ known q rfl) tried

theorem allParams_merged {s : Request × E} {p : Params} (got : (allParams.exec s).1 = .ok p) :
    (allParams.exec s).2.1.params.merged = some p := by
  obtain ⟨r,e⟩ := s
  rw [allParams_exec] at got ⊢
  cases merged : r.params.merged with
  | some q =>
    rw [merged] at got
    cases got
    exact merged
  | none =>
    rw [merged] at got
    generalize queryParams.exec (r,e) = first at got
    obtain ⟨f | q,s⟩ := first
    · cases got
    · dsimp only at got ⊢
      generalize bodyParams.exec s = second at got
      obtain ⟨f | q,t⟩ := second
      · cases got
      · cases got
        exact t.1.params.merged_materialize

end Sources

end Request

namespace Operation

open Request

variable {E : Type} [Body.ExternalSources E] [SessionStores E] [LoginServices E] [AttributeObservers E]

theorem params_of_run (op : Operation E) (s : Request × E) :
    (op.run s).1.params = s.1.params ∨
      (op.run s).1.params = (queryParams.exec s).2.1.params ∨
      (op.run s).1.params = (bodyParams.exec s).2.1.params ∨
      (op.run s).1.params = (allParams.exec s).2.1.params := by
  cases looks : op.looks with
  | false => exact .inl (apart_of_not_looks looks s).params
  | true =>
    cases op with
    | readQuery => exact .inr (.inl rfl)
    | readForm => exact .inr (.inr (.inl rfl))
    | readParams => exact .inr (.inr (.inr rfl))
    | openStream => exact .inl (keepsParams_openStream s)
    | openReader => exact .inl (keepsParams_openReader s)
    | _ => cases looks

end Operation

end HttpRequest
