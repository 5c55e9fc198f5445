import HttpRequest.Proofs.Dispatch.Course
import HttpRequest.Proofs.Param.Merge
import HttpRequest.Proofs.Request.Form
import HttpRequest.Scripted.Collaborators

/-! # The one look at the body

Whatever becomes of the first look at the body, the request bears the mark of it from then on, and what
was found stays beside the mark: dispatches replace and restore the parameters of the query only. So all
looks after the first one answer from what is stored, and leave the request as it is.
-/
namespace HttpRequest

open Request DispatchTarget

/-- Between two states of the parameters what was found in the body is the same, unless the body was
looked at for the first time. -/
structure ParamCache.SameBody (before after : ParamCache) : Prop where
  tried : before.bodyTried = true → after.bodyTried = true ∧ after.body = before.body
  untried : after.bodyTried = false → before.bodyTried = false ∧ after.body = before.body

namespace ParamCache.SameBody
variable {a b c : ParamCache}

theorem of_eq (bodyTried : b.bodyTried = a.bodyTried) (body : b.body = a.body) : SameBody a b :=
  ⟨fun tried => ⟨bodyTried.trans tried,body⟩,fun untried => ⟨bodyTried.symm.trans untried,body⟩⟩

theorem refl (c : ParamCache) : SameBody c c := of_eq rfl rfl

theorem trans (first : SameBody a b) (second : SameBody b c) : SameBody a c := by
  constructor
  · intro tried
    obtain ⟨still,same⟩ := first.tried tried
    obtain ⟨now,kept⟩ := second.tried still
    exact ⟨now,kept.trans same⟩
  · intro untried
    obtain ⟨before,kept⟩ := second.untried untried
    obtain ⟨first,same⟩ := first.untried before
    exact ⟨first,kept.trans same⟩

end ParamCache.SameBody

open ParamCache

namespace Request

section Parameters
variable {E : Type} {s : Request × E}

theorem queryParams_sameBody (s : Request × E) : SameBody s.1.params (queryParams.exec s).2.1.params := by
  obtain ⟨r,e⟩ := s
  rw [queryParams_exec]
  cases r.params.query with
  | some q => exact .refl r.params
  | none =>
    cases r.seenQuery with
    | ok p => exact .of_eq rfl rfl
    | error f => exact .refl r.params

variable [Body.ExternalSources E]

theorem bodyParams_of_tried (tried : s.1.params.bodyTried = true) :
    bodyParams.exec s = (.ok (s.1.params.body.getD .empty),s) := by
  obtain ⟨r,e⟩ := s
  rw [bodyParams_exec]
  exact if_pos tried

theorem bodyParams_sameBody (s : Request × E) : SameBody s.1.params (bodyParams.exec s).2.1.params := by
  cases tried : s.1.params.bodyTried with
  | true =>
    rw [bodyParams_of_tried tried]
    exact .refl s.1.params
  | false =>
    have now := bodyParams_tried s
    constructor
    · intro before
      exact absurd (tried.symm.trans before) nofun
    · intro still
      exact absurd (now.symm.trans still) nofun

theorem allParams_sameBody (s : Request × E) : SameBody s.1.params (allParams.exec s).2.1.params := by
  have asked := queryParams_sameBody s
  obtain ⟨r,e⟩ := s
  rw [allParams_exec]
  cases r.params.merged with
  | some p => exact .refl r.params
  | none =>
    generalize queryParams.exec (r,e) = first at asked
    obtain ⟨f | q,t⟩ := first
    · exact asked
    · dsimp only at asked ⊢
      have looked := asked.trans (bodyParams_sameBody t)
      generalize bodyParams.exec t = second at looked
      obtain ⟨f | p,u⟩ := second
      · exact looked
      · have merged : SameBody u.1.params u.1.params.materialize.2 := by
          unfold materialize
          cases u.1.params.merged <;> exact .of_eq rfl rfl
        exact looked.trans merged

end Parameters

section Course

variable {E : Type} [UriGrammar] [Body.ExternalSources E] [SessionStores E] [LoginServices E] [AttributeObservers E]
  [ResponseControl E] {s t : Request × E}

theorem GoesOn.sameBody (on : GoesOn s t) : SameBody s.1.params t.1.params := by
  refine on.params (I := SameBody s.1.params) ?_ ?_ ?_ ?_ (.refl s.1.params)
  · exact fun t kept => kept.trans (queryParams_sameBody t)
  · exact fun t kept => kept.trans (bodyParams_sameBody t)
  · exact fun t kept => kept.trans (allParams_sameBody t)
  · exact fun c query kept => kept.trans (.of_eq rfl rfl)

theorem GoesOn.unstored (on : GoesOn s t) (fresh : s.1.params.body = none)
    (untried : t.1.params.bodyTried = false) : t.1.params.body = none :=
  (on.sameBody.untried untried).2.trans fresh

/-- A form that is there to its end is read once. The first look gives its parameters if it is within the
limits and well formed, and fails in one way if not; and every look after that, at any depth, gives what
the first one gave, or nothing after a failure, and touches neither the request nor its surroundings. -/
theorem form_once {charset : Charset} {body : Octets} (form : s.1.BringsForm charset)
    (untried : s.1.params.bodyTried = false) (unstored : s.1.params.body = none)
    (fed : Body.Input.Fed (s.1.body,s.2) body) :
    (∀ t, body.length ≤ s.1.settings.maxFormSize →
      Form.decodeBody body charset s.1.settings.maxFormKeys = .ok t →
      (bodyParams.exec s).1 = .ok (.ofTable t)) ∧
    ((∀ t, body.length ≤ s.1.settings.maxFormSize →
      Form.decodeBody body charset s.1.settings.maxFormKeys ≠ .ok t) →
      (bodyParams.exec s).1 = .error (.badMessage 400 "Unable to parse form content")) ∧
    ∀ here, GoesOn (bodyParams.exec s).2 here →
      bodyParams.exec here = (.ok ((bodyParams.exec s).1.toOption.getD .empty),here) := by
  have first : (bodyParams.exec s).1 = formParams s.1.settings charset body :=
    bodyParams_form form untried unstored fed
  refine ⟨?_,?_,?_⟩
  · intro t fits decoded
    rw [first, formParams, if_pos fits, decoded]
  · intro fails
    rw [first, formParams]
    split
    next fits =>
      cases decoded : Form.decodeBody body charset s.1.settings.maxFormKeys with
      | ok t => exact absurd decoded (fails t fits)
      | error f => rfl
    · rfl
  · intro here on
    obtain ⟨tried,kept⟩ := on.sameBody.tried (bodyParams_tried s)
    have stored := (bodyParams_stores untried unstored s.2).2
    rw [bodyParams_of_tried tried, kept, stored]

end Course

open CommonGrammar

def chunkedForm : Request × Scripted.Environment Unit :=
  ({ method := some "POST"
     contentTypeOverride := some formType
     body := (Body.Input.new 30000).attach
       (.channel { id := ⟨0⟩, queue := [.chunk [0x61,0x3D], .chunk [0x31], .finish] }) false },
    { kept := () })

theorem chunkedForm_decodes (limit : Nat) :
    Form.decodeBody [0x61,0x3D,0x31] .utf8 (limit + 1) = .ok (ParamTable.add ∅ "a" "1") := by
  have cut : Form.rawPairs [0x61,0x3D,0x31] = [([0x61],[0x31])] := by decide
  have pair : Form.pair .utf8 ([0x61],[0x31]) = .ok ("a","1") := rfl
  have one : (ParamTable.add ∅ "a" "1").size = 1 := ParamTable.size_add_empty "a" "1"
  have fits : ¬limit + 1 < 1 := by omega
  simp only [Form.decodeBody, Form.decode, Form.decodeInto, cut, Form.addPairs, pair, Form.within, one, if_neg fits]

/-- In an include that follows, the pair is still there, and nothing is read for it. -/
theorem chunkedForm_once : ∃ inside, (named "page").enter .inclusion (bodyParams.exec chunkedForm).2 = .ok inside ∧
    (bodyParams.exec chunkedForm).1 = .ok (.ofTable (ParamTable.add ∅ "a" "1")) ∧
    bodyParams.exec inside = (.ok (.ofTable (ParamTable.add ∅ "a" "1")),inside) := by
  have form : chunkedForm.1.BringsForm .utf8 := ⟨by decide,rfl,nofun,rfl,rfl⟩
  have holds : Body.Input.Holds (chunkedForm.1.body,chunkedForm.2) [0x61,0x3D,0x31] :=
    .sourced rfl rfl rfl (Body.Source.brings_channel rfl rfl _)
  obtain ⟨gives,-,later⟩ := form_once form rfl rfl (holds.fed nofun)
  have first := gives _ (by decide) (chunkedForm_decodes _)
  have entered : (named "page").enter .inclusion (bodyParams.exec chunkedForm).2 = .ok _ := rfl
  refine ⟨_,entered,first,?_⟩
  rw [later _ (.called .here entered), first]
  rfl

end Request

end HttpRequest
