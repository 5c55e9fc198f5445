import HttpRequest.Proofs.Body.Whole
import HttpRequest.Proofs.Request.Parameters

/-! # Forms

A form that is there to its end is read piece by piece, and its size is checked after each piece. As the
check counts bytes and every piece but the last has some, what comes of it depends on the whole body
alone. The first look at the body marks it before anything is read, so a failure is not looked at again.
-/
namespace HttpRequest

namespace Request

variable {E : Type} [Body.ExternalSources E]

open Body

theorem readFormPieces_holds {limit n size : Nat} {pieces : List Octets} {s : Input × E} {body : Octets}
    (h : Input.Holds s body) (blocking : s.1.pacing = .blocking) (within : size ≤ limit) (room : limit < size + n) :
    (readFormPieces limit n pieces size s).1 =
      if size + body.length ≤ limit then .ok (pieces.reverse.flatten ++ body) else .error badForm := by
  -- Reading in pieces gives the whole body, or finds that it is too large. As long as the size
  -- is within the limit there is room for one more piece.
  induction n generalizing size pieces s body with
  | zero => omega
  | succ n ih =>
    obtain ⟨piece,rest,comes,parts,holds,last⟩ := h.read blocking 4095
    have paced := (Input.read_hearing Input.pieceSize s).pacing.trans blocking
    have comes : (Input.read Input.pieceSize s).1 = .ok piece := comes
    have holds : Input.Holds (Input.read Input.pieceSize s).2 rest := holds
    unfold readFormPieces
    generalize Input.read Input.pieceSize s = r at comes holds paced
    obtain ⟨result,t⟩ := r
    dsimp only at comes holds paced
    subst comes
    cases piece with
    | nil =>
      have nothing : body = [] := by
        rw [parts, last rfl]
        rfl
      simp [nothing, within]
    | cons b bytes =>
      have length : body.length = (b :: bytes).length + rest.length := by rw [parts, List.length_append]
      dsimp only
      split
      next exceeds =>
        rw [if_neg]
        omega
      next fits =>
        have grown : (b :: bytes).length ≠ 0 := by simp
        rw [ih holds paced (Nat.not_lt.mp fits) (by omega), length, parts, ← Nat.add_assoc]
        simp

theorem readForm_holds (limit : Nat) {s : Input × E} {body : Octets} (h : Input.Holds s body)
    (blocking : s.1.pacing = .blocking) :
    ((readForm limit).exec s).1 = if body.length ≤ limit then .ok body else .error badForm := by
  have room : limit < 0 + (limit + 2) := by omega
  have whole : (readFormPieces limit (limit + 2) [] 0 s).1 =
      if 0 + body.length ≤ limit then .ok ([].reverse.flatten ++ body) else .error badForm :=
    readFormPieces_holds h blocking (Nat.zero_le limit) room
  rwa [Nat.zero_add] at whole

/-- The parameters of a form, by its bytes. -/
def formParams (settings : Settings) (charset : Charset) (body : Octets) : Except Failure Params :=
  if body.length ≤ settings.maxFormSize then
    match Form.decodeBody body charset settings.maxFormKeys with
    | .ok t => .ok (.ofTable t)
    | .error _ => .error badForm
  else .error badForm

omit [ExternalSources E] in
theorem onBody_fst {α : Type} (a : Attempt (Input × E) α) (s : Request × E) :
    ((onBody a).exec s).1 = (a.exec (s.1.body,s.2)).1 := rfl

theorem openStream_exec {r : Request} (idle : r.body.mode = .idle) (e : E) :
    openStream.exec (r,e) = ((Input.sendContinue ({ r.body with mode := .stream },e)).1,
      { r with body := (Input.sendContinue ({ r.body with mode := .stream },e)).2.1 },
      (Input.sendContinue ({ r.body with mode := .stream },e)).2.2) := by
  have enters : r.body.enterStream = .ok { r.body with mode := .stream } := by simp only [Input.enterStream, idle]
  have chosen : (chooseBody Input.enterStream : Attempt (Request × E) Unit).exec (r,e) =
      (.ok (),({ r with body := { r.body with mode := .stream } },e)) := by
    rw [chooseBody_exec, enters]
  rw [openStream, Attempt.exec_bind, chosen]
  rfl

/-- The request brings a form in this encoding, which may be looked at and is announced as no larger than
allowed, if its size is announced at all. -/
structure BringsForm (r : Request) (charset : Charset) : Prop where
  form : r.hasForm = true
  plain : r.hasContentEncoding = false
  fits : ¬ r.contentLength?.any (r.settings.maxFormSize < ·) = true
  known : r.formCharset = .ok charset
  blocking : r.body.pacing = .blocking

theorem BringsForm.idle {r : Request} {charset : Charset} (h : r.BringsForm charset) : r.body.mode = .idle := by
  have form := h.form
  simp only [hasForm, Bool.and_eq_true, decide_eq_true_eq] at form
  exact form.1.2

theorem extractForm_exec {r : Request} {charset : Charset} (h : r.BringsForm charset) {e : E} {body : Octets}
    (fed : Input.Fed (r.body,e) body) : (extractForm.exec (r,e)).1 = formParams r.settings charset body := by
  obtain ⟨told,holds⟩ := fed.ofMode .stream
  have opens := openStream_exec h.idle e
  have paced : (Input.sendContinue ({ r.body with mode := .stream },e)).2.1.pacing = .blocking := by
    rw [Input.sendContinue_eq]
    exact h.blocking
  generalize Input.sendContinue ({ r.body with mode := .stream },e) = sent at opens told holds paced
  obtain ⟨_,input,e'⟩ := sent
  dsimp only at opens told holds paced
  subst told
  have known : (liftM r.formCharset : Attempt (Request × E) Charset).exec (r,e) = (.ok charset,(r,e)) := by
    rw [h.known]
    rfl
  have unasync : ¬input.pacing = .async := by
    rw [paced]
    nofun
  have reads : extractForm.exec (r,e) = (onBody (readForm r.settings.maxFormSize) >>= fun bytes =>
      match Form.decodeBody bytes charset r.settings.maxFormKeys with
      | .ok t => return .ofTable t
      | .error _ => throw badForm).exec ({ r with body := input },e') := by
    refine (exec_current_bind r e _).trans ?_
    refine (Attempt.exec_unless h.fits _ _ _).trans ?_
    refine (Attempt.exec_bind_of_ok known _).trans ?_
    refine (Attempt.exec_bind_of_ok opens _).trans ?_
    refine (exec_current_bind { r with body := input } e' _).trans ?_
    exact Attempt.exec_unless unasync _ _ _
  have whole : ((onBody (readForm r.settings.maxFormSize)).exec ({ r with body := input },e')).1 =
      if body.length ≤ r.settings.maxFormSize then .ok body else .error badForm := by
    rw [onBody_fst]
    exact readForm_holds r.settings.maxFormSize holds paced
  rw [reads, Attempt.exec_bind]
  generalize (onBody (readForm r.settings.maxFormSize)).exec ({ r with body := input },e') = result at whole
  obtain ⟨bytes,left⟩ := result
  dsimp only at whole
  by_cases fits : body.length ≤ r.settings.maxFormSize
  · rw [if_pos fits] at whole
    subst whole
    rw [formParams, if_pos fits]
    dsimp only
    cases Form.decodeBody body charset r.settings.maxFormKeys <;> rfl
  · rw [if_neg fits] at whole
    subst whole
    rw [formParams, if_neg fits]

theorem extractBody_exec {r : Request} {charset : Charset} (h : r.BringsForm charset) {e : E} {body : Octets}
    (fed : Input.Fed (r.body,e) body) : (extractBody.exec (r,e)).1 = formParams r.settings charset body := by
  have formed : ¬(!r.hasForm) = true := by simp [h.form]
  have plain : ¬r.hasContentEncoding = true := by simp [h.plain]
  rw [extractBody, exec_current_bind, if_neg formed, ← extractForm_exec h fed]
  exact congrArg Prod.fst (Attempt.exec_unless plain _ _ _)

theorem bodyParams_stores {r : Request} (untried : r.params.bodyTried = false) (unstored : r.params.body = none)
    (e : E) : (bodyParams.exec (r,e)).1 = (extractBody.exec ({ r with params := r.params.markBodyTried },e)).1 ∧
      (bodyParams.exec (r,e)).2.1.params.body = (bodyParams.exec (r,e)).1.toOption := by
  have kept := keepsParams_extractBody ({ r with params := r.params.markBodyTried },e)
  rw [bodyParams_exec, untried, if_neg Bool.false_ne_true]
  generalize extractBody.exec ({ r with params := r.params.markBodyTried },e) = result at kept
  obtain ⟨f | p,found,e⟩ := result
  · exact ⟨rfl,(congrArg ParamCache.body kept).trans unstored⟩
  · exact ⟨rfl,rfl⟩

theorem bodyParams_form {r : Request} {charset : Charset} (h : r.BringsForm charset)
    (untried : r.params.bodyTried = false) (unstored : r.params.body = none) {e : E} {body : Octets}
    (fed : Input.Fed (r.body,e) body) : (bodyParams.exec (r,e)).1 = formParams r.settings charset body := by
  rw [(bodyParams_stores untried unstored e).1]
  have marked : BringsForm { r with params := r.params.markBodyTried } charset :=
    ⟨h.form,h.plain,h.fits,h.known,h.blocking⟩
  exact extractBody_exec marked fed

end Request

end HttpRequest
