import HttpRequest.Param.Form
import HttpRequest.Proofs.Param.Pairs
import Mathlib.Data.Finset.Card
import Mathlib.Data.List.Forall2

/-! # The limit on form keys

A form may be decoded with a limit on its keys, which is looked at behind every pair. Adding pairs never
takes a name away, so it makes no difference that the decoding stops early: with the limit a form decodes
to what it decodes to without one, if that has no more names than allowed, and fails otherwise. A name
counts once, however often and wherever it occurs.
-/
namespace HttpRequest

namespace ParamTable

theorem size_le_add (t : ParamTable) (name value : String) : t.size ≤ (t.add name value).size := by
  rw [size_eq, size_eq, names_add]
  split <;> simp

theorem size_ofPairs (pairs : List (String × String)) : (ofPairs pairs).size = (pairs.map (·.1)).toFinset.card := by
  rw [size_eq, ← List.toFinset_card_of_nodup (names_nodup _), names_ofPairs]
  congr 1
  ext name
  rw [List.mem_toFinset, List.mem_toFinset, mem_firstSeen_iff]

end ParamTable

namespace Form
variable {charset : Charset} {t : ParamTable} {raw : Octets × Octets} {rest : List (Octets × Octets)}

theorem component_eq_error {raw : Octets} {f : Failure} (fails : component charset raw = .error f) :
    ∃ reason, f = .badMessage 400 reason := by
  unfold component at fails
  split at fails
  · split at fails
    · cases fails
    · cases fails
      exact ⟨_,rfl⟩
  · cases fails
    exact ⟨_,rfl⟩

theorem pair_eq_error {f : Failure} (fails : pair charset raw = .error f) : ∃ reason, f = .badMessage 400 reason := by
  unfold pair at fails
  split at fails
  next name => cases fails; exact component_eq_error name
  next =>
    split at fails
    next value => cases fails; exact component_eq_error value
    next => cases fails

section Steps

theorem addPairs_of_fault {f : Failure} (fault : pair charset raw = .error f) (limit : Option Nat) :
    addPairs charset limit t (raw :: rest) = (.error f,t) := by
  simp only [addPairs, fault]

variable {name value : String} (read : pair charset raw = .ok (name,value))
include read

theorem addPairs_unlimited :
    addPairs charset none t (raw :: rest) = addPairs charset none (t.add name value) rest := by
  simp only [addPairs, read, within]

theorem addPairs_of_fits {limit : Nat} (fits : (t.add name value).size ≤ limit) :
    addPairs charset (some limit) t (raw :: rest) = addPairs charset (some limit) (t.add name value) rest := by
  simp only [addPairs, read, within, if_neg (Nat.not_lt.mpr fits)]

theorem addPairs_of_exceeds {limit : Nat} (exceeds : limit < (t.add name value).size) :
    addPairs charset (some limit) t (raw :: rest) = (.error (tooManyKeys limit),t.add name value) := by
  simp only [addPairs, read, within, if_pos exceeds]

end Steps

theorem size_le_addPairs (charset : Charset) (t : ParamTable) (raws : List (Octets × Octets)) :
    t.size ≤ (addPairs charset none t raws).2.size := by
  -- By induction on the pairs: none takes a name away.
  induction raws generalizing t with
  | nil => exact le_rfl
  | cons raw rest ih =>
    cases read : pair charset raw with
    | error f => rw [addPairs_of_fault read]
    | ok added =>
      rw [addPairs_unlimited read]
      exact (t.size_le_add added.1 added.2).trans (ih _)

/-- A limit that is not passed in the end was passed at no time, so it makes no difference, not even to a
failure. -/
theorem addPairs_within {limit : Nat} {raws : List (Octets × Octets)}
    (fits : (addPairs charset none t raws).2.size ≤ limit) :
    addPairs charset (some limit) t raws = addPairs charset none t raws := by
  induction raws generalizing t with
  | nil => rfl
  | cons raw rest ih =>
    cases read : pair charset raw with
    | error f => rw [addPairs_of_fault read, addPairs_of_fault read]
    | ok added =>
      rw [addPairs_unlimited read] at fits ⊢
      have now : (t.add added.1 added.2).size ≤ limit := (size_le_addPairs charset _ rest).trans fits
      rw [addPairs_of_fits read now, ih fits]

/-- A limit that is passed in the end is passed with some pair, and there the decoding stops. -/
theorem addPairs_beyond {limit : Nat} {raws : List (Octets × Octets)} (start : t.size ≤ limit)
    (exceeds : limit < (addPairs charset none t raws).2.size) :
    (addPairs charset (some limit) t raws).1 = .error (tooManyKeys limit) := by
  induction raws generalizing t with
  | nil => exact absurd start (Nat.not_le.mpr exceeds)
  | cons raw rest ih =>
    cases read : pair charset raw with
    | error f =>
      rw [addPairs_of_fault read] at exceeds
      exact absurd start (Nat.not_le.mpr exceeds)
    | ok added =>
      rw [addPairs_unlimited read] at exceeds
      rcases Nat.lt_or_ge limit (t.add added.1 added.2).size with now | fits
      · rw [addPairs_of_exceeds read now]
      · rw [addPairs_of_fits read fits]
        exact ih fits exceeds

theorem addPairs_eq_error {f : Failure} {raws : List (Octets × Octets)}
    (fails : (addPairs charset none t raws).1 = .error f) : ∃ reason, f = .badMessage 400 reason := by
  induction raws generalizing t with
  | nil => cases fails
  | cons raw rest ih =>
    cases read : pair charset raw with
    | error g =>
      rw [addPairs_of_fault read] at fails
      cases fails
      exact pair_eq_error read
    | ok added =>
      rw [addPairs_unlimited read] at fails
      exact ih fails

theorem addPairs_eq_ok {raws : List (Octets × Octets)} (added : (addPairs charset none t raws).1 = .ok ()) :
    ∃ pairs, List.Forall₂ (fun raw read => pair charset raw = .ok read) raws pairs ∧
      (addPairs charset none t raws).2 = pairs.foldl (fun t pair => t.add pair.1 pair.2) t := by
  induction raws generalizing t with
  | nil => exact ⟨[],.nil,rfl⟩
  | cons raw rest ih =>
    cases read : pair charset raw with
    | error f =>
      rw [addPairs_of_fault read] at added
      cases added
    | ok first =>
      rw [addPairs_unlimited read] at added ⊢
      obtain ⟨pairs,reads,same⟩ := ih added
      exact ⟨first :: pairs,.cons read reads,same⟩

section Whole
variable {input : Octets} {limit : Option Nat}

theorem decode_eq_ok_iff : decode input charset limit = .ok t ↔ decodeInto ∅ input charset limit = (.ok (),t) := by
  unfold decode
  rcases decodeInto ∅ input charset limit with ⟨_ | _,u⟩ <;> simp

theorem decode_eq_error_iff {f : Failure} :
    decode input charset limit = .error f ↔ (decodeInto ∅ input charset limit).1 = .error f := by
  unfold decode
  rcases decodeInto ∅ input charset limit with ⟨_ | _,u⟩ <;> simp

end Whole

/-- With a limit a form decodes as without one if the names that are added, up to a fault if there is one,
are within the limit, and fails for it if they are not. -/
theorem decode_limited (body : Octets) (charset : Charset) (limit : Nat) :
    decode body charset (some limit) =
      if (decodeInto ∅ body charset none).2.size ≤ limit then decode body charset none
      else .error (tooManyKeys limit) := by
  split
  next fits => rw [decode, decode, decodeInto, addPairs_within fits, ← decodeInto]
  next exceeds => exact decode_eq_error_iff.mpr (addPairs_beyond (Nat.zero_le limit) (Nat.not_le.mp exceeds))

theorem decodeBody_eq_ok_iff {body : Octets} {limit : Nat} :
    decodeBody body charset limit = .ok t ↔ decode body charset none = .ok t ∧ t.size ≤ limit := by
  rw [decodeBody, decode_limited]
  split
  next fits =>
    rw [iff_self_and]
    intro decoded
    rwa [decode_eq_ok_iff.mp decoded] at fits
  next exceeds =>
    refine iff_of_false nofun ?_
    rintro ⟨decoded,fits⟩
    rw [decode_eq_ok_iff.mp decoded] at exceeds
    exact exceeds fits

theorem decodeBody_eq_error {body : Octets} {limit : Nat} {f : Failure}
    (fails : decodeBody body charset limit = .error f) : ∃ reason, f = .badMessage 400 reason := by
  rw [decodeBody, decode_limited] at fails
  split at fails
  next => exact addPairs_eq_error (decode_eq_error_iff.mp fails)
  next => exact ⟨_,(Except.error.inj fails).symm⟩

theorem decode_ofPairs {body : Octets} (decoded : decode body charset none = .ok t) :
    ∃ pairs, List.Forall₂ (fun raw read => pair charset raw = .ok read) (rawPairs body) pairs ∧ t = .ofPairs pairs := by
  have into := decode_eq_ok_iff.mp decoded
  obtain ⟨pairs,reads,same⟩ := addPairs_eq_ok (congrArg Prod.fst into)
  exact ⟨pairs,reads,(congrArg Prod.snd into).symm.trans same⟩

/-- With a limit a form decodes to a table exactly if it does so without one and the table has no more names
than allowed; otherwise it fails with one status. The names of the table are those of the pairs in the form,
each of them once. -/
theorem key_limit_exact (body : Octets) (charset : Charset) (limit : Nat) :
    (∀ t, decodeBody body charset limit = .ok t ↔ decode body charset none = .ok t ∧ t.size ≤ limit) ∧
      ((¬∃ t, decode body charset none = .ok t ∧ t.size ≤ limit) →
        ∃ reason, decodeBody body charset limit = .error (.badMessage 400 reason)) ∧
      ∀ t, decode body charset none = .ok t → ∃ pairs,
        List.Forall₂ (fun raw read => pair charset raw = .ok read) (rawPairs body) pairs ∧
          t = .ofPairs pairs ∧ t.size = (pairs.map (·.1)).toFinset.card := by
  refine ⟨fun t => decodeBody_eq_ok_iff,fun refused => ?_,fun t decoded => ?_⟩
  · cases decoded : decodeBody body charset limit with
    | ok t => exact absurd ⟨t,decodeBody_eq_ok_iff.mp decoded⟩ refused
    | error f =>
      obtain ⟨reason,rfl⟩ := decodeBody_eq_error decoded
      exact ⟨reason,rfl⟩
  · obtain ⟨pairs,reads,table⟩ := decode_ofPairs decoded
    exact ⟨pairs,reads,table,table ▸ ParamTable.size_ofPairs pairs⟩

end Form

end HttpRequest
