import HttpRequest.Proofs.Text.Utf8
import HttpRequest.Text.Decoder
import Mathlib.Data.List.TakeWhile

/-! # Decoding in pieces

What a decoder makes of the bytes to come depends on the bytes alone and not on how they are cut into
pieces. With the characters that it holds already this is what remains of the text of a body, so that
feeding a decoder, and taking characters from its front, never changes the rest.
-/
namespace HttpRequest

def Charset.Stands : Charset → Octets → List Char → Prop
  | .latin1, bs, text => text.map Char.toNat = bs.map UInt8.toNat
  | .utf8, bs, text => Utf8.Lossy bs text

section Cut
variable {α : Type} [BEq α] [LawfulBEq α] {a : α} {xs line rest : List α}

omit [LawfulBEq α] in
theorem cutAt_fst (a : α) (xs : List α) : (cutAt a xs).1 = xs.takeWhile (· != a) := by
  unfold cutAt
  split
  next dropped =>
    exact (List.takeWhile_eq_self_iff.mpr (List.dropWhile_eq_nil_iff.mp dropped)).symm
  · rfl

theorem cutAt_some {cut : List α} (h : cutAt a xs = (cut,some rest)) : xs = cut ++ a :: rest ∧ a ∉ cut := by
  unfold cutAt at h
  split at h
  · cases h
  next b tail dropped =>
    cases h
    have parts := List.takeWhile_append_dropWhile (p := (· != a)) (l := xs)
    have here : b = a := by
      have := List.head?_dropWhile_not (· != a) xs
      rw [dropped] at this
      simpa using this
    rw [dropped, here] at parts
    refine ⟨parts.symm,?_⟩
    intro mem
    simpa using List.mem_takeWhile_imp mem

theorem cutAt_none {cut : List α} (h : cutAt a xs = (cut,none)) : a ∉ xs := by
  unfold cutAt at h
  split at h
  next dropped =>
    intro mem
    simpa using List.dropWhile_eq_nil_iff.mp dropped a mem
  · cases h

end Cut

namespace Decoder

/-- What remains of the text when `more` bytes come and then the end. -/
def remaining (d : Decoder) (more : Octets) : List Char :=
  (d.feed more).finish.text

def later (d : Decoder) (more : Octets) : List Char :=
  remaining { d with text := [] } more

@[simp] theorem feed_nil (d : Decoder) : d.feed [] = d := by
  obtain ⟨charset,state,text⟩ := d
  cases charset <;> simp [feed, Charset.latin1Chars]

theorem feed_append (d : Decoder) (bs more : Octets) : d.feed (bs ++ more) = (d.feed bs).feed more := by
  obtain ⟨charset,state,text⟩ := d
  cases charset with
  | latin1 => simp [feed, Charset.latin1Chars]
  | utf8 =>
    simp only [feed, List.foldl_append]
    rw [Utf8.foldl_lossyStep (bs.foldl Utf8.lossyStep (state,[])).1]
    simp

theorem remaining_eq (d : Decoder) (more : Octets) : d.remaining more = d.text ++ d.later more := by
  obtain ⟨charset,state,text⟩ := d
  cases charset <;> simp [later, remaining, feed, finish]

theorem remaining_append (d : Decoder) (bs more : Octets) :
    d.remaining (bs ++ more) = (d.feed bs).remaining more := by
  simp only [remaining, feed_append]

theorem remaining_finish (d : Decoder) : d.finish.remaining [] = d.finish.text := by
  obtain ⟨charset,state,text⟩ := d
  cases charset <;> simp [remaining, feed, finish, Charset.latin1Chars, Utf8.lossyEnd]

theorem remaining_nil (d : Decoder) : d.remaining [] = d.finish.text := by
  rw [remaining, feed_nil]

/-- A new decoder makes of the bytes of a body the text that they stand for. -/
theorem stands_iff {charset : Charset} {bs : Octets} {text : List Char} :
    charset.Stands bs text ↔ text = ({ charset } : Decoder).remaining bs := by
  cases charset with
  | latin1 =>
    have chars : ({ charset := .latin1 } : Decoder).remaining bs = Charset.latin1Chars bs := by
      simp [remaining, feed, finish, Utf8.lossyEnd]
    have numbers : (Charset.latin1Chars bs).map Char.toNat = bs.map UInt8.toNat := by
      simp only [Charset.latin1Chars, List.map_map]
      refine List.map_congr_left fun b _ => Utf8.toNat_ofNat ?_
      have := b.toNat_lt
      omega
    rw [chars, Charset.Stands, ← numbers]
    exact List.map_inj_right fun _ _ => Char.toNat_inj.mp
  | utf8 =>
    rw [Charset.Stands, Utf8.lossy_iff]
    simp [remaining, feed, finish, Utf8.decodeLossy]

theorem dropReturn_eq (line : List Char) : line = dropReturn line ++ ['\r'] ∨
    line = dropReturn line ∧ line.getLast? ≠ some '\r' := by
  unfold dropReturn beforeLast?
  split
  next empty => exact .inr ⟨rfl,by simp [List.reverse_eq_nil_iff.mp empty]⟩
  next last rest same =>
    have line : line = rest.reverse ++ [last] := by rw [← List.reverse_reverse line, same]; simp
    split
    next cr => exact .inl (by simpa [beq_iff_eq.mp cr] using line)
    next other => exact .inr ⟨rfl,by simpa [line] using other⟩

theorem takeLine_some {d after : Decoder} {answer : String} (h : d.takeLine? = some (answer,after)) :
    ∃ line rest, d.text = line ++ '\n' :: rest ∧ '\n' ∉ line ∧
      answer = String.ofList (dropReturn line) ∧ after = { d with text := rest } := by
  unfold takeLine? at h
  split at h
  next line rest cut =>
    cases h
    exact ⟨line,rest,(cutAt_some cut).1,(cutAt_some cut).2,rfl,rfl⟩
  · cases h

theorem takeLine_none {d : Decoder} (h : d.takeLine? = none) : '\n' ∉ d.text := by
  unfold takeLine? at h
  split at h
  · cases h
  next cut => exact cutAt_none cut

theorem finish_no_newline {d : Decoder} (h : '\n' ∉ d.text) : '\n' ∉ d.finish.text := by
  obtain ⟨charset,state,text⟩ := d
  cases state with
  | start => simpa [finish, Utf8.lossyEnd] using h
  | inside left low high bits =>
    have other : '\n' ≠ Utf8.replacement := by decide
    simpa [finish, Utf8.lossyEnd, other] using h

end Decoder

end HttpRequest
