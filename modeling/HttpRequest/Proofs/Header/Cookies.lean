import HttpRequest.Header.Cookie
import HttpRequest.Proofs.Text.Blank
import HttpRequest.Proofs.Text.Decoding

/-! # Cookies as they are written

A line of cookies may be written in many ways: with blanks around every name and value, with a pair of
double quotes around a value, with empty segments, values without a name and attributes between the
pairs, and it may be broken up into several header fields. All of them are read as the same cookies,
in the order in which they were written.
-/
namespace HttpRequest

/-- Space, tab, or a visible ASCII character. -/
def Printable (c : Char) : Prop :=
  c = '\t' ∨ 0x20 ≤ c.toNat ∧ c.toNat ≤ 0x7E

instance : DecidablePred Printable :=
  fun _ => inferInstanceAs (Decidable (_ ∨ _))

-- Characters are finitely many, so without this instance all of them might be tried.
instance (text : List Char) : Decidable (∀ c ∈ text, Printable c) :=
  List.decidableBAll Printable text

theorem Printable.toNat_le {c : Char} (printable : Printable c) : c.toNat ≤ 0x7E := by
  rcases printable with rfl | ⟨-,below⟩
  · decide
  · exact below

theorem Printable.isTextByte {c : Char} (printable : Printable c) :
    Headers.isTextByte (UInt8.ofNat c.toNat) = true := by
  rcases printable with rfl | ⟨above,below⟩
  · decide
  · have byte : (UInt8.ofNat c.toNat).toNat = c.toNat := Utf8.toNat_byte (by omega)
    simp [Headers.isTextByte, UInt8.le_iff_toNat_le, byte, above, below]

namespace Headers
section Text
variable {name other : String} {value : Octets} {fields : List (String × Octets)}

theorem valueText?_encode {text : List Char} (printable : ∀ c ∈ text, Printable c) :
    valueText? (Utf8.encode text) = some (String.ofList text) := by
  have bytes : Utf8.encode text = text.map fun c => UInt8.ofNat c.toNat := by
    rw [List.map_eq_flatMap]
    refine List.flatMap_congr fun c mem => ?_
    have small := (printable c mem).toNat_le
    simpa using Utf8.encode_one (v := c.toNat) (by omega)
  have accepted : (Utf8.encode text).all isTextByte = true := by
    simpa [bytes] using fun c mem => (printable c mem).isTextByte
  have back : (Utf8.encode text).map (fun b => Char.ofNat b.toNat) = text := by
    rw [bytes, List.map_map]
    refine (List.map_congr_left fun c mem => ?_).trans (List.map_id text)
    have small := (printable c mem).toNat_le
    rw [Function.comp_apply, Utf8.toNat_byte (by omega), Char.ofNat_toNat, id]
  rw [valueText?, if_pos accepted, back]

theorem texts_cons_of_ne (different : lowerAscii other ≠ lowerAscii name) :
    (ofList ((other,value) :: fields)).texts name = (ofList fields).texts name := by
  simp [texts, values, ofList, different]

theorem texts_cons_of_eq (same : lowerAscii other = lowerAscii name) {text : String}
    (read : valueText? value = some text) :
    (ofList ((other,value) :: fields)).texts name = text :: (ofList fields).texts name := by
  simp [texts, values, ofList, same, read]

end Text
end Headers

namespace Cookie

def Quoted (text : List Char) : Prop :=
  ∃ inner, text = '\x22' :: (inner ++ ['\x22'])

theorem beforeLast?_append (a : Char) (inner : List Char) : beforeLast? a (inner ++ [a]) = some inner := by
  simp [beforeLast?]

theorem eq_of_beforeLast? {a : Char} {text inner : List Char} (cut : beforeLast? a text = some inner) :
    text = inner ++ [a] := by
  unfold beforeLast? at cut
  split at cut
  · cases cut
  next last rest turned =>
    split at cut
    next same =>
      cases cut
      rw [← List.reverse_reverse text, turned, List.reverse_cons, beq_iff_eq.mp same]
    next => cases cut

theorem unquote_quoted (inner : List Char) : unquote ('\x22' :: (inner ++ ['\x22'])) = inner := by
  simp [unquote, beforeLast?_append]

theorem unquote_of_not_quoted {text : List Char} (bare : ¬Quoted text) : unquote text = text := by
  unfold unquote
  split
  next rest =>
    cases cut : beforeLast? '\x22' rest with
    | none => rfl
    | some inner => exact absurd ⟨inner,by rw [eq_of_beforeLast? cut]⟩ bare
  next => rfl

instance : DecidablePred Quoted :=
  fun text => decidable_of_iff (text = '\x22' :: (unquote text ++ ['\x22']))
    ⟨fun around => ⟨_,around⟩,fun ⟨inner,around⟩ => by rw [around, unquote_quoted]⟩

/-- How a value may stand in a line. -/
inductive Wording (value : List Char) : List Char → Prop
  | bare (tight : Tight value) (unquoted : ¬Quoted value) : Wording value value
  | quoted : Wording value ('\x22' :: (value ++ ['\x22']))

theorem Wording.unquote {value wording : List Char} (worded : Wording value wording) :
    unquote wording = value := by
  cases worded with
  | bare _ unquoted => exact unquote_of_not_quoted unquoted
  | quoted => exact unquote_quoted value

theorem Wording.not_mem {value wording : List Char} (worded : Wording value wording) (outside : ';' ∉ value) :
    ';' ∉ wording := by
  cases worded with
  | bare => exact outside
  | quoted => simp [outside]

/-- A name that can be told from its surroundings. -/
structure Named (name : List Char) : Prop where
  filled : name ≠ []
  unparted : ';' ∉ name ∧ '=' ∉ name
  unmarked : name.head? ≠ some '$'

/-- A pair, with any blanks around the name and around the value. -/
inductive Pair : Cookie → List Char → Prop
  | mk {name value wording left right : List Char} (named : Named name) (unparted : ';' ∉ value)
    (worded : Wording value wording) (before : Padded name left) (behind : Padded wording right) :
    Pair ⟨String.ofList name,String.ofList value⟩ (left ++ '=' :: right)

/-- What stands between pairs without being one. -/
inductive Filler : List Char → Prop
  | empty {blank : List Char} (blanks : Blank blank) : Filler blank
  | nameless {blank rest : List Char} (blanks : Blank blank) (unparted : ';' ∉ rest) :
    Filler (blank ++ '=' :: rest)
  | marked {blank rest : List Char} (blanks : Blank blank) (unparted : ';' ∉ rest) :
    Filler (blank ++ '$' :: rest)

theorem equals_not_blank : isBlank '=' = false := by decide

theorem semicolon_not_blank : isBlank ';' = false := by decide

theorem dollar_not_blank : isBlank '$' = false := by decide

theorem Pair.unparted {cookie : Cookie} {segment : List Char} (pair : Pair cookie segment) : ';' ∉ segment := by
  cases pair with
  | mk named unparted worded before behind =>
    have left := before.not_mem semicolon_not_blank named.unparted.1
    have right := behind.not_mem semicolon_not_blank (worded.not_mem unparted)
    simp [left, right]

theorem Filler.unparted {segment : List Char} (filler : Filler segment) : ';' ∉ segment := by
  cases filler with
  | empty blanks => exact blanks.not_mem semicolon_not_blank
  | nameless blanks unparted => simp [blanks.not_mem semicolon_not_blank, unparted]
  | marked blanks unparted => simp [blanks.not_mem semicolon_not_blank, unparted]

theorem ofSegment?_pair {cookie : Cookie} {segment : List Char} (pair : Pair cookie segment) :
    ofSegment? segment = some cookie := by
  cases pair with
  | @mk name value wording left right named unparted worded before behind =>
    have outside : '=' ∉ left.dropWhile isBlank := fun mem =>
      before.not_mem equals_not_blank named.unparted.2 (List.dropWhile_subset _ mem)
    have kept : ¬(name.isEmpty || name.head? == some '$') = true := by
      simp [named.filled, named.unmarked]
    unfold ofSegment?
    rw [trim_append_cons equals_not_blank, cutAt_append outside]
    simp only [trim_dropWhile, trim_of_padded before, Option.getD_some, trim_rdropWhile,
      trim_of_padded behind, worded.unquote]
    rw [if_neg kept]

theorem ofSegment?_filler {segment : List Char} (filler : Filler segment) : ofSegment? segment = none := by
  cases filler with
  | empty blanks =>
    unfold ofSegment?
    rw [trim_of_blank blanks]
    rfl
  | nameless blanks unparted =>
    unfold ofSegment?
    rw [trim_append_cons equals_not_blank, dropWhile_of_blank blanks, List.nil_append]
    rfl
  | @marked blank rest blanks unparted =>
    have name : trim (cutAt '=' ('$' :: rest.rdropWhile isBlank)).1 =
        '$' :: ((rest.rdropWhile isBlank).takeWhile (· != '=')).rdropWhile isBlank := by
      rw [cutAt_fst, List.takeWhile_cons_of_pos rfl]
      exact trim_append_cons dollar_not_blank [] _
    unfold ofSegment?
    rw [trim_append_cons dollar_not_blank, dropWhile_of_blank blanks, List.nil_append]
    dsimp only
    rw [name]
    exact if_pos (by simp)

/-- Cookies in segments, with anything between them that is none. -/
inductive Segments : List Cookie → List (List Char) → Prop
  | nil : Segments [] []
  | skip {cookies : List Cookie} {segment : List Char} {segments : List (List Char)}
      (filler : Filler segment) (others : Segments cookies segments) : Segments cookies (segment :: segments)
  | keep {cookie : Cookie} {cookies : List Cookie} {segment : List Char} {segments : List (List Char)}
      (pair : Pair cookie segment) (others : Segments cookies segments) :
      Segments (cookie :: cookies) (segment :: segments)

section Line
variable {cookies : List Cookie} {segments : List (List Char)}

theorem Segments.unparted (written : Segments cookies segments) : ∀ segment ∈ segments, ';' ∉ segment := by
  induction written with
  | nil => exact List.forall_mem_nil _
  | skip filler _ ih => exact List.forall_mem_cons.mpr ⟨filler.unparted,ih⟩
  | keep pair _ ih => exact List.forall_mem_cons.mpr ⟨pair.unparted,ih⟩

theorem filterMap_segments (written : Segments cookies segments) : segments.filterMap ofSegment? = cookies := by
  induction written with
  | nil => rfl
  | skip filler _ ih => rw [List.filterMap_cons_none (ofSegment?_filler filler), ih]
  | keep pair _ ih => rw [List.filterMap_cons_some (ofSegment?_pair pair), ih]

theorem ofLine_segments (written : Segments cookies segments) :
    ofLine (String.ofList ([';'].intercalate segments)) = cookies := by
  cases segments with
  | nil =>
    cases written
    rfl
  | cons segment others =>
    rw [ofLine, String.toList_ofList,
      List.splitOn_intercalate ';' written.unparted (List.cons_ne_nil segment others),
      filterMap_segments written]

end Line

/-- The fields of a request whose lines of cookies, taken together, are these cookies. -/
inductive Fields : List Cookie → List (String × Octets) → Prop
  | nil : Fields [] []
  | other {cookies : List Cookie} {name : String} {value : Octets} {fields : List (String × Octets)}
      (different : lowerAscii name ≠ lowerAscii "cookie") (others : Fields cookies fields) :
      Fields cookies ((name,value) :: fields)
  | line {cookies more : List Cookie} {name : String} {segments : List (List Char)}
      {fields : List (String × Octets)} (same : lowerAscii name = lowerAscii "cookie")
      (written : Segments cookies segments) (printable : ∀ c ∈ [';'].intercalate segments, Printable c)
      (others : Fields more fields) :
      Fields (cookies ++ more) ((name,Utf8.encode ([';'].intercalate segments)) :: fields)

/-- However the cookies are written, they are read in the order in which they were written. -/
theorem ofHeaders_fields {cookies : List Cookie} {fields : List (String × Octets)}
    (written : Fields cookies fields) : ofHeaders (Headers.ofList fields) = cookies := by
  induction written with
  | nil => rfl
  | other different _ ih =>
    rw [ofHeaders, Headers.texts_cons_of_ne different]
    exact ih
  | line same written printable _ ih =>
    rw [ofHeaders, Headers.texts_cons_of_eq same (Headers.valueText?_encode printable), List.flatMap_cons,
      ofLine_segments written]
    exact congrArg _ ih

/-- Two lines around another field: the attribute and the pair without a name are left out, and a second
cookie of a name stands beside the first. -/
theorem ofHeaders_two_lines : ofHeaders (Headers.ofList
      [("Cookie",octetsOf "$Version=1; SESSION=\"abc\"; theme=dark"),("Host",octetsOf "here"),
        ("cookie",octetsOf "empty=; =skipped;; theme = x=\"y ")]) =
    [⟨"SESSION","abc"⟩,⟨"theme","dark"⟩,⟨"empty",""⟩,⟨"theme","x=\"y"⟩] := by
  have version : Filler "$Version=1".toList := .marked Blank.nil (by decide)
  have session : Pair ⟨"SESSION","abc"⟩ (" SESSION".toList ++ '=' :: "\"abc\"".toList) :=
    .mk ⟨by decide,by decide,by decide⟩ (by decide) .quoted (by decide) (by decide)
  have dark : Pair ⟨"theme","dark"⟩ (" theme".toList ++ '=' :: "dark".toList) :=
    .mk ⟨by decide,by decide,by decide⟩ (by decide) (.bare (by decide) (by decide)) (by decide) (by decide)
  have empty : Pair ⟨"empty",""⟩ ("empty".toList ++ '=' :: []) :=
    .mk ⟨by decide,by decide,by decide⟩ (by decide) (.bare (by decide) (by decide)) (by decide) (by decide)
  have skipped : Filler " =skipped".toList := .nameless (by decide : Blank [' ']) (by decide)
  have odd : Pair ⟨"theme","x=\"y"⟩ (" theme ".toList ++ '=' :: " x=\"y ".toList) :=
    .mk ⟨by decide,by decide,by decide⟩ (by decide) (.bare (by decide) (by decide)) (by decide) (by decide)
  have first := Segments.nil.keep dark |>.keep session |>.skip version
  have second := Segments.nil.keep odd |>.skip (.empty Blank.nil) |>.skip skipped |>.keep empty
  have same : lowerAscii "Cookie" = lowerAscii "cookie" := by
    rw [← String.toList_inj]
    simp [lowerAscii]
  have different : lowerAscii "Host" ≠ lowerAscii "cookie" := by decide +kernel
  have last := Fields.nil.line rfl second (by decide)
  exact ofHeaders_fields ((last.other different).line same first (by decide))

end Cookie

end HttpRequest
