import HttpRequest.Header.Locale
import HttpRequest.Proofs.Text.Blank
import HttpRequest.Proofs.Text.Decoding
import Mathlib.Data.List.Perm.Basic

/-! # The order of preferences

What a client accepts is collected item by item from all lines, and ordering it loses nothing: each item
stays as often as it was sent, the weights fall, and items of one weight keep their order. There is one
list only of which all this holds. The preferred locales are what this list says without the wildcard.
-/
namespace HttpRequest

theorem after?_eq_some_iff {α : Type} [BEq α] [LawfulBEq α] {start xs rest : List α} :
    after? start xs = some rest ↔ xs = start ++ rest := by
  induction start generalizing xs with
  | nil => simp [after?]
  | cons a start ih =>
    cases xs with
    | nil => simp [after?]
    | cons x xs =>
      unfold after?
      rw [List.cons_append, List.cons.injEq, ← ih]
      by_cases same : x = a
      · simp [same]
      · simp [same, Ne.symm same]

namespace Preference

/-- The weight that the first parameter `q` gives, or a thousand without one. -/
inductive Weighs : List (List Char) → Nat → Prop
  | unweighted : Weighs [] 1000
  | weighted {parameter given : List Char} {others : List (List Char)}
      (named : Padded ("q=".toList ++ given) parameter) : Weighs (parameter :: others) (weight given)
  | passed {parameter : List Char} {others : List (List Char)} {w : Nat}
      (different : ∀ given, ¬Padded ("q=".toList ++ given) parameter) (weighs : Weighs others w) :
      Weighs (parameter :: others) w

/-- An item with its value and weight, neither of them empty. -/
structure Accepts (item : List Char) (w : Nat) (value : String) : Prop where
  parts : ∃ front parameters, item.splitOn ';' = front :: parameters ∧
    Padded value.toList front ∧ Weighs parameters w
  filled : value ≠ ""
  weighted : w ≠ 0

/-- The items that are accepted, in the order sent. -/
inductive Collected : List (List Char) → List (Nat × String) → Prop
  | nil : Collected [] []
  | keep {item : List Char} {w : Nat} {value : String} {items : List (List Char)}
      {accepted : List (Nat × String)} (accepts : Accepts item w value) (others : Collected items accepted) :
      Collected (item :: items) ((w,value) :: accepted)
  | drop {item : List Char} {items : List (List Char)} {accepted : List (Nat × String)}
      (refused : ∀ w value, ¬Accepts item w value) (others : Collected items accepted) :
      Collected (item :: items) accepted

/-- The same items by falling weight, those of one weight in their old order. -/
structure Ranking (accepted order : List (Nat × String)) : Prop where
  perm : order.Perm accepted
  falling : order.Pairwise fun a b => b.1 ≤ a.1
  stable : ∀ w, order.filter (·.1 = w) = accepted.filter (·.1 = w)

section Items
variable {item parameter given : List Char} {parameters items : List (List Char)} {w : Nat} {value : String}
  {accepted order : List (Nat × String)}

theorem parameterWeight?_eq_some_iff : parameterWeight? parameter = some w ↔
    ∃ given, Padded ("q=".toList ++ given) parameter ∧ weight given = w := by
  simp only [parameterWeight?, Option.map_eq_some_iff, after?_eq_some_iff, trim_eq_iff]

theorem parameterWeight?_eq_none_iff : parameterWeight? parameter = none ↔
    ∀ given, ¬Padded ("q=".toList ++ given) parameter := by
  simp only [Option.eq_none_iff_forall_ne_some, ne_eq, parameterWeight?_eq_some_iff]
  constructor
  · intro unweighted given named
    exact unweighted _ ⟨given,named,rfl⟩
  · rintro unweighted w ⟨given,named,-⟩
    exact unweighted given named

theorem weighs_iff : Weighs parameters w ↔ (parameters.findSome? parameterWeight?).getD 1000 = w := by
  induction parameters with
  | nil =>
    constructor
    · rintro ⟨⟩
      rfl
    · rintro rfl
      exact .unweighted
  | cons parameter others ih =>
    cases read : parameterWeight? parameter with
    | none =>
      have different := parameterWeight?_eq_none_iff.mp read
      rw [List.findSome?_cons_of_isNone (by simp [read]), ← ih]
      constructor
      · intro weighs
        cases weighs with
        | weighted named => exact absurd named (different _)
        | passed _ weighs => exact weighs
      · exact .passed different
    | some first =>
      rw [List.findSome?_cons, read, Option.getD_some]
      constructor
      · intro weighs
        cases weighs with
        | weighted named =>
          have given := parameterWeight?_eq_some_iff.mpr ⟨_,named,rfl⟩
          exact Option.some.inj (read.symm.trans given)
        | passed different _ =>
          rw [parameterWeight?_eq_none_iff.mpr different] at read
          cases read
      · rintro rfl
        obtain ⟨given,named,rfl⟩ := parameterWeight?_eq_some_iff.mp read
        exact .weighted named

theorem ofItem?_eq_some_iff : ofItem? item = some (w,value) ↔ Accepts item w value := by
  cases parts : item.splitOn ';' with
  | nil => exact absurd parts (List.splitOn_ne_nil ';' item)
  | cons front parameters =>
    simp only [ofItem?, parts, List.headD_cons, List.tail_cons]
    constructor
    · intro kept
      split at kept
      · cases kept
      next holds =>
        cases kept
        simp only [Bool.or_eq_true, List.isEmpty_iff, beq_iff_eq, not_or] at holds
        have padded : Padded (String.ofList (trim front)).toList front := by
          rw [String.toList_ofList]
          exact padded_trim front
        refine ⟨⟨front,parameters,parts,padded,weighs_iff.mpr rfl⟩,?_,holds.2⟩
        simpa using holds.1
    · rintro ⟨⟨front,parameters,same,padded,weighs⟩,filled,weighted⟩
      cases parts.symm.trans same
      rw [trim_of_padded padded, weighs_iff.mp weighs, String.ofList_toList]
      exact if_neg (by simp [filled, weighted])

theorem collected_iff : Collected items accepted ↔ items.filterMap ofItem? = accepted := by
  induction items generalizing accepted with
  | nil =>
    constructor
    · rintro ⟨⟩
      rfl
    · rintro rfl
      exact .nil
  | cons item items ih =>
    cases read : ofItem? item with
    | none =>
      have refused : ∀ w value, ¬Accepts item w value := fun w value accepts => by
        rw [ofItem?_eq_some_iff.mpr accepts] at read
        cases read
      rw [List.filterMap_cons_none read, ← ih]
      constructor
      · intro collected
        cases collected with
        | keep accepts _ => exact absurd accepts (refused _ _)
        | drop _ others => exact others
      · exact .drop refused
    | some pair =>
      have accepts := ofItem?_eq_some_iff.mp read
      rw [List.filterMap_cons_some read]
      constructor
      · intro collected
        cases collected with
        | keep also others =>
          rw [ofItem?_eq_some_iff.mpr also] at read
          rw [← Option.some.inj read, ih.mp others]
        | drop refused _ => exact absurd accepts (refused _ _)
      · rintro rfl
        exact .keep accepts (ih.mpr rfl)

theorem ranking_mergeSort (accepted : List (Nat × String)) :
    Ranking accepted (accepted.mergeSort fun a b => a.1 ≥ b.1) := by
  have trans (a b c : Nat × String) (ab : decide (a.1 ≥ b.1) = true) (bc : decide (b.1 ≥ c.1) = true) :
      decide (a.1 ≥ c.1) = true := by
    simp only [decide_eq_true_eq] at ab bc ⊢
    omega
  have total (a b : Nat × String) : (decide (a.1 ≥ b.1) || decide (b.1 ≥ a.1)) = true := by
    simp only [Bool.or_eq_true, decide_eq_true_eq]
    omega
  have perm := List.mergeSort_perm accepted fun a b => a.1 ≥ b.1
  refine ⟨perm,?_,fun w => ?_⟩
  · exact (List.pairwise_mergeSort trans total accepted).imp fun falls => of_decide_eq_true falls
  · -- Items of one weight are sorted already, so they stay a part of what is sorted.
    have level : (accepted.filter (·.1 = w)).Pairwise fun a b => decide (a.1 ≥ b.1) = true := by
      refine List.pairwise_of_forall_mem_list fun a inA b inB => ?_
      have weightA := (List.mem_filter.mp inA).2
      have weightB := (List.mem_filter.mp inB).2
      simp only [decide_eq_true_eq] at weightA weightB ⊢
      omega
    have kept := (List.sublist_mergeSort trans total level List.filter_sublist).filter (·.1 = w)
    simp only [List.filter_filter, Bool.and_self] at kept
    exact (kept.eq_of_length (perm.filter _).length_eq.symm).symm

theorem mem_iff_of_agree {order other : List (Nat × String)}
    (agree : ∀ w, order.filter (·.1 = w) = other.filter (·.1 = w)) (pair : Nat × String) :
    pair ∈ order ↔ pair ∈ other := by
  have members := congrArg (pair ∈ ·) (agree pair.1)
  simpa using members

theorem eq_of_falling {order other : List (Nat × String)} (falling : order.Pairwise fun a b => b.1 ≤ a.1)
    (falls : other.Pairwise fun a b => b.1 ≤ a.1)
    (agree : ∀ w, order.filter (·.1 = w) = other.filter (·.1 = w)) : order = other := by
  induction order generalizing other with
  | nil =>
    refine (List.eq_nil_iff_forall_not_mem.mpr fun pair mem => ?_).symm
    exact List.not_mem_nil ((mem_iff_of_agree agree pair).mpr mem)
  | cons a order ih =>
    have same := mem_iff_of_agree agree
    cases other with
    | nil => exact absurd ((same a).mp List.mem_cons_self) List.not_mem_nil
    | cons b other =>
      have above : b.1 ≤ a.1 := by
        rcases List.mem_cons.mp ((same b).mpr List.mem_cons_self) with rfl | inside
        · exact Nat.le_refl _
        · exact List.rel_of_pairwise_cons falling inside
      have below : a.1 ≤ b.1 := by
        rcases List.mem_cons.mp ((same a).mp List.mem_cons_self) with rfl | inside
        · exact Nat.le_refl _
        · exact List.rel_of_pairwise_cons falls inside
      have level : b.1 = a.1 := Nat.le_antisymm above below
      have first := agree a.1
      simp only [List.filter_cons, level, decide_true, if_true] at first
      obtain rfl : a = b := (List.cons.inj first).1
      refine congrArg (a :: ·) (ih falling.of_cons falls.of_cons fun w => ?_)
      have rest := agree w
      by_cases here : a.1 = w
      · simpa [List.filter_cons, here] using rest
      · simpa [List.filter_cons, here] using rest

theorem Ranking.unique {other : List (Nat × String)} (ranking : Ranking accepted order)
    (also : Ranking accepted other) : order = other :=
  eq_of_falling ranking.falling also.falling fun w => (ranking.stable w).trans (also.stable w).symm

end Items

theorem ranked_iff {lines values : List String} : ranked lines = values ↔
    ∃ accepted order, Collected (lines.flatMap fun line => line.toList.splitOn ',') accepted ∧
      Ranking accepted order ∧ values = order.map (·.2) := by
  have sent : items lines = (lines.flatMap fun line => line.toList.splitOn ',').filterMap ofItem? :=
    List.filterMap_flatMap.symm
  constructor
  · rintro rfl
    exact ⟨items lines,_,collected_iff.mpr sent.symm,ranking_mergeSort _,rfl⟩
  · rintro ⟨accepted,order,collected,ranking,rfl⟩
    rw [ranked, sent, collected_iff.mp collected, (ranking_mergeSort accepted).unique ranking]

end Preference

namespace Locale

/-- How a tag says a language and perhaps a country: they are parted by its first hyphen. -/
inductive Means : List Char → Locale → Prop
  | language {text language : List Char} (unparted : '-' ∉ text) (padded : Padded language text) :
      Means text ⟨String.ofList language,none⟩
  | country {left right language country : List Char} (first : '-' ∉ left) (before : Padded language left)
      (behind : Padded country right) (filled : country ≠ []) :
      Means (left ++ '-' :: right) ⟨String.ofList language,some (String.ofList country)⟩
  | blank {left right language : List Char} (first : '-' ∉ left) (before : Padded language left)
      (behind : Blank right) : Means (left ++ '-' :: right) ⟨String.ofList language,none⟩

theorem means_ofTag (tag : String) : Means tag.toList (ofTag tag) := by
  unfold ofTag
  split
  next left right cut =>
    obtain ⟨parts,first⟩ := cutAt_some cut
    rw [parts]
    dsimp only
    split
    next empty =>
      have gone : trim right = [] := by simpa using empty
      exact .blank first (padded_trim left) (trim_eq_nil_iff.mp gone)
    next filled => exact .country first (padded_trim left) (padded_trim right) (by simpa using filled)
  next cut => exact .language (cutAt_none cut) (padded_trim _)

theorem ofTag_of_means {text : List Char} {locale : Locale} (means : Means text locale) :
    ofTag (String.ofList text) = locale := by
  cases means with
  | language unparted padded =>
    simp [ofTag, cutAt_of_not_mem unparted, trimText, trim_of_padded padded]
  | country first before behind filled =>
    simp [ofTag, cutAt_append first, trim_of_padded before, trim_of_padded behind, filled]
  | blank first before behind =>
    simp [ofTag, cutAt_append first, trim_of_padded before, trim_of_blank behind]

theorem ofTag_eq_iff {tag : String} {locale : Locale} : ofTag tag = locale ↔ Means tag.toList locale := by
  constructor
  · rintro rfl
    exact means_ofTag tag
  · intro means
    rw [← ofTag_of_means means, String.ofList_toList]

end Locale

end HttpRequest
