import HttpRequest.Proofs.Attribute.Ownership
import HttpRequest.Proofs.Attribute.Visibility
import HttpRequest.Proofs.Dispatch.Passage
import HttpRequest.Scripted.Collaborators
import Mathlib.Data.List.Induction

/-! # What observers of attributes are told

A request goes on while attributes are set and removed, inside dispatches and out of them. An observer
that has been there from the start, when there were no attributes, is told of each of these deeds by the
one event that its history calls for, and of nothing else. So whoever replays the events knows at every
moment which names can be read, those of the dispatches apart.
-/
namespace HttpRequest

open Request

namespace AttributeEvent

def name : AttributeEvent → String
  | added name _ | replaced name _ | removed name _ => name

/-- The names that are there after an event, given those before. -/
def replay (names : List String) : AttributeEvent → List String
  | added name _ => name :: names
  | replaced _ _ => names
  | removed name _ => names.filter (· ≠ name)

theorem mem_replay_of_ne {event : AttributeEvent} {other : String} (apart : event.name ≠ other) (names : List String) :
    other ∈ event.replay names ↔ other ∈ names := by
  cases event with
  | added name value =>
    have other : other ≠ name := Ne.symm apart
    simp [replay, other]
  | replaced name old => rfl
  | removed name old =>
    have other : other ≠ name := Ne.symm apart
    simp [replay, other]

theorem mem_replay_congr {names others : List String} {name : String} (same : name ∈ names ↔ name ∈ others)
    (event : AttributeEvent) : name ∈ event.replay names ↔ name ∈ event.replay others := by
  cases event <;> simp [replay, same]

end AttributeEvent

def replayed (events : List AttributeEvent) : List String :=
  events.foldl AttributeEvent.replay []

@[simp]
theorem replayed_append (events more : List AttributeEvent) :
    replayed (events ++ more) = more.foldl AttributeEvent.replay (replayed events) :=
  List.foldl_append

theorem mem_replayed_filter {p : String → Bool} {name : String} (kept : p name = true) (events : List AttributeEvent) :
    name ∈ replayed (events.filter fun event => p event.name) ↔ name ∈ replayed events := by
  induction events using List.reverseRecOn with
  | nil => rfl
  | append_singleton events event ih =>
    rw [List.filter_append, replayed_append, replayed_append]
    cases told : p event.name with
    | true =>
      have stays : [event].filter (fun event => p event.name) = [event] := by simp [told]
      rw [stays]
      exact AttributeEvent.mem_replay_congr ih event
    | false =>
      have goes : [event].filter (fun event => p event.name) = [] := by simp [told]
      have apart : event.name ≠ name := by
        rintro rfl
        exact Bool.false_ne_true (told.symm.trans kept)
      rw [goes]
      exact ih.trans (AttributeEvent.mem_replay_of_ne apart _).symm

inductive Deed where
  | set (name : String) (value : AttributeValue)
  | remove (name : String)

namespace Deed

open AttributeEvent (replay)

def name : Deed → String
  | set name _ | remove name => name

def value? : Deed → Option AttributeValue
  | set _ value => some value
  | remove _ => none

def operation {E : Type} : Deed → Operation E
  | set name value => .setAttribute name value
  | remove name => .removeAttribute name

/-- The value last set under a name and not removed since; the deeds are given the latest first. -/
def lastSet (name : String) : List Deed → Option AttributeValue
  | [] => none
  | deed :: earlier => if deed.name = name then deed.value? else lastSet name earlier

def event? (old : Option AttributeValue) : Deed → Option AttributeEvent
  | set name value => some (old.elim (.added name value) (.replaced name))
  | remove name => old.map (.removed name)

def story : List Deed → List AttributeEvent
  | [] => []
  | deed :: earlier => story earlier ++ (deed.event? (lastSet deed.name earlier)).toList

theorem name_of_event? {deed : Deed} {old : Option AttributeValue} {event : AttributeEvent}
    (told : deed.event? old = some event) : event.name = deed.name := by
  cases deed with
  | set name value => cases old <;> cases told <;> rfl
  | remove name =>
    obtain ⟨_,-,rfl⟩ := Option.map_eq_some_iff.mp told
    rfl

theorem mem_replayed_story (name : String) (deeds : List Deed) :
    name ∈ replayed (story deeds) ↔ (lastSet name deeds).isSome := by
  -- By induction on the deeds: replaying the story of a name tells whether it has a value.
  induction deeds with
  | nil => simp [story, replayed, lastSet]
  | cons deed earlier ih =>
    rw [story, replayed_append, lastSet]
    by_cases same : deed.name = name
    · subst same
      rw [if_pos rfl]
      generalize lastSet deed.name earlier = old at ih
      cases deed <;> cases old <;> simp_all [event?, replay, Deed.name, value?]
    · rw [if_neg same, ← ih]
      cases told : deed.event? (lastSet deed.name earlier) with
      | none => rfl
      | some event => exact AttributeEvent.mem_replay_of_ne (by rwa [name_of_event? told]) _

end Deed

namespace Transcript
variable {E : Type} {listener : ObserverKey}

def heard? (listener : ObserverKey) : Notice → Option AttributeEvent
  | .notified observer event => if observer = listener then some event else none
  | .continued _ => none

def heard (listener : ObserverKey) (t : Transcript E) : List AttributeEvent :=
  t.notices.filterMap (heard? listener)

theorem heard_told (notice : Notice) (t : Transcript E) :
    (t.told notice).heard listener = t.heard listener ++ (heard? listener notice).toList :=
  filterMap_told (heard? listener) notice t

theorem heard_notify [AttributeObservers E] (observer : ObserverKey) (event : AttributeEvent) (t : Transcript E) :
    (AttributeObservers.notify observer event t).heard listener =
      t.heard listener ++ List.replicate ([observer].count listener) event := by
  refine (heard_told (.notified observer event) t).trans ?_
  by_cases same : observer = listener <;> simp [heard?, same]

theorem heard_notifyAll [AttributeObservers E] (r : Request) (event : AttributeEvent) (t : Transcript E) :
    (r.notifyAll event t).heard listener = t.heard listener ++ List.replicate (r.observers.count listener) event := by
  unfold notifyAll
  induction r.observers generalizing t with
  | nil => simp
  | cons observer rest ih =>
    rw [List.foldl_cons, ih, heard_notify, List.append_assoc, List.replicate_append_replicate, ← List.count_append]
    rfl

def SameHearing (listener : ObserverKey) (before after : Transcript E) : Prop :=
  after.heard listener = before.heard listener

theorem SameHearing.trans {a b c : Transcript E} (first : SameHearing listener a b) (second : SameHearing listener b c) :
    SameHearing listener a c :=
  Eq.trans second first

theorem sameHearing_of_notices {t t' : Transcript E} (same : t'.notices = t.notices) : SameHearing listener t t' :=
  congrArg (List.filterMap _) same

theorem sameHearing_of_called [Body.ExternalSources E] {t t' : Transcript E} (called : Body.Called t t') :
    SameHearing listener t t' := by
  rcases notices_of_called called with same | ⟨source,same⟩
  · exact sameHearing_of_notices same
  · have silent : (t.told (.continued source)).heard listener = t.heard listener := by simp [heard_told, heard?]
    exact (congrArg (List.filterMap _) same).trans silent

end Transcript

namespace Attributes
variable {name : String}

theorem not_hidden_of_free (free : isReserved name = false) (a : Attributes) : ¬a.Hidden name := by
  rintro ⟨space,held,-⟩
  exact Bool.false_ne_true ((not_holds_of_not_isReserved free space).symm.trans held)

theorem held_of_free (free : isReserved name = false) (a : Attributes) : a.held name = a.get? name := by
  obtain ⟨layers,base⟩ := a
  induction layers with
  | nil => rfl
  | cons layer below ih =>
    have foreign : layer.space.field? name = none :=
      Space.field?_of_not_holds (not_holds_of_not_isReserved free layer.space)
    rw [held_foreign foreign, ih]
    exact (getThrough_of_not_isReserved free).symm

theorem get?_push_of_free (free : isReserved name = false) (a : Attributes) (space : Space) (record : DispatchRecord) :
    (a.push space record).get? name = a.get? name :=
  getThrough_of_not_isReserved free

theorem get?_pop_of_free (free : isReserved name = false) (a : Attributes) : a.pop.2.get? name = a.get? name := by
  obtain ⟨layers,base⟩ := a
  cases layers with
  | nil => rfl
  | cons layer below => exact (getThrough_of_not_isReserved free).symm

end Attributes

namespace Deed
variable {E : Type} [Body.ExternalSources E] [SessionStores E] [LoginServices E] [AttributeObservers E]
  {listener : ObserverKey}

def reported (a : Attributes) : Deed → Option AttributeEvent
  | set name value => setEvent? name (a.put name (some value)).1 ((a.put name (some value)).2.get? name)
  | remove name => (a.put name none).1.map (.removed name)

theorem name_of_reported {deed : Deed} {a : Attributes} {event : AttributeEvent}
    (reports : deed.reported a = some event) : event.name = deed.name := by
  cases deed with
  | set name value =>
    simp only [reported, setEvent?] at reports
    split at reports
    · cases reports
      rfl
    · obtain ⟨_,-,rfl⟩ := Option.map_eq_some_iff.mp reports
      rfl
  | remove name =>
    obtain ⟨_,-,rfl⟩ := Option.map_eq_some_iff.mp reports
    rfl

theorem reported_of_free {deed : Deed} (free : isReserved deed.name = false) (a : Attributes) :
    deed.reported a = deed.event? (a.get? deed.name) := by
  have answer (value : Option AttributeValue) : (a.put deed.name value).1 = a.get? deed.name :=
    (a.put_held deed.name value).1.trans (a.held_of_free free)
  cases deed with
  | set name value =>
    have read : (a.put name (some value)).2.get? name = some value :=
      (a.get?_put_same name (some value)).trans (if_neg (a.not_hidden_of_free free))
    simp only [reported, Deed.name, read] at answer ⊢
    rw [answer]
    cases a.get? name <;> rfl
  | remove name => exact congrArg (Option.map _) (answer none)

theorem operation_attributes (deed : Deed) (s : Request × E) :
    (deed.operation.run s).1.attributes = (s.1.attributes.put deed.name deed.value?).2 := by
  cases deed with
  | set name value =>
    obtain ⟨_,same⟩ := setAttribute_cases name value s
    exact congrArg Request.attributes same
  | remove name =>
    obtain ⟨_,same⟩ := removeAttribute_cases name s
    exact congrArg Request.attributes same

theorem operation_observers (deed : Deed) (s : Request × E) :
    (deed.operation.run s).1.observers = s.1.observers := by
  cases deed <;> exact (Operation.run_rest _ s).observers rfl

theorem operation_heard (deed : Deed) {s : Request × Transcript E} (once : s.1.observers.count listener = 1) :
    (deed.operation.run s).2.heard listener = s.2.heard listener ++ (deed.reported s.1.attributes).toList := by
  have told {r : Request} (same : r.observers = s.1.observers) (event : AttributeEvent) :
      (r.notifyAll event s.2).heard listener = s.2.heard listener ++ [event] := by
    rw [Transcript.heard_notifyAll, same, once]
    rfl
  cases deed with
  | set name value =>
    obtain ⟨_,encoded⟩ := applyQueryEncoding_cases s.1 name value
    show (setAttribute name value s).2.heard listener = _
    unfold setAttribute
    dsimp only
    rw [encoded]
    split
    next event reports =>
      have reported : (set name value).reported s.1.attributes = some event := reports
      rw [reported]
      exact told rfl event
    next silent =>
      have reported : (set name value).reported s.1.attributes = none := silent
      rw [reported]
      exact (List.append_nil _).symm
  | remove name =>
    have encoded : ∃ queryCharset, (if name = queryEncodingName then { s.1 with queryCharset := none } else s.1) =
        { s.1 with queryCharset } := by
      split
      · exact ⟨none,rfl⟩
      · exact ⟨s.1.queryCharset,rfl⟩
    obtain ⟨_,encoded⟩ := encoded
    show (removeAttribute name s).2.2.heard listener = _
    unfold removeAttribute
    dsimp only
    rw [encoded]
    split
    next value reports =>
      have reported : (remove name).reported s.1.attributes = some (.removed name value) :=
        congrArg (Option.map _) reports
      rw [reported]
      exact told rfl _
    next silent =>
      have reported : (remove name).reported s.1.attributes = none := congrArg (Option.map _) silent
      rw [reported]
      exact (List.append_nil _).symm

end Deed

open Transcript (SameHearing)

section Course
variable {E : Type} [UriGrammar] [Body.ExternalSources E] [SessionStores E] [LoginServices E] [AttributeObservers E]
  [ResponseControl E] {listener : ObserverKey} {s t u : Request × Transcript E} {deeds : List Deed}

/-- The operation changes no attributes, does not add the observer once more, and what it does at will does
not touch what the observer has heard. -/
structure Quiet (listener : ObserverKey) (op : Operation (Transcript E)) : Prop where
  changes : op.changesAttributes = false
  adds : op ≠ .addObserver listener
  wills : op.WillsWithin (SameHearing listener)

/-- From a state to a later one the observer has heard nothing and had nothing to hear. -/
structure Untold (listener : ObserverKey) (s t : Request × Transcript E) : Prop where
  audience : t.1.observers.count listener = s.1.observers.count listener
  heard : SameHearing listener s.2 t.2
  held : ∀ name, isReserved name = false → t.1.attribute? name = s.1.attribute? name

omit [UriGrammar] [ResponseControl E] in
theorem untold_operation {op : Operation (Transcript E)} (quiet : Quiet listener op) (s : Request × Transcript E) :
    Untold listener s (op.run s) := by
  have rest := op.run_rest s
  have audience : (op.run s).1.observers.count listener = s.1.observers.count listener := by
    cases adds : op.addsObserver with
    | false => rw [rest.observers adds]
    | true =>
      cases op with
      | addObserver key =>
        have apart : key ≠ listener := fun same => quiet.adds (congrArg _ same)
        simp [Operation.run, List.count_append, apart]
      | _ => cases adds
  have silent : op.changesAttributes ≠ true := by simp [quiet.changes]
  have heard : SameHearing listener s.2 (op.run s).2 :=
    op.run_environment_within (Q := SameHearing listener) (fun _ => rfl) .trans quiet.wills
      (fun _ _ _ => Transcript.sameHearing_of_called) (fun _ _ _ _ => rfl) (fun _ _ _ => rfl) (absurd · silent)
      (fun _ _ _ asked => Transcript.sameHearing_of_notices (Transcript.notices_of_asked asked)) s
  exact ⟨audience,heard,fun name _ => congrArg (·.get? name) (rest.attributes quiet.changes)⟩

theorem carries_untold : Carries (Quiet listener) (Untold (E := E) listener) where
  refl s := ⟨rfl,rfl,fun _ _ => rfl⟩
  trans first second :=
    ⟨second.audience.trans first.audience,first.heard.trans second.heard,
      fun name free => (second.held name free).trans (first.held name free)⟩
  operation s quiet := untold_operation quiet s
  described r method target version headers e := by
    rw [withMetadata_eq]
    cases r.requestLine method target headers <;> exact ⟨rfl,rfl,fun _ _ => rfl⟩
  responded r _ _ responded :=
    ⟨rfl,Transcript.sameHearing_of_notices (Transcript.notices_of_responded responded),fun _ _ => rfl⟩
  entered := by
    intro r called d way e found
    cases found with
    | included _ record known =>
      refine ⟨rfl,rfl,fun name free => ?_⟩
      cases d with
      | named target => rfl
      | path uri contextPath pathInContext => exact Attributes.get?_push_of_free free _ _ _
    | named target handsOver => exact ⟨rfl,rfl,fun _ _ => rfl⟩
    | moved uri contextPath pathInContext handsOver merged =>
      exact ⟨rfl,rfl,fun name free => Attributes.get?_push_of_free free _ _ _⟩
  unmerged r e := ⟨rfl,rfl,fun _ _ => rfl⟩
  restored t way caller left e := by
    refine ⟨?_,rfl,fun name free => ?_⟩
    · cases way <;> cases t <;> rfl
    · cases way <;> cases t <;> first | rfl | exact Attributes.get?_pop_of_free free _

/-- From a state on deeds are done, the latest first, one after another and at any depth. -/
inductive Chronicle (listener : ObserverKey) (s : Request × Transcript E) : List Deed → Request × Transcript E → Prop
  | begins {t : Request × Transcript E} (on : Proceeds (Quiet listener) s t) : Chronicle listener s [] t
  | goesOn {t u : Request × Transcript E} {deeds : List Deed} (before : Chronicle listener s deeds t) (deed : Deed)
      (on : Proceeds (Quiet listener) (deed.operation.run t) u) : Chronicle listener s (deed :: deeds) u

theorem Chronicle.proceed (before : Chronicle listener s deeds t) (on : Proceeds (Quiet listener) t u) :
    Chronicle listener s deeds u := by
  cases before with
  | begins first => exact .begins (first.trans on)
  | goesOn before deed first => exact .goesOn before deed (first.trans on)

/-- What an observer knows after some deeds: it has heard their story, names of the dispatches apart, and the
values that can be read are those last set. -/
structure Informed (listener : ObserverKey) (deeds : List Deed) (s : Request × Transcript E) : Prop where
  once : s.1.observers.count listener = 1
  heard : (s.2.heard listener).filter (fun event => !isReserved event.name) =
    (Deed.story deeds).filter fun event => !isReserved event.name
  held : ∀ name, isReserved name = false → s.1.attribute? name = Deed.lastSet name deeds

theorem Informed.proceed (informed : Informed listener deeds s) (on : Proceeds (Quiet listener) s t) :
    Informed listener deeds t := by
  have untold := carries_untold.proceeds on
  refine ⟨untold.audience.trans informed.once,?_,fun name free => (untold.held name free).trans (informed.held name free)⟩
  rw [untold.heard]
  exact informed.heard

omit [UriGrammar] [ResponseControl E] in
theorem Informed.deed (informed : Informed listener deeds s) (deed : Deed) :
    Informed listener (deed :: deeds) (deed.operation.run s) := by
  refine ⟨?_,?_,fun name free => ?_⟩
  · rw [deed.operation_observers]
    exact informed.once
  · rw [deed.operation_heard informed.once, Deed.story, List.filter_append, List.filter_append, informed.heard]
    congr 1
    cases free : isReserved deed.name with
    | false => rw [deed.reported_of_free free, ← Request.attribute?, informed.held _ free]
    | true =>
      have passed {told : Option AttributeEvent} (named : ∀ event, told = some event → event.name = deed.name) :
          told.toList.filter (fun event => !isReserved event.name) = [] := by
        cases told with
        | none => rfl
        | some event => simp [named event rfl, free]
      rw [passed fun _ => Deed.name_of_reported, passed fun _ => Deed.name_of_event?]
  · rw [Request.attribute?, deed.operation_attributes, Deed.lastSet]
    by_cases same : deed.name = name
    · subst same
      rw [if_pos rfl, Attributes.get?_put_same, if_neg (s.1.attributes.not_hidden_of_free free)]
    · rw [if_neg same, ← informed.held name free]
      exact Attributes.get?_put_of_ne deed.name deed.value? (Ne.symm same) s.1.attributes 0

theorem Chronicle.informed (chronicle : Chronicle listener s deeds t) (informed : Informed listener [] s) :
    Informed listener deeds t := by
  induction chronicle with
  | begins on => exact informed.proceed on
  | goesOn before deed on ih => exact (ih.deed deed).proceed on

theorem Chronicle.dispatch (before : Chronicle listener s deeds t) (way : DispatchWay) (d : DispatchTarget)
    (handler : Handler (Transcript E))
    (inside : ∀ called, d.enter way t = .ok called → Chronicle listener s deeds called →
      ∃ more, Chronicle listener s (more ++ deeds) (handler d.text called).2) :
    ∃ more, Chronicle listener s (more ++ deeds) (d.run way handler t).2 := by
  cases entered : d.enter way t with
  | ok called =>
    obtain ⟨more,inner⟩ := inside called entered (before.proceed (.called .here entered))
    rw [DispatchTarget.run_of_enter entered]
    exact ⟨more,inner.proceed (.returned way d t.1 _ .here)⟩
  | error f => exact ⟨[],before.proceed (.refused .here entered handler)⟩

/-- What a handler may do with attributes in view: deeds, and what is quiet. -/
def Handles (listener : ObserverKey) (op : Operation (Transcript E)) : Prop :=
  Quiet listener op ∨ ∃ deed : Deed, op = deed.operation

theorem Chronicle.perform {op : Operation (Transcript E)} (before : Chronicle listener s deeds t)
    (handles : Handles listener op) : ∃ more, Chronicle listener s (more ++ deeds) (op.run t) := by
  rcases handles with quiet | ⟨deed,rfl⟩
  · exact ⟨[],before.proceed (.performed quiet .here)⟩
  · exact ⟨[deed],before.goesOn deed .here⟩

theorem Chronicle.run {p : Program (Transcript E)} (before : Chronicle listener s deeds t)
    (stays : p.Stays (Handles listener) t) : ∃ more, Chronicle listener s (more ++ deeds) (p.run t).2 := by
  -- By induction on the program: whatever its operations and its handlers do to attributes is
  -- one of the deeds.
  induction p generalizing t deeds with
  | done outcome => exact ⟨[],before⟩
  | perform op next ih =>
    obtain ⟨first,done⟩ := before.perform stays.1
    obtain ⟨more,after⟩ := ih _ _ done stays.2
    rw [← List.append_assoc] at after
    exact ⟨_,after⟩
  | dispatch way d handler next inner ih =>
    obtain ⟨first,ended⟩ := before.dispatch way d (Program.handling handler) fun called entered within =>
      inner d.text within (stays.1 called entered)
    obtain ⟨more,after⟩ := ih _ _ _ ended stays.2
    rw [← List.append_assoc] at after
    exact ⟨_,after⟩

theorem Chronicle.reaches {p : Program (Transcript E)} {nest : List (Entered (Transcript E))}
    (m : p.Reaches (Handles listener) t nest u) (before : Chronicle listener s deeds t) :
    ∃ more, Chronicle listener s (more ++ deeds) u := by
  induction m generalizing deeds with
  | now p t => exact ⟨[],before⟩
  | performed fine later ih =>
    obtain ⟨first,done⟩ := before.perform fine
    obtain ⟨more,after⟩ := ih done
    rw [← List.append_assoc] at after
    exact ⟨_,after⟩
  | within entered inside ih => exact ih (before.proceed (.called .here entered))
  | @returned way d handler next t left u outcome nest ends fine later ih =>
    obtain ⟨first,ended⟩ := before.dispatch way d (Program.handling handler) fun called entered within =>
      within.run (fine called entered)
    rw [ends] at ended
    obtain ⟨more,after⟩ := ih ended
    rw [← List.append_assoc] at after
    exact ⟨_,after⟩

/-- An observer is added while there are no attributes but those of dispatches. After any deeds, in any
dispatches and however those have ended, it has been told the story of the deeds; the value of a name is the
one last set; and the names that can be read are those that the events, replayed, leave. -/
theorem history_told (unlistened : listener ∉ s.1.observers) (unheard : s.2.heard listener = [])
    (bare : ∀ name, isReserved name = false → s.1.attribute? name = none)
    (chronicle : Chronicle listener ((Operation.addObserver listener).run s) deeds t) :
    (t.2.heard listener).filter (fun event => !isReserved event.name) =
        (Deed.story deeds).filter (fun event => !isReserved event.name) ∧
      ∀ name, isReserved name = false → t.1.attribute? name = Deed.lastSet name deeds ∧
        (name ∈ replayed (t.2.heard listener) ↔ (t.1.attribute? name).isSome) := by
  have start : Informed listener [] ((Operation.addObserver listener).run s) := by
    refine ⟨?_,congrArg (List.filter _) unheard,bare⟩
    simp [Operation.run, List.count_append, List.count_eq_zero.mpr unlistened]
  have informed := chronicle.informed start
  refine ⟨informed.heard,fun name free => ⟨informed.held name free,?_⟩⟩
  have unreserved : (!isReserved name) = true := by simp [free]
  have replay := mem_replayed_filter (p := fun name => !isReserved name) unreserved
  rw [informed.held name free, ← Deed.mem_replayed_story, ← replay, informed.heard, replay]

end Course

open CommonGrammar

def bareRequest : Request × Transcript (Scripted.Environment Unit) :=
  ({ body := .new 30000 },{ env := { kept := () } })

/-- An attribute is set, set again in an include that fails, and removed after it, twice. -/
theorem failedInclude_told : ∃ t,
    Chronicle ⟨0⟩ ((Operation.addObserver ⟨0⟩).run bareRequest)
      [.remove "seen",.remove "seen",.set "seen" (.text "second"),.set "seen" (.text "first")] t ∧
    (t.2.heard ⟨0⟩).filter (fun event => !isReserved event.name) =
      [.added "seen" (.text "first"),.replaced "seen" (.text "first"),.removed "seen" (.text "second")] ∧
    t.1.attribute? "seen" = none := by
  have free : isReserved "seen" = false := by decide
  obtain ⟨start,isStart⟩ : ∃ start, start = (Operation.addObserver ⟨0⟩).run bareRequest := ⟨_,rfl⟩
  obtain ⟨page,isPage⟩ : ∃ page : DispatchTarget, page = .path { path := "/page" } "" "/page" := ⟨_,rfl⟩
  obtain ⟨inside,entered⟩ : ∃ inside,
      page.enter .inclusion ((Deed.set "seen" (.text "first")).operation.run start) = .ok inside := by
    subst isPage
    exact ⟨_,rfl⟩
  have first : Chronicle ⟨0⟩ start _ _ := (Chronicle.begins .here).goesOn (.set "seen" (.text "first")) (.called .here entered)
  have second := first.goesOn (.set "seen" (.text "second"))
    (.returned .inclusion page bareRequest.1 (.failed (.illegalState "broken")) .here)
  have removed := (second.goesOn (.remove "seen") .here).goesOn (.remove "seen") .here
  rw [isStart] at removed
  obtain ⟨heard,held⟩ := history_told List.not_mem_nil rfl (fun _ _ => rfl) removed
  refine ⟨_,removed,heard.trans ?_,(held "seen" free).1⟩
  simp [Deed.story, Deed.event?, Deed.lastSet, Deed.name, Deed.value?, AttributeEvent.name, free]

end HttpRequest
