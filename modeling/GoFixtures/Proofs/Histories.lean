import GoFixtures.Proofs.Members
import Mathlib.Data.List.TakeWhile

/-!
# Histories of sum types

A model is filled by calls that come in any order. To its sum types a call is a sequence of two kinds of
events: a sum type is registered, or a record is assigned. What a sum type becomes is told by the events
alone.

* `registered`, `firstMember`: the sum types of a history, and the first record behind the first registration
  of a sum type that matches it.
* `Follows.step`, `follows_ofCalls`: one call keeps a model in line with its history, so any calls do.
* `assignEach_eq`: going through the sum types while their members change assigns each of them once.
* `first_match_wins`: what the calls do, and what that says of the model of declarations.
-/

namespace GoFixtures

open Go

/-- A call that changes a model. -/
inductive Call
  | registerSumType (sumType : String)
  | assignMember (record : String)
  | resolveSumTypes (records : List String)
  | addRecord (r : Record)
  | addEnumeration (e : Enumeration)
  | addAlias (a : Alias)

/-- What happens to the sum types. -/
inductive Event
  | registers (sumType : String)
  | assigns (record : String)
deriving DecidableEq

namespace Event

/-- The sum type that an event registers. -/
def registered? : Event → Option String
  | registers s => some s
  | assigns _ => none

/-- The record that an event assigns. -/
def assigned? : Event → Option String
  | registers _ => none
  | assigns record => some record

/-- A model after an event. -/
def apply (m : TypeModel) : Event → TypeModel
  | registers s => m.registerSumType s
  | assigns record => m.assignMember record

end Event

namespace Call

/-- A model after a call. -/
def apply (m : TypeModel) : Call → TypeModel
  | registerSumType s => m.registerSumType s
  | assignMember record => m.assignMember record
  | resolveSumTypes records => m.resolveSumTypes records
  | addRecord r => m.addRecord r
  | addEnumeration e => m.addEnumeration e
  | addAlias a => m.addAlias a

/-- The events of a call, in order. -/
def events : Call → List Event
  | registerSumType s => [.registers s]
  | assignMember record => [.assigns record]
  | resolveSumTypes records => records.map .assigns
  | addRecord _ | addEnumeration _ | addAlias _ => []

end Call

/-- The sum types that are registered, in order, with repetitions. -/
def registered (history : List Event) : List String := history.filterMap Event.registered?

/-- The first record behind the first registration of a sum type that matches it. -/
def firstMember (s : String) (history : List Event) : Option String :=
  ((history.dropWhile (· ≠ .registers s)).filterMap Event.assigned?).find? fun record => matchesMember s record

/-- A value is replaced where it stands. -/
theorem Entries.put_append_cons {α : Type} {done es : Entries α} {k : String} {v w : α} (h : k ∉ keys done) :
    put (done ++ (k, v) :: es) k w = done ++ (k, w) :: es := by
  induction done with
  | nil => exact if_pos rfl
  | cons e done ih =>
    rw [keys_cons, List.mem_cons, not_or] at h
    rw [List.cons_append, put, if_neg (Ne.symm h.1), ih h.2]
    rfl

section Histories

variable {s record : String} {history : List Event} {e : Event}

/-- A sum type is registered if an event says so. -/
theorem mem_registered_iff : s ∈ registered history ↔ .registers s ∈ history := by
  rw [registered, List.mem_filterMap]
  constructor
  · rintro ⟨e, he, hs⟩
    cases e with
    | registers t =>
      cases hs
      exact he
    | assigns record => cases hs
  · exact fun h => ⟨_, h, rfl⟩

theorem registered_append_registers : registered (history ++ [.registers s]) = registered history ++ [s] := by
  rw [registered, List.filterMap_append]
  rfl

theorem registered_append_assigns : registered (history ++ [.assigns record]) = registered history := by
  rw [registered, List.filterMap_append]
  exact List.append_nil _

/-- Nothing is left from the registration on if there has been none. -/
theorem dropWhile_eq_nil_iff : history.dropWhile (· ≠ .registers s) = [] ↔ s ∉ registered history := by
  rw [List.dropWhile_eq_nil_iff, mem_registered_iff]
  constructor
  · intro h hs
    have hself := h _ hs
    exact (of_decide_eq_true hself) rfl
  · intro h e he
    have hne : e ≠ .registers s := fun heq => h (heq ▸ he)
    simpa using hne

/-- Behind its registration a sum type listens to every event. -/
theorem firstMember_append (h : s ∈ registered history) :
    firstMember s (history ++ [e]) = (firstMember s history).or (e.assigned?.filter fun record =>
      matchesMember s record) := by
  have hne : (history.dropWhile (· ≠ .registers s)).isEmpty = false := by
    rw [List.isEmpty_eq_false_iff]
    exact fun hnil => dropWhile_eq_nil_iff.1 hnil h
  rw [firstMember, List.dropWhile_append, hne, if_neg Bool.false_ne_true, List.filterMap_append,
    List.find?_append, firstMember]
  congr 1
  cases e with
  | registers t => rfl
  | assigns record => cases hm : matchesMember s record <;> simp [Event.assigned?, Option.filter, hm]

/-- Before its registration it listens to none. -/
theorem firstMember_append_registers (h : s ∉ registered history) :
    firstMember s (history ++ [.registers s]) = none := by
  rw [firstMember, List.dropWhile_append, dropWhile_eq_nil_iff.2 h]
  simp [Event.assigned?]

end Histories

namespace TypeModel

variable {m : TypeModel} {s record : String} {history : List Event} {e : Event} {call : Call}

/-- The sum types of a model are those of a history, in the order of their first registrations, and each has
its first member. -/
structure Follows (m : TypeModel) (history : List Event) : Prop where
  keys : m.sumTypes.keys = (registered history).eraseDups
  members : ∀ s ∈ registered history, m.sumTypes.get? s = some (firstMember s history)

/-- A model that is filled by calls. -/
def ofCalls (calls : List Call) : TypeModel := calls.foldl Call.apply empty

/-- The sum types are changed by the events of a call. -/
theorem sumTypes_apply : (call.apply m).sumTypes = (call.events.foldl Event.apply m).sumTypes := by
  cases call with
  | resolveSumTypes records =>
    rw [Call.events, List.foldl_map]
    rfl
  | _ => rfl

/-- Registering a sum type again leaves its place as it is. -/
theorem keys_registerSumType :
    (m.registerSumType s).sumTypes.keys = if s ∈ m.sumTypes.keys then m.sumTypes.keys
      else m.sumTypes.keys ++ [s] := by
  rw [registerSumType]
  by_cases h : m.sumTypes.contains s
  · rw [if_pos h, if_pos (Catalogue.contains_iff_mem_keys.1 h)]
  · rw [if_neg h]
    exact Catalogue.keys_put

/-- Assigning a record registers nothing. -/
theorem keys_assignMember : (m.assignMember record).sumTypes.keys = m.sumTypes.keys := Catalogue.keys_mapWithKey

namespace Follows

/-- Only the sum types of a model follow a history. -/
theorem congr {m' : TypeModel} (h : m.Follows history) (hs : m'.sumTypes = m.sumTypes) : m'.Follows history :=
  ⟨by rw [hs]; exact h.keys, by rw [hs]; exact h.members⟩

/-- The sum types of the model are those that have been registered. -/
theorem mem_keys_iff (h : m.Follows history) : s ∈ m.sumTypes.keys ↔ s ∈ registered history := by
  rw [h.keys, List.mem_eraseDups]

theorem get?_eq_none (h : m.Follows history) (hs : s ∉ registered history) : m.sumTypes.get? s = none :=
  Entries.get?_eq_none_iff.2 fun hk => hs (h.mem_keys_iff.1 hk)

/-- A model that registers a sum type follows the history that says so. -/
theorem registers (h : m.Follows history) : (m.registerSumType s).Follows (history ++ [.registers s]) where
  keys := by
    rw [keys_registerSumType, registered_append_registers, List.eraseDups_append]
    by_cases hs : s ∈ registered history
    · rw [if_pos (h.mem_keys_iff.2 hs), h.keys]
      simp [List.removeAll, hs]
    · rw [if_neg (mt h.mem_keys_iff.1 hs), h.keys]
      simp [List.removeAll, hs, List.eraseDups_cons]
  members := by
    intro t ht
    rw [registered_append_registers, List.mem_append, List.mem_singleton] at ht
    rw [get?_registerSumType]
    by_cases hr : t ∈ registered history
    · rw [h.members t hr, firstMember_append hr, Option.some_or]
      exact congrArg some (Option.or_none).symm
    · obtain rfl := ht.resolve_left hr
      rw [h.get?_eq_none hr, firstMember_append_registers hr, if_pos rfl, Option.none_or]

/-- A model that is assigned a record follows the history that says so. -/
theorem assigns (h : m.Follows history) : (m.assignMember record).Follows (history ++ [.assigns record]) where
  keys := by rw [keys_assignMember, registered_append_assigns, h.keys]
  members := by
    intro t ht
    rw [registered_append_assigns] at ht
    rw [get?_assignMember, h.members t ht, firstMember_append ht]
    cases hm : matchesMember t record <;> simp [Event.assigned?, Option.filter, hm]

/-- **One event.** -/
theorem event (h : m.Follows history) : (e.apply m).Follows (history ++ [e]) := by
  cases e with
  | registers s => exact h.registers
  | assigns record => exact h.assigns

/-- A model follows the events of a call one by one. -/
theorem events {es : List Event} (h : m.Follows history) : (es.foldl Event.apply m).Follows (history ++ es) := by
  induction es generalizing m history with
  | nil => rwa [List.append_nil]
  | cons e es ih =>
    have hrest := ih (h.event (e := e))
    rwa [List.append_assoc, List.singleton_append] at hrest

/-- **One call.** -/
theorem step (h : m.Follows history) : (call.apply m).Follows (history ++ call.events) :=
  h.events.congr sumTypes_apply

end Follows

/-- **Any calls.** A model follows the history of the calls that filled it. -/
theorem follows_ofCalls (calls : List Call) : (ofCalls calls).Follows (calls.flatMap Call.events) := by
  have hrun : ∀ (calls : List Call) (m : TypeModel) (history : List Event), m.Follows history →
      (calls.foldl Call.apply m).Follows (history ++ calls.flatMap Call.events) := by
    intro calls
    induction calls with
    | nil =>
      intro m history h
      rwa [List.flatMap_nil, List.append_nil]
    | cons call calls ih =>
      intro m history h
      rw [List.flatMap_cons, ← List.append_assoc]
      exact ih _ _ h.step
  exact hrun calls empty [] ⟨rfl, fun s hs => nomatch hs⟩

/-! ### One assignment -/

/-- **What an assignment changes.** A record becomes the member of exactly the sum types that it changes, in
the order of their names. -/
theorem openFor_eq_filter : m.openFor record =
    m.sumTypes.keys.filter fun s => decide ((m.assignMember record).sumTypes.get? s ≠ m.sumTypes.get? s) := by
  rw [openFor, Catalogue.keys, Entries.keys, List.filter_map]
  congr 1
  refine List.filter_congr fun e he => ?_
  obtain ⟨s, member⟩ := e
  have hs : m.sumTypes.get? s = some member := Catalogue.mem_entries_iff.1 he
  rw [Function.comp_apply, get?_assignMember, hs]
  cases member <;> cases hm : matchesMember s record <;> simp [takesMember, hm]

/-- A sum type that is open for a record gets it. -/
theorem get?_of_mem_openFor (h : s ∈ m.openFor record) :
    (m.assignMember record).sumTypes.get? s = some (some record) := by
  obtain ⟨⟨t, member⟩, he, rfl⟩ := List.mem_map.1 h
  obtain ⟨he, htakes⟩ := List.mem_filter.1 he
  obtain ⟨hnone, hm⟩ := Bool.and_eq_true_iff.1 htakes
  obtain rfl := Option.isNone_iff_eq_none.1 hnone
  rw [get?_assignMember, Catalogue.mem_entries_iff.1 he, hm]
  rfl

/-- Assigns a record to one sum type, and notes the sum type if it takes the record. -/
def assignOne (record : String) (state : TypeModel × List String) (s : String) : TypeModel × List String :=
  if state.1.sumTypes.get? s = some none ∧ matchesMember s record then
    ({ state.1 with sumTypes := state.1.sumTypes.put s (some record) }, state.2 ++ [s])
  else state

/-- Assigns a record to the sum types, one after the other. -/
def assignEach (m : TypeModel) (record : String) : TypeModel × List String :=
  m.sumTypes.keys.foldl (assignOne record) (m, [])

/-- Between sum types that are done and sum types that follow, one of them takes the record or does not. -/
theorem assignOne_eq (record : String) (names : List String) {done es : Entries (Option String)}
    {member : Option String}
    (h : m.sumTypes.entries = done ++ (s, member) :: es) :
    ∃ c : Catalogue (Option String),
      c.entries = done ++ (s, if takesMember record s member then some record else member) :: es ∧
      assignOne record (m, names) s = ({ m with sumTypes := c }, names ++ if takesMember record s member then
        [s] else []) := by
  have hs : m.sumTypes.get? s = some member :=
    Catalogue.mem_entries_iff.1 (h ▸ List.mem_append_right _ List.mem_cons_self)
  have hdone : s ∉ Entries.keys done := by
    have hnodup := m.sumTypes.nodup
    rw [h, Entries.keys, List.map_append, List.nodup_append] at hnodup
    exact fun hk => hnodup.2.2 s hk s List.mem_cons_self rfl
  rw [assignOne, hs]
  cases htakes : takesMember record s member with
  | true =>
    obtain ⟨hnone, hm⟩ := Bool.and_eq_true_iff.1 htakes
    obtain rfl := Option.isNone_iff_eq_none.1 hnone
    refine ⟨m.sumTypes.put s (some record), ?_, if_pos ⟨rfl, hm⟩⟩
    change Entries.put m.sumTypes.entries s (some record) = _
    rw [h, Entries.put_append_cons hdone, if_pos rfl]
  | false =>
    refine ⟨m.sumTypes, h, ?_⟩
    rw [if_neg, if_neg Bool.false_ne_true, List.append_nil]
    rintro ⟨hnone, hm⟩
    obtain rfl := Option.some.inj hnone
    rw [takesMember, hm] at htakes
    cases htakes

/-- **Going through the sum types.** What an assignment changes on its way does not disturb it. -/
theorem assignEach_eq : m.assignEach record = (m.assignMember record, m.openFor record) := by
  -- the sum types that are done stand before those that follow
  have hloop : ∀ (es done : Entries (Option String)) (m : TypeModel) (names : List String), m.sumTypes.entries =
    done ++ es →
      ∃ c : Catalogue (Option String),
        c.entries = done ++ es.map (fun e => (e.1, if takesMember record e.1 e.2 then some record else e.2)) ∧
        (Entries.keys es).foldl (assignOne record) (m, names) =
          ({ m with sumTypes := c }, names ++ (es.filter fun e => takesMember record e.1 e.2).map Prod.fst) := by
    intro es
    induction es with
    | nil =>
      intro done m names h
      exact ⟨m.sumTypes, h, by rw [List.filter_nil, List.map_nil, List.append_nil]; rfl⟩
    | cons e es ih =>
      intro done m names h
      obtain ⟨s, member⟩ := e
      obtain ⟨c, hc, hone⟩ := assignOne_eq record names h
      rw [← List.singleton_append, ← List.append_assoc] at hc
      obtain ⟨d, hd, hrest⟩ := ih _ { m with sumTypes := c } _ hc
      refine ⟨d, ?_, ?_⟩
      · rw [hd, List.append_assoc, List.singleton_append, List.map_cons]
      · rw [Entries.keys_cons, List.foldl_cons, hone, hrest, List.append_assoc, List.filter_cons]
        cases takesMember record s member <;> rfl
  obtain ⟨c, hc, hall⟩ := hloop m.sumTypes.entries [] m [] rfl
  have hsums : c = (m.assignMember record).sumTypes := Catalogue.ext hc
  rw [assignEach, Catalogue.keys, hall, hsums]
  rfl

/-- A call that assigns nothing changes no member. -/
theorem get?_apply_of_no_assigns (h : ∀ record, Event.assigns record ∉ call.events) {member : Option String}
    (hs : m.sumTypes.get? s = some member) : (call.apply m).sumTypes.get? s = some member := by
  cases call with
  | registerSumType t => rw [Call.apply, get?_registerSumType, hs, Option.some_or]
  | assignMember record => exact absurd List.mem_cons_self (h record)
  | resolveSumTypes records =>
    cases records with
    | nil => exact hs
    | cons record records => exact absurd List.mem_cons_self (h record)
  | addRecord r => exact hs
  | addEnumeration e => exact hs
  | addAlias a => exact hs

end TypeModel

/-! ### Declarations -/

namespace DeclarationIndex

variable {index : DeclarationIndex} {scope : Scope} {registry : ExternalRegistry} {s : String}

/-- The calls that enter the sum types of declarations and then match the records against them. -/
def sumTypeCalls (index : DeclarationIndex) : List Call :=
  ((index.specs.filter declaresSumType).map fun spec => .registerSumType spec.name) ++
    [.resolveSumTypes ((index.specs.filter declaresRecord).map TypeSpec.name)]

/-- What becomes of sum types is told by the calls that an index makes. -/
theorem sumTypes_ofCalls : (index.toModel scope registry).sumTypes =
    (TypeModel.ofCalls index.sumTypeCalls).sumTypes := by
  rw [sumTypes_toModel, TypeModel.ofCalls, sumTypeCalls, List.foldl_append, List.foldl_map, List.foldl_map]
  rfl

/-- The first declaration of a record that matches a sum type. -/
theorem find?_records_eq :
    ((index.specs.filter declaresRecord).map TypeSpec.name).find? (fun record => matchesMember s record) =
      (index.specs.find? fun spec => declaresRecord spec && matchesMember s spec.name).map TypeSpec.name := by
  rw [List.find?_map, List.find?_filter]
  simp

end DeclarationIndex

/-- **The first match wins.** However a model is filled, its sum types are those that were registered, in the
order of their first registrations, and the member of each is the first record behind that registration that
matches it. An assignment names exactly the sum types that it changes, in order; calls that assign nothing
change no member. So in the model of declarations the member of a sum type is the first exported struct
without type parameters that matches it, wherever the sum type is declared. -/
theorem first_match_wins :
    (∀ calls : List Call,
      (TypeModel.ofCalls calls).sumTypes.keys = (registered (calls.flatMap Call.events)).eraseDups ∧
      ∀ s, (TypeModel.ofCalls calls).sumTypes.get? s =
        if s ∈ registered (calls.flatMap Call.events) then some (firstMember s (calls.flatMap Call.events))
          else none) ∧
    (∀ (m : TypeModel) (record : String),
      m.assignEach record = ((Call.assignMember record).apply m, m.openFor record) ∧
      (m.openFor record =
        m.sumTypes.keys.filter fun s =>
          decide (((Call.assignMember record).apply m).sumTypes.get? s ≠ m.sumTypes.get? s)) ∧
      ∀ s ∈ m.openFor record, ((Call.assignMember record).apply m).sumTypes.get? s = some (some record)) ∧
    (∀ (m : TypeModel) (call : Call), (∀ record, Event.assigns record ∉ call.events) →
      ∀ s member, m.sumTypes.get? s = some member → (call.apply m).sumTypes.get? s = some member) ∧
    ∀ (index : DeclarationIndex) (scope : Scope) (registry : ExternalRegistry),
      (index.toModel scope registry).sumTypes = (TypeModel.ofCalls index.sumTypeCalls).sumTypes ∧
      ∀ s, (index.toModel scope registry).sumTypes.get? s =
        if s ∈ (index.specs.filter DeclarationIndex.declaresSumType).map TypeSpec.name then
          some ((index.specs.find? fun spec =>
            declaresRecord spec && matchesMember s spec.name).map TypeSpec.name)
        else none := by
  refine ⟨fun calls => ?_, fun m record => ⟨TypeModel.assignEach_eq, TypeModel.openFor_eq_filter, fun s =>
    TypeModel.get?_of_mem_openFor⟩, fun m call hcall s member => TypeModel.get?_apply_of_no_assigns hcall,
    fun index scope registry => ⟨DeclarationIndex.sumTypes_ofCalls, fun s => ?_⟩⟩
  · have h := TypeModel.follows_ofCalls calls
    refine ⟨h.keys, fun s => ?_⟩
    split
    case isTrue hs => exact h.members s hs
    case isFalse hs => exact h.get?_eq_none hs
  · rw [DeclarationIndex.get?_sumTypes_toModel, DeclarationIndex.find?_records_eq]

end GoFixtures
