import ImageAtlas.Proofs.Trace.Calls
import ImageAtlas.Trace.File

/-!
# Saved traces are loaded back

A saved trace is a table that JSON can hold, so its text is read back as the table, and
from the table the events and the start come back one by one. The summary is made of the
events alone: it counts no type twice, and never more than there are events. A loaded
tracer has room for all events, and what it saves is the same text again.
-/

namespace ImageAtlas

/-- What is no more than a number with few digits has few digits. -/
theorem Text.isWritable_of_le {less more : Nat} (writable : isWritable more = true)
    (bound : less ≤ more) : isWritable less = true := by
  rw [isWritable, decide_eq_true_iff, Int.natAbs_natCast] at writable ⊢
  exact Nat.lt_of_le_of_lt bound writable

/-- A word has few digits. -/
theorem Text.isWritable_of_lt_wordBound {value : Nat} (word : (value : Int) < wordBound) :
    isWritable value = true := by
  have power : wordBound = (2 ^ 63 : Nat) := by decide
  have short : value < 10 ^ 19 := by omega
  have limit : 10 ^ 19 ≤ numeralBound := by
    have digits : 19 ≤ numeralLimit := by decide
    delta numeralBound
    -- With the limit in sight the power would be computed.
    generalize numeralLimit = limit at digits
    exact Nat.pow_le_pow_right (by decide) digits
  rw [isWritable, decide_eq_true_iff, Int.natAbs_natCast]
  exact Nat.lt_of_lt_of_le short limit

namespace Value

/-- Items that can be written are written. -/
theorem areWritable_of_each {items : List Value} (each : ∀ item ∈ items, item.isWritable = true) :
    areWritable items = true := by
  induction items with
  | nil => rfl
  | cons item rest inductionHypothesis =>
      rw [areWritable, each item List.mem_cons_self, Bool.true_and]
      exact inductionHypothesis fun other member => each other (List.mem_cons_of_mem _ member)

/-- Entries whose values can be written are written. -/
theorem haveWritable_of_each {entries : Entries}
    (each : ∀ entry ∈ entries, entry.2.isWritable = true) : haveWritable entries = true := by
  induction entries with
  | nil => rfl
  | cons entry rest inductionHypothesis =>
      rw [haveWritable, each entry List.mem_cons_self, Bool.true_and]
      exact inductionHypothesis fun other member => each other (List.mem_cons_of_mem _ member)

/-- What JSON can hold can be written. -/
theorem Storable.isWritable {value : Value} (storable : value.Storable) :
    value.isWritable = true := by
  induction storable with
  | null => rfl
  | bool value => rfl
  | integer writable => rwa [Value.isWritable]
  | real value => rfl
  | text value => rfl
  | list _ inductionHypothesis =>
      rw [Value.isWritable]
      exact areWritable_of_each inductionHypothesis
  | table _ distinct inductionHypothesis =>
      rw [Value.isWritable]
      exact haveWritable_of_each inductionHypothesis

end Value

/-- The name of an event type names it. -/
theorem EventType.ofValue_name (type : EventType) : ofValue (.text type.name) = .ok type := by
  have found : all.find? (fun other => other.name == type.name) = some type := by
    cases type <;> decide +kernel
  simp only [ofValue, found]

/-- Event types differ in their names. -/
theorem EventType.name_injective : Function.Injective name := by
  intro left right same
  have named := ofValue_name left
  rw [same, ofValue_name right] at named
  exact (Except.ok.inj named).symm

namespace TraceEvent

/-- The table of an event can be held by JSON if its parts can. -/
theorem Storable.toValue {event : TraceEvent} (storable : event.Storable) :
    event.toValue.Storable := by
  have keys : ["timestamp", "event_type", "context", "data"].Nodup := by decide
  refine .table ?_ keys
  simp only [List.forall_mem_cons, List.not_mem_nil, false_implies, implies_true, and_true]
  exact ⟨storable.timestamp, .text _, storable.context, storable.data⟩

/-- An event comes back from its table. -/
theorem ofValue_toValue (event : TraceEvent) : ofValue event.toValue = .ok event := by
  have timestamp : need event.toValue "timestamp" = .ok event.timestamp := rfl
  have type : need event.toValue "event_type" = .ok (.text event.type.name) := rfl
  have context : event.toValue.get? "context" = some event.context := rfl
  have data : event.toValue.get? "data" = some event.data := rfl
  rw [ofValue, timestamp, type, context, data]
  simp only [bind, Except.bind, EventType.ofValue_name, Option.getD_some]
  rfl

/-- Events come back from their tables, in order. -/
theorem mapM_ofValue_toValue (events : List TraceEvent) :
    (events.map toValue).mapM ofValue = .ok events := by
  induction events with
  | nil => rfl
  | cons event rest inductionHypothesis =>
      rw [List.map_cons, List.mapM_cons, ofValue_toValue, inductionHypothesis]
      rfl

end TraceEvent

section Summary

variable {counts : List (EventType × Nat)} {type other : EventType}

/-- Counting an event adds no type but its own. -/
theorem mem_keys_of_countType (counted : other ∈ (countType type counts).map Prod.fst) :
    other = type ∨ other ∈ counts.map Prod.fst := by
  induction counts with
  | nil => exact .inl (List.mem_singleton.1 counted)
  | cons entry rest inductionHypothesis =>
      rw [countType] at counted
      split at counted
      · rcases List.mem_cons.1 counted with rfl | later
        · exact .inl rfl
        · exact .inr (List.mem_cons_of_mem _ later)
      · rcases List.mem_cons.1 counted with rfl | later
        · exact .inr List.mem_cons_self
        · exact (inductionHypothesis later).imp_right (List.mem_cons_of_mem _)

/-- Counting an event lists no type twice. -/
theorem nodup_countType (distinct : (counts.map Prod.fst).Nodup) :
    ((countType type counts).map Prod.fst).Nodup := by
  induction counts with
  | nil => exact List.nodup_singleton type
  | cons entry rest inductionHypothesis =>
      obtain ⟨new, restDistinct⟩ := List.nodup_cons.1 distinct
      rw [countType]
      split
      · rename_i same
        exact List.nodup_cons.2 ⟨same ▸ new, restDistinct⟩
      · rename_i differs
        refine List.nodup_cons.2 ⟨fun counted => ?_, inductionHypothesis restDistinct⟩
        rcases mem_keys_of_countType counted with same | before
        · exact differs same
        · exact new before

/-- Counting an event counts up by at most one. -/
theorem le_of_mem_countType {total : Nat} (bounded : ∀ entry ∈ counts, entry.2 ≤ total) :
    ∀ entry ∈ countType type counts, entry.2 ≤ total + 1 := by
  induction counts with
  | nil =>
      intro entry counted
      rw [List.mem_singleton.1 counted]
      exact Nat.le_add_left 1 total
  | cons head rest inductionHypothesis =>
      obtain ⟨headBounded, restBounded⟩ := List.forall_mem_cons.1 bounded
      rw [countType]
      split
      · refine List.forall_mem_cons.2 ⟨Nat.succ_le_succ headBounded, fun entry member => ?_⟩
        exact Nat.le_succ_of_le (restBounded entry member)
      · exact List.forall_mem_cons.2
          ⟨Nat.le_succ_of_le headBounded, inductionHypothesis restBounded⟩

/-- Counting events lists no type twice and counts none more often than there are events. -/
theorem foldl_countType (events : List TraceEvent) {total : Nat}
    (distinct : (counts.map Prod.fst).Nodup) (bounded : ∀ entry ∈ counts, entry.2 ≤ total) :
    ((events.foldl (fun counts event => countType event.type counts) counts).map
        Prod.fst).Nodup ∧
      ∀ entry ∈ events.foldl (fun counts event => countType event.type counts) counts,
        entry.2 ≤ total + events.length := by
  induction events generalizing counts total with
  | nil => exact ⟨distinct, bounded⟩
  | cons event rest inductionHypothesis =>
      rw [List.foldl_cons, List.length_cons, Nat.add_comm rest.length, ← Nat.add_assoc]
      exact inductionHypothesis (nodup_countType distinct) (le_of_mem_countType bounded)

/-- The contexts of a summary are contexts of events. -/
theorem mem_foldl_addContext {events : List TraceEvent} {contexts : List Value} {context : Value}
    (listed : context ∈ events.foldl (fun contexts event => addContext contexts event.context)
      contexts) : context ∈ contexts ∨ ∃ event ∈ events, event.context = context := by
  induction events generalizing contexts with
  | nil => exact .inl listed
  | cons event rest inductionHypothesis =>
      rcases inductionHypothesis listed with before | ⟨other, member, same⟩
      · simp only [addContext] at before
        split at before
        · rcases List.mem_append.1 before with known | new
          · exact .inl known
          · exact .inr ⟨event, List.mem_cons_self, (List.mem_singleton.1 new).symm⟩
        · exact .inl before
      · exact .inr ⟨other, List.mem_cons_of_mem _ member, same⟩

end Summary

namespace Tracer

variable {tracer : Tracer}

/-- The events of a tracer are recorded. -/
theorem mem_recorded_of_mem_events {event : TraceEvent} (listed : event ∈ tracer.events) :
    event ∈ tracer.recorded := by
  rw [events] at listed
  split at listed
  · exact List.mem_reverse.1 listed
  · exact List.mem_of_mem_take (List.mem_reverse.1 listed)

/-- The summary of a trace can be held by JSON. -/
theorem Storable.summary (storable : tracer.Storable)
    (counted : Text.isWritable tracer.events.length = true) :
    tracer.summary.toValue.Storable := by
  have each : ∀ event ∈ tracer.events, event.Storable :=
    fun event listed => storable.recorded event (mem_recorded_of_mem_events listed)
  have keys : ["total_events", "duration", "event_counts", "contexts"].Nodup := by decide
  have nothing : (([] : List (EventType × Nat)).map Prod.fst).Nodup := List.nodup_nil
  have none : ∀ entry ∈ ([] : List (EventType × Nat)), entry.2 ≤ 0 :=
    fun entry member => absurd member List.not_mem_nil
  obtain ⟨distinct, bounded⟩ := foldl_countType tracer.events nothing none
  rw [Nat.zero_add] at bounded
  refine .table ?_ keys
  simp only [List.forall_mem_cons, List.not_mem_nil, false_implies, implies_true, and_true]
  refine ⟨.integer counted, ?_, .table ?_ ?_, .list ?_⟩
  · rw [Tracer.summary]
    cases last : tracer.events.getLast? with
    | none => exact .integer (Text.isWritable_of_lt_wordBound (by decide : ((0 : Nat) : Int) < _))
    | some event => exact (each event (List.mem_of_getLast? last)).timestamp
  · intro entry member
    obtain ⟨count, listed, rfl⟩ := List.mem_map.1 member
    exact .integer (Text.isWritable_of_le counted (bounded count listed))
  · have names : (tracer.summary.eventCounts.map fun entry =>
        (entry.1.name, Value.integer entry.2)).map Prod.fst
          = (tracer.summary.eventCounts.map Prod.fst).map EventType.name := by
      rw [List.map_map, List.map_map]
      rfl
    rw [names]
    exact distinct.map EventType.name_injective
  · intro context listed
    rcases mem_foldl_addContext listed with before | ⟨event, member, rfl⟩
    · exact absurd before List.not_mem_nil
    · exact (each event member).context

/-- The table of a trace can be held by JSON. -/
theorem Storable.toValue (storable : tracer.Storable)
    (counted : Text.isWritable tracer.events.length = true) : tracer.toValue.Storable := by
  have keys : ["start_time", "event_count", "summary", "events"].Nodup := by decide
  refine .table ?_ keys
  simp only [List.forall_mem_cons, List.not_mem_nil, false_implies, implies_true, and_true]
  refine ⟨storable.startTime, .integer counted, storable.summary counted, .list ?_⟩
  intro value member
  obtain ⟨event, listed, rfl⟩ := List.mem_map.1 member
  exact (storable.recorded event (mem_recorded_of_mem_events listed)).toValue

/-- The tracer that is loaded from the table of a trace: its events and its start. -/
theorem ofValue_toValue (tracer : Tracer) :
    ofValue tracer.toValue = .ok
      { capacity := some (max tracer.events.length loadedCapacity)
        recorded := tracer.events.reverse
        startTime := tracer.startTime } := by
  have events : tracer.toValue.get? "events"
      = some (.list (tracer.events.map TraceEvent.toValue)) := rfl
  have start : tracer.toValue.get? "start_time" = some tracer.startTime := rfl
  rw [ofValue, if_pos (by rfl), events, start]
  simp only [Option.getD_some, itemsOf, bind, Except.bind, TraceEvent.mapM_ofValue_toValue]
  rfl

/-- A tracer that has room for what it recorded has all of it as its events. -/
theorem events_of_room {room : Nat} (bounded : tracer.capacity = some room)
    (fits : tracer.recorded.length ≤ room) : tracer.events = tracer.recorded.reverse := by
  rw [events, bounded]
  exact congrArg List.reverse (List.take_of_length_le fits)

/-- What is saved is told by the events and the start. -/
theorem save_congr {other : Tracer} (events : other.events = tracer.events)
    (start : other.startTime = tracer.startTime) : other.save = tracer.save := by
  have table : other.toValue = tracer.toValue := by
    simp only [toValue, summary, events, start]
  rw [save, save, table]

/-- A trace that JSON can hold is saved, and what is loaded from it has the same events and
the same start, has room for all of them, and saves the same text. -/
theorem Storable.exists_load (storable : tracer.Storable)
    (counted : Text.isWritable tracer.events.length = true) :
    ∃ text loaded, tracer.save = .ok text ∧ load text = .ok loaded ∧
      loaded.events = tracer.events ∧ loaded.startTime = tracer.startTime ∧
      (∃ room, loaded.capacity = some room ∧ tracer.events.length ≤ room) ∧
      loaded.save = .ok text := by
  have held := storable.toValue counted
  have saved : tracer.save = .ok (Json.write tracer.toValue) := by
    rw [save, if_pos held.isWritable]
  have back := ofValue_toValue tracer
  generalize filled : ({
      capacity := some (max tracer.events.length loadedCapacity)
      recorded := tracer.events.reverse
      startTime := tracer.startTime } : Tracer) = loaded at back
  have capacity : loaded.capacity = some (max tracer.events.length loadedCapacity) := by
    rw [← filled]
  have start : loaded.startTime = tracer.startTime := by rw [← filled]
  have recorded : loaded.recorded = tracer.events.reverse := by rw [← filled]
  have events : loaded.events = tracer.events := by
    rw [events_of_room capacity, recorded, List.reverse_reverse]
    rw [recorded, List.length_reverse]
    exact Nat.le_max_left _ _
  refine ⟨_, loaded, saved, ?_, events, start, ⟨_, capacity, Nat.le_max_left _ _⟩, ?_⟩
  · rw [load, Json.read_write held]
    exact back
  · rw [save_congr events start, saved]

/-- A tracer has few enough events to count them if it has a bound. -/
theorem isWritable_length_events {room : Nat} (bounded : tracer.capacity = some room)
    (word : (room : Int) < wordBound) : Text.isWritable tracer.events.length = true := by
  have few : tracer.events.length ≤ room := by
    rw [events, bounded, List.length_reverse]
    exact List.length_take_le _ _
  exact Text.isWritable_of_le (Text.isWritable_of_lt_wordBound word) few

/-- Saving a trace and loading it again loses nothing: after any calls whose data JSON can
hold, the trace is saved and loaded, and the loaded tracer has the same events in the same
order and the same start, has room for all of them, and saves the same text. A tracer
without a bound must not have more events than a number with few enough digits counts. -/
theorem load_save_after {enabled : Bool} {capacity : Value} {tracer : Tracer}
    {calls : List TraceCall} (clock : Clock)
    (made : ofCapacity enabled capacity = .ok tracer)
    (storable : ∀ call ∈ calls, call.Storable)
    (countable : tracer.capacity = none →
      Text.isWritable (tracer.after clock calls).events.length = true) :
    ∃ text loaded, (tracer.after clock calls).save = .ok text ∧ load text = .ok loaded ∧
      loaded.events = (tracer.after clock calls).events ∧
      loaded.startTime = (tracer.after clock calls).startTime ∧
      (∃ room, loaded.capacity = some room ∧
        (tracer.after clock calls).events.length ≤ room) ∧
      loaded.save = .ok text := by
  obtain ⟨fresh, word⟩ := of_ofCapacity made
  refine (fresh.after clock storable).exists_load ?_
  cases bound : tracer.capacity with
  | none => exact countable bound
  | some room =>
      refine isWritable_length_events ?_ (word room bound)
      rw [capacity_after, bound]

/-- A step with characters that have to be escaped, and an event beside it. -/
def steppedCalls : List TraceCall :=
  [.start, .enter "\"né\n", .trace .arrayFound (.table [("at", .list [.integer 4, .null])]),
    .leave, .record (.searchStart (.text "[n\"\"4]"))]

/-- JSON can hold the data of these calls. -/
theorem steppedCalls_storable : ∀ call ∈ steppedCalls, call.Storable := by
  have four : Text.isWritable (4 : Nat) = true := Text.isWritable_of_lt_wordBound (by decide)
  have places : Value.Storable (.list [.integer 4, .null]) := by
    refine .list ?_
    simp only [List.forall_mem_cons, List.not_mem_nil, false_implies, implies_true, and_true]
    exact ⟨.integer four, .null⟩
  have data : Value.Storable (.table [("at", .list [.integer 4, .null])]) :=
    .table (List.forall_mem_singleton.2 places) (List.nodup_singleton _)
  have schema : Value.Storable (.table [("schema", .text "[n\"\"4]")]) :=
    .table (List.forall_mem_singleton.2 (.text _)) (List.nodup_singleton _)
  simp only [steppedCalls, List.forall_mem_cons, List.not_mem_nil, false_implies, implies_true,
    and_true]
  exact ⟨trivial, trivial, .inr ⟨rfl, data⟩, trivial, schema⟩

/-- A tracer that keeps one event is saved after these calls and loaded again. -/
theorem load_save_stepped :
    ofCapacity true (.integer 1) = .ok { capacity := some 1 } ∧
      (∀ call ∈ steppedCalls, call.Storable) ∧
      ∃ text loaded,
        (after { capacity := some 1 } .counting steppedCalls).save = .ok text ∧
        load text = .ok loaded ∧
        loaded.events = (after { capacity := some 1 } .counting steppedCalls).events ∧
        loaded.startTime = (after { capacity := some 1 } .counting steppedCalls).startTime ∧
        (∃ room, loaded.capacity = some room ∧
          (after { capacity := some 1 } .counting steppedCalls).events.length ≤ room) ∧
        loaded.save = .ok text := by
  have made : ofCapacity true (.integer 1) = .ok { capacity := some 1 } := rfl
  exact ⟨made, steppedCalls_storable,
    load_save_after .counting made steppedCalls_storable fun none => nomatch none⟩

end Tracer

end ImageAtlas
