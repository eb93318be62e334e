import ImageAtlas.Proofs.Trace.Saving

/-!
# Summaries tell what the events are

The summary of a trace goes over its events once. It counts each type as often as it occurs, so
the counts add up to the number of events, and lists each context that is not empty where it
first occurs. Looking for events by type and context keeps the events of that type and context,
in order.
-/

namespace ImageAtlas

section Counts

variable {counts : List (EventType × Nat)}

/-- The count of a type among counts that begin with a type. -/
theorem lookup_counts_cons (type other : EventType) (count : Nat) :
    List.lookup other ((type, count) :: counts)
      = if other = type then some count else counts.lookup other := by
  rw [List.lookup_cons]
  by_cases same : other = type
  · rw [if_pos same, beq_iff_eq.2 same]
  · rw [if_neg same, beq_false_of_ne same]

/-- Counting an event adds one to the count of its type. -/
theorem lookup_countType (type other : EventType) :
    (countType type counts).lookup other
      = if other = type then some ((counts.lookup type).getD 0 + 1) else counts.lookup other := by
  induction counts with
  | nil => exact lookup_counts_cons type other 1
  | cons entry rest inductionHypothesis =>
      obtain ⟨first, count⟩ := entry
      rw [countType]
      by_cases counted : first = type
      · subst counted
        rw [if_pos rfl, lookup_counts_cons, lookup_counts_cons, lookup_counts_cons, if_pos rfl,
          Option.getD_some]
        split <;> rfl
      · rw [if_neg counted, lookup_counts_cons, lookup_counts_cons, lookup_counts_cons,
          if_neg (Ne.symm counted), inductionHypothesis]
        by_cases here : other = first
        · rw [if_pos here, if_neg (here ▸ counted), if_pos here]
        · rw [if_neg here, if_neg here]

/-- Counting an event adds one to all counts together. -/
theorem sum_countType (type : EventType) :
    ((countType type counts).map Prod.snd).sum = (counts.map Prod.snd).sum + 1 := by
  induction counts with
  | nil => rfl
  | cons entry rest inductionHypothesis =>
      rw [countType]
      split
      · simp only [List.map_cons, List.sum_cons]
        omega
      · simp only [List.map_cons, List.sum_cons, inductionHypothesis]
        omega

/-- Each type that occurs is counted as often as it occurs. -/
theorem lookup_foldl_countType (events : List TraceEvent) (type : EventType) :
    (events.foldl (fun counts event => countType event.type counts) []).lookup type
      = if events.countP (·.type = type) = 0 then none
        else some (events.countP (·.type = type)) := by
  induction events using List.reverseRecOn with
  | nil => rfl
  | append_singleton before event inductionHypothesis =>
      rw [List.foldl_concat, lookup_countType, List.countP_append, List.countP_singleton]
      by_cases same : type = event.type
      · subst same
        rw [if_pos rfl, inductionHypothesis]
        split
        · rename_i none
          simp [none]
        · simp
      · have other : ¬ event.type = type := Ne.symm same
        rw [if_neg same, inductionHypothesis, decide_eq_false other, if_neg Bool.false_ne_true,
          Nat.add_zero]

/-- All events are counted. -/
theorem sum_foldl_countType (events : List TraceEvent) :
    ((events.foldl (fun counts event => countType event.type counts) []).map Prod.snd).sum
      = events.length := by
  induction events using List.reverseRecOn with
  | nil => rfl
  | append_singleton before event inductionHypothesis =>
      rw [List.foldl_concat, sum_countType, inductionHypothesis, List.length_append,
        List.length_singleton]

end Counts

section Contexts

/-- Whether a context is among others. -/
theorem any_same_text (known : List String) (label : String) :
    (known.map Value.text).any (·.same (.text label)) = decide (label ∈ known) := by
  rw [Bool.eq_iff_iff, List.any_map, List.any_eq_true, decide_eq_true_iff]
  simp [Value.same]

/-- An empty context and one that is there already are not added. -/
theorem addContext_of_known {known : List String} {label : String}
    (old : label = "" ∨ label ∈ known) :
    addContext (known.map .text) (.text label) = known.map .text := by
  rw [addContext, any_same_text]
  refine if_neg ?_
  rcases old with rfl | old
  · exact Bool.false_ne_true
  · rw [decide_eq_true old, Bool.not_true, Bool.and_false]
    exact Bool.false_ne_true

/-- A new context that is not empty is added. -/
theorem addContext_of_new {known : List String} {label : String} (some : label ≠ "")
    (new : label ∉ known) :
    addContext (known.map .text) (.text label) = (known ++ [label]).map .text := by
  rw [addContext, any_same_text, List.map_append, List.map_singleton]
  refine if_pos ?_
  rw [Value.truthy, bne_iff_ne.2 some, decide_eq_false new]
  rfl

/-- The contexts of events are listed where they first occur, but for the empty one. -/
theorem foldl_addContext_text (labels : List String) :
    (labels.map Value.text).foldl addContext []
      = ((labels.filter (· ≠ "")).eraseDups).map .text := by
  induction labels using List.reverseRecOn with
  | nil => rfl
  | append_singleton before label inductionHypothesis =>
      rw [List.map_append, List.map_singleton, List.foldl_concat, inductionHypothesis,
        List.filter_append, List.eraseDups_append]
      by_cases empty : label = ""
      · rw [addContext_of_known (.inl empty)]
        simp [empty]
      · have listed : label ∈ (before.filter (· ≠ "")).eraseDups ↔ label ∈ before := by
          simp [empty]
        by_cases old : label ∈ before
        · rw [addContext_of_known (.inr (listed.2 old))]
          simp [List.removeAll, empty, old]
        · rw [addContext_of_new empty (mt listed.1 old)]
          simp [List.removeAll, List.eraseDups_cons, empty, old]

end Contexts

/-- What a summary tells of events: how many there are, how many of each type that occurs, the
contexts that are not empty in the order in which they first occur, and the time of the newest
event. -/
structure TraceSummary.Describes (summary : TraceSummary) (events : List TraceEvent) : Prop where
  totalEvents : summary.totalEvents = events.length
  distinctTypes : (summary.eventCounts.map Prod.fst).Nodup
  eventCounts : ∀ type, summary.eventCounts.lookup type
    = if events.countP (·.type = type) = 0 then none else some (events.countP (·.type = type))
  total : (summary.eventCounts.map Prod.snd).sum = summary.totalEvents
  contexts : ∃ labels : List String, events.map (·.context) = labels.map .text ∧
    summary.contexts = ((labels.filter (· ≠ "")).eraseDups).map .text
  duration : summary.duration = (events.getLast?.map (·.timestamp)).getD (.integer 0)

namespace Tracer

variable {tracer : Tracer}

/-- The summary of a trace whose contexts are texts tells what its events are. -/
theorem summary_describes
    (labelled : ∀ event ∈ tracer.events, ∃ label, event.context = .text label) :
    tracer.summary.Describes tracer.events := by
  have nothing : (([] : List (EventType × Nat)).map Prod.fst).Nodup := List.nodup_nil
  have none : ∀ entry ∈ ([] : List (EventType × Nat)), entry.2 ≤ 0 :=
    fun entry member => absurd member List.not_mem_nil
  obtain ⟨labels, same⟩ : tracer.events.map (·.context) ∈ Set.range (List.map Value.text) := by
    rw [Set.range_list_map]
    intro context member
    obtain ⟨event, listed, rfl⟩ := List.mem_map.1 member
    obtain ⟨label, same⟩ := labelled event listed
    exact ⟨label, same.symm⟩
  refine ⟨rfl, (foldl_countType tracer.events nothing none).1,
    lookup_foldl_countType tracer.events, sum_foldl_countType tracer.events,
    ⟨labels, same.symm, ?_⟩, ?_⟩
  · rw [← foldl_addContext_text, same, List.foldl_map]
    rfl
  · rw [summary]
    cases tracer.events.getLast? <;> rfl

/-- A value equals a text if it is that text. -/
theorem equal_text_iff (value : Value) (label : String) :
    value.equal (.text label) = true ↔ value = .text label := by
  cases value with
  | real value => cases value <;> simp [Value.equal, Value.same, Value.wholeNumber?]
  | text other => simp [Value.equal, Value.same]
  | _ => simp [Value.equal, Value.same, Value.wholeNumber?]

/-- The events of a type and a context, where those are given, are found in order. -/
theorem eventsOf_text (tracer : Tracer) (type : Option EventType) (label : Option String) :
    ∃ keep : TraceEvent → Bool,
      (∀ event, keep event = true ↔
        (∀ wanted ∈ type, event.type = wanted) ∧
          ∀ wanted ∈ label, event.context = .text wanted) ∧
      tracer.eventsOf type (label.map .text) = tracer.events.filter keep := by
  refine ⟨_, fun event => ?_, rfl⟩
  rw [Bool.and_eq_true]
  refine and_congr ?_ ?_
  · cases type <;> simp
  · cases label <;> simp [equal_text_iff]

end Tracer

end ImageAtlas
