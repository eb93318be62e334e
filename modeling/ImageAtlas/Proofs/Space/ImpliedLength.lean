import ImageAtlas.Proofs.Element
import ImageAtlas.Proofs.Space.Neighbours

/-!
# Implied lengths

An implied length is the run of elements at an address, cut off where the next region
begins or the image ends. Elements that end at or before an address are as many as there
is room for (`Layout.room`), so cutting off by address and counting up to a limit come to
the same. A region that is observed behind the address can only bring the bound nearer;
where the image was the bound, no element had been cut off by it.
-/

namespace ImageAtlas

variable {layout : Layout} {codec : TextCodec} {image : Image} {address stop : Int}
  {run count : Nat}

/-- How many elements have room from an address up to another one. -/
def Layout.room (layout : Layout) (address stop : Int) : Int :=
  (stop - address) / layout.width

namespace Layout

/-- An element ends at or before an address exactly if there is room for it and for those
in front of it. -/
theorem Plain.lt_room_iff (plain : layout.Plain) {index : Nat} :
    index < layout.room address stop ↔
      address + index * layout.width + layout.width ≤ stop := by
  have positive : 0 < layout.width := plain.one_le_width
  have bytes : ((index : Int) + 1) * layout.width = index * layout.width + layout.width := by
    rw [Int.add_mul, Int.one_mul]
  rw [← Int.add_one_le_iff, room, Int.le_ediv_iff_mul_le positive, bytes]
  omega

/-- Up to a nearer address there is room for no more elements. -/
theorem Plain.room_le_room (plain : layout.Plain) {nearer : Int} (order : nearer ≤ stop) :
    layout.room address nearer ≤ layout.room address stop :=
  Int.ediv_le_ediv plain.one_le_width (Int.sub_le_sub_right order address)

/-- Up to the nearer of two addresses there is room for the lesser number of elements. -/
theorem Plain.room_min (plain : layout.Plain) (address first second : Int) :
    layout.room address (min first second) =
      min (layout.room address first) (layout.room address second) := by
  rcases Int.le_total first second with nearer | nearer
  · rw [Int.min_eq_left nearer, Int.min_eq_left (plain.room_le_room nearer)]
  · rw [Int.min_eq_right nearer, Int.min_eq_right (plain.room_le_room nearer)]

/-- Up to an address behind there is room for no element or for some. -/
theorem Plain.room_nonneg (plain : layout.Plain) (behind : address ≤ stop) :
    0 ≤ layout.room address stop :=
  Int.ediv_nonneg (Int.sub_nonneg_of_le behind) (Int.le_of_lt plain.one_le_width)

/-- The image has room for every run of elements in it. -/
theorem Plain.isRun_le_room (plain : layout.Plain) (run : layout.IsRun codec image address count) :
    count ≤ max 0 (layout.room address image.size) := by
  cases count with
  | zero => exact Int.le_max_left 0 _
  | succ prior =>
      have last := (plain.inside_of_fits (run.before (Nat.lt_succ_self prior))).2
      have room : prior < layout.room address image.size := plain.lt_room_iff.2 last
      omega

/-- Counting the elements that end at or before an address gives the run, or as many as
there is room for. -/
theorem Plain.countBefore_eq (plain : layout.Plain) (isRun : layout.IsRun codec image address run) :
    layout.countBefore codec image address stop =
      .ok (min run (layout.room address stop).toNat) := by
  obtain ⟨count, failure, counted⟩ := plain.exists_countBefore codec image address stop
  have cut : FirstFailure
      (fun index : Nat => if stop < address + index * layout.width + layout.width then .ok false
        else layout.fits codec image (address + index * layout.width))
      (min run (layout.room address stop).toNat) := by
    constructor
    · intro index before
      have ends : address + index * layout.width + layout.width ≤ stop :=
        plain.lt_room_iff.1 (by omega)
      rw [if_neg (Int.not_lt.2 ends)]
      exact isRun.before (by omega)
    · split
      · rfl
      · -- There is room for one more element, so it was the run that ended.
        rename_i ends
        have room := plain.lt_room_iff.2 (Int.not_lt.1 ends)
        rw [show min run (layout.room address stop).toNat = run by omega]
        exact isRun.here
  rw [counted, failure.unique cut]

end Layout

namespace Space

variable {space : Space} {bound other : Int} {region : Region}

/-- The address before which an array at an address has to end: the least start of a
region behind it, or the end of the image if there is none. -/
inductive Bounds (space : Space) (address : Int) : Int → Prop where
  | region {bound : Int} (recorded : (space.regionAt bound).isSome) (behind : address < bound)
      (least : ∀ other, (space.regionAt other).isSome → address < other → bound ≤ other) :
      Bounds space address bound
  | image (last : ∀ other, (space.regionAt other).isSome → other ≤ address) :
      Bounds space address space.image.size

/-- There is one such address. -/
theorem Bounds.unique (bounds : space.Bounds address bound) (others : space.Bounds address other) :
    bound = other := by
  cases bounds with
  | region recorded behind least =>
      cases others with
      | region otherRecorded otherBehind otherLeast =>
          exact Int.le_antisymm (least _ otherRecorded otherBehind) (otherLeast _ recorded behind)
      | image last => exact absurd (last _ recorded) (Int.not_le.2 behind)
  | image last =>
      cases others with
      | region recorded behind _ => exact absurd (last _ recorded) (Int.not_le.2 behind)
      | image => rfl

/-- In a well-formed space it is found by the next region. -/
theorem WellFormed.bounds_boundAfter (wellFormed : space.WellFormed) (address : Int) :
    space.Bounds address (space.boundAfter address) := by
  have starts : ∀ {other}, (space.regionAt other).isSome →
      ∃ region, space.regionAt region.start = some region ∧ region.start = other := by
    intro other recorded
    obtain ⟨region, found⟩ := Option.isSome_iff_exists.1 recorded
    have start := wellFormed.start_eq found
    exact ⟨region, start.symm ▸ found, start⟩
  rw [boundAfter]
  cases next : space.nextAfter address with
  | none =>
      refine .image fun other recorded => ?_
      obtain ⟨region, found, rfl⟩ := starts recorded
      exact wellFormed.nextAfter_eq_none_iff.1 next region found
  | some region =>
      obtain ⟨found, behind, least⟩ := wellFormed.nextAfter_eq_some_iff.1 next
      refine .region (by rw [found]; rfl) behind fun other recorded beyond => ?_
      obtain ⟨region, found, rfl⟩ := starts recorded
      exact least region found beyond

/-- Where regions begin when one has been observed. -/
theorem isSome_regionAt_observe :
    ((space.observe region).regionAt other).isSome ↔
      other = region.start ∨ (space.regionAt other).isSome := by
  rw [regionAt_observe]
  split
  · rename_i here
    simp [here]
  · rename_i elsewhere
    simp [Ne.symm elsewhere]

/-- A region that is observed at an address or before it leaves the bound behind that
address. -/
theorem Bounds.observe_of_le (bounds : space.Bounds address bound)
    (before : region.start ≤ address) : (space.observe region).Bounds address bound := by
  cases bounds with
  | region recorded behind least =>
      refine .region (isSome_regionAt_observe.2 (.inr recorded)) behind fun other known beyond => ?_
      rcases isSome_regionAt_observe.1 known with rfl | known
      · omega
      · exact least other known beyond
  | image last =>
      rw [← (retains_observe space region).image]
      refine .image fun other known => ?_
      rcases isSome_regionAt_observe.1 known with rfl | known
      · exact before
      · exact last other known

/-- A region that is observed behind an address becomes the bound, unless another one was
nearer. -/
theorem Bounds.observe_of_lt (bounds : space.Bounds address bound)
    (behind : address < region.start) :
    (space.observe region).Bounds address (min bound region.start) ∨
      (bound = space.image.size ∧ (space.observe region).Bounds address region.start) := by
  cases bounds with
  | @region bound recorded beyond least =>
      left
      have nearest : ((space.observe region).regionAt (min bound region.start)).isSome := by
        rw [isSome_regionAt_observe]
        rcases Int.le_total bound region.start with nearer | farther
        · rw [Int.min_eq_left nearer]
          exact .inr recorded
        · exact .inl (Int.min_eq_right farther)
      refine .region nearest (by omega) fun other known onward => ?_
      rcases isSome_regionAt_observe.1 known with rfl | known
      · exact Int.min_le_right _ _
      · exact Int.le_trans (Int.min_le_left _ _) (least other known onward)
  | image last =>
      right
      refine ⟨rfl, .region (isSome_regionAt_observe.2 (.inl rfl)) behind ?_⟩
      intro other known onward
      rcases isSome_regionAt_observe.1 known with rfl | known
      · exact Int.le_refl _
      · exact absurd (last other known) (Int.not_le.2 onward)

/-- The implied length at an address is the run there, cut off at the bound. -/
theorem WellFormed.resolveLength_implied (wellFormed : space.WellFormed) (plain : layout.Plain)
    (isRun : layout.IsRun space.codec space.image address run)
    (bounds : space.Bounds address bound) :
    (space.resolveLength .impliedByNextRun layout address).value =
      .ok (min run (layout.room address bound).toNat : Nat) := by
  have same := (wellFormed.bounds_boundAfter address).unique bounds
  simp only [resolveLength, plain.countBefore_eq isRun, same, Noted.value_pure]

/-- In every reachable space, the implied length of elements of a plain layout at an
address is the run of elements that is counted there without a limit, or as many as have
room up to the bound if that is less, and the same is counted with that number as limit.
The bound is the least start of a region behind the address, or the end of the image. A
region that is observed behind the address leaves as many elements as have room before it,
or as many as there were; one at the address or before it changes nothing. -/
theorem Reachable.implied_length_shortened_by_regions (reachable : Reachable anyOperation space)
    (plain : layout.Plain) (address : Int) :
    ∃ (bound : Int) (run implied : Nat), space.Bounds address bound ∧
      layout.count space.codec space.image address none = .ok run ∧
      (space.resolveLength .impliedByNextRun layout address).value = .ok implied ∧
      (implied : Int) = min (run : Int) (max 0 ((bound - address) / layout.width)) ∧
      layout.count space.codec space.image address (some ((bound - address) / layout.width)) =
        .ok implied ∧
      ∀ region, ∃ later : Nat,
        ((space.observe region).resolveLength .impliedByNextRun layout address).value = .ok later ∧
        (later : Int) =
          if address < region.start then
            min (implied : Int) ((region.start - address) / layout.width)
          else implied := by
  have wellFormed := reachable.wellFormed
  obtain ⟨run, isRun, counted⟩ := plain.exists_isRun space.codec space.image address
  have bounds := wellFormed.bounds_boundAfter address
  refine ⟨_, run, _, bounds, counted, wellFormed.resolveLength_implied plain isRun bounds, ?_,
    isRun.count_eq _, ?_⟩
  · change _ = min (run : Int) (max 0 (layout.room address _))
    omega
  · intro region
    have onward := wellFormed.observe region
    have retained := retains_observe space region
    have sameRun : layout.IsRun (space.observe region).codec (space.observe region).image address
        run := by
      rw [retained.codec, retained.image]
      exact isRun
    change ∃ later : Nat, _ ∧ (later : Int) =
      if address < region.start then min _ (layout.room address region.start) else _
    split
    · rename_i behind
      have someRoom := plain.room_nonneg (Int.le_of_lt behind)
      rcases bounds.observe_of_lt behind with nearer | ⟨atEnd, nearer⟩
      · refine ⟨_, onward.resolveLength_implied plain sameRun nearer, ?_⟩
        rw [plain.room_min]
        omega
      · refine ⟨_, onward.resolveLength_implied plain sameRun nearer, ?_⟩
        have inside := plain.isRun_le_room isRun
        rw [atEnd]
        omega
    · rename_i before
      exact ⟨_, onward.resolveLength_implied plain sameRun
        (bounds.observe_of_le (Int.not_lt.1 before)), rfl⟩

/-- Three names in cells of two bytes. -/
def threeNames : Image :=
  #[65, 0xFF, 66, 0xFF, 67, 0xFF]

/-- Nothing is behind the three names, so all are implied; a pointer that is recorded in the
middle of the second leaves the first. -/
theorem three_names_shortened_by_pointer :
    let space : Space := { image := threeNames, codec := .ascii, pointers := {} }
    let names : Layout := [⟨"n", .delimitedText, 2⟩]
    let pointer : Region := .known { start := 3, length := 4, kind := .pointer }
    (space.resolveLength .impliedByNextRun names 0).value = .ok 3 ∧
      ((space.observe pointer).resolveLength .impliedByNextRun names 0).value = .ok 1 := by
  intro space names pointer
  have plain : names.Plain :=
    ⟨List.cons_ne_nil _ _, by simp [names], by simp [names]⟩
  obtain ⟨bound, run, implied, bounds, counted, resolved, bounded, -, shortened⟩ :=
    (Reachable.initial threeNames .ascii {}).implied_length_shortened_by_regions plain 0
  obtain rfl : bound = 6 := bounds.unique (.image (by simp [regionAt]))
  obtain rfl : run = 3 := by
    have all : names.count .ascii threeNames 0 none = .ok 3 := by
      cbv
    rw [all] at counted
    cases counted
    rfl
  obtain ⟨later, resolvedLater, boundedLater⟩ := shortened pointer
  have three : (implied : Int) = 3 := by
    simpa [names, Layout.width] using bounded
  have one : (later : Int) = 1 := by
    simpa [three, names, pointer, Region.start, Layout.width] using boundedLater
  exact ⟨by rw [resolved, three], by rw [resolvedLater, one]⟩

end Space

end ImageAtlas
