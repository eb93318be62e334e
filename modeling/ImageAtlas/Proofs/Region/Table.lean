import ImageAtlas.Region.Table

/-!
# Tables kept in step

A table holds its regions twice: by start, and as the list of starts in the
order in which they came. `RegionTable.Sound` says that both agree and that each
region lies under its own start; putting a region keeps it so. The regions in
order are then those that lie under their own start.
-/

namespace ImageAtlas

namespace RegionTable

/-- Every region lies under its own start, and the starts are those of the
regions, each once. -/
structure Sound (table : RegionTable) : Prop where
  start_eq : ∀ {address region}, table.get? address = some region → region.start = address
  mem_starts : ∀ {address}, address ∈ table.starts ↔ (table.get? address).isSome
  nodup : table.starts.Nodup

/-- A table without regions is sound. -/
theorem Sound.empty : Sound {} where
  start_eq := by
    intro address region found
    simp at found
  mem_starts := by simp
  nodup := List.nodup_nil

/-- Putting a region keeps a table sound. -/
theorem Sound.put {table : RegionTable} (sound : table.Sound) (region : Region) :
    (table.put region).Sound where
  start_eq := by
    intro address other found
    rw [get?_put] at found
    split at found
    · rename_i here
      cases found
      exact here
    · exact sound.start_eq found
  mem_starts := by
    intro address
    rw [get?_put]
    by_cases known : (table.get? region.start).isSome
    · have starts : (table.put region).starts = table.starts := if_pos known
      rw [starts, sound.mem_starts]
      split
      · rename_i here
        simp [← here, known]
      · rfl
    · have starts : (table.put region).starts = region.start :: table.starts := if_neg known
      rw [starts, List.mem_cons, sound.mem_starts]
      split
      · rename_i here
        simp [here]
      · rename_i elsewhere
        simp [Ne.symm elsewhere]
  nodup := by
    by_cases known : (table.get? region.start).isSome
    · have starts : (table.put region).starts = table.starts := if_pos known
      rw [starts]
      exact sound.nodup
    · have starts : (table.put region).starts = region.start :: table.starts := if_neg known
      rw [starts, List.nodup_cons, sound.mem_starts]
      exact ⟨known, sound.nodup⟩

/-- The regions in order are those that lie under their own start. -/
theorem Sound.mem_inOrder {table : RegionTable} (sound : table.Sound) {region : Region} :
    region ∈ table.inOrder ↔ table.get? region.start = some region := by
  simp only [inOrder, List.mem_filterMap, List.mem_reverse, sound.mem_starts]
  constructor
  · rintro ⟨address, -, found⟩
    rw [sound.start_eq found]
    exact found
  · intro found
    exact ⟨region.start, by simp [found], found⟩

end RegionTable

end ImageAtlas
