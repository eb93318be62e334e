import ImageAtlas.Proofs.Element
import Mathlib

/-!
# Counting comes to an end

Elements are counted in a loop that has no bound of its own: without a limit it goes on as
long as the next element fits. `Counting` is that loop, told by its turns. It ends wherever the
test has a first failure, at the failure or at the limit, and it ends in one way only. A plain
layout always has a first failure, whatever the codec measures, since an element lies inside
the image; so the loop ends, with what `Layout.count` gives.
-/

namespace ImageAtlas

/-- The loop that counts. While the count is below the limit, if there is one, and the test
holds, the count goes up by one. -/
inductive Counting (test : Nat → Except Fault Bool) (limit : Option Int) : Nat → Nat → Prop where
  | full {count : Nat} {most : Int} (limited : limit = some most) (reached : most ≤ count) :
      Counting test limit count count
  | failed {count : Nat} (short : ∀ most, limit = some most → count < most)
      (fails : test count = .ok false) : Counting test limit count count
  | turn {count result : Nat} (short : ∀ most, limit = some most → count < most)
      (holds : test count = .ok true) (onward : Counting test limit (count + 1) result) :
      Counting test limit count result

namespace Counting

variable {test : Nat → Except Fault Bool} {limit : Option Int} {start result other : Nat}

/-- The loop ends in one way only. -/
theorem unique (counting : Counting test limit start result)
    (otherCounting : Counting test limit start other) : result = other := by
  induction counting with
  | full limited reached =>
      cases otherCounting with
      | full _ _ => rfl
      | failed _ _ => rfl
      | turn short _ _ => exact absurd reached (Int.not_le.2 (short _ limited))
  | failed short fails =>
      cases otherCounting with
      | full _ _ => rfl
      | failed _ _ => rfl
      | turn _ holds _ =>
          rw [fails] at holds
          cases holds
  | turn short holds _ inductionHypothesis =>
      cases otherCounting with
      | full limited reached => exact absurd reached (Int.not_le.2 (short _ limited))
      | failed _ fails =>
          rw [fails] at holds
          cases holds
      | turn _ _ onward => exact inductionHypothesis onward

/-- The loop takes any number of turns that lead to no failure and to no limit. -/
theorem turns (count : Nat) (short : ∀ most, limit = some most → start + count ≤ most)
    (holds : ∀ index, start ≤ index → index < start + count → test index = .ok true)
    (ended : Counting test limit (start + count) result) : Counting test limit start result := by
  induction count generalizing start with
  | zero => exact ended
  | succ count inductionHypothesis =>
      have next : start + 1 + count = start + (count + 1) := by omega
      refine .turn (fun most limited => ?_) (holds start (Nat.le_refl start) (by omega))
        (inductionHypothesis (fun most limited => ?_) (fun index behind before => ?_) ?_)
      · have room := short most limited
        omega
      · have room := short most limited
        omega
      · exact holds index (by omega) (by omega)
      · rwa [next]

end Counting

variable {test : Nat → Except Fault Bool} {count : Nat}

/-- Without a limit the loop ends at the first failure. -/
theorem FirstFailure.counting (failure : FirstFailure test count) :
    Counting test none 0 count := by
  refine .turns count (fun _ limited => nomatch limited) (fun index _ before => ?_) ?_
  · exact failure.before (by omega)
  · rw [Nat.zero_add]
    exact .failed (fun _ limited => nomatch limited) failure.here

/-- With a limit the loop ends at the first failure or at the limit. -/
theorem FirstFailure.counting_limited (failure : FirstFailure test count) (most : Int) :
    Counting test (some most) 0 (min count most.toNat) := by
  by_cases before : count < most.toNat
  · rw [Nat.min_eq_left (Nat.le_of_lt before)]
    refine .turns count (fun _ limited => ?_) (fun index _ within => ?_) ?_
    · cases limited
      omega
    · exact failure.before (by omega)
    · rw [Nat.zero_add]
      refine .failed (fun _ limited => ?_) failure.here
      cases limited
      omega
  · rw [Nat.min_eq_right (Nat.not_lt.1 before)]
    by_cases some : 0 < most
    · refine .turns most.toNat (fun _ limited => ?_) (fun index _ within => ?_) ?_
      · cases limited
        omega
      · exact failure.before (by omega)
      · rw [Nat.zero_add]
        exact .full rfl (by omega)
    · rw [Int.toNat_of_nonpos (Int.not_lt.1 some)]
      exact .full rfl (by omega)

namespace Layout

variable {layout : Layout} {codec : TextCodec} {image : Image} {address : Int}

/-- Counting elements of a plain layout ends, whatever the codec measures, and it is exact. From
every address on there is one number of elements that follow one another: so many fit, and the
next one does not. They end inside the image. Without a limit that number is counted, with a
limit it or the limit if that is less, and none if the limit is negative. The loop that counts
ends with the same results and with no other. -/
theorem Plain.counting_ends_with_run (plain : layout.Plain) (codec : TextCodec) (image : Image)
    (address : Int) :
    ∃ run : Nat,
      (∀ count, layout.IsRun codec image address count ↔ count = run) ∧
      run * layout.width ≤ max 0 (image.size - address) ∧
      layout.count codec image address none = .ok run ∧
      (∀ limit : Int,
        layout.count codec image address (some limit) = .ok (min run (max limit 0).toNat)) ∧
      ∀ (limit : Option Int) (ended : Nat),
        Counting (fun index => layout.fits codec image (address + index * layout.width)) limit 0
            ended ↔
          layout.count codec image address limit = .ok ended := by
  obtain ⟨run, isRun, counted⟩ := plain.exists_isRun codec image address
  have limited : ∀ limit : Int,
      layout.count codec image address (some limit) = .ok (min run (max limit 0).toNat) := by
    intro limit
    have nonneg : (max limit 0).toNat = limit.toNat := by omega
    rw [nonneg]
    exact isRun.count_eq limit
  refine ⟨run, fun count => ⟨fun other => other.unique isRun, ?_⟩, ?_, counted, limited, ?_⟩
  · rintro rfl
    exact isRun
  · cases run with
    | zero => simp
    | succ prior =>
        have inside := plain.inside_of_isRun isRun (Nat.succ_pos prior)
        rw [Int.mul_comm]
        omega
  · intro limit ended
    obtain ⟨result, same, loop⟩ : ∃ result,
        layout.count codec image address limit = .ok result ∧
        Counting (fun index => layout.fits codec image (address + index * layout.width)) limit 0
          result := by
      cases limit with
      | none => exact ⟨run, counted, isRun.counting⟩
      | some most => exact ⟨_, isRun.count_eq most, isRun.counting_limited most⟩
    rw [same, Except.ok.injEq]
    exact ⟨fun counting => loop.unique counting, fun result => result ▸ loop⟩

/-- Two cells of four bytes and two bytes more. -/
def twoCells : Image :=
  #[65, 0, 0xFF, 0, 66, 0, 0, 0xFF, 1, 2]

/-- The codec measures a negative length everywhere, which leaves the last three bytes of a cell
for padding; the two cells fit, and the bytes behind them are no cell. -/
theorem count_oddly_measured :
    let cell : Layout := [⟨"n", .delimitedText, 4⟩]
    let codec : TextCodec := .constant (some (-3))
    cell.count codec twoCells 0 none = .ok 2 ∧ cell.count codec twoCells 0 (some 1) = .ok 1 ∧
      cell.count codec twoCells 0 (some (-1)) = .ok 0 ∧
      Counting (fun index => cell.fits codec twoCells (0 + index * cell.width)) none 0 2 := by
  intro cell codec
  have plain : cell.Plain := ⟨List.cons_ne_nil _ _, by simp [cell], by simp [cell]⟩
  obtain ⟨run, -, -, counted, limited, loop⟩ := plain.counting_ends_with_run codec twoCells 0
  obtain rfl : run = 2 := by
    have all : cell.count codec twoCells 0 none = .ok 2 := by
      cbv
    rw [all] at counted
    cases counted
    rfl
  exact ⟨counted, limited 1, limited (-1), (loop none 2).2 counted⟩

end Layout

end ImageAtlas
