import Mathlib.Data.List.Basic

/-!
# Tilings of address ranges

Blocks with a base and a size tile a range when each begins where the one
before it ends.  Tilings can be cut and joined, and a stretch of blocks can be
replaced by any other that tiles the same range.
-/

namespace Tiling

variable {block : Type} (base size : block → Nat)

/-- The blocks cover the addresses from `start` to `stop` without gaps. -/
def Tiles : Nat → List block → Nat → Prop
  | start, [], stop => start = stop
  | start, first :: rest, stop =>
    base first = start ∧ 0 < size first ∧
      Tiles (start + size first) rest stop

variable {base size} {start middle stop : Nat}
  {blocks front back old new : List block}

theorem tiles_append :
    Tiles base size start (front ++ back) stop ↔
      ∃ middle, Tiles base size start front middle ∧
        Tiles base size middle back stop := by
  induction front generalizing start with
  | nil => simp [Tiles]
  | cons first rest ih =>
    simp only [List.cons_append, Tiles, ih]
    constructor
    · rintro ⟨atStart, positive, middle, tiles, others⟩
      exact ⟨middle, ⟨atStart, positive, tiles⟩, others⟩
    · rintro ⟨middle, ⟨atStart, positive, tiles⟩, others⟩
      exact ⟨atStart, positive, middle, tiles, others⟩

/-- Blocks that tile the same ranges are interchangeable. -/
theorem Tiles.replace
    (tiles : Tiles base size start (front ++ old ++ back) stop)
    (same : ∀ first last, Tiles base size first old last →
      Tiles base size first new last) :
    Tiles base size start (front ++ new ++ back) stop := by
  obtain ⟨last, inFront, behind⟩ := tiles_append.mp tiles
  obtain ⟨first, before, within⟩ := tiles_append.mp inFront
  exact tiles_append.mpr
    ⟨last, tiles_append.mpr ⟨first, before, same first last within⟩, behind⟩

section

variable (tiles : Tiles base size start blocks stop)
include tiles

theorem Tiles.le :
    start ≤ stop := by
  induction blocks generalizing start with
  | nil => exact Nat.le_of_eq tiles
  | cons first rest ih =>
    have further := ih tiles.2.2
    omega

/-- A block lies within the range. -/
theorem Tiles.bounds
    {item : block}
    (member : item ∈ blocks) :
    start ≤ base item ∧ 0 < size item ∧ base item + size item ≤ stop := by
  induction blocks generalizing start with
  | nil => exact absurd member List.not_mem_nil
  | cons first rest ih =>
    obtain ⟨atStart, positive, others⟩ := tiles
    rcases List.mem_cons.mp member with rfl | later
    · have further := others.le
      omega
    · have within := ih others later
      omega

/-- Earlier blocks end before later ones begin. -/
theorem Tiles.pairwise :
    blocks.Pairwise fun first second =>
      base first + size first ≤ base second := by
  induction blocks generalizing start with
  | nil => exact List.Pairwise.nil
  | cons first rest ih =>
    obtain ⟨atStart, positive, others⟩ := tiles
    refine List.Pairwise.cons ?_ (ih others)
    intro second member
    rw [atStart]
    exact (others.bounds member).1

/-- Every address of the range is in a block. -/
theorem Tiles.covers
    {address : Nat}
    (above : start ≤ address)
    (below : address < stop) :
    ∃ item ∈ blocks, base item ≤ address ∧
      address < base item + size item := by
  induction blocks generalizing start with
  | nil =>
    have empty : start = stop := tiles
    omega
  | cons first rest ih =>
    obtain ⟨atStart, positive, others⟩ := tiles
    rcases Nat.lt_or_ge address (start + size first) with inFirst | later
    · exact ⟨first, List.mem_cons_self, by omega, by omega⟩
    · obtain ⟨item, member, within⟩ := ih others later
      exact ⟨item, List.mem_cons_of_mem _ member, within⟩

end

/-- Neighbouring blocks touch. -/
theorem Tiles.touch
    {first second : block}
    (tiles : Tiles base size start (front ++ first :: second :: back) stop) :
    base first + size first = base second := by
  obtain ⟨_, _, atFirst, _, atSecond, _⟩ := tiles_append.mp tiles
  rw [atFirst, atSecond]

end Tiling
