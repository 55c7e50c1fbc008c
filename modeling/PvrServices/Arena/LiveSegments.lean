import PvrServices.Arena.Serving

/-!
# The live segments of an arena

`RA_GetNextLiveSegment` answers one live segment a call.  Between calls a
handle says where to go on: it is the tag after the one answered, so that a
live segment at the end of the list leaves the handle with which an iteration
starts.
-/

namespace PvrServices.Arena

open RaArena

/-! ## The iterator -/

/-- `hSegment` of `RA_SEGMENT_DETAILS`: `NULL`, the address of a tag, or
`IMG_UNDEF`. -/
inductive SegmentHandle where
  | null
  | segment (pBT : Address)
  | undef
deriving DecidableEq, Repr

/-- A pointer to a tag as a handle. -/
def SegmentHandle.ofPointer : Option Address → SegmentHandle
  | none => .null
  | some pBT => .segment pBT

/-- `RA_SEGMENT_DETAILS`. -/
structure RaSegmentDetails where
  uiSize : Nat
  sCpuPhyAddr : Nat
  hSegment : SegmentHandle
deriving DecidableEq, Repr

/-- The details that an iteration starts with. -/
def RaSegmentDetails.start : RaSegmentDetails := ⟨0, 0, .null⟩

/-- The loop of `RA_GetNextLiveSegment`: the first live tag from a pointer on;
`none` stands for a loop that does not end. -/
def Segments.nextLive (segments : Segments) :
    Nat → Option Address → Option (Option Address)
  | _, none => some none
  | 0, some _ => none
  | fuel + 1, some pBT =>
    if (segments.bt pBT).type = .live then some (some pBT)
    else segments.nextLive fuel (segments.pNextSegment pBT)

/-- The pointer that a handle stands for; `IMG_UNDEF` is none. -/
def Segments.pointer (segments : Segments) :
    SegmentHandle → Option (Option Address)
  | .null => some segments.pHeadSegment
  | .segment pBT => some (some pBT)
  | .undef => none

/-- `RA_GetNextLiveSegment`. -/
def raGetNextLiveSegment
    (arena : RaArena)
    (psSegDetails : RaSegmentDetails) :
    Option (RaSegmentDetails × Bool) := do
  let pBT ← arena.segments.pointer psSegDetails.hSegment
  let found ← arena.segments.nextLive arena.segments.fresh pBT
  match found with
  | some pBT =>
    return ({
      uiSize := (arena.segments.bt pBT).uSize
      sCpuPhyAddr := (arena.segments.bt pBT).base
      hSegment := .ofPointer (arena.segments.pNextSegment pBT) }, true)
  | none => return (⟨0, 0, .undef⟩, false)

/-- Calls of `RA_GetNextLiveSegment` until it answers `IMG_FALSE`, with a bound
on their number; the details that were answered. -/
def visitLiveSegments (arena : RaArena) :
    Nat → RaSegmentDetails → Option (List RaSegmentDetails)
  | 0, _ => none
  | fuel + 1, psSegDetails =>
    match raGetNextLiveSegment arena psSegDetails with
    | none => none
    | some (_, false) => some []
    | some (next, true) => (visitLiveSegments arena fuel next).map (next :: ·)

/-! ## What is visited -/

/-- The segment at the end of the list, if there is one, is not live. -/
def RaArena.TailNotLive (arena : RaArena) : Prop :=
  ∀ tag ∈ arena.tags.getLast?, tag.type ≠ .live

instance (arena : RaArena) : Decidable arena.TailNotLive :=
  inferInstanceAs (Decidable (∀ tag ∈ arena.tags.getLast?, tag.type ≠ .live))

section Position

variable {arena : RaArena} {front back : List Address} {pBT : Address}
  {psSegDetails : RaSegmentDetails}

section

variable (consistent : Consistent arena)
include consistent

/-- The links lead from a tag to the tags after it. -/
theorem Consistent.pNextSegment
    (listed : arena.segments.list = front ++ pBT :: back) :
    arena.segments.pNextSegment pBT = back.head? := by
  have links := consistent.links
  rw [listed] at links
  exact links.next_eq

theorem Consistent.pHeadSegment :
    arena.segments.pHeadSegment = arena.segments.list.head? :=
  consistent.links.head_eq

/-- The loop finds the first live tag of those that are left. -/
theorem Consistent.nextLive
    (listed : arena.segments.list = front ++ back)
    {fuel : Nat}
    (enough : back.length ≤ fuel) :
    arena.segments.nextLive fuel back.head? =
      some (back.find? fun pBT => (arena.segments.bt pBT).type = .live) := by
  induction back generalizing front fuel with
  | nil => cases fuel <;> rfl
  | cons pBT back ih =>
    cases fuel with
    | zero => exact absurd enough (by simp)
    | succ fuel =>
      rw [List.head?_cons, Segments.nextLive, List.find?_cons]
      by_cases isLive : (arena.segments.bt pBT).type = .live
      · simp [isLive]
      · rw [if_neg isLive, consistent.pNextSegment listed]
        simp only [isLive, decide_false]
        rw [List.append_cons] at listed
        exact ih listed (Nat.le_of_succ_le_succ enough)

/-- A handle stands for the tags that are left of the list. -/
def StandsAt
    (arena : RaArena)
    (hSegment : SegmentHandle)
    (back : List Address) :
    Prop :=
  match back with
  | [] => hSegment = .null ∧ arena.segments.list = []
  | pBT :: _ =>
    hSegment = .segment pBT ∨
      hSegment = .null ∧ arena.segments.list = back

theorem StandsAt.pointer
    {hSegment : SegmentHandle}
    (standsAt : StandsAt arena hSegment back) :
    arena.segments.pointer hSegment = some back.head? := by
  cases back with
  | nil =>
    obtain ⟨rfl, isEmpty⟩ := standsAt
    rw [Segments.pointer, consistent.pHeadSegment, isEmpty]
  | cons pBT back =>
    rcases standsAt with rfl | ⟨rfl, isAll⟩
    · rfl
    · rw [Segments.pointer, consistent.pHeadSegment, isAll]

end

/-- The details of a tag with those that follow it. -/
def detailsOf
    (arena : RaArena)
    (pBT : Address)
    (rest : List Address) :
    RaSegmentDetails where
  uiSize := (arena.segments.bt pBT).uSize
  sCpuPhyAddr := (arena.segments.bt pBT).base
  hSegment := .ofPointer rest.head?

variable (consistent : Consistent arena)
  (bounded : arena.segments.list.length ≤ arena.segments.fresh)
include consistent bounded

/-- A call at a position answers the first live tag from there on. -/
theorem Consistent.getNext_live
    {skipped rest : List Address}
    (listed : arena.segments.list = front ++ (skipped ++ pBT :: rest))
    (standsAt :
      StandsAt arena psSegDetails.hSegment (skipped ++ pBT :: rest))
    (notLive : ∀ other ∈ skipped, (arena.segments.bt other).type ≠ .live)
    (isLive : (arena.segments.bt pBT).type = .live) :
    raGetNextLiveSegment arena psSegDetails =
      some (detailsOf arena pBT rest, true) := by
  have enough : (skipped ++ pBT :: rest).length ≤ arena.segments.fresh := by
    have length := congrArg List.length listed
    rw [List.length_append] at length
    omega
  have found : (skipped ++ pBT :: rest).find?
      (fun pBT => (arena.segments.bt pBT).type = .live) = some pBT := by
    rw [List.find?_append, List.find?_eq_none.mpr (by simpa using notLive),
      Option.none_or, List.find?_cons]
    simp [isLive]
  have following : arena.segments.pNextSegment pBT = rest.head? := by
    rw [← List.append_assoc] at listed
    exact consistent.pNextSegment listed
  unfold raGetNextLiveSegment
  rw [standsAt.pointer consistent]
  show (arena.segments.nextLive arena.segments.fresh _).bind _ = _
  rw [consistent.nextLive listed enough, found]
  simp [following, detailsOf]

/-- A call at a position without live tags ends the iteration. -/
theorem Consistent.getNext_none
    (listed : arena.segments.list = front ++ back)
    (standsAt : StandsAt arena psSegDetails.hSegment back)
    (notLive : ∀ pBT ∈ back, (arena.segments.bt pBT).type ≠ .live) :
    raGetNextLiveSegment arena psSegDetails =
      some (⟨0, 0, .undef⟩, false) := by
  have enough : back.length ≤ arena.segments.fresh := by
    have length := congrArg List.length listed
    rw [List.length_append] at length
    omega
  unfold raGetNextLiveSegment
  rw [standsAt.pointer consistent]
  show (arena.segments.nextLive arena.segments.fresh _).bind _ = _
  rw [consistent.nextLive listed enough,
    List.find?_eq_none.mpr (by simpa using notLive)]
  rfl

end Position

/-- A list is free of live tags, or has a first one. -/
theorem live_split
    (segments : Segments)
    (back : List Address) :
    (∀ pBT ∈ back, (segments.bt pBT).type ≠ .live) ∨
      ∃ skipped pBT rest, back = skipped ++ pBT :: rest ∧
        (∀ other ∈ skipped, (segments.bt other).type ≠ .live) ∧
        (segments.bt pBT).type = .live := by
  induction back with
  | nil => exact .inl fun _ member => absurd member List.not_mem_nil
  | cons first back ih =>
    by_cases isLive : (segments.bt first).type = .live
    · exact .inr ⟨[], first, back, rfl,
        fun _ member => absurd member List.not_mem_nil, isLive⟩
    · rcases ih with notLive | ⟨skipped, pBT, rest, rfl, notLive, isFound⟩
      · exact .inl (List.forall_mem_cons.mpr ⟨isLive, notLive⟩)
      · exact .inr ⟨first :: skipped, pBT, rest, rfl,
          List.forall_mem_cons.mpr ⟨isLive, notLive⟩, isFound⟩

/-! ## Iterations that end -/

/-- The size and the address that details tell. -/
def RaSegmentDetails.extent (details : RaSegmentDetails) : Nat × Nat :=
  (details.sCpuPhyAddr, details.uiSize)

variable {arena : RaArena} {back : List Address}

section

variable (consistent : Consistent arena)
  (bounded : arena.segments.list.length ≤ arena.segments.fresh)
include consistent bounded

/-- From a position with tags after the last live one the iteration visits the
live tags that are left. -/
theorem Consistent.visit
    (tailNotLive : arena.TailNotLive)
    (front : List Address)
    (psSegDetails : RaSegmentDetails)
    (listed : arena.segments.list = front ++ back)
    (standsAt : StandsAt arena psSegDetails.hSegment back)
    {fuel : Nat}
    (enough : back.length < fuel) :
    ∃ visited, visitLiveSegments arena fuel psSegDetails = some visited ∧
      visited.map RaSegmentDetails.extent =
        (liveTags (back.map arena.segments.bt)).map
          fun tag => (tag.base, tag.uSize) := by
  induction fuel generalizing front back psSegDetails with
  | zero => exact absurd enough (Nat.not_lt_zero _)
  | succ fuel ih =>
    rw [visitLiveSegments]
    rcases live_split arena.segments back
      with notLive | ⟨skipped, pBT, rest, rfl, notLive, isLive⟩
    · rw [consistent.getNext_none bounded listed standsAt notLive]
      refine ⟨[], rfl, ?_⟩
      rw [liveTags_none (by simpa using notLive)]
      rfl
    · rw [consistent.getNext_live bounded listed standsAt notLive isLive]
      have listedRest : arena.segments.list =
          (front ++ skipped ++ [pBT]) ++ rest := by
        rw [listed]
        simp
      -- the last tag is not live, so that something is left
      have nonempty : rest ≠ [] := by
        rintro rfl
        refine tailNotLive (arena.segments.bt pBT) ?_ isLive
        rw [RaArena.tags, listed, List.getLast?_map,
          ← List.append_assoc, List.getLast?_concat]
        rfl
      obtain ⟨next, others, rfl⟩ := List.exists_cons_of_ne_nil nonempty
      obtain ⟨visited, ends, extents⟩ := ih _
        (detailsOf arena pBT (next :: others)) listedRest (.inl rfl)
        (by simp at enough ⊢; omega)
      refine ⟨detailsOf arena pBT (next :: others) :: visited, ?_, ?_⟩
      · simp only [ends, Option.map_some]
      · rw [List.map_append, liveTags_append,
          liveTags_none (by simpa using notLive), List.nil_append,
          List.map_cons, List.map_cons, liveTags_live isLive, List.map_cons,
          extents]
        rfl

/-- With a live tag at the end of the list the iteration does not end. -/
theorem Consistent.visit_forever
    {last : Address}
    (isLast : arena.segments.list.getLast? = some last)
    (lastLive : (arena.segments.bt last).type = .live)
    (front : List Address)
    {psSegDetails : RaSegmentDetails}
    (listed : arena.segments.list = front ++ back)
    (nonempty : back ≠ [])
    (standsAt : StandsAt arena psSegDetails.hSegment back)
    (fuel : Nat) :
    visitLiveSegments arena fuel psSegDetails = none := by
  induction fuel generalizing front back psSegDetails with
  | zero => rfl
  | succ fuel ih =>
    rw [visitLiveSegments]
    rcases live_split arena.segments back
      with notLive | ⟨skipped, pBT, rest, rfl, notLive, isLive⟩
    · have inBack : last ∈ back := by
        rw [listed, List.getLast?_append_of_ne_nil _ nonempty] at isLast
        exact List.mem_of_getLast? isLast
      exact absurd lastLive (notLive last inBack)
    · rw [consistent.getNext_live bounded listed standsAt notLive isLive]
      have listedRest : arena.segments.list =
          (front ++ skipped ++ [pBT]) ++ rest := by
        rw [listed]
        simp
      have restarts : visitLiveSegments arena fuel
          (detailsOf arena pBT rest) = none := by
        cases rest with
        | nil =>
          -- the handle is that of a new iteration
          have whole : arena.segments.list ≠ [] := by
            rw [listed]
            simp
          obtain ⟨first, others, isList⟩ := List.exists_cons_of_ne_nil whole
          exact ih [] isList (by simp) (.inr ⟨rfl, isList⟩)
        | cons next others => exact ih _ listedRest (by simp) (.inl rfl)
      simp only [restarts, Option.map_none]

end

/-- A new iteration stands at the whole list. -/
theorem standsAt_start (arena : RaArena) :
    StandsAt arena RaSegmentDetails.start.hSegment arena.segments.list := by
  unfold StandsAt
  split
  · next isEmpty => exact ⟨rfl, isEmpty⟩
  · exact .inr ⟨rfl, rfl⟩

end PvrServices.Arena
