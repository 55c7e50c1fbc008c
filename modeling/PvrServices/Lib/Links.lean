import Mathlib.Data.List.Chain

/-!
# Chains and rings of links

Linked lists over an array are described by the list of the entries they
visit.  A chain follows one link from entry to entry; a ring follows forward
and backward links from a head through its items back to the head.  The lemmas
say which links an insertion or a removal has to change.
-/

namespace Links

open Function (update update_of_ne update_self)
open List (getLastD_cons headD_cons mem_cons mem_cons_of_mem mem_cons_self
  nil_append nodup_cons)

variable {node : Type} {next : node → node}
  {entries items front back : List node} {start stop : node}

/-! ## Chains -/

/-- Each entry links to the following one. -/
def Chain (next : node → node) (entries : List node) : Prop :=
  entries.IsChain fun first second => next first = second

theorem chain_tail
    {head : node}
    {rest : List node}
    (chain : Chain next (head :: rest)) :
    Chain next rest :=
  List.IsChain.tail chain

/-- Changing links outside the chain, or that of its last entry, keeps it. -/
theorem chain_congr
    {other : node → node}
    (agree : ∀ first ∈ entries.dropLast, other first = next first)
    (chain : Chain next entries) :
    Chain other entries := by
  induction entries with
  | nil => exact List.isChain_nil
  | cons head rest ih =>
    cases rest with
    | nil => exact List.isChain_singleton head
    | cons second rest =>
      simp only [Chain, List.isChain_cons_cons] at chain ⊢
      refine ⟨?_, ih ?_ chain.2⟩
      · rw [agree head mem_cons_self]
        exact chain.1
      · intro first member
        exact agree first (mem_cons_of_mem _ member)

/-- Two chains joined at the link of the last entry of the first. -/
theorem chain_append
    (frontChain : Chain next front)
    (backChain : Chain next back)
    (joined : ∀ last ∈ front.getLast?, ∀ first ∈ back.head?,
      next last = first) :
    Chain next (front ++ back) :=
  List.isChain_append.mpr ⟨frontChain, backChain, joined⟩

/-- A chain is what its links lead through from its first entry on. -/
theorem iterate_chain
    {fallback : node}
    (chain : Chain next entries) :
    List.iterate next (entries.headD fallback) entries.length = entries := by
  induction entries with
  | nil => rfl
  | cons head rest ih =>
    rw [headD_cons, List.length_cons, List.iterate]
    cases rest with
    | nil => rfl
    | cons second rest =>
      have following := ih (chain_tail chain)
      rw [headD_cons] at following
      rw [(List.isChain_cons_cons.mp chain).1, following]

/-- Entries in front of the last one differ from it. -/
theorem ne_getLast_of_mem_dropLast
    (distinct : entries.Nodup)
    {entry last : node}
    (member : entry ∈ entries.dropLast)
    (isLast : last ∈ entries.getLast?) :
    entry ≠ last := by
  rintro rfl
  have split := List.dropLast_append_getLast? entry isLast
  rw [← split, List.nodup_append] at distinct
  exact distinct.2.2 entry member entry mem_cons_self rfl

/-! ## Rings -/

/-- The links lead from `start` through the items to `stop` and back. -/
def Path (next prev : node → node) : node → List node → node → Prop
  | start, [], stop => next start = stop ∧ prev stop = start
  | start, item :: rest, stop =>
    next start = item ∧ prev item = start ∧ Path next prev item rest stop

/-- The links lead from the head through the items back to the head. -/
abbrev Ring (next prev : node → node) (head : node) (items : List node) :
    Prop :=
  Path next prev head items head

variable {next prev : node → node}

theorem path_append
    {middle : node}
    {front back : List node} :
    Path next prev start (front ++ middle :: back) stop ↔
      Path next prev start front middle ∧
        Path next prev middle back stop := by
  induction front generalizing start with
  | nil => simp only [nil_append, Path, and_assoc]
  | cons item rest ih => simp only [List.cons_append, Path, ih, and_assoc]

theorem path_congr
    {otherNext otherPrev : node → node}
    (nextAgree : ∀ entry ∈ start :: items, otherNext entry = next entry)
    (prevAgree : ∀ entry ∈ stop :: items, otherPrev entry = prev entry)
    (path : Path next prev start items stop) :
    Path otherNext otherPrev start items stop := by
  induction items generalizing start with
  | nil =>
    refine ⟨?_, ?_⟩
    · rw [nextAgree start mem_cons_self]
      exact path.1
    · rw [prevAgree stop mem_cons_self]
      exact path.2
  | cons item rest ih =>
    refine ⟨?_, ?_, ih ?_ ?_ path.2.2⟩
    · rw [nextAgree start mem_cons_self]
      exact path.1
    · rw [prevAgree item (mem_cons_of_mem _ mem_cons_self)]
      exact path.2.1
    · intro entry member
      exact nextAgree entry (mem_cons_of_mem _ member)
    · intro entry member
      apply prevAgree entry
      rcases mem_cons.mp member with rfl | inRest
      · exact mem_cons_self
      · exact mem_cons_of_mem _ (mem_cons_of_mem _ inRest)

/-- The first step of a path. -/
theorem path_next
    (path : Path next prev start items stop) :
    next start = items.headD stop := by
  cases items with
  | nil => exact path.1
  | cons item rest => exact path.1

/-- The last step of a path. -/
theorem path_prev
    (path : Path next prev start items stop) :
    prev stop = items.getLastD start := by
  induction items generalizing start with
  | nil => exact path.2
  | cons item rest ih => rw [ih path.2.2, getLastD_cons]

/-- The step from one stretch of a path to the next. -/
theorem path_next_between
    (path : Path next prev start (front ++ back) stop) :
    next (front.getLastD start) = back.headD stop := by
  induction front generalizing start with
  | nil => exact path_next path
  | cons item rest ih =>
    rw [getLastD_cons]
    exact ih path.2.2

section Updates

variable [DecidableEq node] {start stop item : node} {front back : List node}

/-- Closing the gap an item leaves. -/
theorem path_remove
    (distinct : (start :: (front ++ item :: back)).Nodup)
    (stopOutside : stop ∉ front ++ item :: back)
    (path : Path next prev start (front ++ item :: back) stop) :
    Path (update next (prev item) (next item))
      (update prev (next item) (prev item))
      start (front ++ back) stop := by
  induction front generalizing start with
  | nil =>
    simp only [nil_append, Path] at path ⊢
    obtain ⟨_, before, after⟩ := path
    simp only [nil_append, nodup_cons, mem_cons, not_or]
      at distinct
    simp only [nil_append, mem_cons, not_or] at stopOutside
    rw [before]
    cases back with
    | nil =>
      obtain ⟨last, _⟩ := after
      simp only [Path, last, update_self, and_self]
    | cons second rest =>
      obtain ⟨first, _, tail⟩ := after
      refine ⟨?_, ?_, ?_⟩
      · rw [update_self, first]
      · rw [first, update_self]
      · apply path_congr _ _ tail
        · intro entry member
          apply update_of_ne
          rintro rfl
          exact distinct.1.2 member
        · intro entry member
          apply update_of_ne
          rw [first]
          rintro rfl
          rcases mem_cons.mp member with rfl | inRest
          · exact stopOutside.2 mem_cons_self
          · exact (nodup_cons.mp distinct.2.2).1 inRest
  | cons head rest ih =>
    obtain ⟨first, back', tail⟩ := path
    have inner : (head :: (rest ++ item :: back)).Nodup :=
      (nodup_cons.mp distinct).2
    have startOutside := (nodup_cons.mp distinct).1
    have before : prev item ∈ head :: rest := by
      have split := (path_append.mp tail).1
      rw [path_prev split]
      exact List.getLastD_mem_cons
    have after : next item ∈ stop :: back := by
      have split := (path_append.mp tail).2
      rw [path_next split]
      cases back <;> simp
    refine ⟨?_, ?_, ih inner ?_ tail⟩
    · rw [update_of_ne, first]
      rintro rfl
      apply startOutside
      rcases mem_cons.mp before with same | inRest
      · rw [same]
        exact mem_cons_self
      · exact mem_cons_of_mem _ (List.mem_append_left _ inRest)
    · rw [update_of_ne, back']
      intro same
      rw [← same] at after
      rcases mem_cons.mp after with rfl | inBack
      · exact stopOutside mem_cons_self
      · exact (nodup_cons.mp inner).1
          (List.mem_append_right _ (mem_cons_of_mem _ inBack))
    · exact fun inside => stopOutside (mem_cons_of_mem _ inside)

/-- Inserting an item in front of `stop`. -/
theorem path_insert
    (distinct : (start :: items).Nodup)
    (outside : item ∉ start :: items)
    (stopOutside : stop ∉ items)
    (different : item ≠ stop)
    (path : Path next prev start items stop) :
    Path (update (update next item stop) (prev stop) item)
      (update (update prev stop item) item (prev stop))
      start (items ++ [item]) stop := by
  induction items generalizing start with
  | nil =>
    obtain ⟨_, last⟩ := path
    have itemOutside : item ≠ start := by simpa using outside
    rw [last]
    refine ⟨?_, ?_, ?_, ?_⟩
    · exact update_self ..
    · exact update_self ..
    · rw [update_of_ne itemOutside, update_self]
    · rw [update_of_ne different.symm, update_self]
  | cons head rest ih =>
    obtain ⟨first, before, tail⟩ := path
    have inner := (nodup_cons.mp distinct).2
    have startOutside := (nodup_cons.mp distinct).1
    have last : prev stop ∈ head :: rest := by
      rw [path_prev tail]
      exact List.getLastD_mem_cons
    simp only [mem_cons, not_or] at outside stopOutside
    refine ⟨?_, ?_, ih inner ?_ stopOutside.2 tail⟩
    · rw [update_of_ne, update_of_ne (Ne.symm outside.1), first]
      rintro rfl
      exact startOutside last
    · rw [update_of_ne (Ne.symm outside.2.1),
        update_of_ne (Ne.symm stopOutside.1), before]
    · simp only [mem_cons, not_or]
      exact outside.2

/-- Inserting an item between two stretches of a path. -/
theorem path_insertBetween
    (distinct : (start :: (front ++ back)).Nodup)
    (outside : item ∉ start :: (front ++ back))
    (stopOutside : stop ∉ front ++ back)
    (different : item ≠ stop)
    (path : Path next prev start (front ++ back) stop) :
    Path
      (update (update next item (back.headD stop)) (front.getLastD start) item)
      (update (update prev (back.headD stop) item) item (front.getLastD start))
      start (front ++ item :: back) stop := by
  induction front generalizing start with
  | nil =>
    rw [nil_append] at distinct outside stopOutside path ⊢
    have itemOutside : item ≠ start := fun same =>
      outside (same ▸ mem_cons_self)
    refine ⟨update_self .., update_self .., ?_⟩
    cases back with
    | nil =>
      refine ⟨?_, ?_⟩
      · rw [List.getLastD_nil, update_of_ne itemOutside,
          update_self, List.headD_nil]
      · rw [update_of_ne different.symm, List.headD_nil, update_self]
    | cons second rest =>
      obtain ⟨_, _, tail⟩ := path
      simp only [nodup_cons, mem_cons, not_or]
        at distinct outside stopOutside
      refine ⟨?_, ?_, path_congr ?_ ?_ tail⟩
      · rw [List.getLastD_nil, update_of_ne itemOutside,
          update_self, headD_cons]
      · rw [update_of_ne (Ne.symm outside.2.1), headD_cons, update_self]
      · intro entry member
        rw [update_of_ne, update_of_ne]
        · rintro rfl
          exact outside.2.elim fun first later =>
            (mem_cons.mp member).elim first later
        · rintro rfl
          exact (mem_cons.mp member).elim distinct.1.1 distinct.1.2
      · intro entry member
        rw [update_of_ne, update_of_ne]
        · rintro rfl
          rcases mem_cons.mp member with same | inRest
          · exact stopOutside.1 same.symm
          · exact distinct.2.1 inRest
        · rintro rfl
          exact (mem_cons.mp member).elim different outside.2.2
  | cons head rest ih =>
    obtain ⟨first, before, tail⟩ := path
    have inner := (nodup_cons.mp distinct).2
    have startOutside := (nodup_cons.mp distinct).1
    have headOutside := (nodup_cons.mp inner).1
    simp only [List.cons_append, mem_cons, not_or] at outside stopOutside
    rw [getLastD_cons]
    refine ⟨?_, ?_, ih inner ?_ stopOutside.2 tail⟩
    · rw [update_of_ne, update_of_ne (Ne.symm outside.1), first]
      intro same
      apply startOutside
      rw [same]
      rcases mem_cons.mp
        (List.getLastD_mem_cons (l := rest) (a := head)) with last | inRest
      · rw [last]
        exact mem_cons_self
      · exact mem_cons_of_mem _ (List.mem_append_left _ inRest)
    · rw [update_of_ne (Ne.symm outside.2.1), update_of_ne, before]
      cases back with
      | nil => exact fun same => stopOutside.1 same.symm
      | cons second others =>
        rintro rfl
        exact headOutside (List.mem_append_right _ mem_cons_self)
    · simp only [mem_cons, not_or]
      exact outside.2

end Updates

end Links
