import Mathlib.Data.List.Perm.Subperm
import PvrServices.Arena.Calls
import PvrServices.Lib.DoublyLinked

/-!
# The lists of an arena

The list functions are shown to act on the list of all tags and on the lists
of free tags as their names say.  While a call works on a tag it may be off
its free list; such tags are pending.
-/

namespace PvrServices.Arena

open Function (update update_of_ne update_self)
open DoublyLinked
open Memory (forward insertAfter remove setBackward setForward)
open List (append_cons head?_cons mem_append mem_cons mem_cons_self
  mem_of_mem_head? nodup_cons nodup_middle perm_middle)

/-- The pointers of the list of all tags. -/
def segmentLinks (segments : Segments) : Memory Address where
  head := segments.pHeadSegment
  tail := segments.pTailSegment
  next := segments.pNextSegment
  prev := segments.pPrevSegment

/-- The pointers of a free list, which has no tail pointer of its own. -/
def freeLinks (segments : Segments) (uIndex : Nat) (tail : Option Address) :
    Memory Address where
  head := segments.aHeadFree uIndex
  tail := tail
  next := segments.pNextFree
  prev := segments.pPrevFree

/-- The tag belongs on the free list of the class. -/
structure OnFreeList (segments : Segments) (all pending : List Address)
    (uIndex : Nat) (pBT : Address) : Prop where
  listed : pBT ∈ all
  settled : pBT ∉ pending
  free : (segments.bt pBT).type = .free
  sized : pvrLog2 (segments.bt pBT).uSize = uIndex

/-- The free list of a class holds the free tags of the class that are not
pending. -/
def Files (segments : Segments) (all pending : List Address)
    (uIndex : Nat) : Prop :=
  ∃ tail entries, Holds (freeLinks segments uIndex tail) entries ∧
    entries.Nodup ∧
      ∀ pBT, pBT ∈ entries ↔ OnFreeList segments all pending uIndex pBT

/-- The list of all tags, and the free lists of those that are not pending. -/
structure Filed (segments : Segments) (all pending : List Address) :
    Prop where
  links : Holds (segmentLinks segments) all
  distinct : all.Nodup
  bounded : ∀ pBT ∈ all, pBT < segments.fresh
  files : ∀ uIndex, Files segments all pending uIndex

variable {segments other : Segments}
  {all pending before after allAfter pendingAfter : List Address}
  {pBT point : Address}

/-! ## What the list functions leave alone -/

namespace Segments

variable (segments : Segments) (pBT : Address)

@[simp] theorem bt_setBt
    (contents : Bt) :
    (segments.setBt pBT contents).bt =
      update segments.bt pBT contents :=
  rfl

@[simp] theorem bt_freeListRemove :
    (segments.freeListRemove pBT).bt = segments.bt := by
  unfold freeListRemove
  cases segments.pNextFree pBT <;> cases segments.pPrevFree pBT <;> rfl

@[simp] theorem fresh_freeListRemove :
    (segments.freeListRemove pBT).fresh = segments.fresh := by
  unfold freeListRemove
  cases segments.pNextFree pBT <;> cases segments.pPrevFree pBT <;> rfl

@[simp] theorem bt_freeListInsert :
    (segments.freeListInsert pBT).bt =
      update segments.bt pBT { segments.bt pBT with type := .free } := by
  simp only [freeListInsert]
  cases segments.aHeadFree (pvrLog2 (segments.bt pBT).uSize) <;> rfl

@[simp] theorem fresh_freeListInsert :
    (segments.freeListInsert pBT).fresh = segments.fresh := by
  simp only [freeListInsert]
  cases segments.aHeadFree (pvrLog2 (segments.bt pBT).uSize) <;> rfl

@[simp] theorem bt_segmentListRemove :
    (segments.segmentListRemove pBT).bt = segments.bt := by
  unfold segmentListRemove
  cases segments.pNextSegment pBT <;> cases segments.pPrevSegment pBT <;> rfl

@[simp] theorem fresh_segmentListRemove :
    (segments.segmentListRemove pBT).fresh = segments.fresh := by
  unfold segmentListRemove
  cases segments.pNextSegment pBT <;> cases segments.pPrevSegment pBT <;> rfl

@[simp] theorem bt_segmentListInsertAfter
    (point pBT : Address) :
    (segments.segmentListInsertAfter point pBT).bt = segments.bt := by
  unfold segmentListInsertAfter
  cases segments.pNextSegment point <;> rfl

@[simp] theorem fresh_segmentListInsertAfter
    (point pBT : Address) :
    (segments.segmentListInsertAfter point pBT).fresh = segments.fresh := by
  unfold segmentListInsertAfter
  cases segments.pNextSegment point <;> rfl

end Segments

/-! ## The list of all tags -/

theorem segmentLinks_segmentListRemove
    (segments : Segments)
    (pBT : Address) :
    segmentLinks (segments.segmentListRemove pBT) =
      (segmentLinks segments).remove pBT := by
  have prev : (segmentLinks segments).prev pBT = segments.pPrevSegment pBT :=
    rfl
  have next : (segmentLinks segments).next pBT = segments.pNextSegment pBT :=
    rfl
  rw [remove, prev, next, Segments.segmentListRemove]
  cases segments.pNextSegment pBT <;> cases segments.pPrevSegment pBT <;> rfl

theorem segmentLinks_segmentListInsertAfter
    (fresh : segments.pNextSegment point ≠ some pBT) :
    segmentLinks (segments.segmentListInsertAfter point pBT) =
      (segmentLinks segments).insertAfter (some point) pBT := by
  have next : (segmentLinks segments).forward (some point) =
      segments.pNextSegment point := rfl
  rw [insertAfter, next, Segments.segmentListInsertAfter]
  cases following : segments.pNextSegment point with
  | none => rfl
  | some next =>
    have nextDifferent : pBT ≠ next := by
      rintro rfl
      exact fresh following
    simp only [segmentLinks, setForward, setBackward]
    congr 1
    exact Function.update_comm nextDifferent _ _ _

theorem Filed.pPrevSegment
    (filed : Filed segments (before ++ pBT :: after) pending) :
    segments.pPrevSegment pBT = before.getLast? :=
  filed.links.prev_eq

theorem Filed.pNextSegment
    (filed : Filed segments (before ++ pBT :: after) pending) :
    segments.pNextSegment pBT = after.head? :=
  filed.links.next_eq

theorem Filed.pHeadSegment
    (filed : Filed segments all pending) :
    segments.pHeadSegment = all.head? :=
  filed.links.head_eq

/-! ## The free lists -/

theorem OnFreeList.unique
    {first second : Nat}
    (onFirst : OnFreeList segments all pending first pBT)
    (onSecond : OnFreeList segments all pending second pBT) :
    first = second :=
  onFirst.sized.symm.trans onSecond.sized

/-- A free list depends on its head, the pointers of its tags and on which
tags belong on it. -/
theorem Files.congr
    {uIndex : Nat}
    (files : Files segments all pending uIndex)
    (head : other.aHeadFree uIndex = segments.aHeadFree uIndex)
    (next : ∀ entry, OnFreeList segments all pending uIndex entry →
      other.pNextFree entry = segments.pNextFree entry)
    (prev : ∀ entry, OnFreeList segments all pending uIndex entry →
      other.pPrevFree entry = segments.pPrevFree entry)
    (same : ∀ entry, OnFreeList other allAfter pendingAfter uIndex entry ↔
      OnFreeList segments all pending uIndex entry) :
    Files other allAfter pendingAfter uIndex := by
  obtain ⟨tail, entries, holds, distinct, members⟩ := files
  refine ⟨tail, entries, ?_, distinct, ?_⟩
  · refine holds.congr head rfl ?_ ?_
    · intro entry member
      exact next entry ((members entry).mp member)
    · intro entry member
      exact prev entry ((members entry).mp member)
  · intro entry
    rw [members entry]
    exact (same entry).symm

/-- Contents of the listed tags that are not pending, and their list pointers,
say everything about the free lists. -/
theorem Filed.files_congr
    (filed : Filed segments all pending)
    (head : other.aHeadFree = segments.aHeadFree)
    (next : ∀ entry ∈ all, other.pNextFree entry = segments.pNextFree entry)
    (prev : ∀ entry ∈ all, other.pPrevFree entry = segments.pPrevFree entry)
    (same : ∀ uIndex entry,
      OnFreeList other allAfter pendingAfter uIndex entry ↔
        OnFreeList segments all pending uIndex entry)
    (uIndex : Nat) :
    Files other allAfter pendingAfter uIndex := by
  apply (filed.files uIndex).congr
  · rw [head]
  · exact fun entry onList => next entry onList.listed
  · exact fun entry onList => prev entry onList.listed
  · exact same uIndex

/-- Only the pending tags that are free and listed matter. -/
theorem Filed.pending_congr
    (filed : Filed segments all pending)
    (same : ∀ entry ∈ all, (segments.bt entry).type = .free →
      (entry ∈ pendingAfter ↔ entry ∈ pending)) :
    Filed segments all pendingAfter where
  links := filed.links
  distinct := filed.distinct
  bounded := filed.bounded
  files := by
    apply filed.files_congr rfl (fun _ _ => rfl) (fun _ _ => rfl)
    intro uIndex entry
    constructor
    · intro onList
      exact { onList with
        settled := fun isPending => onList.settled
          ((same entry onList.listed onList.free).mpr isPending) }
    · intro onList
      exact { onList with
        settled := fun isPending => onList.settled
          ((same entry onList.listed onList.free).mp isPending) }

/-- A pending tag that is not listed can be forgotten. -/
theorem Filed.forget
    (filed : Filed segments all (pBT :: pending))
    (absent : pBT ∉ all) :
    Filed segments all pending := by
  apply filed.pending_congr
  intro entry member _
  rw [mem_cons, or_iff_right]
  rintro rfl
  exact absent member

/-- A pending tag that is not free needs no list. -/
theorem Filed.settle
    (filed : Filed segments all (pBT :: pending))
    (taken : (segments.bt pBT).type ≠ .free) :
    Filed segments all pending := by
  apply filed.pending_congr
  intro entry member free
  rw [mem_cons, or_iff_right]
  rintro rfl
  exact taken free

/-- A tag that is not free can be made pending. -/
theorem Filed.unsettle
    (filed : Filed segments all pending)
    (taken : (segments.bt pBT).type ≠ .free) :
    Filed segments all (pBT :: pending) := by
  apply filed.pending_congr
  intro entry member free
  rw [mem_cons, or_iff_right]
  rintro rfl
  exact taken free

/-- The contents of a pending tag can be overwritten. -/
theorem Filed.setBt
    (filed : Filed segments all pending)
    (isPending : pBT ∈ pending)
    (contents : Bt) :
    Filed (segments.setBt pBT contents) all pending where
  links := filed.links
  distinct := filed.distinct
  bounded := filed.bounded
  files := by
    refine filed.files_congr rfl (fun _ _ => rfl) (fun _ _ => rfl) ?_
    intro uIndex entry
    have elsewhere : entry ∉ pending →
        (segments.setBt pBT contents).bt entry = segments.bt entry := by
      intro settled
      rw [Segments.bt_setBt, update_of_ne]
      rintro rfl
      exact settled isPending
    constructor
    · intro onList
      have same := elsewhere onList.settled
      exact ⟨onList.listed, onList.settled, same ▸ onList.free,
        same ▸ onList.sized⟩
    · intro onList
      have same := elsewhere onList.settled
      exact ⟨onList.listed, onList.settled, same.symm ▸ onList.free,
        same.symm ▸ onList.sized⟩

theorem freeLinks_freeListRemove
    (segments : Segments)
    (pBT : Address)
    (tail : Option Address) :
    ∃ tailAfter, freeLinks (segments.freeListRemove pBT)
        (pvrLog2 (segments.bt pBT).uSize) tailAfter =
      (freeLinks segments (pvrLog2 (segments.bt pBT).uSize) tail).remove
        pBT := by
  refine ⟨((freeLinks segments (pvrLog2 (segments.bt pBT).uSize) tail).remove
    pBT).tail, ?_⟩
  have prev : (freeLinks segments (pvrLog2 (segments.bt pBT).uSize) tail).prev
      pBT = segments.pPrevFree pBT := rfl
  have next : (freeLinks segments (pvrLog2 (segments.bt pBT).uSize) tail).next
      pBT = segments.pNextFree pBT := rfl
  rw [remove, prev, next]
  simp only [freeLinks, Segments.freeListRemove]
  cases segments.pNextFree pBT <;> cases segments.pPrevFree pBT <;>
    simp [setForward, setBackward]

/-- A free tag is taken off its free list. -/
theorem Filed.freeListRemove
    (filed : Filed segments all pending)
    (listed : pBT ∈ all)
    (settled : pBT ∉ pending)
    (free : (segments.bt pBT).type = .free) :
    Filed (segments.freeListRemove pBT) all (pBT :: pending) where
  links := by
    have same : segmentLinks (segments.freeListRemove pBT) =
        segmentLinks segments := by
      simp only [segmentLinks, Segments.freeListRemove]
      cases segments.pNextFree pBT <;> cases segments.pPrevFree pBT <;> rfl
    rw [same]
    exact filed.links
  distinct := filed.distinct
  bounded := by
    rw [Segments.fresh_freeListRemove]
    exact filed.bounded
  files := by
    intro uIndex
    have onFreeList_iff : ∀ entry,
        OnFreeList (segments.freeListRemove pBT) all (pBT :: pending) uIndex
            entry ↔
          OnFreeList segments all pending uIndex entry ∧ entry ≠ pBT := by
      intro entry
      constructor
      · rintro ⟨entryListed, entrySettled, entryFree, sized⟩
        rw [Segments.bt_freeListRemove] at entryFree sized
        rw [mem_cons, not_or] at entrySettled
        exact ⟨⟨entryListed, entrySettled.2, entryFree, sized⟩, entrySettled.1⟩
      · rintro ⟨⟨entryListed, entrySettled, entryFree, sized⟩, different⟩
        refine ⟨entryListed, ?_, ?_, ?_⟩
        · rw [mem_cons, not_or]
          exact ⟨different, entrySettled⟩
        · rw [Segments.bt_freeListRemove]
          exact entryFree
        · rw [Segments.bt_freeListRemove]
          exact sized
    obtain ⟨tail, entries, holds, distinct, members⟩ :=
      filed.files (pvrLog2 (segments.bt pBT).uSize)
    have onList : pBT ∈ entries :=
      (members pBT).mpr ⟨listed, settled, free, rfl⟩
    obtain ⟨front, back, rfl⟩ := List.append_of_mem onList
    by_cases isClass : uIndex = pvrLog2 (segments.bt pBT).uSize
    · subst isClass
      obtain ⟨tailAfter, links⟩ := freeLinks_freeListRemove segments pBT tail
      refine ⟨tailAfter, front ++ back, ?_, ?_, ?_⟩
      · rw [links]
        exact holds.remove distinct
      · exact distinct.sublist
          (List.Sublist.append_left (List.sublist_cons_self ..) _)
      · intro entry
        rw [onFreeList_iff, ← members entry]
        have absent := (nodup_middle.mp distinct)
        rw [nodup_cons] at absent
        simp only [mem_append, mem_cons]
        constructor
        · intro member
          refine ⟨by tauto, ?_⟩
          rintro rfl
          exact absent.1 (mem_append.mpr member)
        · tauto
    · have prev := holds.prev_eq
      have next := holds.next_eq
      have elsewhere : ∀ entry, OnFreeList segments all pending uIndex entry →
          entry ∉ front ++ pBT :: back := fun entry onOther member =>
        isClass (onOther.unique ((members entry).mp member))
      change segments.pPrevFree pBT = _ at prev
      change segments.pNextFree pBT = _ at next
      apply (filed.files uIndex).congr
      · rw [Segments.freeListRemove]
        cases segments.pNextFree pBT <;> cases segments.pPrevFree pBT <;>
          simp [update_of_ne isClass]
      · intro entry onOther
        have absent := elsewhere entry onOther
        rw [Segments.freeListRemove, prev]
        cases last : front.getLast? with
        | none => cases segments.pNextFree pBT <;> rfl
        | some neighbour =>
          have different : entry ≠ neighbour := by
            rintro rfl
            exact absent (List.mem_append_left _ (List.mem_of_getLast? last))
          cases segments.pNextFree pBT <;>
            exact update_of_ne different ..
      · intro entry onOther
        have absent := elsewhere entry onOther
        rw [Segments.freeListRemove, next]
        cases first : back.head? with
        | none => cases segments.pPrevFree pBT <;> rfl
        | some neighbour =>
          have different : entry ≠ neighbour := by
            rintro rfl
            exact absent (List.mem_append_right _
              (List.mem_cons_of_mem _ (mem_of_mem_head? first)))
          cases segments.pPrevFree pBT <;>
            exact update_of_ne different ..
      · intro entry
        rw [onFreeList_iff]
        constructor
        · exact fun both => both.1
        · intro onOther
          refine ⟨onOther, ?_⟩
          rintro rfl
          exact isClass onOther.sized.symm

theorem freeLinks_freeListInsert
    (tail : Option Address)
    (fresh : segments.aHeadFree (pvrLog2 (segments.bt pBT).uSize) ≠
      some pBT) :
    ∃ tailAfter, freeLinks (segments.freeListInsert pBT)
        (pvrLog2 (segments.bt pBT).uSize) tailAfter =
      (freeLinks segments (pvrLog2 (segments.bt pBT).uSize) tail).insertAfter
        none pBT := by
  refine ⟨((freeLinks segments (pvrLog2 (segments.bt pBT).uSize)
    tail).insertAfter none pBT).tail, ?_⟩
  have head : (freeLinks segments (pvrLog2 (segments.bt pBT).uSize)
      tail).forward none =
        segments.aHeadFree (pvrLog2 (segments.bt pBT).uSize) := rfl
  rw [insertAfter, head]
  simp only [freeLinks, Segments.freeListInsert, Segments.setBt]
  cases first : segments.aHeadFree (pvrLog2 (segments.bt pBT).uSize) with
  | none => simp [setForward, setBackward]
  | some other =>
    have different : other ≠ pBT := by
      rintro rfl
      exact fresh first
    simp [setForward, setBackward, Function.update_comm different]

/-- A pending tag is put on the free list of its class. -/
theorem Filed.freeListInsert
    (filed : Filed segments all (pBT :: pending))
    (listed : pBT ∈ all)
    (settled : pBT ∉ pending) :
    Filed (segments.freeListInsert pBT) all pending where
  links := by
    have same : segmentLinks (segments.freeListInsert pBT) =
        segmentLinks segments := by
      simp only [segmentLinks, Segments.freeListInsert]
      cases segments.aHeadFree (pvrLog2 (segments.bt pBT).uSize) <;> rfl
    rw [same]
    exact filed.links
  distinct := filed.distinct
  bounded := by
    rw [Segments.fresh_freeListInsert]
    exact filed.bounded
  files := by
    intro uIndex
    have onFreeList_iff : ∀ entry,
        OnFreeList (segments.freeListInsert pBT) all pending uIndex entry ↔
          OnFreeList segments all (pBT :: pending) uIndex entry ∨
            entry = pBT ∧ uIndex = pvrLog2 (segments.bt pBT).uSize := by
      intro entry
      by_cases isTag : entry = pBT
      · subst isTag
        constructor
        · rintro ⟨_, _, _, sized⟩
          rw [Segments.bt_freeListInsert, update_self] at sized
          exact Or.inr ⟨rfl, sized.symm⟩
        · rintro (onList | ⟨_, sized⟩)
          · exact absurd mem_cons_self onList.settled
          · refine ⟨listed, settled, ?_, ?_⟩
            · rw [Segments.bt_freeListInsert, update_self]
            · rw [Segments.bt_freeListInsert, update_self]
              exact sized.symm
      · have same : (segments.freeListInsert pBT).bt entry =
            segments.bt entry := by
          rw [Segments.bt_freeListInsert, update_of_ne isTag]
        constructor
        · rintro ⟨entryListed, entrySettled, entryFree, sized⟩
          rw [same] at entryFree sized
          refine Or.inl ⟨entryListed, ?_, entryFree, sized⟩
          rw [mem_cons, not_or]
          exact ⟨isTag, entrySettled⟩
        · rintro (⟨entryListed, entrySettled, entryFree, sized⟩ | ⟨is, _⟩)
          · rw [mem_cons, not_or] at entrySettled
            exact ⟨entryListed, entrySettled.2, same ▸ entryFree, same ▸ sized⟩
          · exact absurd is isTag
    obtain ⟨tail, entries, holds, distinct, members⟩ :=
      filed.files (pvrLog2 (segments.bt pBT).uSize)
    have absent : pBT ∉ entries := fun member =>
      ((members pBT).mp member).settled mem_cons_self
    have head := holds.head_eq
    change segments.aHeadFree _ = _ at head
    by_cases isClass : uIndex = pvrLog2 (segments.bt pBT).uSize
    · subst isClass
      have fresh : segments.aHeadFree (pvrLog2 (segments.bt pBT).uSize) ≠
          some pBT := by
        rw [head]
        exact fun first => absent (mem_of_mem_head? first)
      obtain ⟨tailAfter, links⟩ := freeLinks_freeListInsert tail fresh
      refine ⟨tailAfter, pBT :: entries, ?_, ?_, ?_⟩
      · rw [links]
        have front : Holds _ ([] ++ entries) := holds
        exact front.insertAfter distinct absent
      · exact nodup_cons.mpr ⟨absent, distinct⟩
      · intro entry
        rw [onFreeList_iff, ← members entry, mem_cons]
        tauto
    · apply (filed.files uIndex).congr
      · simp only [Segments.freeListInsert]
        cases segments.aHeadFree (pvrLog2 (segments.bt pBT).uSize) <;>
          exact update_of_ne isClass ..
      · intro entry onOther
        have different : entry ≠ pBT := by
          rintro rfl
          exact onOther.settled mem_cons_self
        simp only [Segments.freeListInsert]
        cases segments.aHeadFree (pvrLog2 (segments.bt pBT).uSize) <;>
          exact update_of_ne different ..
      · intro entry onOther
        have different : entry ≠ pBT := by
          rintro rfl
          exact onOther.settled mem_cons_self
        simp only [Segments.freeListInsert]
        cases first : segments.aHeadFree (pvrLog2 (segments.bt pBT).uSize) with
        | none => exact update_of_ne different ..
        | some other =>
          have otherDifferent : entry ≠ other := by
            rintro rfl
            rw [first] at head
            exact isClass (onOther.unique ((members entry).mp
              (mem_of_mem_head? head.symm)))
          exact (update_of_ne otherDifferent ..).trans
            (update_of_ne different ..)
      · intro entry
        rw [onFreeList_iff]
        tauto

/-! ## Changing the list of all tags -/

/-- A pending tag leaves the list. -/
theorem Filed.segmentListRemove
    (filed : Filed segments (before ++ pBT :: after) pending)
    (isPending : (segments.bt pBT).type = .free → pBT ∈ pending) :
    Filed (segments.segmentListRemove pBT) (before ++ after) pending where
  links := by
    rw [segmentLinks_segmentListRemove]
    exact filed.links.remove filed.distinct
  distinct := (nodup_cons.mp (nodup_middle.mp filed.distinct)).2
  bounded := by
    intro entry member
    rw [Segments.fresh_segmentListRemove]
    apply filed.bounded
    simp only [mem_append, mem_cons] at member ⊢
    tauto
  files := by
    have absent := (nodup_cons.mp (nodup_middle.mp filed.distinct)).1
    apply filed.files_congr
    · unfold Segments.segmentListRemove
      cases segments.pNextSegment pBT <;>
        cases segments.pPrevSegment pBT <;> rfl
    · intro entry _
      unfold Segments.segmentListRemove
      cases segments.pNextSegment pBT <;>
        cases segments.pPrevSegment pBT <;> rfl
    · intro entry _
      unfold Segments.segmentListRemove
      cases segments.pNextSegment pBT <;>
        cases segments.pPrevSegment pBT <;> rfl
    · intro uIndex entry
      have same : (segments.segmentListRemove pBT).bt = segments.bt :=
        Segments.bt_segmentListRemove segments pBT
      constructor
      · rintro ⟨listed, settled, free, sized⟩
        rw [same] at free sized
        refine ⟨?_, settled, free, sized⟩
        simp only [mem_append, mem_cons] at listed ⊢
        tauto
      · rintro ⟨listed, settled, free, sized⟩
        refine ⟨?_, settled, same ▸ free, same ▸ sized⟩
        simp only [mem_append, mem_cons] at listed ⊢
        rcases listed with inBefore | rfl | inAfter
        · exact Or.inl inBefore
        · exact absurd (isPending free) settled
        · exact Or.inr inAfter

/-- A tag that is not listed is linked in behind a place. -/
theorem Filed.insert
    {linked : Segments}
    (filed : Filed segments (before ++ after) pending)
    (absent : pBT ∉ before ++ after)
    (built : pBT < segments.fresh)
    (isPending : (segments.bt pBT).type = .free → pBT ∈ pending)
    (links : segmentLinks linked =
      (segmentLinks segments).insertAfter before.getLast? pBT)
    (rest : linked.bt = segments.bt ∧ linked.fresh = segments.fresh ∧
      linked.aHeadFree = segments.aHeadFree ∧
        linked.pNextFree = segments.pNextFree ∧
          linked.pPrevFree = segments.pPrevFree) :
    Filed linked (before ++ pBT :: after) pending where
  links := by
    rw [links]
    exact filed.links.insertAfter filed.distinct absent
  distinct := by
    rw [nodup_middle, nodup_cons]
    exact ⟨absent, filed.distinct⟩
  bounded := by
    intro entry member
    rw [rest.2.1]
    rcases mem_cons.mp (perm_middle.mem_iff.mp member) with
      rfl | listed
    · exact built
    · exact filed.bounded entry listed
  files := by
    apply filed.files_congr rest.2.2.1 (fun entry _ => by rw [rest.2.2.2.1])
      (fun entry _ => by rw [rest.2.2.2.2])
    intro uIndex entry
    constructor
    · rintro ⟨listed, settled, free, sized⟩
      rw [rest.1] at free sized
      refine ⟨?_, settled, free, sized⟩
      rcases mem_cons.mp (perm_middle.mem_iff.mp listed) with
        rfl | old
      · exact absurd (isPending free) settled
      · exact old
    · rintro ⟨listed, settled, free, sized⟩
      refine ⟨?_, settled, rest.1 ▸ free, rest.1 ▸ sized⟩
      exact perm_middle.mem_iff.mpr (List.mem_cons_of_mem _ listed)

/-- A tag that is not listed is linked in behind a listed one. -/
theorem Filed.segmentListInsertAfter
    (filed : Filed segments (before ++ point :: after) pending)
    (absent : pBT ∉ before ++ point :: after)
    (built : pBT < segments.fresh)
    (isPending : (segments.bt pBT).type = .free → pBT ∈ pending) :
    Filed (segments.segmentListInsertAfter point pBT)
      (before ++ point :: pBT :: after) pending := by
  have fresh : segments.pNextSegment point ≠ some pBT := by
    rw [filed.pNextSegment]
    intro first
    apply absent
    simp [mem_of_mem_head? first]
  rw [append_cons] at filed absent ⊢
  apply filed.insert absent built isPending
  · rw [segmentLinks_segmentListInsertAfter fresh, List.getLast?_concat]
  · unfold Segments.segmentListInsertAfter
    cases segments.pNextSegment point <;> exact ⟨rfl, rfl, rfl, rfl, rfl⟩

theorem Filed.length_le
    (filed : Filed segments all pending) :
    all.length ≤ segments.fresh := by
  have contained : all ⊆ List.range segments.fresh := fun entry member =>
    List.mem_range.mpr (filed.bounded entry member)
  have shorter := (filed.distinct.subperm contained).length_le
  rwa [List.length_range] at shorter

/-- The scan for the place of a new tag stops in front of the first tag with a
larger base. -/
theorem Filed.insertionPoint
    {scan : Address}
    {base fuel : Nat}
    (filed : Filed segments (before ++ scan :: after) pending)
    (enough : after.length < fuel)
    (passed : ∀ entry ∈ before ++ [scan], (segments.bt entry).base ≤ base) :
    ∃ front point back, before ++ scan :: after = front ++ point :: back ∧
      segments.insertionPoint base fuel scan = some point ∧
        (∀ entry ∈ front ++ [point], (segments.bt entry).base ≤ base) ∧
          ∀ first ∈ back.head?, base < (segments.bt first).base := by
  induction after generalizing before scan fuel with
  | nil =>
    cases fuel with
    | zero => exact absurd enough (Nat.not_lt_zero _)
    | succ fuel =>
      refine ⟨before, scan, [], rfl, ?_, passed, ?_⟩
      · rw [Segments.insertionPoint, filed.pNextSegment]
        rfl
      · intro first impossible
        cases impossible
  | cons next rest ih =>
    cases fuel with
    | zero => exact absurd enough (Nat.not_lt_zero _)
    | succ fuel =>
      rw [Segments.insertionPoint, filed.pNextSegment]
      by_cases larger : (segments.bt next).base ≤ base
      · have moved : Filed segments ((before ++ [scan]) ++ next :: rest)
            pending := by
          rw [← append_cons]
          exact filed
        have shorter : rest.length < fuel := by
          rw [List.length_cons] at enough
          omega
        obtain ⟨front, point, back, split, found, below, above⟩ :=
          ih moved shorter (by
            intro entry member
            rcases mem_append.mp member with earlier | isNext
            · exact passed entry earlier
            · rw [List.mem_singleton.mp isNext]
              exact larger)
        refine ⟨front, point, back, ?_, ?_, below, above⟩
        · rw [← split, ← append_cons]
        · simp only [head?_cons, if_pos larger]
          exact found
      · refine ⟨before, scan, next :: rest, rfl, ?_, passed, ?_⟩
        · simp only [head?_cons, if_neg larger]
        · intro first isFirst
          cases isFirst
          omega

section

variable (filed : Filed segments all pending)
include filed

/-- A tag that is not listed is linked in by its base. -/
theorem Filed.segmentListInsert
    (absent : pBT ∉ all)
    (built : pBT < segments.fresh)
    (isPending : (segments.bt pBT).type = .free → pBT ∈ pending) :
    ∃ before after inserted, all = before ++ after ∧
      segments.segmentListInsert pBT = some inserted ∧
        Filed inserted (before ++ pBT :: after) pending ∧
          inserted.bt = segments.bt ∧ inserted.fresh = segments.fresh ∧
            (∀ entry ∈ before,
              (segments.bt entry).base ≤ (segments.bt pBT).base) ∧
              ∀ first ∈ after.head?,
                (segments.bt pBT).base < (segments.bt first).base := by
  have headPointer := filed.pHeadSegment
  unfold Segments.segmentListInsert
  cases all with
  | nil =>
    rw [headPointer]
    refine ⟨[], [], _, rfl, rfl, ?_, rfl, rfl, ?_, ?_⟩
    · have atEnd : Filed segments ([] ++ []) pending := filed
      apply atEnd.insert absent built isPending
      · simp only [insertAfter, forward, segmentLinks,
          headPointer, List.getLast?_nil, List.head?_nil,
          setForward, setBackward]
      · exact ⟨rfl, rfl, rfl, rfl, rfl⟩
    · exact fun entry impossible => absurd impossible List.not_mem_nil
    · intro first impossible
      cases impossible
  | cons head rest =>
    rw [headPointer]
    simp only [head?_cons]
    by_cases first : (segments.bt pBT).base < (segments.bt head).base
    · rw [if_pos first]
      refine ⟨[], head :: rest, _, rfl, rfl, ?_, rfl, rfl, ?_, ?_⟩
      · have inFront : Filed segments ([] ++ head :: rest) pending := filed
        apply inFront.insert absent built isPending
        · simp only [insertAfter, forward, segmentLinks,
            headPointer, List.getLast?_nil, head?_cons,
            setForward, setBackward]
        · exact ⟨rfl, rfl, rfl, rfl, rfl⟩
      · exact fun entry impossible => absurd impossible List.not_mem_nil
      · intro entry isFirst
        cases isFirst
        exact first
    · rw [if_neg first]
      have atHead : Filed segments ([] ++ head :: rest) pending := filed
      have enough := filed.length_le
      rw [List.length_cons] at enough
      have passed : ∀ entry ∈ [] ++ [head],
          (segments.bt entry).base ≤ (segments.bt pBT).base := by
        intro entry member
        rw [List.nil_append, List.mem_singleton] at member
        rw [member]
        omega
      obtain ⟨front, point, back, split, found, below, above⟩ :=
        atHead.insertionPoint enough passed
      rw [List.nil_append] at split
      rw [split] at filed absent
      refine ⟨front ++ [point], back,
        segments.segmentListInsertAfter point pBT, ?_, ?_, ?_, ?_, ?_, below,
        above⟩
      · rw [split, append_cons]
      · rw [found]
        rfl
      · have inserted := filed.segmentListInsertAfter absent built isPending
        rwa [append_cons] at inserted
      · exact Segments.bt_segmentListInsertAfter ..
      · exact Segments.fresh_segmentListInsertAfter ..

/-- A new tag is not listed. -/
theorem Filed.fresh_notMem :
    segments.fresh ∉ all :=
  fun member => Nat.lt_irrefl _ (filed.bounded _ member)

/-- Building a tag leaves the lists alone. -/
theorem Filed.buildTag
    (contents : Bt) :
    Filed (segments.buildTag contents).1 all pending where
  links := by
    refine filed.links.congr rfl rfl ?_ ?_
    · intro entry member
      apply update_of_ne
      rintro rfl
      exact filed.fresh_notMem member
    · intro entry member
      apply update_of_ne
      rintro rfl
      exact filed.fresh_notMem member
  distinct := filed.distinct
  bounded := fun entry member => Nat.lt_succ_of_lt (filed.bounded entry member)
  files := by
    have different : ∀ entry ∈ all, entry ≠ segments.fresh := by
      rintro entry member rfl
      exact filed.fresh_notMem member
    apply filed.files_congr
    · rfl
    · exact fun entry member => update_of_ne (different entry member) ..
    · exact fun entry member => update_of_ne (different entry member) ..
    · intro uIndex entry
      have same : entry ∈ all → (segments.buildTag contents).1.bt entry =
          segments.bt entry := fun member =>
        update_of_ne (different entry member) ..
      constructor
      · rintro ⟨listed, settled, free, sized⟩
        rw [same listed] at free sized
        exact ⟨listed, settled, free, sized⟩
      · rintro ⟨listed, settled, free, sized⟩
        exact ⟨listed, settled, same listed ▸ free, same listed ▸ sized⟩

end

/-- The two pieces of a split tag. -/
def headPiece (contents : Bt) (uSize : Nat) : Bt :=
  { contents with uSize := uSize }

/-- The rest of a split tag. -/
def tailPiece (contents : Bt) (uSize : Nat) : Bt where
  type := .free
  base := wrap64 (contents.base + uSize)
  uSize := wrap32 (contents.uSize + 2 ^ 32 - uSize)
  psMapping := contents.psMapping

/-- A split builds a tag, links it in and shortens the old one. -/
theorem segmentSplit_eq
    (uSize : Nat)
    (different : pBT ≠ segments.fresh) :
    segments.segmentSplit pBT uSize true =
      some ((((segments.buildTag (tailPiece (segments.bt pBT) uSize)).1
        ).segmentListInsertAfter pBT segments.fresh).setBt pBT
          (headPiece (segments.bt pBT) uSize), segments.fresh) := by
  simp only [Segments.segmentSplit, Segments.segmentListInsertAfter,
    Segments.buildTag, Segments.setBt, if_pos]
  rw [update_of_ne different]
  cases segments.pNextSegment pBT <;>
    simp [headPiece, tailPiece]

/-- The tags of a split tag, where the tag was. -/
theorem Filed.segmentSplit
    (filed : Filed segments (before ++ pBT :: after) pending)
    (isPending : pBT ∈ pending)
    (uSize : Nat) :
    ∃ split, segments.segmentSplit pBT uSize true =
        some (split, segments.fresh) ∧
      Filed split (before ++ pBT :: segments.fresh :: after)
        (segments.fresh :: pending) ∧
      split.bt = update
        (update segments.bt segments.fresh
          (tailPiece (segments.bt pBT) uSize)) pBT
            (headPiece (segments.bt pBT) uSize) := by
  have absent := filed.fresh_notMem
  have different : pBT ≠ segments.fresh := by
    rintro same
    apply absent
    rw [← same]
    exact List.mem_append_right _ mem_cons_self
  refine ⟨_, segmentSplit_eq uSize different, ?_, ?_⟩
  · have built := filed.buildTag (tailPiece (segments.bt pBT) uSize)
    have extended :
        Filed (segments.buildTag (tailPiece (segments.bt pBT) uSize)).1
          (before ++ pBT :: after) (segments.fresh :: pending) := by
      apply built.pending_congr
      intro entry member _
      rw [mem_cons, or_iff_right]
      rintro rfl
      exact absent member
    have linked := extended.segmentListInsertAfter absent
      (Nat.lt_succ_self _) fun _ => mem_cons_self
    exact linked.setBt (List.mem_cons_of_mem _ isPending) _
  · rw [Segments.bt_setBt, Segments.bt_segmentListInsertAfter]
    rfl

/-! ## Reading the list of all tags -/

/-- The tags in the order of the segment list. -/
def Segments.list (segments : Segments) : List Address :=
  walk segments.pNextSegment segments.fresh segments.pHeadSegment

theorem Filed.list_eq
    (filed : Filed segments all pending) :
    segments.list = all := by
  have whole : Holds (segmentLinks segments) ([] ++ all) := filed.links
  rw [Segments.list, filed.pHeadSegment]
  exact whole.walk filed.length_le

end PvrServices.Arena
