import PvrServices.Arena.Shutdown
import PvrServices.BufferManager.Buffers

/-!
# Destroying a memory context

The last reference to a memory context tests the import arenas of its heaps,
and destroys the context only if none of them reports a leak.
-/

namespace PvrServices.BufferManager.Contexts

open Arena

/-- The errors of `BM_DestroyContext`; the resource manager may report any
other. -/
inductive BmError where
  | ok
  | invalidParams
  | unableToDestroyBmHeap
  | other (code : Nat)
deriving DecidableEq, Repr

/-- What `BM_DestroyContext` reads of a `BM_HEAP`. -/
structure BmHeap where
  ui32Attribs : BitVec 32
  pImportArena : Option RaArena

/-- What `BM_DestroyContext` reads of a `BM_CONTEXT`. -/
structure BmContext where
  ui32RefCount : BitVec 32
  psBMHeap : List BmHeap

/-- `BM_DestroyContext_AnyCb`, with a bound on the rounds of the test; no value
stands for a test that does not end. -/
def destroyContextAnyCb (fuel : Nat) (psBMHeap : BmHeap) : Option BmError :=
  if psBMHeap.ui32Attribs &&&
      (pvrsrvBackingstoreSysmemNoncontig ||| pvrsrvBackingstoreLocalmemContig) ≠
        0 then
    match psBMHeap.pImportArena with
    | none => some .ok
    | some arena =>
      (arena.raTestDelete fuel).map fun bTestDelete =>
        if bTestDelete then .ok else .unableToDestroyBmHeap
  else some .ok

/-- `List_BM_HEAP_PVRSRV_ERROR_Any`. -/
def listBmHeapAny (pfnCallBack : BmHeap → Option BmError) :
    List BmHeap → Option BmError
  | [] => some .ok
  | psHead :: rest =>
    match pfnCallBack psHead with
    | none => none
    | some .ok => listBmHeapAny pfnCallBack rest
    | some error => some error

/-- `BM_DestroyContext`, with the answer of `ResManFreeResByPtr`: the error,
`*pbDestroyed`, and the context with its reference dropped. -/
def bmDestroyContext (fuel : Nat) (hBMContext : Option BmContext)
    (freed : BmError) : Option (BmError × Bool × Option BmContext) :=
  match hBMContext with
  | none => some (.invalidParams, false, none)
  | some pBMContext =>
    let pBMContext := { pBMContext with
      ui32RefCount := pBMContext.ui32RefCount - 1 }
    if 0 < pBMContext.ui32RefCount then
      some (.ok, false, some pBMContext)
    else
      match listBmHeapAny (destroyContextAnyCb fuel) pBMContext.psBMHeap with
      | none => none
      | some .ok =>
        if freed ≠ .ok then some (freed, false, some pBMContext)
        else some (.ok, true, some pBMContext)
      | some error => some (error, false, some pBMContext)

/-! ## Leaks -/

/-- The heap has one of the backing stores that the services support. -/
def BmHeap.Supported (heap : BmHeap) : Prop :=
  heap.ui32Attribs &&&
    (pvrsrvBackingstoreSysmemNoncontig ||| pvrsrvBackingstoreLocalmemContig) ≠ 0

/-- No segment of the heap's import arena is live. -/
def BmHeap.LeakFree (heap : BmHeap) : Prop :=
  ∀ arena ∈ heap.pImportArena, liveTags arena.tags = []

/-- The heap's import arena has used what it imported. -/
def BmHeap.UsesImports (heap : BmHeap) : Prop :=
  ∀ arena ∈ heap.pImportArena, ∃ start,
    CreatedForHeap start ∧ ReachesUsing start arena

/-- The test of an arena that uses what it imports says whether a segment is
live. -/
theorem raTestDelete_using
    {start arena : RaArena}
    (created : CreatedForHeap start)
    (reached : ReachesUsing start arena)
    (fuel : Nat) :
    arena.raTestDelete (fuel + 1) =
      some (decide (liveTags arena.tags = [])) := by
  obtain ⟨invariant, importing, _, used⟩ := reached.invariant created
  rw [raTestDelete_importing invariant importing]
  congr 1
  exact decide_eq_decide.mpr (used.empty_iff invariant)

theorem destroyContextAnyCb_using
    {heap : BmHeap}
    (supported : heap.Supported)
    (uses : heap.UsesImports)
    (fuel : Nat) :
    ∃ error, destroyContextAnyCb (fuel + 1) heap = some error ∧
      (error = .ok ↔ heap.LeakFree) := by
  unfold BmHeap.Supported at supported
  unfold destroyContextAnyCb BmHeap.LeakFree
  rw [if_pos supported]
  cases importArena : heap.pImportArena with
  | none => exact ⟨.ok, rfl, by simp⟩
  | some arena =>
    obtain ⟨start, created, reached⟩ := uses arena importArena
    simp only [raTestDelete_using created reached, Option.map_some]
    refine ⟨_, rfl, ?_⟩
    by_cases leakFree : liveTags arena.tags = []
    · simp [leakFree]
    · simp [leakFree]

/-- The first heap with a leak decides. -/
theorem listBmHeapAny_using
    {heaps : List BmHeap}
    (supported : ∀ heap ∈ heaps, heap.Supported)
    (uses : ∀ heap ∈ heaps, heap.UsesImports)
    (fuel : Nat) :
    ∃ error,
      listBmHeapAny (destroyContextAnyCb (fuel + 1)) heaps = some error ∧
        (error = .ok ↔ ∀ heap ∈ heaps, heap.LeakFree) := by
  induction heaps with
  | nil => exact ⟨.ok, rfl, by simp⟩
  | cons first rest ih =>
    obtain ⟨error, testEq, isOk⟩ := destroyContextAnyCb_using
      (supported first List.mem_cons_self) (uses first List.mem_cons_self)
        fuel
    obtain ⟨later, restEq, restOk⟩ := ih
      (fun heap member => supported heap (List.mem_cons_of_mem _ member))
      (fun heap member => uses heap (List.mem_cons_of_mem _ member))
    rw [listBmHeapAny, testEq, List.forall_mem_cons, ← isOk, ← restOk]
    cases error with
    | ok => exact ⟨later, restEq, by simp⟩
    | invalidParams | unableToDestroyBmHeap | other code =>
      exact ⟨_, rfl, by simp⟩

/-- The test of an import arena always ends and says whether the arena is
empty.  In a run that uses what it imports that is whether no segment is live,
and then the last reference destroys a context just when no heap has a leak
and the resource manager has no error. -/
theorem destroyContext_correct
    (fuel : Nat)
    (freed : BmError) :
    (∀ start calls arena, CreatedForHeap start → Reaches start calls arena →
      arena.raTestDelete (fuel + 1) = some (decide (arena.tags = []))) ∧
      (∀ start arena, CreatedForHeap start → ReachesUsing start arena →
        arena.raTestDelete (fuel + 1) =
          some (decide (liveTags arena.tags = []))) ∧
        ∀ context : BmContext, context.ui32RefCount = 1 →
          (∀ heap ∈ context.psBMHeap, heap.Supported ∧ heap.UsesImports) →
            ∃ eError bDestroyed after,
              bmDestroyContext (fuel + 1) (some context) freed =
                  some (eError, bDestroyed, after) ∧
                (eError = .ok ↔ freed = .ok ∧
                  ∀ heap ∈ context.psBMHeap, heap.LeakFree) ∧
                  (bDestroyed = true ↔ eError = .ok) := by
  refine ⟨?_, ?_, ?_⟩
  · intro start calls arena created reached
    obtain ⟨invariant, importing⟩ := reached.importing created
    exact raTestDelete_importing invariant importing fuel
  · intro start arena created reached
    exact raTestDelete_using created reached fuel
  · intro context lastReference heaps
    obtain ⟨error, testEq, isOk⟩ := listBmHeapAny_using
      (fun heap member => (heaps heap member).1)
      (fun heap member => (heaps heap member).2) fuel
    have dropped : ¬0 < context.ui32RefCount - 1 := by
      rw [lastReference]
      decide
    unfold bmDestroyContext
    simp only [if_neg dropped, testEq]
    rw [← isOk]
    cases error with
    | ok =>
      by_cases answered : freed = .ok
      · simp [answered]
      · simp [answered]
    | invalidParams => simp
    | unableToDestroyBmHeap => simp
    | other code => simp

/-- A heap whose arena holds an imported span that is free as a whole. -/
def leftOverHeap : BmHeap where
  ui32Attribs := pvrsrvBackingstoreSysmemNoncontig
  pImportArena := some leftOverArena

/-- The context of a heap without a live segment is not destroyed, since an
imported span is left over. -/
theorem destroyContext_leftOver :
    CreatedForHeap importingArena ∧
      Reaches importingArena
          [.alloc unevenRequest (supplying importedPage)] leftOverArena ∧
        liveTags leftOverArena.tags = [] ∧
          leftOverArena.raTestDelete 1 = some false ∧
            (bmDestroyContext 1 (some ⟨1, [leftOverHeap]⟩) .ok).map Prod.fst =
              some .unableToDestroyBmHeap := by
  have created : CreatedForHeap importingArena := ⟨4096, by decide, rfl⟩
  have reached : Reaches importingArena
      [.alloc unevenRequest (supplying importedPage)] leftOverArena := by
    have permitted : Call.Permitted importingArena
        (.alloc unevenRequest (supplying importedPage)) :=
      ⟨by decide, importedPage_offers⟩
    exact Reaches.step Reaches.refl permitted rfl
  exact ⟨created, reached, rfl, rfl, rfl⟩

/-- The test of an arena after its first page has been imported and
allocated. -/
theorem destroyContext_correct_allocated :
    allocatedArena.raTestDelete 1 =
      some (decide (liveTags allocatedArena.tags = [])) := by
  have created : CreatedForHeap importingArena := ⟨4096, by decide, rfl⟩
  have fits : Fits pageRequest (⟨0x10000, 8192, some ⟨1, 0⟩⟩ : Import).segment
      := by
    refine ⟨⟨0x10000, by decide, by decide, fun large => ?_⟩, ?_⟩
    · exact absurd large (by decide)
    · intro mapping isMapping
      cases isMapping
      rfl
  have uses : Call.UsesImport importingArena (.alloc pageRequest twoPages) := by
    refine ⟨⟨⟨rfl, rfl⟩, rfl, rfl⟩, ?_⟩
    intro span handed
    cases handed
    exact Or.inr ⟨fun _ impossible => absurd impossible List.not_mem_nil, fits⟩
  have permitted : Call.Permitted importingArena
      (.alloc pageRequest twoPages) :=
    ⟨by decide, importingArena_offers⟩
  have reached : ReachesUsing importingArena allocatedArena :=
    ReachesUsing.step ReachesUsing.refl permitted uses rfl
  exact (destroyContext_correct 0 .ok).2.1 importingArena allocatedArena
    created reached

end PvrServices.BufferManager.Contexts
