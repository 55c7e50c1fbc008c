import PvrServices.Mmu.Coherence

/-!
# Shared page directories

Calls on contexts and heaps in any order, as the buffer manager makes them.
In every state they reach, the contexts that hold a shared heap have the same
entries for it: the addresses of its page tables, as long as the pages of page
tables have addresses that an entry can hold.
-/

namespace PvrServices.Mmu

open Function (update update_self)
open Option (bind_eq_some_iff)

/-! ## Calls -/

/-- The memory management unit, and the contexts that hold shared heaps: those
that a heap was made in and those it was inserted in. -/
structure System where
  mmu : MmuState
  inserted : List (Nat × DevArenaDescriptor)

/-- A context holds the heap if it is shared. -/
def System.hold
    (system : System)
    (psMMUContext : Nat)
    (arena : DevArenaDescriptor) :
    List (Nat × DevArenaDescriptor) :=
  if arena.DevMemHeapType.isShared then
    (psMMUContext, arena) :: system.inserted
  else system.inserted

/-- The calls of the buffer manager, with what the allocators and the arena of
the heap answer. -/
inductive MmuCall where
  | initialise (psMMUContext : Nat)
  | finalise (psMMUContext : Nat)
  | create (pMMUHeap psMMUContext : Nat) (psDevArena : DevArenaDescriptor)
      (heapAllocated arenaCreated : Bool)
  | insertHeap (psMMUContext pMMUHeap : Nat)
  | alloc (pMMUHeap : Nat) (uSize : BitVec 32)
      (raAlloc : Option (BitVec 32)) (answers : Nat → PtAllocation)
  | free (pMMUHeap : Nat) (DevVAddr ui32Size : BitVec 32)
      (handedOn : Option (BitVec 32 × BitVec 32))
  | mapPage (pMMUHeap : Nat) (DevVAddr : BitVec 32) (DevPAddr : BitVec 64)
      (ui32MemFlags : BitVec 32)
  | unmapPages (pMMUHeap : Nat) (sDevVAddr ui32PageCount : BitVec 32)
  | delete (pMMUHeap : Nat)

/-- A call, where its heap is live and its page tables are there. -/
def System.perform (system : System) : MmuCall → Option System
  | .initialise psMMUContext =>
    some { system with mmu := mmuInitialise system.mmu psMMUContext }
  | .finalise psMMUContext =>
    some
      { mmu := mmuFinalise system.mmu psMMUContext
        inserted := system.inserted.filter fun pair => pair.1 ≠ psMMUContext }
  | .create pMMUHeap psMMUContext psDevArena heapAllocated arenaCreated =>
    match mmuCreate system.mmu pMMUHeap psMMUContext psDevArena heapAllocated
      arenaCreated with
    | (mmu, true) =>
      some { mmu, inserted := system.hold psMMUContext psDevArena }
    | (mmu, false) => some { system with mmu }
  | .insertHeap psMMUContext pMMUHeap => do
      let heap ← system.mmu.heaps pMMUHeap
      some
        { mmu := bmCreateContextInsertHeap system.mmu psMMUContext heap
          inserted := system.hold psMMUContext heap.psDevArena }
  | .alloc pMMUHeap uSize raAlloc answers => do
      let heap ← system.mmu.heaps pMMUHeap
      some { system with
        mmu := (mmuAlloc system.mmu heap uSize raAlloc answers).1 }
  | .free pMMUHeap DevVAddr ui32Size handedOn => do
      let heap ← system.mmu.heaps pMMUHeap
      some { system with
        mmu := mmuFree system.mmu pMMUHeap heap DevVAddr ui32Size handedOn }
  | .mapPage pMMUHeap DevVAddr DevPAddr ui32MemFlags => do
      let heap ← system.mmu.heaps pMMUHeap
      let mmu ← mmuMapPage system.mmu heap DevVAddr DevPAddr ui32MemFlags
      some { system with mmu }
  | .unmapPages pMMUHeap sDevVAddr ui32PageCount => do
      let heap ← system.mmu.heaps pMMUHeap
      let mmu ← mmuUnmapPages system.mmu heap sDevVAddr ui32PageCount
      some { system with mmu }
  | .delete pMMUHeap => do
      let heap ← system.mmu.heaps pMMUHeap
      some { system with mmu := mmuDelete system.mmu pMMUHeap heap }

/-- An address of a page. -/
def PageAligned (sDevPAddr : BitVec 64) : Prop :=
  sDevPAddr &&& 0xFFF = 0

/-- What the callers see to.  A context is finalised after its heaps are
deleted, a heap is created once for its range, and the arena of a heap answers
with ranges of it.  The page allocator answers with pages not in use. -/
def MmuCall.Allowed
    (table : HeapTable)
    (system : System) :
    MmuCall → Prop
  | .initialise psMMUContext => psMMUContext ∉ system.mmu.pvMMUContextList
  | .finalise psMMUContext =>
    ∀ pMMUHeap heap, system.mmu.heaps pMMUHeap = some heap →
      heap.psMMUContext ≠ psMMUContext
  | .create pMMUHeap psMMUContext psDevArena _ _ =>
    system.mmu.heaps pMMUHeap = none ∧
      psMMUContext ∈ system.mmu.pvMMUContextList ∧
      psDevArena ∈ table.arenas ∧
      RangeFree system.mmu.heaps psMMUContext psDevArena
  | .insertHeap psMMUContext _ => psMMUContext ∈ system.mmu.pvMMUContextList
  | .alloc pMMUHeap uSize raAlloc answers =>
    FreshAnswers system.mmu answers ∧
      (∀ i address, (answers i).page = some address →
        PageAligned address) ∧
      ∀ heap devVAddr, system.mmu.heaps pMMUHeap = some heap →
        raAlloc = some devVAddr →
        0 < uSize.toNat ∧ heap.psDevArena.Contains devVAddr.toNat
          (devVAddr.toNat + uSize.toNat)
  | .free pMMUHeap _ _ handedOn =>
    ∀ heap ui32Start ui32End, system.mmu.heaps pMMUHeap = some heap →
      handedOn = some (ui32Start, ui32End) →
      heap.psDevArena.Contains ui32Start.toNat
        (ui32Start.toNat + (ui32End - ui32Start).toNat)
  | .mapPage _ _ _ _ => True
  | .unmapPages _ _ _ => True
  | .delete _ => True

/-- The pages that a call takes for page tables. -/
def MmuCall.Takes : MmuCall → BitVec 64 → Prop
  | .alloc _ _ _ answers, address => ∃ i, (answers i).page = some address
  | _, _ => False

/-- The device without contexts. -/
def emptySystem : System where
  mmu :=
    { pvPDCpuVAddr := fun _ _ => 0
      apsPTInfoList := fun _ _ => none
      pvMMUContextList := []
      heaps := fun _ => none
      ui32PTETotalUsable := fun _ => 0
      pageTables := []
      ui32CacheControl := 0 }
  inserted := []

/-- The states that calls reach, where the pages of page tables meet a
condition. -/
inductive Reachable
    (table : HeapTable)
    (condition : BitVec 64 → Prop) :
    System → Prop where
  | initial : Reachable table condition emptySystem
  | call {system next : System}
      (call : MmuCall)
      (reached : Reachable table condition system)
      (allowed : call.Allowed table system)
      (meets : ∀ address, call.Takes address → condition address)
      (performed : system.perform call = some next) :
      Reachable table condition next

/-! ## Coherence -/

/-- A heap of a range has its page table for an index at an address. -/
def MmuState.TableAt
    (state : MmuState)
    (arena : DevArenaDescriptor)
    (index : Nat)
    (address : BitVec 64) :
    Prop :=
  ∃ pMMUHeap heap, state.heaps pMMUHeap = some heap ∧
    heap.psDevArena = arena ∧
    state.pageAt heap.psMMUContext index = some address

/-- A directory entry is valid and has the address. -/
def EntryFor (entry : BitVec 32) (address : BitVec 64) : Prop :=
  entry &&& sgxMmuPdeValid ≠ 0 ∧
    (entry &&& sgxMmuPdeAddrMask).setWidth 64 = address

/-- The contexts that hold a shared heap have the same entry for each of its
indices: that of the page table, which is live, or the invalid entry when
there is none. -/
def DirectoriesAgree (system : System) : Prop :=
  ∀ arena index context, (context, arena) ∈ system.inserted →
    arena.Covers index →
    (∀ other, (other, arena) ∈ system.inserted →
      system.mmu.pvPDCpuVAddr other index =
        system.mmu.pvPDCpuVAddr context index) ∧
    (∀ address, system.mmu.TableAt arena index address →
      address ∈ system.mmu.pageTables ∧
        EntryFor (system.mmu.pvPDCpuVAddr context index) address) ∧
    ((∀ address, ¬ system.mmu.TableAt arena index address) →
      system.mmu.pvPDCpuVAddr context index = 0)

/-- An entry has the address of a page table that 32 bits can hold. -/
theorem pdEntry_entryFor
    {heap : MmuHeap}
    {sDevPAddr : BitVec 64}
    (sizeCtrl : heap.ui32PDEPageSizeCtrl &&& sgxMmuPdeAddrMask = 0)
    (aligned : PageAligned sDevPAddr)
    (low : sDevPAddr.toNat < 2 ^ 32) :
    EntryFor (heap.pdEntry sDevPAddr) sDevPAddr := by
  have entry : heap.pdEntry sDevPAddr =
      sDevPAddr.setWidth 32 ||| heap.ui32PDEPageSizeCtrl |||
        sgxMmuPdeValid := by
    simp [MmuHeap.pdEntry]
  have whole : sDevPAddr.setWidth 32 &&& sgxMmuPdeAddrMask =
      sDevPAddr.setWidth 32 := by
    have offset : sDevPAddr.setWidth 32 &&& 0xFFF#32 = 0 := by
      have cut := congrArg (BitVec.setWidth 32) aligned
      simpa using cut
    calc sDevPAddr.setWidth 32 &&& sgxMmuPdeAddrMask
        = (sDevPAddr.setWidth 32 &&& sgxMmuPdeAddrMask) |||
            (sDevPAddr.setWidth 32 &&& 0xFFF#32) := by
          rw [offset]
          exact BitVec.or_zero.symm
      _ = sDevPAddr.setWidth 32 &&& (sgxMmuPdeAddrMask ||| 0xFFF#32) :=
          BitVec.and_or_distrib_left.symm
      _ = sDevPAddr.setWidth 32 := BitVec.and_allOnes
  constructor
  · rw [entry, BitVec.and_or_distrib_right]
    intro isZero
    have bit := congrArg (fun word => BitVec.getLsbD word 0) isZero
    simp at bit
  · rw [entry, BitVec.and_or_distrib_right, BitVec.and_or_distrib_right,
      sizeCtrl, whole]
    show (sDevPAddr.setWidth 32 ||| 0#32 ||| 0#32).setWidth 64 = sDevPAddr
    rw [BitVec.or_zero, BitVec.or_zero]
    apply BitVec.eq_of_toNat_eq
    rw [BitVec.toNat_setWidth, BitVec.toNat_setWidth,
      Nat.mod_eq_of_lt low, Nat.mod_eq_of_lt sDevPAddr.isLt]

/-- The invariant, and the pages that are taken. -/
structure SharingInvariant
    (table : HeapTable)
    (condition : BitVec 64 → Prop)
    (system : System) :
    Prop where
  coherent :
    Coherent table system.mmu.heaps system.inserted system.mmu
  pages : ∀ address ∈ system.mmu.pageTables,
    PageAligned address ∧ condition address

namespace SharingInvariant

variable {table : HeapTable} {condition : BitVec 64 → Prop}
  {system next : System} {pMMUHeap psMMUContext : Nat} {heap : MmuHeap}
  {mmu : MmuState}

/-- Without contexts there is nothing to agree on. -/
theorem empty : SharingInvariant table condition emptySystem where
  coherent :=
    { listed := List.nodup_nil
      made := nofun
      unique := nofun
      held := nofun
      own := nofun
      mirrored := nofun
      vacant := nofun
      owned := nofun
      live := nofun
      distinct := nofun }
  pages := nofun

/-- Whatever the addresses are, the contexts that hold a shared heap have the
same entries for it. -/
theorem sameEntries
    (invariant : SharingInvariant table condition system)
    {arena : DevArenaDescriptor}
    {index context other : Nat}
    (isInserted : (context, arena) ∈ system.inserted)
    (otherInserted : (other, arena) ∈ system.inserted)
    (covered : arena.Covers index) :
    system.mmu.pvPDCpuVAddr other index =
      system.mmu.pvPDCpuVAddr context index := by
  have coherent := invariant.coherent
  by_cases isLive : ∃ pMMUHeap heap,
      system.mmu.heaps pMMUHeap = some heap ∧ heap.psDevArena = arena
  · obtain ⟨pMMUHeap, heap, isHeap, rfl⟩ := isLive
    rw [coherent.mirrored context pMMUHeap heap index isInserted isHeap
        covered,
      coherent.mirrored other pMMUHeap heap index otherInserted isHeap covered]
  · have unused : ∀ holder pMMUHeap heap,
        system.mmu.heaps pMMUHeap = some heap → heap.psDevArena = arena →
          ¬ heap.Reaches system.mmu.pvMMUContextList holder :=
      fun _ pMMUHeap heap isHeap sameArena =>
        absurd ⟨pMMUHeap, heap, isHeap, sameArena⟩ isLive
    obtain ⟨isListed, isArena, _⟩ := coherent.held context arena isInserted
    obtain ⟨otherListed, _, _⟩ := coherent.held other arena otherInserted
    rw [coherent.vacant context arena index isListed isArena covered
        (unused context),
      coherent.vacant other arena index otherListed isArena covered
        (unused other)]

/-- The directories agree where the pages have addresses below four
gigabytes. -/
theorem directoriesAgree
    (invariant :
      SharingInvariant table (fun address => address.toNat < 2 ^ 32) system) :
    DirectoriesAgree system := by
  have coherent := invariant.coherent
  intro arena index context isInserted covered
  obtain ⟨isListed, isArena, shared⟩ := coherent.held context arena isInserted
  refine ⟨fun other otherInserted =>
    invariant.sameEntries isInserted otherInserted covered, ?_, ?_⟩
  · rintro address ⟨pMMUHeap, heap, isHeap, rfl, isPage⟩
    obtain ⟨_, ownListed, isMade⟩ := coherent.made pMMUHeap heap isHeap
    have isTable := coherent.live _ index address ownListed isPage
    obtain ⟨aligned, low⟩ := invariant.pages address isTable
    refine ⟨isTable, ?_⟩
    rw [coherent.mirrored context pMMUHeap heap index isInserted isHeap
        covered, coherent.own pMMUHeap heap index isHeap covered, isPage]
    exact pdEntry_entryFor isMade.sizeCtrl aligned low
  · intro noTable
    by_cases isLive : ∃ pMMUHeap heap,
        system.mmu.heaps pMMUHeap = some heap ∧ heap.psDevArena = arena
    · obtain ⟨pMMUHeap, heap, isHeap, rfl⟩ := isLive
      rw [coherent.mirrored context pMMUHeap heap index isInserted isHeap
          covered, coherent.own pMMUHeap heap index isHeap covered]
      cases isPage : system.mmu.pageAt heap.psMMUContext index with
      | none => rfl
      | some address =>
        exact absurd ⟨pMMUHeap, heap, isHeap, rfl, isPage⟩ (noTable address)
    · exact coherent.vacant context arena index isListed isArena covered
        fun pMMUHeap heap isHeap sameArena =>
          absurd ⟨pMMUHeap, heap, isHeap, sameArena⟩ isLive

/-! ## Preservation -/

section

variable (invariant : SharingInvariant table condition system)
include invariant

/-- Steps on the tables of a live heap, with pages that meet the condition. -/
theorem steps
    {taken : BitVec 64 → Prop}
    (isHeap : system.mmu.heaps pMMUHeap = some heap)
    (steps : TableSteps heap taken system.mmu mmu)
    (meets : ∀ address, taken address →
      PageAligned address ∧ condition address) :
    SharingInvariant table condition { system with mmu } := by
  obtain ⟨heaps, contexts, pages⟩ := steps.frame
  constructor
  · show Coherent table mmu.heaps system.inserted mmu
    rw [heaps]
    exact invariant.coherent.steps isHeap steps
  · intro address isTable
    rcases pages address isTable with old | isTaken
    · exact invariant.pages address old
    · exact meets address isTaken

/-- A step that changes no table. -/
theorem same
    (same : SameTables system.mmu mmu) :
    SharingInvariant table condition { system with mmu } := by
  constructor
  · show Coherent table mmu.heaps system.inserted mmu
    rw [same.heaps]
    exact invariant.coherent.same same
  · show ∀ address ∈ mmu.pageTables, _
    rw [same.pages]
    exact invariant.pages

/-- A live heap as `MMU_Create` made it, in its place. -/
theorem live_heap
    (isHeap : system.mmu.heaps pMMUHeap = some heap) :
    HeapOf heap.psMMUContext heap.psDevArena heap ∧
      heap.psDevArena.Placed := by
  obtain ⟨isArena, _, isMade⟩ := invariant.coherent.made pMMUHeap heap isHeap
  exact ⟨isMade, table.placed _ isArena⟩

/-- `MMU_Delete` frees the heap's page tables before the heap. -/
theorem delete
    (isHeap : system.mmu.heaps pMMUHeap = some heap) :
    SharingInvariant table condition
      { system with mmu := mmuDelete system.mmu pMMUHeap heap } := by
  obtain ⟨isMade, placed⟩ := invariant.live_heap isHeap
  obtain ⟨steps, cleared⟩ := deferredFreePageTables_steps (fun _ => False)
    isMade placed system.mmu pMMUHeap
  obtain ⟨coherent, pages⟩ := invariant.steps isHeap steps nofun
  obtain ⟨heaps, _, _⟩ := steps.frame
  constructor
  · have removed := coherent.removeHeap (by rw [heaps]; exact isHeap) cleared
    exact removed.congr rfl rfl rfl rfl
  · exact pages

/-- A heap that `MMU_Create` gives up again leaves nothing behind. -/
theorem createFailed
    (isNew : system.mmu.heaps pMMUHeap = none)
    (isArena : heap.psDevArena ∈ table.arenas)
    (isListed : heap.psMMUContext ∈ system.mmu.pvMMUContextList)
    (isMade : HeapOf heap.psMMUContext heap.psDevArena heap)
    (free : RangeFree system.mmu.heaps heap.psMMUContext heap.psDevArena) :
    SharingInvariant table condition { system with
      mmu := deferredFreePageTables system.mmu pMMUHeap heap } := by
  obtain ⟨steps, cleared⟩ := deferredFreePageTables_steps (fun _ => False)
    isMade (table.placed _ isArena) system.mmu pMMUHeap
  obtain ⟨heaps, _, pages⟩ := steps.frame
  constructor
  · show Coherent table (deferredFreePageTables system.mmu pMMUHeap heap).heaps
      system.inserted _
    have added := invariant.coherent.addHeap isNew isArena isListed isMade free
    have isThere : update system.mmu.heaps pMMUHeap (some heap)
        pMMUHeap = some heap := update_self _ _ _
    have removed := (added.steps isThere steps).removeHeap isThere cleared
    have restored : update
        (update system.mmu.heaps pMMUHeap (some heap)) pMMUHeap none =
        system.mmu.heaps := by
      rw [Function.update_idem, ← isNew, Function.update_eq_self]
    rw [restored] at removed
    rw [heaps]
    exact removed
  · intro address isTable
    exact invariant.pages address ((pages address isTable).resolve_right id)

end

/-- The outcomes of `MMU_Create`. -/
theorem mmuCreate_cases
    {state : MmuState}
    {psDevArena : DevArenaDescriptor}
    {heapAllocated arenaCreated made : Bool}
    (created : mmuCreate state pMMUHeap psMMUContext psDevArena heapAllocated
      arenaCreated = (mmu, made)) :
    (mmu = state ∧ made = false) ∨
      ∃ heap, mmuHeap psMMUContext psDevArena = some heap ∧
        ∃ ui32PTETotalUsable,
          (made = true ∧ mmu =
            { state with
              ui32PTETotalUsable
              heaps := update state.heaps pMMUHeap (some heap) }) ∨
          (made = false ∧ mmu =
            deferredFreePageTables { state with ui32PTETotalUsable } pMMUHeap
              heap) := by
  unfold mmuCreate at created
  split at created
  · next heap isHeap =>
    split_ifs at created
    · cases created
      exact .inr ⟨heap, isHeap, _, .inl ⟨rfl, rfl⟩⟩
    · cases created
      exact .inr ⟨heap, isHeap, _, .inr ⟨rfl, rfl⟩⟩
  · cases created
    exact .inl ⟨rfl, rfl⟩

section

variable (invariant : SharingInvariant table condition system)
include invariant

/-- `MMU_Create` for a range that no heap uses. -/
theorem create
    {pMMUHeap psMMUContext : Nat}
    {psDevArena : DevArenaDescriptor}
    {heapAllocated arenaCreated : Bool}
    (allowed : (MmuCall.create pMMUHeap psMMUContext psDevArena heapAllocated
      arenaCreated).Allowed table system)
    (performed : system.perform (.create pMMUHeap psMMUContext psDevArena
      heapAllocated arenaCreated) = some next) :
    SharingInvariant table condition next := by
  obtain ⟨isNew, isListed, isArena, free⟩ := allowed
  simp only [System.perform] at performed
  rcases isResult : mmuCreate system.mmu pMMUHeap psMMUContext psDevArena
    heapAllocated arenaCreated with ⟨mmu, made⟩
  rw [isResult] at performed
  rcases mmuCreate_cases isResult with
    ⟨rfl, rfl⟩ | ⟨heap, isHeap, usable, ⟨rfl, rfl⟩ | ⟨rfl, rfl⟩⟩
  · cases performed
    exact invariant
  · cases performed
    have isMade := mmuHeap_heapOf (table.placed _ isArena) isHeap
    obtain ⟨rfl, rfl⟩ := And.intro isMade.context isMade.arena
    have added := invariant.coherent.addHeap isNew isArena isListed isMade free
    refine ⟨?_, invariant.pages⟩
    show Coherent table (update system.mmu.heaps pMMUHeap (some heap))
      (system.hold heap.psMMUContext heap.psDevArena) _
    unfold System.hold
    split_ifs with shared
    · refine (added.addHolder shared isArena isListed ?_).congr rfl rfl rfl rfl
      intro other otherHeap index isOther sameArena _
      have isThere : update system.mmu.heaps pMMUHeap (some heap)
          pMMUHeap = some heap := update_self _ _ _
      obtain rfl := added.unique pMMUHeap other heap otherHeap isThere isOther
        sameArena (.inl shared)
      cases isThere.symm.trans isOther
      rfl
    · exact added.congr rfl rfl rfl rfl
  · cases performed
    have isMade := mmuHeap_heapOf (table.placed _ isArena) isHeap
    obtain ⟨rfl, rfl⟩ := And.intro isMade.context isMade.arena
    have kept : SharingInvariant table condition
        { system with mmu := { system.mmu with ui32PTETotalUsable := usable } } :=
      invariant.same ⟨rfl, rfl, rfl, rfl, rfl⟩
    exact kept.createFailed isNew isArena isListed isMade free

/-- `MMU_InsertHeap`, for the heaps that are shared. -/
theorem insertHeap
    (isHeap : system.mmu.heaps pMMUHeap = some heap)
    (isListed : psMMUContext ∈ system.mmu.pvMMUContextList) :
    SharingInvariant table condition
      { mmu := bmCreateContextInsertHeap system.mmu psMMUContext heap
        inserted := system.hold psMMUContext heap.psDevArena } := by
  obtain ⟨isMade, _⟩ := invariant.live_heap isHeap
  have copied (shared : heap.psDevArena.DevMemHeapType.isShared = true) :
      SharingInvariant table condition
        { mmu := mmuInsertHeap system.mmu psMMUContext heap
          inserted := (psMMUContext, heap.psDevArena) :: system.inserted } := by
    have inserted := invariant.coherent.insertHeap isHeap shared isListed
    have next_eq := mmuInsertHeap_eq isMade system.mmu psMMUContext
    constructor
    · show Coherent table
        (mmuInsertHeap system.mmu psMMUContext heap).heaps _ _
      rw [show (mmuInsertHeap system.mmu psMMUContext heap).heaps =
        system.mmu.heaps by rw [next_eq]]
      exact inserted
    · show ∀ address ∈
        (mmuInsertHeap system.mmu psMMUContext heap).pageTables, _
      rw [next_eq]
      exact invariant.pages
  unfold bmCreateContextInsertHeap System.hold
  cases isType : heap.psDevArena.DevMemHeapType with
  | perContext => exact invariant
  | kernel => exact invariant
  | shared | sharedExported => exact copied (by rw [isType]; rfl)

/-- Every call keeps the invariant. -/
theorem call
    {call : MmuCall}
    (allowed : call.Allowed table system)
    (meets : ∀ address, call.Takes address → condition address)
    (performed : system.perform call = some next) :
    SharingInvariant table condition next := by
  cases call with
  | initialise psMMUContext =>
    cases performed
    exact ⟨invariant.coherent.initialise allowed, invariant.pages⟩
  | finalise psMMUContext =>
    cases performed
    exact ⟨invariant.coherent.finalise allowed, invariant.pages⟩
  | create pMMUHeap psMMUContext psDevArena heapAllocated arenaCreated =>
    exact invariant.create allowed performed
  | insertHeap psMMUContext pMMUHeap =>
    obtain ⟨heap, isHeap, result⟩ := bind_eq_some_iff.mp performed
    cases result
    exact invariant.insertHeap isHeap allowed
  | alloc pMMUHeap uSize raAlloc answers =>
    obtain ⟨heap, isHeap, result⟩ := bind_eq_some_iff.mp performed
    cases result
    obtain ⟨fresh, aligned, contained⟩ := allowed
    obtain ⟨isMade, placed⟩ := invariant.live_heap isHeap
    refine invariant.steps isHeap (mmuAlloc_steps isMade placed fresh
      (contained heap · isHeap)) ?_
    rintro address ⟨i, isAddress⟩
    exact ⟨aligned i address isAddress, meets address ⟨i, isAddress⟩⟩
  | free pMMUHeap DevVAddr ui32Size handedOn =>
    obtain ⟨heap, isHeap, result⟩ := bind_eq_some_iff.mp performed
    cases result
    obtain ⟨isMade, placed⟩ := invariant.live_heap isHeap
    exact invariant.steps isHeap (mmuFree_steps (fun _ => False) isMade
      placed system.mmu pMMUHeap DevVAddr ui32Size
      (allowed heap · · isHeap)) nofun
  | mapPage pMMUHeap DevVAddr DevPAddr ui32MemFlags =>
    obtain ⟨heap, isHeap, rest⟩ := bind_eq_some_iff.mp performed
    obtain ⟨mmu, mapped, result⟩ := bind_eq_some_iff.mp rest
    cases result
    exact invariant.same (mmuMapPage_same mapped)
  | unmapPages pMMUHeap sDevVAddr ui32PageCount =>
    obtain ⟨heap, isHeap, rest⟩ := bind_eq_some_iff.mp performed
    obtain ⟨mmu, unmapped, result⟩ := bind_eq_some_iff.mp rest
    cases result
    exact invariant.same (mmuUnmapPages_same unmapped)
  | delete pMMUHeap =>
    obtain ⟨heap, isHeap, result⟩ := bind_eq_some_iff.mp performed
    cases result
    exact invariant.delete isHeap

end

end SharingInvariant

variable {condition : BitVec 64 → Prop}

/-- The invariant holds in every state that calls reach. -/
theorem Reachable.invariant
    {table : HeapTable}
    {system : System}
    (reached : Reachable table condition system) :
    SharingInvariant table condition system := by
  induction reached with
  | initial => exact .empty
  | call call _ allowed meets performed ih =>
    exact ih.call allowed meets performed

/-- Where the pages of page tables lie below four gigabytes, the contexts that
hold a shared heap agree on the addresses of its page tables. -/
theorem reachable_directoriesAgree
    (table : HeapTable)
    {system : System}
    (reached :
      Reachable table (fun address => address.toNat < 2 ^ 32) system) :
    DirectoriesAgree system :=
  reached.invariant.directoriesAgree

/-! ## A shared heap in two contexts -/

/-- The heap of the microkernel's code. -/
def kernelCodeArena : DevArenaDescriptor :=
  ⟨.sharedExported, 0xF2000000, 0x00080000 - 0x1000, 0x1000⟩

/-- One page table on the page. -/
def onePage (address : BitVec 64) (i : Nat) : PtAllocation :=
  if i = 0 then ⟨true, some address⟩ else ⟨true, none⟩

theorem onePage_eq_some
    {page address : BitVec 64}
    {i : Nat}
    (answered : (onePage page i).page = some address) :
    i = 0 ∧ page = address := by
  unfold onePage at answered
  split_ifs at answered with isFirst
  exact ⟨isFirst, Option.some.inj answered⟩

/-- A process shares the code heap, and a page table is made for it on any
page that the allocator may answer with. -/
theorem reachable_onePage
    {address : BitVec 64}
    (aligned : PageAligned address)
    (meets : condition address) :
    ∃ system, Reachable sgxHeaps condition system ∧
      (1, kernelCodeArena) ∈ system.inserted ∧
      system.mmu.TableAt kernelCodeArena 968 address ∧
      system.mmu.pvPDCpuVAddr 1 968 = (address ||| 0 ||| 1).setWidth 32 := by
  have kernel : Reachable sgxHeaps condition _ :=
    .call (.initialise 0) .initial List.not_mem_nil nofun rfl
  have heap := Reachable.call (.create 7 0 kernelCodeArena true true) kernel
    ⟨rfl, List.mem_cons_self, by decide, nofun⟩ nofun rfl
  have process := Reachable.call (.initialise 1) heap
    (show 1 ∉ [0] by decide) nofun rfl
  have shared := Reachable.call (.insertHeap 1 7) process
    List.mem_cons_self nofun rfl
  have allocated := Reachable.call
    (.alloc 7 0x1000 (some 0xF2000000) (onePage address)) shared
    ⟨⟨nofun, fun i j _ first second =>
        (onePage_eq_some first).1.trans (onePage_eq_some second).1.symm⟩,
      fun i other answered => (onePage_eq_some answered).2 ▸ aligned,
      fun heap devVAddr isHeap answered => by
        cases isHeap
        cases answered
        exact ⟨by decide, by decide, by decide, by decide⟩⟩
    (fun other ⟨i, answered⟩ => (onePage_eq_some answered).2 ▸ meets) rfl
  exact ⟨_, allocated, List.mem_cons_self, ⟨7, _, rfl, rfl, rfl⟩, rfl⟩

/-- A process shares the code heap with a page table below four gigabytes. -/
theorem reachable_directoriesAgree_shared :
    ∃ system, DirectoriesAgree system ∧
      (1, kernelCodeArena) ∈ system.inserted ∧
      system.mmu.TableAt kernelCodeArena 968 0x5000 := by
  obtain ⟨system, reached, isInserted, isTable, _⟩ :=
    @reachable_onePage (fun address => address.toNat < 2 ^ 32) 0x5000 rfl
      (by decide)
  exact ⟨system, reachable_directoriesAgree sgxHeaps reached, isInserted,
    isTable⟩

/-- A page table above four gigabytes: the entry is for the page with the same
low 32 bits. -/
theorem reachable_directoriesAgree_high :
    ¬ ∀ system, Reachable sgxHeaps (fun _ => True) system →
      DirectoriesAgree system := by
  intro agree
  obtain ⟨system, reached, isInserted, isTable, entry⟩ :=
    @reachable_onePage (fun _ => True) 0x100005000 rfl trivial
  obtain ⟨_, atAddress, _⟩ := agree system reached kernelCodeArena 968 1
    isInserted (by decide)
  obtain ⟨_, _, isAddress⟩ := atAddress _ isTable
  rw [entry] at isAddress
  exact absurd isAddress (by decide)

end PvrServices.Mmu
