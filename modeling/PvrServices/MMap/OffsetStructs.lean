import Mathlib.Algebra.Group.Nat.Defs
import Mathlib.Data.List.Basic

/-!
# Offset structures of mmap

A process translates the handle of a memory area to an offset and passes the
offset to mmap.  An offset structure connects the two calls.  It is in the
list of its area from the translation on, and in the list of offsets until
mmap finds it there.  A function that touches freed memory has no value.
-/

namespace PvrServices.MMap

open Function (update)

/-- Address of a memory area, an offset structure or a `vm_area_struct`. -/
abbrev Address : Type := Nat

/-! ## Data -/

/-- `KV_OFFSET_STRUCT` without its links. -/
structure OffsetStruct where
  ui32Mapped : Nat
  ui32MMapOffset : Nat
  ui32RealByteSize : Nat
  psLinuxMemArea : Address
  ui32PID : Nat
  bOnMMapList : Bool
  ui32RefCount : Nat
  ui32UserVAddr : Nat
deriving DecidableEq

/-- `LinuxMemArea`; `cpuPAddr` is what `LinuxMemAreaToCpuPAddr` returns for
its first byte. -/
structure LinuxMemArea where
  ui32ByteSize : Nat
  cpuPAddr : Nat
  ui32AreaFlags : BitVec 32
  bMMapRegistered : Bool
  bNeedsCacheInvalidate : Bool
  sMMapOffsetStructList : List Address
deriving DecidableEq

/-- What a translation returns to its process. -/
structure MMapData where
  ui32MMapOffset : Nat
  ui32ByteOffset : Nat
  ui32RealByteSize : Nat
  ui32UserVAddr : Nat
deriving DecidableEq, Repr

/-- What a release returns to its process. -/
structure ReleaseData where
  bMUnmap : Bool
  ui32RealByteSize : Nat
  ui32UserVAddr : Nat
deriving DecidableEq, Repr

/-- What mmap is asked for, and how the kernel answers `DoMapToUser`. -/
structure MMapRequest where
  psVma : Address
  vmPgoff : Nat
  ui32ByteSize : Nat
  vmStart : Nat
  vmWrite : Bool
  vmShared : Bool
  doMapToUser : Bool

/-- A translation that has returned: the process, what it was given, and the
area of the handle. -/
structure Translation where
  ui32PID : Nat
  ui32MMapOffset : Nat
  ui32RealByteSize : Nat
  psLinuxMemArea : Address
deriving DecidableEq, Repr

/-- The lists of `mmap.c` and the memory they lead to.  `vmas` are the open
mappings with their `vm_private_data`.  The last three fields are a record of
the past: the translations, last one first, the offset structures created, and
those destroyed with their `ui32Mapped`. -/
structure MMapState where
  offsetStructs : Address → Option OffsetStruct
  areas : Address → Option LinuxMemArea
  gsMMapAreaList : List Address
  gsMMapOffsetStructList : List Address
  vmas : List (Address × Address)
  translations : List Translation
  created : List Address
  destroyed : List (Address × Nat)

/-- `PVRSRV_ERROR` and the error codes of mmap. -/
inductive MMapError where
  | lookupFailed
  | outOfMemory
  | stillMapped
  | mappingNotFound
  | invalidParams
  | noEntry
  | again
deriving DecidableEq, Repr

/-- `PVRSRV_HAP_CACHED`. -/
abbrev pvrsrvHapCached : BitVec 32 := 1 <<< 12

/-- `PVRSRV_HAP_UNCACHED`. -/
abbrev pvrsrvHapUncached : BitVec 32 := 1 <<< 13

/-- `PVRSRV_HAP_WRITECOMBINE`. -/
abbrev pvrsrvHapWritecombine : BitVec 32 := 1 <<< 14

/-- `PVRSRV_HAP_CACHETYPE_MASK`. -/
abbrev pvrsrvHapCachetypeMask : BitVec 32 :=
  pvrsrvHapCached ||| pvrsrvHapUncached ||| pvrsrvHapWritecombine

/-- `FIRST_SPECIAL_PFN`. -/
abbrev firstSpecialPfn : Nat := 0x80000000

/-- `PAGE_SIZE`. -/
abbrev pageSize : Nat := 4096

/-- `PAGE_ALIGN` of a 32-bit word. -/
def pageAlign (word : Nat) : Nat :=
  (word + (pageSize - 1)) % 2 ^ 32 / pageSize * pageSize

/-- `HandleToMMapOffset`. -/
def handleToMMapOffset (hHandle : Nat) : Nat :=
  (hHandle % 2 ^ 32 + firstSpecialPfn) % 2 ^ 32

/-- One less, in 32 bits. -/
def oneLess (word : Nat) : Nat :=
  if word = 0 then 2 ^ 32 - 1 else word - 1

/-- The test of `FindOffsetStructByOffset`. -/
def OffsetStruct.fits
    (value : OffsetStruct) (ui32Offset ui32RealByteSize ui32PID : Nat) :
    Bool :=
  ui32Offset = value.ui32MMapOffset ∧
    ui32RealByteSize = value.ui32RealByteSize ∧ value.ui32PID = ui32PID

namespace LinuxMemArea

/-- The byte offset `DetermineUsersSizeAndByteOffset` returns. -/
def byteOffset (psLinuxMemArea : LinuxMemArea) : Nat :=
  psLinuxMemArea.cpuPAddr % pageSize

/-- The size `DetermineUsersSizeAndByteOffset` returns. -/
def realByteSize (psLinuxMemArea : LinuxMemArea) : Nat :=
  pageAlign
    ((psLinuxMemArea.ui32ByteSize + psLinuxMemArea.byteOffset) % 2 ^ 32)

/-- The switch of `PVRMMap` knows the cache type of the area. -/
def knownCacheType (psLinuxMemArea : LinuxMemArea) : Bool :=
  let cacheType := psLinuxMemArea.ui32AreaFlags &&& pvrsrvHapCachetypeMask
  cacheType == pvrsrvHapCached || cacheType == pvrsrvHapWritecombine ||
    cacheType == pvrsrvHapUncached

end LinuxMemArea

namespace MMapState

/-- Change an offset structure. -/
def setOffsetStruct
    (state : MMapState) (psOffsetStruct : Address) (value : OffsetStruct) :
    MMapState :=
  { state with
    offsetStructs := update state.offsetStructs psOffsetStruct (some value) }

/-- Change an area. -/
def setArea
    (state : MMapState) (psLinuxMemArea : Address) (value : LinuxMemArea) :
    MMapState :=
  { state with
    areas := update state.areas psLinuxMemArea (some value) }

/-- The first offset structure of a list that meets a test. -/
def findOffsetStruct (state : MMapState) (test : OffsetStruct → Bool) :
    List Address → Option (Option Address)
  | [] => some none
  | psOffsetStruct :: rest =>
    match state.offsetStructs psOffsetStruct with
    | none => none
    | some value =>
      if test value then some (some psOffsetStruct)
      else state.findOffsetStruct test rest

/-! ## Offset structures -/

/-- `CreateOffsetStruct`, with the stores `PVRMMapOSMemHandleToMMapData` makes
after it.  Memory for the structure is zeroed. -/
def createOffsetStruct
    (state : MMapState) (psLinuxMemArea : Address) (area : LinuxMemArea)
    (ui32Offset ui32RealByteSize ui32PID : Nat)
    (psOffsetStruct : Address) :
    MMapState :=
  { state with
    offsetStructs := update state.offsetStructs psOffsetStruct
      (some
        { ui32Mapped := 0
          ui32MMapOffset := ui32Offset
          ui32RealByteSize
          psLinuxMemArea
          ui32PID
          bOnMMapList := true
          ui32RefCount := 1
          ui32UserVAddr := 0 })
    areas := update state.areas psLinuxMemArea
      (some { area with
        sMMapOffsetStructList :=
          area.sMMapOffsetStructList ++ [psOffsetStruct] })
    gsMMapOffsetStructList := state.gsMMapOffsetStructList ++ [psOffsetStruct]
    created := psOffsetStruct :: state.created }

/-- `DestroyOffsetStruct`. -/
def destroyOffsetStruct (state : MMapState) (psOffsetStruct : Address) :
    Option MMapState := do
  let value ← state.offsetStructs psOffsetStruct
  let area ← state.areas value.psLinuxMemArea
  some { state with
    offsetStructs := update state.offsetStructs psOffsetStruct none
    areas := update state.areas value.psLinuxMemArea
      (some { area with
        sMMapOffsetStructList :=
          area.sMMapOffsetStructList.erase psOffsetStruct })
    gsMMapOffsetStructList :=
      if value.bOnMMapList then
        state.gsMMapOffsetStructList.erase psOffsetStruct
      else state.gsMMapOffsetStructList
    destroyed := (psOffsetStruct, value.ui32Mapped) :: state.destroyed }

/-! ## Calls of processes -/

/-- `PVRMMapOSMemHandleToMMapData`.  `lookup` is the area
`PVRSRVLookupOSMemHandle` finds, and `allocated` the memory for a new offset
structure. -/
def pvrMMapOSMemHandleToMMapData
    (state : MMapState) (ui32PID hMHandle : Nat)
    (lookup allocated : Option Address) :
    Option (MMapState × Except MMapError MMapData) :=
  match lookup with
  | none => some (state, .error .lookupFailed)
  | some psLinuxMemArea => do
      let area ← state.areas psLinuxMemArea
      let ui32RealByteSize := area.realByteSize
      let found ← state.findOffsetStruct (fun value => value.ui32PID = ui32PID)
        area.sMMapOffsetStructList
      let record (ui32MMapOffset : Nat) : List Translation :=
        { ui32PID, ui32MMapOffset, ui32RealByteSize, psLinuxMemArea } ::
          state.translations
      match found with
      | some psOffsetStruct => do
          let value ← state.offsetStructs psOffsetStruct
          let counted := state.setOffsetStruct psOffsetStruct
            { value with
              ui32RefCount := (value.ui32RefCount + 1) % 2 ^ 32 }
          some ({ counted with translations := record value.ui32MMapOffset },
            .ok
              { ui32MMapOffset := value.ui32MMapOffset
                ui32ByteOffset := area.byteOffset
                ui32RealByteSize
                ui32UserVAddr := value.ui32UserVAddr })
      | none =>
        match allocated with
        | none => some (state, .error .outOfMemory)
        | some psOffsetStruct =>
          if (state.offsetStructs psOffsetStruct).isSome then none
          else
            let ui32MMapOffset := handleToMMapOffset hMHandle
            let extended := state.createOffsetStruct psLinuxMemArea area
              ui32MMapOffset ui32RealByteSize ui32PID psOffsetStruct
            some ({ extended with
                translations := record ui32MMapOffset },
              .ok
                { ui32MMapOffset
                  ui32ByteOffset := area.byteOffset
                  ui32RealByteSize
                  ui32UserVAddr := 0 })

/-- `PVRMMapReleaseMMapData`. -/
def pvrMMapReleaseMMapData
    (state : MMapState) (ui32PID : Nat) (lookup : Option Address) :
    Option (MMapState × Except MMapError ReleaseData) :=
  match lookup with
  | none => some (state, .error .lookupFailed)
  | some psLinuxMemArea => do
      let area ← state.areas psLinuxMemArea
      let found ← state.findOffsetStruct (fun value => value.ui32PID = ui32PID)
        area.sMMapOffsetStructList
      match found with
      | none => some (state, .error .mappingNotFound)
      | some psOffsetStruct => do
          let value ← state.offsetStructs psOffsetStruct
          if value.ui32RefCount = 0 then some (state, .error .stillMapped)
          else
            let ui32RefCount := value.ui32RefCount - 1
            let bMUnmap : Bool := ui32RefCount = 0 ∧ value.ui32UserVAddr ≠ 0
            some
              (state.setOffsetStruct psOffsetStruct
                { value with ui32RefCount },
              .ok
                { bMUnmap
                  ui32RealByteSize :=
                    if bMUnmap then value.ui32RealByteSize else 0
                  ui32UserVAddr :=
                    if bMUnmap then value.ui32UserVAddr else 0 })

/-- `FindOffsetStructByOffset`. -/
def findOffsetStructByOffset
    (state : MMapState) (ui32Offset ui32RealByteSize ui32PID : Nat) :
    Option (Option Address) :=
  state.findOffsetStruct
    (fun value => value.fits ui32Offset ui32RealByteSize ui32PID)
    state.gsMMapOffsetStructList

/-! ## Mappings -/

/-- `MMapVOpenNoLock` for the mapping `psVma` with its `vm_private_data`. -/
def mMapVOpenNoLock (state : MMapState) (psVma psOffsetStruct : Address) :
    Option MMapState := do
  let value ← state.offsetStructs psOffsetStruct
  let mapped := state.setOffsetStruct psOffsetStruct
    { value with ui32Mapped := (value.ui32Mapped + 1) % 2 ^ 32 }
  some { mapped with vmas := (psVma, psOffsetStruct) :: state.vmas }

/-- `MMapVCloseNoLock`. -/
def mMapVCloseNoLock (state : MMapState) (psVma psOffsetStruct : Address) :
    Option MMapState := do
  let value ← state.offsetStructs psOffsetStruct
  let ui32Mapped := oneLess value.ui32Mapped
  let closed := state.setOffsetStruct psOffsetStruct { value with ui32Mapped }
  let closed :=
    { closed with vmas := state.vmas.erase (psVma, psOffsetStruct) }
  if ui32Mapped = 0 then closed.destroyOffsetStruct psOffsetStruct
  else some closed

/-- Take an offset structure out of the list of offsets. -/
def unlist
    (state : MMapState) (psOffsetStruct : Address) (value : OffsetStruct) :
    MMapState :=
  { state.setOffsetStruct psOffsetStruct { value with bOnMMapList := false }
    with
    gsMMapOffsetStructList :=
      state.gsMMapOffsetStructList.erase psOffsetStruct }

/-- `PVRMMap`, with the area of the offset structure that it finds. -/
def pvrMMap (state : MMapState) (ui32PID : Nat) (request : MMapRequest) :
    Option (MMapState × Option Address × Except MMapError Unit) := do
  let found ← state.findOffsetStructByOffset (request.vmPgoff % 2 ^ 32)
    (request.ui32ByteSize % 2 ^ 32) ui32PID
  match found with
  | none => some (state, none, .error .noEntry)
  | some psOffsetStruct => do
      let value ← state.offsetStructs psOffsetStruct
      let psLinuxMemArea := value.psLinuxMemArea
      let state := state.unlist psOffsetStruct value
      if request.vmWrite && !request.vmShared then do
        let state ← state.destroyOffsetStruct psOffsetStruct
        some (state, some psLinuxMemArea, .error .invalidParams)
      else do
        let area ← state.areas psLinuxMemArea
        if !area.knownCacheType then do
          let state ← state.destroyOffsetStruct psOffsetStruct
          some (state, some psLinuxMemArea, .error .invalidParams)
        else if !request.doMapToUser then do
          let state ← state.destroyOffsetStruct psOffsetStruct
          some (state, some psLinuxMemArea, .error .again)
        else do
          let state := state.setOffsetStruct psOffsetStruct
            { value with
              bOnMMapList := false
              ui32UserVAddr := request.vmStart % 2 ^ 32 }
          let state := state.setArea psLinuxMemArea
            { area with bNeedsCacheInvalidate := false }
          let state ← state.mMapVOpenNoLock request.psVma psOffsetStruct
          some (state, some psLinuxMemArea, .ok ())

/-! ## Areas -/

/-- A new area, with `PVRMMapRegisterArea`. -/
def pvrMMapRegisterArea
    (state : MMapState) (psLinuxMemArea : Address)
    (ui32ByteSize cpuPAddr : Nat) (ui32AreaFlags : BitVec 32)
    (bNeedsCacheInvalidate : Bool) :
    MMapState :=
  { state with
    areas := update state.areas psLinuxMemArea
      (some
        { ui32ByteSize
          cpuPAddr
          ui32AreaFlags
          bMMapRegistered := true
          bNeedsCacheInvalidate
          sMMapOffsetStructList := [] })
    gsMMapAreaList := state.gsMMapAreaList ++ [psLinuxMemArea] }

/-- The loop of `PVRMMapRemoveRegisteredArea`: it destroys offset structures
up to the first one that is mapped. -/
def destroyUnmapped : List Address → MMapState → Option (MMapState × Bool)
  | [], state => some (state, true)
  | psOffsetStruct :: rest, state =>
    match state.offsetStructs psOffsetStruct with
    | none => none
    | some value =>
      if value.ui32Mapped ≠ 0 then some (state, false)
      else
        match state.destroyOffsetStruct psOffsetStruct with
        | none => none
        | some state => destroyUnmapped rest state

/-- `PVRMMapRemoveRegisteredArea`, with `LinuxMemAreaDeepFree`, which its
callers perform when it succeeds. -/
def pvrMMapRemoveRegisteredArea
    (state : MMapState) (psLinuxMemArea : Address) :
    Option (MMapState × Except MMapError Unit) := do
  let area ← state.areas psLinuxMemArea
  let (state, removed) ← destroyUnmapped area.sMMapOffsetStructList state
  if !removed then some (state, .error .stillMapped)
  else
    some
      ({ state with
        areas := update state.areas psLinuxMemArea none
        gsMMapAreaList := state.gsMMapAreaList.erase psLinuxMemArea },
      .ok ())

/-- The loop of `LinuxMMapPerProcessDisconnect`. -/
def destroyOfProcess (ui32PID : Nat) :
    List Address → MMapState → Option MMapState
  | [], state => some state
  | psOffsetStruct :: rest, state =>
    match state.offsetStructs psOffsetStruct with
    | none => none
    | some value =>
      if value.ui32PID = ui32PID then
        match state.destroyOffsetStruct psOffsetStruct with
        | none => none
        | some state => destroyOfProcess ui32PID rest state
      else destroyOfProcess ui32PID rest state

/-- `LinuxMMapPerProcessDisconnect`. -/
def linuxMMapPerProcessDisconnect (state : MMapState) (ui32PID : Nat) :
    Option MMapState :=
  destroyOfProcess ui32PID state.gsMMapOffsetStructList state

end MMapState

/-! ## Runs -/

/-- Calls of processes, and events of their mappings. -/
inductive MMapOp where
  | registerArea
      (psLinuxMemArea : Address) (ui32ByteSize cpuPAddr : Nat)
      (ui32AreaFlags : BitVec 32) (bNeedsCacheInvalidate : Bool)
  | removeRegisteredArea (psLinuxMemArea : Address)
  | osMemHandleToMMapData
      (ui32PID hMHandle : Nat) (lookup allocated : Option Address)
  | releaseMMapData (ui32PID : Nat) (lookup : Option Address)
  | mmap (ui32PID : Nat) (request : MMapRequest)
  | vOpen (psVma psOffsetStruct : Address)
  | vClose (psVma psOffsetStruct : Address)
  | disconnect (ui32PID : Nat)

namespace MMapState

/-- Before the first call. -/
def init : MMapState where
  offsetStructs := fun _ => none
  areas := fun _ => none
  gsMMapAreaList := []
  gsMMapOffsetStructList := []
  vmas := []
  translations := []
  created := []
  destroyed := []

/-- Perform one call. -/
def step (state : MMapState) : MMapOp → Option MMapState
  | .registerArea psLinuxMemArea ui32ByteSize cpuPAddr ui32AreaFlags
      bNeedsCacheInvalidate =>
    some (state.pvrMMapRegisterArea psLinuxMemArea ui32ByteSize cpuPAddr
      ui32AreaFlags bNeedsCacheInvalidate)
  | .removeRegisteredArea psLinuxMemArea =>
    (state.pvrMMapRemoveRegisteredArea psLinuxMemArea).map Prod.fst
  | .osMemHandleToMMapData ui32PID hMHandle lookup allocated =>
    (state.pvrMMapOSMemHandleToMMapData ui32PID hMHandle lookup
      allocated).map Prod.fst
  | .releaseMMapData ui32PID lookup =>
    (state.pvrMMapReleaseMMapData ui32PID lookup).map Prod.fst
  | .mmap ui32PID request => (state.pvrMMap ui32PID request).map Prod.fst
  | .vOpen psVma psOffsetStruct => state.mMapVOpenNoLock psVma psOffsetStruct
  | .vClose psVma psOffsetStruct => state.mMapVCloseNoLock psVma psOffsetStruct
  | .disconnect ui32PID => state.linuxMMapPerProcessDisconnect ui32PID

end MMapState

end PvrServices.MMap
