import PvrServices.Compat.Layout

/-!
# Expansion of the IN structure

The packed structure of a 32-bit caller is widened to the kernel structure
inside the bridge buffer.  Small structures are read into locals first; the
large ones are walked by a descriptor, from the last field to the first, so
that the growing copy stays above what is still to be read.
-/

namespace PvrServices.Compat

open ByteMemory CLayout

/-! ## Descriptor walks -/

/-- Kind letter of a descriptor entry. -/
inductive FieldKind where
  /-- `'U'`: 32-bit scalars. -/
  | u
  /-- `'H'`: handles or pointers. -/
  | h
  /-- `'B'`: an opaque block of bytes. -/
  | b
  /-- `'S'`: `SGX_INTERNEL_STATUS_UPDATE` elements. -/
  | s
deriving DecidableEq, Repr

/-- A descriptor entry: `cnt` elements of one kind. -/
structure FieldRun where
  kind : FieldKind
  cnt : Nat
deriving DecidableEq, Repr

/-- Distance between two elements in the packed structure. -/
def FieldKind.stride32 : FieldKind → Nat
  | .u => 4
  | .h => 4
  | .b => 1
  | .s => 12

/-- Distance between two elements in the kernel structure. -/
def FieldKind.stride64 : FieldKind → Nat
  | .u => 4
  | .h => 8
  | .b => 1
  | .s => 16

/-- Whether a run starts 8-aligned in the kernel structure. -/
def FieldKind.aligns : FieldKind → Bool
  | .h => true
  | .s => true
  | _ => false

/-- A run with the offsets the forward pass computes, `aSrc[i]` and
`aDst[i]`. -/
structure PlacedRun where
  kind : FieldKind
  cnt : Nat
  src : Nat
  dst : Nat
deriving DecidableEq, Repr

/-- The forward pass over `aFields`. -/
def placeRuns (so ko : Nat) : List FieldRun → List PlacedRun
  | [] => []
  | run :: rest =>
    let aligned := if run.kind.aligns then alignUp ko 8 else ko
    { kind := run.kind, cnt := run.cnt, src := so, dst := aligned } ::
      placeRuns (so + run.cnt * run.kind.stride32)
        (aligned + run.cnt * run.kind.stride64) rest

/-- One byte of a block copy. -/
def byteMove (s d : Nat) (index : Nat) : Move :=
  { source := s + index, sourceWidth := 1, target := d + index,
    targetWidth := 1 }

/-- A 32-bit scalar kept at its width. -/
def scalarMove (source target : Nat) : Move :=
  { source, sourceWidth := 4, target, targetWidth := 4 }

/-- A 32-bit handle widened to 64 bits. -/
def widenMove (source target : Nat) : Move :=
  { source, sourceWidth := 4, target, targetWidth := 8 }

/-- Body of the element loop, `s` and `d` being the addresses of the element
in the two layouts. -/
def expandElement (kind : FieldKind) (s d : Nat) (memory : Memory) : Memory :=
  match kind with
  | .u => (scalarMove s d).apply memory
  | .h => (widenMove s d).apply memory
  | .b => (byteMove s d 0).apply memory
  | .s =>
    -- `hv` is read before the block is moved and written after it
    let hv := readLE memory 4 (s + 8)
    let moved := countdown (fun index => (byteMove s d index).apply) 8 memory
    writeLE moved 8 (d + 8) hv

/-- One run, its last element first. -/
def expandRun (run : PlacedRun) (memory : Memory) : Memory :=
  countdown
    (fun j => expandElement run.kind (run.src + j * run.kind.stride32)
      (run.dst + j * run.kind.stride64))
    run.cnt memory

/-- All runs, the last first. -/
def expandRuns (runs : List PlacedRun) (memory : Memory) : Memory :=
  runs.foldr expandRun memory

/-- The descriptor walk shared by the three large expansions. -/
def expandFields (aFields : List FieldRun) (memory : Memory) : Memory :=
  expandRuns (placeRuns 0 0 aFields) memory

/-- `aFields` of `PVRCompatExpandDevInitPart2`. -/
def devInitPart2Fields : List FieldRun := [
  ⟨.u, 1⟩, ⟨.h, 1⟩, ⟨.h, 6⟩, ⟨.u, 11⟩, ⟨.b, 1728⟩, ⟨.u, 1⟩, ⟨.b, 52⟩,
  ⟨.h, 1⟩, ⟨.h, 2⟩, ⟨.u, 7⟩, ⟨.u, 24⟩, ⟨.h, 18⟩]

/-- `aFields` of `PVRCompatExpandDoKick`. -/
def doKickFields : List FieldRun := [
  ⟨.u, 1⟩, ⟨.h, 1⟩, ⟨.b, 32⟩, ⟨.h, 1⟩, ⟨.u, 1⟩, ⟨.h, 1⟩, ⟨.h, 1⟩, ⟨.u, 2⟩,
  ⟨.s, 32⟩, ⟨.s, 4⟩, ⟨.u, 4⟩, ⟨.h, 8⟩, ⟨.u, 1⟩, ⟨.h, 3⟩, ⟨.h, 1⟩]

/-- `aFields` of `PVRCompatExpandSubmitTransfer`. -/
def submitTransferFields : List FieldRun := [
  ⟨.u, 1⟩, ⟨.h, 1⟩, ⟨.h, 1⟩, ⟨.u, 2⟩, ⟨.h, 2⟩, ⟨.u, 1⟩, ⟨.h, 5⟩, ⟨.u, 1⟩,
  ⟨.h, 5⟩, ⟨.u, 2⟩, ⟨.h, 1⟩]

/-- `PVRCompatExpandDevInitPart2`. -/
def pvrCompatExpandDevInitPart2 : Memory → Memory :=
  expandFields devInitPart2Fields

/-- `PVRCompatExpandDoKick`. -/
def pvrCompatExpandDoKick : Memory → Memory :=
  expandFields doKickFields

/-- `PVRCompatExpandSubmitTransfer`. -/
def pvrCompatExpandSubmitTransfer : Memory → Memory :=
  expandFields submitTransferFields

/-! ## The embedded misc info -/

/-- Kind letter of a row of `g_aMiscInfoFields`. -/
inductive MiscFieldKind where
  | u
  | p
  | b
deriving DecidableEq, Repr

/-- `struct pvr_misc_fld`. -/
structure PvrMiscFld where
  i6 : Nat
  kn : Nat
  k : MiscFieldKind
  sz : Nat
deriving DecidableEq, Repr

/-- `g_aMiscInfoFields`. -/
def miscInfoFields : List PvrMiscFld := [
  ⟨0, 0, .u, 0⟩, ⟨4, 4, .u, 0⟩, ⟨8, 8, .p, 0⟩, ⟨12, 16, .p, 0⟩,
  ⟨16, 24, .p, 0⟩, ⟨20, 32, .p, 0⟩, ⟨24, 40, .p, 0⟩, ⟨28, 48, .u, 0⟩,
  ⟨32, 56, .p, 0⟩, ⟨36, 64, .u, 0⟩, ⟨40, 72, .b, 50⟩, ⟨92, 128, .p, 0⟩,
  ⟨96, 136, .p, 0⟩, ⟨100, 144, .b, 16⟩, ⟨116, 160, .u, 0⟩,
  ⟨120, 164, .u, 0⟩, ⟨124, 168, .p, 0⟩, ⟨128, 176, .p, 0⟩,
  ⟨132, 184, .u, 0⟩]

/-- The accesses of one row when expanding; blocks go from their last byte
down. -/
def PvrMiscFld.expandStages (f : PvrMiscFld) (dst src : Nat) : List Stage :=
  match f.k with
  | .u => [[scalarMove (src + f.i6) (dst + f.kn)]]
  | .p => [[widenMove (src + f.i6) (dst + f.kn)]]
  | .b => (List.range f.sz).reverse.map fun j =>
    [byteMove (src + f.i6) (dst + f.kn) j]

/-- A 64-bit handle truncated to 32 bits. -/
def narrowMove (source target : Nat) : Move :=
  { source, sourceWidth := 8, target, targetWidth := 4 }

/-- The accesses of one row when compacting; blocks go from their first byte
up. -/
def PvrMiscFld.compactStages (f : PvrMiscFld) (dst src : Nat) : List Stage :=
  match f.k with
  | .u => [[scalarMove (src + f.kn) (dst + f.i6)]]
  | .p => [[narrowMove (src + f.kn) (dst + f.i6)]]
  | .b => (List.range f.sz).map fun j => [byteMove (src + f.kn) (dst + f.i6) j]

/-- The accesses of `PVRCompatXlateMiscInfo`: the rows from the last down when
expanding, from the first up when compacting. -/
def miscInfoStages (dst src : Nat) (bExpand : Bool) : List Stage :=
  if bExpand then
    miscInfoFields.reverse.flatMap fun f => f.expandStages dst src
  else
    miscInfoFields.flatMap fun f => f.compactStages dst src

/-- `PVRCompatXlateMiscInfo`. -/
def pvrCompatXlateMiscInfo (dst src : Nat) (bExpand : Bool) :
    Memory → Memory :=
  runStages (miscInfoStages dst src bExpand)

/-! ## Dispatch -/

/-- The branches of `PVRCompatExpandIn` after the table, by the fields they
read into locals and then write. -/
def expandBranch : BridgeId → Memory → Memory
  | .sgxInfoForSrvInit | .mHandleToMMapData | .releaseMMapData
  | .createDevMemContext | .sgxGetClientInfo | .sgxReleaseClientInfo
  | .eventObjectWait | .sgxGetInternalDevInfo | .syncOpsTakeToken
  | .closeDispClassDevice | .enumDispClassFormats | .getDispClassSysBuffer
  | .getDispClassInfo => runStage [widenMove 4 8]
  | .allocDeviceMem =>
    runStage [scalarMove 0 0, widenMove 4 8, widenMove 8 16,
      scalarMove 12 24, scalarMove 16 28, scalarMove 20 32]
  | .sgxDevInitPart2 => pvrCompatExpandDevInitPart2
  | .sgxDoKick => pvrCompatExpandDoKick
  | .sgxSubmitTransfer => pvrCompatExpandSubmitTransfer
  | .sgxGetMiscInfo | .getDevMemHeapInfo | .freeDeviceMem
  | .destroyDevMemContext =>
    runStage [scalarMove 0 0, widenMove 4 8, widenMove 8 16]
  | .getMiscInfo => pvrCompatXlateMiscInfo 8 4 true
  | .eventObjectOpen => runStage [widenMove 52 56]
  | .eventObjectClose => runStage [widenMove 52 56, widenMove 56 64]
  | .sgxRegisterHwTransferContext | .sgxRegisterHwRenderContext =>
    runStage [scalarMove 0 0, widenMove 4 8, widenMove 8 16,
      scalarMove 12 24, scalarMove 16 28, widenMove 20 32]
  | .syncOpsFlushToToken =>
    runStage [scalarMove 0 0, widenMove 4 8, scalarMove 8 16, scalarMove 12 20]
  | .openDispClassDevice => runStage [widenMove 8 8]
  | .enumDispClassDims => runStage [scalarMove 8 16, widenMove 4 8]
  | .getDispClassBuffers => runStage [widenMove 4 8, widenMove 8 16]
  | .createDispClassSwapChain => fun memory =>
    -- the handle is read before the tail moves up and written after it
    let ui32Dev := readLE memory 4 4
    let moved := countdown (fun j => (byteMove 8 16 j).apply) 48 memory
    writeLE moved 8 8 ui32Dev
  | .wrapExtMemory =>
    runStage [scalarMove 0 0, widenMove 4 8, widenMove 8 16,
      widenMove 12 24, scalarMove 16 32, scalarMove 20 36,
      scalarMove 24 40, scalarMove 28 44, widenMove 32 48,
      scalarMove 36 56]
  | _ => fun memory => memory

/-- `PVRCompatExpandIn`. -/
def pvrCompatExpandIn (ui32BridgeID : BridgeId) (pvBridgeIn : Memory) :
    Memory :=
  match pvrCompatLayoutRepack ui32BridgeID true pvBridgeIn with
  | some repacked => repacked
  | none => expandBranch ui32BridgeID pvBridgeIn

end PvrServices.Compat
