import PvrServices.Handles.Calls

/-!
# What one call does

A call allocates a handle or returns one that is there, frees a handle, ends a
batch, or leaves the handles as they are.  Bases with and without purging have
this in common, and what runs keep of the handles follows from it.
-/

namespace PvrServices.Handles

open HandleBase

/-! ## Kinds of calls -/

/-- A call that neither commits nor releases the batch. -/
def HandleOp.InsideBatch : HandleOp → Prop
  | .commitBatch => False
  | .releaseBatch => False
  | _ => True

/-- `PVRSRVAllocHandle` and `PVRSRVAllocSubHandle`. -/
def HandleOp.allocates : HandleOp → Bool
  | .alloc .. => true
  | .allocSub .. => true
  | _ => false

/-- `PVRSRVReleaseHandle` and `PVRSRVLookupAndReleaseHandle`. -/
def HandleOp.releases : HandleOp → Bool
  | .release .. => true
  | .lookupAndRelease .. => true
  | _ => false

theorem HandleOp.not_releases
    {op : HandleOp}
    (allocates : op.allocates = true) :
    op.releases = false := by
  cases op <;> first | rfl | cases allocates

/-! ## Effects -/

/-- What a call does to the handles, and what it returns. -/
inductive CallEffect (before after : HandleBase) :
    HandleOp → HandleResult → Prop where
  | alloc
      {pvData : Nat} {eType : HandleType} {eFlag : AllocFlag}
      {outcome : AllocOutcome} {result : Except HandleError Nat}
      (allocated : AllocResult before after pvData eType eFlag
        { data := pvData, type := eType.value, parent := 0 } 0
        (fun _ => True) outcome result) :
      CallEffect before after (.alloc pvData eType eFlag outcome)
        (result.map .handle)
  | noParent
      {pvData hParent : Nat} {eType : HandleType} {eFlag : AllocFlag}
      {outcome : AllocOutcome} {error : HandleError}
      (lost : before.getHandleStructure hParent handleTypeNone =
        .error error)
      (same : SameForest before after) :
      CallEffect before after (.allocSub pvData eType eFlag hParent outcome)
        (.error error)
  | allocSub
      {pvData hParent parent : Nat} {eType : HandleType}
      {eFlag : AllocFlag} {outcome : AllocOutcome}
      {result : Except HandleError Nat}
      (found : before.getHandleStructure hParent handleTypeNone = .ok parent)
      (allocated : AllocResult before after pvData eType eFlag
        (subHandleKey pvData eType eFlag hParent) (indexToHandle parent)
        (fun index => before.parentHandle index = hParent) outcome result) :
      CallEffect before after (.allocSub pvData eType eFlag hParent outcome)
        (result.map .handle)
  | same
      {op : HandleOp} {result : HandleResult}
      (noAlloc : op.allocates = false)
      (keeps : KeepsHandles before after) :
      CallEffect before after op result
  | freed
      {op : HandleOp} {result : HandleResult} {rank : Nat → Nat}
      {index : Nat} {removed : List Nat}
      (releases : op.releases = true)
      (freed : Freed before after rank [index] removed) :
      CallEffect before after op result
  | ended
      {op : HandleOp} {result : HandleResult}
      (outside : ¬ op.InsideBatch)
      (ends : BatchEnds before after) :
      CallEffect before after op result

end PvrServices.Handles
