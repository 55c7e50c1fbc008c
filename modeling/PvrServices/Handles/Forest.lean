import PvrServices.Handles.Ops

/-!
# Handles as a forest

What the handle functions are for: a forest of nodes named by handles.  The
parent of a root is 0, which names no node.  A step says which results a call
may have and what it makes of the forest.
-/

namespace PvrServices.Handles

/-! ## Nodes -/

/-- A node of the forest. -/
structure Node where
  data : Nat
  type : Nat
  flags : AllocFlag
  parent : Nat

/-- The nodes by handle. -/
abbrev Forest : Type := Nat → Option Node

/-- The key under which a node is found: its data, its type, and its parent if
it is private. -/
def Node.key (node : Node) : HandKey where
  data := node.data
  type := node.type
  parent := if node.flags.priv then node.parent else 0

namespace Forest

/-- A node that is not `MULTI` is found under its key. -/
def Keyed (forest : Forest) (handle : Nat) (key : HandKey) : Prop :=
  ∃ node, forest handle = some node ∧ node.flags.multi = false ∧
    node.key = key

/-- The node lies below `ancestor`, where all nodes lie below 0. -/
inductive Descends (forest : Forest) : Nat → Nat → Prop where
  | parent
      {handle : Nat} {node : Node}
      (present : forest handle = some node) :
      Descends forest handle node.parent
  | above
      {handle ancestor : Nat} {node : Node}
      (present : forest handle = some node)
      (descends : Descends forest node.parent ancestor) :
      Descends forest handle ancestor

/-- The forest with one more node. -/
def insert (forest : Forest) (handle : Nat) (node : Node) : Forest :=
  Function.update forest handle (some node)

/-- The forest without a node and all nodes below it. -/
noncomputable def prune (forest : Forest) (handle : Nat) : Forest :=
  open Classical in
  fun other =>
    if other = handle ∨ forest.Descends other handle then none
    else forest other

/-- There is a node for each handle up to the limit. -/
def Full (forest : Forest) (limit : Nat) : Prop :=
  ∀ handle, 0 < handle → handle ≤ limit → forest handle ≠ none

/-! ## Calls -/

/-- What a search for a handle of a type finds. -/
inductive Find (forest : Forest) (handle eType : Nat) :
    Except HandleError Node → Prop where
  | found
      {node : Node}
      (present : forest handle = some node)
      (matching : eType = handleTypeNone ∨ eType = node.type) :
      Find forest handle eType (.ok node)
  | absent
      {error : HandleError}
      (absent : forest handle = none)
      (reason : error = .handleIndexOutOfRange ∨
        error = .handleNotAllocated) :
      Find forest handle eType (.error error)
  | mismatch
      {node : Node}
      (present : forest handle = some node)
      (other : eType ≠ handleTypeNone ∧ eType ≠ node.type) :
      Find forest handle eType (.error .handleTypeMismatch)

/-- An allocation of `node` under `key`: it takes the existing handle under
the key if both are shared and the node may be taken, and otherwise a handle
that names no node. -/
inductive Alloc
    (limit : Nat) (forest : Forest)
    (node : Node) (key : HandKey) (shareable : Node → Prop)
    (outcome : AllocOutcome) : Forest → HandleResult → Prop where
  | fresh
      {handle : Nat}
      (unkeyed : node.flags.multi = false → ∀ other, ¬ forest.Keyed other key)
      (named : 0 < handle ∧ handle ≤ limit)
      (unused : forest handle = none) :
      Alloc limit forest node key shareable outcome
        (forest.insert handle node) (.ok (.handle handle))
  | shared
      {handle : Nat} {existing : Node}
      (single : node.flags.multi = false)
      (keyed : forest.Keyed handle key)
      (present : forest handle = some existing)
      (both : existing.flags.shared = true ∧ node.flags.shared = true)
      (allowed : shareable existing) :
      Alloc limit forest node key shareable outcome forest
        (.ok (.handle handle))
  | notShareable
      {handle : Nat} {existing : Node}
      (single : node.flags.multi = false)
      (keyed : forest.Keyed handle key)
      (present : forest handle = some existing)
      (refused : ¬ ((existing.flags.shared = true ∧
        node.flags.shared = true) ∧ shareable existing)) :
      Alloc limit forest node key shareable outcome forest
        (.error .handleNotShareable)
  | outOfMemory
      (unkeyed : node.flags.multi = false → ∀ other, ¬ forest.Keyed other key)
      (reason : outcome.osAllocMem = true → forest.Full limit) :
      Alloc limit forest node key shareable outcome forest
        (.error .outOfMemory)
  | unableToAdd
      (unkeyed : node.flags.multi = false → ∀ other, ¬ forest.Keyed other key)
      (single : node.flags.multi = false)
      (reason : outcome.hashInsert = false) :
      Alloc limit forest node key shareable outcome forest
        (.error .unableToAddHandle)

/-- The step of a call without batches. -/
inductive Step (limit : Nat) (forest : Forest) :
    HandleOp → Forest → HandleResult → Prop where
  | alloc
      {pvData : Nat} {eType : HandleType} {eFlag : AllocFlag}
      {outcome : AllocOutcome} {after : Forest} {result : HandleResult}
      (alloc : Alloc limit forest
        { data := pvData, type := eType.value, flags := eFlag, parent := 0 }
        { data := pvData, type := eType.value, parent := 0 }
        (fun _ => True) outcome after result) :
      Step limit forest (.alloc pvData eType eFlag outcome) after result
  | allocSub
      {pvData : Nat} {eType : HandleType} {eFlag : AllocFlag}
      {hParent : Nat} {outcome : AllocOutcome} {parent : Node}
      {after : Forest} {result : HandleResult}
      (found : Find forest hParent handleTypeNone (.ok parent))
      (alloc : Alloc limit forest
        { data := pvData
          type := eType.value
          flags := eFlag
          parent := hParent }
        { data := pvData
          type := eType.value
          parent := if eFlag.priv then hParent else 0 }
        (fun existing => existing.parent = hParent) outcome after result) :
      Step limit forest (.allocSub pvData eType eFlag hParent outcome) after
        result
  | allocSubError
      {pvData : Nat} {eType : HandleType} {eFlag : AllocFlag}
      {hParent : Nat} {outcome : AllocOutcome} {error : HandleError}
      (missing : Find forest hParent handleTypeNone (.error error)) :
      Step limit forest (.allocSub pvData eType eFlag hParent outcome)
        forest (.error error)
  | lookup
      {hHandle eType : Nat} {found : Except HandleError Node}
      (find : Find forest hHandle eType found) :
      Step limit forest (.lookup hHandle eType) forest
        (found.map fun node => .data node.data)
  | lookupSub
      {hHandle eType hAncestor : Nat} {node : Node}
      (find : Find forest hHandle eType (.ok node))
      (descends : forest.Descends hHandle hAncestor) :
      Step limit forest (.lookupSub hHandle eType hAncestor) forest
        (.ok (.data node.data))
  | lookupSubInvalid
      {hHandle eType hAncestor : Nat} {node : Node}
      (find : Find forest hHandle eType (.ok node))
      (apart : ¬ forest.Descends hHandle hAncestor) :
      Step limit forest (.lookupSub hHandle eType hAncestor) forest
        (.error .invalidSubhandle)
  | lookupSubError
      {hHandle eType hAncestor : Nat} {error : HandleError}
      (find : Find forest hHandle eType (.error error)) :
      Step limit forest (.lookupSub hHandle eType hAncestor) forest
        (.error error)
  | find
      {pvData eType handle : Nat}
      (keyed : forest.Keyed handle
        { data := pvData, type := eType, parent := 0 }) :
      Step limit forest (.find pvData eType) forest (.ok (.handle handle))
  | findError
      {pvData eType : Nat}
      (unkeyed : ∀ handle, ¬ forest.Keyed handle
        { data := pvData, type := eType, parent := 0 }) :
      Step limit forest (.find pvData eType) forest (.error .handleNotFound)
  | getParent
      {hHandle eType : Nat} {found : Except HandleError Node}
      (find : Find forest hHandle eType found) :
      Step limit forest (.getParent hHandle eType) forest
        (found.map fun node => .handle node.parent)
  | lookupAndRelease
      {hHandle eType : Nat} {node : Node}
      (find : Find forest hHandle eType (.ok node)) :
      Step limit forest (.lookupAndRelease hHandle eType)
        (forest.prune hHandle) (.ok (.data node.data))
  | lookupAndReleaseError
      {hHandle eType : Nat} {error : HandleError}
      (find : Find forest hHandle eType (.error error)) :
      Step limit forest (.lookupAndRelease hHandle eType) forest (.error error)
  | release
      {hHandle eType : Nat} {node : Node}
      (find : Find forest hHandle eType (.ok node)) :
      Step limit forest (.release hHandle eType) (forest.prune hHandle)
        (.ok .nothing)
  | releaseError
      {hHandle eType : Nat} {error : HandleError}
      (find : Find forest hHandle eType (.error error)) :
      Step limit forest (.release hHandle eType) forest (.error error)

/-- The results a sequence of calls may have. -/
inductive Run (limit : Nat) :
    Forest → List HandleOp → List HandleResult → Prop where
  | nil (forest : Forest) : Run limit forest [] []
  | cons
      {forest after : Forest} {op : HandleOp} {ops : List HandleOp}
      {result : HandleResult} {results : List HandleResult}
      (step : Step limit forest op after result)
      (rest : Run limit after ops results) :
      Run limit forest (op :: ops) (result :: results)

end Forest

/-! ## Results of runs -/

/-- The results of a sequence of calls. -/
def HandleBase.results : HandleBase → List HandleOp →
    Option (List HandleResult)
  | _, [] => some []
  | base, op :: ops =>
    match base.step op with
    | none => none
    | some (base, result) => (base.results ops).map (result :: ·)

end PvrServices.Handles
