import PvrServices.Lib.InPlace

/-!
# Natural layout of C structures

A C type is laid out by the size and alignment an ABI gives its scalars and
pointers: members follow one another, each at the next multiple of its
alignment, and the whole is padded to the largest alignment.  The leaves of a
type are its scalars and pointers with their byte offsets.  One declaration
has the same leaves under every ABI, only at other offsets and widths, which
is what lets two layouts of it be compared field by field.
-/

namespace CLayout

/-- What the layout of a structure takes from the ABI. -/
structure Abi where
  /-- Size and alignment of a pointer. -/
  pointerSize : Nat
deriving DecidableEq, Repr

/-- The 32-bit x86 ABI. -/
def i686 : Abi := { pointerSize := 4 }

/-- The 64-bit x86 ABI. -/
def x86_64 : Abi := { pointerSize := 8 }

mutual

/-- A C object type. -/
inductive CType where
  /-- An integer or enumeration, aligned to its size. -/
  | scalar (size : Nat)
  | pointer
  | array (length : Nat) (element : CType)
  | record (fields : CFields)

/-- The members of a structure, in declaration order. -/
inductive CFields where
  | nil
  | cons (name : String) (type : CType) (rest : CFields)

end

/-- Members from a list. -/
def CFields.ofList : List (String × CType) → CFields
  | [] => .nil
  | (name, type) :: rest => .cons name type (CFields.ofList rest)

/-- A structure type from its member list. -/
def CType.struct (members : List (String × CType)) : CType :=
  .record (CFields.ofList members)

/-- The next multiple of `alignment`. -/
def alignUp (offset alignment : Nat) : Nat :=
  (offset + alignment - 1) / alignment * alignment

mutual

/-- Alignment of a type. -/
def CType.alignOf (abi : Abi) : CType → Nat
  | .scalar size => size
  | .pointer => abi.pointerSize
  | .array _ element => element.alignOf abi
  | .record fields => fields.alignOf abi

/-- Largest alignment of the members. -/
def CFields.alignOf (abi : Abi) : CFields → Nat
  | .nil => 1
  | .cons _ type rest => max (type.alignOf abi) (rest.alignOf abi)

end

mutual

/-- Size of a type, padding included. -/
def CType.sizeOf (abi : Abi) : CType → Nat
  | .scalar size => size
  | .pointer => abi.pointerSize
  | .array length element => length * element.sizeOf abi
  | .record fields => alignUp (fields.endOf abi 0) (fields.alignOf abi)

/-- End of the last member when the first may start at `offset`. -/
def CFields.endOf (abi : Abi) (offset : Nat) : CFields → Nat
  | .nil => offset
  | .cons _ type rest =>
    rest.endOf abi (alignUp offset (type.alignOf abi) + type.sizeOf abi)

end

/-- A scalar or pointer inside a structure. -/
structure Leaf where
  offset : Nat
  size : Nat
deriving DecidableEq, Repr

mutual

/-- Scalars and pointers of a type placed at `base`, in order. -/
def CType.leaves (abi : Abi) (base : Nat) : CType → List Leaf
  | .scalar size => [{ offset := base, size }]
  | .pointer => [{ offset := base, size := abi.pointerSize }]
  | .array length element =>
    (List.range length).flatMap fun index =>
      element.leaves abi (base + index * element.sizeOf abi)
  | .record fields => fields.leaves abi base 0

/-- Scalars and pointers of the members from `offset` on. -/
def CFields.leaves (abi : Abi) (base offset : Nat) : CFields → List Leaf
  | .nil => []
  | .cons _ type rest =>
    type.leaves abi (base + alignUp offset (type.alignOf abi)) ++
      rest.leaves abi base
        (alignUp offset (type.alignOf abi) + type.sizeOf abi)

end

mutual

/-- The number of scalars and pointers of a type. -/
def CType.leafCount : CType → Nat
  | .scalar _ => 1
  | .pointer => 1
  | .array length element => length * element.leafCount
  | .record fields => fields.leafCount

/-- The number of scalars and pointers of the members. -/
def CFields.leafCount : CFields → Nat
  | .nil => 0
  | .cons _ type rest => type.leafCount + rest.leafCount

end

/-! ## Comparing two layouts of one declaration -/

/-- The fields of a type in two ABIs, paired by declaration. -/
def CType.fieldPairs (source target : Abi) (type : CType) :
    List (Leaf × Leaf) :=
  (type.leaves source 0).zip (type.leaves target 0)

/-- The move that takes a field from one layout to the other. -/
def fieldMove (pair : Leaf × Leaf) : ByteMemory.Move :=
  { source := pair.1.offset
    sourceWidth := pair.1.size
    target := pair.2.offset
    targetWidth := pair.2.size }

end CLayout
