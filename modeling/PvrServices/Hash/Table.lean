import PvrServices.Lib.ChainTable

/-!
# Hash tables

A hash table is an array of chains of buckets that grows and shrinks with the
number of its entries.  The buckets stay where they are; a resize links them
into a second array.  What the allocator answers is an argument of each
function, and a function that touches memory outside what was allocated has no
value.
-/

namespace PvrServices.Hash

open ChainTable

/-! ## Data -/

/-- Address of a bucket. -/
abbrev Address := Nat

/-- `IMG_UINTPTR_T`. -/
abbrev Word := BitVec 64

/-- The words of a key. -/
abbrev Key := List Word

/-- `BUCKET` without its link. -/
structure Bucket where
  v : Word
  k : Key
deriving DecidableEq, Repr

/-- The next pointers of the buckets with an array of chains. -/
structure Links where
  pNext : Address → Option Address
  heads : List (Option Address)

/-- `HASH_TABLE` with the memory of its buckets. -/
structure HashTable where
  pNext : Address → Option Address
  ppBucketTable : List (Option Address)
  buckets : Address → Option Bucket
  uSize : BitVec 32
  uCount : BitVec 32
  uMinimumSize : BitVec 32
  uKeySize : BitVec 32
  pfnHashFunc : BitVec 32 → Key → BitVec 32 → BitVec 32
  pfnKeyComp : BitVec 32 → Key → Key → Bool

/-! ## Keys -/

/-- The number of words of a key. -/
def keyLen (uKeySize : BitVec 32) : Nat :=
  uKeySize.toNat / 8

/-- What `HASH_Func_Default` makes of one word. -/
def hashPart (word : Word) : BitVec 32 :=
  let uHashPart : BitVec 32 := word.setWidth 32
  let uHashPart := uHashPart + uHashPart <<< 12
  let uHashPart := uHashPart ^^^ uHashPart >>> 22
  let uHashPart := uHashPart + uHashPart <<< 4
  let uHashPart := uHashPart ^^^ uHashPart >>> 9
  let uHashPart := uHashPart + uHashPart <<< 10
  let uHashPart := uHashPart ^^^ uHashPart >>> 2
  let uHashPart := uHashPart + uHashPart <<< 7
  uHashPart ^^^ uHashPart >>> 12

/-- `HASH_Func_Default`. -/
def hashFuncDefault (uKeySize : BitVec 32) (pKey : Key)
    (_uHashTabLen : BitVec 32) : BitVec 32 :=
  (pKey.take (keyLen uKeySize)).foldl
    (fun uHashKey word => uHashKey + hashPart word) 0

/-- `HASH_Key_Comp_Default`. -/
def hashKeyCompDefault (uKeySize : BitVec 32) (pKey1 pKey2 : Key) : Bool :=
  (List.range (keyLen uKeySize)).all fun ui => pKey1[ui]? == pKey2[ui]?

/-- `KEY_TO_INDEX`. -/
def keyToIndex (hash : HashTable) (pKey : Key) (uSize : BitVec 32) :
    Option Nat :=
  if uSize = 0 then none
  else some (hash.pfnHashFunc hash.uKeySize pKey uSize % uSize).toNat

/-! ## Chains -/

/-- `_ChainInsert`, with `false` for `PVRSRV_ERROR_INVALID_PARAMS`. -/
def chainInsert (hash : HashTable) (pBucket : Address) (links : Links)
    (uSize : BitVec 32) : Option (Bool × Links) :=
  if uSize = 0 then some (false, links)
  else do
    let bucket ← hash.buckets pBucket
    let uIndex ← keyToIndex hash bucket.k uSize
    let head ← links.heads[uIndex]?
    some (true,
      { pNext := Function.update links.pNext pBucket head
        heads := links.heads.set uIndex (some pBucket) })

/-- The loop of `_Rehash` over one chain. -/
def rehashChain (hash : HashTable) (uNewSize : BitVec 32) :
    Nat → Option Address → Links → Option (Bool × Links)
  | 0, _, _ => none
  | _ + 1, none, links => some (true, links)
  | fuel + 1, some pBucket, links => do
      let pNextBucket := links.pNext pBucket
      let (inserted, links) ← chainInsert hash pBucket links uNewSize
      if inserted then rehashChain hash uNewSize fuel pNextBucket links
      else some (false, links)

/-- `_Rehash`, over the cells of the old array. -/
def rehash (hash : HashTable) (uNewSize : BitVec 32) (fuel : Nat) :
    List (Option Address) → Links → Option (Bool × Links)
  | [], links => some (true, links)
  | pBucket :: rest, links => do
      let (rehashed, links) ← rehashChain hash uNewSize fuel pBucket links
      if rehashed then rehash hash uNewSize fuel rest links
      else some (false, links)

/-- An array of empty chains.  Its size in bytes is a 32-bit number; the loop
that clears the array leaves it if the size was cut off. -/
def newBucketTable (uNewSize : BitVec 32) : Option (List (Option Address)) :=
  if 2 ^ 32 ≤ 8 * uNewSize.toNat then none
  else some (List.replicate uNewSize.toNat none)

/-- `_Resize`. -/
def resize (fuel : Nat) (hash : HashTable) (uNewSize : BitVec 32)
    (allocated : Bool) : Option (Bool × HashTable) :=
  if uNewSize = hash.uSize then some (true, hash)
  else if allocated = false then some (false, hash)
  else do
    let ppNewTable ← newBucketTable uNewSize
    let (rehashed, links) ← rehash hash uNewSize fuel hash.ppBucketTable
      { pNext := hash.pNext, heads := ppNewTable }
    if rehashed then
      some (true,
        { hash with
          pNext := links.pNext, ppBucketTable := links.heads,
          uSize := uNewSize })
    else some (false, { hash with pNext := links.pNext })

/-! ## Operations -/

/-- `HASH_Create_Extended`. -/
def hashCreateExtended (uInitialLen uKeySize : BitVec 32)
    (pfnHashFunc : BitVec 32 → Key → BitVec 32 → BitVec 32)
    (pfnKeyComp : BitVec 32 → Key → Key → Bool)
    (pNext : Address → Option Address)
    (hashAllocated tableAllocated : Bool) : Option (Option HashTable) :=
  if hashAllocated && tableAllocated then do
    let ppBucketTable ← newBucketTable uInitialLen
    some (some
      { pNext, ppBucketTable, buckets := fun _ => none, uSize := uInitialLen,
        uCount := 0, uMinimumSize := uInitialLen, uKeySize, pfnHashFunc,
        pfnKeyComp })
  else some none

/-- `HASH_Insert_Extended`.  The memory for the bucket is at `allocated`,
which is not in use; `resized` tells whether an allocation of `_Resize`
succeeds. -/
def hashInsertExtended (fuel : Nat) (hash : HashTable) (pKey : Key)
    (v : Word) (allocated : Option Address) (resized : Bool) :
    Option (Bool × HashTable) :=
  match allocated with
  | none => some (false, hash)
  | some pBucket =>
    -- the size of the allocation is a 32-bit number
    if (hash.buckets pBucket).isSome ∨ 2 ^ 32 ≤ 16 + hash.uKeySize.toNat then
      none
    else do
      let filled : HashTable :=
        { hash with
          buckets := Function.update hash.buckets pBucket
            (some { v, k := pKey.take (keyLen hash.uKeySize) }) }
      let (inserted, links) ← chainInsert filled pBucket
        { pNext := hash.pNext, heads := hash.ppBucketTable } hash.uSize
      if inserted then
        let counted : HashTable :=
          { filled with
            pNext := links.pNext, ppBucketTable := links.heads,
            uCount := hash.uCount + 1 }
        if counted.uSize < counted.uCount <<< 1 then do
          let (_, grown) ← resize fuel counted (counted.uSize <<< 1) resized
          some (true, grown)
        else some (true, counted)
      else some (false, hash)

/-- The loop of `HASH_Remove_Extended` and `HASH_Retrieve_Extended`. -/
def findBucket (fuel : Nat) (hash : HashTable) (pKey : Key) :
    Option (Option (Place Address × Address)) := do
  let uIndex ← keyToIndex hash pKey hash.uSize
  let head ← hash.ppBucketTable[uIndex]?
  search hash.pNext
    (fun pBucket => (hash.buckets pBucket).map fun bucket =>
      hash.pfnKeyComp hash.uKeySize bucket.k pKey)
    fuel (.head uIndex) head

/-- `HASH_Remove_Extended`. -/
def hashRemoveExtended (fuel : Nat) (hash : HashTable) (pKey : Key)
    (resized : Bool) : Option (Word × HashTable) := do
  match ← findBucket fuel hash pKey with
  | none => some (0, hash)
  | some (ppBucket, pBucket) => do
      let bucket ← hash.buckets pBucket
      let links := store hash.pNext hash.ppBucketTable (hash.pNext pBucket)
        ppBucket
      let counted : HashTable :=
        { hash with
          pNext := links.1, ppBucketTable := links.2,
          buckets := Function.update hash.buckets pBucket none,
          uCount := hash.uCount - 1 }
      if counted.uCount <<< 2 < counted.uSize ∧
          counted.uMinimumSize < counted.uSize then do
        let (_, shrunk) ← resize fuel counted
          (if counted.uMinimumSize < counted.uSize >>> 1 then
            counted.uSize >>> 1 else counted.uMinimumSize) resized
        some (bucket.v, shrunk)
      else some (bucket.v, counted)

/-- `HASH_Retrieve_Extended`. -/
def hashRetrieveExtended (fuel : Nat) (hash : HashTable) (pKey : Key) :
    Option Word := do
  match ← findBucket fuel hash pKey with
  | none => some 0
  | some (_, pBucket) => (hash.buckets pBucket).map Bucket.v

end PvrServices.Hash
