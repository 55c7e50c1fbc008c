import PvrServices.Hash.Table

/-!
# Rehashing keeps the buckets

Each bucket is in the chain its key belongs to.  Linking a bucket into an
array keeps that, so a resize moves every bucket of the old array to its chain
in the new one and loses none.
-/

namespace PvrServices.Hash

open ChainTable
open List.Perm (refl)

variable {hash : HashTable} {links : Links} {uSize : BitVec 32}
  {chains : List (List Address)} {pBucket : Address} {fuel : Nat}

/-- The chain a key belongs to. -/
def chainOf (hash : HashTable) (uSize : BitVec 32) (pKey : Key) : Nat :=
  (hash.pfnHashFunc hash.uKeySize pKey uSize % uSize).toNat

theorem keyToIndex_of_ne
    (nonzero : uSize ≠ 0)
    (pKey : Key) :
    keyToIndex hash pKey uSize = some (chainOf hash uSize pKey) :=
  if_neg nonzero

theorem chainOf_lt
    (nonzero : uSize ≠ 0)
    (pKey : Key) :
    chainOf hash uSize pKey < uSize.toNat := by
  have positive : 0 < uSize.toNat :=
    Nat.pos_of_ne_zero fun isZero => nonzero (BitVec.eq_of_toNat_eq isZero)
  rw [chainOf, BitVec.toNat_umod]
  exact Nat.mod_lt _ positive

/-- The array has these chains, and each bucket is live and in the chain its
key belongs to. -/
structure Placed (hash : HashTable) (links : Links) (uSize : BitVec 32)
    (chains : List (List Address)) : Prop where
  holds : Holds links.pNext links.heads chains
  size : chains.length = uSize.toNat
  placed : ∀ index chain, chains[index]? = some chain →
    ∀ pBucket ∈ chain, ∃ bucket, hash.buckets pBucket = some bucket ∧
      chainOf hash uSize bucket.k = index

section

variable (placed : Placed hash links uSize chains)
include placed

/-- Buckets in the array are live. -/
theorem Placed.live
    (member : pBucket ∈ chains.flatten) :
    ∃ bucket, hash.buckets pBucket = some bucket := by
  obtain ⟨chain, inChains, inChain⟩ := List.mem_flatten.mp member
  obtain ⟨index, isChain⟩ := List.mem_iff_getElem?.mp inChains
  obtain ⟨bucket, isBucket, _⟩ :=
    placed.placed index chain isChain pBucket inChain
  exact ⟨bucket, isBucket⟩

/-- `_ChainInsert` puts a bucket in front of its chain. -/
theorem Placed.chainInsert
    (nonzero : uSize ≠ 0)
    {bucket : Bucket}
    (isBucket : hash.buckets pBucket = some bucket)
    (fresh : pBucket ∉ chains.flatten) :
    ∃ inserted moved,
      chainInsert hash pBucket links uSize = some (true, inserted) ∧
        Placed hash inserted uSize moved ∧
        moved.flatten.Perm (pBucket :: chains.flatten) ∧
        ∀ other, other ≠ pBucket →
          inserted.pNext other = links.pNext other := by
  have inBounds : chainOf hash uSize bucket.k < chains.length := by
    rw [placed.size]
    exact chainOf_lt nonzero bucket.k
  have isChain := List.getElem?_eq_getElem inBounds
  obtain ⟨head, isHead, _⟩ := placed.holds.at isChain
  obtain ⟨others, before, after⟩ := perm_flatten_set isChain
    (pBucket :: chains[chainOf hash uSize bucket.k])
  refine ⟨⟨Function.update links.pNext pBucket head,
    links.heads.set (chainOf hash uSize bucket.k) (some pBucket)⟩, _, ?_,
    ⟨placed.holds.push isChain isHead fresh, ?_, ?_⟩, ?_, ?_⟩
  · rw [Hash.chainInsert, if_neg nonzero, isBucket]
    simp only [Option.bind_eq_bind, Option.bind_some,
      keyToIndex_of_ne nonzero, isHead]
  · rw [List.length_set, placed.size]
  · intro index chain isMoved other member
    rw [List.getElem?_set] at isMoved
    split_ifs at isMoved with isIndex
    · cases isMoved
      rcases List.mem_cons.mp member with rfl | inChain
      · exact ⟨bucket, isBucket, isIndex⟩
      · exact placed.placed index _ (isIndex ▸ isChain) other inChain
    · exact placed.placed index chain isMoved other member
  · exact after.trans (before.symm.cons pBucket)
  · intro other notBucket
    exact Function.update_of_ne notBucket _ _

/-- The loop over one chain of the old array moves all of its buckets. -/
theorem Placed.rehashChain
    {nodes : List Address}
    {pointer : Option Address}
    (nonzero : uSize ≠ 0)
    (follows : Follows links.pNext pointer nodes)
    (live : ∀ pBucket ∈ nodes, ∃ bucket, hash.buckets pBucket = some bucket)
    (distinct : (nodes ++ chains.flatten).Nodup)
    (enough : nodes.length < fuel) :
    ∃ rehashed moved,
      rehashChain hash uSize fuel pointer links = some (true, rehashed) ∧
        Placed hash rehashed uSize moved ∧
        moved.flatten.Perm (nodes ++ chains.flatten) ∧
        ∀ other ∉ nodes, rehashed.pNext other = links.pNext other := by
  induction nodes generalizing pointer links chains fuel with
  | nil =>
    obtain ⟨fuel, rfl⟩ := Nat.exists_eq_add_of_lt enough
    obtain rfl : pointer = none := follows
    exact ⟨links, chains, rfl, placed, refl _, fun _ _ => rfl⟩
  | cons first rest ih =>
    cases fuel with
    | zero => exact absurd enough (Nat.not_lt_zero _)
    | succ fuel =>
      obtain ⟨rfl, following⟩ := follows
      obtain ⟨bucket, isBucket⟩ := live first List.mem_cons_self
      rw [List.cons_append, List.nodup_cons] at distinct
      have fresh : first ∉ chains.flatten := fun member =>
        distinct.1 (List.mem_append_right _ member)
      have notRest : ∀ other ∈ rest, other ≠ first := by
        rintro other member rfl
        exact distinct.1 (List.mem_append_left _ member)
      obtain ⟨inserted, middle, inserts, middlePlaced, middlePerm,
        insertedSame⟩ := placed.chainInsert nonzero isBucket fresh
      have restFollows := follows_congr
        (fun other member => insertedSame other (notRest other member))
        following
      have restDistinct : (rest ++ middle.flatten).Nodup := by
        rw [(middlePerm.append_left rest).nodup_iff, List.nodup_middle,
          List.nodup_cons]
        exact distinct
      obtain ⟨rehashed, moved, runs, movedPlaced, movedPerm, same⟩ :=
        ih middlePlaced restFollows
          (fun other member => live other (List.mem_cons_of_mem _ member))
          restDistinct (Nat.lt_of_succ_lt_succ enough)
      refine ⟨rehashed, moved, ?_, movedPlaced, ?_, ?_⟩
      · rw [Hash.rehashChain, inserts]
        exact runs
      · calc
          moved.flatten.Perm (rest ++ middle.flatten) := movedPerm
          _ |>.Perm (rest ++ first :: chains.flatten) :=
            middlePerm.append_left rest
          _ |>.Perm (first :: rest ++ chains.flatten) :=
            List.perm_middle
      · intro other outside
        obtain ⟨notFirst, outsideRest⟩ :=
          List.ne_and_not_mem_of_not_mem_cons outside
        rw [same other outsideRest, insertedSame other notFirst]

/-- `_Rehash` moves the buckets of all chains. -/
theorem Placed.rehash
    {oldHeads : List (Option Address)}
    {oldChains : List (List Address)}
    (nonzero : uSize ≠ 0)
    (follows : List.Forall₂ (Follows links.pNext) oldHeads oldChains)
    (live : ∀ pBucket ∈ oldChains.flatten, ∃ bucket,
      hash.buckets pBucket = some bucket)
    (distinct : (oldChains.flatten ++ chains.flatten).Nodup)
    (enough : oldChains.flatten.length < fuel) :
    ∃ rehashed moved,
      rehash hash uSize fuel oldHeads links = some (true, rehashed) ∧
        Placed hash rehashed uSize moved ∧
        moved.flatten.Perm (oldChains.flatten ++ chains.flatten) := by
  induction oldChains generalizing oldHeads links chains with
  | nil =>
    obtain rfl := List.forall₂_nil_right_iff.mp follows
    exact ⟨links, chains, rfl, placed, refl _⟩
  | cons nodes oldChains ih =>
    obtain ⟨head, oldHeads, isFirst, rest, rfl⟩ :=
      List.forall₂_cons_right_iff.mp follows
    rw [List.flatten_cons, List.append_assoc] at distinct
    rw [List.flatten_cons, List.length_append] at enough
    have firstDistinct : (nodes ++ chains.flatten).Nodup := by
      refine List.Nodup.sublist ?_ distinct
      exact (List.sublist_append_right _ _).append_left nodes
    obtain ⟨middleLinks, middle, runs, middlePlaced, middlePerm, same⟩ :=
      placed.rehashChain nonzero isFirst
        (fun pBucket member => live pBucket (List.mem_append_left _ member))
        firstDistinct (Nat.lt_of_le_of_lt (Nat.le_add_right _ _) enough)
    have restFollows : List.Forall₂ (Follows middleLinks.pNext) oldHeads
        oldChains := by
      rw [List.forall₂_iff_get] at rest ⊢
      refine ⟨rest.1, ?_⟩
      intro index headBounds chainBounds
      apply follows_congr _ (rest.2 index headBounds chainBounds)
      intro entry member
      apply same
      intro inNodes
      have inRest : entry ∈ oldChains.flatten :=
        List.mem_flatten.mpr ⟨_, List.get_mem _ _, member⟩
      exact (List.nodup_append.mp distinct).2.2 entry inNodes entry
        (List.mem_append_left _ inRest) rfl
    have restPerm : (oldChains.flatten ++ middle.flatten).Perm
        (nodes ++ (oldChains.flatten ++ chains.flatten)) := by
      calc
        (oldChains.flatten ++ middle.flatten).Perm
            (oldChains.flatten ++ (nodes ++ chains.flatten)) :=
          middlePerm.append_left _
        _ |>.Perm (nodes ++ (oldChains.flatten ++ chains.flatten)) :=
          List.perm_append_comm_assoc _ _ _
    obtain ⟨rehashed, moved, restRuns, movedPlaced, movedPerm⟩ :=
      ih middlePlaced restFollows
        (fun pBucket member => live pBucket (List.mem_append_right _ member))
        (restPerm.nodup_iff.mpr distinct)
        (Nat.lt_of_le_of_lt (Nat.le_add_left _ _) enough)
    refine ⟨rehashed, moved, ?_, movedPlaced, ?_⟩
    · rw [Hash.rehash, runs]
      exact restRuns
    · rw [List.flatten_cons, List.append_assoc]
      exact movedPerm.trans restPerm

/-! ## Resizing -/

/-- The links of a table to its own array. -/
abbrev HashTable.ownLinks (hash : HashTable) : Links where
  pNext := hash.pNext
  heads := hash.ppBucketTable

/-- A resize keeps everything but the links and the size. -/
structure Resized (before after : HashTable) : Prop where
  buckets : after.buckets = before.buckets
  uCount : after.uCount = before.uCount
  uMinimumSize : after.uMinimumSize = before.uMinimumSize
  uKeySize : after.uKeySize = before.uKeySize
  pfnHashFunc : after.pfnHashFunc = before.pfnHashFunc
  pfnKeyComp : after.pfnKeyComp = before.pfnKeyComp

/-- Buckets are placed the same by a table that differs in its links. -/
theorem Placed.resized
    {after : HashTable}
    (resized : Resized hash after) :
    Placed after links uSize chains := by
  refine ⟨placed.holds, placed.size, ?_⟩
  intro index chain isChain pBucket member
  obtain ⟨bucket, isBucket, isIndex⟩ :=
    placed.placed index chain isChain pBucket member
  refine ⟨bucket, resized.buckets ▸ isBucket, ?_⟩
  rw [chainOf, resized.pfnHashFunc, resized.uKeySize]
  exact isIndex

end

/-- `_Resize` to a number of chains whose array has room keeps the buckets. -/
theorem Placed.resize
    {uNewSize : BitVec 32}
    (placed : Placed hash hash.ownLinks hash.uSize chains)
    (nonzero : uNewSize ≠ 0)
    (allocated : Bool)
    (room : allocated = true → uNewSize.toNat < 2 ^ 29)
    (enough : chains.flatten.length < fuel) :
    ∃ after moved,
      resize fuel hash uNewSize allocated =
          some (decide (uNewSize = hash.uSize) || allocated, after) ∧
        Placed after after.ownLinks after.uSize moved ∧
        Resized hash after ∧
        moved.flatten.Perm chains.flatten ∧
        (after.uSize = hash.uSize ∨
          allocated = true ∧ after.uSize = uNewSize) := by
  by_cases sameSize : uNewSize = hash.uSize
  · refine ⟨hash, chains, ?_, placed, ⟨rfl, rfl, rfl, rfl, rfl, rfl⟩,
      refl _, Or.inl rfl⟩
    rw [Hash.resize, if_pos sameSize, decide_eq_true sameSize, Bool.true_or]
  · cases allocated with
    | false =>
      refine ⟨hash, chains, ?_, placed, ⟨rfl, rfl, rfl, rfl, rfl, rfl⟩,
        refl _, Or.inl rfl⟩
      rw [Hash.resize, if_neg sameSize, if_pos rfl,
        decide_eq_false sameSize, Bool.or_false]
    | true =>
      have hasRoom : ¬2 ^ 32 ≤ 8 * uNewSize.toNat := by
        have := room rfl
        omega
      have start : Placed hash
          { pNext := hash.pNext
            heads := List.replicate uNewSize.toNat none } uNewSize
          (List.replicate uNewSize.toNat []) := by
        refine ⟨holds_replicate _ _, List.length_replicate, ?_⟩
        intro index chain isChain pBucket member
        rw [List.eq_of_mem_replicate (List.mem_of_getElem? isChain)]
          at member
        exact absurd member List.not_mem_nil
      obtain ⟨rehashed, moved, runs, movedPlaced, movedPerm⟩ :=
        start.rehash nonzero placed.holds.follows
          (fun pBucket member => placed.live member)
          (by rw [List.flatten_replicate_nil, List.append_nil]
              exact placed.holds.nodup)
          enough
      rw [List.flatten_replicate_nil, List.append_nil] at movedPerm
      have resized : Resized hash
          { hash with
            pNext := rehashed.pNext, ppBucketTable := rehashed.heads,
            uSize := uNewSize } := ⟨rfl, rfl, rfl, rfl, rfl, rfl⟩
      refine ⟨_, moved, ?_, movedPlaced.resized resized, resized, movedPerm,
        Or.inr ⟨rfl, rfl⟩⟩
      rw [Hash.resize, if_neg sameSize, if_neg nofun,
        newBucketTable, if_neg hasRoom, Bool.or_true]
      simp only [Option.bind_eq_bind, Option.bind_some]
      rw [runs]
      rfl

end PvrServices.Hash
