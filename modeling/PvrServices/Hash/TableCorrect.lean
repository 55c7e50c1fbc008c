import PvrServices.Hash.Resizing

/-!
# Hash tables are finite maps

A table whose inserts are of keys it does not hold behaves as a finite map:
every function answers as the map does, and the buckets are the entries of the
map, whatever allocations fail and whenever the table is resized.
-/

namespace PvrServices.Hash

open Function (update update_of_ne update_self)
open ChainTable
open List (map_cons mem_flatten mem_map nodup_cons not_mem_nil)
open Option (bind_eq_bind bind_some)

/-! ## Maps -/

/-- The entries of a finite map, last inserted first. -/
abbrev Entries := List (Key × Word)

variable {hash after : HashTable} {entries : Entries}
  {chains : List (List Address)} {key : Key} {fuel : Nat} {pBucket : Address}
  {value : Word}

/-- The key comparison of a table tells keys of its size apart. -/
def ComparesKeys (pfnKeyComp : BitVec 32 → Key → Key → Bool)
    (uKeySize : BitVec 32) : Prop :=
  ∀ first second : Key, first.length = keyLen uKeySize →
    second.length = keyLen uKeySize →
    (pfnKeyComp uKeySize first second = true ↔ first = second)

theorem hashKeyCompDefault_compares
    (uKeySize : BitVec 32) :
    ComparesKeys hashKeyCompDefault uKeySize := by
  intro first second firstLength secondLength
  rw [hashKeyCompDefault, List.all_eq_true]
  constructor
  · intro same
    apply List.ext_getElem?
    intro index
    by_cases inBounds : index < keyLen uKeySize
    · exact eq_of_beq (same index (List.mem_range.mpr inBounds))
    · rw [List.getElem?_eq_none (by omega), List.getElem?_eq_none (by omega)]
  · rintro rfl index _
    exact beq_self_eq_true _

/-- What a bucket holds. -/
def content (hash : HashTable) (pBucket : Address) : Option (Key × Word) :=
  (hash.buckets pBucket).map fun bucket => (bucket.k, bucket.v)

/-- The pairs the buckets of these chains hold. -/
def pairs (hash : HashTable) (chains : List (List Address)) : Entries :=
  chains.flatten.filterMap (content hash)

/-- The table holds the entries of the map, in chains within its size. -/
structure Holding (hash : HashTable) (entries : Entries)
    (chains : List (List Address)) : Prop where
  placed : Placed hash hash.ownLinks hash.uSize chains
  pairs : (pairs hash chains).Perm entries
  keyLength : ∀ entry ∈ entries, entry.1.length = keyLen hash.uKeySize
  keys : (entries.map Prod.fst).Nodup
  uCount : hash.uCount.toNat = entries.length
  minimum : 0 < hash.uMinimumSize.toNat ∧
    hash.uMinimumSize.toNat ≤ hash.uSize.toNat
  room : hash.uSize.toNat < 2 ^ 29
  keyRoom : 16 + hash.uKeySize.toNat < 2 ^ 32
  compares : ComparesKeys hash.pfnKeyComp hash.uKeySize

section

variable (holding : Holding hash entries chains)
include holding

theorem Holding.nonzero :
    hash.uSize ≠ 0 := by
  intro isZero
  have minimum := holding.minimum
  rw [isZero] at minimum
  exact absurd (Nat.lt_of_lt_of_le minimum.1 minimum.2) (Nat.lt_irrefl 0)

/-- There are as many buckets as entries. -/
theorem Holding.length_flatten :
    chains.flatten.length = entries.length := by
  rw [← holding.pairs.length_eq, Hash.pairs]
  have allLive : ∀ pBucket ∈ chains.flatten,
      (content hash pBucket).isSome := by
    intro pBucket member
    obtain ⟨bucket, isBucket⟩ := holding.placed.live member
    rw [content, isBucket]
    rfl
  exact (List.filterMap_length_eq_length.mpr allLive).symm

/-- A bucket holds an entry. -/
theorem Holding.entry
    (member : pBucket ∈ chains.flatten)
    {bucket : Bucket}
    (isBucket : hash.buckets pBucket = some bucket) :
    (bucket.k, bucket.v) ∈ entries := by
  apply holding.pairs.mem_iff.mp
  refine List.mem_filterMap.mpr ⟨pBucket, member, ?_⟩
  rw [content, isBucket]
  rfl

/-- An entry is in a bucket of the chain its key belongs to. -/
theorem Holding.bucket
    {entry : Key × Word}
    (member : entry ∈ entries) :
    ∃ pBucket chain, chains[chainOf hash hash.uSize entry.1]? = some chain ∧
      pBucket ∈ chain ∧ hash.buckets pBucket = some ⟨entry.2, entry.1⟩ := by
  have inPairs := holding.pairs.mem_iff.mpr member
  obtain ⟨pBucket, inChains, isContent⟩ := List.mem_filterMap.mp inPairs
  obtain ⟨bucket, isBucket, rfl⟩ := Option.map_eq_some_iff.mp isContent
  obtain ⟨chain, isMember, inChain⟩ := mem_flatten.mp inChains
  obtain ⟨index, isChain⟩ := List.mem_iff_getElem?.mp isMember
  obtain ⟨found, isFound, isIndex⟩ :=
    holding.placed.placed index chain isChain pBucket inChain
  obtain rfl : bucket = found := Option.some.inj (isBucket.symm.trans isFound)
  exact ⟨pBucket, chain, isIndex ▸ isChain, inChain, isBucket⟩

end

/-! ## Looking keys up -/

theorem lookup_eq_none
    (absent : ∀ entry ∈ entries, entry.1 ≠ key) :
    entries.lookup key = none := by
  rw [List.lookup_eq_none_iff]
  intro entry member
  exact bne_iff_ne.mpr (absent entry member).symm

theorem lookup_eq_some
    (keys : (entries.map Prod.fst).Nodup)
    (member : (key, value) ∈ entries) :
    entries.lookup key = some value := by
  induction entries with
  | nil => exact absurd member not_mem_nil
  | cons entry rest ih =>
    rw [map_cons, nodup_cons] at keys
    rcases List.mem_cons.mp member with rfl | inRest
    · exact List.lookup_cons_self
    · have differ : key ≠ entry.1 := by
        rintro rfl
        exact keys.1 (mem_map.mpr ⟨_, inRest, rfl⟩)
      rw [List.lookup_cons, beq_false_of_ne differ]
      exact ih keys.2 inRest

section

variable (holding : Holding hash entries chains)
include holding

/-- What the loop over a chain finds. -/
theorem Holding.findBucket
    (isKey : key.length = keyLen hash.uKeySize)
    (enough : entries.length < fuel) :
    (findBucket fuel hash key = some none ∧ entries.lookup key = none) ∨
      ∃ front pBucket back value,
        chains[chainOf hash hash.uSize key]? =
            some (front ++ pBucket :: back) ∧
          hash.buckets pBucket = some ⟨value, key⟩ ∧
          (key, value) ∈ entries ∧
          findBucket fuel hash key = some (some
            (placeAfter (.head (chainOf hash hash.uSize key)) front,
              pBucket)) := by
  have inBounds : chainOf hash hash.uSize key < chains.length := by
    rw [holding.placed.size]
    exact chainOf_lt holding.nonzero key
  have isChain := List.getElem?_eq_getElem inBounds
  have inFlatten : ∀ pBucket ∈ chains[chainOf hash hash.uSize key],
      pBucket ∈ chains.flatten := fun pBucket member =>
    mem_flatten.mpr ⟨_, List.getElem_mem inBounds, member⟩
  obtain ⟨head, isHead, follows⟩ := holding.placed.holds.at isChain
  have answers : ∀ pBucket ∈ chains[chainOf hash hash.uSize key],
      ((hash.buckets pBucket).map fun bucket =>
        hash.pfnKeyComp hash.uKeySize bucket.k key) =
      some (decide ((content hash pBucket).map Prod.fst = some key)) := by
    intro pBucket member
    obtain ⟨bucket, isBucket⟩ := holding.placed.live (inFlatten _ member)
    have isLength := holding.keyLength _
      (holding.entry (inFlatten _ member) isBucket)
    rw [content, isBucket]
    simp only [Option.map_some, Option.some.injEq]
    rw [Bool.eq_iff_iff, decide_eq_true_eq]
    exact holding.compares bucket.k key isLength isKey
  have shorter : chains[chainOf hash hash.uSize key].length < fuel := by
    have flattened := (List.sublist_flatten_of_mem
      (List.getElem_mem inBounds)).length_le
    rw [holding.length_flatten] at flattened
    exact Nat.lt_of_le_of_lt flattened enough
  have unfolded : Hash.findBucket fuel hash key =
      search hash.pNext
        (fun pBucket => (hash.buckets pBucket).map fun bucket =>
          hash.pfnKeyComp hash.uKeySize bucket.k key)
        fuel (.head (chainOf hash hash.uSize key)) head := by
    have isHere : hash.ppBucketTable[chainOf hash hash.uSize key]? =
        some head := isHead
    simp only [Hash.findBucket, keyToIndex_of_ne holding.nonzero, isHere,
      bind_eq_bind, bind_some]
  rw [unfolded]
  rcases search_follows follows answers shorter with
    ⟨nothing, noMatch⟩ | ⟨front, pBucket, back, split, isMatch, _, finds⟩
  · refine Or.inl ⟨nothing, lookup_eq_none ?_⟩
    rintro entry member rfl
    obtain ⟨pBucket, chain, isIts, inChain, isBucket⟩ := holding.bucket member
    cases isChain.symm.trans isIts
    have noKey := of_decide_eq_false (noMatch pBucket inChain)
    rw [content, isBucket] at noKey
    exact noKey rfl
  · have inChain : pBucket ∈ chains[chainOf hash hash.uSize key] := by
      rw [split]
      exact List.mem_append_right _ List.mem_cons_self
    obtain ⟨bucket, isBucket⟩ := holding.placed.live (inFlatten _ inChain)
    have sameKey := of_decide_eq_true isMatch
    rw [content, isBucket] at sameKey
    cases sameKey
    exact Or.inr ⟨front, pBucket, back, bucket.v, split ▸ isChain, isBucket,
      holding.entry (inFlatten _ inChain) isBucket, finds⟩

/-- `HASH_Retrieve_Extended` looks a key up. -/
theorem Holding.retrieve
    (isKey : key.length = keyLen hash.uKeySize)
    (enough : entries.length < fuel) :
    hashRetrieveExtended fuel hash key =
      some ((entries.lookup key).getD 0) := by
  rcases holding.findBucket isKey enough with
    ⟨finds, isNone⟩ | ⟨front, pBucket, back, value, _, isBucket, member, finds⟩
  · rw [hashRetrieveExtended, finds, isNone]
    rfl
  · rw [hashRetrieveExtended, finds, lookup_eq_some holding.keys member]
    simp only [bind_eq_bind, bind_some, isBucket]
    rfl

/-! ## Resizing -/

/-- A resize keeps the entries. -/
theorem Holding.resize
    {uNewSize : BitVec 32}
    (allocated : Bool)
    (large : hash.uMinimumSize.toNat ≤ uNewSize.toNat)
    (room : allocated = true → uNewSize.toNat < 2 ^ 29)
    (enough : entries.length < fuel) :
    ∃ after moved,
      resize fuel hash uNewSize allocated =
          some (decide (uNewSize = hash.uSize) || allocated, after) ∧
        Holding after entries moved ∧
        (Hash.pairs after moved).Perm (Hash.pairs hash chains) := by
  have nonzero : uNewSize ≠ 0 := by
    rintro rfl
    exact absurd (Nat.lt_of_lt_of_le holding.minimum.1 large) (Nat.lt_irrefl 0)
  obtain ⟨after, moved, runs, placed, resized, perm, size⟩ :=
    holding.placed.resize nonzero allocated room
      (holding.length_flatten.symm ▸ enough)
  have samePairs : (Hash.pairs after moved).Perm (Hash.pairs hash chains) := by
    have sameContent : content after = content hash := by
      funext pBucket
      rw [content, content, resized.buckets]
    rw [Hash.pairs, Hash.pairs, sameContent]
    exact perm.filterMap _
  refine ⟨after, moved, runs, ?_, samePairs⟩
  constructor
  · exact placed
  · exact samePairs.trans holding.pairs
  · rw [resized.uKeySize]
    exact holding.keyLength
  · exact holding.keys
  · rw [resized.uCount]
    exact holding.uCount
  · rw [resized.uMinimumSize]
    refine ⟨holding.minimum.1, ?_⟩
    rcases size with isOld | ⟨_, isNew⟩
    · rw [isOld]
      exact holding.minimum.2
    · rw [isNew]
      exact large
  · rcases size with isOld | ⟨isAllocated, isNew⟩
    · rw [isOld]
      exact holding.room
    · rw [isNew]
      exact room isAllocated
  · rw [resized.uKeySize]
    exact holding.keyRoom
  · rw [resized.pfnKeyComp, resized.uKeySize]
    exact holding.compares

end

/-! ## Inserting -/

/-- The array keeps its buckets while a bucket outside it changes. -/
theorem Placed.update
    (placed : Placed hash hash.ownLinks hash.uSize chains)
    (outside : pBucket ∉ chains.flatten)
    (bucket : Option Bucket) :
    Placed { hash with
        buckets := update hash.buckets pBucket bucket }
      hash.ownLinks hash.uSize chains := by
  refine ⟨placed.holds, placed.size, ?_⟩
  intro index chain isChain other member
  obtain ⟨found, isFound, isIndex⟩ :=
    placed.placed index chain isChain other member
  refine ⟨found, ?_, isIndex⟩
  rw [← isFound]
  apply update_of_ne
  rintro rfl
  exact outside (mem_flatten.mpr ⟨chain, List.mem_of_getElem? isChain, member⟩)

theorem toNat_shiftLeft_one
    (size : BitVec 32)
    (small : size.toNat < 2 ^ 31) :
    (size <<< 1).toNat = 2 * size.toNat := by
  rw [BitVec.toNat_shiftLeft, Nat.shiftLeft_eq]
  omega

/-- `HASH_Insert_Extended` adds an entry for a key that has none. -/
theorem Holding.insert
    (holding : Holding hash entries chains)
    (isKey : key.length = keyLen hash.uKeySize)
    (absent : ∀ entry ∈ entries, entry.1 ≠ key)
    (v : Word)
    {pBucket : Address}
    (unused : hash.buckets pBucket = none)
    (countRoom : hash.uCount.toNat + 1 < 2 ^ 32)
    (resized : Bool)
    (growRoom : resized = true → hash.uSize < (hash.uCount + 1) <<< 1 →
      hash.uSize.toNat < 2 ^ 28)
    (enough : entries.length + 1 < fuel) :
    ∃ after moved,
      hashInsertExtended fuel hash key v (some pBucket) resized =
          some (true, after) ∧
        Holding after ((key, v) :: entries) moved := by
  have outside : pBucket ∉ chains.flatten := by
    intro member
    obtain ⟨bucket, isBucket⟩ := holding.placed.live member
    exact Option.noConfusion rfl (heq_of_eq (unused.symm.trans isBucket))
  have isTake : key.take (keyLen hash.uKeySize) = key := by
    rw [← isKey, List.take_length]
  obtain ⟨inserted, moved, inserts, movedPlaced, movedPerm, _⟩ :=
    (holding.placed.update outside (some ⟨v, key⟩)).chainInsert
      holding.nonzero (update_self pBucket _ _) outside
  obtain ⟨counted, isCounted⟩ : ∃ counted : HashTable, counted =
      { hash with
        buckets := update hash.buckets pBucket (some ⟨v, key⟩)
        pNext := inserted.pNext, ppBucketTable := inserted.heads
        uCount := hash.uCount + 1 } := ⟨_, rfl⟩
  have isNew : content counted pBucket = some (key, v) := by
    rw [content, isCounted]
    exact congrArg _ (update_self pBucket _ _)
  have samePairs : chains.flatten.filterMap (content counted) =
      Hash.pairs hash chains := by
    apply List.filterMap_congr
    intro other member
    rw [content, content, isCounted]
    apply congrArg
    apply update_of_ne
    rintro rfl
    exact outside member
  have countedHolding : Holding counted ((key, v) :: entries) moved := by
    have countedPairs : (Hash.pairs counted moved).Perm
        ((key, v) :: entries) := by
      refine (movedPerm.filterMap _).trans ?_
      rw [List.filterMap_cons_some isNew, samePairs]
      exact holding.pairs.cons _
    have countedCount : (hash.uCount + 1).toNat = entries.length + 1 := by
      rw [← holding.uCount, BitVec.toNat_add]
      exact Nat.mod_eq_of_lt countRoom
    have countedKeys : (((key, v) :: entries).map Prod.fst).Nodup := by
      rw [map_cons, nodup_cons]
      refine ⟨?_, holding.keys⟩
      intro member
      obtain ⟨entry, inEntries, sameKey⟩ := mem_map.mp member
      exact absent entry inEntries sameKey
    subst isCounted
    exact ⟨⟨movedPlaced.holds, movedPlaced.size, movedPlaced.placed⟩,
      countedPairs, List.forall_mem_cons.mpr ⟨isKey, holding.keyLength⟩,
      countedKeys, countedCount, holding.minimum, holding.room,
      holding.keyRoom, holding.compares⟩
  have guard : ¬((hash.buckets pBucket).isSome = true ∨
      2 ^ 32 ≤ 16 + hash.uKeySize.toNat) := by
    rw [unused]
    have keyRoom := holding.keyRoom
    rintro (isSome | isLarge)
    · exact Bool.noConfusion isSome
    · omega
  have shifted := toNat_shiftLeft_one hash.uSize
    (Nat.lt_trans holding.room (by decide))
  simp only [hashInsertExtended, if_neg guard, isTake, inserts,
    bind_eq_bind, bind_some, if_true, ← isCounted]
  by_cases grows : hash.uSize < (hash.uCount + 1) <<< 1
  · have large : counted.uMinimumSize.toNat ≤
        (hash.uSize <<< 1).toNat := by
      rw [isCounted, shifted]
      exact Nat.le_trans holding.minimum.2
        (Nat.le_mul_of_pos_left _ Nat.two_pos)
    have room : resized = true → (hash.uSize <<< 1).toNat < 2 ^ 29 := by
      intro isResized
      have small := growRoom isResized grows
      omega
    obtain ⟨after, grown, runs, afterHolding, _⟩ :=
      countedHolding.resize resized large room enough
    refine ⟨after, grown, ?_, afterHolding⟩
    rw [if_pos grows, runs]
    rfl
  · exact ⟨counted, moved, if_neg grows, countedHolding⟩

/-! ## Removing -/

/-- Filtering a key out leaves the other entries. -/
theorem perm_filter_key
    {others : Entries}
    (perm : entries.Perm ((key, value) :: others))
    (keys : (entries.map Prod.fst).Nodup) :
    (entries.filter fun entry => entry.1 ≠ key).Perm others := by
  have otherKeys := (perm.map Prod.fst).nodup_iff.mp keys
  rw [map_cons, nodup_cons] at otherKeys
  have kept : (((key, value) :: others).filter fun entry => entry.1 ≠ key) =
      others := by
    rw [List.filter_cons_of_neg (by simp), List.filter_eq_self]
    intro entry member
    apply decide_eq_true
    rintro rfl
    exact otherKeys.1 (mem_map.mpr ⟨entry, member, rfl⟩)
  rw [← kept]
  exact perm.filter _

/-- Taking a bucket out of its chain removes its entry. -/
theorem Holding.takeOut
    (holding : Holding hash entries chains)
    {index pBucket : Nat}
    {front back : List Address}
    (isChain : chains[index]? = some (front ++ pBucket :: back))
    (isBucket : hash.buckets pBucket = some ⟨value, key⟩)
    {counted : HashTable}
    (isCounted : counted =
      { hash with
        pNext := (store hash.pNext hash.ppBucketTable (hash.pNext pBucket)
          (placeAfter (.head index) front)).1
        ppBucketTable := (store hash.pNext hash.ppBucketTable
          (hash.pNext pBucket) (placeAfter (.head index) front)).2
        buckets := update hash.buckets pBucket none
        uCount := hash.uCount - 1 }) :
    Holding counted (entries.filter fun entry => entry.1 ≠ key)
      (chains.set index (front ++ back)) := by
  obtain ⟨others, before, after⟩ := perm_flatten_set isChain (front ++ back)
  have split : chains.flatten.Perm
      (pBucket :: (chains.set index (front ++ back)).flatten) := by
    refine before.trans (List.Perm.trans ?_ (after.symm.cons pBucket))
    exact List.perm_middle.append_right others
  have outside : pBucket ∉ (chains.set index (front ++ back)).flatten :=
    (nodup_cons.mp (split.nodup_iff.mp holding.placed.holds.nodup)).1
  have sameBucket : ∀ other ∈ (chains.set index (front ++ back)).flatten,
      counted.buckets other = hash.buckets other := by
    intro other inMoved
    rw [isCounted]
    apply update_of_ne
    rintro rfl
    exact outside inMoved
  have entriesPerm : entries.Perm ((key, value) ::
      Hash.pairs counted (chains.set index (front ++ back))) := by
    have isContent : content hash pBucket = some (key, value) := by
      rw [content, isBucket]
      rfl
    have allPairs := split.filterMap (content hash)
    rw [List.filterMap_cons_some isContent] at allPairs
    have samePairs : Hash.pairs counted (chains.set index (front ++ back)) =
        (chains.set index (front ++ back)).flatten.filterMap
          (content hash) := by
      apply List.filterMap_congr
      intro other inMoved
      rw [content, content, sameBucket other inMoved]
    rw [samePairs]
    exact holding.pairs.symm.trans allPairs
  have countedPairs := perm_filter_key entriesPerm holding.keys
  have countedPlaced : Placed counted counted.ownLinks counted.uSize
      (chains.set index (front ++ back)) := by
    have unlinked := holding.placed.holds.unlink isChain
    refine ⟨?_, ?_, ?_⟩
    · rw [isCounted]
      exact unlinked
    · rw [List.length_set, isCounted]
      exact holding.placed.size
    · intro position chain isMoved other inChain
      have inMoved : other ∈ (chains.set index (front ++ back)).flatten :=
        mem_flatten.mpr ⟨chain, List.mem_of_getElem? isMoved, inChain⟩
      have wasPlaced : ∃ old, hash.buckets other = some old ∧
          chainOf hash hash.uSize old.k = position := by
        rw [List.getElem?_set] at isMoved
        split_ifs at isMoved with isIndex
        · cases isMoved
          have inOld := ((List.sublist_cons_self pBucket back).append_left
            front).subset inChain
          exact holding.placed.placed position _ (isIndex ▸ isChain) other
            inOld
        · exact holding.placed.placed position chain isMoved other inChain
      obtain ⟨old, isOld, isPlace⟩ := wasPlaced
      refine ⟨old, (sameBucket other inMoved).trans isOld, ?_⟩
      rw [isCounted]
      exact isPlace
  have keptKeys : ((entries.filter fun entry =>
      entry.1 ≠ key).map Prod.fst).Nodup :=
    holding.keys.sublist (List.filter_sublist.map _)
  have oneLess : (hash.uCount - 1).toNat =
      (entries.filter fun entry => entry.1 ≠ key).length := by
    have isCount := holding.uCount
    have allLength := entriesPerm.length_eq
    rw [List.length_cons, ← countedPairs.length_eq] at allLength
    have isLess : hash.uCount.toNat < 2 ^ 32 := hash.uCount.isLt
    have isOne : (1 : BitVec 32).toNat = 1 := rfl
    rw [BitVec.toNat_sub, isOne]
    omega
  subst isCounted
  exact ⟨countedPlaced, countedPairs.symm,
    fun entry inKept => holding.keyLength entry
      (List.mem_of_mem_filter inKept),
    keptKeys, oneLess, holding.minimum, holding.room, holding.keyRoom,
    holding.compares⟩

/-- `HASH_Remove_Extended` removes the entry of a key. -/
theorem Holding.remove
    (holding : Holding hash entries chains)
    (isKey : key.length = keyLen hash.uKeySize)
    (resized : Bool)
    (enough : entries.length < fuel) :
    ∃ after moved,
      hashRemoveExtended fuel hash key resized =
          some ((entries.lookup key).getD 0, after) ∧
        Holding after (entries.filter fun entry => entry.1 ≠ key) moved := by
  rcases holding.findBucket isKey enough with
    ⟨finds, isNone⟩ | ⟨front, pBucket, back, value, isChain, isBucket,
      member, finds⟩
  · have kept : (entries.filter fun entry => entry.1 ≠ key) = entries := by
      rw [List.filter_eq_self]
      intro entry member
      rw [List.lookup_eq_none_iff] at isNone
      exact decide_eq_true (bne_iff_ne.mp (isNone entry member)).symm
    refine ⟨hash, chains, ?_, kept.symm ▸ holding⟩
    rw [hashRemoveExtended, finds, isNone]
    rfl
  · obtain ⟨counted, isCounted⟩ : ∃ counted : HashTable, counted =
        { hash with
          pNext := (store hash.pNext hash.ppBucketTable (hash.pNext pBucket)
            (placeAfter (.head (chainOf hash hash.uSize key)) front)).1
          ppBucketTable := (store hash.pNext hash.ppBucketTable
            (hash.pNext pBucket)
            (placeAfter (.head (chainOf hash hash.uSize key)) front)).2
          buckets := update hash.buckets pBucket none
          uCount := hash.uCount - 1 } := ⟨_, rfl⟩
    have countedHolding := holding.takeOut isChain isBucket isCounted
    rw [lookup_eq_some holding.keys member]
    simp only [hashRemoveExtended, finds, isBucket, bind_eq_bind,
      bind_some, ← isCounted]
    have sameMinimum : counted.uMinimumSize = hash.uMinimumSize := by
      rw [isCounted]
    have large : counted.uMinimumSize.toNat ≤
        (if hash.uMinimumSize < hash.uSize >>> 1 then hash.uSize >>> 1
          else hash.uMinimumSize).toNat := by
      rw [sameMinimum]
      split_ifs with isHalf
      · exact Nat.le_of_lt isHalf
      · exact Nat.le_refl _
    have room : resized = true →
        (if hash.uMinimumSize < hash.uSize >>> 1 then hash.uSize >>> 1
          else hash.uMinimumSize).toNat < 2 ^ 29 := by
      intro _
      split_ifs
      · rw [BitVec.toNat_ushiftRight]
        exact Nat.lt_of_le_of_lt (Nat.shiftRight_le _ _) holding.room
      · exact Nat.lt_of_le_of_lt holding.minimum.2 holding.room
    by_cases shrinks : (hash.uCount - 1) <<< 2 < hash.uSize ∧
        hash.uMinimumSize < hash.uSize
    · obtain ⟨after, shrunk, runs, afterHolding, _⟩ :=
        countedHolding.resize resized large room
          (Nat.lt_of_le_of_lt (List.length_filter_le _ _) enough)
      refine ⟨after, shrunk, ?_, afterHolding⟩
      rw [if_pos shrinks, runs]
      rfl
    · exact ⟨counted, _, if_neg shrinks, countedHolding⟩

/-! ## Runs -/

/-- `HASH_Create_Extended` makes a table without entries. -/
theorem holding_hashCreateExtended
    {uInitialLen uKeySize : BitVec 32}
    {pfnHashFunc : BitVec 32 → Key → BitVec 32 → BitVec 32}
    {pfnKeyComp : BitVec 32 → Key → Key → Bool}
    {pNext : Address → Option Address}
    {hashAllocated tableAllocated : Bool}
    (positive : 0 < uInitialLen.toNat)
    (room : uInitialLen.toNat < 2 ^ 29)
    (keyRoom : 16 + uKeySize.toNat < 2 ^ 32)
    (compares : ComparesKeys pfnKeyComp uKeySize)
    (created : hashCreateExtended uInitialLen uKeySize pfnHashFunc pfnKeyComp
      pNext hashAllocated tableAllocated = some (some hash)) :
    Holding hash [] (List.replicate uInitialLen.toNat []) := by
  have hasRoom : ¬2 ^ 32 ≤ 8 * uInitialLen.toNat := by omega
  rw [hashCreateExtended, newBucketTable, if_neg hasRoom] at created
  split_ifs at created
  · cases Option.some.inj created
    constructor
    · refine ⟨holds_replicate _ _, List.length_replicate, ?_⟩
      intro index chain isChain pBucket member
      rw [List.eq_of_mem_replicate (List.mem_of_getElem? isChain)] at member
      exact absurd member not_mem_nil
    · rw [Hash.pairs, List.flatten_replicate_nil]
      exact List.Perm.refl _
    · exact fun _ member => absurd member not_mem_nil
    · exact List.nodup_nil
    · rfl
    · exact ⟨positive, Nat.le_refl _⟩
    · exact room
    · exact keyRoom
    · exact compares
  · exact Option.noConfusion rfl (heq_of_eq (Option.some.inj created))

/-- The counters of an insertion stay in range: the count of entries does not
wrap, and if the table grows its new array is smaller than 2^32 bytes. -/
def InsertInRange (hash : HashTable) (resized : Bool) : Prop :=
  hash.uCount.toNat + 1 < 2 ^ 32 ∧
    (resized = true → hash.uSize < (hash.uCount + 1) <<< 1 →
      hash.uSize.toNat < 2 ^ 28)

/-- Tables that are reached from `HASH_Create_Extended` while keys are inserted
once, with the finite map they should be. -/
inductive Reached : HashTable → Entries → Prop
  | create {uInitialLen uKeySize pfnHashFunc pfnKeyComp pNext hashAllocated
      tableAllocated hash}
      (positive : 0 < uInitialLen.toNat)
      (room : uInitialLen.toNat < 2 ^ 29)
      (words : 8 ∣ uKeySize.toNat)
      (keyRoom : 16 + uKeySize.toNat < 2 ^ 32)
      (compares : ComparesKeys pfnKeyComp uKeySize)
      (created : hashCreateExtended uInitialLen uKeySize pfnHashFunc
        pfnKeyComp pNext hashAllocated tableAllocated = some (some hash)) :
      Reached hash []
  | insert {hash entries fuel key v allocated resized inserted after}
      (reached : Reached hash entries)
      (isKey : key.length = keyLen hash.uKeySize)
      (absent : ∀ entry ∈ entries, entry.1 ≠ key)
      (inRange : InsertInRange hash resized)
      (enough : entries.length + 1 < fuel)
      (returned : hashInsertExtended fuel hash key v allocated resized =
        some (inserted, after)) :
      Reached after (if inserted then (key, v) :: entries else entries)
  | remove {hash entries fuel key resized v after}
      (reached : Reached hash entries)
      (isKey : key.length = keyLen hash.uKeySize)
      (enough : entries.length < fuel)
      (returned : hashRemoveExtended fuel hash key resized = some (v, after)) :
      Reached after (entries.filter fun entry => entry.1 ≠ key)

/-- The table is the finite map.  It holds exactly the entries, insertion
answers whether the bucket was allocated, retrieval and removal what the map
has for the key, and a resize keeps the entries. -/
structure HashRefines (hash : HashTable) (entries : Entries) : Prop where
  keys : (entries.map Prod.fst).Nodup
  holds : ∃ chains, Placed hash hash.ownLinks hash.uSize chains ∧
    (pairs hash chains).Perm entries
  uCount : hash.uCount.toNat = entries.length
  minimum : hash.uMinimumSize ≤ hash.uSize
  insert : ∀ fuel key v allocated resized,
    key.length = keyLen hash.uKeySize →
    (∀ entry ∈ entries, entry.1 ≠ key) →
    (∀ pBucket, allocated = some pBucket → hash.buckets pBucket = none) →
    InsertInRange hash resized → entries.length + 1 < fuel →
    ∃ after, hashInsertExtended fuel hash key v allocated resized =
      some (allocated.isSome, after)
  retrieve : ∀ fuel key, key.length = keyLen hash.uKeySize →
    entries.length < fuel →
    hashRetrieveExtended fuel hash key = some ((entries.lookup key).getD 0)
  remove : ∀ fuel key resized, key.length = keyLen hash.uKeySize →
    entries.length < fuel →
    ∃ after, hashRemoveExtended fuel hash key resized =
      some ((entries.lookup key).getD 0, after)
  resize : ∀ fuel uNewSize allocated, hash.uMinimumSize ≤ uNewSize →
    (allocated = true → uNewSize.toNat < 2 ^ 29) → entries.length < fuel →
    ∃ after chains, resize fuel hash uNewSize allocated =
        some (decide (uNewSize = hash.uSize) || allocated, after) ∧
      Placed after after.ownLinks after.uSize chains ∧
      (pairs after chains).Perm entries

/-- `HASH_Insert_Extended` keeps what a table holds, whatever fails. -/
theorem Holding.inserted
    (holding : Holding hash entries chains)
    (isKey : key.length = keyLen hash.uKeySize)
    (absent : ∀ entry ∈ entries, entry.1 ≠ key)
    {v : Word}
    {allocated : Option Address}
    {resized inserted : Bool}
    (inRange : InsertInRange hash resized)
    (enough : entries.length + 1 < fuel)
    (returned : hashInsertExtended fuel hash key v allocated resized =
      some (inserted, after)) :
    ∃ moved, Holding after
      (if inserted then (key, v) :: entries else entries) moved := by
  cases allocated with
  | none =>
    cases returned
    exact ⟨chains, holding⟩
  | some pBucket =>
    cases isUsed : hash.buckets pBucket with
    | some bucket =>
      have used : (hash.buckets pBucket).isSome = true ∨
          2 ^ 32 ≤ 16 + hash.uKeySize.toNat :=
        Or.inl (by rw [isUsed]; rfl)
      simp only [hashInsertExtended] at returned
      rw [if_pos used] at returned
      exact Option.noConfusion rfl (heq_of_eq returned)
    | none =>
      obtain ⟨result, moved, inserts, resultHolding⟩ :=
        holding.insert isKey absent v isUsed inRange.1 resized inRange.2
          enough
      rw [inserts] at returned
      cases returned
      exact ⟨moved, resultHolding⟩

theorem Reached.holding
    (reached : Reached hash entries) :
    ∃ chains, Holding hash entries chains := by
  induction reached with
  | create positive room words keyRoom compares created =>
    exact ⟨_, holding_hashCreateExtended positive room keyRoom compares
      created⟩
  | insert _ isKey absent inRange enough returned ih =>
    obtain ⟨chains, holding⟩ := ih
    exact holding.inserted isKey absent inRange enough returned
  | remove _ isKey enough returned ih =>
    obtain ⟨chains, holding⟩ := ih
    obtain ⟨after, moved, removes, afterHolding⟩ :=
      holding.remove isKey _ enough
    rw [removes] at returned
    obtain ⟨-, rfl⟩ := Prod.mk.inj (Option.some.inj returned)
    exact ⟨moved, afterHolding⟩

/-- Every table reached while keys are inserted once is the finite map it
should be. -/
theorem reached_hashRefines
    (reached : Reached hash entries) :
    HashRefines hash entries := by
  obtain ⟨chains, holding⟩ := reached.holding
  refine ⟨holding.keys, ⟨chains, holding.placed, holding.pairs⟩,
    holding.uCount, holding.minimum.2, ?_, ?_, ?_, ?_⟩
  · intro fuel key v allocated resized isKey absent unused inRange enough
    cases allocated with
    | none => exact ⟨hash, rfl⟩
    | some pBucket =>
      obtain ⟨after, _, inserts, _⟩ := holding.insert isKey absent v
        (unused pBucket rfl) inRange.1 resized inRange.2 enough
      exact ⟨after, inserts⟩
  · intro fuel key isKey enough
    exact holding.retrieve isKey enough
  · intro fuel key resized isKey enough
    obtain ⟨after, _, removes, _⟩ := holding.remove isKey resized enough
    exact ⟨after, removes⟩
  · intro fuel uNewSize allocated large room enough
    obtain ⟨after, moved, runs, afterHolding, _⟩ :=
      holding.resize allocated large room enough
    exact ⟨after, moved, runs, afterHolding.placed, afterHolding.pairs⟩

theorem reached_hashRefines_inserted :
    ∃ hash, Reached hash [([5], 1)] ∧ HashRefines hash [([5], 1)] := by
  have created := @Reached.create 32 8 hashFuncDefault hashKeyCompDefault
    (fun _ => none) true true _ (by decide) (by decide) (by decide)
    (by decide) (hashKeyCompDefault_compares 8) rfl
  have inserted := @Reached.insert _ _ 2 [5] 1 (some 100) true _ _ created
    rfl (fun _ member => absurd member not_mem_nil)
    ⟨by decide, fun _ _ => by decide⟩ (by decide) rfl
  exact ⟨_, inserted, reached_hashRefines inserted⟩

/-- Create a table, insert a key twice, and retrieve it. -/
def insertTwice (uInitialLen : BitVec 32) (key : Key) (first second : Word) :
    Option (Bool × Bool × Word) := do
  let some hash ← hashCreateExtended uInitialLen 8 hashFuncDefault
    hashKeyCompDefault (fun _ => none) true true | none
  let (firstInserted, hash) ← hashInsertExtended 3 hash key first (some 100)
    true
  let (secondInserted, hash) ← hashInsertExtended 3 hash key second (some 200)
    true
  let found ← hashRetrieveExtended 3 hash key
  some (firstInserted, secondInserted, found)

/-- A key inserted twice is found with its first value once the table has
grown, a table created with length 0 refuses to insert, and one created with
length 2^29 clears more memory than it has allocated. -/
theorem insertTwice_first :
    insertTwice 2 [5] 1 2 = some (true, true, 1) ∧
      ((hashCreateExtended 0 8 hashFuncDefault hashKeyCompDefault
        (fun _ => none) true true).bind fun created => created.bind fun hash =>
          (hashInsertExtended 3 hash [5] 1 (some 100) true).map Prod.fst) =
        some false ∧
      hashCreateExtended (BitVec.ofNat 32 (2 ^ 29)) 8 hashFuncDefault
        hashKeyCompDefault (fun _ => none) true true = none := by
  refine ⟨by decide +kernel, by decide +kernel, ?_⟩
  rfl

end PvrServices.Hash
