import Mathlib.Data.BitVec

/-!
# Tickets of wrapping counters

Clients take a ticket of several wrapping counters when they arrive and bump
some of the counters when they leave.  A client may start once each counter it
waits for shows its ticket.  With fewer clients alive than the counters can
tell apart, a client that may start has no earlier client left that bumps a
counter it waits for.
-/

namespace Tickets

variable {client key : Type} [BEq key] {width : Nat}

/-- The counters after each of `keys` is bumped. -/
def advance (counters : key → BitVec width) (keys : List key) :
    key → BitVec width :=
  fun counter => counters counter + BitVec.ofNat width (keys.count counter)

@[simp] theorem advance_nil (counters : key → BitVec width) :
    advance counters [] = counters := by
  ext counter
  simp [advance]

section

variable (counters : key → BitVec width)
include counters

theorem advance_append
    (first second : List key) :
    advance counters (first ++ second) =
      advance (advance counters first) second := by
  ext counter
  simp only [advance, List.count_append, BitVec.ofNat_add, BitVec.add_assoc]

theorem advance_perm
    {first second : List key}
    (permuted : first.Perm second) :
    advance counters first = advance counters second := by
  ext counter
  simp only [advance, permuted.count_eq counter]

theorem advance_comm
    (first second : List key) :
    advance (advance counters first) second =
      advance (advance counters second) first := by
  rw [← advance_append, ← advance_append]
  exact advance_perm counters List.perm_append_comm

end

variable {keys : List key} {counter : key}

theorem advance_of_notMem
    [LawfulBEq key]
    (counters : key → BitVec width)
    (notMem : counter ∉ keys) :
    advance counters keys counter = counters counter := by
  simp [advance, List.count_eq_zero_of_not_mem notMem]

/-- A counter that has advanced by less than its range and shows the old value
has not advanced. -/
theorem notMem_of_advance_eq
    [LawfulBEq key]
    {counters : key → BitVec width}
    (bounded : keys.count counter < 2 ^ width)
    (same : advance counters keys counter = counters counter) :
    counter ∉ keys := by
  have zero : BitVec.ofNat width (keys.count counter) = BitVec.ofNat width 0 := by
    have shifted : counters counter +
        BitVec.ofNat width (keys.count counter) =
        counters counter + BitVec.ofNat width 0 := by
      rw [BitVec.add_zero]
      exact same
    exact BitVec.add_right_inj _ |>.mp shifted
  have none : keys.count counter = 0 := by
    have value := congrArg BitVec.toNat zero
    rwa [BitVec.toNat_ofNat, Nat.mod_eq_of_lt bounded,
      BitVec.toNat_ofNat, Nat.zero_mod] at value
  exact List.count_eq_zero.mp none

/-- What the clients bump when they leave, and the tickets they wait for. -/
structure Scheme (client key : Type) (width : Nat) where
  bumps : client → List key
  waits : client → List (key × BitVec width)

/-- Each counter the client waits for shows its ticket. -/
def Scheme.Ready
    (scheme : Scheme client key width)
    (counters : key → BitVec width)
    (candidate : client) : Prop :=
  ∀ ticket ∈ scheme.waits candidate, ticket.2 = counters ticket.1

/-- Counters bumped by the clients in a list. -/
def Scheme.allBumps
    (scheme : Scheme client key width) (clients : List client) : List key :=
  clients.flatMap scheme.bumps

/-- The clients hold the tickets they would see if they left in list order. -/
def Scheme.Ticketed (scheme : Scheme client key width) :
    (key → BitVec width) → List client → Prop
  | _, [] => True
  | counters, head :: rest =>
    scheme.Ready counters head ∧
      scheme.Ticketed (advance counters (scheme.bumps head)) rest

namespace Scheme

variable {scheme : Scheme client key width} {counters : key → BitVec width}
  {earlier later : List client}

omit [BEq key] in
theorem allBumps_append (first second : List client) :
    scheme.allBumps (first ++ second) =
      scheme.allBumps first ++ scheme.allBumps second :=
  List.flatMap_append

theorem ticketed_append {first second : List client} :
    scheme.Ticketed counters (first ++ second) ↔
      scheme.Ticketed counters first ∧
        scheme.Ticketed (advance counters (scheme.allBumps first)) second := by
  induction first generalizing counters with
  | nil => simp [Ticketed, allBumps]
  | cons head rest ih =>
    simp only [List.cons_append, Ticketed, ih, and_assoc,
      allBumps, List.flatMap_cons, advance_append]

/-- A client that may start has no earlier client that bumps a counter it
waits for. -/
theorem notMem_earlier_of_ready
    [LawfulBEq key]
    {candidate : client}
    (ticketed :
      scheme.Ticketed counters (earlier ++ candidate :: later))
    (bounded : ∀ counter, (scheme.allBumps earlier).count counter < 2 ^ width)
    (ready : scheme.Ready counters candidate)
    {ticket : key × BitVec width}
    (waits : ticket ∈ scheme.waits candidate) :
    ticket.1 ∉ scheme.allBumps earlier := by
  have own := (ticketed_append.mp ticketed).2.1 ticket waits
  apply notMem_of_advance_eq (bounded ticket.1)
  exact own.symm.trans (ready ticket waits)

theorem ticketed_congr
    {other : key → BitVec width}
    {clients : List client}
    (agree : ∀ member ∈ clients, ∀ ticket ∈ scheme.waits member,
      other ticket.1 = counters ticket.1)
    (ticketed : scheme.Ticketed counters clients) :
    scheme.Ticketed other clients := by
  induction clients generalizing counters other with
  | nil => trivial
  | cons head rest ih =>
    refine ⟨?_, ih ?_ ticketed.2⟩
    · intro ticket waits
      rw [agree head List.mem_cons_self ticket waits]
      exact ticketed.1 ticket waits
    · intro member inRest ticket waits
      simp only [advance]
      rw [agree member (List.mem_cons_of_mem _ inRest) ticket waits]

/-- A client none of the earlier ones waits for may leave before them. -/
theorem ticketed_remove
    [LawfulBEq key]
    {leaving : client}
    (ticketed : scheme.Ticketed counters (earlier ++ leaving :: later))
    (independent : ∀ member ∈ earlier, ∀ ticket ∈ scheme.waits member,
      ticket.1 ∉ scheme.bumps leaving) :
    scheme.Ticketed (advance counters (scheme.bumps leaving))
      (earlier ++ later) := by
  obtain ⟨before, _, after⟩ := ticketed_append.mp ticketed
  rw [ticketed_append]
  constructor
  · apply ticketed_congr _ before
    intro member inEarlier ticket waits
    exact advance_of_notMem counters (independent member inEarlier ticket waits)
  · rwa [advance_comm]

end Scheme
end Tickets
