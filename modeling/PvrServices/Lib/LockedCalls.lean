import Mathlib.Logic.Function.Basic

/-!
# Calls under a lock

Threads make calls.  The body of a call is a program: it tests and sets one
lock, releases it, reads and changes the state that the lock protects, and
calls outside code that answers as it likes.  A program is judged alone, by
what its thread owns at each step; what is judged so for every call holds in
every interleaving of the threads.
-/

namespace LockedCalls

variable {state identity callback answer result final request thread : Type}

/-- A program over one lock and the state that the lock protects. -/
inductive Program (state identity callback answer result : Type) : Type
  | done (value : result)
  | lock (owner : identity)
      (next : Bool → Program state identity callback answer result)
  | unlock (owner : identity)
      (next : Program state identity callback answer result)
  | read (next : state → Program state identity callback answer result)
  | write (change : state → state)
      (next : Program state identity callback answer result)
  | call (target : callback)
      (next : answer → Program state identity callback answer result)

namespace Program

/-- One program after another. -/
def bind :
    Program state identity callback answer result →
      (result → Program state identity callback answer final) →
        Program state identity callback answer final
  | done value, rest => rest value
  | lock owner next, rest => lock owner fun taken => (next taken).bind rest
  | unlock owner next, rest => unlock owner (next.bind rest)
  | read next, rest => read fun shared => (next shared).bind rest
  | write change next, rest => write change (next.bind rest)
  | call callback next, rest =>
    call callback fun reply => (next reply).bind rest

instance : Monad (Program state identity callback answer) where
  pure := done
  bind := bind

/-- Tests and sets the lock; the answer says whether the lock was taken. -/
def acquire (owner : identity) :
    Program state identity callback answer Bool :=
  lock owner done

/-- Releases the lock if it was taken under this identity. -/
def release (owner : identity) :
    Program state identity callback answer Unit :=
  unlock owner (done ())

/-- The protected state. -/
def get : Program state identity callback answer state :=
  read done

/-- Changes the protected state. -/
def modify (change : state → state) :
    Program state identity callback answer Unit :=
  write change (done ())

/-- Calls outside code. -/
def invoke (target : callback) :
    Program state identity callback answer answer :=
  call target done

end Program

/-! ## Judging one program -/

/-- What a thread owns: nothing, or the lock under an identity and with it the
protected state. -/
inductive Ownership (state identity : Type)
  | free
  | owned (owner : identity) (shared : state)

namespace Ownership

/-- The identity under which the lock is owned. -/
def heldBy : Ownership state identity → Option identity
  | free => none
  | owned owner _ => some owner

/-- Nothing is owned when the lock is not. -/
theorem eq_free_of_heldBy
    {own : Ownership state identity}
    (unheld : own.heldBy = none) :
    own = free := by
  cases own with
  | free => rfl
  | owned owner shared => cases unheld

end Ownership

/-- What holds of the protected state while nobody owns it, and what a call of
outside code records in it. -/
structure Discipline (state callback answer : Type) where
  invariant : state → Prop
  effect : callback → answer → state → state

/-- The program takes the lock only when it does not own it, releases it only
when it does and with the invariant restored, changes the state only as its
owner, and ends as `post` says. -/
def Safe (discipline : Discipline state callback answer) :
    Program state identity callback answer result →
      Ownership state identity →
        (result → Ownership state identity → Prop) → Prop
  | .done value, own, post => post value own
  | .lock owner next, own, post =>
    own = .free ∧ Safe discipline (next false) .free post ∧
      ∀ shared, discipline.invariant shared →
        Safe discipline (next true) (.owned owner shared) post
  | .unlock owner next, own, post =>
    ∃ shared, own = .owned owner shared ∧ discipline.invariant shared ∧
      Safe discipline next .free post
  | .read next, .free, post =>
    ∀ shared, Safe discipline (next shared) .free post
  | .read next, .owned owner shared, post =>
    Safe discipline (next shared) (.owned owner shared) post
  | .write change next, own, post =>
    ∃ owner shared, own = .owned owner shared ∧
      Safe discipline next (.owned owner (change shared)) post
  | .call target next, .free, post =>
    ∀ reply, (∀ shared, discipline.effect target reply shared = shared) ∧
      Safe discipline (next reply) .free post
  | .call target next, .owned owner shared, post =>
    ∀ reply, Safe discipline (next reply)
      (.owned owner (discipline.effect target reply shared)) post

section Rules

variable {discipline : Discipline state callback answer}
  {own : Ownership state identity}
  {owner : identity} {shared : state} {target : callback}

/-- Programs are judged one after another. -/
@[simp] theorem safe_bind
    (program : Program state identity callback answer result)
    (rest : result → Program state identity callback answer final)
    (own : Ownership state identity)
    (post : final → Ownership state identity → Prop) :
    Safe discipline (program >>= rest) own post ↔
      Safe discipline program own
        fun value own => Safe discipline (rest value) own post := by
  change Safe discipline (program.bind rest) own post ↔ _
  induction program generalizing own with
  | done value => exact Iff.rfl
  | lock owner next ih | unlock owner next ih | write change next ih =>
    simp only [Program.bind, Safe, ih]
  | read next ih | call target next ih =>
    cases own with
    | free | owned owner shared => simp only [Program.bind, Safe, ih]

@[simp] theorem safe_pure
    (value : result)
    (post : result → Ownership state identity → Prop) :
    Safe discipline (pure value) own post ↔ post value own :=
  Iff.rfl

/-- A free lock is taken or refused; taken, it comes with the invariant. -/
@[simp] theorem safe_acquire
    (post : Bool → Ownership state identity → Prop) :
    Safe discipline (.acquire owner) .free post ↔
      post false .free ∧
        ∀ shared, discipline.invariant shared →
          post true (.owned owner shared) := by
  simp only [Program.acquire, Safe, true_and]

/-- The lock is released with the invariant restored. -/
@[simp] theorem safe_release
    (post : Unit → Ownership state identity → Prop) :
    Safe discipline (.release owner) (.owned owner shared) post ↔
      discipline.invariant shared ∧ post () .free := by
  simp only [Program.release, Safe, Ownership.owned.injEq, true_and,
    exists_eq_left']

/-- The owner reads the state it owns. -/
@[simp] theorem safe_get_owned
    (post : state → Ownership state identity → Prop) :
    Safe discipline .get (.owned owner shared) post ↔
      post shared (.owned owner shared) :=
  Iff.rfl

/-- The owner changes the state. -/
@[simp] theorem safe_modify
    (change : state → state)
    (post : Unit → Ownership state identity → Prop) :
    Safe discipline (.modify change) (.owned owner shared) post ↔
      post () (.owned owner (change shared)) := by
  simp only [Program.modify, Safe, Ownership.owned.injEq, and_assoc,
    exists_and_left, exists_eq_left']

/-- Without the lock a call of outside code leaves the state alone. -/
@[simp] theorem safe_invoke_free
    (post : answer → Ownership state identity → Prop) :
    Safe discipline (.invoke target) .free post ↔
      ∀ reply, (∀ shared, discipline.effect target reply shared = shared) ∧
        post reply .free :=
  Iff.rfl

/-- Under the lock a call of outside code is recorded, whatever its answer. -/
@[simp] theorem safe_invoke_owned
    (post : answer → Ownership state identity → Prop) :
    Safe discipline (.invoke target) (.owned owner shared) post ↔
      ∀ reply,
        post reply (.owned owner (discipline.effect target reply shared)) :=
  Iff.rfl

end Rules

/-! ## Threads -/

/-- The calls that threads make: what each does, and which call may come after
which call and result. -/
structure Interface
    (state identity callback answer result request : Type) where
  body : request → Program state identity callback answer result
  mayFollow : Option (request × result) → request → Prop

/-- A thread is between two calls or inside one. -/
inductive Activity (state identity callback answer result request : Type)
  | idle (last : Option (request × result))
  | running (current : request)
      (program : Program state identity callback answer result)

/-- The protected state, the lock with the identity stored in it, the thread
that took it, and what each thread is doing. -/
structure System
    (thread state identity callback answer result request : Type) where
  shared : state
  resource : Option identity
  holder : Option thread
  activity : thread → Activity state identity callback answer result request

namespace System

variable [DecidableEq thread]

section

variable
  (system : System thread state identity callback answer result request)

/-- The thread goes on to something else. -/
def advance
    (which : thread)
    (activity : Activity state identity callback answer result request) :
    System thread state identity callback answer result request :=
  { system with activity := Function.update system.activity which activity }

/-- What the thread owns. -/
def ownership
    (which : thread) :
    Ownership state identity :=
  match system.resource with
  | none => .free
  | some owner =>
    if system.holder = some which then .owned owner system.shared
    else .free

end

/-- One step of one thread.  Outside code may give any answer. -/
inductive Step
    (interface : Interface state identity callback answer result request)
    (effect : callback → answer → state → state) :
    System thread state identity callback answer result request →
      System thread state identity callback answer result request → Prop
  | start (system) (which : thread) (last) (next : request)
      (between : system.activity which = .idle last)
      (allowed : interface.mayFollow last next) :
      Step interface effect system
        (system.advance which (.running next (interface.body next)))
  | finish (system) (which : thread) (current : request) (value : result)
      (inside : system.activity which = .running current (.done value)) :
      Step interface effect system
        (system.advance which (.idle (some (current, value))))
  | acquire (system) (which : thread) (current : request) (owner) (next)
      (inside : system.activity which = .running current (.lock owner next))
      (unlocked : system.resource = none) :
      Step interface effect system
        (({ system with
            resource := some owner, holder := some which }).advance which
              (.running current (next true)))
  | refused (system) (which : thread) (current : request) (owner) (next)
      (inside : system.activity which = .running current (.lock owner next))
      (locked : system.resource ≠ none) :
      Step interface effect system
        (system.advance which (.running current (next false)))
  | release (system) (which : thread) (current : request) (owner) (next)
      (inside :
        system.activity which = .running current (.unlock owner next))
      (locked : system.resource = some owner) :
      Step interface effect system
        (({ system with resource := none, holder := none }).advance which
          (.running current next))
  | releaseRefused (system) (which : thread) (current : request) (owner) (next)
      (inside :
        system.activity which = .running current (.unlock owner next))
      (unlocked : system.resource ≠ some owner) :
      Step interface effect system
        (system.advance which (.running current next))
  | read (system) (which : thread) (current : request) (next)
      (inside : system.activity which = .running current (.read next)) :
      Step interface effect system
        (system.advance which (.running current (next system.shared)))
  | write (system) (which : thread) (current : request) (change) (next)
      (inside :
        system.activity which = .running current (.write change next)) :
      Step interface effect system
        (({ system with shared := change system.shared }).advance which
          (.running current next))
  | call (system) (which : thread) (current : request) (target) (next) (reply)
      (inside :
        system.activity which = .running current (.call target next)) :
      Step interface effect system
        (({ system with
            shared := effect target reply system.shared }).advance which
              (.running current (next reply)))

/-- The lock is free and no thread has made a call. -/
structure Initial
    (invariant : state → Prop)
    (system : System thread state identity callback answer result request) :
    Prop where
  invariant : invariant system.shared
  unlocked : system.resource = none
  unheld : system.holder = none
  idle : ∀ which, system.activity which = .idle none

/-- The systems that steps lead to. -/
inductive Reachable
    (interface : Interface state identity callback answer result request)
    (discipline : Discipline state callback answer) :
    System thread state identity callback answer result request → Prop
  | initial (system)
      (start : Initial discipline.invariant system) :
      Reachable interface discipline system
  | step (system system')
      (before : Reachable interface discipline system)
      (step : Step interface discipline.effect system system') :
      Reachable interface discipline system'

end System

/-! ## Soundness -/

/-- What a thread owns between two calls.  Before its first call it owns
nothing, and from there every call that may follow is safe. -/
structure Contract
    (interface : Interface state identity callback answer result request)
    (discipline : Discipline state callback answer) where
  after : Option (request × result) → Ownership state identity → Prop
  initially : after none .free
  safe : ∀ last own next, after last own → interface.mayFollow last next →
    Safe discipline (interface.body next) own
      fun value => after (some (next, value))

namespace System

variable [DecidableEq thread]
  {interface : Interface state identity callback answer result request}
  {discipline : Discipline state callback answer}
  {system system' : System thread state identity callback answer result request}
  {which : thread}

/-- The thread's activity is safe from what the thread owns. -/
def Judged
    (contract : Contract interface discipline)
    (activity : Activity state identity callback answer result request)
    (own : Ownership state identity) :
    Prop :=
  match activity with
  | .idle last => contract.after last own
  | .running current program =>
    Safe discipline program own
      fun value => contract.after (some (current, value))

/-- The lock is free exactly when nobody holds it, then the invariant holds,
and every thread is safe from what it owns. -/
structure Consistent
    (contract : Contract interface discipline)
    (system : System thread state identity callback answer result request) :
    Prop where
  held : system.resource = none ↔ system.holder = none
  invariant : system.resource = none → discipline.invariant system.shared
  judged : ∀ which,
    Judged contract (system.activity which) (system.ownership which)

variable {owner : identity} {contract : Contract interface discipline}
  {activity : Activity state identity callback answer result request}
  {current : request}

/-- Who owns something holds the lock. -/
theorem holder_of_ownership
    {shared : state}
    (owned : system.ownership which = .owned owner shared) :
    system.resource = some owner ∧ system.holder = some which ∧
      system.shared = shared := by
  unfold ownership at owned
  split at owned
  · cases owned
  · next locked =>
      split at owned
      · next mine =>
          cases owned
          exact ⟨locked, mine, rfl⟩
      · cases owned

/-- Who does not hold the lock owns nothing. -/
theorem ownership_of_not_holder
    (other : system.holder ≠ some which) :
    system.ownership which = .free := by
  unfold ownership
  split
  · rfl
  · exact if_neg other

/-- The thread that took the lock owns the state. -/
theorem ownership_of_holder
    (locked : system.resource = some owner)
    (mine : system.holder = some which) :
    system.ownership which = .owned owner system.shared := by
  simp only [ownership, locked, mine, if_true]

/-- A free lock is owned by nobody. -/
theorem ownership_of_unlocked
    (unlocked : system.resource = none) :
    system.ownership which = .free := by
  simp only [ownership, unlocked]

/-- Holding the lock is owning something. -/
theorem holder_iff_heldBy
    {owner : identity} :
    (system.holder = some which ∧ system.resource = some owner) ↔
      (system.ownership which).heldBy = some owner := by
  constructor
  · rintro ⟨mine, locked⟩
    rw [ownership_of_holder locked mine]
    rfl
  · intro held
    cases owned : system.ownership which with
    | free =>
      rw [owned] at held
      cases held
    | owned other shared =>
      rw [owned] at held
      obtain ⟨locked, mine, -⟩ := holder_of_ownership owned
      exact ⟨mine, locked.trans held⟩

/-- Who owns nothing does not hold the lock. -/
theorem not_holder_of_free
    (consistent : Consistent contract system)
    (free : system.ownership which = .free) :
    system.holder ≠ some which := by
  intro mine
  cases locked : system.resource with
  | none =>
    rw [consistent.held.mp locked] at mine
    cases mine
  | some owner =>
    rw [ownership_of_holder locked mine] at free
    cases free

/-- A step of one thread that leaves the others what they own is judged by
that thread alone. -/
theorem consistent_advance
    (consistent : Consistent contract system)
    (held : system'.resource = none ↔ system'.holder = none)
    (invariant :
      system'.resource = none → discipline.invariant system'.shared)
    (same : system'.activity = system.activity)
    (others : ∀ other, other ≠ which →
      system'.ownership other = system.ownership other)
    (judged : Judged contract activity (system'.ownership which)) :
    Consistent contract (system'.advance which activity) where
  held := held
  invariant := invariant
  judged := by
    intro other
    change Judged contract
      (Function.update system'.activity which activity other)
      (system'.ownership other)
    rcases eq_or_ne other which with rfl | different
    · rw [Function.update_self]
      exact judged
    · rw [Function.update_of_ne different, same, others other different]
      exact consistent.judged other

/-- The others own nothing once this thread holds the lock. -/
theorem others_free
    {other : thread}
    (mine : system.holder = some which)
    (different : other ≠ which) :
    system.ownership other = .free := by
  apply ownership_of_not_holder
  rw [mine]
  intro same
  exact different (Option.some.inj same).symm

section

variable (consistent : Consistent contract system)
include consistent

/-- The state may change under the thread that holds the lock. -/
theorem consistent_change
    (mine : system.holder = some which)
    (locked : system.resource = some owner)
    (shared : state)
    (judged : Judged contract activity (.owned owner shared)) :
    Consistent contract
      (({ system with shared := shared }).advance which activity) := by
  let changed : System thread state identity callback answer result request :=
    { system with shared := shared }
  have others : ∀ other, other ≠ which →
      changed.ownership other = system.ownership other := by
    intro other different
    rw [others_free mine different]
    exact others_free mine different
  have mineNow : changed.ownership which = .owned owner shared :=
    ownership_of_holder locked mine
  have lockedNow : changed.resource = none →
      discipline.invariant changed.shared := by
    intro unlocked
    rw [show changed.resource = some owner from locked] at unlocked
    cases unlocked
  have heldNow : changed.resource = none ↔ changed.holder = none :=
    consistent.held
  apply consistent_advance consistent heldNow lockedNow rfl others
  rw [mineNow]
  exact judged

/-- A thread may go on to what is safe from what it owns. -/
theorem Consistent.advance
    (judged : Judged contract activity (system.ownership which)) :
    Consistent contract (system.advance which activity) :=
  consistent_advance consistent consistent.held consistent.invariant rfl
    (fun _ _ => rfl) judged

/-- What the thread is judged by. -/
theorem Consistent.judged_of
    (doing : system.activity which = activity) :
    Judged contract activity (system.ownership which) := by
  rw [← doing]
  exact consistent.judged which

end

/-- Every step keeps the system consistent. -/
theorem step_consistent
    (contract : Contract interface discipline)
    (step : Step interface discipline.effect system system')
    (consistent : Consistent contract system) :
    Consistent contract system' := by
  cases step with
  | start which last next between allowed =>
    apply consistent.advance
    exact contract.safe last _ next (consistent.judged_of between) allowed
  | finish which current value inside =>
    have ended := consistent.judged_of inside
    apply consistent.advance
    exact ended
  | acquire which current owner next inside unlocked =>
    obtain ⟨-, -, taken⟩ := consistent.judged_of inside
    apply consistent_advance consistent
    · simp
    · intro locked
      cases locked
    · rfl
    · intro other different
      rw [ownership_of_unlocked unlocked]
      exact others_free rfl different
    · rw [ownership_of_holder rfl rfl]
      exact taken _ (consistent.invariant unlocked)
  | refused which current owner next inside locked =>
    obtain ⟨free, refused, -⟩ := consistent.judged_of inside
    apply consistent.advance
    rw [free]
    exact refused
  | release which current owner next inside locked =>
    obtain ⟨shared, owned, holds, safe⟩ := consistent.judged_of inside
    obtain ⟨-, mine, rfl⟩ := holder_of_ownership owned
    apply consistent_advance consistent
    · simp
    · intro _
      exact holds
    · rfl
    · intro other different
      rw [others_free mine different]
      exact ownership_of_unlocked rfl
    · rw [ownership_of_unlocked rfl]
      exact safe
  | releaseRefused which current owner next inside unlocked =>
    obtain ⟨shared, owned, -, -⟩ := consistent.judged_of inside
    exact absurd (holder_of_ownership owned).1 unlocked
  | read which current next inside =>
    have safe := consistent.judged_of inside
    apply consistent.advance
    cases owned : system.ownership which with
    | free =>
      rw [owned] at safe
      exact safe system.shared
    | owned owner shared =>
      rw [owned] at safe
      obtain ⟨-, -, rfl⟩ := holder_of_ownership owned
      exact safe
  | write which current change next inside =>
    obtain ⟨owner, shared, owned, safe⟩ := consistent.judged_of inside
    obtain ⟨locked, mine, rfl⟩ := holder_of_ownership owned
    exact consistent_change consistent mine locked _ safe
  | call which current target next reply inside =>
    have safe := consistent.judged_of inside
    cases owned : system.ownership which with
    | free =>
      rw [owned] at safe
      obtain ⟨unchanged, safe⟩ := safe reply
      rw [unchanged system.shared]
      apply consistent.advance
      rw [owned]
      exact safe
    | owned owner shared =>
      rw [owned] at safe
      obtain ⟨locked, mine, rfl⟩ := holder_of_ownership owned
      exact consistent_change consistent mine locked _ (safe reply)

/-- Every reachable system is consistent. -/
theorem Reachable.consistent
    (contract : Contract interface discipline)
    (reachable : Reachable interface discipline system) :
    Consistent contract system := by
  induction reachable with
  | initial system start =>
    constructor
    · simp only [start.unlocked, start.unheld]
    · intro _
      exact start.invariant
    · intro which
      rw [start.idle which, ownership_of_unlocked start.unlocked]
      exact contract.initially
  | step before after _ step ih => exact step_consistent contract step ih

/-- Only a thread that does not hold the lock tries to take it. -/
theorem Consistent.lock_not_held
    (consistent : Consistent contract system)
    {next : Bool → Program state identity callback answer result}
    (inside : system.activity which = .running current (.lock owner next)) :
    system.holder ≠ some which :=
  not_holder_of_free consistent (consistent.judged_of inside).1

/-- Only the thread that holds the lock releases it, under the identity under
which it took it. -/
theorem Consistent.unlock_held
    (consistent : Consistent contract system)
    {next : Program state identity callback answer result}
    (inside : system.activity which = .running current (.unlock owner next)) :
    system.holder = some which ∧ system.resource = some owner := by
  obtain ⟨shared, owned, -, -⟩ := consistent.judged_of inside
  obtain ⟨locked, mine, -⟩ := holder_of_ownership owned
  exact ⟨mine, locked⟩

end System

/-! ## Running one thread -/

/-- Runs a program with the given answers while no other thread steps: the
result, the lock and the protected state at its end. -/
def Program.solo
    [DecidableEq identity]
    (effect : callback → answer → state → state) :
    Program state identity callback answer result →
      Option identity → state → List answer →
        Option (result × Option identity × state)
  | done value, resource, shared, _ => some (value, resource, shared)
  | lock owner next, none, shared, answers =>
    (next true).solo effect (some owner) shared answers
  | lock _ next, some other, shared, answers =>
    (next false).solo effect (some other) shared answers
  | unlock owner next, resource, shared, answers =>
    next.solo effect (if resource = some owner then none else resource)
      shared answers
  | read next, resource, shared, answers =>
    (next shared).solo effect resource shared answers
  | write change next, resource, shared, answers =>
    next.solo effect resource (change shared) answers
  | call target next, resource, shared, reply :: answers =>
    (next reply).solo effect resource (effect target reply shared) answers
  | call _ _, _, _, [] => none

namespace System

variable [DecidableEq thread]
  {interface : Interface state identity callback answer result request}
  {discipline : Discipline state callback answer}
  {system : System thread state identity callback answer result request}
  {which : thread}

@[simp] theorem activity_advance
    (activity : Activity state identity callback answer result request) :
    (system.advance which activity).activity which = activity :=
  Function.update_self _ _ _

/-- What a thread does alone is a run of the system. -/
theorem reachable_of_solo
    [DecidableEq identity]
    {program : Program state identity callback answer result}
    {current : request}
    {value : result}
    {resource : Option identity}
    {shared : state}
    (answers : List answer)
    (reachable : Reachable interface discipline system)
    (inside : system.activity which = .running current program)
    (ends : program.solo discipline.effect system.resource system.shared
      answers = some (value, resource, shared)) :
    ∃ system' : System thread state identity callback answer result request,
      Reachable interface discipline system' ∧
        system'.activity which = .running current (.done value) ∧
          system'.resource = resource ∧ system'.shared = shared := by
  induction program generalizing system answers with
  | done final =>
    obtain ⟨rfl, rfl, rfl⟩ := by
      simpa only [Program.solo, Option.some.injEq, Prod.mk.injEq] using ends
    exact ⟨system, reachable, inside, rfl, rfl⟩
  | lock owner next ih =>
    cases locked : system.resource with
    | none =>
      rw [locked] at ends
      exact ih true answers
        (.step _ _ reachable
          (.acquire _ which current owner next inside locked))
        (activity_advance _) ends
    | some other =>
      rw [locked] at ends
      refine ih false answers
        (.step _ _ reachable (.refused _ which current owner next inside
          (by rw [locked]; exact Option.some_ne_none other)))
        (activity_advance _) ?_
      change (next false).solo _ system.resource system.shared _ = _
      rw [locked]
      exact ends
  | unlock owner next ih =>
    rcases eq_or_ne system.resource (some owner) with locked | other
    · refine ih answers
        (.step _ _ reachable
          (.release _ which current owner next inside locked))
        (activity_advance _) ?_
      rw [Program.solo, if_pos locked] at ends
      exact ends
    · refine ih answers
        (.step _ _ reachable
          (.releaseRefused _ which current owner next inside other))
        (activity_advance _) ?_
      rw [Program.solo, if_neg other] at ends
      exact ends
  | read next ih =>
    exact ih system.shared answers
      (.step _ _ reachable (.read _ which current next inside))
      (activity_advance _) ends
  | write change next ih =>
    exact ih answers
      (.step _ _ reachable (.write _ which current change next inside))
      (activity_advance _) ends
  | call target next ih =>
    cases answers with
    | nil => cases ends
    | cons reply answers =>
      exact ih reply answers
        (.step _ _ reachable
          (.call _ which current target next reply inside))
        (activity_advance _) ends

end System

end LockedCalls
