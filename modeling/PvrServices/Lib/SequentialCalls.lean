import PvrServices.Lib.LockedCalls

/-!
# Calls one after another

A program runs to its end before the next one starts.  The code it calls has a
state of its own and answers as a relation allows; a lock that another caller
wants may be refused.  What a program ensures is judged by its weakest
precondition.
-/

namespace LockedCalls

open Program (bind get invoke modify)

variable {state identity callback answer result final outer ambient : Type}

/-- The lock, the state under it and the state of the code that is called. -/
structure World (state identity ambient : Type) where
  resource : Option identity
  shared : state
  outside : ambient

/-- How the called code may answer, and the state that it then leaves. -/
abbrev Serving (state callback answer ambient : Type) :=
  callback → state → ambient → answer → ambient → Prop

namespace World

/-- The lock is taken. -/
def take (world : World state identity ambient) (owner : identity) :
    World state identity ambient :=
  { world with resource := some owner }

/-- The lock is released if it was taken under this identity. -/
def drop
    [DecidableEq identity]
    (world : World state identity ambient)
    (owner : identity) :
    World state identity ambient :=
  { world with
    resource := if world.resource = some owner then none else world.resource }

/-- The state under the lock changes. -/
def change (world : World state identity ambient) (change : state → state) :
    World state identity ambient :=
  { world with shared := change world.shared }

/-- The called code leaves another state. -/
def served
    (world : World state identity ambient)
    (left : ambient) :
    World state identity ambient :=
  { world with outside := left }

end World

namespace Program

/-- The program with its callbacks among those of another. -/
def mapCallback
    (inject : callback → outer) :
    Program state identity callback answer result →
      Program state identity outer answer result
  | done value => done value
  | lock owner next => lock owner fun taken => (next taken).mapCallback inject
  | unlock owner next => unlock owner (next.mapCallback inject)
  | read next => read fun shared => (next shared).mapCallback inject
  | write change next => write change (next.mapCallback inject)
  | call target next =>
    call (inject target) fun reply => (next reply).mapCallback inject

variable [DecidableEq identity]
  {serving : Serving state callback answer ambient}

/-- A program runs to its end: its result and the world that it leaves. -/
inductive Runs (serving : Serving state callback answer ambient) :
    Program state identity callback answer result →
      World state identity ambient →
        result → World state identity ambient → Prop
  | done {value world} : Runs serving (.done value) world value world
  | refused {owner next world value after}
      (rest : Runs serving (next false) world value after) :
      Runs serving (.lock owner next) world value after
  | taken {owner next world value after}
      (free : world.resource = none)
      (rest : Runs serving (next true) (world.take owner) value after) :
      Runs serving (.lock owner next) world value after
  | unlock {owner next world value after}
      (rest : Runs serving next (world.drop owner) value after) :
      Runs serving (.unlock owner next) world value after
  | read {next world value after}
      (rest : Runs serving (next world.shared) world value after) :
      Runs serving (.read next) world value after
  | write {change next world value after}
      (rest : Runs serving next (world.change change) value after) :
      Runs serving (.write change next) world value after
  | call {target next world reply left value after}
      (answers : serving target world.shared world.outside reply left)
      (rest : Runs serving (next reply) (world.served left) value after) :
      Runs serving (.call target next) world value after

/-- However the lock and the called code answer, the program ends as `post`
says. -/
def Ensures (serving : Serving state callback answer ambient) :
    Program state identity callback answer result →
      World state identity ambient →
        (result → World state identity ambient → Prop) → Prop
  | done value, world, post => post value world
  | lock owner next, world, post =>
    (next false).Ensures serving world post ∧
      (world.resource = none →
        (next true).Ensures serving (world.take owner) post)
  | unlock owner next, world, post =>
    next.Ensures serving (world.drop owner) post
  | read next, world, post => (next world.shared).Ensures serving world post
  | write change next, world, post =>
    next.Ensures serving (world.change change) post
  | call target next, world, post =>
    ∀ reply left, serving target world.shared world.outside reply left →
      (next reply).Ensures serving (world.served left) post

variable {program : Program state identity callback answer result}
  {after world : World state identity ambient} {value : result}

/-- A program that runs to its end ends as it ensures. -/
theorem Runs.ensured
    {post : result → World state identity ambient → Prop}
    (runs : Runs serving program world value after)
    (ensures : program.Ensures serving world post) :
    post value after := by
  induction runs with
  | done => exact ensures
  | refused _ ih => exact ih ensures.1
  | taken free _ ih => exact ih (ensures.2 free)
  | unlock _ ih | read _ ih | write _ ih => exact ih ensures
  | call answers _ ih => exact ih (ensures _ _ answers)

section Rules

variable {world : World state identity ambient} {owner : identity}
  {target : callback}

/-- Programs are judged one after another. -/
@[simp] theorem ensures_bind
    (program : Program state identity callback answer result)
    (rest : result → Program state identity callback answer final)
    (world : World state identity ambient)
    (post : final → World state identity ambient → Prop) :
    (program >>= rest).Ensures serving world post ↔
      program.Ensures serving world
        fun value world => (rest value).Ensures serving world post := by
  change (program.bind rest).Ensures serving world post ↔ _
  induction program generalizing world with
  | done value => exact Iff.rfl
  | lock owner next ih | unlock owner next ih | read next ih
  | write change next ih | call target next ih => simp only [bind, Ensures, ih]

@[simp] theorem ensures_pure
    (value : result)
    (post : result → World state identity ambient → Prop) :
    (pure value : Program state identity callback answer result).Ensures
        serving world post ↔
      post value world :=
  Iff.rfl

@[simp] theorem ensures_acquire
    (post : Bool → World state identity ambient → Prop) :
    (Program.acquire owner).Ensures serving world post ↔
      post false world ∧
        (world.resource = none → post true (world.take owner)) :=
  Iff.rfl

@[simp] theorem ensures_release
    (post : Unit → World state identity ambient → Prop) :
    (Program.release owner).Ensures serving world post ↔
      post () (world.drop owner) :=
  Iff.rfl

@[simp] theorem ensures_get
    (post : state → World state identity ambient → Prop) :
    get.Ensures serving world post ↔ post world.shared world :=
  Iff.rfl

@[simp] theorem ensures_modify
    (change : state → state)
    (post : Unit → World state identity ambient → Prop) :
    (modify change).Ensures serving world post ↔
      post () (world.change change) :=
  Iff.rfl

@[simp] theorem ensures_invoke
    (post : answer → World state identity ambient → Prop) :
    (invoke target).Ensures serving world post ↔
      ∀ reply left, serving target world.shared world.outside reply left →
        post reply (world.served left) :=
  Iff.rfl

/-- A program with fewer callbacks is judged by its own. -/
@[simp] theorem ensures_mapCallback
    {serving : Serving state outer answer ambient}
    (inject : callback → outer)
    (program : Program state identity callback answer result)
    (world : World state identity ambient)
    (post : result → World state identity ambient → Prop) :
    (program.mapCallback inject).Ensures serving world post ↔
      program.Ensures (fun target => serving (inject target)) world post := by
  induction program generalizing world with
  | done value => exact Iff.rfl
  | lock owner next ih | unlock owner next ih | read next ih
  | write change next ih | call target next ih =>
    simp only [mapCallback, Ensures, ih]

end Rules

/-- Runs a program with called code that answers as a function says, if it
does, and no other caller at the lock. -/
def follow
    (serve : callback → state → ambient → Option (answer × ambient)) :
    Program state identity callback answer result →
      World state identity ambient →
        Option (result × World state identity ambient)
  | done value, world => some (value, world)
  | lock owner next, world =>
    match world.resource with
    | none => (next true).follow serve (world.take owner)
    | some _ => (next false).follow serve world
  | unlock owner next, world => next.follow serve (world.drop owner)
  | read next, world => (next world.shared).follow serve world
  | write change next, world => next.follow serve (world.change change)
  | call target next, world =>
    match serve target world.shared world.outside with
    | none => none
    | some (reply, left) => (next reply).follow serve (world.served left)

/-- What a program does with such answers is one of its runs. -/
theorem runs_of_follow
    {serve : callback → state → ambient → Option (answer × ambient)}
    (serves : ∀ target shared outside reply left,
      serve target shared outside = some (reply, left) →
        serving target shared outside reply left)
    (follows : program.follow serve world = some (value, after)) :
    Runs serving program world value after := by
  induction program generalizing world with
  | done final =>
    obtain ⟨rfl, rfl⟩ := by
      simpa only [follow, Option.some.injEq, Prod.mk.injEq] using follows
    exact .done
  | lock owner next ih =>
    rw [follow] at follows
    split at follows
    · next free => exact .taken free (ih true follows)
    · exact .refused (ih false follows)
  | unlock owner next ih => exact .unlock (ih follows)
  | read next ih => exact .read (ih _ follows)
  | write change next ih => exact .write (ih follows)
  | call target next ih =>
    rw [follow] at follows
    split at follows
    · cases follows
    · next answered =>
      exact .call (serves _ _ _ _ _ answered) (ih _ follows)

end Program

end LockedCalls
