/-
Programs with a state, exceptions and blocks that are always left cleanly.

What a program wrote before it threw stays written.  A block may be given locals of its
own, and a program that knows nothing of them can be called from inside it.  The rules
are those of a Hoare logic whose postconditions speak about both ways of ending.
-/

import Mathlib.Logic.Basic

set_option autoImplicit false

namespace SpringExamples

def Prog (Error State Result : Type) : Type := State → Except Error Result × State

namespace Prog

variable {Error State Locals Result Other : Type}

def throw (error : Error) : Prog Error State Result := fun state => (.error error, state)

def get : Prog Error State State := fun state => (.ok state, state)

def modify (change : State → State) : Prog Error State Unit := fun state => (.ok (), change state)

instance : Monad (Prog Error State) where
  pure result := fun state => (.ok result, state)
  bind first next := fun state =>
    match first state with
    | (.ok result, between) => next result between
    | (.error error, between) => (.error error, between)

theorem bind_apply (first : Prog Error State Result) (next : Result → Prog Error State Other)
    (state : State) :
    (first >>= next) state =
      match first state with
      | (.ok result, between) => next result between
      | (.error error, between) => (.error error, between) := rfl

def tryCatch (body : Prog Error State Result) (handler : Error → Prog Error State Result) :
    Prog Error State Result := fun state =>
  match body state with
  | (.ok result, between) => (.ok result, between)
  | (.error error, between) => handler error between

/-- An exception of the last block replaces whatever the body ended with. -/
def tryFinally (body : Prog Error State Result) (last : Prog Error State Unit) :
    Prog Error State Result := fun state =>
  match body state with
  | (ended, between) =>
      match last between with
      | (.ok (), after) => (ended, after)
      | (.error error, after) => (.error error, after)

/-- A call of a program that does not know the locals of the block it is called from. -/
def callee (program : Prog Error State Result) : Prog Error (State × Locals) Result := fun state =>
  match program state.1 with
  | (ended, after) => (ended, (after, state.2))

def withLocals (locals : Locals) (block : Prog Error (State × Locals) Result) :
    Prog Error State Result := fun state =>
  match block (state, locals) with
  | (ended, after) => (ended, after.1)

/-- A world in which every operation is counted. -/
structure Faulty (World : Type) where
  world : World
  calls : Nat

/-- An operation that throws when its turn is one that fails, and then has no effect. -/
def faulty (fails : Nat → Bool) (thrown : Error) (operation : Prog Error State Result) :
    Prog Error (Faulty State) Result := fun state =>
  if fails state.calls then (.error thrown, { state with calls := state.calls + 1 })
  else
    match operation state.world with
    | (ended, world) => (ended, { world := world, calls := state.calls + 1 })

theorem faulty_breaks {fails : Nat → Bool} {thrown : Error} {calls : Nat}
    (breaks : fails calls = true) (operation : Prog Error State Result) (world : State) :
    faulty fails thrown operation { world := world, calls := calls } =
      (.error thrown, { world := world, calls := calls + 1 }) := by
  unfold faulty
  exact if_pos breaks

theorem faulty_works {fails : Nat → Bool} {thrown : Error} {calls : Nat}
    (works : fails calls = false) (operation : Prog Error State Result) (world : State) :
    faulty fails thrown operation { world := world, calls := calls } =
      ((operation world).1, { world := (operation world).2, calls := calls + 1 }) := by
  unfold faulty
  rw [if_neg (Bool.eq_false_iff.mp works)]

/-- An operation that, when its turn is one that fails, does what the fault says instead. -/
def interrupted {Fault : Type} (fails : Nat → Option Fault)
    (breaking : Fault → Prog Error State Result) (operation : Prog Error State Result) :
    Prog Error (Faulty State) Result := fun state =>
  match fails state.calls with
  | some fault =>
      match breaking fault state.world with
      | (ended, world) => (ended, { world := world, calls := state.calls + 1 })
  | none =>
      match operation state.world with
      | (ended, world) => (ended, { world := world, calls := state.calls + 1 })

theorem interrupted_breaks {Fault : Type} {fails : Nat → Option Fault} {fault : Fault}
    {state : Faulty State} (breaks : fails state.calls = some fault)
    (breaking : Fault → Prog Error State Result) (operation : Prog Error State Result) :
    interrupted fails breaking operation state =
      ((breaking fault state.world).1,
        { world := (breaking fault state.world).2, calls := state.calls + 1 }) := by
  unfold interrupted
  rw [breaks]

theorem interrupted_works {Fault : Type} {fails : Nat → Option Fault} {state : Faulty State}
    (works : fails state.calls = none) (breaking : Fault → Prog Error State Result)
    (operation : Prog Error State Result) :
    interrupted fails breaking operation state =
      ((operation state.world).1,
        { world := (operation state.world).2, calls := state.calls + 1 }) := by
  unfold interrupted
  rw [works]

end Prog

/-- From a state with `pre`, the program ends in a result and a state with `post`. -/
def Triple {Error State Result : Type} (pre : State → Prop) (program : Prog Error State Result)
    (post : Except Error Result → State → Prop) : Prop :=
  ∀ state, pre state → post (program state).1 (program state).2

/-- The program keeps the invariant, whether it returns or throws. -/
def Preserves {Error State Result : Type} (invariant : State → Prop)
    (program : Prog Error State Result) : Prop :=
  Triple invariant program fun _ => invariant

namespace Triple

variable {Error State Locals Result Other : Type} {pre : State → Prop}

theorem consequence {stronger : State → Prop} {program : Prog Error State Result}
    {post weaker : Except Error Result → State → Prop} (holds : Triple pre program post)
    (before : ∀ state, stronger state → pre state)
    (after : ∀ ended state, post ended state → weaker ended state) :
    Triple stronger program weaker :=
  fun state met => after _ _ (holds state (before state met))

theorem bind {first : Prog Error State Result} {next : Result → Prog Error State Other}
    {middle : Except Error Result → State → Prop} {post : Except Error Other → State → Prop}
    (begins : Triple pre first middle)
    (continues : ∀ result, Triple (middle (.ok result)) (next result) post)
    (throws : ∀ error state, middle (.error error) state → post (.error error) state) :
    Triple pre (first >>= next) post := by
  intro state met
  have reached := begins state met
  rw [Prog.bind_apply]
  generalize first state = outcome at reached ⊢
  obtain ⟨ended, between⟩ := outcome
  cases ended with
  | ok result => exact continues result between reached
  | error error => exact throws error between reached

/-- The first program is known to return, and what it returns. -/
theorem bind_ok {first : Prog Error State Result} {next : Result → Prog Error State Other}
    {result : Result} {middle : State → Prop} {post : Except Error Other → State → Prop}
    (begins : Triple pre first fun ended state => ended = .ok result ∧ middle state)
    (continues : Triple middle (next result) post) : Triple pre (first >>= next) post := by
  refine bind begins ?_ ?_
  · intro other state given
    obtain ⟨same, reached⟩ := given
    cases same
    exact continues state reached
  · intro error state given
    obtain ⟨impossible, _⟩ := given
    cases impossible

/-- The first program is known to throw. -/
theorem bind_error {first : Prog Error State Result} {next : Result → Prog Error State Other}
    {error : Error} {out : State → Prop} {post : Except Error Other → State → Prop}
    (begins : Triple pre first fun ended state => ended = .error error ∧ out state)
    (throws : ∀ state, out state → post (.error error) state) :
    Triple pre (first >>= next) post := by
  refine bind begins ?_ ?_
  · intro result state given
    obtain ⟨impossible, _⟩ := given
    cases impossible
  · intro other state given
    obtain ⟨same, reached⟩ := given
    cases same
    exact throws state reached

theorem bind_get {next : State → Prog Error State Result}
    {post : Except Error Result → State → Prop}
    (continues : ∀ current, pre current →
      Triple (fun state => state = current) (next current) post) :
    Triple pre (Prog.get >>= next) post :=
  fun state met => continues state met state rfl

/-- Once the state has been read, the program runs from that very state. -/
theorem of_state {program : Prog Error State Result} {post : Except Error Result → State → Prop}
    {current : State} (holds : Triple pre program post) (met : pre current) :
    Triple (fun state => state = current) program post := by
  intro state same
  subst same
  exact holds state met

theorem tryCatch {body : Prog Error State Result} {handler : Error → Prog Error State Result}
    {middle post : Except Error Result → State → Prop} (begins : Triple pre body middle)
    (handles : ∀ error, Triple (middle (.error error)) (handler error) post)
    (returns : ∀ result state, middle (.ok result) state → post (.ok result) state) :
    Triple pre (Prog.tryCatch body handler) post := by
  intro state met
  have reached := begins state met
  unfold Prog.tryCatch
  generalize body state = outcome at reached ⊢
  obtain ⟨ended, between⟩ := outcome
  cases ended with
  | ok result => exact returns result between reached
  | error error => exact handles error between reached

/-- The body is known to return, so that its handler is not run. -/
theorem tryCatch_ok {body : Prog Error State Result} {handler : Error → Prog Error State Result}
    {result : Result} {out : State → Prop} {post : Except Error Result → State → Prop}
    (begins : Triple pre body fun ended state => ended = .ok result ∧ out state)
    (returns : ∀ state, out state → post (.ok result) state) :
    Triple pre (Prog.tryCatch body handler) post := by
  refine tryCatch begins ?_ ?_
  · intro error state given
    obtain ⟨impossible, _⟩ := given
    cases impossible
  · intro other state given
    obtain ⟨same, reached⟩ := given
    cases same
    exact returns state reached

/-- The body is known to throw. -/
theorem tryCatch_error {body : Prog Error State Result}
    {handler : Error → Prog Error State Result} {error : Error} {out : State → Prop}
    {post : Except Error Result → State → Prop}
    (begins : Triple pre body fun ended state => ended = .error error ∧ out state)
    (handles : Triple out (handler error) post) :
    Triple pre (Prog.tryCatch body handler) post := by
  refine tryCatch begins ?_ ?_
  · intro other state given
    obtain ⟨same, reached⟩ := given
    cases same
    exact handles state reached
  · intro result state given
    obtain ⟨impossible, _⟩ := given
    cases impossible

def finished (ended : Except Error Result) (last : Except Error Unit) : Except Error Result :=
  match last with
  | .ok () => ended
  | .error error => .error error

theorem tryFinally {body : Prog Error State Result} {last : Prog Error State Unit}
    {middle post : Except Error Result → State → Prop} (begins : Triple pre body middle)
    (ends : ∀ ended, Triple (middle ended) last
      fun closed state => post (finished ended closed) state) :
    Triple pre (Prog.tryFinally body last) post := by
  intro state met
  have reached := begins state met
  unfold Prog.tryFinally
  generalize body state = outcome at reached ⊢
  obtain ⟨ended, between⟩ := outcome
  have closed := ends ended between reached
  dsimp only
  generalize last between = final at closed ⊢
  obtain ⟨lastEnded, after⟩ := final
  cases lastEnded with
  | ok done => exact closed
  | error error => exact closed

theorem callee {program : Prog Error State Result} {post : Except Error Result → State → Prop}
    (holds : Triple pre program post) :
    Triple (fun state : State × Locals => pre state.1) (Prog.callee program)
      fun ended state => post ended state.1 :=
  fun state met => holds state.1 met

theorem callee_locals {program : Prog Error State Result} {locals : Locals}
    {post : Except Error Result → State → Prop} (holds : Triple pre program post) :
    Triple (fun state : State × Locals => pre state.1 ∧ state.2 = locals) (Prog.callee program)
      fun ended state => post ended state.1 ∧ state.2 = locals :=
  fun state met => ⟨holds state.1 met.1, met.2⟩

theorem withLocals {locals : Locals} {block : Prog Error (State × Locals) Result}
    {post : Except Error Result → State → Prop}
    (holds : Triple (fun state : State × Locals => pre state.1) block
      fun ended state => post ended state.1) :
    Triple pre (Prog.withLocals locals block) post :=
  fun state met => holds (state, locals) met

end Triple

namespace Preserves

variable {Error State Locals Result Other : Type} {invariant : State → Prop}

theorem pure (result : Result) :
    Preserves invariant (Pure.pure result : Prog Error State Result) :=
  fun _ met => met

theorem throw (error : Error) :
    Preserves invariant (Prog.throw error : Prog Error State Result) :=
  fun _ met => met

theorem bind {first : Prog Error State Result} {next : Result → Prog Error State Other}
    (begins : Preserves invariant first) (continues : ∀ result, Preserves invariant (next result)) :
    Preserves invariant (first >>= next) :=
  Triple.bind begins continues fun _ _ met => met

theorem tryCatch {body : Prog Error State Result} {handler : Error → Prog Error State Result}
    (begins : Preserves invariant body) (handles : ∀ error, Preserves invariant (handler error)) :
    Preserves invariant (Prog.tryCatch body handler) :=
  Triple.tryCatch begins handles fun _ _ met => met

theorem callee {program : Prog Error State Result} (keeps : Preserves invariant program) :
    Preserves (fun state : State × Locals => invariant state.1) (Prog.callee program) :=
  Triple.callee keeps

end Preserves

end SpringExamples
