/-
What `RawJdbcCustomerRepository` does to the database, call by call.

Only two things are known of the bookkeeping between two calls: the connection that is
cached, and the depth.  Every JDBC call either works, and the next one starts from what
it left, or throws, and nothing has changed but the number of calls made.
-/

import SpringExamples.Jdbc.Database

set_option autoImplicit false

namespace SpringExamples.Jdbc

open Prog

variable {Result Other : Type}

/-- The connection a thread has cached, its depth, and the world it has come to. -/
structure On (connection : Option Nat) (depth : Int) (calls : Nat) (database : Database)
    (thread : Thread (Faulty Database)) : Prop where
  cached : thread.book.connectionThreadLocal = connection
  depth : thread.book.depthThreadLocal.getD 0 = depth
  world : thread.world = { world := database, calls := calls }

def At (connection : Option Nat) (depth : Int) (locals : Locals) (calls : Nat)
    (database : Database) (state : Thread (Faulty Database) × Locals) : Prop :=
  On connection depth calls database state.1 ∧ state.2 = locals

def noLocals : Locals :=
  { connection := none
    preparedStatement := none }

variable {keys : Nat → Int64} {fails : Nat → Bool} {connection : Option Nat} {depth : Int}
  {locals : Locals} {calls : Nat} {database : Database}

section Calls

theorem jdbc_breaks (breaks : fails calls = true) (operation : Prog Thrown Database Result) :
    Triple (On connection depth calls database)
      (jdbc (faulty fails .sqlException operation)) fun ended thread =>
        ended = .error .sqlException ∧ On connection depth (calls + 1) database thread := by
  intro thread on
  unfold jdbc
  rw [on.world, faulty_breaks breaks]
  exact ⟨rfl, on.cached, on.depth, rfl⟩

theorem jdbc_works (works : fails calls = false) {operation : Prog Thrown Database Result}
    {ended : Except Thrown Result} {after : Database}
    (runs : operation database = (ended, after)) :
    Triple (On connection depth calls database)
      (jdbc (faulty fails .sqlException operation)) fun outcome thread =>
        outcome = ended ∧ On connection depth (calls + 1) after thread := by
  intro thread on
  unfold jdbc
  rw [on.world, faulty_works works, runs]
  exact ⟨rfl, on.cached, on.depth, rfl⟩

theorem callee_at {program : Prog Thrown (Thread (Faulty Database)) Result}
    {outcome : Except Thrown Result} {connection' : Option Nat} {depth' : Int} {calls' : Nat}
    {database' : Database}
    (holds : Triple (On connection depth calls database) program fun ended thread =>
      ended = outcome ∧ On connection' depth' calls' database' thread) :
    Triple (At connection depth locals calls database) (Prog.callee program) fun ended state =>
      ended = outcome ∧ At connection' depth' locals calls' database' state := by
  refine Triple.consequence (Triple.callee_locals holds) (fun _ before => before) ?_
  intro ended state given
  obtain ⟨⟨same, on⟩, kept⟩ := given
  exact ⟨same, on, kept⟩

theorem call_breaks (breaks : fails calls = true) (operation : Prog Thrown Database Result) :
    Triple (At connection depth locals calls database)
      (call (faulty fails .sqlException operation)) fun ended state =>
        ended = .error .sqlException ∧
          At connection depth locals (calls + 1) database state :=
  callee_at (jdbc_breaks breaks operation)

theorem call_works (works : fails calls = false) {operation : Prog Thrown Database Result}
    {ended : Except Thrown Result} {after : Database}
    (runs : operation database = (ended, after)) :
    Triple (At connection depth locals calls database)
      (call (faulty fails .sqlException operation)) fun outcome state =>
        outcome = ended ∧ At connection depth locals (calls + 1) after state :=
  callee_at (jdbc_works works runs)

/-- A call and what follows it: if the call breaks, what follows is not run. -/
theorem call_bind {operation : Prog Thrown Database Result} {result : Result}
    {after : Database} {next : Result → Prog Thrown (Thread (Faulty Database) × Locals) Other}
    {post : Except Thrown Other → Thread (Faulty Database) × Locals → Prop}
    (runs : operation database = (.ok result, after))
    (breaks : fails calls = true → ∀ state,
      At connection depth locals (calls + 1) database state → post (.error .sqlException) state)
    (works : fails calls = false →
      Triple (At connection depth locals (calls + 1) after) (next result) post) :
    Triple (At connection depth locals calls database)
      (call (faulty fails .sqlException operation) >>= next) post := by
  cases turn : fails calls with
  | true => exact Triple.bind_error (call_breaks turn operation) (breaks turn)
  | false => exact Triple.bind_ok (call_works turn runs) (works turn)

variable (keys) in
/-- Preparing a statement is one call, and the statement is remembered for the end. -/
theorem prepare_bind {held : Nat} {sql : String} {returnGeneratedKeys : Bool}
    {next : Nat → Prog Thrown (Thread (Faulty Database) × Locals) Other}
    {post : Except Thrown Other → Thread (Faulty Database) × Locals → Prop}
    (breaks : fails calls = true → ∀ state,
      At connection depth locals (calls + 1) database state → post (.error .sqlException) state)
    (works : fails calls = false → Triple
      (At connection depth { locals with preparedStatement := some database.prepared }
        (calls + 1) (database.prepare held sql returnGeneratedKeys))
      (next database.prepared) post) :
    Triple (At connection depth locals calls database)
      (prepare ((h2 keys).withFaults fails) held sql returnGeneratedKeys >>= next) post := by
  cases turn : fails calls with
  | true =>
      refine Triple.bind_error ?_ (breaks turn)
      exact Triple.bind_error (call_breaks turn _) fun _ after => ⟨rfl, after⟩
  | false =>
      refine Triple.bind_ok ?_ (works turn)
      refine Triple.bind_ok (call_works turn rfl) ?_
      intro state given
      obtain ⟨on, kept⟩ := given
      refine ⟨rfl, on, ?_⟩
      change { state.2 with preparedStatement := some database.prepared } = _
      rw [kept]

end Calls

section Bookkeeping

theorem note_on {change : Bookkeeping → Bookkeeping} {connection' : Option Nat} {depth' : Int}
    (moves : ∀ book : Bookkeeping, book.connectionThreadLocal = connection →
      book.depthThreadLocal.getD 0 = depth →
        (change book).connectionThreadLocal = connection' ∧
          (change book).depthThreadLocal.getD 0 = depth') :
    Triple (On connection depth calls database) (note change) fun ended thread =>
      ended = .ok () ∧ On connection' depth' calls database thread := by
  intro thread on
  obtain ⟨cached, deep⟩ := moves thread.book on.cached on.depth
  exact ⟨rfl, cached, deep, on.world⟩

theorem currentDepth_on :
    Triple (On connection depth calls database) currentDepth fun ended thread =>
      ended = .ok depth ∧ On connection depth calls database thread := by
  refine Triple.bind_get fun current on => ?_
  have deep := on.depth
  cases stored : current.book.depthThreadLocal with
  | some cnt =>
      rw [stored] at deep
      intro thread reached
      subst reached
      exact ⟨congrArg Except.ok deep, on⟩
  | none =>
      rw [stored] at deep
      refine Triple.bind_ok (Triple.of_state (note_on fun book cached _ => ⟨cached, deep⟩) on) ?_
      intro thread reached
      exact ⟨congrArg Except.ok deep, reached⟩

theorem incrementDepth_on :
    Triple (On connection depth calls database) incrementDepth fun ended thread =>
      ended = .ok (depth + 1) ∧ On connection (depth + 1) calls database thread := by
  refine Triple.bind_ok currentDepth_on ?_
  refine Triple.bind_ok (note_on fun book cached _ => ⟨cached, rfl⟩) ?_
  exact fun _ on => ⟨rfl, on⟩

theorem decrementDepth_on :
    Triple (On connection depth calls database) decrementDepth fun ended thread =>
      ended = .ok (depth - 1) ∧ On connection (depth - 1) calls database thread := by
  refine Triple.bind_ok currentDepth_on ?_
  refine Triple.bind_ok (note_on fun book cached _ => ⟨cached, rfl⟩) ?_
  exact fun _ on => ⟨rfl, on⟩

/-- The end of `openThreadConnection`. -/
theorem opened_on :
    Triple (On connection depth calls database)
      (do
        let _ ← incrementDepth
        let thread ← Prog.get
        pure thread.book.connectionThreadLocal)
      fun ended thread =>
        ended = .ok connection ∧ On connection (depth + 1) calls database thread := by
  refine Triple.bind_ok incrementDepth_on ?_
  intro thread on
  exact ⟨congrArg Except.ok on.cached, on⟩

theorem open_cached (driver : Driver (Faulty Database)) (held : Nat) :
    Triple (On (some held) depth calls database) (openThreadConnection driver)
      fun ended thread =>
        ended = .ok (some held) ∧ On (some held) (depth + 1) calls database thread := by
  have ensured : Triple (On (some held) depth calls database) (ensureConnection driver)
      fun ended thread => ended = .ok () ∧ On (some held) depth calls database thread := by
    refine Triple.bind_get fun current on => ?_
    rw [on.cached]
    intro thread reached
    subst reached
    exact ⟨rfl, on⟩
  exact Triple.bind_ok ensured opened_on

variable (keys) in
theorem open_obtained (works : fails calls = false) (next : Nat) :
    Triple (fun thread => On none depth calls database thread ∧ thread.book.obtained = next)
      (openThreadConnection ((h2 keys).withFaults fails)) fun ended thread =>
        ended = .ok (some next) ∧ On (some next) (depth + 1) (calls + 1) database thread := by
  have obtains : Triple
      (fun thread => On none depth calls database thread ∧ thread.book.obtained = next)
      (do
        jdbc ((h2 keys).withFaults fails).getConnection
        note obtain) fun ended thread =>
          ended = .ok () ∧ On (some next) depth (calls + 1) database thread := by
    intro thread given
    obtain ⟨on, number⟩ := given
    have asked : jdbc ((h2 keys).withFaults fails).getConnection thread =
        (.ok (), { thread with world := { world := database, calls := calls + 1 } }) := by
      have answered : ((h2 keys).withFaults fails).getConnection
          { world := database, calls := calls } =
            (.ok (), { world := database, calls := calls + 1 }) := faulty_works works _ _
      unfold jdbc
      rw [on.world, answered]
    rw [Prog.bind_apply, asked]
    exact ⟨rfl, congrArg some number, on.depth, rfl⟩
  have ensured : Triple
      (fun thread => On none depth calls database thread ∧ thread.book.obtained = next)
      (ensureConnection ((h2 keys).withFaults fails)) fun ended thread =>
        ended = .ok () ∧ On (some next) depth (calls + 1) database thread := by
    refine Triple.bind_get fun current given => ?_
    rw [given.1.cached]
    exact Triple.of_state (Triple.tryCatch_ok obtains fun _ after => ⟨rfl, after⟩) given
  exact Triple.bind_ok ensured opened_on

variable (keys) in
theorem open_missing (breaks : fails calls = true) :
    Triple (On none depth calls database)
      (openThreadConnection ((h2 keys).withFaults fails)) fun ended thread =>
        ended = .ok none ∧ On none (depth + 1) (calls + 1) database thread := by
  have asks : Triple (On none depth calls database)
      (do
        jdbc ((h2 keys).withFaults fails).getConnection
        note obtain) fun ended thread =>
          ended = .error .sqlException ∧ On none depth (calls + 1) database thread :=
    Triple.bind_error (jdbc_breaks breaks (h2 keys).getConnection) fun _ after => ⟨rfl, after⟩
  have ensured : Triple (On none depth calls database)
      (ensureConnection ((h2 keys).withFaults fails)) fun ended thread =>
        ended = .ok () ∧ On none depth (calls + 1) database thread := by
    refine Triple.bind_get fun current on => ?_
    rw [on.cached]
    exact Triple.of_state (Triple.tryCatch_error asks fun _ after => ⟨rfl, after⟩) on
  exact Triple.bind_ok ensured opened_on

theorem close_inner (driver : Driver (Faulty Database)) (held : Nat) :
    Triple (On (some held) 2 calls database) (closeThreadConnection driver) fun ended thread =>
      ended = .ok () ∧ On (some held) 1 calls database thread := by
  refine Triple.bind_get fun current on => ?_
  refine Triple.bind_ok (Triple.of_state decrementDepth_on on) ?_
  exact fun thread reached => ⟨rfl, reached⟩

variable (keys fails) in
theorem close_outer (held : Nat) :
    Triple (On (some held) 1 calls database)
      (closeThreadConnection ((h2 keys).withFaults fails)) fun ended thread =>
        ended = .ok () ∧
          On none 0 (calls + 1) (if fails calls then database else database.release held)
            thread := by
  refine Triple.bind_get fun current on => ?_
  rw [on.cached]
  refine Triple.bind_ok (Triple.of_state decrementDepth_on on) ?_
  have noted : Triple (On (some held) 0 calls database)
      (note fun book => { book with closeCalls := book.closeCalls ++ [held] })
      fun ended thread => ended = .ok () ∧ On (some held) 0 calls database thread :=
    note_on fun book cached deep => ⟨cached, deep⟩
  have closes : Triple (On (some held) 0 calls database)
      (catchSqlException
        (do
          note fun book => { book with closeCalls := book.closeCalls ++ [held] }
          jdbc (((h2 keys).withFaults fails).closeConnection held))
        (pure ())) fun ended thread => ended = .ok () ∧
          On (some held) 0 (calls + 1) (if fails calls then database else database.release held)
            thread := by
    cases turn : fails calls with
    | true =>
        refine Triple.tryCatch_error (Triple.bind_ok noted (jdbc_breaks turn _)) ?_
        exact fun thread after => ⟨rfl, after⟩
    | false =>
        refine Triple.tryCatch_ok (Triple.bind_ok noted (jdbc_works turn rfl)) ?_
        exact fun thread after => ⟨rfl, after⟩
  rw [if_pos (Int.sub_self 1)]
  refine Triple.tryFinally closes fun ended => ?_
  intro thread given
  obtain ⟨same, on⟩ := given
  rw [same]
  exact ⟨rfl, rfl, on.depth, on.world⟩

theorem close_missing (driver : Driver (Faulty Database)) :
    Triple (On none 1 calls database) (closeThreadConnection driver) fun ended thread =>
      ended = .ok () ∧ On none 0 calls database thread := by
  refine Triple.bind_get fun current on => ?_
  rw [on.cached]
  refine Triple.bind_ok (Triple.of_state decrementDepth_on on) ?_
  exact fun thread reached => ⟨rfl, reached⟩

end Bookkeeping

section Methods

/-- How many calls `closeStatement` makes. -/
def Locals.closing (locals : Locals) : Nat :=
  match locals.preparedStatement with
  | none => 0
  | some _ => 1

variable (keys fails) in
theorem closeStatement_at :
    Triple (At connection depth locals calls database)
      (closeStatement ((h2 keys).withFaults fails)) fun ended state =>
        ended = .ok () ∧
          At connection depth locals (calls + locals.closing) database state := by
  refine Triple.bind_get fun current given => ?_
  have stands := given.2
  unfold Locals.closing
  rw [stands]
  cases locals.preparedStatement with
  | none =>
      intro state reached
      subst reached
      exact ⟨rfl, given⟩
  | some statement =>
      dsimp only
      refine Triple.of_state ?_ given
      cases turn : fails calls with
      | true =>
          exact Triple.tryCatch_error (call_breaks turn _) fun _ after => ⟨rfl, after⟩
      | false =>
          exact Triple.tryCatch_ok (call_works turn rfl) fun _ after => ⟨rfl, after⟩

/-- The end of each method: its connection is closed or not, then its statement is. -/
theorem cleanUp_at {connection' : Option Nat} {depth' : Int} {calls' : Nat}
    {database' : Database}
    (closes : Triple (On connection depth calls database)
      (closeThreadConnection ((h2 keys).withFaults fails)) fun ended thread =>
        ended = .ok () ∧ On connection' depth' calls' database' thread) :
    Triple (At connection depth locals calls database) (cleanUp ((h2 keys).withFaults fails))
      fun ended state => ended = .ok () ∧
        At connection' depth' locals (calls' + locals.closing) database' state := by
  have left : Triple (On connection depth calls database) (note leave) fun ended thread =>
      ended = .ok () ∧ On connection depth calls database thread :=
    note_on fun book cached deep => ⟨cached, deep⟩
  refine Triple.bind_ok (callee_at left) ?_
  refine Triple.bind_ok (callee_at closes) ?_
  exact closeStatement_at keys fails

/-- A thread outside of the repository, and the number of its next connection. -/
def Ready (held calls : Nat) (database : Database) (thread : Thread (Faulty Database)) : Prop :=
  On none 0 calls database thread ∧ thread.book.obtained = held

theorem enter_ready {held : Nat} :
    Triple (Ready held calls database) (note enter) fun ended thread =>
      ended = .ok () ∧ Ready held calls database thread :=
  fun _ ready => ⟨rfl, ⟨ready.1.cached, ready.1.depth, ready.1.world⟩, ready.2⟩

theorem opening_at {pre : Thread (Faulty Database) → Prop} {opened : Option Nat}
    {driver : Driver (Faulty Database)}
    {body : Option Nat → Prog Thrown (Thread (Faulty Database) × Locals) (Option Customer)}
    {post : Except Thrown (Option Customer) → Thread (Faulty Database) × Locals → Prop}
    (opens : Triple pre (openThreadConnection driver) fun ended thread =>
      ended = .ok opened ∧ On connection depth calls database thread)
    (runs : Triple
      (At connection depth { connection := opened, preparedStatement := none } calls database)
      (body opened) post) :
    Triple (fun state => pre state.1 ∧ state.2 = noLocals) (opening driver body) post := by
  have opened' : Triple (fun state => pre state.1 ∧ state.2 = noLocals)
      (Prog.callee (openThreadConnection driver)) fun ended state =>
        ended = .ok opened ∧ At connection depth noLocals calls database state := by
    refine Triple.consequence (Triple.callee_locals opens) (fun _ before => before) ?_
    intro ended state given
    obtain ⟨⟨same, on⟩, kept⟩ := given
    exact ⟨same, on, kept⟩
  refine Triple.bind_ok opened' ?_
  refine Triple.bind_ok (callee_at (note_on fun book cached deep => ⟨cached, deep⟩)) ?_
  have handed : Triple (At connection depth noLocals calls database)
      (Prog.modify fun state => (state.1, { state.2 with connection := opened }) :
        Prog Thrown (Thread (Faulty Database) × Locals) Unit) fun ended state =>
      ended = .ok () ∧
        At connection depth { connection := opened, preparedStatement := none } calls database
          state := by
    intro state given
    obtain ⟨on, kept⟩ := given
    refine ⟨rfl, on, ?_⟩
    change { state.2 with connection := opened } = _
    rw [kept]
    rfl
  exact Triple.bind_ok handed runs

/-- The shape of both methods, with what holds after its `try` and after its `catch`. -/
theorem withThreadConnection_on {pre : Thread (Faulty Database) → Prop}
    {driver : Driver (Faulty Database)}
    {body : Option Nat → Prog Thrown (Thread (Faulty Database) × Locals) (Option Customer)}
    {handler : Prog Thrown (Thread (Faulty Database) × Locals) (Option Customer)}
    {tried caught : Except Thrown (Option Customer) → Thread (Faulty Database) × Locals → Prop}
    {post : Except Thrown (Option Customer) → Thread (Faulty Database) → Prop}
    (enters : Triple pre (note enter) fun ended thread => ended = .ok () ∧ pre thread)
    (opens : Triple (fun state => pre state.1 ∧ state.2 = noLocals) (opening driver body) tried)
    (handles : Triple (tried (.error .sqlException)) handler caught)
    (passes : ∀ ended state, ended ≠ .error .sqlException → tried ended state →
      caught ended state)
    (cleans : ∀ ended, Triple (caught ended) (cleanUp driver) fun closed state =>
      closed = .ok () ∧ post ended state.1) :
    Triple pre (withThreadConnection driver body handler) post := by
  refine Triple.bind_ok enters ?_
  have within : Triple (fun state => pre state.1 ∧ state.2 = noLocals)
      (Prog.tryFinally (catchSqlException (opening driver body) handler) (cleanUp driver))
      fun ended state => post ended state.1 := by
    have catches : Triple (fun state => pre state.1 ∧ state.2 = noLocals)
        (catchSqlException (opening driver body) handler) caught := by
      refine Triple.tryCatch opens ?_ fun _ _ => passes _ _ nofun
      intro thrown
      cases thrown with
      | sqlException => exact handles
      | unchecked => exact fun state given => passes _ state nofun given
    refine Triple.tryFinally catches fun ended => ?_
    intro state given
    obtain ⟨same, after⟩ := cleans ended state given
    rw [same]
    exact after
  intro thread given
  exact within (thread, noLocals) ⟨given, rfl⟩

end Methods

section Reading

/-- What reading calls end in.  They are `count` calls in a row; if all of them work
they find what there is, and if one of them breaks the rest is not made. -/
def Reads (fails : Nat → Bool) (connection : Option Nat) (depth : Int) (calls count : Nat)
    (database : Database) (found : Result) (ended : Except Thrown Result)
    (state : Thread (Faulty Database) × Locals) : Prop :=
  ∃ locals calls' database', At connection depth locals calls' database' state ∧
    database'.table = database.table ∧ database'.sessions = database.sessions ∧
    ((∀ k < count, fails (calls + k) = false) →
      ended = .ok found ∧ calls' = calls + count ∧ locals.closing = 1) ∧
    ((∃ k < count, fails (calls + k) = true) → ended = .error .sqlException)

variable {count : Nat} {found : Result}

theorem reads_done (statement : locals.closing = 1)
    {state : Thread (Faulty Database) × Locals}
    (stands : At connection depth locals calls database state) :
    Reads fails connection depth calls 0 database found (.ok found) state := by
  refine ⟨locals, calls, database, stands, rfl, rfl, fun _ => ⟨rfl, rfl, statement⟩, ?_⟩
  intro broken
  obtain ⟨k, impossible, _⟩ := broken
  exact absurd impossible (Nat.not_lt_zero k)

theorem reads_stop (breaks : fails calls = true) {state : Thread (Faulty Database) × Locals}
    (stands : At connection depth locals (calls + 1) database state) :
    Reads fails connection depth calls (count + 1) database found (.error .sqlException)
      state := by
  refine ⟨locals, calls + 1, database, stands, rfl, rfl, ?_, fun _ => rfl⟩
  intro work
  have worked := work 0 (Nat.succ_pos count)
  rw [Nat.add_zero, breaks] at worked
  cases worked

theorem reads_continue (works : fails calls = false) {after : Database}
    (table : after.table = database.table) (sessions : after.sessions = database.sessions)
    {ended : Except Thrown Result} {state : Thread (Faulty Database) × Locals}
    (later : Reads fails connection depth (calls + 1) count after found ended state) :
    Reads fails connection depth calls (count + 1) database found ended state := by
  obtain ⟨locals, calls', database', stands, table', sessions', work, broken⟩ := later
  have shift : ∀ k, calls + (k + 1) = calls + 1 + k := fun k => by omega
  refine ⟨locals, calls', database', stands, table'.trans table, sessions'.trans sessions, ?_, ?_⟩
  · intro all
    obtain ⟨same, made, statement⟩ := work fun k less => by
      rw [← shift]
      exact all (k + 1) (Nat.succ_lt_succ less)
    exact ⟨same, by omega, statement⟩
  · intro some
    obtain ⟨k, less, breaks⟩ := some
    cases k with
    | zero =>
        rw [Nat.add_zero, works] at breaks
        cases breaks
    | succ k =>
        rw [shift] at breaks
        exact broken ⟨k, Nat.lt_of_succ_lt_succ less, breaks⟩

theorem reads_bind {operation : Prog Thrown Database Other} {result : Other} {after : Database}
    {next : Other → Prog Thrown (Thread (Faulty Database) × Locals) Result}
    (runs : operation database = (.ok result, after))
    (table : after.table = database.table) (sessions : after.sessions = database.sessions)
    (continues : Triple (At connection depth locals (calls + 1) after) (next result)
      (Reads fails connection depth (calls + 1) count after found)) :
    Triple (At connection depth locals calls database)
      (call (faulty fails .sqlException operation) >>= next)
      (Reads fails connection depth calls (count + 1) database found) := by
  refine call_bind runs ?_ ?_
  · intro breaks state stands
    exact reads_stop breaks stands
  · intro works state stands
    exact reads_continue works table sessions (continues state stands)

theorem reads_map {pre : Thread (Faulty Database) × Locals → Prop}
    {program : Prog Thrown (Thread (Faulty Database) × Locals) Result} (change : Result → Other)
    (reads : Triple pre program (Reads fails connection depth calls count database found)) :
    Triple pre (program >>= fun result => pure (change result))
      (Reads fails connection depth calls count database (change found)) := by
  refine Triple.bind reads ?_ ?_
  · intro result state given
    obtain ⟨locals, calls', database', stands, table, sessions, work, broken⟩ := given
    refine ⟨locals, calls', database', stands, table, sessions, ?_, ?_⟩
    · intro all
      obtain ⟨same, made⟩ := work all
      cases same
      exact ⟨rfl, made⟩
    · intro some
      cases broken some
  · intro error state given
    obtain ⟨locals, calls', database', stands, table, sessions, work, broken⟩ := given
    refine ⟨locals, calls', database', stands, table, sessions, ?_, ?_⟩
    · intro all
      cases (work all).1
    · intro some
      cases broken some
      rfl

variable (keys) in
theorem reads_prepare {held : Nat} {sql : String} {returnGeneratedKeys : Bool}
    {next : Nat → Prog Thrown (Thread (Faulty Database) × Locals) Result}
    (continues : Triple
      (At connection depth { locals with preparedStatement := some database.prepared }
        (calls + 1) (database.prepare held sql returnGeneratedKeys))
      (next database.prepared)
      (Reads fails connection depth (calls + 1) count
        (database.prepare held sql returnGeneratedKeys) found)) :
    Triple (At connection depth locals calls database)
      (prepare ((h2 keys).withFaults fails) held sql returnGeneratedKeys >>= next)
      (Reads fails connection depth calls (count + 1) database found) := by
  refine prepare_bind keys ?_ ?_
  · intro breaks state stands
    exact reads_stop breaks stands
  · intro works state stands
    exact reads_continue works rfl rfl (continues state stands)

/-- How many calls it takes to read the rows and to find that there are no more. -/
def readCalls : List CustomerRow → Nat
  | [] => 1
  | _ :: rest => readCalls rest + 4

variable (keys fails) in
theorem readCustomers_reads (statement : locals.closing = 1) (customers : List Customer)
    (rows : List CustomerRow) :
    Triple (At connection depth locals calls database)
      (readCustomers ((h2 keys).withFaults fails) customers rows)
      (Reads fails connection depth calls (readCalls rows) database
        (customers ++ rows.map CustomerRow.customer)) := by
  induction rows generalizing customers calls with
  | nil =>
      refine reads_bind rfl rfl rfl ?_
      intro state stands
      rw [List.map_nil, List.append_nil]
      exact reads_done statement stands
  | cons row rest ih =>
      have joined : customers ++ (row :: rest).map CustomerRow.customer =
          customers ++ [row.customer] ++ rest.map CustomerRow.customer := by
        rw [List.append_assoc]
        rfl
      rw [joined]
      refine reads_bind rfl rfl rfl ?_
      refine reads_bind rfl rfl rfl ?_
      refine reads_bind rfl rfl rfl ?_
      refine reads_bind rfl rfl rfl ?_
      exact ih (customers ++ [row.customer])

theorem executeQuery_prepared (database : Database) (held : Nat) (customerId : Int64) :
    ((database.prepare held selectSql false).setLong database.prepared 1 customerId).executeQuery
        database.prepared =
      .ok ((database.visible held).filter fun row => row.id == customerId) := by
  simp [Database.executeQuery, Database.setLong, Database.edit, Database.prepare,
    Database.visible]

/-- The lookup after its switch to auto-commit. -/
theorem findBody_reads (held : Nat) (customerId : Int64) (rows : List CustomerRow)
    (stored : ((database.visible held).filter fun row => row.id == customerId) = rows) :
    Triple (At connection depth locals calls database)
      (do
        let statement ← prepare ((h2 keys).withFaults fails) held selectSql false
        call (((h2 keys).withFaults fails).setLong statement 1 customerId)
        let rows ← call (((h2 keys).withFaults fails).executeQuery statement)
        let customers ← readCustomers ((h2 keys).withFaults fails) [] rows
        pure customers.head?)
      (Reads fails connection depth calls (readCalls rows + 3) database
        (rows.map CustomerRow.customer).head?) := by
  refine reads_prepare keys ?_
  refine reads_bind rfl rfl rfl ?_
  have queried : (h2 keys).executeQuery database.prepared
      ((database.prepare held selectSql false).setLong database.prepared 1 customerId) =
        (.ok rows,
          (database.prepare held selectSql false).setLong database.prepared 1 customerId) :=
    Prod.ext ((executeQuery_prepared database held customerId).trans (congrArg _ stored)) rfl
  refine reads_bind queried rfl rfl ?_
  exact reads_map List.head? (readCustomers_reads keys fails rfl [] rows)

end Reading

section Lookup

/-- What a lookup on a cached connection ends in: switching to auto-commit commits what
was written on it, and a call that breaks after that only hides the row. -/
structure Fetched (fails : Nat → Bool) (held calls count : Nat) (database : Database)
    (found : Option Customer) (ended : Except Thrown (Option Customer)) (calls' : Nat)
    (database' : Database) : Prop where
  unswitched : fails calls = true → ended = .ok none ∧ database'.table = database.table ∧
    database'.sessions = database.sessions
  switched : fails calls = false →
    database'.table = (database.setAutoCommit held true).table ∧
      database'.sessions = (database.setAutoCommit held true).sessions
  work : fails calls = false → (∀ k < count, fails (calls + 1 + k) = false) →
    ended = .ok found ∧ calls' = calls + count + 2
  broken : fails calls = false → (∃ k < count, fails (calls + 1 + k) = true) → ended = .ok none

/-- The body of a lookup: switching to auto-commit, then reading. -/
def Tried (fails : Nat → Bool) (held : Nat) (depth : Int) (calls count : Nat)
    (database : Database) (found : Option Customer) (ended : Except Thrown (Option Customer))
    (state : Thread (Faulty Database) × Locals) : Prop :=
  (fails calls = true ∧ ended = .error .sqlException ∧ ∃ locals,
      At (some held) depth locals (calls + 1) database state) ∨
    (fails calls = false ∧
      Reads fails (some held) depth (calls + 1) count (database.setAutoCommit held true) found
        ended state)

/-- The same once an `SQLException` is caught; closing the statement is still to come. -/
def Caught (fails : Nat → Bool) (held : Nat) (depth : Int) (calls count : Nat)
    (database : Database) (found : Option Customer) (ended : Except Thrown (Option Customer))
    (state : Thread (Faulty Database) × Locals) : Prop :=
  ∃ locals calls' database', At (some held) depth locals calls' database' state ∧
    Fetched fails held calls count database found ended (calls' + locals.closing) database'

variable (keys fails) in
theorem findBody_tried (held : Nat) (customerId : Int64) (rows : List CustomerRow)
    (stored : (((database.setAutoCommit held true).visible held).filter fun row =>
      row.id == customerId) = rows) :
    Triple
      (At (some held) depth { connection := some held, preparedStatement := none } calls database)
      (findBody ((h2 keys).withFaults fails) customerId (some held))
      (Tried fails held depth calls (readCalls rows + 3) database
        (rows.map CustomerRow.customer).head?) := by
  refine call_bind rfl ?_ ?_
  · intro breaks state stands
    exact Or.inl ⟨breaks, rfl, _, stands⟩
  · intro works
    refine Triple.consequence (findBody_reads held customerId rows stored)
      (fun _ before => before) ?_
    intro ended state reads
    exact Or.inr ⟨works, reads⟩

variable {held count : Nat} {found : Option Customer}

theorem caught_of_returned {ended : Except Thrown (Option Customer)}
    {state : Thread (Faulty Database) × Locals} (returned : ended ≠ .error .sqlException)
    (tried : Tried fails held depth calls count database found ended state) :
    Caught fails held depth calls count database found ended state := by
  rcases tried with ⟨_, impossible, _⟩ | ⟨works, reads⟩
  · exact absurd impossible returned
  · obtain ⟨locals, calls', database', stands, table, sessions, work, broken⟩ := reads
    refine ⟨locals, calls', database', stands, ?_, fun _ => ⟨table, sessions⟩, ?_, ?_⟩
    · intro breaks
      rw [works] at breaks
      cases breaks
    · intro _ all
      obtain ⟨same, made, statement⟩ := work all
      exact ⟨same, by omega⟩
    · intro _ some
      exact absurd (broken some) returned

theorem caught_of_thrown :
    Triple (Tried fails held depth calls count database found (.error .sqlException))
      (pure none : Prog Thrown (Thread (Faulty Database) × Locals) (Option Customer))
      (Caught fails held depth calls count database found) := by
  intro state tried
  rcases tried with ⟨breaks, _, locals, stands⟩ | ⟨works, reads⟩
  · refine ⟨locals, calls + 1, database, stands, fun _ => ⟨rfl, rfl, rfl⟩, ?_, ?_, ?_⟩
    · intro works
      rw [breaks] at works
      cases works
    · intro works
      rw [breaks] at works
      cases works
    · intro works
      rw [breaks] at works
      cases works
  · obtain ⟨locals, calls', database', stands, table, sessions, work, _⟩ := reads
    refine ⟨locals, calls', database', stands, ?_, fun _ => ⟨table, sessions⟩, ?_,
      fun _ _ => rfl⟩
    · intro breaks
      rw [works] at breaks
      cases breaks
    · intro _ all
      cases (work all).1

theorem fetched_returns {ended : Except Thrown (Option Customer)} {calls' : Nat}
    {database' : Database}
    (fetched : Fetched fails held calls count database found ended calls' database') :
    ∃ result, ended = .ok result := by
  cases switches : fails calls with
  | true => exact ⟨none, (fetched.unswitched switches).1⟩
  | false =>
      by_cases broken : ∃ k < count, fails (calls + 1 + k) = true
      · exact ⟨none, fetched.broken switches broken⟩
      · refine ⟨found, (fetched.work switches fun k less => ?_).1⟩
        exact Bool.eq_false_iff.mpr fun breaks => broken ⟨k, less, breaks⟩

variable (keys fails) in
/-- A lookup from inside of `saveCustomer`. -/
theorem getCustomerById_cached (customerId : Int64) (rows : List CustomerRow)
    (stored : (((database.setAutoCommit held true).visible held).filter fun row =>
      row.id == customerId) = rows) :
    Triple (On (some held) 1 calls database)
      (getCustomerById ((h2 keys).withFaults fails) customerId) fun ended thread =>
        ∃ calls' database', On (some held) 1 calls' database' thread ∧
          Fetched fails held calls (readCalls rows + 3) database
            (rows.map CustomerRow.customer).head? ended calls' database' := by
  have entered : Triple (On (some held) 1 calls database) (note enter) fun ended thread =>
      ended = .ok () ∧ On (some held) 1 calls database thread :=
    note_on fun book cached deep => ⟨cached, deep⟩
  refine withThreadConnection_on entered
    (opening_at (open_cached _ held) (findBody_tried keys fails held customerId rows stored))
    caught_of_thrown (fun _ _ => caught_of_returned) ?_
  intro ended state caught
  obtain ⟨locals, calls', database', stands, fetched⟩ := caught
  obtain ⟨same, on, _⟩ := cleanUp_at (close_inner ((h2 keys).withFaults fails) held) state stands
  exact ⟨same, _, _, on, fetched⟩

end Lookup

end SpringExamples.Jdbc
