/-
The prepared statements of a thread, each closed once.

A method closes its statement after its connection, so a statement is lost only where the
connection throws something unchecked while it is being closed.  Which statements were
prepared and closed is recorded beside the driver, whatever that does; a method owes the
closing of its own statement, on top of what the methods that called it owe.
-/

import Mathlib.Data.List.Perm.Basic
import SpringExamples.Jdbc.ThreadConnections

set_option autoImplicit false

namespace SpringExamples.Jdbc

open Runs

structure Recorded (World : Type) where
  world : World
  prepared : List Nat
  closeCalls : List Nat
  /-- How often a connection threw something unchecked when it was closed. -/
  failures : Nat

variable {World Result : Type}

namespace Recorded

def start (world : World) : Recorded World :=
  { world := world
    prepared := []
    closeCalls := []
    failures := 0 }

def lift (operation : Prog Thrown World Result) : Prog Thrown (Recorded World) Result :=
  fun recorded =>
    match operation recorded.world with
    | (ended, world) => (ended, { recorded with world := world })

end Recorded

/-- The driver, with a record of the statements. -/
def recording (driver : Driver World) : Driver (Recorded World) where
  getConnection := Recorded.lift driver.getConnection
  setAutoCommit connection autoCommit := Recorded.lift (driver.setAutoCommit connection autoCommit)
  rollback connection := Recorded.lift (driver.rollback connection)
  closeConnection connection := fun recorded =>
    match driver.closeConnection connection recorded.world with
    | (.error .unchecked, world) =>
        (.error .unchecked, { recorded with world := world, failures := recorded.failures + 1 })
    | (ended, world) => (ended, { recorded with world := world })
  prepareStatement connection sql returnGeneratedKeys := fun recorded =>
    match driver.prepareStatement connection sql returnGeneratedKeys recorded.world with
    | (.ok statement, world) =>
        (.ok statement,
          { recorded with world := world, prepared := recorded.prepared ++ [statement] })
    | (.error thrown, world) => (.error thrown, { recorded with world := world })
  setString statement index value := Recorded.lift (driver.setString statement index value)
  setLong statement index value := Recorded.lift (driver.setLong statement index value)
  executeUpdate statement := Recorded.lift (driver.executeUpdate statement)
  executeQuery statement := Recorded.lift (driver.executeQuery statement)
  getGeneratedKeys statement := Recorded.lift (driver.getGeneratedKeys statement)
  closeStatement statement := fun recorded =>
    match driver.closeStatement statement recorded.world with
    | (ended, world) =>
        (ended, { recorded with world := world, closeCalls := recorded.closeCalls ++ [statement] })
  next := Recorded.lift driver.next
  readColumn column := Recorded.lift (driver.readColumn column)
  closeResultSet := Recorded.lift driver.closeResultSet

/-- The statements still to be closed are `owed`, and for `spare` of the failures no statement
has been given up yet. -/
def Owes (owed : List Nat) (spare : Nat) (thread : Thread (Recorded World)) : Prop :=
  ∃ lost : List Nat,
    thread.world.prepared.Perm (thread.world.closeCalls ++ (owed ++ lost)) ∧
      lost.length + spare ≤ thread.world.failures

/-- The same inside of a method, which owes its own statement. -/
def OwesOwn (owed : List Nat) (spare : Nat) (state : Thread (Recorded World) × Locals) : Prop :=
  Owes (state.2.preparedStatement.toList ++ owed) spare state.1

/-- The method has not prepared its statement yet. -/
def Unprepared (owed : List Nat) (state : Thread (Recorded World) × Locals) : Prop :=
  Owes owed 0 state.1 ∧ state.2.preparedStatement = none

theorem owesOwn_of_unprepared {owed : List Nat} {state : Thread (Recorded World) × Locals}
    (unprepared : Unprepared owed state) : OwesOwn owed 0 state := by
  obtain ⟨owes, none⟩ := unprepared
  unfold OwesOwn
  rw [none]
  exact owes

/-- A failure gives up the statement that it keeps from being closed. -/
theorem owes_of_failure {owed : List Nat} {state : Thread (Recorded World) × Locals}
    (owes : OwesOwn owed 1 state) : Owes owed 0 state.1 := by
  obtain ⟨lost, accounted, bound⟩ := owes
  refine ⟨state.2.preparedStatement.toList ++ lost, ?_, ?_⟩
  · refine accounted.trans (.append_left _ ?_)
    rw [List.append_assoc, ← List.append_assoc owed]
    exact (List.perm_append_comm_assoc _ _ _).trans (.of_eq (List.append_assoc _ _ _).symm)
  · have single : state.2.preparedStatement.toList.length ≤ 1 := Option.length_toList_le
    rw [List.length_append]
    omega

/-- Whatever the callers of the program owe, they owe afterwards. -/
def Keeps (program : Prog Thrown (Thread (Recorded World)) Result) : Prop :=
  ∀ owed, Preserves (Owes owed 0) program

section Calls

variable {owed : List Nat}

theorem note_keeps (change : Bookkeeping → Bookkeeping) :
    Keeps (note change : Prog Thrown (Thread (Recorded World)) Unit) :=
  fun _ _ owes => owes

theorem jdbc_lift_keeps (operation : Prog Thrown World Result) :
    Keeps (jdbc (Recorded.lift operation)) := by
  intro owed thread owes
  unfold jdbc Recorded.lift
  dsimp only
  generalize operation thread.world.world = outcome
  exact owes

theorem callee_owesOwn {program : Prog Thrown (Thread (Recorded World)) Result}
    (keeps : Keeps program) : Preserves (OwesOwn owed 0) (Prog.callee program) :=
  fun state owes => keeps (state.2.preparedStatement.toList ++ owed) state.1 owes

theorem callee_unprepared {program : Prog Thrown (Thread (Recorded World)) Result}
    (keeps : Keeps program) : Preserves (Unprepared owed) (Prog.callee program) :=
  fun state given => ⟨keeps owed state.1 given.1, given.2⟩

theorem call_owesOwn (operation : Prog Thrown World Result) :
    Preserves (OwesOwn owed 0) (call (Recorded.lift operation)) :=
  callee_owesOwn (jdbc_lift_keeps operation)

theorem call_unprepared (operation : Prog Thrown World Result) :
    Preserves (Unprepared owed) (call (Recorded.lift operation)) :=
  callee_unprepared (jdbc_lift_keeps operation)

/-- A step before the statement is prepared. -/
theorem bind_unprepared {Other : Type}
    {first : Prog Thrown (Thread (Recorded World) × Locals) Result}
    {next : Result → Prog Thrown (Thread (Recorded World) × Locals) Other}
    (begins : Preserves (Unprepared owed) first)
    (continues : ∀ result, Triple (Unprepared owed) (next result) fun _ => OwesOwn owed 0) :
    Triple (Unprepared owed) (first >>= next) fun _ => OwesOwn owed 0 :=
  Triple.bind begins continues fun _ _ unprepared => owesOwn_of_unprepared unprepared

/-- A step after it. -/
theorem bind_prepared {Other : Type} {pre : Thread (Recorded World) × Locals → Prop}
    {first : Prog Thrown (Thread (Recorded World) × Locals) Result}
    {next : Result → Prog Thrown (Thread (Recorded World) × Locals) Other}
    (begins : Triple pre first fun _ => OwesOwn owed 0)
    (continues : ∀ result, Preserves (OwesOwn owed 0) (next result)) :
    Triple pre (first >>= next) fun _ => OwesOwn owed 0 :=
  Triple.bind begins continues fun _ _ owes => owes

end Calls

section Connections

variable (driver : Driver World) {owed : List Nat}

theorem currentDepth_owes :
    Triple (Owes owed 0) (currentDepth : Prog Thrown (Thread (Recorded World)) Int)
      fun ended thread => (∃ depth, ended = .ok depth) ∧ Owes owed 0 thread := by
  refine Triple.bind_get fun current owes => ?_
  cases current.book.depthThreadLocal with
  | some cnt =>
      intro thread same
      exact ⟨⟨cnt, rfl⟩, same ▸ owes⟩
  | none =>
      intro thread same
      exact ⟨⟨0, rfl⟩, same ▸ owes⟩

theorem currentDepth_keeps : Keeps (currentDepth : Prog Thrown (Thread (Recorded World)) Int) :=
  fun _ thread owes => (currentDepth_owes thread owes).2

theorem incrementDepth_keeps :
    Keeps (incrementDepth : Prog Thrown (Thread (Recorded World)) Int) := by
  intro owed
  apply Preserves.bind (currentDepth_keeps owed)
  intro cnt
  exact Preserves.bind (note_keeps _ owed) fun _ => Preserves.pure _

theorem ensureConnection_keeps : Keeps (ensureConnection (recording driver)) := by
  intro owed
  apply Preserves.bind (fun _ owes => owes)
  intro thread
  cases thread.book.connectionThreadLocal with
  | some connection => exact Preserves.pure _
  | none =>
      exact catchSqlException_preserves
        (Preserves.bind (jdbc_lift_keeps driver.getConnection owed) fun _ => note_keeps _ owed)
        (Preserves.pure _)

theorem openThreadConnection_keeps : Keeps (openThreadConnection (recording driver)) := by
  intro owed
  apply Preserves.bind (ensureConnection_keeps driver owed)
  intro _
  apply Preserves.bind (incrementDepth_keeps owed)
  intro _
  exact Preserves.bind (fun _ owes => owes) fun _ => Preserves.pure _

/-- What is thrown while a connection is being closed is counted. -/
def Counted (owed : List Nat) (ended : Except Thrown Result)
    (thread : Thread (Recorded World)) : Prop :=
  match ended with
  | .error .unchecked => Owes owed 1 thread
  | _ => Owes owed 0 thread

theorem closeConnection_counted (connection : Nat) :
    Triple (Owes owed 0) (jdbc ((recording driver).closeConnection connection))
      (Counted owed) := by
  intro thread owes
  unfold jdbc recording
  dsimp only
  generalize driver.closeConnection connection thread.world.world = outcome
  obtain ⟨ended, world⟩ := outcome
  cases ended with
  | ok done => exact owes
  | error thrown =>
      cases thrown with
      | sqlException => exact owes
      | unchecked =>
          obtain ⟨lost, accounted, bound⟩ := owes
          exact ⟨lost, accounted, Nat.succ_le_succ bound⟩

/-- Nothing else is thrown. -/
def Closes (owed : List Nat) (ended : Except Thrown Result) (thread : Thread (Recorded World)) :
    Prop :=
  match ended with
  | .ok _ => Owes owed 0 thread
  | .error _ => Owes owed 1 thread

theorem closing_closes (connection : Nat) (closes clears : Bookkeeping → Bookkeeping) :
    Triple (Owes owed 0)
      (Prog.tryFinally
        (catchSqlException
          (do
            note closes
            jdbc ((recording driver).closeConnection connection))
          (pure ()))
        (note clears))
      (Closes owed) := by
  have noted : Triple (Owes owed 0)
      (note closes : Prog Thrown (Thread (Recorded World)) Unit)
      fun ended thread => ended = .ok () ∧ Owes owed 0 thread :=
    fun thread owes => ⟨rfl, owes⟩
  have closed : Triple (Owes owed 0)
      (note closes >>= fun _ => jdbc ((recording driver).closeConnection connection))
      (Counted owed) :=
    Triple.bind_ok noted (closeConnection_counted driver connection)
  have caught : Triple (Owes owed 0)
      (catchSqlException
        (note closes >>= fun _ => jdbc ((recording driver).closeConnection connection)) (pure ()))
      (Closes owed) := by
    refine Triple.tryCatch closed ?_ fun _ _ counted => counted
    intro thrown
    cases thrown with
    | sqlException => exact fun _ counted => counted
    | unchecked => exact fun _ counted => counted
  exact Triple.tryFinally caught fun ended thread counted => counted

theorem closeThreadConnection_closes :
    Triple (Owes owed 0) (closeThreadConnection (recording driver)) (Closes owed) := by
  refine Triple.bind_get fun current owes => Triple.of_state ?_ owes
  have decremented : Triple (Owes owed 0)
      (decrementDepth : Prog Thrown (Thread (Recorded World)) Int)
      fun ended thread => (∃ depth, ended = .ok depth) ∧ Owes owed 0 thread := by
    refine Triple.bind currentDepth_owes (fun cnt => ?_) fun _ _ given => ?_
    · intro thread given
      exact ⟨⟨cnt - 1, rfl⟩, given.2⟩
    · obtain ⟨⟨depth, impossible⟩, _⟩ := given
      cases impossible
  refine Triple.bind decremented (fun depth => ?_) fun _ _ given => ?_
  · by_cases zero : depth = 0
    · rw [if_pos zero]
      cases current.book.connectionThreadLocal with
      | none => exact fun thread given => given.2
      | some connection =>
          exact fun thread given => closing_closes driver connection _ _ thread given.2
    · rw [if_neg zero]
      exact fun thread given => given.2
  · obtain ⟨⟨depth, impossible⟩, _⟩ := given
    cases impossible

end Connections

section Methods

variable (driver : Driver World) {owed : List Nat}

theorem prepareStatement_owes (connection : Nat) (sql : String) (returnGeneratedKeys : Bool) :
    Triple (Unprepared owed)
      (call ((recording driver).prepareStatement connection sql returnGeneratedKeys))
      fun ended state =>
        match ended with
        | .ok statement => Owes (statement :: owed) 0 state.1
        | .error _ => Unprepared owed state := by
  intro state unprepared
  obtain ⟨⟨lost, accounted, bound⟩, none⟩ := unprepared
  unfold call Prog.callee jdbc recording
  dsimp only
  generalize driver.prepareStatement connection sql returnGeneratedKeys state.1.world.world =
    outcome
  obtain ⟨ended, world⟩ := outcome
  cases ended with
  | error thrown => exact ⟨⟨lost, accounted, bound⟩, none⟩
  | ok statement =>
      have moved := (accounted.append_right [statement]).trans
        (List.perm_append_singleton statement _)
      exact ⟨lost, moved.trans List.perm_middle.symm, bound⟩

theorem prepare_owes (connection : Nat) (sql : String) (returnGeneratedKeys : Bool) :
    Triple (Unprepared owed) (prepare (recording driver) connection sql returnGeneratedKeys)
      fun _ => OwesOwn owed 0 := by
  refine Triple.bind (prepareStatement_owes driver connection sql returnGeneratedKeys)
    (fun statement => ?_) ?_
  · exact fun state owes => owes
  · exact fun thrown state unprepared => owesOwn_of_unprepared unprepared

theorem closeStatement_owes :
    Triple (OwesOwn owed 0) (closeStatement (recording driver)) fun _ state =>
      Owes owed 0 state.1 := by
  refine Triple.bind_get fun current owes => ?_
  unfold OwesOwn at owes
  cases stands : current.2.preparedStatement with
  | none =>
      rw [stands] at owes
      exact fun state same => same ▸ owes
  | some statement =>
      rw [stands] at owes
      have closed : Triple (fun state => state = current)
          (call ((recording driver).closeStatement statement))
          fun _ state => Owes owed 0 state.1 := by
        intro state same
        subst same
        obtain ⟨lost, accounted, bound⟩ := owes
        refine ⟨lost, accounted.trans ?_, bound⟩
        exact .of_eq (List.append_cons _ statement (owed ++ lost))
      refine Triple.tryCatch closed ?_ fun _ _ owes => owes
      intro thrown
      cases thrown with
      | sqlException => exact fun _ owes => owes
      | unchecked => exact fun _ owes => owes

/-- The statement is closed, or given up for the failure that prevents it. -/
theorem cleanUp_owes :
    Triple (OwesOwn owed 0) (cleanUp (recording driver)) fun _ state => Owes owed 0 state.1 := by
  have left : Triple (OwesOwn owed 0)
      (Prog.callee (note leave) : Prog Thrown (Thread (Recorded World) × Locals) Unit)
      fun ended state => ended = .ok () ∧ OwesOwn owed 0 state :=
    fun state owes => ⟨rfl, owes⟩
  refine Triple.bind_ok left ?_
  have closes : Triple (OwesOwn owed 0) (Prog.callee (closeThreadConnection (recording driver)))
      fun ended (state : Thread (Recorded World) × Locals) =>
        Closes (state.2.preparedStatement.toList ++ owed) ended state.1 :=
    fun state owes => closeThreadConnection_closes driver state.1 owes
  refine Triple.bind closes (fun _ => closeStatement_owes driver) ?_
  exact fun thrown state owes => owes_of_failure owes

theorem opening_owes
    {body : Option Nat → Prog Thrown (Thread (Recorded World) × Locals) (Option Customer)}
    (bodyOwes : ∀ connection, Triple (Unprepared owed) (body connection) fun _ => OwesOwn owed 0) :
    Triple (Unprepared owed) (opening (recording driver) body) fun _ => OwesOwn owed 0 := by
  refine bind_unprepared (callee_unprepared (openThreadConnection_keeps driver)) ?_
  intro connection
  refine bind_unprepared (callee_unprepared (note_keeps _)) ?_
  intro _
  exact bind_unprepared (fun _ given => given) fun _ => bodyOwes connection

theorem withThreadConnection_keeps
    {body : Option Nat → Prog Thrown (Thread (Recorded World) × Locals) (Option Customer)}
    {handler : Prog Thrown (Thread (Recorded World) × Locals) (Option Customer)}
    (bodyOwes : ∀ owed connection,
      Triple (Unprepared owed) (body connection) fun _ => OwesOwn owed 0)
    (handlerOwes : ∀ owed, Preserves (OwesOwn owed 0) handler) :
    Keeps (withThreadConnection (recording driver) body handler) := by
  intro owed
  refine Preserves.bind (note_keeps enter owed) fun _ => ?_
  have tried : Triple (Unprepared owed)
      (catchSqlException (opening (recording driver) body) handler)
      fun _ => OwesOwn owed 0 := by
    refine Triple.tryCatch (opening_owes driver (bodyOwes owed)) ?_ fun _ _ owes => owes
    intro thrown
    cases thrown with
    | sqlException => exact handlerOwes owed
    | unchecked => exact fun _ owes => owes
  have ended : Triple (Unprepared owed)
      (Prog.tryFinally (catchSqlException (opening (recording driver) body) handler)
        (cleanUp (recording driver)))
      fun _ state => Owes owed 0 state.1 :=
    Triple.tryFinally tried fun _ => cleanUp_owes driver
  intro thread owes
  exact ended (thread, { connection := none, preparedStatement := none }) ⟨owes, rfl⟩

theorem dereference_unprepared (reference : Option Result) :
    Preserves (Unprepared owed)
      (dereference reference : Prog Thrown (Thread (Recorded World) × Locals) Result) :=
  dereference_preserves reference

theorem readCustomers_owes (customers : List Customer) (rows : List CustomerRow) :
    Preserves (OwesOwn owed 0) (readCustomers (recording driver) customers rows) := by
  induction rows generalizing customers with
  | nil => exact bind_prepared (call_owesOwn driver.next) fun _ => Preserves.pure _
  | cons row rest ih =>
      refine bind_prepared (call_owesOwn driver.next) fun _ => ?_
      refine bind_prepared (call_owesOwn (driver.readColumn "first_name")) fun _ => ?_
      refine bind_prepared (call_owesOwn (driver.readColumn "last_name")) fun _ => ?_
      exact bind_prepared (call_owesOwn (driver.readColumn "id")) fun _ => ih _

theorem findBody_owes (customerId : Int64) (connection : Option Nat) :
    Triple (Unprepared owed) (findBody (recording driver) customerId connection)
      fun _ => OwesOwn owed 0 := by
  refine bind_unprepared (dereference_unprepared connection) fun connection => ?_
  refine bind_unprepared (call_unprepared (driver.setAutoCommit connection true)) fun _ => ?_
  refine bind_prepared (prepare_owes driver connection _ _) fun statement => ?_
  refine bind_prepared (call_owesOwn (driver.setLong statement 1 customerId)) fun _ => ?_
  refine bind_prepared (call_owesOwn (driver.executeQuery statement)) fun rows => ?_
  exact bind_prepared (readCustomers_owes driver [] rows) fun _ => Preserves.pure _

theorem getCustomerById_keeps (customerId : Int64) :
    Keeps (getCustomerById (recording driver) customerId) :=
  withThreadConnection_keeps driver (fun _ connection => findBody_owes driver customerId connection)
    fun _ => Preserves.pure _

theorem readBack_owes (rsForKeys : List Int64) :
    Preserves (OwesOwn owed 0) (readBack (recording driver) rsForKeys) := by
  refine bind_prepared (call_owesOwn driver.next) fun _ => ?_
  cases rsForKeys with
  | nil => exact Preserves.pure _
  | cons id rest =>
      refine bind_prepared (call_owesOwn (driver.readColumn "1")) fun _ => ?_
      exact callee_owesOwn (getCustomerById_keeps driver id)

theorem readGenerated_owes (statement : Nat) :
    Preserves (OwesOwn owed 0) (readGenerated (recording driver) statement) := by
  refine bind_prepared (call_owesOwn (driver.getGeneratedKeys statement)) fun rsForKeys => ?_
  cases rsForKeys with
  | none => exact Preserves.throw _
  | some keys =>
      refine bind_prepared (readBack_owes driver keys) fun customer => ?_
      exact bind_prepared (call_owesOwn driver.closeResultSet) fun _ => Preserves.pure _

theorem saveBody_owes (customer : Option Customer) (connection : Option Nat) :
    Triple (Unprepared owed) (saveBody (recording driver) customer connection)
      fun _ => OwesOwn owed 0 := by
  refine bind_unprepared (dereference_unprepared connection) fun connection => ?_
  refine bind_unprepared (call_unprepared (driver.setAutoCommit connection false)) fun _ => ?_
  refine bind_prepared (prepare_owes driver connection _ _) fun statement => ?_
  refine bind_prepared (dereference_preserves customer) fun given => ?_
  refine bind_prepared (call_owesOwn (driver.setString statement 1 given.firstName)) fun _ => ?_
  refine bind_prepared (call_owesOwn (driver.setString statement 2 given.lastName)) fun _ => ?_
  refine bind_prepared (call_owesOwn (driver.executeUpdate statement)) fun rowsUpdated => ?_
  by_cases updated : rowsUpdated > 0
  · rw [if_pos updated]
    exact readGenerated_owes driver statement
  · rw [if_neg updated]
    exact Preserves.pure _

theorem rollback_owes : Preserves (OwesOwn owed 0) (rollback (recording driver)) := by
  refine Preserves.bind (fun _ owes => owes) fun current => ?_
  cases current.2.connection with
  | none => exact Preserves.pure _
  | some connection =>
      exact catchSqlException_preserves
        (bind_prepared (call_owesOwn (driver.rollback connection)) fun _ => Preserves.pure _)
        (Preserves.pure _)

theorem saveCustomer_keeps (customer : Option Customer) :
    Keeps (saveCustomer (recording driver) customer) :=
  withThreadConnection_keeps driver (fun _ connection => saveBody_owes driver customer connection)
    fun _ => rollback_owes driver

/-- However often a thread calls the repository and whatever JDBC answers, every statement that
was prepared is closed exactly once, except that each time a connection throws something
unchecked while it is closed one statement at most may be left open. -/
theorem statements_closed_once (world : World) (calls : List RepositoryCall) :
    let after := (calls.foldl (perform (recording driver)) (newThread (Recorded.start world))).world
    ∃ lost : List Nat, after.prepared.Perm (after.closeCalls ++ lost) ∧
      lost.length ≤ after.failures := by
  have started : Owes [] 0 (newThread (Recorded.start world)) :=
    ⟨[], .nil, Nat.le_refl 0⟩
  have kept : ∀ (thread : Thread (Recorded World)) call next, Owes [] 0 thread →
      total (perform (recording driver)) thread call = some next → Owes [] 0 next := by
    intro thread call next owes moved
    cases moved
    cases call with
    | saveCustomer customer => exact saveCustomer_keeps driver customer [] thread owes
    | getCustomerById customerId => exact getCustomerById_keeps driver customerId [] thread owes
  exact run_invariant (total (perform (recording driver))) (Owes [] 0) kept started
    (run_total _ _ calls)

end Methods

end SpringExamples.Jdbc
