/-
`RawJdbcCustomerRepository` on one thread.

The data source and JDBC are a driver over a world of its own: every call may return,
throw an `SQLException` or throw something unchecked, and may do to its world what it
likes.  A result set is finite.  The model numbers the connections in the order in which
they were obtained.  Besides the two thread-locals it keeps a record that the code does
not have: which connections were closed, and which connection each method that has not
yet reached its `closeThreadConnection` was handed; and it remembers every value that
this bookkeeping took.
-/

import Mathlib.Data.List.Basic
import SpringExamples.Foundation.Effects

set_option autoImplicit false

namespace SpringExamples.Jdbc

inductive Thrown where
  | sqlException
  | unchecked
  deriving DecidableEq

structure Customer where
  id : Option Int64
  firstName : Option String
  lastName : Option String
  deriving DecidableEq

structure CustomerRow where
  id : Int64
  firstName : Option String
  lastName : Option String
  deriving DecidableEq

structure Driver (World : Type) where
  getConnection : Prog Thrown World Unit
  setAutoCommit (connection : Nat) (autoCommit : Bool) : Prog Thrown World Unit
  rollback (connection : Nat) : Prog Thrown World Unit
  closeConnection (connection : Nat) : Prog Thrown World Unit
  prepareStatement (connection : Nat) (sql : String) (returnGeneratedKeys : Bool) :
    Prog Thrown World Nat
  setString (statement index : Nat) (value : Option String) : Prog Thrown World Unit
  setLong (statement index : Nat) (value : Int64) : Prog Thrown World Unit
  executeUpdate (statement : Nat) : Prog Thrown World Int
  executeQuery (statement : Nat) : Prog Thrown World (List CustomerRow)
  getGeneratedKeys (statement : Nat) : Prog Thrown World (Option (List Int64))
  closeStatement (statement : Nat) : Prog Thrown World Unit
  next : Prog Thrown World Unit
  readColumn (column : String) : Prog Thrown World Unit
  closeResultSet : Prog Thrown World Unit

structure Bookkeeping where
  depthThreadLocal : Option Int
  connectionThreadLocal : Option Nat
  obtained : Nat
  closeCalls : List Nat
  /-- The methods that have not yet reached their `closeThreadConnection`, innermost first. -/
  frames : List (Option Nat)
  deriving DecidableEq

structure Thread (World : Type) where
  world : World
  book : Bookkeeping
  visited : List Bookkeeping

structure Locals where
  connection : Option Nat
  preparedStatement : Option Nat

variable {World Result : Type}

def note (change : Bookkeeping → Bookkeeping) : Prog Thrown (Thread World) Unit :=
  Prog.modify fun thread =>
    { thread with
      book := change thread.book
      visited := thread.visited ++ [change thread.book] }

def jdbc (call : Prog Thrown World Result) : Prog Thrown (Thread World) Result := fun thread =>
  match call thread.world with
  | (ended, world) => (ended, { thread with world := world })

def call (operation : Prog Thrown World Result) : Prog Thrown (Thread World × Locals) Result :=
  Prog.callee (jdbc operation)

def catchSqlException {State : Type} (body handler : Prog Thrown State Result) :
    Prog Thrown State Result :=
  Prog.tryCatch body fun thrown =>
    match thrown with
    | .sqlException => handler
    | .unchecked => Prog.throw .unchecked

/-- Using a null reference is an unchecked exception. -/
def dereference {State : Type} (reference : Option Result) : Prog Thrown State Result :=
  match reference with
  | some object => pure object
  | none => Prog.throw .unchecked

/-- The depth, which is set to zero if it is not set. -/
def currentDepth : Prog Thrown (Thread World) Int := do
  let thread ← Prog.get
  match thread.book.depthThreadLocal with
  | some cnt => pure cnt
  | none => do
      note fun book => { book with depthThreadLocal := some 0 }
      pure 0

def incrementDepth : Prog Thrown (Thread World) Int := do
  let cnt ← currentDepth
  note fun book => { book with depthThreadLocal := some (cnt + 1) }
  pure (cnt + 1)

def decrementDepth : Prog Thrown (Thread World) Int := do
  let cnt ← currentDepth
  note fun book => { book with depthThreadLocal := some (cnt - 1) }
  pure (cnt - 1)

def obtain (book : Bookkeeping) : Bookkeeping :=
  { book with
    connectionThreadLocal := some book.obtained
    obtained := book.obtained + 1 }

def ensureConnection (driver : Driver World) : Prog Thrown (Thread World) Unit := do
  let thread ← Prog.get
  match thread.book.connectionThreadLocal with
  | some _ => pure ()
  | none =>
      catchSqlException
        (do
          jdbc driver.getConnection
          note obtain)
        (pure ())

def openThreadConnection (driver : Driver World) : Prog Thrown (Thread World) (Option Nat) := do
  ensureConnection driver
  let _ ← incrementDepth
  let thread ← Prog.get
  pure thread.book.connectionThreadLocal

def closeThreadConnection (driver : Driver World) : Prog Thrown (Thread World) Unit := do
  let thread ← Prog.get
  let connection := thread.book.connectionThreadLocal
  let decrementedDepth ← decrementDepth
  if decrementedDepth = 0 then
    match connection with
    | none => pure ()
    | some connection =>
        Prog.tryFinally
          (catchSqlException
            (do
              note fun book => { book with closeCalls := book.closeCalls ++ [connection] }
              jdbc (driver.closeConnection connection))
            (pure ()))
          (note fun book => { book with connectionThreadLocal := none })
  else pure ()

def closeStatement (driver : Driver World) : Prog Thrown (Thread World × Locals) Unit := do
  let state ← Prog.get
  match state.2.preparedStatement with
  | none => pure ()
  | some statement => catchSqlException (call (driver.closeStatement statement)) (pure ())

/-- A method is entered, is handed its connection, and reaches its `closeThreadConnection`. -/
def enter (book : Bookkeeping) : Bookkeeping :=
  { book with frames := none :: book.frames }

def handOver (connection : Option Nat) (book : Bookkeeping) : Bookkeeping :=
  { book with frames := connection :: book.frames.tail }

def leave (book : Bookkeeping) : Bookkeeping :=
  { book with frames := book.frames.tail }

def cleanUp (driver : Driver World) : Prog Thrown (Thread World × Locals) Unit := do
  Prog.callee (note leave)
  Prog.callee (closeThreadConnection driver)
  closeStatement driver

def opening (driver : Driver World)
    (body : Option Nat → Prog Thrown (Thread World × Locals) (Option Customer)) :
    Prog Thrown (Thread World × Locals) (Option Customer) := do
  let connection ← Prog.callee (openThreadConnection driver)
  Prog.callee (note (handOver connection))
  Prog.modify fun state => (state.1, { state.2 with connection := connection })
  body connection

/-- The shape of both methods: a connection is opened, used and closed again, whatever
happens in between. -/
def withThreadConnection (driver : Driver World)
    (body : Option Nat → Prog Thrown (Thread World × Locals) (Option Customer))
    (handler : Prog Thrown (Thread World × Locals) (Option Customer)) :
    Prog Thrown (Thread World) (Option Customer) := do
  note enter
  Prog.withLocals { connection := none, preparedStatement := none }
    (Prog.tryFinally (catchSqlException (opening driver body) handler) (cleanUp driver))

def prepare (driver : Driver World) (connection : Nat) (sql : String) (returnGeneratedKeys : Bool) :
    Prog Thrown (Thread World × Locals) Nat := do
  let statement ← call (driver.prepareStatement connection sql returnGeneratedKeys)
  Prog.modify fun state => (state.1, { state.2 with preparedStatement := some statement })
  pure statement

/-- The loop over the result set; it reads each row to the end. -/
def readCustomers (driver : Driver World) (customers : List Customer) :
    List CustomerRow → Prog Thrown (Thread World × Locals) (List Customer)
  | [] => do
      call driver.next
      pure customers
  | row :: rest => do
      call driver.next
      call (driver.readColumn "first_name")
      call (driver.readColumn "last_name")
      call (driver.readColumn "id")
      readCustomers driver
        (customers ++ [⟨some row.id, row.firstName, row.lastName⟩]) rest

def findBody (driver : Driver World) (customerId : Int64) (connection : Option Nat) :
    Prog Thrown (Thread World × Locals) (Option Customer) := do
  let connection ← dereference connection
  call (driver.setAutoCommit connection true)
  let statement ← prepare driver connection "select * from customer where id = ?" false
  call (driver.setLong statement 1 customerId)
  let rows ← call (driver.executeQuery statement)
  let customers ← readCustomers driver [] rows
  pure customers.head?

def getCustomerById (driver : Driver World) (customerId : Int64) :
    Prog Thrown (Thread World) (Option Customer) :=
  withThreadConnection driver (findBody driver customerId) (pure none)

def insertSql : String := " INSERT INTO customer( first_name, last_name) VALUES ( ? , ? )"

/-- The new row is read back by its generated key, on the same connection. -/
def readBack (driver : Driver World) (rsForKeys : List Int64) :
    Prog Thrown (Thread World × Locals) (Option Customer) := do
  call driver.next
  match rsForKeys with
  | [] => pure none
  | id :: _ => do
      call (driver.readColumn "1")
      Prog.callee (getCustomerById driver id)

/-- The result set of the keys is closed without asking whether there is one. -/
def readGenerated (driver : Driver World) (statement : Nat) :
    Prog Thrown (Thread World × Locals) (Option Customer) := do
  let rsForKeys ← call (driver.getGeneratedKeys statement)
  match rsForKeys with
  | none => Prog.throw .unchecked
  | some keys => do
      let customer ← readBack driver keys
      call driver.closeResultSet
      pure customer

def saveBody (driver : Driver World) (customer : Option Customer) (connection : Option Nat) :
    Prog Thrown (Thread World × Locals) (Option Customer) := do
  let connection ← dereference connection
  call (driver.setAutoCommit connection false)
  let statement ← prepare driver connection insertSql true
  let given ← dereference customer
  call (driver.setString statement 1 given.firstName)
  call (driver.setString statement 2 given.lastName)
  let rowsUpdated ← call (driver.executeUpdate statement)
  if rowsUpdated > 0 then readGenerated driver statement else pure none

def rollback (driver : Driver World) :
    Prog Thrown (Thread World × Locals) (Option Customer) := do
  let state ← Prog.get
  match state.2.connection with
  | none => pure none
  | some connection =>
      catchSqlException
        (do
          call (driver.rollback connection)
          pure none)
        (pure none)

def saveCustomer (driver : Driver World) (customer : Option Customer) :
    Prog Thrown (Thread World) (Option Customer) :=
  withThreadConnection driver (saveBody driver customer) (rollback driver)

end SpringExamples.Jdbc
