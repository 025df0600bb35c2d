/-
The customer database behind the driver.

What is committed is a table and how far its key generator has got.  A connection has
rows of its own as long as auto-commit is off: switching auto-commit on commits them,
a rollback or closing the connection discards them.  A row is stored only if its names
fit their columns, which are `VARCHAR(255) NOT NULL`, and if its id is not taken.
-/

import Mathlib.Logic.Function.Basic
import SpringExamples.Jdbc.RawCustomerRepository

set_option autoImplicit false

namespace SpringExamples.Jdbc

/-- The length of a Java string. -/
def utf16Length (text : String) : Nat :=
  text.toList.foldl (fun length c => length + if c.val < 0x10000 then 1 else 2) 0

def fitsColumn : Option String → Bool
  | none => false
  | some name => decide (utf16Length name ≤ 255)

def accepts (rows : List CustomerRow) (row : CustomerRow) : Bool :=
  fitsColumn row.firstName && fitsColumn row.lastName && rows.all fun other => other.id != row.id

theorem accepts_free {rows : List CustomerRow} {row : CustomerRow}
    (accepted : accepts rows row = true) :
    (rows.filter fun other => other.id == row.id) = [] := by
  unfold accepts at accepted
  rw [Bool.and_eq_true] at accepted
  obtain ⟨_, free⟩ := accepted
  rw [List.filter_eq_nil_iff]
  intro other member same
  have different := List.all_eq_true.mp free other member
  rw [bne, same] at different
  cases different

structure Table where
  customer : List CustomerRow
  /-- How many keys were generated. -/
  generated : Nat
  deriving DecidableEq

def Table.newRow (keys : Nat → Int64) (table : Table) (firstName lastName : Option String) :
    CustomerRow :=
  ⟨keys table.generated, firstName, lastName⟩

def Table.rowsOf (table : Table) (customerId : Int64) : List CustomerRow :=
  table.customer.filter fun row => row.id == customerId

def CustomerRow.customer (row : CustomerRow) : Customer :=
  ⟨some row.id, row.firstName, row.lastName⟩

structure Session where
  autoCommit : Bool
  uncommitted : List CustomerRow
  deriving DecidableEq

def Session.fresh : Session :=
  { autoCommit := true
    uncommitted := [] }

structure Statement where
  connection : Nat
  sql : String
  returnGeneratedKeys : Bool
  strings : Nat → Option (Option String)
  longs : Nat → Option Int64
  keys : List Int64

structure Database where
  table : Table
  sessions : Nat → Session
  statements : Nat → Statement
  prepared : Nat

/-- Nobody is using the database. -/
def Database.atRest (table : Table) : Database :=
  { table := table
    sessions := fun _ => Session.fresh
    statements := fun _ =>
      { connection := 0
        sql := ""
        returnGeneratedKeys := false
        strings := fun _ => none
        longs := fun _ => none
        keys := [] }
    prepared := 0 }

def selectSql : String := "select * from customer where id = ?"

namespace Database

variable (database : Database)

def commit (connection : Nat) : Database :=
  { database with
    table :=
      { database.table with
        customer := database.table.customer ++ (database.sessions connection).uncommitted }
    sessions := Function.update database.sessions connection
      { database.sessions connection with uncommitted := [] } }

def switch (connection : Nat) (autoCommit : Bool) : Database :=
  { database with
    sessions := Function.update database.sessions connection
      { database.sessions connection with autoCommit := autoCommit } }

def setAutoCommit (connection : Nat) (autoCommit : Bool) : Database :=
  if autoCommit then (database.commit connection).switch connection true
  else database.switch connection false

def discard (connection : Nat) : Database :=
  { database with
    sessions := Function.update database.sessions connection
      { database.sessions connection with uncommitted := [] } }

/-- A closed connection goes back to the pool. -/
def release (connection : Nat) : Database :=
  { database with sessions := Function.update database.sessions connection Session.fresh }

def prepare (connection : Nat) (sql : String) (returnGeneratedKeys : Bool) : Database :=
  { database with
    statements := Function.update database.statements database.prepared
      { connection := connection
        sql := sql
        returnGeneratedKeys := returnGeneratedKeys
        strings := fun _ => none
        longs := fun _ => none
        keys := [] }
    prepared := database.prepared + 1 }

def edit (statement : Nat) (change : Statement → Statement) : Database :=
  { database with
    statements := Function.update database.statements statement
      (change (database.statements statement)) }

def setString (statement index : Nat) (value : Option String) : Database :=
  database.edit statement fun prepared =>
    { prepared with strings := Function.update prepared.strings index (some value) }

def setLong (statement index : Nat) (value : Int64) : Database :=
  database.edit statement fun prepared =>
    { prepared with longs := Function.update prepared.longs index (some value) }

def visible (connection : Nat) : List CustomerRow :=
  database.table.customer ++ (database.sessions connection).uncommitted

/-- A key that was generated is used up, whether or not its row is stored. -/
def draw : Database :=
  { database with table := { database.table with generated := database.table.generated + 1 } }

def write (connection : Nat) (row : CustomerRow) : Database :=
  if (database.sessions connection).autoCommit then
    { database with
      table := { database.table with customer := database.table.customer ++ [row] } }
  else
    { database with
      sessions := Function.update database.sessions connection
        { database.sessions connection with
          uncommitted := (database.sessions connection).uncommitted ++ [row] } }

def insert (keys : Nat → Int64) (statement : Nat) (firstName lastName : Option String) :
    Except Thrown Int × Database :=
  let connection := (database.statements statement).connection
  let row := database.table.newRow keys firstName lastName
  if accepts (database.visible connection) row then
    (.ok 1, (database.draw.write connection row).edit statement fun prepared =>
      { prepared with keys := [row.id] })
  else (.error .sqlException, database.draw)

/-- A statement whose parameters are not all set is not executed. -/
def executeUpdate (keys : Nat → Int64) (statement : Nat) : Except Thrown Int × Database :=
  let prepared := database.statements statement
  if prepared.sql = insertSql then
    match prepared.strings 1 with
    | none => (.error .sqlException, database)
    | some firstName =>
        match prepared.strings 2 with
        | none => (.error .sqlException, database)
        | some lastName => database.insert keys statement firstName lastName
  else (.error .sqlException, database)

def executeQuery (statement : Nat) : Except Thrown (List CustomerRow) :=
  let prepared := database.statements statement
  if prepared.sql = selectSql then
    match prepared.longs 1 with
    | none => .error .sqlException
    | some customerId =>
        .ok ((database.visible prepared.connection).filter fun row => row.id == customerId)
  else .error .sqlException

def getGeneratedKeys (statement : Nat) : Option (List Int64) :=
  let prepared := database.statements statement
  if prepared.returnGeneratedKeys then some prepared.keys else some []

end Database

/-- The database as JDBC shows it, when nothing goes wrong but what the database rejects. -/
def h2 (keys : Nat → Int64) : Driver Database where
  getConnection := pure ()
  setAutoCommit connection autoCommit :=
    Prog.modify fun database => database.setAutoCommit connection autoCommit
  rollback connection := Prog.modify fun database => database.discard connection
  closeConnection connection := Prog.modify fun database => database.release connection
  prepareStatement connection sql returnGeneratedKeys := fun database =>
    (.ok database.prepared, database.prepare connection sql returnGeneratedKeys)
  setString statement index value :=
    Prog.modify fun database => database.setString statement index value
  setLong statement index value :=
    Prog.modify fun database => database.setLong statement index value
  executeUpdate statement := fun database => database.executeUpdate keys statement
  executeQuery statement := fun database => (database.executeQuery statement, database)
  getGeneratedKeys statement := fun database =>
    (.ok (database.getGeneratedKeys statement), database)
  closeStatement _ := pure ()
  next := pure ()
  readColumn _ := pure ()
  closeResultSet := pure ()

/-- Each JDBC call throws an `SQLException` when its turn is one that fails. -/
def Driver.withFaults {World : Type} (driver : Driver World) (fails : Nat → Bool) :
    Driver (Prog.Faulty World) where
  getConnection := Prog.faulty fails .sqlException driver.getConnection
  setAutoCommit connection autoCommit :=
    Prog.faulty fails .sqlException (driver.setAutoCommit connection autoCommit)
  rollback connection := Prog.faulty fails .sqlException (driver.rollback connection)
  closeConnection connection :=
    Prog.faulty fails .sqlException (driver.closeConnection connection)
  prepareStatement connection sql returnGeneratedKeys :=
    Prog.faulty fails .sqlException
      (driver.prepareStatement connection sql returnGeneratedKeys)
  setString statement index value :=
    Prog.faulty fails .sqlException (driver.setString statement index value)
  setLong statement index value :=
    Prog.faulty fails .sqlException (driver.setLong statement index value)
  executeUpdate statement := Prog.faulty fails .sqlException (driver.executeUpdate statement)
  executeQuery statement := Prog.faulty fails .sqlException (driver.executeQuery statement)
  getGeneratedKeys statement :=
    Prog.faulty fails .sqlException (driver.getGeneratedKeys statement)
  closeStatement statement := Prog.faulty fails .sqlException (driver.closeStatement statement)
  next := Prog.faulty fails .sqlException driver.next
  readColumn column := Prog.faulty fails .sqlException (driver.readColumn column)
  closeResultSet := Prog.faulty fails .sqlException driver.closeResultSet

end SpringExamples.Jdbc
