/-
`JdbcTemplateCustomerRepository`.

Spring's `JdbcTemplate` and the driver's `ResultSet.getInt` are any that keep to their
documentation: an update hands the generated key to its holder, an error of the database
comes back unchecked, `queryForObject` maps exactly one row, and an `int` is read exactly
when it fits.  Each call is a transaction of its own, so the template works on the table.
-/

import SpringExamples.Foundation.JavaInteger
import SpringExamples.Jdbc.Database

set_option autoImplicit false

namespace SpringExamples.Jdbc

open JavaInteger

def insertCustomerQuery : String := "INSERT INTO customer( first_name, last_name) VALUES ( ? , ? )"

def customerByIdQuery : String := "SELECT id, first_name, last_name FROM customer WHERE id = ?"

def Table.inserted (keys : Nat → Int64) (table : Table) (firstName lastName : Option String) :
    Table :=
  { customer := table.customer ++ [table.newRow keys firstName lastName]
    generated := table.generated + 1 }

/-- The table after an insert, which uses up a key even if its row is rejected. -/
def Table.saved (keys : Nat → Int64) (table : Table) (given : Customer) : Table :=
  if accepts table.customer (table.newRow keys given.firstName given.lastName) then
    table.inserted keys given.firstName given.lastName
  else { table with generated := table.generated + 1 }

/-- `update` returns the keys in its holder. -/
structure JdbcTemplate (keys : Nat → Int64) where
  update (sql : String) (parameters : List (Option String)) : Prog Thrown Table (List Int64)
  queryForObject (sql : String) (rowMapper : CustomerRow → Except Thrown Customer) (id : Int64) :
    Prog Thrown Table Customer
  updated : ∀ firstName lastName (table : Table),
    accepts table.customer (table.newRow keys firstName lastName) = true →
      update insertCustomerQuery [firstName, lastName] table =
        (.ok [keys table.generated], table.inserted keys firstName lastName)
  rejected : ∀ firstName lastName (table : Table),
    accepts table.customer (table.newRow keys firstName lastName) = false →
      update insertCustomerQuery [firstName, lastName] table =
        (.error .unchecked, { table with generated := table.generated + 1 })
  found : ∀ rowMapper id (table : Table) row customer, table.rowsOf id = [row] →
    rowMapper row = .ok customer →
      queryForObject customerByIdQuery rowMapper id table = (.ok customer, table)
  unmapped : ∀ rowMapper id (table : Table) row thrown, table.rowsOf id = [row] →
    rowMapper row = .error thrown →
      queryForObject customerByIdQuery rowMapper id table = (.error .unchecked, table)
  notOne : ∀ rowMapper id (table : Table), (table.rowsOf id).length ≠ 1 →
    queryForObject customerByIdQuery rowMapper id table = (.error .unchecked, table)

/-- How a driver reads a 64-bit column as an `int`. -/
structure ResultSet where
  getInt : Int64 → Except Thrown Int32
  fits : ∀ value, InRange value.toInt → getInt value = .ok value.toInt32
  overflows : ∀ value, ¬InRange value.toInt →
    getInt value = .ok value.toInt32 ∨ getInt value = .error .sqlException

namespace JdbcTemplateCustomerRepository

variable {keys : Nat → Int64} (jdbcTemplate : JdbcTemplate keys) (resultSet : ResultSet)

/-- The `int` is widened to the `long` that the constructor takes. -/
def mapRow (row : CustomerRow) : Except Thrown Customer :=
  (resultSet.getInt row.id).map fun id => ⟨some id.toInt64, row.firstName, row.lastName⟩

def getCustomerById (id : Int64) : Prog Thrown Table (Option Customer) := do
  let customer ← jdbcTemplate.queryForObject customerByIdQuery (mapRow resultSet) id
  pure (some customer)

/-- The key of a `GeneratedKeyHolder`: null without a key, an error with several. -/
def getKey (holder : List Int64) : Prog Thrown Table (Option Int64) :=
  match holder with
  | [] => pure none
  | [key] => pure (some key)
  | _ => Prog.throw .unchecked

def saveCustomer (customer : Option Customer) : Prog Thrown Table (Option Customer) := do
  let given ← dereference customer
  let holder ← jdbcTemplate.update insertCustomerQuery [given.firstName, given.lastName]
  let key ← getKey holder
  let id ← dereference key
  getCustomerById jdbcTemplate resultSet id

theorem toInt64_toInt32_iff (value : Int64) :
    value.toInt32.toInt64 = value ↔ InRange value.toInt := by
  rw [← Int64.toInt_inj, Int32.toInt_toInt64, Int64.toInt_toInt32]
  constructor
  · intro same
    rw [← same, ← Int64.toInt_toInt32]
    exact toInt_inRange value.toInt32
  · intro fits
    obtain ⟨low, high⟩ := fits
    exact Int.bmod_eq_of_le (by omega) (by omega)

/-- A row is mapped to its own customer precisely when its id fits an `int`. -/
theorem mapRow_iff (row : CustomerRow) :
    mapRow resultSet row = .ok row.customer ↔ InRange row.id.toInt := by
  unfold mapRow CustomerRow.customer
  by_cases fits : InRange row.id.toInt
  · rw [resultSet.fits row.id fits]
    apply iff_of_true _ fits
    have same := (toInt64_toInt32_iff row.id).mpr fits
    simp [Except.map, same]
  · apply iff_of_false _ fits
    rcases resultSet.overflows row.id fits with truncated | thrown
    · rw [truncated]
      intro mapped
      have same : row.id.toInt32.toInt64 = row.id := by
        simpa [Except.map] using mapped
      exact fits ((toInt64_toInt32_iff row.id).mp same)
    · rw [thrown]
      exact nofun

variable {table : Table}

theorem getCustomerById_one {id : Int64} {row : CustomerRow} (alone : table.rowsOf id = [row]) :
    getCustomerById jdbcTemplate resultSet id table =
      match mapRow resultSet row with
      | .ok customer => (.ok (some customer), table)
      | .error _ => (.error .unchecked, table) := by
  unfold getCustomerById
  rw [Prog.bind_apply]
  cases mapped : mapRow resultSet row with
  | ok customer =>
      rw [jdbcTemplate.found _ _ _ _ _ alone mapped]
      rfl
  | error thrown => rw [jdbcTemplate.unmapped _ _ _ _ _ alone mapped]

theorem getCustomerById_notOne {id : Int64} (notOne : (table.rowsOf id).length ≠ 1) :
    getCustomerById jdbcTemplate resultSet id table = (.error .unchecked, table) := by
  unfold getCustomerById
  rw [Prog.bind_apply, jdbcTemplate.notOne _ _ _ notOne]

variable (table) in
@[simp] theorem getCustomerById_table (id : Int64) :
    (getCustomerById jdbcTemplate resultSet id table).2 = table := by
  by_cases one : (table.rowsOf id).length = 1
  · obtain ⟨row, alone⟩ := List.length_eq_one_iff.mp one
    rw [getCustomerById_one _ _ alone]
    cases mapRow resultSet row with
    | ok customer => rfl
    | error thrown => rfl
  · rw [getCustomerById_notOne _ _ one]

/-- The one row with an id is returned as it is precisely when the id fits an `int`. -/
theorem getCustomerById_iff (row : CustomerRow) (alone : table.rowsOf row.id = [row]) :
    (getCustomerById jdbcTemplate resultSet row.id table).1 = .ok (some row.customer) ↔
      InRange row.id.toInt := by
  rw [getCustomerById_one _ _ alone, ← mapRow_iff resultSet row]
  cases mapRow resultSet row with
  | ok customer => simp
  | error thrown => simp

/-- A row that is accepted is the only one with its id. -/
theorem rowsOf_inserted {firstName lastName : Option String}
    (accepted : accepts table.customer (table.newRow keys firstName lastName) = true) :
    (table.inserted keys firstName lastName).rowsOf (keys table.generated) =
      [table.newRow keys firstName lastName] := by
  change (table.customer ++ [table.newRow keys firstName lastName]).filter
    (fun other => other.id == (table.newRow keys firstName lastName).id) = _
  rw [List.filter_append, accepts_free accepted, List.nil_append, List.filter_singleton,
    beq_self_eq_true]
  rfl

theorem saveCustomer_accepted {given : Customer}
    (accepted : accepts table.customer
      (table.newRow keys given.firstName given.lastName) = true) :
    saveCustomer jdbcTemplate resultSet (some given) table =
      getCustomerById jdbcTemplate resultSet (keys table.generated)
        (table.inserted keys given.firstName given.lastName) := by
  change (jdbcTemplate.update insertCustomerQuery [given.firstName, given.lastName] >>= _) table =
    _
  rw [Prog.bind_apply, jdbcTemplate.updated _ _ _ accepted]
  rfl

theorem saveCustomer_rejected {given : Customer}
    (rejected : accepts table.customer
      (table.newRow keys given.firstName given.lastName) = false) :
    saveCustomer jdbcTemplate resultSet (some given) table =
      (.error .unchecked, { table with generated := table.generated + 1 }) := by
  change (jdbcTemplate.update insertCustomerQuery [given.firstName, given.lastName] >>= _) table =
    _
  rw [Prog.bind_apply, jdbcTemplate.rejected _ _ _ rejected]

variable (table) in
@[simp] theorem saveCustomer_table (given : Customer) :
    (saveCustomer jdbcTemplate resultSet (some given) table).2 = table.saved keys given := by
  unfold Table.saved
  split
  · rename_i accepted
    rw [saveCustomer_accepted _ _ accepted, getCustomerById_table]
  · rename_i rejected
    rw [saveCustomer_rejected _ _ (Bool.eq_false_iff.mpr rejected)]

/-- The new customer is returned precisely when its row is accepted and its key fits an
`int`. -/
theorem saveCustomer_iff (given : Customer) :
    (saveCustomer jdbcTemplate resultSet (some given) table).1 =
        .ok (some (table.newRow keys given.firstName given.lastName).customer) ↔
      accepts table.customer (table.newRow keys given.firstName given.lastName) = true ∧
        InRange (keys table.generated).toInt := by
  cases accepted : accepts table.customer (table.newRow keys given.firstName given.lastName) with
  | true =>
      rw [saveCustomer_accepted _ _ accepted]
      have returned := getCustomerById_iff jdbcTemplate resultSet
        (table.newRow keys given.firstName given.lastName) (rowsOf_inserted accepted)
      exact returned.trans (and_iff_right rfl).symm
  | false =>
      rw [saveCustomer_rejected _ _ accepted]
      exact iff_of_false nofun fun both => Bool.false_ne_true both.1

end JdbcTemplateCustomerRepository

section Documented

def springJdbcTemplate (keys : Nat → Int64) : JdbcTemplate keys where
  update sql parameters := fun table =>
    match parameters with
    | [firstName, lastName] =>
        if sql = insertCustomerQuery then
          if accepts table.customer (table.newRow keys firstName lastName) then
            (.ok [keys table.generated], table.inserted keys firstName lastName)
          else (.error .unchecked, { table with generated := table.generated + 1 })
        else (.error .unchecked, table)
    | _ => (.error .unchecked, table)
  queryForObject sql rowMapper id := fun table =>
    if sql = customerByIdQuery then
      match table.rowsOf id with
      | [row] =>
          match rowMapper row with
          | .ok customer => (.ok customer, table)
          | .error _ => (.error .unchecked, table)
      | _ => (.error .unchecked, table)
    else (.error .unchecked, table)
  updated := by
    intro firstName lastName table accepted
    simp [accepted]
  rejected := by
    intro firstName lastName table rejected
    simp [rejected]
  found := by
    intro rowMapper id table row customer alone mapped
    simp [alone, mapped]
  unmapped := by
    intro rowMapper id table row thrown alone mapped
    simp [alone, mapped]
  notOne := by
    intro rowMapper id table notOne
    simp only [if_true]
    split
    · rename_i row alone
      rw [alone] at notOne
      exact absurd rfl notOne
    · rfl

/-- A value that does not fit is refused. -/
def strictResultSet : ResultSet where
  getInt value := if InRange value.toInt then .ok value.toInt32 else .error .sqlException
  fits := fun _ fits => if_pos fits
  overflows := fun _ overflows => Or.inr (if_neg overflows)

end Documented

end SpringExamples.Jdbc
