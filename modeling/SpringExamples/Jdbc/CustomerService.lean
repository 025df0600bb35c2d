/-
`JdbcCustomerService` over `JdbcTemplateCustomerRepository`.

Every method is a transaction.  Keys are 64 bits wide, and so is the id of a customer,
but the repository reads the column of the id as an `int`.
-/

import Mathlib.Data.List.Infix
import SpringExamples.Jdbc.JdbcTemplateCustomerRepository

set_option autoImplicit false

namespace SpringExamples.Jdbc

open JavaInteger

/-- An unchecked exception takes the new rows back; the keys stay used. -/
def transactional {Result : Type} (program : Prog Thrown Table Result) :
    Prog Thrown Table Result := fun table =>
  match program table with
  | (.error .unchecked, after) =>
      (.error .unchecked, { after with customer := table.customer })
  | ended => ended

namespace JdbcCustomerService

variable {keys : Nat → Int64} (jdbcTemplate : JdbcTemplate keys) (resultSet : ResultSet)

def getCustomerById (id : Int64) : Prog Thrown Table (Option Customer) :=
  transactional (JdbcTemplateCustomerRepository.getCustomerById jdbcTemplate resultSet id)

def createCustomer (fn ln : Option String) : Prog Thrown Table (Option Customer) :=
  transactional (JdbcTemplateCustomerRepository.saveCustomer jdbcTemplate resultSet
    (some { id := none, firstName := fn, lastName := ln }))

section Calls

variable {table : Table} {fn ln : Option String}

theorem transactional_ended {Result : Type} (program : Prog Thrown Table Result) :
    (transactional program table).1 = (program table).1 := by
  unfold transactional
  split
  · rename_i same
    rw [same]
  · rfl

theorem transactional_of_ok {Result : Type} {program : Prog Thrown Table Result}
    {result : Result} (returned : (program table).1 = .ok result) :
    (transactional program table).2 = (program table).2 := by
  unfold transactional
  split
  · rename_i same
    rw [same] at returned
    cases returned
  · rfl

theorem transactional_generated {Result : Type} (program : Prog Thrown Table Result) :
    (transactional program table).2.generated = (program table).2.generated := by
  unfold transactional
  split
  · rename_i same
    rw [same]
  · rfl

theorem createCustomer_iff :
    (createCustomer jdbcTemplate resultSet fn ln table).1 =
        .ok (some (table.newRow keys fn ln).customer) ↔
      accepts table.customer (table.newRow keys fn ln) = true ∧
        InRange (keys table.generated).toInt := by
  unfold createCustomer
  rw [transactional_ended]
  exact JdbcTemplateCustomerRepository.saveCustomer_iff jdbcTemplate resultSet _

variable (table fn ln) in
theorem createCustomer_generated :
    (createCustomer jdbcTemplate resultSet fn ln table).2.generated = table.generated + 1 := by
  unfold createCustomer
  rw [transactional_generated, JdbcTemplateCustomerRepository.saveCustomer_table, Table.saved]
  split
  · rfl
  · rfl

/-- The only id that a call can add is the one that is generated for it. -/
theorem mem_createCustomer {row : CustomerRow}
    (member : row ∈ (createCustomer jdbcTemplate resultSet fn ln table).2.customer) :
    row ∈ table.customer ∨ row.id = keys table.generated := by
  have within : row ∈ table.customer ∨ row ∈ (table.saved keys
      { id := none, firstName := fn, lastName := ln }).customer := by
    rw [← JdbcTemplateCustomerRepository.saveCustomer_table jdbcTemplate resultSet]
    unfold createCustomer transactional at member
    split at member
    · exact Or.inl member
    · exact Or.inr member
  rcases within with old | saved
  · exact Or.inl old
  · unfold Table.saved at saved
    split at saved
    · rcases List.mem_append.mp saved with old | new
      · exact Or.inl old
      · rw [List.mem_singleton.mp new]
        exact Or.inr rfl
    · exact Or.inl saved

theorem createCustomer_inserted
    (accepted : accepts table.customer (table.newRow keys fn ln) = true)
    (fits : InRange (keys table.generated).toInt) :
    (createCustomer jdbcTemplate resultSet fn ln table).2 = table.inserted keys fn ln := by
  have returned := (createCustomer_iff jdbcTemplate resultSet).mpr ⟨accepted, fits⟩
  unfold createCustomer at returned ⊢
  rw [transactional_ended] at returned
  rw [transactional_of_ok returned, JdbcTemplateCustomerRepository.saveCustomer_table,
    Table.saved, if_pos accepted]

end Calls

/-- The table after one customer was created for each pair of names. -/
def createAll (table : Table) (names : List (String × String)) : Table :=
  names.foldl (fun table name =>
    (createCustomer jdbcTemplate resultSet (some name.1) (some name.2) table).2) table

/-- Each call returns its customer under the key that is generated for it, and from then on
the customer is found under that key. -/
def ReadBack (table : Table) (names : List (String × String)) : Prop :=
  ∀ earlier fn ln later, names = earlier ++ (fn, ln) :: later →
    (createCustomer jdbcTemplate resultSet (some fn) (some ln)
        (createAll jdbcTemplate resultSet table earlier)).1 =
      .ok (some ⟨some (keys (table.generated + earlier.length)), some fn, some ln⟩) ∧
    ∀ between, between <+: later →
      (getCustomerById jdbcTemplate resultSet (keys (table.generated + earlier.length))
          (createAll jdbcTemplate resultSet table (earlier ++ (fn, ln) :: between))).1 =
        .ok (some ⟨some (keys (table.generated + earlier.length)), some fn, some ln⟩)

variable (keys) in
/-- The keys that are generated for so many calls. -/
structure FreshKeys (table : Table) (count : Nat) : Prop where
  positive : ∀ i < count, 0 < keys (table.generated + i)
  increasing : ∀ i j, i < j → j < count →
    keys (table.generated + i) < keys (table.generated + j)
  unused : ∀ row ∈ table.customer, ∀ i < count, row.id ≠ keys (table.generated + i)

variable (keys) in
/-- Every key fits an `int`, and every name its column. -/
structure Fits (table : Table) (names : List (String × String)) : Prop where
  keys : ∀ i < names.length, (keys (table.generated + i)).toInt < 2 ^ 31
  names : ∀ name ∈ names, fitsColumn (some name.1) = true ∧ fitsColumn (some name.2) = true

section Sequences

variable {table : Table} {names : List (String × String)}

theorem createAll_snoc (names : List (String × String)) (name : String × String) :
    createAll jdbcTemplate resultSet table (names ++ [name]) =
      (createCustomer jdbcTemplate resultSet (some name.1) (some name.2)
        (createAll jdbcTemplate resultSet table names)).2 := by
  unfold createAll
  rw [List.foldl_append]
  rfl

variable (table) in
theorem createAll_generated (names : List (String × String)) :
    (createAll jdbcTemplate resultSet table names).generated =
      table.generated + names.length := by
  induction names using List.reverseRecOn with
  | nil => rfl
  | append_singleton names name ih =>
      rw [createAll_snoc, createCustomer_generated, ih, List.length_append]
      rfl

theorem id_of_mem_createAll {row : CustomerRow}
    (member : row ∈ (createAll jdbcTemplate resultSet table names).customer) :
    row ∈ table.customer ∨ ∃ i < names.length, row.id = keys (table.generated + i) := by
  induction names using List.reverseRecOn with
  | nil => exact Or.inl member
  | append_singleton names name ih =>
      rw [createAll_snoc] at member
      rw [List.length_append]
      rcases mem_createCustomer jdbcTemplate resultSet member with old | new
      · rcases ih old with initial | ⟨i, less, same⟩
        · exact Or.inl initial
        · exact Or.inr ⟨i, Nat.lt_succ_of_lt less, same⟩
      · rw [createAll_generated] at new
        exact Or.inr ⟨names.length, Nat.lt_succ_self names.length, new⟩

/-- A new key is not the id of a row, so names that fit are accepted. -/
theorem accepts_next {count : Nat} {fn ln : String} (fresh : FreshKeys keys table count)
    (less : names.length < count)
    (fits : fitsColumn (some fn) = true ∧ fitsColumn (some ln) = true) :
    accepts (createAll jdbcTemplate resultSet table names).customer
      ((createAll jdbcTemplate resultSet table names).newRow keys (some fn) (some ln)) =
        true := by
  unfold accepts Table.newRow
  rw [createAll_generated, fits.1, fits.2, Bool.and_self, Bool.true_and, List.all_eq_true]
  intro row member
  rw [bne_iff_ne]
  rcases id_of_mem_createAll jdbcTemplate resultSet member with initial | ⟨i, earlier, same⟩
  · exact fresh.unused row initial names.length less
  · rw [same]
    exact Int64.ne_of_lt (fresh.increasing i names.length earlier less)

theorem inRange_of_fits (fresh : FreshKeys keys table names.length)
    (fits : Fits keys table names) {i : Nat} (less : i < names.length) :
    InRange (keys (table.generated + i)).toInt := by
  have positive := Int64.lt_iff_toInt_lt.mp (fresh.positive i less)
  rw [Int64.toInt_zero] at positive
  exact ⟨by omega, fits.keys i less⟩

variable {earlier later : List (String × String)} {fn ln : String}

theorem fits_at (fits : Fits keys table names) (split : names = earlier ++ (fn, ln) :: later) :
    fitsColumn (some fn) = true ∧ fitsColumn (some ln) = true := by
  apply fits.names (fn, ln)
  rw [split]
  exact List.mem_append_right earlier List.mem_cons_self

theorem length_lt_of_split (split : names = earlier ++ (fn, ln) :: later) :
    earlier.length < names.length := by
  rw [split, List.length_append, List.length_cons]
  omega

/-- Each call inserts its row. -/
theorem createAll_inserted (fresh : FreshKeys keys table names.length)
    (fits : Fits keys table names) (split : names = earlier ++ (fn, ln) :: later) :
    createAll jdbcTemplate resultSet table (earlier ++ [(fn, ln)]) =
      (createAll jdbcTemplate resultSet table earlier).inserted keys (some fn) (some ln) := by
  have less := length_lt_of_split split
  rw [createAll_snoc]
  apply createCustomer_inserted _ _ (accepts_next jdbcTemplate resultSet fresh less
    (fits_at fits split))
  rw [createAll_generated]
  exact inRange_of_fits fresh fits less

theorem rowsOf_inserted_ne {firstName lastName : Option String} {id : Int64}
    (different : keys table.generated ≠ id) :
    (table.inserted keys firstName lastName).rowsOf id = table.rowsOf id := by
  unfold Table.rowsOf Table.inserted
  rw [List.filter_append, List.filter_singleton, Table.newRow, beq_false_of_ne different]
  exact List.append_nil _

/-- The row stays the only one with its id. -/
theorem rowsOf_createAll (fresh : FreshKeys keys table names.length)
    (fits : Fits keys table names) {between : List (String × String)}
    (split : names = earlier ++ (fn, ln) :: (between ++ later)) :
    (createAll jdbcTemplate resultSet table (earlier ++ (fn, ln) :: between)).rowsOf
        (keys (table.generated + earlier.length)) =
      [⟨keys (table.generated + earlier.length), some fn, some ln⟩] := by
  induction between using List.reverseRecOn generalizing later with
  | nil =>
      have less := length_lt_of_split split
      have alone := JdbcTemplateCustomerRepository.rowsOf_inserted
        (accepts_next jdbcTemplate resultSet fresh less (fits_at fits split))
      rw [createAll_inserted _ _ fresh fits split]
      unfold Table.newRow at alone
      rw [createAll_generated] at alone
      exact alone
  | append_singleton between name ih =>
      obtain ⟨nextFn, nextLn⟩ := name
      have next : names = (earlier ++ (fn, ln) :: between) ++ (nextFn, nextLn) :: later := by
        rw [split]
        simp
      have longer : earlier.length < (earlier ++ (fn, ln) :: between).length := by
        rw [List.length_append, List.length_cons]
        omega
      have different := fresh.increasing _ _ longer (length_lt_of_split next)
      rw [← List.cons_append, ← List.append_assoc, createAll_inserted _ _ fresh fits next,
        rowsOf_inserted_ne]
      · exact ih (next.trans (List.append_assoc _ _ _))
      · rw [createAll_generated]
        exact (Int64.ne_of_lt different).symm

theorem readBack_of_fits (fresh : FreshKeys keys table names.length)
    (fits : Fits keys table names) : ReadBack jdbcTemplate resultSet table names := by
  intro earlier fn ln later split
  have less := length_lt_of_split split
  have narrow := inRange_of_fits fresh fits less
  have accepted := accepts_next jdbcTemplate resultSet fresh less (fits_at fits split)
  constructor
  · rw [← createAll_generated jdbcTemplate resultSet] at narrow
    have returned := (createCustomer_iff jdbcTemplate resultSet).mpr ⟨accepted, narrow⟩
    unfold Table.newRow at returned
    rw [createAll_generated] at returned
    exact returned
  · intro between initial
    obtain ⟨rest, same⟩ := initial
    rw [← same] at split
    unfold getCustomerById
    rw [transactional_ended]
    have alone := rowsOf_createAll jdbcTemplate resultSet fresh fits split
    exact (JdbcTemplateCustomerRepository.getCustomerById_iff jdbcTemplate resultSet
      ⟨_, some fn, some ln⟩ alone).mpr narrow

theorem fits_of_accepts {rows : List CustomerRow} {row : CustomerRow}
    (accepted : accepts rows row = true) :
    fitsColumn row.firstName = true ∧ fitsColumn row.lastName = true := by
  unfold accepts at accepted
  rw [Bool.and_eq_true, Bool.and_eq_true] at accepted
  exact accepted.1

/-- A call that returns its customer has a key and names that fit. -/
theorem fits_of_readBack (readBack : ReadBack jdbcTemplate resultSet table names)
    (split : names = earlier ++ (fn, ln) :: later) :
    InRange (keys (table.generated + earlier.length)).toInt ∧
      fitsColumn (some fn) = true ∧ fitsColumn (some ln) = true := by
  have returned := (readBack earlier fn ln later split).1
  rw [← createAll_generated jdbcTemplate resultSet table earlier] at returned ⊢
  obtain ⟨accepted, narrow⟩ := (createCustomer_iff jdbcTemplate resultSet).mp returned
  exact ⟨narrow, fits_of_accepts accepted⟩

/-- The customers that are created can be read back precisely when their keys fit an `int`
and their names the columns. -/
theorem readBack_iff_fits (table : Table) (names : List (String × String))
    (fresh : FreshKeys keys table names.length) :
    ReadBack jdbcTemplate resultSet table names ↔ Fits keys table names := by
  constructor
  · intro readBack
    constructor
    · intro i less
      have split : names = names.take i ++ names[i] :: names.drop (i + 1) := by simp
      have narrow := (fits_of_readBack _ _ readBack split).1
      rw [List.length_take_of_le (Nat.le_of_lt less)] at narrow
      exact narrow.2
    · intro name member
      obtain ⟨earlier, later, split⟩ := List.append_of_mem member
      exact (fits_of_readBack _ _ readBack split).2
  · exact readBack_of_fits jdbcTemplate resultSet fresh

theorem john_doe_read_back :
    ReadBack (springJdbcTemplate fun n => Int64.ofNat (n + 1)) strictResultSet
      { customer := [], generated := 0 } [("John", "Doe"), ("Jane", "Doe")] := by
  apply (readBack_iff_fits _ _ _ _ _).mpr
  · exact ⟨by decide, by decide⟩
  · refine ⟨by decide, ?_, nofun⟩
    intro i j less within
    change j < 2 at within
    have first : i = 0 := by omega
    have second : j = 1 := by omega
    subst first second
    decide

/-- The first key that an `int` does not hold. -/
theorem wide_key_not_read_back :
    ¬ReadBack (springJdbcTemplate fun n => Int64.ofNat (n + 2 ^ 31)) strictResultSet
      { customer := [], generated := 0 } [("John", "Doe")] := by
  intro readBack
  have returned := (readBack [] "John" "Doe" [] rfl).1
  have thrown : (createCustomer (springJdbcTemplate fun n => Int64.ofNat (n + 2 ^ 31))
      strictResultSet (some "John") (some "Doe") { customer := [], generated := 0 }).1 =
        .error .unchecked := by
    decide +kernel
  cases thrown.symm.trans returned

end Sequences

end JdbcCustomerService

end SpringExamples.Jdbc
