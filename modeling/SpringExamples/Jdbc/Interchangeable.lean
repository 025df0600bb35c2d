/-
Whether the two implementations of `CustomerRepository` are interchangeable.

Both are called in the same way, each on its own copy of the table.  Nothing breaks, so
the one on raw JDBC differs from the other only in what it makes of a row that the
database rejects, of an absent id and of an id that does not fit an `int`.
-/

import SpringExamples.Jdbc.JdbcTemplateCustomerRepository
import SpringExamples.Jdbc.RawSave
import SpringExamples.Jdbc.ThreadConnections

set_option autoImplicit false

namespace SpringExamples.Jdbc

open JavaInteger Prog Runs

variable {keys : Nat → Int64}

section Raw

variable {table : Table}

/-- The JDBC driver without an infrastructure failure. -/
def working (keys : Nat → Int64) : Driver (Faulty Database) :=
  (h2 keys).withFaults fun _ => false

/-- Between two calls: no connection is open, and the database holds the table. -/
def Resting (table : Table) (thread : Thread (Faulty Database)) : Prop :=
  ∃ calls database, On none 0 calls database thread ∧ database.table = table ∧
    ∀ connection, database.sessions connection = Session.fresh

theorem fresh_of_others {held : Nat} {database after : Database}
    (fresh : ∀ connection, database.sessions connection = Session.fresh)
    (others : ∀ other, other ≠ held → after.sessions other = database.sessions other)
    (own : after.sessions held = Session.fresh) :
    ∀ connection, after.sessions connection = Session.fresh := by
  intro connection
  by_cases same : connection = held
  · rw [same, own]
  · rw [others connection same, fresh]

theorem saveCustomer_rests (given : Customer) :
    Triple (Resting table) (saveCustomer (working keys) (some given)) fun ended thread =>
      ended = .ok (if accepts table.customer
          (table.newRow keys given.firstName given.lastName) then
        some (table.newRow keys given.firstName given.lastName).customer else none) ∧
      Resting (table.saved keys given) thread := by
  intro thread resting
  obtain ⟨calls, database, on, same, fresh⟩ := resting
  subst same
  obtain ⟨⟨result, returned⟩, calls', database', on', ends, own⟩ :=
    saveCustomer_opened keys (fun _ => false) given rfl (fresh _) thread ⟨on, rfl⟩
  have sessions := fresh_of_others fresh ends.sessions (own fun _ => rfl)
  have generated := ends.generated fun _ => rfl
  unfold Table.saved
  by_cases accepted : accepts database.table.customer
      (database.table.newRow keys given.firstName given.lastName) = true
  · have commits : Commits keys (fun _ => false) (calls + 1) database given :=
      ⟨accepted, fun _ _ => rfl⟩
    rw [if_pos accepted, if_pos accepted]
    refine ⟨ends.answered commits ⟨fun _ _ => rfl, rfl⟩, calls', database', on', ?_, sessions⟩
    exact congrArg₂ Table.mk (ends.kept commits) generated
  · obtain ⟨unchanged, silent⟩ := ends.lost fun commits => accepted commits.1
    rw [if_neg accepted, if_neg accepted]
    refine ⟨?_, calls', database', on', congrArg₂ Table.mk unchanged generated, sessions⟩
    change (saveCustomer (working keys) (some given) thread).1 = _ at returned
    rw [returned]
    cases result with
    | none => rfl
    | some saved => exact absurd returned (silent saved)

theorem saveCustomer_null_rests :
    Triple (Resting table) (saveCustomer (working keys) none) fun ended thread =>
      ended = .error .unchecked ∧ Resting table thread := by
  intro thread resting
  obtain ⟨calls, database, on, same, fresh⟩ := resting
  obtain ⟨_, thrown, calls', database', on', untouched, own⟩ :=
    saveCustomer_null keys (fun _ => false) rfl thread ⟨on, rfl⟩
  exact ⟨thrown fun _ => rfl, calls', database', on', untouched.table.trans same,
    fresh_of_others fresh untouched.sessions (own fun _ => rfl)⟩

theorem getCustomerById_rests (customerId : Int64) :
    Triple (Resting table) (getCustomerById (working keys) customerId) fun ended thread =>
      ended = .ok ((table.rowsOf customerId).map CustomerRow.customer).head? ∧
        Resting table thread := by
  intro thread resting
  obtain ⟨calls, database, on, same, fresh⟩ := resting
  subst same
  obtain ⟨found, calls', database', on', untouched, own⟩ :=
    getCustomerById_ready keys customerId (fun _ => rfl) (fresh _) thread ⟨on, rfl⟩
  exact ⟨found, calls', database', on', untouched.table,
    fresh_of_others fresh untouched.sessions own⟩

end Raw

section Outcomes

/-- The same customer, the same null, or an exception in both. -/
def SameOutcome (first second : Except Thrown (Option Customer)) : Prop :=
  match first, second with
  | .ok saved, .ok other => saved = other
  | .error _, .error _ => True
  | _, _ => False

theorem sameOutcome_ok (result : Option Customer) (ended : Except Thrown (Option Customer)) :
    SameOutcome (.ok result) ended ↔ ended = .ok result := by
  cases ended with
  | ok other =>
      constructor
      · intro same
        exact congrArg _ (Eq.symm same)
      · intro same
        cases same
        rfl
  | error thrown => exact iff_of_false id nofun

end Outcomes

section Calls

variable (keys) (jdbcTemplate : JdbcTemplate keys) (resultSet : ResultSet)

def rawCall : RepositoryCall → Prog Thrown (Thread (Faulty Database)) (Option Customer)
  | .saveCustomer customer => saveCustomer (working keys) customer
  | .getCustomerById customerId => getCustomerById (working keys) customerId

variable {keys}

def templateCall : RepositoryCall → Prog Thrown Table (Option Customer)
  | .saveCustomer customer =>
      JdbcTemplateCustomerRepository.saveCustomer jdbcTemplate resultSet customer
  | .getCustomerById customerId =>
      JdbcTemplateCustomerRepository.getCustomerById jdbcTemplate resultSet customerId

structure Repositories where
  raw : Thread (Faulty Database)
  template : Table

def Repositories.on (table : Table) : Repositories :=
  { raw := newThread { world := Database.atRest table, calls := 0 }
    template := table }

def Repositories.perform (repositories : Repositories) (call : RepositoryCall) : Repositories :=
  { raw := (rawCall keys call repositories.raw).2
    template := (templateCall jdbcTemplate resultSet call repositories.template).2 }

/-- The outcomes are the same, and so are the tables afterwards. -/
def Interchangeable (repositories : Repositories) (call : RepositoryCall) : Prop :=
  SameOutcome (rawCall keys call repositories.raw).1
      (templateCall jdbcTemplate resultSet call repositories.template).1 ∧
    (repositories.perform jdbcTemplate resultSet call).raw.world.world.table =
      (repositories.perform jdbcTemplate resultSet call).template

variable (keys) in
/-- A new row is accepted and an id is found once; and the id fits an `int`. -/
def Ordinary (repositories : Repositories) : RepositoryCall → Prop
  | .saveCustomer none => True
  | .saveCustomer (some given) =>
      accepts repositories.template.customer
          (repositories.template.newRow keys given.firstName given.lastName) = true ∧
        InRange (keys repositories.template.generated).toInt
  | .getCustomerById customerId =>
      (repositories.template.rowsOf customerId).length = 1 ∧ InRange customerId.toInt

theorem table_of_resting {table : Table} {thread : Thread (Faulty Database)}
    (resting : Resting table thread) : thread.world.world.table = table := by
  obtain ⟨calls, database, on, same, _⟩ := resting
  rw [on.world]
  exact same

/-- Whatever the outcomes, the two tables stay the same. -/
theorem perform_rests {repositories : Repositories}
    (resting : Resting repositories.template repositories.raw) (call : RepositoryCall) :
    Resting (repositories.perform jdbcTemplate resultSet call).template
      (repositories.perform jdbcTemplate resultSet call).raw := by
  cases call with
  | saveCustomer customer =>
      cases customer with
      | none => exact (saveCustomer_null_rests _ resting).2
      | some given =>
          have after : Resting (repositories.template.saved keys given) _ :=
            (saveCustomer_rests given _ resting).2
          rw [← JdbcTemplateCustomerRepository.saveCustomer_table jdbcTemplate resultSet] at after
          exact after
  | getCustomerById customerId =>
      have after : Resting repositories.template
          (getCustomerById (working keys) customerId repositories.raw).2 :=
        (getCustomerById_rests customerId _ resting).2
      rw [← JdbcTemplateCustomerRepository.getCustomerById_table jdbcTemplate resultSet
        repositories.template customerId] at after
      exact after

/-- On the side of the template the first row with an id is returned only if there is no
other. -/
theorem getCustomerById_head_iff (table : Table) (customerId : Int64) :
    (JdbcTemplateCustomerRepository.getCustomerById jdbcTemplate resultSet customerId table).1 =
        .ok ((table.rowsOf customerId).map CustomerRow.customer).head? ↔
      (table.rowsOf customerId).length = 1 ∧ InRange customerId.toInt := by
  by_cases one : (table.rowsOf customerId).length = 1
  · obtain ⟨row, alone⟩ := List.length_eq_one_iff.mp one
    have member : row ∈ table.rowsOf customerId := by
      rw [alone]
      exact List.mem_singleton_self row
    have same : row.id = customerId := eq_of_beq (List.mem_filter.mp member).2
    subst same
    rw [and_iff_right one,
      ← JdbcTemplateCustomerRepository.getCustomerById_iff jdbcTemplate resultSet row alone, alone]
    exact Iff.rfl
  · rw [JdbcTemplateCustomerRepository.getCustomerById_notOne _ _ one]
    exact iff_of_false nofun fun both => one both.1

theorem interchangeable_iff_ordinary {repositories : Repositories}
    (resting : Resting repositories.template repositories.raw) (call : RepositoryCall) :
    Interchangeable jdbcTemplate resultSet repositories call ↔
      Ordinary keys repositories call := by
  have tables := table_of_resting (perform_rests jdbcTemplate resultSet resting call)
  unfold Interchangeable
  rw [and_iff_left tables]
  cases call with
  | saveCustomer customer =>
      cases customer with
      | none =>
          have thrown : (saveCustomer (working keys) none repositories.raw).1 =
              .error .unchecked :=
            (saveCustomer_null_rests _ resting).1
          apply iff_of_true _ trivial
          rw [rawCall, thrown]
          trivial
      | some given =>
          rw [rawCall, (saveCustomer_rests given _ resting).1, sameOutcome_ok]
          by_cases accepted : accepts repositories.template.customer
              (repositories.template.newRow keys given.firstName given.lastName) = true
          · rw [if_pos accepted]
            exact JdbcTemplateCustomerRepository.saveCustomer_iff jdbcTemplate resultSet given
          · rw [if_neg accepted]
            apply iff_of_false _ fun ordinary => accepted ordinary.1
            rw [templateCall, JdbcTemplateCustomerRepository.saveCustomer_rejected _ _
              (Bool.eq_false_iff.mpr accepted)]
            exact nofun
  | getCustomerById customerId =>
      rw [rawCall, (getCustomerById_rests customerId _ resting).1, sameOutcome_ok]
      exact getCustomerById_head_iff jdbcTemplate resultSet repositories.template customerId

/-- The repositories are interchangeable in a sequence of calls precisely when each of its
calls is ordinary. -/
theorem interchangeable_iff (table : Table) (calls : List RepositoryCall) :
    Along (total (Repositories.perform jdbcTemplate resultSet))
        (Interchangeable jdbcTemplate resultSet) (Repositories.on table) calls ↔
      Along (total (Repositories.perform jdbcTemplate resultSet)) (Ordinary keys)
        (Repositories.on table) calls := by
  apply along_iff_along _ (fun repositories => Resting repositories.template repositories.raw)
    _ _ _ _ calls
  · exact ⟨0, Database.atRest table, ⟨rfl, rfl, rfl⟩, rfl, fun _ => rfl⟩
  · intro repositories call next resting ordinary moved
    cases moved
    exact perform_rests jdbcTemplate resultSet resting call
  · intro repositories call resting
    exact interchangeable_iff_ordinary jdbcTemplate resultSet resting call

end Calls

/-- An absent customer is null for one of them and an exception for the other. -/
theorem absent_customer_differs :
    ¬Along (total (Repositories.perform
        (springJdbcTemplate fun n => Int64.ofNat (n + 1)) strictResultSet))
      (Interchangeable (springJdbcTemplate fun n => Int64.ofNat (n + 1)) strictResultSet)
      (Repositories.on { customer := [], generated := 0 }) [.getCustomerById 1] := by
  intro given
  obtain ⟨⟨same, _⟩, _⟩ := given
  have raw : (rawCall (fun n => Int64.ofNat (n + 1)) (.getCustomerById 1)
      (Repositories.on { customer := [], generated := 0 }).raw).1 = .ok none := by
    decide +kernel
  have template : (templateCall (springJdbcTemplate fun n => Int64.ofNat (n + 1))
      strictResultSet (.getCustomerById 1)
      (Repositories.on { customer := [], generated := 0 }).template).1 =
        .error .unchecked := by
    decide +kernel
  rw [raw, template] at same
  exact same

end SpringExamples.Jdbc
