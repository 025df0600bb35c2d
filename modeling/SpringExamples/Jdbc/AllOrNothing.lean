/-
Whether `RawJdbcCustomerRepository.saveCustomer` is all or nothing.

The calls of JDBC are numbered in the order in which they are made when none of them
breaks: 0 gets the connection, 1 to 5 write the row, 6 to 8 read its key, 9 switches
auto-commit on again, 10 to 17 look the row up, 18 closes the statement of the lookup,
19 the keys, 20 the connection and 21 the statement of the insert.
-/

import SpringExamples.Jdbc.RawSave
import SpringExamples.Jdbc.ThreadConnections

set_option autoImplicit false

namespace SpringExamples.Jdbc

open Prog

def saveOn (keys : Nat → Int64) (fails : Nat → Bool) (table : Table)
    (customer : Option Customer) :
    Except Thrown (Option Customer) × Thread (Faulty Database) :=
  saveCustomer ((h2 keys).withFaults fails) customer
    (newThread { world := Database.atRest table, calls := 0 })

/-- A customer comes back with the one row that was added, or nothing was added. -/
def AllOrNothing (table : Table) (customer : Option Customer)
    (saving : Except Thrown (Option Customer) × Thread (Faulty Database)) : Prop :=
  match saving.1 with
  | .ok (some saved) => ∃ given row, customer = some given ∧
      saving.2.world.world.table.customer = table.customer ++ [row] ∧
      row.firstName = given.firstName ∧ row.lastName = given.lastName ∧ saved = row.customer
  | .ok none => saving.2.world.world.table.customer = table.customer
  | .error _ => saving.2.world.world.table.customer = table.customer

/-- The row is committed by the lookup, and then the lookup or closing the keys breaks. -/
def BreaksAfterCommit (keys : Nat → Int64) (fails : Nat → Bool) (table : Table)
    (customer : Option Customer) : Prop :=
  (∃ given, customer = some given ∧
      accepts table.customer (table.newRow keys given.firstName given.lastName) = true) ∧
    (∀ k < 10, fails k = false) ∧ ((∃ k, 10 ≤ k ∧ k < 18 ∧ fails k = true) ∨ fails 19 = true)

variable {keys : Nat → Int64} {fails : Nat → Bool} {table : Table}

theorem ready_newThread (table : Table) :
    Ready 0 0 (Database.atRest table)
      (newThread { world := Database.atRest table, calls := 0 }) :=
  ⟨⟨rfl, rfl, rfl⟩, rfl⟩

theorem allOrNothing_of_unchanged {customer : Option Customer}
    {saving : Except Thrown (Option Customer) × Thread (Faulty Database)}
    (silent : ∀ saved, saving.1 ≠ .ok (some saved))
    (unchanged : saving.2.world.world.table.customer = table.customer) :
    AllOrNothing table customer saving := by
  unfold AllOrNothing
  split
  · rename_i saved same
    exact absurd same (silent saved)
  · exact unchanged
  · exact unchanged

theorem commits_iff (works : fails 0 = false) (given : Customer) :
    Commits keys fails 1 (Database.atRest table) given ↔
      accepts table.customer (table.newRow keys given.firstName given.lastName) = true ∧
        ∀ k < 10, fails k = false := by
  unfold Commits
  apply and_congr_right
  intro _
  constructor
  · intro later k less
    cases k with
    | zero => exact works
    | succ k =>
        rw [Nat.add_comm k 1]
        exact later k (by omega)
  · intro all k less
    exact all (1 + k) (by omega)

theorem replies_iff :
    Replies fails 1 ↔ ¬((∃ k, 10 ≤ k ∧ k < 18 ∧ fails k = true) ∨ fails 19 = true) := by
  unfold Replies
  rw [not_or]
  constructor
  · intro given
    obtain ⟨reads, closes⟩ := given
    refine ⟨?_, Bool.eq_false_iff.mp closes⟩
    intro broken
    obtain ⟨k, low, high, breaks⟩ := broken
    have works := reads (k - 10) (by omega)
    rw [show 1 + 9 + (k - 10) = k by omega, breaks] at works
    cases works
  · intro given
    obtain ⟨reads, closes⟩ := given
    refine ⟨?_, Bool.eq_false_iff.mpr closes⟩
    intro k less
    exact Bool.eq_false_iff.mpr fun breaks => reads ⟨1 + 9 + k, by omega, by omega, breaks⟩

theorem customer_of_on {thread : Thread (Faulty Database)} {calls' : Nat} {database' : Database}
    {rows : List CustomerRow} (on : On none 0 calls' database' thread)
    (stored : database'.table.customer = rows) : thread.world.world.table.customer = rows := by
  rw [on.world]
  exact stored

theorem breaksAfterCommit_iff (works : fails 0 = false) (given : Customer) :
    BreaksAfterCommit keys fails table (some given) ↔
      Commits keys fails 1 (Database.atRest table) given ∧ ¬Replies fails 1 := by
  rw [commits_iff works given, replies_iff, not_not]
  unfold BreaksAfterCommit
  constructor
  · intro breaks
    obtain ⟨⟨other, same, accepted⟩, worked, broken⟩ := breaks
    cases same
    exact ⟨⟨accepted, worked⟩, broken⟩
  · intro breaks
    obtain ⟨⟨accepted, worked⟩, broken⟩ := breaks
    exact ⟨⟨given, rfl, accepted⟩, worked, broken⟩

/-- The three ways in which a call with a customer and a connection can end. -/
theorem allOrNothing_given {given : Customer} {calls' : Nat} {database' : Database}
    {saving : Except Thrown (Option Customer) × Thread (Faulty Database)}
    (works : fails 0 = false) (returned : ∃ result, saving.1 = .ok result)
    (on : On none 0 calls' database' saving.2)
    (ends : SaveEnds keys fails 0 1 (Database.atRest table) given saving.1 database') :
    AllOrNothing table (some given) saving ↔ ¬BreaksAfterCommit keys fails table (some given) := by
  rw [breaksAfterCommit_iff works given]
  by_cases commits : Commits keys fails 1 (Database.atRest table) given
  · have stored := customer_of_on on (ends.kept commits)
    by_cases replies : Replies fails 1
    · apply iff_of_true _ fun breaks => breaks.2 replies
      unfold AllOrNothing
      rw [ends.answered commits replies]
      exact ⟨given, _, rfl, stored, rfl, rfl, rfl⟩
    · apply iff_of_false _ fun kept => kept ⟨commits, replies⟩
      intro allOrNothing
      obtain ⟨result, same⟩ := returned
      unfold AllOrNothing at allOrNothing
      rw [same] at allOrNothing
      cases result with
      | none =>
          change saving.2.world.world.table.customer = table.customer at allOrNothing
          rw [stored] at allOrNothing
          exact List.cons_ne_nil _ _ (List.append_right_eq_self.mp allOrNothing)
      | some saved => exact ends.unanswered commits replies saved same
  · obtain ⟨unchanged, silent⟩ := ends.lost commits
    apply iff_of_true _ fun breaks => commits breaks.1
    exact allOrNothing_of_unchanged silent (customer_of_on on unchanged)

/-- Saving is all or nothing unless a call breaks between the commit and the return. -/
theorem allOrNothing_iff_no_break_after_commit (keys : Nat → Int64) (fails : Nat → Bool)
    (table : Table) (customer : Option Customer) :
    AllOrNothing table customer (saveOn keys fails table customer) ↔
      ¬BreaksAfterCommit keys fails table customer := by
  cases opens : fails 0 with
  | true =>
      obtain ⟨thrown, calls', on⟩ :=
        saveCustomer_unopened keys fails customer opens _ (ready_newThread table)
      apply iff_of_true
      · apply allOrNothing_of_unchanged
        · intro saved same
          cases thrown.symm.trans same
        · exact customer_of_on on rfl
      · intro breaks
        have works := breaks.2.1 0 (by omega)
        rw [opens] at works
        cases works
  | false =>
      cases customer with
      | none =>
          obtain ⟨silent, _, calls', database', on, untouched, _⟩ :=
            saveCustomer_null keys fails opens _ (ready_newThread table)
          apply iff_of_true
          · exact allOrNothing_of_unchanged silent
              (customer_of_on on (congrArg Table.customer untouched.table))
          · intro breaks
            obtain ⟨⟨given, impossible, _⟩, _⟩ := breaks
            cases impossible
      | some given =>
          obtain ⟨returned, calls', database', on, ends, _⟩ :=
            saveCustomer_opened keys fails given opens rfl _ (ready_newThread table)
          exact allOrNothing_given opens returned on ends

def johnDoe : Customer :=
  { id := none
    firstName := some "John"
    lastName := some "Doe" }

/-- Preparing the statement of the lookup breaks, and the caller is told that nothing was
saved. -/
theorem row_without_customer :
    ¬AllOrNothing { customer := [], generated := 0 } (some johnDoe)
      (saveOn (fun n => Int64.ofNat (n + 1)) (fun call => call == 10)
        { customer := [], generated := 0 } (some johnDoe)) := by
  have ended : (saveOn (fun n => Int64.ofNat (n + 1)) (fun call => call == 10)
      { customer := [], generated := 0 } (some johnDoe)).1 = .ok none := by
    decide +kernel
  have stored : (saveOn (fun n => Int64.ofNat (n + 1)) (fun call => call == 10)
      { customer := [], generated := 0 } (some johnDoe)).2.world.world.table.customer.length =
        1 := by
    decide +kernel
  unfold AllOrNothing
  rw [ended]
  intro unchanged
  rw [unchanged] at stored
  cases stored

end SpringExamples.Jdbc
