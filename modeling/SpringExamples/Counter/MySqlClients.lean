/-
Concurrent clients of one MySQL table.

Every method of `MySqlCounter` is a transaction with one statement.  The upsert locks the
row of its name until the transaction ends, and the select reads the row as last committed,
so the clients are an instance of transactions under row locks: what an update or a query
makes of its row is what the counter makes of a table that holds this row.
-/

import SpringExamples.Foundation.RowLocks
import SpringExamples.Counter.MySqlCounter

set_option autoImplicit false

namespace SpringExamples.Counter.MySqlClients

open MySqlCounter RowLocks Runs

abbrev Answer := Except CounterException Int32

def statements : Statements String Int Operation String Answer where
  updated := Operation.vName
  apply := fun operation row => perform (fun _ => row) operation operation.vName
  queried := id
  answer := fun vName row => getCount (fun _ => row) vName

/-- A call of `increment` or `decrement`, or of `getCount`. -/
abbrev Call := Access Operation String

abbrev Connections (Index : Type) := Clients String Int Index Operation String Answer

variable {Index : Type}

def operations (history : List (Entry Index Operation String Answer)) : List Operation :=
  history.filterMap fun entry =>
    match entry with
    | .wrote _ operation => some operation
    | .answered _ _ _ => none

theorem after_wrote (table : Table) (client : Index) (operation : Operation) :
    Entry.after statements table (.wrote client operation) = perform table operation := by
  funext name
  by_cases same : name = operation.vName
  · subst same
    refine (Function.update_self _ _ _).trans ?_
    change perform (fun _ => table operation.vName) operation operation.vName = _
    rw [perform_same, perform_same]
  · rw [perform_other table operation same]
    exact Function.update_of_ne same _ _

theorem committed_of_replays {first last : Table}
    {history : List (Entry Index Operation String Answer)}
    (replays : Replays statements first history last) :
    last = performAll first (operations history) := by
  induction history generalizing first with
  | nil => exact replays
  | cons entry rest ih =>
      obtain ⟨_, later⟩ := replays
      have same := ih later
      cases entry with
      | wrote client operation =>
          rw [after_wrote] at same
          exact same
      | answered client vName given => exact same

theorem answer_of_replays {first last : Table}
    {before later : List (Entry Index Operation String Answer)} {client : Index}
    {vName : String} {given : Answer}
    (replays : Replays statements first (before ++ .answered client vName given :: later) last) :
    given = getCount (performAll first (operations before)) vName := by
  obtain ⟨middle, until_then, onwards⟩ := replays_append replays
  rw [← committed_of_replays until_then]
  exact onwards.1

def updates (calls : List Call) : List Operation :=
  calls.filterMap fun call =>
    match call with
    | .update operation => some operation
    | .query _ => none

section Interleaving

variable [DecidableEq Index]

/-- The operations that took effect are those of the clients, each counted at its own client. -/
theorem tally_operations [Fintype Index] (history : List (Entry Index Operation String Answer))
    (key : String) :
    tally (operations history) key =
      ∑ index, tally (updates (effective history index)) key := by
  induction history with
  | nil => exact Finset.sum_const_zero.symm
  | cons entry rest ih =>
      cases entry with
      | answered client vName given =>
          have same : ∀ index, updates (effective (.answered client vName given :: rest) index) =
              updates (effective rest index) := by
            intro index
            by_cases own : client = index
            · simp only [effective, updates, Entry.accessOf, List.filterMap_cons, own, if_true]
            · simp only [effective, Entry.accessOf, List.filterMap_cons, own, if_false]
          simp only [same]
          exact ih
      | wrote client operation =>
          have counted : ∀ index,
              tally (updates (effective (.wrote client operation :: rest) index)) key =
                (if client = index then operation.deltaOn key else 0) +
                  tally (updates (effective rest index)) key := by
            intro index
            by_cases own : client = index
            · simp only [effective, updates, Entry.accessOf, List.filterMap_cons, own, if_true,
                tally_cons]
            · simp only [effective, Entry.accessOf, List.filterMap_cons, own, if_false, zero_add]
          simp only [counted, Finset.sum_add_distrib, Finset.sum_ite_eq, Finset.mem_univ, if_true]
          rw [← ih]
          exact tally_cons operation (operations rest) key

/-- The calls of concurrent clients take effect one after another: the table is what the
operations in the history make of the first one, every count read is the count at its place in
the history, and each client's calls stand there in the order of its program. -/
theorem calls_take_effect_in_order (initial : Table) (programs : Index → List Call)
    (schedule : List (Index × Choice)) (last : Connections Index)
    (ran : run (transactionStep statements) (start initial programs) schedule = some last) :
    last.shared.committed = performAll initial (operations last.shared.history) ∧
      (∀ before later client vName given,
        last.shared.history = before ++ .answered client vName given :: later →
          given = getCount (performAll initial (operations before)) vName) ∧
      ∀ index, (effective last.shared.history index).Sublist (programs index) := by
  have replays := replays_run ran
  refine ⟨committed_of_replays replays, ?_, ?_⟩
  · intro before later client vName given split
    rw [split] at replays
    exact answer_of_replays replays
  · intro index
    obtain ⟨ordered, _⟩ := itinerary_run ran index
    exact (List.sublist_append_left _ _).trans ordered

/-- Two clients on one name: the second waits for the row, is rolled back, and then reads what the
first has counted. -/
theorem two_clients_in_order :
    ∃ last : Connections (Fin 2),
      run (transactionStep statements)
          (start Table.empty fun _ => [.update (.increment "page"), .query "page"])
          [(0, .proceed), (1, .proceed), (0, .proceed), (0, .proceed), (1, .proceed),
            (1, .rollBack), (1, .proceed), (1, .proceed)] = some last ∧
        (∃ given, last.shared.history =
            [.wrote 0 (.increment "page")] ++ .answered 1 "page" given :: [] ∧
          given = getCount (performAll Table.empty [.increment "page"]) "page") ∧
        last.shared.committed = performAll Table.empty [.increment "page"] := by
  obtain ⟨last, ran, history⟩ := exists_run_of_any (transactionStep statements)
    (start Table.empty fun _ => [.update (.increment "page"), .query "page"] :
      Connections (Fin 2))
    [(0, .proceed), (1, .proceed), (0, .proceed), (0, .proceed), (1, .proceed),
      (1, .rollBack), (1, .proceed), (1, .proceed)]
    (fun last => last.shared.history =
      [.wrote 0 (.increment "page")] ++ .answered 1 "page" (.ok 1) :: []) (by decide)
  obtain ⟨committed, answered, _⟩ := calls_take_effect_in_order _ _ _ last ran
  refine ⟨last, ran, ⟨.ok 1, history, answered _ _ _ _ _ history⟩, ?_⟩
  rw [history] at committed
  exact committed

/-- No client waits for ever, and if no transaction is rolled back no call is lost. -/
theorem no_lost_call [Fintype Index] (initial : Table) (programs : Index → List Call)
    (schedule : List (Index × Choice)) (last : Connections Index)
    (ran : run (transactionStep statements) (start initial programs) schedule = some last) :
    (∃ rest done, (∀ label ∈ rest, label.2 = .proceed) ∧
        run (transactionStep statements) last rest = some done ∧
          ∀ index, (done.locals index).Finished) ∧
      ((∀ label ∈ schedule, label.2 = .proceed) → (∀ index, (last.locals index).Finished) →
        ∀ key, last.shared.committed key =
          match initial key with
          | some val => some (val + ∑ index, tally (updates (programs index)) key)
          | none => (firstOn (operations last.shared.history) key).map fun first =>
              ∑ index, tally (updates (programs index)) key + shortfall first) := by
  constructor
  · exact finishes (run_invariant (transactionStep statements) (Isolated statements initial)
      (fun clients label next holds moved => isolated_step holds moved)
      (isolated_start initial programs) ran)
  · intro proceeding done key
    have complete : ∀ index, effective last.shared.history index = programs index := by
      intro index
      have whole := (itinerary_run ran index).2 proceeding
      obtain ⟨noAccess, outside⟩ := done index
      unfold itinerary at whole
      rw [noAccess, outside] at whole
      exact (List.append_nil _).symm.trans whole
    have row := congrFun (committed_of_replays (replays_run ran)) key
    rw [performAll_row, tally_operations] at row
    simp only [complete] at row
    exact row

/-- Two increments of a new name, neither of them lost. -/
theorem two_clients_count :
    ∃ last : Connections (Fin 2),
      run (transactionStep statements) (start Table.empty fun _ => [.update (.increment "page")])
          [(0, .proceed), (1, .proceed), (0, .proceed), (0, .proceed), (1, .proceed),
            (1, .proceed)] = some last ∧
        last.shared.committed "page" = some 2 := by
  obtain ⟨last, ran, done⟩ := exists_run_of_any (transactionStep statements)
    (start Table.empty fun _ => [.update (.increment "page")] : Connections (Fin 2))
    [(0, .proceed), (1, .proceed), (0, .proceed), (0, .proceed), (1, .proceed), (1, .proceed)]
    (fun last => (∀ index, last.locals index = ⟨index, [], .outside⟩) ∧
      firstOn (operations last.shared.history) "page" = some (.increment "page")) (by decide)
  obtain ⟨finished, first⟩ := done
  have counted := (no_lost_call Table.empty (fun _ => [.update (.increment "page")]) _ last
    ran).2 (by decide) (fun index => by rw [finished index]; exact ⟨rfl, rfl⟩) "page"
  refine ⟨last, ran, counted.trans ?_⟩
  rw [first]
  rfl

end Interleaving

end SpringExamples.Counter.MySqlClients
