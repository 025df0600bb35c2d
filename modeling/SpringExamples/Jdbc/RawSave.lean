/-
What `RawJdbcCustomerRepository.saveCustomer` does to the database.

The new row is written on a connection without auto-commit, and it is the lookup behind
the insert that switches auto-commit on again.  From there on the row is committed, and
no exception takes it back; before, every exception does.
-/

import SpringExamples.Jdbc.RawExecution

set_option autoImplicit false

namespace SpringExamples.Jdbc

open Prog

variable {keys : Nat → Int64} {fails : Nat → Bool} {connection : Option Nat} {depth : Int}
  {locals : Locals} {calls held : Nat} {database : Database}

section Writing

variable (keys) in
def Database.savedRow (database : Database) (given : Customer) : CustomerRow :=
  database.table.newRow keys given.firstName given.lastName

/-- The statement of the insert, with its parameters set. -/
def Database.insertion (database : Database) (held : Nat) (given : Customer) : Database :=
  let switched := database.setAutoCommit held false
  let prepared := switched.prepare held insertSql true
  (prepared.setString switched.prepared 1 given.firstName).setString switched.prepared 2
    given.lastName

variable (keys) in
/-- The database once the new row is written and not yet committed. -/
def Database.written (database : Database) (held : Nat) (given : Customer) : Database :=
  ((database.insertion held given).draw.write held (database.savedRow keys given)).edit
    database.prepared fun prepared => { prepared with keys := [(database.savedRow keys given).id] }

theorem insertion_table (given : Customer) :
    (database.insertion held given).table = database.table := rfl

theorem insertion_sessions (given : Customer) :
    (database.insertion held given).sessions = Function.update database.sessions held
      { database.sessions held with autoCommit := false } := rfl

theorem insertion_visible (given : Customer) (fresh : database.sessions held = Session.fresh) :
    (database.insertion held given).visible held = database.table.customer := by
  unfold Database.visible
  rw [insertion_sessions, Function.update_self, fresh]
  exact List.append_nil _

variable (keys) in
/-- The update is rejected, or it leaves the new row on the connection. -/
theorem executeUpdate_insertion (given : Customer)
    (fresh : database.sessions held = Session.fresh) :
    (database.insertion held given).executeUpdate keys database.prepared =
      if accepts database.table.customer (database.savedRow keys given) then
        (.ok 1, database.written keys held given)
      else (.error .sqlException, (database.insertion held given).draw) := by
  have inserted : (database.insertion held given).executeUpdate keys database.prepared =
      (database.insertion held given).insert keys database.prepared given.firstName
        given.lastName := by
    simp [Database.executeUpdate, Database.insertion, Database.setString, Database.edit,
      Database.prepare, Database.setAutoCommit, Database.switch]
  have owner : ((database.insertion held given).statements database.prepared).connection =
      held := by
    simp [Database.insertion, Database.setString, Database.edit, Database.prepare,
      Database.setAutoCommit, Database.switch]
  rw [inserted]
  unfold Database.insert
  dsimp only
  rw [owner, insertion_visible given fresh]
  rfl

theorem written_table (given : Customer) :
    (database.written keys held given).table =
      { database.table with generated := database.table.generated + 1 } := by
  unfold Database.written Database.write
  simp [insertion_sessions, insertion_table, Database.edit, Database.draw]

theorem written_sessions (given : Customer) (fresh : database.sessions held = Session.fresh) :
    (database.written keys held given).sessions = Function.update database.sessions held
      { autoCommit := false, uncommitted := [database.savedRow keys given] } := by
  unfold Database.written Database.write
  simp [insertion_sessions, Database.edit, Database.draw, fresh, Session.fresh]

theorem written_keys (given : Customer) :
    (database.written keys held given).getGeneratedKeys database.prepared =
      some [(database.savedRow keys given).id] := by
  unfold Database.written Database.write
  simp [Database.getGeneratedKeys, Database.edit, Database.draw, Database.insertion,
    Database.setString, Database.prepare, Database.setAutoCommit, Database.switch]

theorem switched_sessions (given : Customer) (fresh : database.sessions held = Session.fresh) :
    ((database.written keys held given).setAutoCommit held true).sessions =
      database.sessions := by
  unfold Database.setAutoCommit Database.commit Database.switch
  simp [written_sessions given fresh]
  exact fresh.symm

theorem switched_table (given : Customer) (fresh : database.sessions held = Session.fresh) :
    ((database.written keys held given).setAutoCommit held true).table =
      { customer := database.table.customer ++ [database.savedRow keys given]
        generated := database.table.generated + 1 } := by
  unfold Database.setAutoCommit Database.commit Database.switch
  simp [written_sessions given fresh, written_table]

/-- The lookup by the new key finds the new row alone. -/
theorem switched_visible (given : Customer) (fresh : database.sessions held = Session.fresh)
    (accepted : accepts database.table.customer (database.savedRow keys given) = true) :
    ((((database.written keys held given).setAutoCommit held true).visible held).filter
      fun row => row.id == (database.savedRow keys given).id) =
        [database.savedRow keys given] := by
  unfold Database.visible
  rw [switched_table given fresh, switched_sessions given fresh, fresh]
  change (database.table.customer ++ [database.savedRow keys given] ++ []).filter _ = _
  rw [List.append_nil, List.filter_append, accepts_free accepted, List.nil_append,
    List.filter_singleton, beq_self_eq_true]
  rfl

end Writing

section Body

/-- The row is accepted, and every call up to the switch back to auto-commit works. -/
def Commits (keys : Nat → Int64) (fails : Nat → Bool) (calls : Nat) (database : Database)
    (given : Customer) : Prop :=
  accepts database.table.customer (database.savedRow keys given) = true ∧
    ∀ k < 9, fails (calls + k) = false

/-- Every call that reads the row back works, and so does closing the generated keys. -/
def Replies (fails : Nat → Bool) (calls : Nat) : Prop :=
  (∀ k < 8, fails (calls + 9 + k) = false) ∧ fails (calls + 18) = false

structure SaveEnds (keys : Nat → Int64) (fails : Nat → Bool) (held calls : Nat)
    (database : Database) (given : Customer) (ended : Except Thrown (Option Customer))
    (after : Database) : Prop where
  lost : ¬Commits keys fails calls database given →
    after.table.customer = database.table.customer ∧ ∀ saved, ended ≠ .ok (some saved)
  kept : Commits keys fails calls database given →
    after.table.customer = database.table.customer ++ [database.savedRow keys given]
  answered : Commits keys fails calls database given → Replies fails calls →
    ended = .ok (some (database.savedRow keys given).customer)
  unanswered : Commits keys fails calls database given → ¬Replies fails calls →
    ∀ saved, ended ≠ .ok (some saved)
  checked : ended ≠ .error .unchecked
  generated : (∀ k, fails k = false) →
    after.table.generated = database.table.generated + 1
  sessions : ∀ other, other ≠ held → after.sessions other = database.sessions other

variable {given : Customer}

theorem worked_succ {count : Nat} (worked : ∀ k < count, fails (calls + k) = false)
    (works : fails (calls + count) = false) : ∀ k < count + 1, fails (calls + k) = false := by
  intro k less
  rcases Nat.lt_succ_iff_lt_or_eq.mp less with earlier | same
  · exact worked k earlier
  · rw [same]
    exact works

theorem not_commits_of_break {k : Nat} (early : k < 9) (breaks : fails (calls + k) = true) :
    ¬Commits keys fails calls database given := by
  intro commits
  have works := commits.2 k early
  rw [breaks] at works
  cases works

theorem saveEnds_of_loss {ended : Except Thrown (Option Customer)} {after : Database}
    (lost : ¬Commits keys fails calls database given)
    (silent : ∀ saved, ended ≠ .ok (some saved)) (checked : ended ≠ .error .unchecked)
    (customer : after.table.customer = database.table.customer)
    (generated : (∀ k, fails k = false) →
      after.table.generated = database.table.generated + 1)
    (sessions : ∀ other, other ≠ held → after.sessions other = database.sessions other) :
    SaveEnds keys fails held calls database given ended after where
  lost := fun _ => ⟨customer, silent⟩
  kept := fun commits => absurd commits lost
  answered := fun commits => absurd commits lost
  unanswered := fun commits => absurd commits lost
  checked := checked
  generated := generated
  sessions := sessions

/-- A call that breaks in time keeps the row from being committed. -/
theorem saveEnds_of_break {k : Nat} {ended : Except Thrown (Option Customer)} {after : Database}
    (early : k < 9) (breaks : fails (calls + k) = true)
    (silent : ∀ saved, ended ≠ .ok (some saved)) (checked : ended ≠ .error .unchecked)
    (customer : after.table.customer = database.table.customer)
    (sessions : ∀ other, other ≠ held → after.sessions other = database.sessions other) :
    SaveEnds keys fails held calls database given ended after := by
  apply saveEnds_of_loss (not_commits_of_break early breaks) silent checked customer _ sessions
  intro none
  rw [none] at breaks
  cases breaks

/-- Once the row is committed, what is left to say is whether the caller learns of it. -/
theorem saveEnds_of_commit {ended : Except Thrown (Option Customer)} {after : Database}
    (fresh : database.sessions held = Session.fresh)
    (commits : Commits keys fails calls database given)
    (table : after.table = ((database.written keys held given).setAutoCommit held true).table)
    (sessions : after.sessions =
      ((database.written keys held given).setAutoCommit held true).sessions)
    (replies : (Replies fails calls ∧
        ended = .ok (some (database.savedRow keys given).customer)) ∨
      (¬Replies fails calls ∧ (∀ saved, ended ≠ .ok (some saved)) ∧
        ended ≠ .error .unchecked)) :
    SaveEnds keys fails held calls database given ended after := by
  rw [switched_table given fresh] at table
  rw [switched_sessions given fresh] at sessions
  constructor
  · intro lost
    exact absurd commits lost
  · intro _
    rw [table]
  · intro _ replied
    rcases replies with ⟨_, same⟩ | ⟨silent, _⟩
    · exact same
    · exact absurd replied silent
  · intro _ silent
    rcases replies with ⟨replied, _⟩ | ⟨_, unanswered, _⟩
    · exact absurd replied silent
    · exact unanswered
  · rcases replies with ⟨_, same⟩ | ⟨_, _, checked⟩
    · rw [same]
      exact nofun
    · exact checked
  · intro _
    rw [table]
  · intro other _
    rw [sessions]

variable (keys fails) in
/-- The generated key is read, and the row behind it. -/
theorem readBack_at (given : Customer) (fresh : database.sessions held = Session.fresh)
    (accepted : accepts database.table.customer (database.savedRow keys given) = true) :
    Triple (At (some held) 1 locals calls (database.written keys held given))
      (readBack ((h2 keys).withFaults fails) [(database.savedRow keys given).id])
      fun ended state => ∃ calls' database', At (some held) 1 locals calls' database' state ∧
        (((∃ k < 2, fails (calls + k) = true) ∧ ended = .error .sqlException ∧
            database' = database.written keys held given) ∨
          ((∀ k < 2, fails (calls + k) = false) ∧
            Fetched fails held (calls + 2) 8 (database.written keys held given)
              (some (database.savedRow keys given).customer) ended calls' database')) := by
  refine call_bind rfl ?_ ?_
  · intro breaks state stands
    exact ⟨_, _, stands, Or.inl ⟨⟨0, by omega, breaks⟩, rfl, rfl⟩⟩
  · intro first
    refine call_bind rfl ?_ ?_
    · intro breaks state stands
      exact ⟨_, _, stands, Or.inl ⟨⟨1, by omega, breaks⟩, rfl, rfl⟩⟩
    · intro second
      refine Triple.consequence (Triple.callee_locals (getCustomerById_cached keys fails _ _
        (switched_visible given fresh accepted))) (fun _ before => before) ?_
      intro ended state reached
      obtain ⟨⟨calls', database', on, fetched⟩, kept⟩ := reached
      refine ⟨calls', database', ⟨on, kept⟩, Or.inr ⟨?_, fetched⟩⟩
      exact worked_succ (worked_succ (fun k none => absurd none (Nat.not_lt_zero k)) first) second

variable (keys) in
theorem written_sessions_other (given : Customer)
    (fresh : database.sessions held = Session.fresh) (other : Nat) (different : other ≠ held) :
    (database.written keys held given).sessions other = database.sessions other := by
  rw [written_sessions given fresh, Function.update_of_ne different]

/-- After the lookup only the generated keys remain to be closed. -/
theorem saveEnds_of_fetched (fresh : database.sessions held = Session.fresh)
    (accepted : accepts database.table.customer (database.savedRow keys given) = true)
    (worked : ∀ k < 8, fails (calls + k) = false) {result : Option Customer} {calls' : Nat}
    {database' : Database}
    (fetched : Fetched fails held (calls + 8) 8 (database.written keys held given)
      (some (database.savedRow keys given).customer) (.ok result) calls' database') :
    (fails calls' = true →
        SaveEnds keys fails held calls database given (.error .sqlException) database') ∧
      (fails calls' = false →
        SaveEnds keys fails held calls database given (.ok result) database') := by
  cases switches : fails (calls + 8) with
  | true =>
      obtain ⟨same, table, sessions⟩ := fetched.unswitched switches
      cases same
      have customer : database'.table.customer = database.table.customer := by
        rw [table, written_table]
      have others : ∀ other, other ≠ held →
          database'.sessions other = database.sessions other := by
        rw [sessions]
        exact written_sessions_other keys given fresh
      exact ⟨fun _ => saveEnds_of_break (by omega) switches nofun nofun customer others,
        fun _ => saveEnds_of_break (by omega) switches nofun nofun customer others⟩
  | false =>
      obtain ⟨table, sessions⟩ := fetched.switched switches
      have commits : Commits keys fails calls database given :=
        ⟨accepted, worked_succ worked switches⟩
      by_cases reads : ∀ k < 8, fails (calls + 8 + 1 + k) = false
      · obtain ⟨same, made⟩ := fetched.work switches reads
        cases same
        have last : calls' = calls + 18 := made
        rw [last]
        constructor
        · intro breaks
          apply saveEnds_of_commit fresh commits table sessions
          refine Or.inr ⟨?_, nofun, nofun⟩
          intro replies
          have closes := replies.2
          rw [breaks] at closes
          cases closes
        · intro works
          apply saveEnds_of_commit fresh commits table sessions
          exact Or.inl ⟨⟨reads, works⟩, rfl⟩
      · obtain ⟨k, broken⟩ := not_forall.mp reads
        rw [Classical.not_imp, Bool.not_eq_false] at broken
        cases fetched.broken switches ⟨k, broken⟩
        have silent : ¬Replies fails calls := fun replies => reads replies.1
        exact ⟨fun _ => saveEnds_of_commit fresh commits table sessions
            (Or.inr ⟨silent, nofun, nofun⟩),
          fun _ => saveEnds_of_commit fresh commits table sessions
            (Or.inr ⟨silent, nofun, nofun⟩)⟩

/-- The state in which the body of `saveCustomer` leaves its handler and its clean-up. -/
def Saved (keys : Nat → Int64) (fails : Nat → Bool) (held calls : Nat) (database : Database)
    (given : Customer) (ended : Except Thrown (Option Customer))
    (state : Thread (Faulty Database) × Locals) : Prop :=
  ∃ statement calls' database',
    At (some held) 1 { connection := some held, preparedStatement := statement } calls' database'
      state ∧
    SaveEnds keys fails held calls database given ended database'

/-- The generated keys are read and closed, with the lookup in between. -/
theorem readGenerated_saved (given : Customer) (fresh : database.sessions held = Session.fresh)
    (accepted : accepts database.table.customer (database.savedRow keys given) = true)
    (worked : ∀ k < 5, fails (calls + k) = false) :
    Triple
      (At (some held) 1
        { connection := some held, preparedStatement := some database.prepared } (calls + 5)
        (database.written keys held given))
      (readGenerated ((h2 keys).withFaults fails) database.prepared)
      (Saved keys fails held calls database given) := by
  have customer : (database.written keys held given).table.customer =
      database.table.customer := by
    rw [written_table]
  have others := written_sessions_other keys given fresh
  have listed : (h2 keys).getGeneratedKeys database.prepared (database.written keys held given) =
      (.ok (some [(database.savedRow keys given).id]), database.written keys held given) :=
    Prod.ext (congrArg Except.ok (written_keys given)) rfl
  refine call_bind listed ?_ ?_
  · intro breaks state stands
    exact ⟨_, _, _, stands, saveEnds_of_break (k := 5) (by omega) breaks nofun nofun customer
      others⟩
  intro works5
  have worked6 := worked_succ worked works5
  refine Triple.bind (readBack_at keys fails given fresh accepted) ?_ ?_
  · intro result state given'
    obtain ⟨calls', database', stands, ⟨_, impossible, _⟩ | ⟨worked2, fetched⟩⟩ := given'
    · cases impossible
    have ends := saveEnds_of_fetched fresh accepted
      (worked_succ (worked_succ worked6 (worked2 0 (by omega))) (worked2 1 (by omega))) fetched
    have closes : Triple
        (At (some held) 1
          { connection := some held, preparedStatement := some database.prepared } calls'
          database')
        (do
          call ((h2 keys).withFaults fails).closeResultSet
          pure result)
        (Saved keys fails held calls database given) := by
      refine call_bind rfl ?_ ?_
      · intro breaks state stands
        exact ⟨_, _, _, stands, ends.1 breaks⟩
      · intro works state stands
        exact ⟨_, _, _, stands, ends.2 works⟩
    exact closes state stands
  · intro error state given'
    obtain ⟨calls', database', stands, ⟨⟨k, less, breaks⟩, same, unchanged⟩ | ⟨_, fetched⟩⟩ :=
      given'
    · cases same
      subst unchanged
      rw [Nat.add_assoc calls 6 k] at breaks
      exact ⟨_, _, _, stands, saveEnds_of_break (by omega) breaks nofun nofun customer others⟩
    · obtain ⟨result, impossible⟩ := fetched_returns fetched
      cases impossible

theorem update_saved (given : Customer) (fresh : database.sessions held = Session.fresh)
    (worked : ∀ k < 4, fails (calls + k) = false) :
    Triple
      (At (some held) 1
        { connection := some held, preparedStatement := some database.prepared } (calls + 4)
        (database.insertion held given))
      (do
        let rowsUpdated ← call (((h2 keys).withFaults fails).executeUpdate database.prepared)
        if rowsUpdated > 0 then readGenerated ((h2 keys).withFaults fails) database.prepared
        else pure none)
      (Saved keys fails held calls database given) := by
  have others : ∀ other, other ≠ held →
      (database.insertion held given).sessions other = database.sessions other :=
    fun other different => Function.update_of_ne different _ _
  have updates := executeUpdate_insertion keys given fresh
  cases turn : fails (calls + 4) with
  | true =>
      refine Triple.bind_error (call_breaks turn _) ?_
      intro state stands
      exact ⟨_, _, _, stands, saveEnds_of_break (by omega) turn nofun nofun rfl others⟩
  | false =>
      cases accepted : accepts database.table.customer (database.savedRow keys given) with
      | true =>
          rw [if_pos accepted] at updates
          refine Triple.bind_ok (call_works turn updates) ?_
          exact readGenerated_saved given fresh accepted (worked_succ worked turn)
      | false =>
          rw [if_neg (Bool.eq_false_iff.mp accepted)] at updates
          refine Triple.bind_error (call_works turn updates) ?_
          intro state stands
          refine ⟨_, _, _, stands, saveEnds_of_loss ?_ nofun nofun rfl (fun _ => rfl) others⟩
          intro commits
          rw [commits.1] at accepted
          cases accepted

theorem saveBody_saved (given : Customer) (fresh : database.sessions held = Session.fresh) :
    Triple
      (At (some held) 1 { connection := some held, preparedStatement := none } calls database)
      (saveBody ((h2 keys).withFaults fails) (some given) (some held))
      (Saved keys fails held calls database given) := by
  refine call_bind rfl ?_ ?_
  · intro breaks state stands
    exact ⟨_, _, _, stands, saveEnds_of_break (k := 0) (by omega) breaks nofun nofun rfl
      fun _ _ => rfl⟩
  intro works0
  have others : ∀ other, other ≠ held →
      (database.setAutoCommit held false).sessions other = database.sessions other :=
    fun other different => Function.update_of_ne different _ _
  refine prepare_bind keys ?_ ?_
  · intro breaks state stands
    exact ⟨_, _, _, stands, saveEnds_of_break (k := 1) (by omega) breaks nofun nofun rfl others⟩
  intro works1
  refine call_bind rfl ?_ ?_
  · intro breaks state stands
    exact ⟨_, _, _, stands, saveEnds_of_break (k := 2) (by omega) breaks nofun nofun rfl others⟩
  intro works2
  refine call_bind rfl ?_ ?_
  · intro breaks state stands
    exact ⟨_, _, _, stands, saveEnds_of_break (k := 3) (by omega) breaks nofun nofun rfl others⟩
  intro works3
  exact update_saved given fresh
    (worked_succ (worked_succ (worked_succ (worked_succ
      (fun k none => absurd none (Nat.not_lt_zero k)) works0) works1) works2) works3)

end Body

section Saving

variable {given : Customer}

/-- The handler turns the exception into null, and has nothing committed to take back. -/
theorem saveEnds_handled {after after' : Database}
    (ends : SaveEnds keys fails held calls database given (.error .sqlException) after)
    (table : after'.table = after.table)
    (sessions : ∀ other, other ≠ held → after'.sessions other = after.sessions other) :
    SaveEnds keys fails held calls database given (.ok none) after' where
  lost := by
    intro lost
    rw [table]
    exact ⟨(ends.lost lost).1, nofun⟩
  kept := by
    intro commits
    rw [table]
    exact ends.kept commits
  answered := by
    intro commits replies
    cases ends.answered commits replies
  unanswered := fun _ _ => nofun
  checked := nofun
  generated := by
    intro none
    rw [table]
    exact ends.generated none
  sessions := fun other different =>
    (sessions other different).trans (ends.sessions other different)

theorem discard_sessions (held other : Nat) (different : other ≠ held) :
    (database.discard held).sessions other = database.sessions other :=
  Function.update_of_ne different _ _

variable (keys fails) in
theorem rollback_at (statement : Option Nat) :
    Triple
      (At (some held) depth { connection := some held, preparedStatement := statement } calls
        database)
      (rollback ((h2 keys).withFaults fails)) fun ended state =>
        ended = .ok none ∧
          At (some held) depth { connection := some held, preparedStatement := statement }
            (calls + 1) (if fails calls then database else database.discard held) state := by
  refine Triple.bind_get fun current stands => ?_
  rw [stands.2]
  refine Triple.of_state ?_ stands
  cases turn : fails calls with
  | true =>
      have broken : Triple
          (At (some held) depth { connection := some held, preparedStatement := statement } calls
            database)
          (do
            call (((h2 keys).withFaults fails).rollback held)
            pure none : Prog Thrown _ (Option Customer))
          fun ended state => ended = .error .sqlException ∧
            At (some held) depth { connection := some held, preparedStatement := statement }
              (calls + 1) database state :=
        Triple.bind_error (call_breaks turn _) fun _ after => ⟨rfl, after⟩
      exact Triple.tryCatch_error broken fun _ after => ⟨rfl, after⟩
  | false =>
      have worked : Triple
          (At (some held) depth { connection := some held, preparedStatement := statement } calls
            database)
          (do
            call (((h2 keys).withFaults fails).rollback held)
            pure none : Prog Thrown _ (Option Customer))
          fun ended state => ended = .ok none ∧
            At (some held) depth { connection := some held, preparedStatement := statement }
              (calls + 1) (database.discard held) state :=
        Triple.bind_ok (call_works turn rfl) fun _ after => ⟨rfl, after⟩
      exact Triple.tryCatch_ok worked fun _ after => ⟨rfl, after⟩

theorem rollback_saved :
    Triple (Saved keys fails held calls database given (.error .sqlException))
      (rollback ((h2 keys).withFaults fails)) fun ended state =>
        (∃ result, ended = .ok result) ∧
          Saved keys fails held calls database given ended state := by
  intro state given'
  obtain ⟨statement, calls', database', stands, ends⟩ := given'
  obtain ⟨same, after⟩ := rollback_at keys fails statement state stands
  rw [same]
  refine ⟨⟨none, rfl⟩, statement, _, _, after, ?_⟩
  cases turn : fails calls' with
  | true => exact saveEnds_handled ends rfl fun _ _ => rfl
  | false => exact saveEnds_handled ends rfl (discard_sessions held)

theorem passed_saved (ended : Except Thrown (Option Customer))
    (state : Thread (Faulty Database) × Locals) (returned : ended ≠ .error .sqlException)
    (saved : Saved keys fails held calls database given ended state) :
    (∃ result, ended = .ok result) ∧ Saved keys fails held calls database given ended state := by
  refine ⟨?_, saved⟩
  obtain ⟨_, _, _, _, ends⟩ := saved
  cases ended with
  | ok result => exact ⟨result, rfl⟩
  | error thrown =>
      cases thrown with
      | sqlException => exact absurd rfl returned
      | unchecked => exact absurd rfl ends.checked

theorem release_sessions (held other : Nat) (different : other ≠ held) :
    (database.release held).sessions other = database.sessions other :=
  Function.update_of_ne different _ _

theorem saveEnds_released {ended : Except Thrown (Option Customer)} {after : Database}
    (ends : SaveEnds keys fails held calls database given ended after) :
    SaveEnds keys fails held calls database given ended (after.release held) :=
  { ends with
    sessions := fun other different =>
      (release_sessions held other different).trans (ends.sessions other different) }

variable (keys fails) in
/-- A call of `saveCustomer` that gets a connection. -/
theorem saveCustomer_opened (given : Customer) (works : fails calls = false)
    (fresh : database.sessions held = Session.fresh) :
    Triple (Ready held calls database)
      (saveCustomer ((h2 keys).withFaults fails) (some given)) fun ended thread =>
        (∃ result, ended = .ok result) ∧ ∃ calls' database', On none 0 calls' database' thread ∧
          SaveEnds keys fails held (calls + 1) database given ended database' ∧
          ((∀ k, fails k = false) → database'.sessions held = Session.fresh) := by
  refine withThreadConnection_on enter_ready
    (opening_at (open_obtained keys works held) (saveBody_saved given fresh))
    rollback_saved passed_saved ?_
  intro ended state given'
  obtain ⟨returned, statement, calls', database', stands, ends⟩ := given'
  obtain ⟨same, on, _⟩ := cleanUp_at (close_outer keys fails held) state stands
  refine ⟨same, returned, _, _, on, ?_, ?_⟩
  · cases turn : fails calls' with
    | true => exact ends
    | false => exact saveEnds_released ends
  · intro none
    rw [none calls']
    exact Function.update_self held Session.fresh database'.sessions

variable (keys fails) in
/-- Without a connection the first thing the body does is to use a null reference. -/
theorem saveCustomer_unopened (customer : Option Customer) (breaks : fails calls = true) :
    Triple (Ready held calls database)
      (saveCustomer ((h2 keys).withFaults fails) customer) fun ended thread =>
        ended = .error .unchecked ∧ ∃ calls', On none 0 calls' database thread := by
  have opens : Triple (Ready held calls database)
      (openThreadConnection ((h2 keys).withFaults fails)) fun ended thread =>
        ended = .ok none ∧ On none 1 (calls + 1) database thread :=
    fun thread ready => open_missing keys breaks thread ready.1
  have body : Triple
      (At none 1 { connection := none, preparedStatement := none } (calls + 1) database)
      (saveBody ((h2 keys).withFaults fails) customer none) fun ended state =>
        ended = .error .unchecked ∧ At none 1 noLocals (calls + 1) database state :=
    fun _ stands => ⟨rfl, stands⟩
  refine withThreadConnection_on enter_ready (opening_at opens body) ?_
    (fun _ _ _ tried => tried) ?_
  · intro state impossible
    cases impossible.1
  · intro ended state given
    obtain ⟨thrown, stands⟩ := given
    obtain ⟨same, on, _⟩ := cleanUp_at (close_missing ((h2 keys).withFaults fails)) state stands
    exact ⟨same, thrown, _, on⟩

/-- What a call without a customer does to the database. -/
structure Untouched (held : Nat) (database after : Database) : Prop where
  table : after.table = database.table
  sessions : ∀ other, other ≠ held → after.sessions other = database.sessions other

def Refused (fails : Nat → Bool) (held : Nat) (database : Database)
    (ended : Except Thrown (Option Customer)) (state : Thread (Faulty Database) × Locals) :
    Prop :=
  ∃ statement calls' database',
    At (some held) 1 { connection := some held, preparedStatement := statement } calls' database'
      state ∧
    Untouched held database database' ∧ (∀ saved, ended ≠ .ok (some saved)) ∧
    ((∀ k, fails k = false) → ended = .error .unchecked)

variable (keys) in
theorem saveBody_refused :
    Triple
      (At (some held) 1 { connection := some held, preparedStatement := none } calls database)
      (saveBody ((h2 keys).withFaults fails) none (some held))
      (Refused fails held database) := by
  have broken : ∀ calls, fails calls = true → (∀ k, fails k = false) →
      (.error .sqlException : Except Thrown (Option Customer)) = .error .unchecked := by
    intro calls breaks none
    rw [none calls] at breaks
    cases breaks
  have others : ∀ other, other ≠ held →
      (database.setAutoCommit held false).sessions other = database.sessions other :=
    fun other different => Function.update_of_ne different _ _
  refine call_bind rfl ?_ ?_
  · intro breaks state stands
    exact ⟨_, _, _, stands, ⟨rfl, fun _ _ => rfl⟩, nofun, broken _ breaks⟩
  intro works
  refine prepare_bind keys ?_ ?_
  · intro breaks state stands
    exact ⟨_, _, _, stands, ⟨rfl, others⟩, nofun, broken _ breaks⟩
  intro works' state stands
  exact ⟨_, _, _, stands, ⟨rfl, others⟩, nofun, fun _ => rfl⟩

variable (keys) in
theorem rollback_refused :
    Triple (Refused fails held database (.error .sqlException))
      (rollback ((h2 keys).withFaults fails)) (Refused fails held database) := by
  intro state given
  obtain ⟨statement, calls', database', stands, untouched, _, none⟩ := given
  obtain ⟨same, after⟩ := rollback_at keys fails statement state stands
  rw [same]
  refine ⟨statement, _, _, after, ?_, nofun, ?_⟩
  · cases turn : fails calls' with
    | true => exact untouched
    | false =>
        exact ⟨untouched.table, fun other different =>
          (discard_sessions held other different).trans (untouched.sessions other different)⟩
  · intro never
    cases none never

variable (keys fails) in
theorem saveCustomer_null (works : fails calls = false) :
    Triple (Ready held calls database) (saveCustomer ((h2 keys).withFaults fails) none)
      fun ended thread => (∀ saved, ended ≠ .ok (some saved)) ∧
        ((∀ k, fails k = false) → ended = .error .unchecked) ∧
        ∃ calls' database', On none 0 calls' database' thread ∧
          Untouched held database database' ∧
          ((∀ k, fails k = false) → database'.sessions held = Session.fresh) := by
  refine withThreadConnection_on enter_ready
    (opening_at (open_obtained keys works held) (saveBody_refused keys))
    (rollback_refused keys) (fun _ _ _ tried => tried) ?_
  intro ended state given
  obtain ⟨statement, calls', database', stands, untouched, silent, none⟩ := given
  obtain ⟨same, on, _⟩ := cleanUp_at (close_outer keys fails held) state stands
  refine ⟨same, silent, none, _, _, on, ?_, ?_⟩
  · cases turn : fails calls' with
    | true => exact untouched
    | false =>
        exact ⟨untouched.table, fun other different =>
          (release_sessions held other different).trans (untouched.sessions other different)⟩
  · intro never
    rw [never calls']
    exact Function.update_self held Session.fresh database'.sessions

theorem setAutoCommit_fresh (fresh : database.sessions held = Session.fresh) :
    (database.setAutoCommit held true).table = database.table ∧
      (database.setAutoCommit held true).sessions = database.sessions := by
  unfold Database.setAutoCommit Database.commit Database.switch
  simp [fresh, Session.fresh]

variable (keys) in
/-- A lookup of its own, when no JDBC call breaks. -/
theorem getCustomerById_ready (customerId : Int64) (never : ∀ k, fails k = false)
    (fresh : database.sessions held = Session.fresh) :
    Triple (Ready held calls database)
      (getCustomerById ((h2 keys).withFaults fails) customerId) fun ended thread =>
        ended = .ok ((database.table.rowsOf customerId).map CustomerRow.customer).head? ∧
          ∃ calls' database', On none 0 calls' database' thread ∧
            Untouched held database database' ∧ database'.sessions held = Session.fresh := by
  obtain ⟨sameTable, sameSessions⟩ := setAutoCommit_fresh fresh
  have stored : ((database.setAutoCommit held true).visible held).filter
      (fun row => row.id == customerId) = database.table.rowsOf customerId := by
    unfold Database.visible Table.rowsOf
    rw [sameTable, sameSessions, fresh]
    exact congrArg _ (List.append_nil _)
  refine withThreadConnection_on enter_ready
    (opening_at (open_obtained keys (never calls) held)
      (findBody_tried keys fails held customerId _ stored))
    caught_of_thrown (fun _ _ => caught_of_returned) ?_
  intro ended state caught
  obtain ⟨locals, calls', database', stands, fetched⟩ := caught
  obtain ⟨same, on, _⟩ := cleanUp_at (close_outer keys fails held) state stands
  obtain ⟨table, sessions⟩ := fetched.switched (never _)
  obtain ⟨found, _⟩ := fetched.work (never _) fun k _ => never _
  rw [never calls'] at on
  refine ⟨same, found, _, _, on, ⟨table.trans sameTable, ?_⟩, ?_⟩
  · intro other different
    rw [if_neg Bool.false_ne_true, release_sessions held other different, sessions, sameSessions]
  · exact Function.update_self held Session.fresh database'.sessions

end Saving

end SpringExamples.Jdbc
