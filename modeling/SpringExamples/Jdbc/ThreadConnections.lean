/-
The connection that a thread holds while it is inside the repository.

Between two methods the bookkeeping is determined by how many methods are active and by
the connection they share; opening and closing move between these situations whatever
JDBC answers, as long as the data source does not throw something unchecked.  If it
does, the depth is decremented without having been incremented.
-/

import SpringExamples.Foundation.Runs
import SpringExamples.Jdbc.RawCustomerRepository

set_option autoImplicit false

namespace SpringExamples.Jdbc

open Runs

/-- Nothing is leaked and nothing was closed too early: the depth is not negative, at most
one connection is open and it is the cached one, and no active method has lost its own. -/
structure Sound (book : Bookkeeping) : Prop where
  depth : 0 ≤ book.depthThreadLocal.getD 0
  cached : ∀ connection < book.obtained, connection ∉ book.closeCalls →
    book.connectionThreadLocal = some connection
  unclosed : ∀ connection, some connection ∈ book.frames → connection ∉ book.closeCalls

/-- The thread is outside of the repository and has left nothing behind. -/
structure Outside (book : Bookkeeping) : Prop where
  depth : book.depthThreadLocal = none ∨ book.depthThreadLocal = some 0
  uncached : book.connectionThreadLocal = none
  closedOnce : ∀ connection < book.obtained, book.closeCalls.count connection = 1

/-- `count` methods are active, and `connection` is what each of them was handed. -/
structure Holding (connection : Option Nat) (count : Nat) (book : Bookkeeping) : Prop where
  depth : book.depthThreadLocal.getD 0 = count
  cached : book.connectionThreadLocal = connection
  frames : book.frames = List.replicate count connection
  obtained : ∀ held, connection = some held → held < book.obtained
  closed : ∀ other, book.closeCalls.count other =
    if other < book.obtained ∧ connection ≠ some other then 1 else 0

theorem outside_of_holding {book : Bookkeeping} (holding : Holding none 0 book) :
    Outside book := by
  refine ⟨?_, holding.cached, ?_⟩
  · have depth := holding.depth
    cases stored : book.depthThreadLocal with
    | none => exact Or.inl rfl
    | some depthStored =>
        rw [stored] at depth
        exact Or.inr (congrArg some depth)
  · intro connection older
    rw [holding.closed, if_pos ⟨older, nofun⟩]

theorem sound_of_holding {connection : Option Nat} {count : Nat} {book : Bookkeeping}
    (holding : Holding connection count book) : Sound book := by
  refine ⟨?_, ?_, ?_⟩
  · rw [holding.depth]
    exact Int.natCast_nonneg count
  · intro other older unclosed
    rw [holding.cached]
    by_contra different
    have closed := holding.closed other
    rw [if_pos ⟨older, different⟩, List.count_eq_zero.mpr unclosed] at closed
    cases closed
  · intro other member
    rw [holding.frames] at member
    have same := List.eq_of_mem_replicate member
    have closed := holding.closed other
    rw [if_neg (fun both => both.2 same.symm)] at closed
    exact List.count_eq_zero.mp closed

theorem sound_withDepth {book : Bookkeeping} (sound : Sound book) {depth : Int}
    (nonnegative : 0 ≤ depth) : Sound { book with depthThreadLocal := some depth } :=
  ⟨nonnegative, sound.cached, sound.unclosed⟩

variable {World : Type}

/-- The bookkeeping stands at `book`, and what it was before is judged to be right. -/
structure Stands (known : World → Prop) (judged : Bookkeeping → Prop) (book : Bookkeeping)
    (thread : Thread World) : Prop where
  book : thread.book = book
  known : known thread.world
  visited : ∀ seen ∈ thread.visited, judged seen

def Bookkeeping.withDepth (book : Bookkeeping) (depth : Int) : Bookkeeping :=
  { book with depthThreadLocal := some depth }

section Depth

variable (known : World → Prop) {judged : Bookkeeping → Prop} {book : Bookkeeping}

theorem note_spec (change : Bookkeeping → Bookkeeping) (right : judged (change book)) :
    Triple (Stands known judged book) (note change) fun ended thread =>
      ended = .ok () ∧ Stands known judged (change book) thread := by
  intro thread given
  obtain ⟨same, known, visited⟩ := given
  refine ⟨rfl, congrArg change same, known, ?_⟩
  intro seen member
  rcases List.mem_append.mp member with old | new
  · exact visited seen old
  · rw [List.mem_singleton, same] at new
    rw [new]
    exact right

theorem currentDepth_spec (zero : judged (book.withDepth (book.depthThreadLocal.getD 0))) :
    Triple (Stands known judged book) currentDepth fun ended thread =>
      ended = .ok (book.depthThreadLocal.getD 0) ∧
        Stands known judged (book.withDepth (book.depthThreadLocal.getD 0)) thread := by
  refine Triple.bind_get fun current stands => ?_
  rw [stands.book]
  cases stored : book.depthThreadLocal with
  | some cnt =>
      have same : book.withDepth cnt = book := by
        rw [Bookkeeping.withDepth, ← stored]
      rw [Option.getD_some, same]
      intro thread reached
      exact ⟨rfl, reached ▸ stands⟩
  | none =>
      rw [stored] at zero
      refine Triple.bind_ok (Triple.of_state (note_spec known _ zero) stands) ?_
      intro thread reached
      exact ⟨rfl, reached⟩

theorem incrementDepth_spec (zero : judged (book.withDepth (book.depthThreadLocal.getD 0)))
    (more : judged (book.withDepth (book.depthThreadLocal.getD 0 + 1))) :
    Triple (Stands known judged book) incrementDepth fun ended thread =>
      ended = .ok (book.depthThreadLocal.getD 0 + 1) ∧
        Stands known judged (book.withDepth (book.depthThreadLocal.getD 0 + 1)) thread := by
  refine Triple.bind_ok (currentDepth_spec known zero) ?_
  refine Triple.bind_ok (note_spec known _ more) ?_
  exact fun _ stands => ⟨rfl, stands⟩

theorem decrementDepth_spec (zero : judged (book.withDepth (book.depthThreadLocal.getD 0)))
    (less : judged (book.withDepth (book.depthThreadLocal.getD 0 - 1))) :
    Triple (Stands known judged book) decrementDepth fun ended thread =>
      ended = .ok (book.depthThreadLocal.getD 0 - 1) ∧
        Stands known judged (book.withDepth (book.depthThreadLocal.getD 0 - 1)) thread := by
  refine Triple.bind_ok (currentDepth_spec known zero) ?_
  refine Triple.bind_ok (note_spec known _ less) ?_
  exact fun _ stands => ⟨rfl, stands⟩

end Depth

section Opening

variable (driver : Driver World) {known : World → Prop} {judged : Bookkeeping → Prop}
  {book : Bookkeeping}

theorem ensureConnection_cached {connection : Nat}
    (cached : book.connectionThreadLocal = some connection) :
    Triple (Stands known judged book) (ensureConnection driver) fun ended thread =>
      ended = .ok () ∧ Stands known judged book thread := by
  refine Triple.bind_get fun current stands => ?_
  rw [stands.book, cached]
  intro thread reached
  exact ⟨rfl, reached ▸ stands⟩

def Bookkeeping.answered (book : Bookkeeping) : Option Nat → Bookkeeping
  | some _ => obtain book
  | none => book

/-- The data source returns a connection or throws an `SQLException`. -/
def Answers (driver : Driver World) (world : World) : Prop :=
  (driver.getConnection world).1 ≠ .error .unchecked

theorem ensureConnection_answered (uncached : book.connectionThreadLocal = none)
    (right : judged (obtain book)) :
    Triple (Stands (Answers driver) judged book) (ensureConnection driver) fun ended thread =>
      ended = .ok () ∧ ∃ connection,
        (connection = none ∨ connection = some book.obtained) ∧
          Stands (fun _ => True) judged (book.answered connection) thread := by
  refine Triple.bind_get fun current stands => ?_
  rw [stands.book, uncached]
  intro thread reached
  subst reached
  have answers := stands.known
  unfold Answers at answers
  cases asked : driver.getConnection thread.world with
  | mk ended world =>
      rw [asked] at answers
      have moved : Stands (fun _ => True) judged book { thread with world := world } :=
        ⟨stands.book, trivial, stands.visited⟩
      cases ended with
      | ok done =>
          simp only [catchSqlException, Prog.tryCatch, Prog.bind_apply, jdbc, asked]
          have noted := note_spec (fun _ => True) obtain right _ moved
          exact ⟨rfl, some book.obtained, Or.inr rfl, noted.2⟩
      | error thrown =>
          simp only [catchSqlException, Prog.tryCatch, Prog.bind_apply, jdbc, asked]
          cases thrown with
          | sqlException => exact ⟨rfl, none, Or.inl rfl, moved⟩
          | unchecked => exact absurd rfl answers

theorem ensureConnection_unchecked (uncached : book.connectionThreadLocal = none) :
    Triple (Stands (fun world => ¬Answers driver world) judged book) (ensureConnection driver)
      fun ended thread => ended = .error .unchecked ∧
        Stands (fun _ => True) judged book thread := by
  refine Triple.bind_get fun current stands => ?_
  rw [stands.book, uncached]
  intro thread reached
  subst reached
  have answers := not_not.mp stands.known
  cases asked : driver.getConnection thread.world with
  | mk ended world =>
      rw [asked] at answers
      cases answers
      simp only [catchSqlException, Prog.tryCatch, Prog.bind_apply, jdbc, asked]
      exact ⟨rfl, stands.book, trivial, stands.visited⟩

end Opening

/-- The thread is inside of `count` methods that share a connection, and all was sound. -/
structure Within (connection : Option Nat) (count : Nat) (thread : Thread World) : Prop where
  holding : Holding connection count thread.book
  visited : ∀ seen ∈ thread.visited, Sound seen

theorem within_of_stands {known : World → Prop} {book : Bookkeeping} {thread : Thread World}
    {connection : Option Nat} {count : Nat} (stands : Stands known Sound book thread)
    (holding : Holding connection count book) : Within connection count thread := by
  refine ⟨?_, stands.visited⟩
  rw [stands.book]
  exact holding

section Calls

variable {Result : Type} {kept : Thread World → Prop}

/-- What JDBC does to its world is no concern of the property. -/
def Settled (kept : Thread World → Prop) : Prop :=
  ∀ thread world, kept thread → kept { thread with world := world }

theorem settled_within (connection : Option Nat) (count : Nat) :
    Settled (Within connection count : Thread World → Prop) :=
  fun _ _ within => ⟨within.holding, within.visited⟩

theorem call_preserves (settled : Settled kept) (operation : Prog Thrown World Result) :
    Preserves (fun state : Thread World × Locals => kept state.1) (call operation) :=
  fun state holds => settled state.1 _ holds

theorem setLocals_preserves (change : Locals → Locals) :
    Preserves (fun state : Thread World × Locals => kept state.1)
      (Prog.modify fun state => (state.1, change state.2) :
        Prog Thrown (Thread World × Locals) Unit) :=
  fun _ holds => holds

theorem catchSqlException_preserves {State : Type} {invariant : State → Prop}
    {body handler : Prog Thrown State Result} (begins : Preserves invariant body)
    (handles : Preserves invariant handler) :
    Preserves invariant (catchSqlException body handler) := by
  apply Preserves.tryCatch begins
  intro thrown
  cases thrown with
  | sqlException => exact handles
  | unchecked => exact Preserves.throw _

theorem dereference_preserves {State : Type} {invariant : State → Prop}
    (reference : Option Result) : Preserves invariant (dereference reference) := by
  cases reference with
  | none => exact Preserves.throw _
  | some object => exact Preserves.pure _

theorem closeStatement_preserves (driver : Driver World) (settled : Settled kept) :
    Preserves (fun state : Thread World × Locals => kept state.1) (closeStatement driver) := by
  apply Preserves.bind (fun _ holds => holds)
  intro current
  cases current.2.preparedStatement with
  | none => exact Preserves.pure _
  | some statement =>
      exact catchSqlException_preserves (call_preserves settled _) (Preserves.pure _)

theorem rollback_preserves (driver : Driver World) (settled : Settled kept) :
    Preserves (fun state : Thread World × Locals => kept state.1) (rollback driver) := by
  apply Preserves.bind (fun _ holds => holds)
  intro current
  cases current.2.connection with
  | none => exact Preserves.pure _
  | some connection =>
      exact catchSqlException_preserves
        (Preserves.bind (call_preserves settled _) fun _ => Preserves.pure _) (Preserves.pure _)

theorem prepare_preserves (driver : Driver World) (settled : Settled kept) (connection : Nat)
    (sql : String) (returnGeneratedKeys : Bool) :
    Preserves (fun state : Thread World × Locals => kept state.1)
      (prepare driver connection sql returnGeneratedKeys) := by
  apply Preserves.bind (call_preserves settled _)
  intro statement
  exact Preserves.bind
    (setLocals_preserves fun locals => { locals with preparedStatement := some statement })
    fun _ => Preserves.pure _

theorem readCustomers_preserves (driver : Driver World) (settled : Settled kept)
    (customers : List Customer) (rows : List CustomerRow) :
    Preserves (fun state : Thread World × Locals => kept state.1)
      (readCustomers driver customers rows) := by
  induction rows generalizing customers with
  | nil => exact Preserves.bind (call_preserves settled _) fun _ => Preserves.pure _
  | cons row rest ih =>
      apply Preserves.bind (call_preserves settled _)
      intro _
      apply Preserves.bind (call_preserves settled _)
      intro _
      apply Preserves.bind (call_preserves settled _)
      intro _
      exact Preserves.bind (call_preserves settled _) fun _ => ih _

theorem findBody_preserves (driver : Driver World) (settled : Settled kept) (customerId : Int64)
    (connection : Option Nat) :
    Preserves (fun state : Thread World × Locals => kept state.1)
      (findBody driver customerId connection) := by
  apply Preserves.bind (dereference_preserves connection)
  intro connection
  apply Preserves.bind (call_preserves settled _)
  intro _
  apply Preserves.bind (prepare_preserves driver settled _ _ _)
  intro statement
  apply Preserves.bind (call_preserves settled _)
  intro _
  apply Preserves.bind (call_preserves settled _)
  intro rows
  exact Preserves.bind (readCustomers_preserves driver settled [] rows) fun _ => Preserves.pure _

end Calls

section Closing

variable (driver : Driver World) {connection : Option Nat} {count : Nat} {book : Bookkeeping}

theorem sound_leave (sound : Sound book) : Sound (leave book) :=
  ⟨sound.depth, sound.cached, fun held member => sound.unclosed held (List.mem_of_mem_tail member)⟩

theorem holding_leave (holding : Holding connection (count + 1) book) :
    Holding connection count ((leave book).withDepth count) := by
  refine ⟨rfl, holding.cached, ?_, holding.obtained, holding.closed⟩
  change book.frames.tail = _
  rw [holding.frames]
  rfl

theorem holding_leave_some {held : Nat} (holding : Holding (some held) 1 book) :
    Holding none 0
      { (leave book).withDepth 0 with
        closeCalls := book.closeCalls ++ [held]
        connectionThreadLocal := none } := by
  refine ⟨rfl, rfl, ?_, nofun, ?_⟩
  · change book.frames.tail = _
    rw [holding.frames]
    rfl
  · intro other
    have before := holding.closed other
    change (book.closeCalls ++ [held]).count other = _
    rw [List.count_append, before, List.count_singleton]
    by_cases same : held = other
    · subst same
      simp [leave, Bookkeeping.withDepth, holding.obtained held rfl]
    · simp [leave, Bookkeeping.withDepth, same]

theorem sound_closing {held : Nat} (holding : Holding (some held) 1 book) :
    Sound { (leave book).withDepth 0 with closeCalls := book.closeCalls ++ [held] } := by
  refine ⟨Int.le_refl 0, ?_, ?_⟩
  · intro other older unclosed
    rw [List.mem_append, List.mem_singleton, not_or] at unclosed
    have closed := holding.closed other
    rw [List.count_eq_zero.mpr unclosed.1, if_pos] at closed
    · cases closed
    · exact ⟨older, fun same => unclosed.2 (Option.some.inj same).symm⟩
  · intro other member
    change some other ∈ book.frames.tail at member
    rw [holding.frames] at member
    cases member

theorem jdbc_stands {Result : Type} {judged : Bookkeeping → Prop}
    (operation : Prog Thrown World Result) :
    Preserves (Stands (fun _ => True) judged book) (jdbc operation) :=
  fun _ stands => ⟨stands.book, trivial, stands.visited⟩

theorem leaving_spec (holding : Holding connection (count + 1) book) :
    Triple (Stands (fun _ : World => True) Sound (leave book)) decrementDepth fun ended thread =>
      ended = .ok (count : Int) ∧
        Stands (fun _ => True) Sound ((leave book).withDepth count) thread := by
  have sound := sound_leave (sound_of_holding holding)
  have depth : (leave book).depthThreadLocal.getD 0 = (count : Int) + 1 := holding.depth
  have decremented := decrementDepth_spec (fun _ : World => True)
    (sound_withDepth sound sound.depth) (sound_withDepth sound (by omega))
  rw [depth, Int.add_sub_cancel] at decremented
  exact decremented

theorem closeThreadConnection_outer (holding : Holding connection 1 book) :
    Triple (Stands (fun _ => True) Sound (leave book)) (closeThreadConnection driver)
      fun _ thread => Within none 0 thread := by
  refine Triple.bind_get fun current stands => ?_
  have cached : current.book.connectionThreadLocal = connection := by
    rw [stands.book]
    exact holding.cached
  rw [cached]
  refine Triple.bind_ok (Triple.of_state (leaving_spec holding) stands) ?_
  rw [if_pos Int.natCast_zero]
  cases connection with
  | none =>
      intro thread reached
      exact within_of_stands reached (holding_leave holding)
  | some held =>
      have closing := sound_closing holding
      have closed : Triple (Stands (fun _ => True) Sound ((leave book).withDepth 0))
          (catchSqlException
            (do
              note fun book => { book with closeCalls := book.closeCalls ++ [held] }
              jdbc (driver.closeConnection held))
            (pure ()))
          fun _ => Stands (fun _ => True) Sound
            { (leave book).withDepth 0 with closeCalls := book.closeCalls ++ [held] } := by
        refine Triple.tryCatch (Triple.bind_ok (note_spec _ _ closing) (jdbc_stands _)) ?_
          fun _ _ after => after
        intro thrown
        cases thrown with
        | sqlException => exact Preserves.pure _
        | unchecked => exact Preserves.throw _
      refine Triple.tryFinally closed fun ended => ?_
      have gone := holding_leave_some holding
      refine Triple.consequence (note_spec _ _ (sound_of_holding gone)) (fun _ before => before) ?_
      intro _ thread given
      obtain ⟨_, reached⟩ := given
      exact within_of_stands reached gone

theorem closeThreadConnection_inner (holding : Holding connection (count + 2) book) :
    Triple (Stands (fun _ => True) Sound (leave book)) (closeThreadConnection driver)
      fun _ thread => Within connection (count + 1) thread := by
  refine Triple.bind_get fun current stands => ?_
  refine Triple.bind_ok (Triple.of_state (leaving_spec holding) stands) ?_
  rw [if_neg (by omega)]
  intro thread reached
  exact within_of_stands reached (holding_leave holding)

def remaining (connection : Option Nat) : Nat → Option Nat
  | 0 => none
  | _ + 1 => connection

theorem cleanUp_spec :
    Triple (fun state : Thread World × Locals => Within connection (count + 1) state.1)
      (cleanUp driver) fun _ state => Within (remaining connection count) count state.1 := by
  intro state within
  have holding := within.holding
  have closes : Triple (Stands (fun _ => True) Sound (leave state.1.book))
      (closeThreadConnection driver)
      fun _ thread => Within (remaining connection count) count thread := by
    cases count with
    | zero => exact closeThreadConnection_outer driver holding
    | succ count => exact closeThreadConnection_inner driver holding
  have left := note_spec (fun _ : World => True) leave (sound_leave (sound_of_holding holding))
  have all : Triple (fun other : Thread World × Locals =>
        Stands (fun _ => True) Sound state.1.book other.1) (cleanUp driver)
      fun _ other => Within (remaining connection count) count other.1 := by
    refine Triple.bind_ok (Triple.callee left) ?_
    exact Triple.bind (Triple.callee closes)
      (fun _ => closeStatement_preserves driver (settled_within _ _)) fun _ _ after => after
  exact all state ⟨rfl, trivial, within.visited⟩

end Closing

section Methods

variable (driver : Driver World) {pre : Thread World → Prop} {possible : Option Nat → Prop}
  {count : Nat} {body : Option Nat → Prog Thrown (Thread World × Locals) (Option Customer)}
  {handler : Prog Thrown (Thread World × Locals) (Option Customer)}

def Opens (driver : Driver World) (pre : Thread World → Prop) (possible : Option Nat → Prop)
    (count : Nat) : Prop :=
  Triple pre (openThreadConnection driver) fun ended thread =>
    ∃ connection opened, ended = .ok connection ∧ possible connection ∧
      Stands (fun _ => True) Sound opened thread ∧
      Holding connection count (handOver connection opened)

theorem opening_spec (opens : Opens driver pre possible count)
    (bodyKeeps : ∀ connection, possible connection →
      Preserves (fun state : Thread World × Locals => Within connection count state.1)
        (body connection)) :
    Triple (fun state : Thread World × Locals => pre state.1) (opening driver body)
      fun _ state => ∃ connection, possible connection ∧ Within connection count state.1 := by
  refine Triple.bind (Triple.callee opens) (fun result => ?_) ?_
  · intro state given
    obtain ⟨connection, opened, same, possibly, stands, holding⟩ := given
    cases same
    have rest : Triple (fun other : Thread World × Locals =>
          Stands (fun _ => True) Sound opened other.1)
        (do
          Prog.callee (note (handOver result))
          Prog.modify fun state => (state.1, { state.2 with connection := result })
          body result)
        fun _ other => Within result count other.1 := by
      refine Triple.bind_ok
        (Triple.callee (note_spec _ (handOver result) (sound_of_holding holding))) ?_
      intro other handed
      exact Preserves.bind
        (setLocals_preserves fun locals => { locals with connection := result })
        (fun _ => bodyKeeps result possibly) other (within_of_stands handed holding)
    exact ⟨result, possibly, rest state stands⟩
  · intro error state given
    obtain ⟨connection, opened, impossible, _⟩ := given
    cases impossible

theorem withThreadConnection_spec {book : Bookkeeping} {known : World → Prop}
    (entered : Sound (enter book))
    (opens : Opens driver (Stands known Sound (enter book)) possible (count + 1))
    (bodyKeeps : ∀ connection, possible connection →
      Preserves (fun state : Thread World × Locals => Within connection (count + 1) state.1)
        (body connection))
    (handlerKeeps : ∀ connection, possible connection →
      Preserves (fun state : Thread World × Locals => Within connection (count + 1) state.1)
        handler) :
    Triple (Stands known Sound book) (withThreadConnection driver body handler) fun _ thread =>
      ∃ connection, possible connection ∧ Within (remaining connection count) count thread := by
  refine Triple.bind_ok (note_spec known enter entered) (Triple.withLocals ?_)
  have tried : Triple (fun state : Thread World × Locals =>
        Stands known Sound (enter book) state.1)
      (catchSqlException (opening driver body) handler) fun _ state =>
        ∃ connection, possible connection ∧ Within connection (count + 1) state.1 := by
    refine Triple.tryCatch (opening_spec driver opens bodyKeeps) ?_ fun _ _ after => after
    intro thrown
    cases thrown with
    | sqlException =>
        intro state given
        obtain ⟨connection, possibly, within⟩ := given
        exact ⟨connection, possibly, handlerKeeps connection possibly state within⟩
    | unchecked => exact Preserves.throw _
  refine Triple.tryFinally tried fun ended => ?_
  intro state given
  obtain ⟨connection, possibly, within⟩ := given
  exact ⟨connection, possibly, cleanUp_spec driver state within⟩

end Methods

section Handing

variable (driver : Driver World) {book : Bookkeeping}

theorem sound_enter (sound : Sound book) : Sound (enter book) := by
  refine ⟨sound.depth, sound.cached, fun held member => ?_⟩
  rcases List.mem_cons.mp member with impossible | old
  · cases impossible
  · exact sound.unclosed held old

theorem sound_obtain (holding : Holding none 0 book) : Sound (obtain (enter book)) := by
  refine ⟨(sound_of_holding holding).depth, ?_, (sound_enter (sound_of_holding holding)).unclosed⟩
  intro other older unclosed
  change other < book.obtained + 1 at older
  change other ∉ book.closeCalls at unclosed
  have closed := holding.closed other
  rw [List.count_eq_zero.mpr unclosed] at closed
  have newest : ¬other < book.obtained := by
    intro earlier
    rw [if_pos ⟨earlier, nofun⟩] at closed
    cases closed
  have same : other = book.obtained := by omega
  exact congrArg some same.symm

theorem holding_enter {held count : Nat} (holding : Holding (some held) count book) :
    Holding (some held) (count + 1)
      (handOver (some held) ((enter book).withDepth (book.depthThreadLocal.getD 0 + 1))) := by
  refine ⟨?_, holding.cached, ?_, holding.obtained, holding.closed⟩
  · change book.depthThreadLocal.getD 0 + 1 = _
    rw [holding.depth]
    rfl
  · change some held :: book.frames = _
    rw [holding.frames]
    rfl

theorem holding_answered {connection : Option Nat} (holding : Holding none 0 book)
    (possible : connection = none ∨ connection = some book.obtained) :
    Holding connection 1 (handOver connection
      (((enter book).answered connection).withDepth (book.depthThreadLocal.getD 0 + 1))) := by
  have depth : book.depthThreadLocal.getD 0 + 1 = ((1 : Nat) : Int) := by
    rw [holding.depth]
    rfl
  have frames : connection :: book.frames = List.replicate 1 connection := by
    rw [holding.frames]
    rfl
  rcases possible with missing | present
  · subst missing
    exact ⟨depth, holding.cached, frames, nofun, holding.closed⟩
  · subst present
    refine ⟨depth, rfl, frames, ?_, ?_⟩
    · intro held same
      cases same
      exact Nat.lt_succ_self _
    · intro other
      have closed := holding.closed other
      change book.closeCalls.count other =
        if other < book.obtained + 1 ∧ some book.obtained ≠ some other then 1 else 0
      rw [closed]
      by_cases earlier : other < book.obtained
      · have different : some book.obtained ≠ some other := by
          intro same
          have equal := Option.some.inj same
          omega
        rw [if_pos ⟨earlier, nofun⟩, if_pos ⟨Nat.lt_succ_of_lt earlier, different⟩]
      · rw [if_neg (fun both => earlier both.1), if_neg]
        intro given
        obtain ⟨older, different⟩ := given
        have equal : book.obtained = other := by omega
        exact different (congrArg some equal)

/-- The end of `openThreadConnection`, once it is known which connection is cached. -/
theorem opened_spec {known : World → Prop} (sound : Sound book) :
    Triple (Stands known Sound book)
      (do
        let _ ← incrementDepth
        let thread ← Prog.get
        pure thread.book.connectionThreadLocal)
      fun ended thread => ended = .ok book.connectionThreadLocal ∧
        Stands (fun _ => True) Sound
          (book.withDepth (book.depthThreadLocal.getD 0 + 1)) thread := by
  have nonnegative := sound.depth
  refine Triple.bind_ok (incrementDepth_spec known (sound_withDepth sound nonnegative)
    (sound_withDepth sound (by omega))) ?_
  intro thread reached
  refine ⟨?_, reached.book, trivial, reached.visited⟩
  change Except.ok thread.book.connectionThreadLocal = _
  rw [reached.book]
  rfl

theorem opens_cached (known : World → Prop) {held count : Nat}
    (holding : Holding (some held) (count + 1) book) :
    Opens driver (Stands known Sound (enter book)) (fun connection => connection = some held)
      (count + 2) := by
  have sound := sound_enter (sound_of_holding holding)
  refine Triple.bind_ok (ensureConnection_cached driver holding.cached) ?_
  refine Triple.consequence (opened_spec sound) (fun _ before => before) ?_
  intro ended thread given
  obtain ⟨same, stands⟩ := given
  exact ⟨some held, _, same.trans (congrArg Except.ok holding.cached), rfl, stands,
    holding_enter holding⟩

theorem opens_answered (holding : Holding none 0 book) :
    Opens driver (Stands (Answers driver) Sound (enter book)) (fun _ => True) 1 := by
  refine Triple.bind (ensureConnection_answered driver holding.cached (sound_obtain holding))
    (fun _ => ?_) ?_
  · intro thread given
    obtain ⟨_, connection, possible, stands⟩ := given
    have sound : Sound ((enter book).answered connection) := by
      cases connection with
      | none => exact sound_enter (sound_of_holding holding)
      | some held => exact sound_obtain holding
    have cached : ((enter book).answered connection).connectionThreadLocal = connection := by
      rcases possible with missing | present
      · rw [missing]
        exact holding.cached
      · rw [present]
        rfl
    have depth : ((enter book).answered connection).depthThreadLocal = book.depthThreadLocal := by
      cases connection <;> rfl
    obtain ⟨same, opened⟩ := opened_spec sound thread stands
    rw [cached] at same
    rw [depth] at opened
    exact ⟨connection, _, same, trivial, opened, holding_answered holding possible⟩
  · intro error thread given
    obtain ⟨impossible, _⟩ := given
    cases impossible

end Handing

section Repository

variable (driver : Driver World)

theorem getCustomerById_inner (customerId : Int64) (held count : Nat) :
    Preserves (Within (some held) (count + 1)) (getCustomerById driver customerId) := by
  intro thread within
  have holding := within.holding
  have ended := withThreadConnection_spec driver
    (sound_enter (sound_of_holding holding)) (opens_cached driver (fun _ => True) holding)
    (fun connection _ => findBody_preserves driver (settled_within connection _) customerId
      connection) (fun _ _ => Preserves.pure none) thread ⟨rfl, trivial, within.visited⟩
  obtain ⟨connection, same, after⟩ := ended
  subst same
  exact after

theorem getCustomerById_outer (customerId : Int64) {book : Bookkeeping}
    (holding : Holding none 0 book) :
    Triple (Stands (Answers driver) Sound book) (getCustomerById driver customerId)
      fun _ => Within none 0 := by
  intro thread stands
  obtain ⟨_, _, after⟩ := withThreadConnection_spec driver
    (sound_enter (sound_of_holding holding)) (opens_answered driver holding)
    (fun connection _ => findBody_preserves driver (settled_within connection _) customerId
      connection) (fun _ _ => Preserves.pure none) thread stands
  exact after

theorem readGenerated_preserves (statement held count : Nat) :
    Preserves (fun state : Thread World × Locals => Within (some held) (count + 1) state.1)
      (readGenerated driver statement) := by
  have settled : Settled (Within (some held) (count + 1) : Thread World → Prop) :=
    settled_within _ _
  apply Preserves.bind (call_preserves settled _)
  intro rsForKeys
  cases rsForKeys with
  | none => exact Preserves.throw _
  | some keys =>
      refine Preserves.bind ?_ fun customer =>
        Preserves.bind (call_preserves settled _) fun _ => Preserves.pure _
      apply Preserves.bind (call_preserves settled _)
      intro _
      cases keys with
      | nil => exact Preserves.pure _
      | cons id rest =>
          apply Preserves.bind (call_preserves settled _)
          intro _
          exact Preserves.callee (getCustomerById_inner driver id held count)

theorem saveBody_preserves (customer : Option Customer) (connection : Option Nat) (count : Nat) :
    Preserves (fun state : Thread World × Locals => Within connection (count + 1) state.1)
      (saveBody driver customer connection) := by
  have settled : Settled (Within connection (count + 1) : Thread World → Prop) :=
    settled_within _ _
  cases connection with
  | none => exact fun _ within => within
  | some held =>
      apply Preserves.bind (dereference_preserves _)
      intro connection
      apply Preserves.bind (call_preserves settled _)
      intro _
      apply Preserves.bind (prepare_preserves driver settled _ _ _)
      intro statement
      apply Preserves.bind (dereference_preserves _)
      intro given
      apply Preserves.bind (call_preserves settled _)
      intro _
      apply Preserves.bind (call_preserves settled _)
      intro _
      apply Preserves.bind (call_preserves settled _)
      intro rowsUpdated
      split
      · exact readGenerated_preserves driver statement held count
      · exact Preserves.pure _

theorem saveCustomer_outer (customer : Option Customer) {book : Bookkeeping}
    (holding : Holding none 0 book) :
    Triple (Stands (Answers driver) Sound book) (saveCustomer driver customer)
      fun _ => Within none 0 := by
  intro thread stands
  obtain ⟨_, _, after⟩ := withThreadConnection_spec driver
    (sound_enter (sound_of_holding holding)) (opens_answered driver holding)
    (fun connection _ => saveBody_preserves driver customer connection 0)
    (fun connection _ => rollback_preserves driver (settled_within connection 1)) thread stands
  exact after

theorem opening_unchecked {book : Bookkeeping} {judged : Bookkeeping → Prop}
    (uncached : book.connectionThreadLocal = none)
    (body : Option Nat → Prog Thrown (Thread World × Locals) (Option Customer)) :
    Triple (fun state : Thread World × Locals =>
        Stands (fun world => ¬Answers driver world) judged book state.1)
      (opening driver body) fun ended state =>
        ended = .error .unchecked ∧ Stands (fun _ => True) judged book state.1 := by
  have opens : Triple (Stands (fun world => ¬Answers driver world) judged book)
      (openThreadConnection driver) fun ended thread =>
        ended = .error .unchecked ∧ Stands (fun _ => True) judged book thread :=
    Triple.bind_error (ensureConnection_unchecked driver uncached) fun _ after => ⟨rfl, after⟩
  exact Triple.bind_error (Triple.callee opens) fun _ after => ⟨rfl, after⟩

/-- The `finally` block decrements a depth that was never incremented. -/
theorem closeThreadConnection_unopened {book : Bookkeeping}
    (depth : book.depthThreadLocal.getD 0 = 0) :
    Triple (Stands (fun _ : World => True) (fun _ => True) book) (closeThreadConnection driver)
      fun _ thread => thread.book.depthThreadLocal = some (-1) := by
  have decremented : Triple (Stands (fun _ : World => True) (fun _ => True) book) decrementDepth
      fun ended thread => ended = .ok (book.depthThreadLocal.getD 0 - 1) ∧
        Stands (fun _ => True) (fun _ => True)
          (book.withDepth (book.depthThreadLocal.getD 0 - 1)) thread :=
    decrementDepth_spec _ trivial trivial
  rw [depth] at decremented
  refine Triple.bind_get fun current stands => ?_
  refine Triple.bind_ok (Triple.of_state decremented stands) ?_
  rw [if_neg (by decide)]
  intro thread reached
  exact congrArg Bookkeeping.depthThreadLocal reached.book

/-- If the data source throws something unchecked, the depth is decremented all the same. -/
theorem withThreadConnection_unchecked {book : Bookkeeping} (holding : Holding none 0 book)
    (body : Option Nat → Prog Thrown (Thread World × Locals) (Option Customer))
    (handler : Prog Thrown (Thread World × Locals) (Option Customer)) :
    Triple (Stands (fun world => ¬Answers driver world) (fun _ => True) book)
      (withThreadConnection driver body handler)
      fun _ thread => thread.book.depthThreadLocal = some (-1) := by
  refine Triple.bind_ok (note_spec _ enter trivial) (Triple.withLocals ?_)
  have uncached : (enter book).connectionThreadLocal = none := holding.cached
  have thrown : Triple (fun state : Thread World × Locals =>
        Stands (fun world => ¬Answers driver world) (fun _ => True) (enter book) state.1)
      (catchSqlException (opening driver body) handler) fun _ state =>
        Stands (fun _ => True) (fun _ => True) (enter book) state.1 := by
    exact Triple.tryCatch_error (opening_unchecked driver uncached body)
      fun _ stands => stands
  refine Triple.tryFinally thrown fun ended => ?_
  refine Triple.bind_ok (Triple.callee (note_spec _ leave trivial)) ?_
  have depth : (leave (enter book)).depthThreadLocal.getD 0 = 0 := holding.depth
  have closes := closeThreadConnection_unopened driver depth
  have settled : Settled fun thread : Thread World => thread.book.depthThreadLocal = some (-1) :=
    fun _ _ holds => holds
  exact Triple.bind (Triple.callee closes) (fun _ => closeStatement_preserves driver settled)
    fun _ _ after => after

end Repository

section Runs

variable (driver : Driver World)

inductive RepositoryCall where
  | saveCustomer (customer : Option Customer)
  | getCustomerById (customerId : Int64)
  deriving DecidableEq

def perform (thread : Thread World) : RepositoryCall → Thread World
  | .saveCustomer customer => (saveCustomer driver customer thread).2
  | .getCustomerById customerId => (getCustomerById driver customerId thread).2

def newThread (world : World) : Thread World :=
  { world := world
    book :=
      { depthThreadLocal := none
        connectionThreadLocal := none
        obtained := 0
        closeCalls := []
        frames := [] }
    visited := [] }

/-- The call leaves nothing behind, and nothing was wrong while it was running. -/
def Tidy (thread : Thread World) (call : RepositoryCall) : Prop :=
  Outside (perform driver thread call).book ∧
    ∀ seen ∈ (perform driver thread call).visited, Sound seen

theorem perform_answered {thread : Thread World} (within : Within none 0 thread)
    (answers : Answers driver thread.world) (call : RepositoryCall) :
    Within none 0 (perform driver thread call) := by
  have stands : Stands (Answers driver) Sound thread.book thread :=
    ⟨rfl, answers, within.visited⟩
  cases call with
  | saveCustomer customer =>
      exact saveCustomer_outer driver customer within.holding thread stands
  | getCustomerById customerId =>
      exact getCustomerById_outer driver customerId within.holding thread stands

theorem perform_unchecked {thread : Thread World} (within : Within none 0 thread)
    (unchecked : ¬Answers driver thread.world) (call : RepositoryCall) :
    (perform driver thread call).book.depthThreadLocal = some (-1) := by
  have stands : Stands (fun world => ¬Answers driver world) (fun _ => True) thread.book thread :=
    ⟨rfl, unchecked, fun _ _ => trivial⟩
  cases call with
  | saveCustomer customer =>
      exact withThreadConnection_unchecked driver within.holding _ _ thread stands
  | getCustomerById customerId =>
      exact withThreadConnection_unchecked driver within.holding _ _ thread stands

theorem tidy_iff_answers {thread : Thread World} (within : Within none 0 thread)
    (call : RepositoryCall) : Tidy driver thread call ↔ Answers driver thread.world := by
  constructor
  · intro given
    obtain ⟨outside, _⟩ := given
    by_contra unchecked
    have depth := perform_unchecked driver within unchecked call
    rcases outside.depth with unset | zero
    · rw [depth] at unset
      cases unset
    · rw [depth] at zero
      cases zero
  · intro answers
    have after := perform_answered driver within answers call
    exact ⟨outside_of_holding after.holding, after.visited⟩

/-- On a thread that calls the repository any number of times, every call is tidy precisely
when the data source never throws something unchecked. -/
theorem tidy_iff_data_source_answers (world : World) (calls : List RepositoryCall) :
    Along (total (perform driver)) (Tidy driver) (newThread world) calls ↔
      Along (total (perform driver)) (fun thread _ => Answers driver thread.world)
        (newThread world) calls := by
  apply along_iff_along (total (perform driver)) (Within none 0) _ _ _ _ calls
  · refine ⟨⟨rfl, rfl, rfl, nofun, ?_⟩, ?_⟩
    · intro other
      rw [if_neg (fun both => Nat.not_lt_zero other both.1)]
      rfl
    · intro seen member
      cases member
  · intro thread call next within answers moved
    cases moved
    exact perform_answered driver within answers call
  · intro thread call within
    exact tidy_iff_answers driver within call

end Runs

def brokenDataSource : Driver Unit where
  getConnection := Prog.throw .unchecked
  setAutoCommit _ _ := pure ()
  rollback _ := pure ()
  closeConnection _ := pure ()
  prepareStatement _ _ _ := pure 0
  setString _ _ _ := pure ()
  setLong _ _ _ := pure ()
  executeUpdate _ := pure 0
  executeQuery _ := pure []
  getGeneratedKeys _ := pure none
  closeStatement _ := pure ()
  next := pure ()
  readColumn _ := pure ()
  closeResultSet := pure ()

theorem depth_negative_after_unchecked :
    (perform brokenDataSource (newThread ()) (.getCustomerById 1)).book.depthThreadLocal =
        some (-1) ∧
      ¬Along (total (perform brokenDataSource)) (Tidy brokenDataSource) (newThread ())
        [.getCustomerById 1] := by
  refine ⟨by decide, ?_⟩
  intro given
  obtain ⟨⟨outside, _⟩, _⟩ := given
  rcases outside.depth with unset | zero
  · cases unset
  · cases zero

end SpringExamples.Jdbc
