/-
The calls of `join` take effect one after another.

A call of `join` takes effect when it puts its user into the map.  The lock keeps the other
joins out from the look at the map to the insertion, so in the order of the insertions the
joins are calls that are never interrupted, however they and the readers interleave.  Only
the user of a join that is under way can be missing.
-/

import SpringExamples.Chat.AtomicRoster

set_option autoImplicit false

namespace SpringExamples.ConcurrentRoster

open Runs

/-- The calls, made one after another in an empty chat room. -/
def inTurn (calls : List (String × String)) : Chat :=
  calls.foldl (fun chat call => (chat.join call.1 call.2).1) Chat.empty

theorem registered_inTurn_append (calls : List (String × String)) (user sessionId : String) :
    (inTurn (calls ++ [(user, sessionId)])).registered =
      Function.update (inTurn calls).registered user (some sessionId) := by
  unfold inTurn
  rw [List.foldl_append]
  exact Chat.registered_join _ user sessionId

def Point.insertion : Point → Choice → List (String × String)
  | .putIfAbsent user sessionId, .proceed => [(user, sessionId)]
  | _, _ => []

/-- The call has the lock. -/
def Point.Synchronized : Point → Prop
  | .containsKey _ _ => True
  | .remove _ _ => True
  | .putIfAbsent _ _ => True
  | .exit _ => True
  | _ => False

theorem respects_of_acts {shared shared' : Shared} {point point' : Point} {choice : Choice}
    (acts : Acts shared point choice shared' point') (held : point.Synchronized →
      shared.locked = true) :
    Pool.Respects Shared.locked Point.Synchronized shared point shared' point' := by
  cases acts with
  | enter user sessionId free =>
      exact ⟨fun _ => Or.inr free, fun _ => rfl, nofun⟩
  | present user sessionId present =>
      exact ⟨fun _ => Or.inl trivial, fun _ => held trivial, fun _ _ => trivial⟩
  | absent user sessionId absent =>
      exact ⟨fun _ => Or.inl trivial, fun _ => held trivial, fun _ _ => trivial⟩
  | remove user sessionId =>
      exact ⟨fun _ => Or.inl trivial, fun _ => held trivial, fun _ _ => trivial⟩
  | put user sessionId =>
      exact ⟨fun _ => Or.inl trivial, fun _ => held trivial, fun _ _ => trivial⟩
  | exit user => exact ⟨False.elim, False.elim, fun _ _ => trivial⟩
  | _ =>
      exact ⟨False.elim, False.elim, fun locked unlocked =>
        absurd (locked.symm.trans unlocked) (Bool.false_ne_true ∘ Eq.symm)⟩

/-- What a call of `join` still has to put into the map. -/
def Point.unplaced : Point → Multiset (String × String)
  | .enter user sessionId => {(user, sessionId)}
  | .containsKey user sessionId => {(user, sessionId)}
  | .remove user sessionId => {(user, sessionId)}
  | .putIfAbsent user sessionId => {(user, sessionId)}
  | _ => 0

/-- Whom a call of `join` has put into the map before it returns. -/
def Point.placed : Point → Multiset String
  | .exit user => {user}
  | .send user => {user}
  | _ => 0

variable {Index : Type}

/-- The calls of `join` that take effect on a run, in the order of their insertions. -/
def insertions [DecidableEq Index] (threads : Threads Index) (labels : List (Index × Choice)) :
    List (String × String) :=
  Pool.noted act Point.insertion threads labels

def Threads.withOrder (threads : Threads Index) (order : List (String × String)) :
    Pool Index (Shared × List (String × String)) Point :=
  { shared := (threads.shared, order)
    locals := threads.locals }

/-- The map holds what the calls in this order make of an empty one, up to the user that is
being replaced, and each call stands in the order exactly once from its insertion on. -/
structure Serial [Fintype Index] (threads : Threads Index) (order : List (String × String)) :
    Prop where
  mutex : Pool.Mutex Shared.locked Point.Synchronized threads
  stored : ∀ user, ¬threads.Replaced user →
    threads.shared.users.lookup user = (inTurn order).registered user
  missing : ∀ index user sessionId, threads.locals index = .putIfAbsent user sessionId →
    user ∉ threads.shared.users
  begun : Pool.Balanced (fun kept => (kept.2 : Multiset (String × String)))
    (fun kept => (kept.1.joins : Multiset (String × String))) Point.unplaced
      (threads.withOrder order)
  returned : Pool.Balanced (fun kept => (kept.1.completed : Multiset String))
    (fun kept => ((kept.2.map Prod.fst : List String) : Multiset String)) Point.placed
      (threads.withOrder order)

section Invariant

theorem serial_start [Fintype Index] : Serial (start : Threads Index) [] where
  mutex := ⟨fun _ _ => False.elim, fun _ _ => False.elim⟩
  stored := fun _ _ => rfl
  missing := nofun
  begun := by simp [Pool.Balanced, Threads.withOrder, start, Point.unplaced]
  returned := by simp [Pool.Balanced, Threads.withOrder, start, Point.placed]

variable {shared shared' : Shared} {point point' : Point} {choice : Choice}

/-- The step books what it begins, inserts and returns. -/
theorem booked_of_acts (acts : Acts shared point choice shared' point')
    (order : List (String × String)) :
    ((order ++ point.insertion choice : List (String × String)) : Multiset (String × String)) +
          point'.unplaced + (shared.joins : Multiset (String × String)) =
        (order : Multiset (String × String)) + point.unplaced +
          (shared'.joins : Multiset (String × String)) ∧
      (shared'.completed : Multiset String) + point'.placed +
          ((order.map Prod.fst : List String) : Multiset String) =
        (shared.completed : Multiset String) + point.placed +
          (((order ++ point.insertion choice).map Prod.fst : List String) : Multiset String) := by
  cases acts with
  | _ => simp [Point.insertion, Point.unplaced, Point.placed, ← Multiset.coe_add,
      add_comm, add_left_comm, add_assoc]

variable [DecidableEq Index] [Fintype Index] {threads : Threads Index} {mover : Index}
  {order : List (String × String)}

omit [DecidableEq Index] in
theorem locked_of_synchronized (serial : Serial threads order)
    (inside : (threads.locals mover).Synchronized) : threads.shared.locked = true := by
  cases locked : threads.shared.locked with
  | true => rfl
  | false => exact absurd inside (serial.mutex.free locked mover)

omit [Fintype Index] in
theorem replaced_of_moved {shared : Shared} {point : Point} {user : String}
    (moved : point.Replaces user) :
    Threads.Replaced { shared := shared, locals := Function.update threads.locals mover point }
      user := by
  refine ⟨mover, ?_⟩
  change (Function.update threads.locals mover point mover).Replaces user
  rw [Function.update_self]
  exact moved

omit [Fintype Index] in
theorem replaced_of_kept {shared : Shared} {point : Point} {user : String}
    (other : ¬(threads.locals mover).Replaces user) (replaced : threads.Replaced user) :
    Threads.Replaced { shared := shared, locals := Function.update threads.locals mover point }
      user := by
  obtain ⟨index, replaces⟩ := replaced
  refine ⟨index, ?_⟩
  change (Function.update threads.locals mover point index).Replaces user
  rw [Function.update_of_ne]
  · exact replaces
  · intro same
    exact other (same ▸ replaces)

theorem stored_step (serial : Serial threads order)
    (acts : Acts threads.shared (threads.locals mover) choice shared point)
    (user : String)
    (settled : ¬Threads.Replaced
      { shared := shared, locals := Function.update threads.locals mover point } user) :
    shared.users.lookup user =
      (inTurn (order ++ (threads.locals mover).insertion choice)).registered user := by
  have missing := serial.missing mover
  have before : ¬(threads.locals mover).Replaces user → threads.shared.users.lookup user =
      (inTurn order).registered user := fun other =>
    serial.stored user fun replaced => settled (replaced_of_kept other replaced)
  have after : ¬point.Replaces user := fun moved => settled (replaced_of_moved moved)
  generalize threads.locals mover = old at acts before missing
  cases acts with
  | remove gone sessionId =>
      have other : user ≠ gone := fun same => after same.symm
      change (threads.shared.users.erase gone).lookup user = (inTurn (order ++ [])).registered user
      rw [AList.lookup_erase_ne other, List.append_nil]
      exact before id
  | put new sessionId =>
      have absent := missing new sessionId rfl
      change (Users.putIfAbsent threads.shared.users new sessionId).lookup user =
        (inTurn (order ++ [(new, sessionId)])).registered user
      rw [Users.putIfAbsent, if_neg absent, registered_inTurn_append]
      by_cases same : user = new
      · subst same
        rw [AList.lookup_insert, Function.update_self]
      · rw [AList.lookup_insert_ne same, Function.update_of_ne same]
        exact before fun equal => same (Eq.symm equal)
  | _ =>
      exact (before id).trans
        (congrArg (fun calls => (inTurn calls).registered user) (List.append_nil order).symm)

theorem missing_step (serial : Serial threads order)
    (acts : Acts threads.shared (threads.locals mover) choice shared point)
    (index : Index) (user sessionId : String)
    (placing : Function.update threads.locals mover point index = .putIfAbsent user sessionId) :
    user ∉ shared.users := by
  by_cases own : index = mover
  · subst own
    rw [Function.update_self] at placing
    generalize threads.locals index = old at acts
    cases acts with
    | absent new newSession absent =>
        cases placing
        exact absent
    | remove gone goneSession =>
        cases placing
        exact fun stored => (AList.mem_erase.mp stored).1 rfl
    | _ => cases placing
  · rw [Function.update_of_ne own] at placing
    have absent := serial.missing index user sessionId placing
    have outside : ¬(threads.locals mover).Synchronized := fun inside =>
      own (serial.mutex.alone index mover (placing ▸ trivial) inside)
    generalize threads.locals mover = old at acts outside
    cases acts with
    | remove gone goneSession => exact absurd trivial outside
    | put new newSession => exact absurd trivial outside
    | _ => exact absent

theorem serial_step {next : Threads Index} {label : Index × Choice}
    (serial : Serial threads order) (moved : Pool.step act threads label = some next) :
    Serial next (order ++ (threads.locals label.1).insertion label.2) := by
  obtain ⟨mover, choice⟩ := label
  obtain ⟨shared, point, acted, same⟩ := Pool.step_some act moved
  subst same
  have acts := act_acts acted
  obtain ⟨begun, returned⟩ := booked_of_acts acts order
  constructor
  · exact Pool.mutex_step serial.mutex
      (respects_of_acts acts fun inside => locked_of_synchronized serial inside)
  · exact stored_step serial acts
  · exact missing_step serial acts
  · exact (Pool.balanced_step_iff _ _ _ mover (shared, _) point serial.begun).mpr begun
  · exact (Pool.balanced_step_iff _ _ _ mover (shared, _) point serial.returned).mpr returned

theorem serial_run {labels : List (Index × Choice)} {last : Threads Index}
    (serial : Serial threads order) (ran : run (Pool.step act) threads labels = some last) :
    Serial last (order ++ insertions threads labels) :=
  Pool.noted_invariant Point.insertion (fun _ threads order => Serial threads order)
    (fun _ _ _ _ _ serial moved => serial_step serial moved) [] serial ran

end Invariant

section Results

variable [Fintype Index] {threads : Threads Index} {order : List (String × String)}

theorem lookup_of_replaced (serial : Serial threads order) {user : String}
    (replaced : threads.Replaced user) : threads.shared.users.lookup user = none := by
  obtain ⟨index, replaces⟩ := replaced
  have missing := serial.missing index
  generalize threads.locals index = point at replaces missing
  cases point with
  | putIfAbsent other sessionId =>
      cases replaces
      exact AList.lookup_eq_none.mpr (missing user sessionId rfl)
  | _ => exact replaces.elim

theorem completed_subperm (serial : Serial threads order) :
    threads.shared.completed.Subperm (order.map Prod.fst) := by
  have returned := serial.returned
  unfold Pool.Balanced at returned
  exact Multiset.coe_le.mp ((Multiset.le_add_right _ _).trans_eq returned)

theorem subperm_joins (serial : Serial threads order) :
    order.Subperm threads.shared.joins := by
  have begun := serial.begun
  unfold Pool.Balanced at begun
  exact Multiset.coe_le.mp ((Multiset.le_add_right _ _).trans_eq begun)

/-- When every call has returned, the order holds exactly the calls. -/
theorem perm_of_idle (serial : Serial threads order)
    (returned : ∀ index, threads.locals index = .idle) : order.Perm threads.shared.joins :=
  Multiset.coe_eq_coe.mp (Pool.held_of_balanced serial.begun fun index =>
    congrArg Point.unplaced (returned index))

theorem getUsers_of_registered {first second : Chat}
    (same : first.registered = second.registered) : first.getUsers = second.getUsers := by
  ext text
  rw [Chat.mem_getUsers, Chat.mem_getUsers, same]

theorem getUsers_of_idle (serial : Serial threads order)
    (returned : ∀ index, threads.locals index = .idle) {chat : Chat}
    (stored : chat.users = threads.shared.users) :
    chat.getUsers = (inTurn order).getUsers := by
  apply getUsers_of_registered
  funext user
  refine (congrArg (AList.lookup user) stored).trans (serial.stored user ?_)
  intro replaced
  obtain ⟨index, replaces⟩ := replaced
  rw [returned index] at replaces
  exact replaces

/-- However joins and readers interleave, at every moment the map is what the joins so far
make one after another, but for a user that is being replaced and is missing.  A call that
returned before another began comes before it, and at rest the order holds all the calls. -/
theorem joins_take_effect_in_order [DecidableEq Index] (labels : List (Index × Choice))
    (last : Threads Index) (ran : run (Pool.step act) start labels = some last) :
    (∀ user, last.shared.users.lookup user = (inTurn (insertions start labels)).registered user ∨
      last.Replaced user ∧ last.shared.users.lookup user = none) ∧
    (∀ first later middle, labels = first ++ later →
      run (Pool.step act) start first = some middle →
        insertions start labels = insertions start first ++ insertions middle later ∧
          middle.shared.completed.Subperm ((insertions start first).map Prod.fst) ∧
            (insertions start first).Subperm middle.shared.joins) ∧
    ((∀ index, last.locals index = .idle) →
      (insertions start labels).Perm last.shared.joins ∧
        ∀ chat : Chat, chat.users = last.shared.users →
          chat.getUsers = (inTurn (insertions start labels)).getUsers) := by
  have serial : Serial last (insertions start labels) := serial_run serial_start ran
  refine ⟨?_, ?_, ?_⟩
  · intro user
    by_cases replaced : last.Replaced user
    · exact Or.inr ⟨replaced, lookup_of_replaced serial replaced⟩
    · exact Or.inl (serial.stored user replaced)
  · intro first later middle split reached
    have until_then : Serial middle (insertions start first) := serial_run serial_start reached
    subst split
    exact ⟨Pool.noted_append Point.insertion reached later, completed_subperm until_then,
      subperm_joins until_then⟩
  · intro returned
    exact ⟨perm_of_idle serial returned, fun chat stored =>
      getUsers_of_idle serial returned stored⟩

def Point.isIdle : Point → Bool
  | .idle => true
  | _ => false

theorem idle_of_isIdle {point : Point} (idle : point.isIdle = true) : point = .idle := by
  cases point with
  | idle => rfl
  | _ => cases idle

/-- Two threads join Alice at once: the one that got the lock second has her session. -/
theorem alice_joins_twice_at_once :
    ∃ last : Threads Bool,
      run (Pool.step act) start
          ([(false, .join "alice" "first"), (true, .join "alice" "second"), (true, .proceed)] ++
            List.replicate 4 (true, .proceed) ++ List.replicate 6 (false, .proceed)) =
          some last ∧
        ∀ chat : Chat, chat.users = last.shared.users →
          chat.getUsers = (inTurn [("alice", "second"), ("alice", "first")]).getUsers := by
  obtain ⟨last, ran, idle⟩ := exists_run_of_any (Pool.step act) (start : Threads Bool)
    ([(false, .join "alice" "first"), (true, .join "alice" "second"), (true, .proceed)] ++
      List.replicate 4 (true, .proceed) ++ List.replicate 6 (false, .proceed))
    (fun last => ∀ index, (last.locals index).isIdle = true) (by decide +kernel)
  have order : insertions (start : Threads Bool)
      ([(false, .join "alice" "first"), (true, .join "alice" "second"), (true, .proceed)] ++
        List.replicate 4 (true, .proceed) ++ List.replicate 6 (false, .proceed)) =
      [("alice", "second"), ("alice", "first")] := by decide +kernel
  have settled := ((joins_take_effect_in_order _ last ran).2.2
    fun index => idle_of_isIdle (idle index)).2
  rw [order] at settled
  exact ⟨last, ran, settled⟩

end Results

end SpringExamples.ConcurrentRoster
