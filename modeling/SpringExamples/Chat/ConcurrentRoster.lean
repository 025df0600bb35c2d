/-
Concurrent calls of `join`, `directMessage` and `getUsers`.

Each call is cut at its operations on the map.  `join` looks for its user, removes it and
puts it again, holding a lock that the two others do not ask for.  `getUsers` creates an
iterator over the keys and looks each of them up; the iterator passes over no key that
stays in the map, and returns none that was never there since it was created.  What was
joined, what was read and what was listed is recorded.
-/

import SpringExamples.Foundation.Pool
import SpringExamples.Chat.ChatRoom

set_option autoImplicit false

namespace SpringExamples.ConcurrentRoster

open Runs

/-- What a direct message found, and whether its addressee had joined by then. -/
structure DirectRead where
  user : String
  joined : Bool
  found : Option String
  deriving DecidableEq

/-- What a call of `getUsers` returned, and who had joined before it was called. -/
structure Listing where
  known : List String
  usrs : List (String × Option String)
  deriving DecidableEq

structure Shared where
  users : Users
  locked : Bool
  /-- The keys that were put into the map and taken out of it, oldest first. -/
  inserted : List String
  removed : List String
  joins : List (String × String)
  completed : List String
  reads : List DirectRead
  listings : List Listing

structure Walk where
  known : List String
  /-- The map and its history when the iterator was created. -/
  keys : List String
  inserted : Nat
  removed : Nat
  visited : List String
  usrs : List (String × Option String)

inductive Point where
  | idle
  | enter (user sessionId : String)
  | containsKey (user sessionId : String)
  | remove (user sessionId : String)
  | putIfAbsent (user sessionId : String)
  | exit (user : String)
  | send (user : String)
  | get (user : String)
  | keySet (known : List String)
  | next (walk : Walk)
  | value (walk : Walk) (k : String)

inductive Choice where
  | join (user sessionId : String)
  | directMessage (user : String)
  | getUsers
  | visit (k : String)
  | proceed
  deriving DecidableEq

def Walk.start (shared : Shared) (known : List String) : Walk :=
  { known := known
    keys := shared.users.keys
    inserted := shared.inserted.length
    removed := shared.removed.length
    visited := []
    usrs := [] }

def Walk.MayVisit (shared : Shared) (walk : Walk) (k : String) : Prop :=
  k ∈ walk.keys ∨ k ∈ shared.inserted.drop walk.inserted

def Walk.Exhausted (shared : Shared) (walk : Walk) : Prop :=
  ∀ k ∈ walk.keys, k ∉ shared.removed.drop walk.removed → k ∈ walk.visited

instance (shared : Shared) (walk : Walk) (k : String) : Decidable (walk.MayVisit shared k) := by
  unfold Walk.MayVisit
  infer_instance

instance (shared : Shared) (walk : Walk) : Decidable (walk.Exhausted shared) := by
  unfold Walk.Exhausted
  infer_instance

def act (shared : Shared) : Point → Choice → Option (Shared × Point)
  | .idle, .join user sessionId =>
      some ({ shared with joins := shared.joins ++ [(user, sessionId)] }, .enter user sessionId)
  | .enter user sessionId, .proceed =>
      if shared.locked then none
      else some ({ shared with locked := true }, .containsKey user sessionId)
  | .containsKey user sessionId, .proceed =>
      if user ∈ shared.users then some (shared, .remove user sessionId)
      else some (shared, .putIfAbsent user sessionId)
  | .remove user sessionId, .proceed =>
      some ({ shared with
        users := shared.users.erase user
        removed := shared.removed ++ [user] }, .putIfAbsent user sessionId)
  | .putIfAbsent user sessionId, .proceed =>
      some ({ shared with
        users := Users.putIfAbsent shared.users user sessionId
        inserted := shared.inserted ++ [user] }, .exit user)
  | .exit user, .proceed => some ({ shared with locked := false }, .send user)
  | .send user, .proceed =>
      some ({ shared with completed := shared.completed ++ [user] }, .idle)
  | .idle, .directMessage user => some (shared, .get user)
  | .get user, .proceed =>
      some ({ shared with
        reads := shared.reads ++
          [⟨user, decide (user ∈ shared.completed), shared.users.lookup user⟩] }, .idle)
  | .idle, .getUsers => some (shared, .keySet shared.completed)
  | .keySet known, .proceed => some (shared, .next (Walk.start shared known))
  | .next walk, .visit k =>
      if walk.MayVisit shared k then
        some (shared, .value { walk with visited := walk.visited ++ [k] } k)
      else none
  | .value walk k, .proceed =>
      some (shared, .next { walk with usrs := walk.usrs ++ [(k, shared.users.lookup k)] })
  | .next walk, .proceed =>
      if walk.Exhausted shared then
        some ({ shared with listings := shared.listings ++ [⟨walk.known, walk.usrs⟩] }, .idle)
      else none
  | _, _ => none

/-- Everything a step can do, one case for each way a step can go. -/
inductive Acts (shared : Shared) : Point → Choice → Shared → Point → Prop where
  | join (user sessionId : String) :
      Acts shared .idle (.join user sessionId)
        { shared with joins := shared.joins ++ [(user, sessionId)] } (.enter user sessionId)
  | enter (user sessionId : String) (free : shared.locked = false) :
      Acts shared (.enter user sessionId) .proceed { shared with locked := true }
        (.containsKey user sessionId)
  | present (user sessionId : String) (present : user ∈ shared.users) :
      Acts shared (.containsKey user sessionId) .proceed shared (.remove user sessionId)
  | absent (user sessionId : String) (absent : user ∉ shared.users) :
      Acts shared (.containsKey user sessionId) .proceed shared (.putIfAbsent user sessionId)
  | remove (user sessionId : String) :
      Acts shared (.remove user sessionId) .proceed
        { shared with
          users := shared.users.erase user
          removed := shared.removed ++ [user] } (.putIfAbsent user sessionId)
  | put (user sessionId : String) :
      Acts shared (.putIfAbsent user sessionId) .proceed
        { shared with
          users := Users.putIfAbsent shared.users user sessionId
          inserted := shared.inserted ++ [user] } (.exit user)
  | exit (user : String) :
      Acts shared (.exit user) .proceed { shared with locked := false } (.send user)
  | send (user : String) :
      Acts shared (.send user) .proceed
        { shared with completed := shared.completed ++ [user] } .idle
  | directMessage (user : String) : Acts shared .idle (.directMessage user) shared (.get user)
  | get (user : String) :
      Acts shared (.get user) .proceed
        { shared with
          reads := shared.reads ++
            [⟨user, decide (user ∈ shared.completed), shared.users.lookup user⟩] } .idle
  | getUsers : Acts shared .idle .getUsers shared (.keySet shared.completed)
  | keySet (known : List String) :
      Acts shared (.keySet known) .proceed shared (.next (Walk.start shared known))
  | visit (walk : Walk) (k : String) (may : walk.MayVisit shared k) :
      Acts shared (.next walk) (.visit k) shared
        (.value { walk with visited := walk.visited ++ [k] } k)
  | value (walk : Walk) (k : String) :
      Acts shared (.value walk k) .proceed shared
        (.next { walk with usrs := walk.usrs ++ [(k, shared.users.lookup k)] })
  | finish (walk : Walk) (exhausted : walk.Exhausted shared) :
      Acts shared (.next walk) .proceed
        { shared with listings := shared.listings ++ [⟨walk.known, walk.usrs⟩] } .idle

theorem act_acts {shared shared' : Shared} {point point' : Point} {choice : Choice}
    (acted : act shared point choice = some (shared', point')) :
    Acts shared point choice shared' point' := by
  cases choice with
  | join user sessionId =>
      cases point with
      | idle => cases acted; exact .join user sessionId
      | _ => cases acted
  | directMessage user =>
      cases point with
      | idle => cases acted; exact .directMessage user
      | _ => cases acted
  | getUsers =>
      cases point with
      | idle => cases acted; exact .getUsers
      | _ => cases acted
  | visit k =>
      cases point with
      | next walk =>
          obtain ⟨may, same⟩ := Option.ite_none_right_eq_some.mp acted
          cases same
          exact .visit walk k may
      | _ => cases acted
  | proceed =>
      cases point with
      | idle => cases acted
      | enter user sessionId =>
          obtain ⟨free, same⟩ := Option.ite_none_left_eq_some.mp acted
          cases same
          exact .enter user sessionId (Bool.eq_false_iff.mpr free)
      | containsKey user sessionId =>
          dsimp only [act] at acted
          split at acted
          · rename_i present
            cases acted
            exact .present user sessionId present
          · rename_i absent
            cases acted
            exact .absent user sessionId absent
      | remove user sessionId => cases acted; exact .remove user sessionId
      | putIfAbsent user sessionId => cases acted; exact .put user sessionId
      | exit user => cases acted; exact .exit user
      | send user => cases acted; exact .send user
      | get user => cases acted; exact .get user
      | keySet known => cases acted; exact .keySet known
      | next walk =>
          obtain ⟨exhausted, same⟩ := Option.ite_none_right_eq_some.mp acted
          cases same
          exact .finish walk exhausted
      | value walk k => cases acted; exact .value walk k

abbrev Threads (Index : Type) := Pool Index Shared Point

def start {Index : Type} : Threads Index :=
  { shared :=
      { users := ∅
        locked := false
        inserted := []
        removed := []
        joins := []
        completed := []
        reads := []
        listings := [] }
    locals := fun _ => .idle }

variable {Index : Type}

section Solo

variable {shared : Shared} {chat : Chat}

theorem solo_join (stored : shared.users = chat.users) (free : shared.locked = false)
    (user sessionId : String) :
    ∃ choices, run (Pool.solo act) (shared, .idle) choices =
      some ({ shared with
        users := (chat.join user sessionId).1.users
        inserted := shared.inserted ++ [user]
        removed := if user ∈ chat.users then shared.removed ++ [user] else shared.removed
        joins := shared.joins ++ [(user, sessionId)]
        completed := shared.completed ++ [user] }, .idle) := by
  unfold Chat.join
  by_cases present : user ∈ chat.users
  · refine ⟨.join user sessionId :: List.replicate 6 .proceed, ?_⟩
    simp [run, Pool.solo, act, free, stored, present]
  · refine ⟨.join user sessionId :: List.replicate 5 .proceed, ?_⟩
    simp [run, Pool.solo, act, free, stored, present]

/-- The loop of `getUsers` over keys that are in the map. -/
theorem solo_walk (keys : List String) (walk : Walk) (within : keys ⊆ walk.keys) :
    run (Pool.solo act) (shared, .next walk) (keys.flatMap fun k => [.visit k, .proceed]) =
      some (shared, .next
        { walk with
          visited := walk.visited ++ keys
          usrs := walk.usrs ++ keys.map fun k => (k, shared.users.lookup k) }) := by
  induction keys generalizing walk with
  | nil => simp
  | cons k rest ih =>
      obtain ⟨here, later⟩ := List.cons_subset.mp within
      have may : walk.MayVisit shared k := Or.inl here
      have moved := ih
        { walk with
          visited := walk.visited ++ [k]
          usrs := walk.usrs ++ [(k, shared.users.lookup k)] } later
      rw [List.flatMap_cons, run_append]
      simp only [run, Pool.solo, act, if_pos may, Option.bind_some]
      exact moved.trans (by simp)

theorem solo_finish {walk : Walk} (exhausted : walk.Exhausted shared) :
    run (Pool.solo act) (shared, .next walk) [.proceed] =
      some ({ shared with
        listings := shared.listings ++ [⟨walk.known, walk.usrs⟩] }, .idle) := by
  simp [run, Pool.solo, act, exhausted]

theorem solo_getUsers (stored : shared.users = chat.users) :
    ∃ choices, run (Pool.solo act) (shared, .idle) choices =
      some ({ shared with
        listings := shared.listings ++ [⟨shared.completed, chat.entries⟩] }, .idle) := by
  refine ⟨[.getUsers, .proceed] ++
    (shared.users.keys.flatMap fun k => [.visit k, .proceed]) ++ [.proceed], ?_⟩
  have begun : run (Pool.solo act) (shared, .idle) [.getUsers, .proceed] =
      some (shared, .next (Walk.start shared shared.completed)) := rfl
  rw [run_append, run_append, begun, Option.bind_some,
    solo_walk shared.users.keys _ (List.Subset.refl _), Option.bind_some, solo_finish]
  · unfold Chat.entries
    rw [← stored]
    rfl
  · exact fun k stored _ => stored

section Threads

variable [DecidableEq Index] {threads : Threads Index} {index : Index}

/-- A call of `join` that is never interrupted does what `join` does. -/
theorem uninterrupted_join (stored : threads.shared.users = chat.users)
    (free : threads.shared.locked = false) (outside : threads.locals index = .idle)
    (user sessionId : String) :
    ∃ choices : List Choice, ∃ after,
      run (Pool.step act) threads (choices.map fun choice => (index, choice)) =
        some { shared := after, locals := threads.locals } ∧
      after.users = (chat.join user sessionId).1.users := by
  obtain ⟨choices, ran⟩ := solo_join stored free user sessionId
  rw [← outside] at ran
  have pooled := Pool.run_solo act ran
  rw [Function.update_eq_self] at pooled
  exact ⟨choices, _, pooled, rfl⟩

/-- A call of `getUsers` that is never interrupted lists what `getUsers` lists. -/
theorem uninterrupted_getUsers (stored : threads.shared.users = chat.users)
    (outside : threads.locals index = .idle) :
    ∃ choices : List Choice,
      run (Pool.step act) threads (choices.map fun choice => (index, choice)) =
        some
          { shared := { threads.shared with
              listings := threads.shared.listings ++
                [⟨threads.shared.completed, chat.entries⟩] }
            locals := threads.locals } := by
  obtain ⟨choices, ran⟩ := solo_getUsers stored
  rw [← outside] at ran
  have pooled := Pool.run_solo act ran
  rw [Function.update_eq_self] at pooled
  exact ⟨choices, pooled⟩

end Threads

end Solo

end SpringExamples.ConcurrentRoster
