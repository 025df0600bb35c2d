/-
Whether the operations on the roster appear atomic.

A user that has joined is in the map, or a call of `join` is about to put it there again.
Only in between can a reader miss it, and the lock does not keep the readers out.
-/

import SpringExamples.Chat.ConcurrentRoster

set_option autoImplicit false

namespace SpringExamples.ConcurrentRoster

open Runs

def Supplied (shared : Shared) (user : String) (found : Option String) : Prop :=
  ∃ sessionId, found = some sessionId ∧ (user, sessionId) ∈ shared.joins

/-- Whoever had joined is found with a session that one of the joins supplied. -/
structure Atomic (shared : Shared) : Prop where
  reads : ∀ read ∈ shared.reads, read.joined = true → Supplied shared read.user read.found
  listed : ∀ listing ∈ shared.listings, ∀ user ∈ listing.known,
    ∃ found, (user, found) ∈ listing.usrs
  supplied : ∀ listing ∈ shared.listings, ∀ user ∈ listing.known, ∀ found,
    (user, found) ∈ listing.usrs → Supplied shared user found

/-- The user is about to be put into the map. -/
def Point.Replaces (user : String) : Point → Prop
  | .putIfAbsent replaced _ => replaced = user
  | _ => False

/-- The user had joined before the call, and the call has not come to it yet. -/
def Point.Awaits (user : String) : Point → Prop
  | .next walk => user ∈ walk.known ∧ user ∉ walk.visited
  | .value walk _ => user ∈ walk.known ∧ user ∉ walk.visited
  | _ => False

variable {Index : Type}

def Threads.Replaced (threads : Threads Index) (user : String) : Prop :=
  ∃ index, (threads.locals index).Replaces user

/-- No user that has joined is looked up, and no iterator that should return it is created
or on its way to it, between the removal of the user and the insertion that follows. -/
def Undisturbed (threads : Threads Index) (label : Index × Choice) : Prop :=
  label.2 = .proceed →
    match threads.locals label.1 with
    | .remove user _ => ∀ index, ¬(threads.locals index).Awaits user
    | .get user => user ∈ threads.shared.completed → ¬threads.Replaced user
    | .keySet known => ∀ user ∈ known, ¬threads.Replaced user
    | .value walk k => k ∈ walk.known → ¬threads.Replaced k
    | _ => True

section Maps

variable {users : Users} {user other sessionId found : String}

theorem mem_putIfAbsent : other ∈ Users.putIfAbsent users user sessionId ↔
    other = user ∨ other ∈ users := by
  unfold Users.putIfAbsent
  split
  · rename_i present
    constructor
    · exact Or.inr
    · intro given
      rcases given with same | member
      · exact same ▸ present
      · exact member
  · exact AList.mem_insert users

theorem lookup_putIfAbsent (looked : (Users.putIfAbsent users user sessionId).lookup other =
      some found) :
    (other = user ∧ found = sessionId) ∨ users.lookup other = some found := by
  unfold Users.putIfAbsent at looked
  split at looked
  · exact Or.inr looked
  · by_cases same : other = user
    · subst same
      rw [AList.lookup_insert] at looked
      cases looked
      exact Or.inl ⟨rfl, rfl⟩
    · rw [AList.lookup_insert_ne same] at looked
      exact Or.inr looked

theorem lookup_of_lookup_erase (looked : (users.erase user).lookup other = some found) :
    users.lookup other = some found := by
  by_cases same : other = user
  · subst same
    rw [AList.lookup_erase] at looked
    cases looked
  · rw [AList.lookup_erase_ne same] at looked
    exact looked

end Maps

section Histories

/-- What a step can do to the record of the calls, and the user that it removes. -/
structure Later (shared shared' : Shared) (gone : List String) : Prop where
  joins : shared.joins ⊆ shared'.joins
  completed : shared.completed ⊆ shared'.completed
  removed : shared'.removed = shared.removed ++ gone

def Point.gone : Point → Choice → List String
  | .remove user _, .proceed => [user]
  | _, _ => []

variable {shared shared' : Shared} {point point' : Point} {choice : Choice}
  {gone : List String}

theorem later_of_unchanged (joins : shared'.joins = shared.joins)
    (completed : shared'.completed = shared.completed)
    (removed : shared'.removed = shared.removed) : Later shared shared' [] where
  joins := by rw [joins]; exact List.Subset.refl _
  completed := by rw [completed]; exact List.Subset.refl _
  removed := by rw [removed, List.append_nil]

theorem later_of_acts (acts : Acts shared point choice shared' point') :
    Later shared shared' (point.gone choice) := by
  cases acts with
  | join user sessionId =>
      exact ⟨List.subset_append_left _ _, List.Subset.refl _, (List.append_nil _).symm⟩
  | send user =>
      exact ⟨List.Subset.refl _, List.subset_append_left _ _, (List.append_nil _).symm⟩
  | remove user sessionId => exact ⟨List.Subset.refl _, List.Subset.refl _, rfl⟩
  | _ => exact later_of_unchanged rfl rfl rfl

theorem supplied_later {user : String} {found : Option String}
    (supplied : Supplied shared user found) (later : Later shared shared' gone) :
    Supplied shared' user found := by
  obtain ⟨sessionId, same, joined⟩ := supplied
  exact ⟨sessionId, same, later.joins joined⟩

/-- What is known of a call of `getUsers` while it runs: whoever had joined before was
visited, or stays in the map until it is. -/
structure Walks (shared : Shared) (walk : Walk) (pending : Option String) : Prop where
  known : ∀ user ∈ walk.known, user ∈ shared.completed
  history : walk.removed ≤ shared.removed.length
  due : ∀ user ∈ walk.known, user ∈ walk.visited ∨
    (user ∈ walk.keys ∧ user ∉ shared.removed.drop walk.removed)
  listed : ∀ user ∈ walk.known, user ∈ walk.visited → pending ≠ some user →
    ∃ found, (user, found) ∈ walk.usrs
  supplied : ∀ user ∈ walk.known, ∀ found, (user, found) ∈ walk.usrs →
    Supplied shared user found

variable {walk : Walk} {pending : Option String}

theorem walks_later (walks : Walks shared walk pending) (later : Later shared shared' gone)
    (undisturbed : ∀ user ∈ gone, user ∈ walk.known → user ∈ walk.visited) :
    Walks shared' walk pending where
  known := fun user member => later.completed (walks.known user member)
  history := by
    rw [later.removed, List.length_append]
    exact Nat.le_add_right_of_le walks.history
  due := by
    intro user member
    rcases walks.due user member with visited | ⟨stored, stayed⟩
    · exact Or.inl visited
    · by_cases visited : user ∈ walk.visited
      · exact Or.inl visited
      · refine Or.inr ⟨stored, ?_⟩
        rw [later.removed, List.drop_append_of_le_length walks.history, List.mem_append]
        intro given
        rcases given with before | now
        · exact stayed before
        · exact visited (undisturbed user now member)
  listed := walks.listed
  supplied := fun user member found listed =>
    supplied_later (walks.supplied user member found listed) later

theorem walks_start {known : List String} (completed : ∀ user ∈ known, user ∈ shared.completed)
    (present : ∀ user ∈ known, user ∈ shared.users) :
    Walks shared (Walk.start shared known) none where
  known := completed
  history := Nat.le_refl _
  due := by
    intro user member
    refine Or.inr ⟨AList.mem_keys.mp (present user member), ?_⟩
    change user ∉ shared.removed.drop shared.removed.length
    rw [List.drop_length]
    exact List.not_mem_nil
  listed := nofun
  supplied := nofun

theorem walks_visit (walks : Walks shared walk none) (k : String) :
    Walks shared { walk with visited := walk.visited ++ [k] } (some k) where
  known := walks.known
  history := walks.history
  due := by
    intro user member
    rcases walks.due user member with visited | stays
    · exact Or.inl (List.mem_append_left [k] visited)
    · exact Or.inr stays
  listed := by
    intro user member visited other
    rcases List.mem_append.mp visited with before | now
    · exact walks.listed user member before nofun
    · exact absurd (congrArg some (List.mem_singleton.mp now).symm) other
  supplied := walks.supplied

theorem walks_value {k : String} {found : Option String} (walks : Walks shared walk (some k))
    (right : k ∈ walk.known → Supplied shared k found) :
    Walks shared { walk with usrs := walk.usrs ++ [(k, found)] } none where
  known := walks.known
  history := walks.history
  due := walks.due
  listed := by
    intro user member visited _
    by_cases same : k = user
    · subst same
      exact ⟨found, List.mem_append_right _ List.mem_cons_self⟩
    · have other : some k ≠ some user := fun equal => same (Option.some.inj equal)
      obtain ⟨before, listed⟩ := walks.listed user member visited other
      exact ⟨before, List.mem_append_left _ listed⟩
  supplied := by
    intro user member given listed
    rcases List.mem_append.mp listed with before | now
    · exact walks.supplied user member given before
    · cases List.mem_singleton.mp now
      exact right member

/-- When the iterator is exhausted, it has returned whoever had joined before. -/
theorem visited_of_exhausted (walks : Walks shared walk pending)
    (exhausted : walk.Exhausted shared) {user : String} (member : user ∈ walk.known) :
    user ∈ walk.visited := by
  rcases walks.due user member with visited | ⟨stored, stayed⟩
  · exact visited
  · exact exhausted user stored stayed

def Each (shared : Shared) : Point → Prop
  | .enter user sessionId => (user, sessionId) ∈ shared.joins
  | .containsKey user sessionId => (user, sessionId) ∈ shared.joins
  | .remove user sessionId => (user, sessionId) ∈ shared.joins
  | .putIfAbsent user sessionId => (user, sessionId) ∈ shared.joins
  | .keySet known => ∀ user ∈ known, user ∈ shared.completed
  | .next walk => Walks shared walk none
  | .value walk k => Walks shared walk (some k)
  | _ => True

/-- A call that stands still is not disturbed by the removal of a user it does not await. -/
theorem each_later (each : Each shared point) (later : Later shared shared' gone)
    (undisturbed : ∀ user ∈ gone, ¬point.Awaits user) : Each shared' point := by
  have passed : ∀ walk : Walk, (∀ user ∈ gone, ¬(user ∈ walk.known ∧ user ∉ walk.visited)) →
      ∀ user ∈ gone, user ∈ walk.known → user ∈ walk.visited :=
    fun walk none user member known => by_contra fun unvisited =>
      none user member ⟨known, unvisited⟩
  cases point with
  | enter user sessionId => exact later.joins each
  | containsKey user sessionId => exact later.joins each
  | remove user sessionId => exact later.joins each
  | putIfAbsent user sessionId => exact later.joins each
  | keySet known => exact fun user member => later.completed (each user member)
  | next walk => exact walks_later each later (passed walk undisturbed)
  | value walk k => exact walks_later each later (passed walk undisturbed)
  | _ => trivial

end Histories

section Presence

/-- The user was put into the map by a call that has not returned yet. -/
def Point.Inserted (user : String) : Point → Prop
  | .exit inserted => inserted = user
  | .send inserted => inserted = user
  | _ => False

def Threads.Joined (threads : Threads Index) (user : String) : Prop :=
  user ∈ threads.shared.completed ∨ ∃ index, (threads.locals index).Inserted user

/-- How a step treats a user that is in the map, or is about to be. -/
structure Treats (shared : Shared) (point : Point) (shared' : Shared) (point' : Point)
    (user : String) : Prop where
  stored : user ∈ shared.users → user ∈ shared'.users ∨ point'.Replaces user
  replaced : point.Replaces user → user ∈ shared'.users
  completed : user ∈ shared'.completed → user ∈ shared.completed ∨ point.Inserted user
  inserted : point'.Inserted user → point.Inserted user ∨ user ∈ shared'.users

theorem treats_of_acts {shared shared' : Shared} {point point' : Point} {choice : Choice}
    (acts : Acts shared point choice shared' point') (user : String) :
    Treats shared point shared' point' user := by
  cases acts with
  | remove gone sessionId =>
      refine ⟨?_, False.elim, Or.inl, False.elim⟩
      intro stored
      by_cases same : gone = user
      · exact Or.inr same
      · exact Or.inl (AList.mem_erase.mpr ⟨Ne.symm same, stored⟩)
  | put new sessionId =>
      refine ⟨?_, ?_, Or.inl, ?_⟩
      · exact fun stored => Or.inl (mem_putIfAbsent.mpr (Or.inr stored))
      · exact fun same => mem_putIfAbsent.mpr (Or.inl (Eq.symm same))
      · exact fun same => Or.inr (mem_putIfAbsent.mpr (Or.inl (Eq.symm same)))
  | exit new => exact ⟨Or.inl, False.elim, Or.inl, Or.inl⟩
  | send new =>
      refine ⟨Or.inl, False.elim, ?_, False.elim⟩
      intro member
      rcases List.mem_append.mp member with before | now
      · exact Or.inl before
      · exact Or.inr (List.mem_singleton.mp now).symm
  | _ => exact ⟨Or.inl, False.elim, Or.inl, False.elim⟩

variable [DecidableEq Index]

/-- Whoever has joined stays in the map, or is about to be put into it again. -/
theorem present_step {threads : Threads Index} {mover : Index} {shared : Shared} {point : Point}
    {user : String}
    (treats : Treats threads.shared (threads.locals mover) shared point user)
    (present : threads.Joined user → user ∈ threads.shared.users ∨ threads.Replaced user) :
    Threads.Joined { shared := shared, locals := Function.update threads.locals mover point }
        user →
      user ∈ shared.users ∨ Threads.Replaced
        { shared := shared, locals := Function.update threads.locals mover point } user := by
  have moved : Function.update threads.locals mover point mover = point :=
    Function.update_self mover point threads.locals
  have later : threads.Joined user → user ∈ shared.users ∨ Threads.Replaced
      { shared := shared, locals := Function.update threads.locals mover point } user := by
    intro joined
    rcases present joined with stored | ⟨index, replaces⟩
    · rcases treats.stored stored with kept | replaces
      · exact Or.inl kept
      · refine Or.inr ⟨mover, ?_⟩
        change (Function.update threads.locals mover point mover).Replaces user
        rw [moved]
        exact replaces
    · by_cases own : index = mover
      · subst own
        exact Or.inl (treats.replaced replaces)
      · refine Or.inr ⟨index, ?_⟩
        change (Function.update threads.locals mover point index).Replaces user
        rw [Function.update_of_ne own]
        exact replaces
  intro joined
  rcases joined with completed | ⟨index, inserted⟩
  · rcases treats.completed completed with before | inserted
    · exact later (Or.inl before)
    · exact later (Or.inr ⟨mover, inserted⟩)
  · change (Function.update threads.locals mover point index).Inserted user at inserted
    by_cases own : index = mover
    · subst own
      rw [moved] at inserted
      rcases treats.inserted inserted with before | stored
      · exact later (Or.inr ⟨index, before⟩)
      · exact Or.inl stored
    · rw [Function.update_of_ne own] at inserted
      exact later (Or.inr ⟨index, inserted⟩)

end Presence

section Runs

structure Sound (threads : Threads Index) : Prop where
  supplied : ∀ user sessionId, threads.shared.users.lookup user = some sessionId →
    (user, sessionId) ∈ threads.shared.joins
  present : ∀ user, threads.Joined user →
    user ∈ threads.shared.users ∨ threads.Replaced user
  each : ∀ index, Each threads.shared (threads.locals index)
  atomic : Atomic threads.shared

theorem sound_start : Sound (start : Threads Index) where
  supplied := nofun
  present := by
    intro user joined
    rcases joined with completed | ⟨index, inserted⟩
    · cases completed
    · exact inserted.elim
  each := fun _ => trivial
  atomic := ⟨nofun, nofun, nofun⟩

variable {threads : Threads Index} {shared : Shared} {point : Point} {choice : Choice}

/-- A user that has joined is found with a session, unless it is being replaced. -/
theorem supplied_of_completed (sound : Sound threads) {user : String}
    (completed : user ∈ threads.shared.completed) (settled : ¬threads.Replaced user) :
    user ∈ threads.shared.users ∧
      Supplied threads.shared user (threads.shared.users.lookup user) := by
  rcases sound.present user (Or.inl completed) with stored | replaced
  · obtain ⟨sessionId, found⟩ := Option.isSome_iff_exists.mp (AList.lookup_isSome.mpr stored)
    exact ⟨stored, sessionId, found, sound.supplied user sessionId found⟩
  · exact absurd replaced settled

theorem supplied_step (sound : Sound threads) {mover : Index}
    (acts : Acts threads.shared (threads.locals mover) choice shared point)
    (user sessionId : String)
    (found : shared.users.lookup user = some sessionId) : (user, sessionId) ∈ shared.joins := by
  have each := sound.each mover
  generalize threads.locals mover = old at acts each
  cases acts with
  | join new newSession => exact List.mem_append_left _ (sound.supplied user sessionId found)
  | remove gone goneSession =>
      exact sound.supplied user sessionId (lookup_of_lookup_erase found)
  | put new newSession =>
      rcases lookup_putIfAbsent found with ⟨same, sameSession⟩ | before
      · subst same sameSession
        exact each
      · exact sound.supplied user sessionId before
  | _ => exact sound.supplied user sessionId found

theorem each_step (sound : Sound threads) {mover : Index}
    (undisturbed : Undisturbed threads (mover, choice))
    (acts : Acts threads.shared (threads.locals mover) choice shared point) :
    Each shared point := by
  have each := sound.each mover
  unfold Undisturbed at undisturbed
  dsimp only at undisturbed
  generalize threads.locals mover = old at acts each undisturbed
  cases acts with
  | join user sessionId => exact List.mem_append_right _ List.mem_cons_self
  | enter user sessionId free => exact each
  | present user sessionId present => exact each
  | absent user sessionId absent => exact each
  | remove user sessionId => exact each
  | getUsers => exact fun user member => member
  | keySet known =>
      apply walks_start each
      intro user member
      exact (supplied_of_completed sound (each user member) (undisturbed rfl user member)).1
  | visit walk k may => exact walks_visit each k
  | value walk k =>
      apply walks_value each
      intro known
      exact (supplied_of_completed sound (each.known k known) (undisturbed rfl known)).2
  | _ => trivial

theorem atomic_later {shared shared' : Shared} {gone : List String} (atomic : Atomic shared)
    (later : Later shared shared' gone) (reads : shared'.reads = shared.reads)
    (listings : shared'.listings = shared.listings) : Atomic shared' where
  reads := by
    rw [reads]
    exact fun read member joined => supplied_later (atomic.reads read member joined) later
  listed := by
    rw [listings]
    exact atomic.listed
  supplied := by
    rw [listings]
    exact fun listing member user known found listed =>
      supplied_later (atomic.supplied listing member user known found listed) later

theorem atomic_read {shared : Shared} (atomic : Atomic shared) {read : DirectRead}
    (right : read.joined = true → Supplied shared read.user read.found) :
    Atomic { shared with reads := shared.reads ++ [read] } where
  reads := by
    intro other member
    rcases List.mem_append.mp member with before | now
    · exact atomic.reads other before
    · rw [List.mem_singleton.mp now]
      exact right
  listed := atomic.listed
  supplied := atomic.supplied

theorem atomic_listing {shared : Shared} (atomic : Atomic shared) {walk : Walk}
    (walks : Walks shared walk none) (exhausted : walk.Exhausted shared) :
    Atomic { shared with listings := shared.listings ++ [⟨walk.known, walk.usrs⟩] } where
  reads := atomic.reads
  listed := by
    intro listing member user known
    rcases List.mem_append.mp member with before | now
    · exact atomic.listed listing before user known
    · rw [List.mem_singleton.mp now] at known ⊢
      exact walks.listed user known (visited_of_exhausted walks exhausted known) nofun
  supplied := by
    intro listing member user known found listed
    rcases List.mem_append.mp member with before | now
    · exact atomic.supplied listing before user known found listed
    · rw [List.mem_singleton.mp now] at known listed
      exact walks.supplied user known found listed

theorem atomic_step (sound : Sound threads) {mover : Index}
    (undisturbed : Undisturbed threads (mover, choice))
    (acts : Acts threads.shared (threads.locals mover) choice shared point) :
    Atomic shared := by
  have each := sound.each mover
  have later := later_of_acts acts
  unfold Undisturbed at undisturbed
  dsimp only at undisturbed
  generalize threads.locals mover = old at acts each undisturbed later
  cases acts with
  | get user =>
      apply atomic_read sound.atomic
      intro joined
      have completed := of_decide_eq_true joined
      exact (supplied_of_completed sound completed (undisturbed rfl completed)).2
  | finish walk exhausted => exact atomic_listing sound.atomic each exhausted
  | _ => exact atomic_later sound.atomic later rfl rfl

/-- The user that a step removes is not awaited by any call. -/
theorem unawaited_of_undisturbed {mover : Index}
    (undisturbed : Undisturbed threads (mover, choice)) :
    ∀ user ∈ (threads.locals mover).gone choice, ∀ index,
      ¬(threads.locals index).Awaits user := by
  unfold Undisturbed at undisturbed
  dsimp only at undisturbed
  generalize threads.locals mover = old at undisturbed
  intro user member
  cases old with
  | remove gone sessionId =>
      cases choice with
      | proceed =>
          rw [List.mem_singleton.mp member]
          exact undisturbed rfl
      | _ => cases member
  | _ => cases member

variable [DecidableEq Index]

theorem sound_step {next : Threads Index} {label : Index × Choice} (sound : Sound threads)
    (undisturbed : Undisturbed threads label) (moved : Pool.step act threads label = some next) :
    Sound next := by
  obtain ⟨mover, choice⟩ := label
  obtain ⟨shared, point, acted, same⟩ := Pool.step_some act moved
  subst same
  have acts := act_acts acted
  constructor
  · exact supplied_step sound acts
  · intro user
    exact present_step (treats_of_acts acts user) (sound.present user)
  · intro index
    change Each shared (Function.update threads.locals mover point index)
    by_cases own : index = mover
    · subst own
      rw [Function.update_self]
      exact each_step sound undisturbed acts
    · rw [Function.update_of_ne own]
      exact each_later (sound.each index) (later_of_acts acts)
        fun user member => unawaited_of_undisturbed undisturbed user member index
  · exact atomic_step sound undisturbed acts

/-- In an undisturbed run the operations on the roster appear atomic. -/
theorem atomic_of_undisturbed (labels : List (Index × Choice))
    (undisturbed : Along (Pool.step act) Undisturbed (start : Threads Index) labels) :
    Throughout (Pool.step act) (fun threads => Atomic threads.shared) (start : Threads Index)
      labels := by
  apply throughout_of_along (Pool.step act) Sound Undisturbed _ _ sound_start undisturbed
  · intro threads label next sound met moved
    exact sound_step sound met moved
  · intro threads sound
    exact sound.atomic

end Runs

section Evaluation

instance (user : String) (point : Point) : Decidable (point.Replaces user) := by
  unfold Point.Replaces
  split
  · infer_instance
  · infer_instance

instance (user : String) (point : Point) : Decidable (point.Awaits user) := by
  unfold Point.Awaits
  split
  · infer_instance
  · infer_instance
  · infer_instance

instance [Fintype Index] (threads : Threads Index) (user : String) :
    Decidable (threads.Replaced user) := by
  unfold Threads.Replaced
  infer_instance

instance [Fintype Index] (threads : Threads Index) :
    DecidablePred (Undisturbed threads) := fun label => by
  unfold Undisturbed
  split
  · infer_instance
  · infer_instance
  · infer_instance
  · infer_instance
  · infer_instance

/-- Alice joins again while the roster is listed and a message is sent to her; the listing has
passed her when she is removed, and the message looks her up when she is back. -/
def aliceJoinsTwice : List (Bool × Choice) :=
  [(false, .join "alice" "first")] ++ List.replicate 5 (false, .proceed) ++
    [(true, .getUsers), (true, .proceed), (true, .visit "alice"), (true, .proceed),
      (false, .join "alice" "second")] ++ List.replicate 3 (false, .proceed) ++
    [(true, .proceed), (true, .directMessage "alice"), (false, .proceed), (true, .proceed),
      (false, .proceed), (false, .proceed)]

theorem alice_is_found :
    Throughout (Pool.step act) (fun threads => Atomic threads.shared) (start : Threads Bool)
      aliceJoinsTwice :=
  atomic_of_undisturbed aliceJoinsTwice (by decide +kernel)

/-- Alice is joining again, and a message to her finds no session. -/
theorem missed_while_joining_again :
    ¬Throughout (Pool.step act) (fun threads => Atomic threads.shared) (start : Threads Bool)
      ([(false, .join "alice" "first")] ++ List.replicate 5 (false, .proceed) ++
        [(false, .join "alice" "second")] ++ List.replicate 3 (false, .proceed) ++
        [(true, .directMessage "alice"), (true, .proceed)]) := by
  intro always
  obtain ⟨last, ran, read⟩ := exists_run_of_any (Pool.step act) (start : Threads Bool)
    ([(false, .join "alice" "first")] ++ List.replicate 5 (false, .proceed) ++
      [(false, .join "alice" "second")] ++ List.replicate 3 (false, .proceed) ++
      [(true, .directMessage "alice"), (true, .proceed)])
    (fun last => ⟨"alice", true, none⟩ ∈ last.shared.reads) (by decide +kernel)
  have atomic := throughout_last (Pool.step act) always ran
  obtain ⟨sessionId, impossible, _⟩ := atomic.reads _ read rfl
  cases impossible

end Evaluation

end SpringExamples.ConcurrentRoster
