/-
Transactions on single rows, under exclusive row locks.

A client works through its accesses, each in a transaction of its own.  An update takes
the lock of its row, computes the new row from the committed one, and commits it or rolls
back; a query reads the committed row.  What an update writes and what a query answers are
parameters.  The history records what took effect, in order; replayed one access after
another it gives the committed rows and every answer.
-/

import Mathlib.Algebra.BigOperators.Group.Finset.Basic
import SpringExamples.Foundation.Pool

set_option autoImplicit false

namespace SpringExamples.RowLocks

open Runs

/-- What an update makes of its row, and what a query answers from its own. -/
structure Statements (Key Value Update Query Answer : Type) where
  updated : Update → Key
  apply : Update → Option Value → Option Value
  queried : Query → Key
  answer : Query → Option Value → Answer

inductive Access (Update Query : Type) where
  | update (change : Update)
  | query (question : Query)
  deriving DecidableEq, Repr

inductive Entry (Index Update Query Answer : Type) where
  | wrote (client : Index) (change : Update)
  | answered (client : Index) (question : Query) (given : Answer)
  deriving DecidableEq, Repr

structure Rows (Key Value Index Update Query Answer : Type) where
  committed : Key → Option Value
  /-- The client whose transaction holds the row's lock. -/
  lock : Key → Option Index
  history : List (Entry Index Update Query Answer)

/-- Where a client stands: between two transactions, in one that has not executed its
statement, or in one that will commit a row. -/
inductive Point (Value Update Query : Type) where
  | outside
  | begun (access : Access Update Query)
  | executed (change : Update) (row : Option Value)
  deriving DecidableEq, Repr

structure Client (Value Index Update Query : Type) where
  me : Index
  accesses : List (Access Update Query)
  point : Point Value Update Query
  deriving DecidableEq, Repr

inductive Choice where
  | proceed
  | rollBack
  deriving DecidableEq, Repr

variable {Key Value Index Update Query Answer : Type}

def Client.Finished (client : Client Value Index Update Query) : Prop :=
  client.accesses = [] ∧ client.point = .outside

section Steps

variable [DecidableEq Key] (statements : Statements Key Value Update Query Answer)

/-- An update whose row is locked waits. -/
def act (rows : Rows Key Value Index Update Query Answer)
    (client : Client Value Index Update Query) (choice : Choice) :
    Option (Rows Key Value Index Update Query Answer × Client Value Index Update Query) :=
  match client.point, choice with
  | .outside, .proceed =>
      match client.accesses with
      | [] => none
      | access :: rest => some (rows, { client with accesses := rest, point := .begun access })
  | .outside, .rollBack => none
  | .begun (.query question), .proceed =>
      let given := statements.answer question (rows.committed (statements.queried question))
      some ({ rows with history := rows.history ++ [.answered client.me question given] },
        { client with point := .outside })
  | .begun (.update change), .proceed =>
      let key := statements.updated change
      match rows.lock key with
      | some _ => none
      | none =>
          some ({ rows with lock := Function.update rows.lock key (some client.me) },
            { client with point := .executed change (statements.apply change
              (rows.committed key)) })
  | .begun _, .rollBack => some (rows, { client with point := .outside })
  | .executed change row, .proceed =>
      let key := statements.updated change
      some (
        { committed := Function.update rows.committed key row
          lock := Function.update rows.lock key none
          history := rows.history ++ [.wrote client.me change] },
        { client with point := .outside })
  | .executed change _, .rollBack =>
      some (
        { rows with lock := Function.update rows.lock (statements.updated change) none },
        { client with point := .outside })

/-- Everything a step can do, one case for each way a step can go. -/
inductive Acts (rows : Rows Key Value Index Update Query Answer) (me : Index) :
    List (Access Update Query) → Point Value Update Query → Choice →
      Rows Key Value Index Update Query Answer → List (Access Update Query) →
      Point Value Update Query → Prop where
  | begin (access : Access Update Query) (rest : List (Access Update Query)) :
      Acts rows me (access :: rest) .outside .proceed rows rest (.begun access)
  | ask (rest : List (Access Update Query)) (question : Query) :
      Acts rows me rest (.begun (.query question)) .proceed
        { rows with history := rows.history ++ [.answered me question
            (statements.answer question (rows.committed (statements.queried question)))] }
        rest .outside
  | lock (rest : List (Access Update Query)) (change : Update)
      (free : rows.lock (statements.updated change) = none) :
      Acts rows me rest (.begun (.update change)) .proceed
        { rows with lock := Function.update rows.lock (statements.updated change) (some me) }
        rest (.executed change
          (statements.apply change (rows.committed (statements.updated change))))
  | abandon (rest : List (Access Update Query)) (access : Access Update Query) :
      Acts rows me rest (.begun access) .rollBack rows rest .outside
  | commit (rest : List (Access Update Query)) (change : Update) (row : Option Value) :
      Acts rows me rest (.executed change row) .proceed
        { committed := Function.update rows.committed (statements.updated change) row
          lock := Function.update rows.lock (statements.updated change) none
          history := rows.history ++ [.wrote me change] }
        rest .outside
  | undo (rest : List (Access Update Query)) (change : Update) (row : Option Value) :
      Acts rows me rest (.executed change row) .rollBack
        { rows with lock := Function.update rows.lock (statements.updated change) none }
        rest .outside

variable {statements}

theorem act_acts {rows rows' : Rows Key Value Index Update Query Answer}
    {client client' : Client Value Index Update Query} {choice : Choice}
    (acted : act statements rows client choice = some (rows', client')) :
    Acts statements rows client.me client.accesses client.point choice rows'
      client'.accesses client'.point ∧ client'.me = client.me := by
  obtain ⟨me, accesses, point⟩ := client
  cases point with
  | outside =>
      cases choice with
      | rollBack => cases acted
      | proceed =>
          cases accesses with
          | nil => cases acted
          | cons access rest =>
              cases acted
              exact ⟨.begin access rest, rfl⟩
  | begun access =>
      cases choice with
      | rollBack =>
          cases access with
          | query question =>
              cases acted
              exact ⟨.abandon accesses (.query question), rfl⟩
          | update change =>
              cases acted
              exact ⟨.abandon accesses (.update change), rfl⟩
      | proceed =>
          cases access with
          | query question =>
              cases acted
              exact ⟨.ask accesses question, rfl⟩
          | update change =>
              cases held : rows.lock (statements.updated change) with
              | some holder =>
                  simp only [act, held] at acted
                  cases acted
              | none =>
                  simp only [act, held] at acted
                  cases acted
                  exact ⟨.lock accesses change held, rfl⟩
  | executed change row =>
      cases choice with
      | proceed =>
          cases acted
          exact ⟨.commit accesses change row, rfl⟩
      | rollBack =>
          cases acted
          exact ⟨.undo accesses change row, rfl⟩

end Steps

section Replay

variable [DecidableEq Key] (statements : Statements Key Value Update Query Answer)

def Entry.after (committed : Key → Option Value) :
    Entry Index Update Query Answer → Key → Option Value
  | .wrote _ change =>
      Function.update committed (statements.updated change)
        (statements.apply change (committed (statements.updated change)))
  | .answered _ _ _ => committed

def Entry.Right (committed : Key → Option Value) : Entry Index Update Query Answer → Prop
  | .wrote _ _ => True
  | .answered _ question given =>
      given = statements.answer question (committed (statements.queried question))

/-- One access after another, the history leads from the first rows to the last, and every
answer is the one its query gets there. -/
def Replays : (Key → Option Value) → List (Entry Index Update Query Answer) →
    (Key → Option Value) → Prop
  | first, [], last => last = first
  | first, entry :: rest, last =>
      entry.Right statements first ∧ Replays (entry.after statements first) rest last

variable {statements}

theorem replays_snoc {first last : Key → Option Value}
    {history : List (Entry Index Update Query Answer)} (entry : Entry Index Update Query Answer)
    (replays : Replays statements first history last) (right : entry.Right statements last) :
    Replays statements first (history ++ [entry]) (entry.after statements last) := by
  induction history generalizing first with
  | nil =>
      have same : last = first := replays
      subst same
      exact ⟨right, rfl⟩
  | cons head rest ih =>
      obtain ⟨here, later⟩ := replays
      exact ⟨here, ih later⟩

theorem replays_append {first last : Key → Option Value}
    {before later : List (Entry Index Update Query Answer)}
    (replays : Replays statements first (before ++ later) last) :
    ∃ middle, Replays statements first before middle ∧
      Replays statements middle later last := by
  induction before generalizing first with
  | nil => exact ⟨first, rfl, replays⟩
  | cons head rest ih =>
      obtain ⟨here, replaysRest⟩ := replays
      obtain ⟨middle, left, right⟩ := ih replaysRest
      exact ⟨middle, ⟨here, left⟩, right⟩

end Replay

/-- The accesses of one client that took effect. -/
def Entry.accessOf [DecidableEq Index] (client : Index) :
    Entry Index Update Query Answer → Option (Access Update Query)
  | .wrote other change => if other = client then some (.update change) else none
  | .answered other question _ => if other = client then some (.query question) else none

def effective [DecidableEq Index] (history : List (Entry Index Update Query Answer))
    (client : Index) : List (Access Update Query) :=
  history.filterMap (Entry.accessOf client)

def Point.current : Point Value Update Query → List (Access Update Query)
  | .outside => []
  | .begun access => [access]
  | .executed change _ => [.update change]

section Interleaving

variable [DecidableEq Key] [DecidableEq Index]
  (statements : Statements Key Value Update Query Answer)

abbrev Clients (Key Value Index Update Query Answer : Type) :=
  Pool Index (Rows Key Value Index Update Query Answer) (Client Value Index Update Query)

def start (committed : Key → Option Value) (programs : Index → List (Access Update Query)) :
    Clients Key Value Index Update Query Answer :=
  { shared := { committed := committed, lock := fun _ => none, history := [] }
    locals := fun index => { me := index, accesses := programs index, point := .outside } }

def transactionStep : Clients Key Value Index Update Query Answer → Index × Choice →
    Option (Clients Key Value Index Update Query Answer) :=
  Pool.step (act statements)

def Point.locks : Point Value Update Query → Option Key
  | .outside => none
  | .begun _ => none
  | .executed change _ => some (statements.updated change)

/-- A client holds exactly the lock of the update it has executed, and the row it will commit
was computed from the one that is still committed. -/
structure Holds (index : Index) (rows : Rows Key Value Index Update Query Answer)
    (point : Point Value Update Query) : Prop where
  locked : ∀ key, rows.lock key = some index ↔ point.locks statements = some key
  fresh : ∀ change row, point = .executed change row →
    row = statements.apply change (rows.committed (statements.updated change))

/-- The history explains the committed rows, and each client respects the locks. -/
def Isolated (first : Key → Option Value)
    (clients : Clients Key Value Index Update Query Answer) : Prop :=
  Replays statements first clients.shared.history clients.shared.committed ∧
    ∀ index, (clients.locals index).me = index ∧
      Holds statements index clients.shared (clients.locals index).point

variable {statements}

omit [DecidableEq Index] in
theorem isolated_start (first : Key → Option Value)
    (programs : Index → List (Access Update Query)) :
    Isolated statements first
      (start first programs : Clients Key Value Index Update Query Answer) :=
  ⟨rfl, fun _ => ⟨rfl, fun _ => iff_of_false nofun nofun, nofun⟩⟩

section Acting

variable {rows rows' : Rows Key Value Index Update Query Answer} {me other : Index}
  {accesses accesses' : List (Access Update Query)} {point point' : Point Value Update Query}
  {choice : Choice}

omit [DecidableEq Index] in
theorem holds_own (acts : Acts statements rows me accesses point choice rows' accesses' point')
    (holds : Holds statements me rows point) : Holds statements me rows' point' := by
  have released : ∀ change row, point = .executed change row → ∀ key,
      Function.update rows.lock (statements.updated change) none key ≠ some me := by
    intro change row stands key
    by_cases same : key = statements.updated change
    · rw [same, Function.update_self]
      exact nofun
    · rw [Function.update_of_ne same, Ne, holds.locked key, stands]
      exact fun equal => same (Option.some.inj equal).symm
  cases acts with
  | begin access rest => exact ⟨holds.locked, nofun⟩
  | ask rest question => exact ⟨holds.locked, nofun⟩
  | abandon rest access => exact ⟨holds.locked, nofun⟩
  | lock rest change free =>
      refine ⟨fun key => ?_, ?_⟩
      · change Function.update rows.lock (statements.updated change) (some me) key = some me ↔
          some (statements.updated change) = some key
        by_cases same : key = statements.updated change
        · rw [same, Function.update_self]
          exact iff_of_true rfl rfl
        · rw [Function.update_of_ne same, holds.locked key]
          exact iff_of_false nofun fun equal => same (Option.some.inj equal).symm
      · intro change' row' stands
        cases stands
        rfl
  | commit rest change row =>
      exact ⟨fun key => iff_of_false (released change row rfl key) nofun, nofun⟩
  | undo rest change row =>
      exact ⟨fun key => iff_of_false (released change row rfl key) nofun, nofun⟩

omit [DecidableEq Index] in
/-- The row of another transaction is not touched: its lock is not the one that is used. -/
theorem holds_other (acts : Acts statements rows me accesses point choice rows' accesses' point')
    (mine : Holds statements me rows point) (different : other ≠ me)
    {standing : Point Value Update Query} (holds : Holds statements other rows standing) :
    Holds statements other rows' standing := by
  have relocked : ∀ change holder, rows.lock (statements.updated change) ≠ some other →
      holder ≠ some other → ∀ key,
        Function.update rows.lock (statements.updated change) holder key = some other ↔
          standing.locks statements = some key := by
    intro change holder free foreign key
    by_cases same : key = statements.updated change
    · subst same
      rw [Function.update_self, ← holds.locked]
      exact iff_of_false foreign free
    · rw [Function.update_of_ne same]
      exact holds.locked key
  have owned : ∀ change row, point = .executed change row →
      rows.lock (statements.updated change) ≠ some other := by
    intro change row stands
    have locked : rows.lock (statements.updated change) = some me :=
      (mine.locked _).mpr (by rw [stands]; rfl)
    rw [locked]
    exact fun same => different (Option.some.inj same).symm
  cases acts with
  | begin access rest => exact holds
  | ask rest question => exact ⟨holds.locked, holds.fresh⟩
  | abandon rest access => exact holds
  | lock rest change free =>
      refine ⟨relocked change (some me) ?_ ?_, holds.fresh⟩
      · rw [free]
        exact nofun
      · exact fun same => different (Option.some.inj same).symm
  | commit rest change row =>
      refine ⟨relocked change none (owned change row rfl) nofun, ?_⟩
      intro change' row' stands
      have away : statements.updated change' ≠ statements.updated change := by
        intro same
        apply owned change row rfl
        rw [holds.locked, stands, ← same]
        rfl
      rw [holds.fresh change' row' stands]
      exact congrArg (statements.apply change') (Function.update_of_ne away _ _).symm
  | undo rest change row =>
      exact ⟨relocked change none (owned change row rfl) nofun, holds.fresh⟩

omit [DecidableEq Index] in
theorem replays_acts {first : Key → Option Value}
    (acts : Acts statements rows me accesses point choice rows' accesses' point')
    (mine : Holds statements me rows point)
    (replays : Replays statements first rows.history rows.committed) :
    Replays statements first rows'.history rows'.committed := by
  cases acts with
  | begin access rest => exact replays
  | ask rest question => exact replays_snoc (.answered me question _) replays rfl
  | lock rest change free => exact replays
  | abandon rest access => exact replays
  | commit rest change row =>
      have fresh := mine.fresh change row rfl
      subst fresh
      exact replays_snoc (.wrote me change) replays trivial
  | undo rest change row => exact replays

end Acting

theorem isolated_step {first : Key → Option Value}
    {clients next : Clients Key Value Index Update Query Answer} {label : Index × Choice}
    (isolated : Isolated statements first clients)
    (moved : transactionStep statements clients label = some next) :
    Isolated statements first next := by
  obtain ⟨named, mine⟩ := isolated.2 label.1
  refine Pool.step_invariant_each (act statements)
    (fun rows => Replays statements first rows.history rows.committed)
    (fun index rows client => client.me = index ∧ Holds statements index rows client.point)
    isolated moved ?_ ?_
  · intro rows client acted
    obtain ⟨acts, kept⟩ := act_acts acted
    rw [named] at acts kept
    exact ⟨replays_acts acts mine isolated.1, kept, holds_own acts mine⟩
  · intro rows client other different acted holds
    obtain ⟨acts, _⟩ := act_acts acted
    rw [named] at acts
    exact ⟨holds.1, holds_other acts mine different holds.2⟩

/-- Every run is equivalent to its history, executed one access after another. -/
theorem replays_run {first : Key → Option Value} {programs : Index → List (Access Update Query)}
    {schedule : List (Index × Choice)}
    {last : Clients Key Value Index Update Query Answer}
    (ran : run (transactionStep statements) (start first programs) schedule = some last) :
    Replays statements first last.shared.history last.shared.committed := by
  have isolated := run_invariant (transactionStep statements) (Isolated statements first)
    (fun clients label next holds moved => isolated_step holds moved)
    (isolated_start first programs) ran
  exact isolated.1

/-- What a client has done, is doing and has still to do. -/
def itinerary (clients : Clients Key Value Index Update Query Answer) (index : Index) :
    List (Access Update Query) :=
  effective clients.shared.history index ++
    ((clients.locals index).point.current ++ (clients.locals index).accesses)

theorem effective_snoc (history : List (Entry Index Update Query Answer))
    (entry : Entry Index Update Query Answer) (index : Index) :
    effective (history ++ [entry]) index =
      effective history index ++ (entry.accessOf index).toList := by
  unfold effective
  rw [List.filterMap_append]
  cases found : entry.accessOf index with
  | none => rw [List.filterMap_cons_none found, List.filterMap_nil, Option.toList_none]
  | some access => rw [List.filterMap_cons_some found, List.filterMap_nil, Option.toList_some]

/-- Only a transaction rolled back drops out of what its client has done, is doing and has
still to do. -/
theorem acts_own {rows rows' : Rows Key Value Index Update Query Answer} {me : Index}
    {accesses accesses' : List (Access Update Query)} {point point' : Point Value Update Query}
    {choice : Choice}
    (acts : Acts statements rows me accesses point choice rows' accesses' point') :
    (effective rows'.history me ++ (point'.current ++ accesses')).Sublist
        (effective rows.history me ++ (point.current ++ accesses)) ∧
      (choice = .proceed →
        effective rows'.history me ++ (point'.current ++ accesses') =
          effective rows.history me ++ (point.current ++ accesses)) := by
  have settled : ∀ (entry : Entry Index Update Query Answer) (access : Access Update Query),
      entry.accessOf me = some access →
        effective (rows.history ++ [entry]) me ++ ([] ++ accesses) =
          effective rows.history me ++ ([access] ++ accesses) := by
    intro entry access found
    rw [effective_snoc, found, Option.toList_some, List.append_assoc]
    rfl
  cases acts with
  | begin access rest => exact ⟨List.Sublist.refl _, fun _ => rfl⟩
  | ask rest question =>
      have same := settled (.answered me question (statements.answer question
        (rows.committed (statements.queried question)))) (.query question) (if_pos rfl)
      exact ⟨same ▸ List.Sublist.refl _, fun _ => same⟩
  | lock rest change free => exact ⟨List.Sublist.refl _, fun _ => rfl⟩
  | abandon rest access =>
      exact ⟨(List.sublist_append_right [access] accesses).append_left _, nofun⟩
  | commit rest change row =>
      have same := settled (.wrote me change) (.update change) (if_pos rfl)
      exact ⟨same ▸ List.Sublist.refl _, fun _ => same⟩
  | undo rest change row =>
      exact ⟨(List.sublist_append_right [.update change] accesses).append_left _, nofun⟩

theorem acts_other {rows rows' : Rows Key Value Index Update Query Answer} {me other : Index}
    {accesses accesses' : List (Access Update Query)} {point point' : Point Value Update Query}
    {choice : Choice} (acts : Acts statements rows me accesses point choice rows' accesses' point')
    (different : other ≠ me) : effective rows'.history other = effective rows.history other := by
  have foreign : ∀ entry : Entry Index Update Query Answer, entry.accessOf other = none →
      effective (rows.history ++ [entry]) other = effective rows.history other := by
    intro entry absent
    rw [effective_snoc, absent, Option.toList_none, List.append_nil]
  cases acts with
  | begin access rest => rfl
  | ask rest question => exact foreign _ (if_neg (Ne.symm different))
  | lock rest change free => rfl
  | abandon rest access => rfl
  | commit rest change row => exact foreign _ (if_neg (Ne.symm different))
  | undo rest change row => rfl

theorem itinerary_step {first : Key → Option Value}
    {clients next : Clients Key Value Index Update Query Answer} {label : Index × Choice}
    (isolated : Isolated statements first clients)
    (moved : transactionStep statements clients label = some next) (index : Index) :
    (itinerary next index).Sublist (itinerary clients index) ∧
      (label.2 = .proceed → itinerary next index = itinerary clients index) := by
  obtain ⟨rows, client, acted, same⟩ := Pool.step_some (act statements) moved
  subst same
  obtain ⟨acts, _⟩ := act_acts acted
  rw [(isolated.2 label.1).1] at acts
  unfold itinerary
  dsimp only
  by_cases mover : index = label.1
  · subst mover
    rw [Function.update_self]
    exact acts_own acts
  · rw [Function.update_of_ne mover, acts_other acts mover]
    exact ⟨List.Sublist.refl _, fun _ => rfl⟩

/-- Each client's accesses take effect in the order of its program, and all of them do if
nothing is rolled back. -/
theorem itinerary_run {first : Key → Option Value} {programs : Index → List (Access Update Query)}
    {schedule : List (Index × Choice)}
    {last : Clients Key Value Index Update Query Answer}
    (ran : run (transactionStep statements) (start first programs) schedule = some last)
    (index : Index) :
    (itinerary last index).Sublist (programs index) ∧
      ((∀ label ∈ schedule, label.2 = .proceed) → itinerary last index = programs index) := by
  have begins : itinerary (start first programs : Clients Key Value Index Update Query Answer)
      index = programs index := rfl
  constructor
  · have kept := run_invariant (transactionStep statements)
      (fun clients => Isolated statements first clients ∧
        (itinerary clients index).Sublist (programs index))
      (by
        intro clients label next holds moved
        obtain ⟨isolated, ordered⟩ := holds
        exact ⟨isolated_step isolated moved,
          ((itinerary_step isolated moved index).1).trans ordered⟩)
      ⟨isolated_start first programs, begins ▸ List.Sublist.refl _⟩ ran
    exact kept.2
  · intro proceeding
    have kept := run_invariant_along (transactionStep statements)
      (fun clients => Isolated statements first clients ∧ itinerary clients index = programs index)
      (fun _ label => label.2 = .proceed)
      (by
        intro clients label next holds proceeds moved
        obtain ⟨isolated, ordered⟩ := holds
        exact ⟨isolated_step isolated moved,
          ((itinerary_step isolated moved index).2 proceeds).trans ordered⟩)
      ⟨isolated_start first programs, begins⟩
      (along_of_forall (transactionStep statements) (fun label => label.2 = .proceed) _ schedule
        proceeding) ran
    exact kept.2

/-- Nothing waits for ever: a waiting update waits for a transaction that can commit. -/
theorem unblocked {first : Key → Option Value}
    {clients : Clients Key Value Index Update Query Answer}
    (isolated : Isolated statements first clients) {index : Index}
    (unfinished : ¬(clients.locals index).Finished) :
    ∃ mover, transactionStep statements clients (mover, .proceed) ≠ none := by
  have committing : ∀ holder change row, (clients.locals holder).point = .executed change row →
      transactionStep statements clients (holder, .proceed) ≠ none := by
    intro holder change row stands
    simp only [transactionStep, Pool.step, act, stands, Option.map_some]
    exact nofun
  cases stands : (clients.locals index).point with
  | outside =>
      cases left : (clients.locals index).accesses with
      | nil => exact absurd ⟨left, stands⟩ unfinished
      | cons access rest =>
          refine ⟨index, ?_⟩
          simp only [transactionStep, Pool.step, act, stands, left, Option.map_some]
          exact nofun
  | begun access =>
      cases access with
      | query question =>
          refine ⟨index, ?_⟩
          simp only [transactionStep, Pool.step, act, stands, Option.map_some]
          exact nofun
      | update change =>
          cases held : clients.shared.lock (statements.updated change) with
          | none =>
              refine ⟨index, ?_⟩
              simp only [transactionStep, Pool.step, act, stands, held, Option.map_some]
              exact nofun
          | some holder =>
              have locks := ((isolated.2 holder).2.locked _).mp held
              cases stood : (clients.locals holder).point with
              | executed change' row => exact ⟨holder, committing holder change' row stood⟩
              | outside =>
                  rw [stood] at locks
                  cases locks
              | begun access =>
                  rw [stood] at locks
                  cases locks
  | executed change row => exact ⟨index, committing index change row stands⟩

/-- How many steps a client takes if it never waits or rolls back. -/
def Client.left (client : Client Value Index Update Query) : Nat :=
  3 * client.accesses.length +
    match client.point with
    | .outside => 0
    | .begun _ => 2
    | .executed _ _ => 1

omit [DecidableEq Index] in
theorem left_of_act {rows rows' : Rows Key Value Index Update Query Answer}
    {client client' : Client Value Index Update Query}
    (acted : act statements rows client .proceed = some (rows', client')) :
    client'.left < client.left := by
  obtain ⟨acts, _⟩ := act_acts acted
  unfold Client.left
  generalize client.accesses = accesses at acts
  generalize client.point = point at acts
  generalize client'.accesses = accesses' at acts
  generalize client'.point = point' at acts
  cases acts with
  | begin access rest =>
      rw [List.length_cons]
      dsimp only
      omega
  | ask rest question =>
      dsimp only
      omega
  | lock rest change free =>
      dsimp only
      omega
  | commit rest change row =>
      dsimp only
      omega

/-- From every state of a run all clients can finish, without any rolling back. -/
theorem finishes [Fintype Index] {first : Key → Option Value}
    {clients : Clients Key Value Index Update Query Answer}
    (isolated : Isolated statements first clients) :
    ∃ schedule last, (∀ label ∈ schedule, label.2 = .proceed) ∧
      run (transactionStep statements) clients schedule = some last ∧
        ∀ index, (last.locals index).Finished := by
  induction bound : ∑ index, (clients.locals index).left using Nat.strong_induction_on
    generalizing clients with
  | _ total ih =>
      by_cases finished : ∀ index, (clients.locals index).Finished
      · exact ⟨[], clients, nofun, rfl, finished⟩
      · obtain ⟨index, unfinished⟩ := not_forall.mp finished
        obtain ⟨mover, enabled⟩ := unblocked isolated unfinished
        obtain ⟨next, moved⟩ := Option.ne_none_iff_exists'.mp enabled
        have less : ∑ index, (next.locals index).left < total := by
          obtain ⟨rows, client, acted, same⟩ := Pool.step_some (act statements) moved
          subst same
          have exchanged := Pool.sum_update Client.left clients.locals mover client
          have fewer := left_of_act acted
          dsimp only at exchanged fewer ⊢
          omega
        obtain ⟨schedule, last, proceeds, ran, done⟩ :=
          ih _ less (isolated_step isolated moved) rfl
        refine ⟨(mover, .proceed) :: schedule, last, ?_, ?_, done⟩
        · intro label member
          rcases List.mem_cons.mp member with same | later
          · rw [same]
          · exact proceeds label later
        · rw [run_cons, moved, Option.bind_some, ran]

end Interleaving

end SpringExamples.RowLocks
