/-
Concurrent clients of one Redis store.

A client works through its calls of `RedisCounter`.  Each call is cut at the Redis
commands it issues, since the server executes a single command atomically and
nothing else keeps two clients apart: `GET k`, the initialising `SET k "0"` when
the answer was null, and the final `SET k`.  The text read travels in the client
between the commands, so another client can write the key in between.
-/

import Mathlib.Algebra.BigOperators.Ring.Finset
import SpringExamples.Foundation.Pool
import SpringExamples.Counter.RedisCounter

set_option autoImplicit false

namespace SpringExamples.Counter.RedisClients

open JavaInteger RedisCounter Runs

inductive Point where
  | outside
  | initialise (k : String) (d : Int32)
  | write (k : String) (d : Int32) (intValAsString : String)
  deriving DecidableEq, Repr

structure Client where
  calls : List Operation
  point : Point
  deriving DecidableEq, Repr

def Client.finished : Client := { calls := [], point := .outside }

/-- The client's next command.  Text that does not parse ends the call with a
`NumberFormatException` before its final `SET`. -/
def command (store : Store) (client : Client) (_ : Unit) : Option (Store × Client) :=
  match client.point with
  | .outside =>
      match client.calls with
      | [] => none
      | operation :: rest =>
          let k := operation.vName
          let d := Int32.ofInt operation.delta
          match store k with
          | none => some (store, { calls := rest, point := .initialise k d })
          | some text => some (store, { calls := rest, point := .write k d text })
  | .initialise k d =>
      some (store.set k (print 0), { client with point := .write k d (print 0) })
  | .write k d intValAsString =>
      match parseInt intValAsString with
      | none => some (store, { client with point := .outside })
      | some currentIntVal =>
          some (store.set k (print (currentIntVal + d)), { client with point := .outside })

/-- Everything a command can do, one case for each. -/
inductive Issued (store : Store) : Client → Store → Client → Prop where
  | getAbsent (operation : Operation) (rest : List Operation)
      (absent : store operation.vName = none) :
      Issued store ⟨operation :: rest, .outside⟩ store
        ⟨rest, .initialise operation.vName (Int32.ofInt operation.delta)⟩
  | getPresent (operation : Operation) (rest : List Operation) (text : String)
      (present : store operation.vName = some text) :
      Issued store ⟨operation :: rest, .outside⟩ store
        ⟨rest, .write operation.vName (Int32.ofInt operation.delta) text⟩
  | initialise (calls : List Operation) (k : String) (d : Int32) :
      Issued store ⟨calls, .initialise k d⟩ (store.set k (print 0))
        ⟨calls, .write k d (print 0)⟩
  | numberFormat (calls : List Operation) (k : String) (d : Int32) (text : String)
      (unparsed : parseInt text = none) :
      Issued store ⟨calls, .write k d text⟩ store ⟨calls, .outside⟩
  | write (calls : List Operation) (k : String) (d : Int32) (text : String) (current : Int32)
      (parsed : parseInt text = some current) :
      Issued store ⟨calls, .write k d text⟩ (store.set k (print (current + d)))
        ⟨calls, .outside⟩

theorem command_issued {store store' : Store} {client client' : Client} {choice : Unit}
    (acted : command store client choice = some (store', client')) :
    Issued store client store' client' := by
  obtain ⟨calls, point⟩ := client
  cases point with
  | outside =>
      cases calls with
      | nil => cases acted
      | cons operation rest =>
          cases found : store operation.vName with
          | none =>
              simp only [command, found, Option.some.injEq, Prod.mk.injEq] at acted
              obtain ⟨rfl, rfl⟩ := acted
              exact .getAbsent operation rest found
          | some text =>
              simp only [command, found, Option.some.injEq, Prod.mk.injEq] at acted
              obtain ⟨rfl, rfl⟩ := acted
              exact .getPresent operation rest text found
  | initialise k d =>
      simp only [command, Option.some.injEq, Prod.mk.injEq] at acted
      obtain ⟨rfl, rfl⟩ := acted
      exact .initialise calls k d
  | write k d text =>
      cases parsed : parseInt text with
      | none =>
          simp only [command, parsed, Option.some.injEq, Prod.mk.injEq] at acted
          obtain ⟨rfl, rfl⟩ := acted
          exact .numberFormat calls k d text parsed
      | some current =>
          simp only [command, parsed, Option.some.injEq, Prod.mk.injEq] at acted
          obtain ⟨rfl, rfl⟩ := acted
          exact .write calls k d text current parsed

def Point.pendingOn (key : String) : Point → Int32
  | .outside => 0
  | .initialise k d => if k = key then d else 0
  | .write k d _ => if k = key then d else 0

def Client.owes (key : String) (client : Client) : ZMod (2 ^ 32) :=
  residue (client.point.pendingOn key) + (tally client.calls key : ZMod (2 ^ 32))

def Client.Touches (key : String) (client : Client) : Prop :=
  (∃ operation ∈ client.calls, operation.vName = key) ∨
    match client.point with
    | .outside => False
    | .initialise k _ => k = key
    | .write k _ _ => k = key

/-- The client's next command does not overwrite what another client wrote to the
key: an initialising `SET` finds the key at zero, and a final `SET` finds the count
that the call read. -/
def Client.Undisturbed (key : String) (store : Store) (client : Client) : Prop :=
  match client.point with
  | .outside => True
  | .initialise k _ => k = key → countOf store key = 0
  | .write k _ text => k = key → parseInt text = some (countOf store key)

instance (key : String) (store : Store) (client : Client) :
    Decidable (client.Undisturbed key store) := by
  unfold Client.Undisturbed
  split <;> infer_instance

theorem ne_of_unparsed {key k text : String} {store : Store} {calls : List Operation} {d : Int32}
    (unparsed : parseInt text = none)
    (calm : Client.Undisturbed key store ⟨calls, .write k d text⟩) : k ≠ key := by
  intro same
  have parsed : parseInt text = some (countOf store key) := calm same
  rw [unparsed] at parsed
  cases parsed

theorem residue_pending (operation : Operation) (key : String) :
    residue (if operation.vName = key then Int32.ofInt operation.delta else 0) =
      (operation.deltaOn key : ZMod (2 ^ 32)) := by
  unfold Operation.deltaOn
  split
  · exact residue_ofInt operation.delta
  · rw [residue_zero, Int.cast_zero]

/-- A command moves what it adds from what the client owes to the store. -/
theorem issued_entry {store store' : Store} {client client' : Client} {key : String}
    (issued : Issued store client store' client') (calm : client.Undisturbed key store) :
    residue (countOf store' key) + client'.owes key =
      residue (countOf store key) + client.owes key := by
  cases issued with
  | getAbsent operation rest absent =>
      simp only [Client.owes, Point.pendingOn, residue_pending, tally_cons, residue_zero,
        Int.cast_add, zero_add]
  | getPresent operation rest text present =>
      simp only [Client.owes, Point.pendingOn, residue_pending, tally_cons, residue_zero,
        Int.cast_add, zero_add]
  | initialise calls k d =>
      by_cases same : k = key
      · subst same
        have zero : countOf store k = 0 := calm rfl
        rw [countOf_set_same, zero]
        rfl
      · rw [countOf_set_other store k _ fun equal => same equal.symm]
        rfl
  | numberFormat calls k d text unparsed =>
      simp only [Client.owes, Point.pendingOn, if_neg (ne_of_unparsed unparsed calm)]
  | write calls k d text current parsed =>
      by_cases same : k = key
      · subst same
        have read : parseInt text = some (countOf store k) := calm rfl
        rw [parsed, Option.some.injEq] at read
        subst read
        simp only [countOf_set_same, Client.owes, Point.pendingOn, if_pos, residue_add,
          residue_zero]
        ring
      · rw [countOf_set_other store k _ fun equal => same equal.symm]
        simp only [Client.owes, Point.pendingOn, if_neg same]

def Client.Parsed (client : Client) : Prop :=
  match client.point with
  | .outside => True
  | .initialise _ _ => True
  | .write _ _ text => ∃ count, parseInt text = some count

theorem issued_parsed {store store' : Store} {client client' : Client}
    (issued : Issued store client store' client') (readable : ∀ k, ReadableAt store k) :
    client'.Parsed := by
  cases issued with
  | getAbsent operation rest absent => trivial
  | getPresent operation rest text present => exact readable operation.vName text present
  | initialise calls k d => exact ⟨0, parseInt_print 0⟩
  | numberFormat calls k d text unparsed => trivial
  | write calls k d text current parsed => trivial

/-- A command that is disturbed loses or repeats an update: the account is off. -/
theorem issued_entry_iff {store store' : Store} {client client' : Client} {key : String}
    (issued : Issued store client store' client') (parsed : client.Parsed) :
    residue (countOf store' key) + client'.owes key =
        residue (countOf store key) + client.owes key ↔
      client.Undisturbed key store := by
  refine ⟨fun entry => ?_, issued_entry issued⟩
  cases issued with
  | getAbsent operation rest absent => trivial
  | getPresent operation rest text present => trivial
  | initialise calls k d =>
      intro same
      subst same
      rw [countOf_set_same] at entry
      exact (residue_injective (add_right_cancel entry)).symm
  | numberFormat calls k d text unparsed =>
      obtain ⟨count, reads⟩ := parsed
      rw [unparsed] at reads
      cases reads
  | write calls k d text current reads =>
      intro same
      subst same
      simp only [countOf_set_same, Client.owes, Point.pendingOn, if_pos, residue_add,
        residue_zero, zero_add] at entry
      have counts : residue current + (residue d + (tally calls k : ZMod (2 ^ 32))) =
          residue (countOf store k) + (residue d + (tally calls k : ZMod (2 ^ 32))) := by
        rw [← add_assoc]
        exact entry
      rw [reads, residue_injective (add_right_cancel counts)]

theorem issued_readableAt {store store' : Store} {client client' : Client} {key : String}
    (issued : Issued store client store' client') (readable : ReadableAt store key) :
    ReadableAt store' key := by
  have written : ∀ (k : String) (count : Int32), ReadableAt (store.set k (print count)) key := by
    intro k count
    by_cases same : key = k
    · subst same
      exact readableAt_set_print store key count
    · exact readableAt_set_other same readable
  cases issued with
  | getAbsent operation rest absent => exact readable
  | getPresent operation rest text present => exact readable
  | initialise calls k d => exact written k 0
  | numberFormat calls k d text unparsed => exact readable
  | write calls k d text current parsed => exact written k (current + d)

theorem set_present {store : Store} {key : String} (present : store key ≠ none)
    (k value : String) : store.set k value key ≠ none := by
  by_cases same : key = k
  · subst same
    rw [Store.set_same]
    exact Option.some_ne_none value
  · rw [Store.set_other store k value same]
    exact present

theorem issued_present {store store' : Store} {client client' : Client} {key : String}
    (issued : Issued store client store' client') (present : store key ≠ none) :
    store' key ≠ none := by
  cases issued with
  | getAbsent operation rest absent => exact present
  | getPresent operation rest text found => exact present
  | initialise calls k d => exact set_present present k _
  | numberFormat calls k d text unparsed => exact present
  | write calls k d text current parsed => exact set_present present k _

theorem touches_cons {key : String} {operation : Operation} {rest : List Operation}
    (touches : Client.Touches key ⟨operation :: rest, .outside⟩) :
    (∃ call ∈ rest, call.vName = key) ∨ operation.vName = key := by
  rcases touches with ⟨call, member, named⟩ | inside
  · rcases List.mem_cons.mp member with same | later
    · subst same
      exact Or.inr named
    · exact Or.inl ⟨call, later, named⟩
  · exact inside.elim

theorem issued_touches {store store' : Store} {client client' : Client} {key : String}
    (issued : Issued store client store' client') (calm : client.Undisturbed key store)
    (touches : client.Touches key) : store' key ≠ none ∨ client'.Touches key := by
  cases issued with
  | getAbsent operation rest absent => exact Or.inr (touches_cons touches)
  | getPresent operation rest text present => exact Or.inr (touches_cons touches)
  | initialise calls k d => exact Or.inr touches
  | numberFormat calls k d text unparsed =>
      rcases touches with later | same
      · exact Or.inr (Or.inl later)
      · exact absurd same (ne_of_unparsed unparsed calm)
  | write calls k d text current parsed =>
      rcases touches with later | same
      · exact Or.inr (Or.inl later)
      · left
        change k = key at same
        subst same
        rw [Store.set_same]
        exact Option.some_ne_none _

section Interleaving

variable {Index : Type} [DecidableEq Index]

abbrev Clients (Index : Type) := Pool Index Store Client

def start (initial : Store) (programs : Index → List Operation) : Clients Index :=
  { shared := initial
    locals := fun index => { calls := programs index, point := .outside } }

def commandStep : Clients Index → Index × Unit → Option (Clients Index) := Pool.step command

theorem solo_call (store : Store) (operation : Operation) (rest : List Operation) :
    ∃ commands, run (Pool.solo command) (store, ⟨operation :: rest, .outside⟩) commands =
      some ((perform store operation).2, ⟨rest, .outside⟩) := by
  rw [perform_eq]
  cases found : store operation.vName with
  | none =>
      refine ⟨[(), (), ()], ?_⟩
      simp only [run_cons, Pool.solo, command, found, Option.bind_some, parseInt_print, run_nil,
        modifyKey, Option.getD_none, if_true]
  | some text =>
      refine ⟨[(), ()], ?_⟩
      cases parsed : parseInt text <;>
        simp only [run_cons, Pool.solo, command, found, Option.bind_some, parsed, run_nil,
          modifyKey, Option.getD_some, reduceCtorEq, if_false]

theorem solo_calls (store : Store) (operations : List Operation) :
    ∃ commands, run (Pool.solo command) (store, ⟨operations, .outside⟩) commands =
      some (performAll store operations, Client.finished) := by
  induction operations generalizing store with
  | nil => exact ⟨[], rfl⟩
  | cons operation rest ih =>
      obtain ⟨first, ranFirst⟩ := solo_call store operation rest
      obtain ⟨later, ranLater⟩ := ih (perform store operation).2
      refine ⟨first ++ later, ?_⟩
      rw [run_append, ranFirst, Option.bind_some, ranLater]
      rfl

/-- A client that is never interrupted executes exactly the calls of `RedisCounter`. -/
theorem uninterrupted_calls {clients : Clients Index} {index : Index}
    {operations : List Operation}
    (begins : clients.locals index = { calls := operations, point := .outside }) :
    ∃ commands : List Unit,
      run commandStep clients (commands.map fun command => (index, command)) =
        some
          { shared := performAll clients.shared operations
            locals := Function.update clients.locals index Client.finished } := by
  obtain ⟨commands, ran⟩ := solo_calls clients.shared operations
  rw [← begins] at ran
  exact ⟨commands, Pool.run_solo command ran⟩

section Totals

variable [Fintype Index]

/-- The count of a key and what all clients owe it, against its initial count and
all calls of all programs. -/
def Settled (key : String) (initial : Store) (programs : Index → List Operation)
    (clients : Clients Index) : Prop :=
  Pool.Balanced (fun store => residue (countOf store key))
    (fun _ => residue (countOf initial key) + ∑ index, (tally (programs index) key : ZMod (2 ^ 32)))
    (Client.owes key) clients

omit [DecidableEq Index] in
theorem settled_start (key : String) (initial : Store) (programs : Index → List Operation) :
    Settled key initial programs (start initial programs) := by
  simp only [Settled, Pool.Balanced, start, Client.owes, Point.pendingOn, residue_zero, zero_add]

theorem settled_step {key : String} {initial : Store} {programs : Index → List Operation}
    {clients next : Clients Index} {label : Index × Unit}
    (settled : Settled key initial programs clients)
    (calm : (clients.locals label.1).Undisturbed key clients.shared)
    (moved : commandStep clients label = some next) : Settled key initial programs next := by
  refine Pool.balanced_step command _ _ _ settled moved ?_
  intro store client acted
  rw [issued_entry (command_issued acted) calm]

omit [Fintype Index] in
theorem parsed_step {clients next : Clients Index} {label : Index × Unit}
    (parsed : (∀ k, ReadableAt clients.shared k) ∧ ∀ index, (clients.locals index).Parsed)
    (moved : commandStep clients label = some next) :
    (∀ k, ReadableAt next.shared k) ∧ ∀ index, (next.locals index).Parsed := by
  apply Pool.step_invariant command (fun store => ∀ k, ReadableAt store k)
    (fun _ client => client.Parsed) parsed moved
  · intro store client acted
    have issued := command_issued acted
    exact ⟨fun k => issued_readableAt issued (parsed.1 k), issued_parsed issued parsed.1⟩
  · intro _ _ _ _ untouched
    exact untouched

/-- The condition is exact: the account of a key is settled in every state of a run
precisely when no command of the run is disturbed. -/
theorem settled_throughout_iff_undisturbed (key : String) (initial : Store)
    (programs : Index → List Operation) (schedule : List (Index × Unit))
    (readable : ∀ k, ReadableAt initial k) :
    Throughout commandStep (Settled key initial programs) (start initial programs) schedule ↔
      Along commandStep
        (fun clients label => commandStep clients label ≠ none →
          (clients.locals label.1).Undisturbed key clients.shared)
        (start initial programs) schedule := by
  rw [throughout_iff_along commandStep _ schedule (settled_start key initial programs)]
  apply along_iff_along commandStep
    (fun clients => Settled key initial programs clients ∧
      (∀ k, ReadableAt clients.shared k) ∧ ∀ index, (clients.locals index).Parsed)
  · intro clients label next holds calm moved
    obtain ⟨settled, parsed⟩ := holds
    have enabled : commandStep clients label ≠ none := by
      rw [moved]
      exact Option.some_ne_none next
    exact ⟨settled_step settled (calm enabled) moved, parsed_step parsed moved⟩
  · intro clients label holds
    obtain ⟨settled, parsed⟩ := holds
    constructor
    · intro right enabled
      obtain ⟨next, moved⟩ := Option.ne_none_iff_exists'.mp enabled
      have after := right next moved
      obtain ⟨store, client, acted, same⟩ := Pool.step_some command moved
      subst same
      have entry := (Pool.balanced_step_iff _ _ _ label.1 store client settled).mp after
      exact (issued_entry_iff (command_issued acted) (parsed.2 label.1)).mp
        (add_right_cancel entry)
    · intro calm next moved
      refine settled_step settled (calm ?_) moved
      rw [moved]
      exact Option.some_ne_none next
  · exact ⟨settled_start key initial programs, readable, fun index => trivial⟩

/-- The key is present, or some client still touches it. -/
def Promised (key : String) (clients : Clients Index) : Prop :=
  clients.shared key ≠ none ∨ ∃ index, (clients.locals index).Touches key

omit [Fintype Index] in
theorem promised_step {key : String} {clients next : Clients Index} {label : Index × Unit}
    (promised : Promised key clients)
    (calm : (clients.locals label.1).Undisturbed key clients.shared)
    (moved : commandStep clients label = some next) : Promised key next := by
  obtain ⟨store, client, acted, same⟩ := Pool.step_some command moved
  subst same
  have issued := command_issued acted
  rcases promised with present | ⟨index, touches⟩
  · exact Or.inl (issued_present issued present)
  · by_cases mover : index = label.1
    · subst mover
      rcases issued_touches issued calm touches with present | still
      · exact Or.inl present
      · refine Or.inr ⟨label.1, ?_⟩
        change (Function.update clients.locals label.1 client label.1).Touches key
        rw [Function.update_self]
        exact still
    · refine Or.inr ⟨index, ?_⟩
      change (Function.update clients.locals label.1 client index).Touches key
      rw [Function.update_of_ne mover]
      exact touches

/-- Calls of any number of clients lose no update of a key as long as no command on it
overwrites the write of another client. -/
theorem no_lost_update_when_undisturbed (initial : Store) (programs : Index → List Operation)
    (key : String) (schedule : List (Index × Unit)) (last : Clients Index)
    (readable : ReadableAt initial key)
    (ran : run commandStep (start initial programs) schedule = some last)
    (done : ∀ index, last.locals index = Client.finished)
    (touched : ∃ index, ∃ operation ∈ programs index, operation.vName = key)
    (fits : InRange ((countOf initial key).toInt + ∑ index, tally (programs index) key))
    (undisturbed : Along commandStep
      (fun clients label => (clients.locals label.1).Undisturbed key clients.shared)
      (start initial programs) schedule) :
    ∃ count, getCount last.shared key = .ok count ∧
      count.toInt = (countOf initial key).toInt + ∑ index, tally (programs index) key := by
  have kept := run_invariant_along commandStep
    (fun clients => Settled key initial programs clients ∧
      ReadableAt clients.shared key ∧ Promised key clients)
    (fun clients label => (clients.locals label.1).Undisturbed key clients.shared)
    (by
      intro clients label next holds calm moved
      obtain ⟨settled, readableNow, promised⟩ := holds
      obtain ⟨store, client, acted, same⟩ := Pool.step_some command moved
      refine ⟨settled_step settled calm moved, ?_, promised_step promised calm moved⟩
      subst same
      exact issued_readableAt (command_issued acted) readableNow)
    ⟨settled_start key initial programs, readable, by
      obtain ⟨index, operation, member, named⟩ := touched
      exact Or.inr ⟨index, Or.inl ⟨operation, member, named⟩⟩⟩
    undisturbed ran
  obtain ⟨settled, readableLast, promised⟩ := kept
  have present : last.shared key ≠ none := by
    rcases promised with present | ⟨index, touches⟩
    · exact present
    · rw [done index] at touches
      rcases touches with ⟨operation, member, _⟩ | inside
      · cases member
      · exact inside.elim
  obtain ⟨text, holds⟩ := Option.ne_none_iff_exists'.mp present
  obtain ⟨count, parsed⟩ := readableLast text holds
  refine ⟨count, ?_, ?_⟩
  · simp only [getCount, holds, parsed]
  · apply toInt_eq_of_residue fits
    have nothing : ∑ index, (last.locals index).owes key = 0 := by
      apply Finset.sum_eq_zero
      intro index _
      rw [done index]
      simp only [Client.finished, Client.owes, Point.pendingOn, residue_zero, tally_nil,
        Int.cast_zero, add_zero]
    have balance : residue (countOf last.shared key) + ∑ index, (last.locals index).owes key =
        residue (countOf initial key) +
          ∑ index, (tally (programs index) key : ZMod (2 ^ 32)) := settled
    rw [nothing, add_zero, countOf_of_parse holds parsed] at balance
    rw [balance, Int.cast_add, Int.cast_sum]
    rfl

theorem two_increments_in_turn :
    ∃ last : Clients (Fin 2),
      run commandStep (start Store.empty fun _ => [.increment "page"])
          [(0, ()), (0, ()), (0, ()), (1, ()), (1, ())] = some last ∧
        ∃ count, getCount last.shared "page" = .ok count ∧
          count.toInt = (countOf Store.empty "page").toInt +
            ∑ _index : Fin 2, tally [.increment "page"] "page" := by
  obtain ⟨last, ran, done⟩ := exists_run_of_any commandStep
    (start Store.empty (fun _ => [.increment "page"]) : Clients (Fin 2))
    [(0, ()), (0, ()), (0, ()), (1, ()), (1, ())]
    (fun last => ∀ index, last.locals index = Client.finished) (by decide)
  refine ⟨last, ran, no_lost_update_when_undisturbed Store.empty
    (fun _ => [.increment "page"]) "page" _ last ?_ ran done ?_ (by decide) (by decide)⟩
  · intro text holds
    cases holds
  · exact ⟨0, _, List.mem_cons_self, rfl⟩

/-- Two clients that both find the key absent: both finish, and one update is lost. -/
theorem lost_update :
    ∃ last : Clients (Fin 2),
      run commandStep (start Store.empty fun _ => [.increment "page"])
          [(0, ()), (1, ()), (0, ()), (0, ()), (1, ()), (1, ())] = some last ∧
        (∀ index, last.locals index = Client.finished) ∧
        getCount last.shared "page" = .ok 1 ∧
        (countOf Store.empty "page").toInt +
          ∑ _index : Fin 2, tally [.increment "page"] "page" = 2 :=
  exists_run_of_any commandStep
    (start Store.empty (fun _ => [.increment "page"]) : Clients (Fin 2))
    [(0, ()), (1, ()), (0, ()), (0, ()), (1, ()), (1, ())] _ (by decide)

end Totals

end Interleaving

end SpringExamples.Counter.RedisClients
