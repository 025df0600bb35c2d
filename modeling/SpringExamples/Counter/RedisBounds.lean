/-
What interleaved clients of Redis can do to a count at worst.

Commands that overwrite each other lose updates, but a client writes only one more or one
less than what it read, and what it read was written before.  So no schedule takes a count
above its first value and the increments written so far, or below its first value and the
decrements written so far, and no text ever fails to parse.
-/

import SpringExamples.Counter.RedisClients

set_option autoImplicit false

namespace SpringExamples.Counter.RedisClients

open JavaInteger RedisCounter Runs

/-- The call whose final `SET` is still to come. -/
def Point.awaits : Point → Option (String × Int32)
  | .outside => none
  | .initialise k d => some (k, d)
  | .write k d _ => some (k, d)

/-- How often the client has still to write this operation. -/
def Client.left (operation : Operation) (client : Client) : Nat :=
  client.calls.count operation +
    if client.point.awaits = some (operation.vName, Int32.ofInt operation.delta) then 1 else 0

/-- What a client will add is what the operation that was called adds. -/
def Point.Called (point : Point) : Prop :=
  ∀ k d, point.awaits = some (k, d) →
    ∃ called : Operation, called.vName = k ∧ Int32.ofInt called.delta = d

theorem toInt_delta (operation : Operation) :
    (Int32.ofInt operation.delta).toInt = operation.delta := by
  cases operation with
  | increment vName =>
      change (Int32.ofInt 1).toInt = 1
      decide
  | decrement vName =>
      change (Int32.ofInt (-1)).toInt = -1
      decide

theorem left_begun (calls : List Operation) (operation called : Operation) (point : Point)
    (awaits : point.awaits = some (called.vName, Int32.ofInt called.delta)) :
    Client.left operation ⟨calls, point⟩ = Client.left operation ⟨called :: calls, .outside⟩ := by
  have awaited : point.awaits = some (operation.vName, Int32.ofInt operation.delta) ↔
      called = operation := by
    rw [awaits]
    cases called <;> cases operation <;>
      simp [Operation.vName, Operation.delta, Int32.ofInt_neg]
  have idle : Point.outside.awaits = none := rfl
  unfold Client.left
  simp only [awaited, List.count_cons, beq_iff_eq, idle, reduceCtorEq, if_false]
  omega

theorem left_outside_le (operation : Operation) (calls : List Operation) (point : Point) :
    Client.left operation ⟨calls, .outside⟩ ≤ Client.left operation ⟨calls, point⟩ := by
  unfold Client.left
  simp only [Point.awaits, reduceCtorEq, if_false]
  omega

theorem issued_left {store store' : Store} {client client' : Client}
    (issued : Issued store client store' client') (operation : Operation) :
    client'.left operation ≤ client.left operation := by
  cases issued with
  | getAbsent called rest absent =>
      exact (left_begun rest operation called _ rfl).le
  | getPresent called rest text present =>
      exact (left_begun rest operation called _ rfl).le
  | initialise calls k d => exact le_refl _
  | numberFormat calls k d text unparsed => exact left_outside_le operation calls _
  | write calls k d text current parsed => exact left_outside_le operation calls _

theorem issued_called {store store' : Store} {client client' : Client}
    (issued : Issued store client store' client') (called : client.point.Called) :
    client'.point.Called := by
  have begun : ∀ (operation : Operation) (k : String) (d : Int32),
      some (operation.vName, Int32.ofInt operation.delta) = some (k, d) →
        ∃ called : Operation, called.vName = k ∧ Int32.ofInt called.delta = d := by
    intro operation k d same
    cases same
    exact ⟨operation, rfl, rfl⟩
  cases issued with
  | getAbsent operation rest absent => exact begun operation
  | getPresent operation rest text present => exact begun operation
  | initialise calls k d => exact called
  | numberFormat calls k d text unparsed => exact nofun
  | write calls k d text current parsed => exact nofun

section Interleaving

variable {Index : Type} [Fintype Index]

/-- All writes of this operation that are still to come. -/
def toCome (operation : Operation) (clients : Clients Index) : Nat :=
  ∑ index, (clients.locals index).left operation

/-- The value with all increments still to come is not above `high`, and with all decrements
still to come not below `low`. -/
def Between (key : String) (low high : Int) (clients : Clients Index) (value : Int) : Prop :=
  value + toCome (.increment key) clients ≤ high ∧
    low ≤ value - toCome (.decrement key) clients

/-- Every number that a client has read, and the stored one, is within the bounds; a client
that will initialise the key found it absent, and it was absent at first. -/
structure Contained (key : String) (initial : Store) (low high : Int) (clients : Clients Index) :
    Prop where
  origin : Between key low high clients (countOf initial key).toInt
  stored : Between key low high clients (countOf clients.shared key).toInt
  present : initial key ≠ none → clients.shared key ≠ none
  called : ∀ index, (clients.locals index).point.Called
  initialised : ∀ index d, (clients.locals index).point = .initialise key d → initial key = none
  carried : ∀ index d text current, (clients.locals index).point = .write key d text →
    parseInt text = some current → Between key low high clients current.toInt

theorem toInt_add_delta {current : Int32} {low high : Int} (operation : Operation)
    (fits : InRange low ∧ InRange high) (above : low ≤ current.toInt + operation.delta)
    (below : current.toInt + operation.delta ≤ high) :
    (current + Int32.ofInt operation.delta).toInt = current.toInt + operation.delta := by
  obtain ⟨fitsLow, fitsHigh⟩ := fits
  unfold InRange at fitsLow fitsHigh
  rw [Int32.toInt_add, toInt_delta]
  apply Int.bmod_eq_of_le_mul_two
  · omega
  · omega

variable [DecidableEq Index]

theorem toCome_step {clients next : Clients Index} {label : Index × Unit}
    (moved : commandStep clients label = some next) (operation : Operation) :
    toCome operation next + (clients.locals label.1).left operation =
        toCome operation clients + (next.locals label.1).left operation ∧
      toCome operation next ≤ toCome operation clients := by
  obtain ⟨store, client, acted, same⟩ := Pool.step_some command moved
  subst same
  have exchanged := Pool.sum_update (Client.left operation) clients.locals label.1 client
  have fewer := issued_left (command_issued acted) operation
  unfold toCome
  dsimp only
  rw [Function.update_self]
  exact ⟨exchanged, by omega⟩

/-- A value that was within the bounds stays there: fewer writes are still to come. -/
theorem between_step {key : String} {low high : Int} {clients next : Clients Index}
    {label : Index × Unit} (moved : commandStep clients label = some next) {value : Int}
    (between : Between key low high clients value) : Between key low high next value := by
  have fewerIncrements := (toCome_step moved (.increment key)).2
  have fewerDecrements := (toCome_step moved (.decrement key)).2
  obtain ⟨below, above⟩ := between
  unfold Between
  omega

/-- One more or one less than a value within the bounds: the write was counted among those
to come. -/
theorem between_written {text : String} {low high : Int} {clients next : Clients Index}
    {label : Index × Unit} {calls : List Operation} {current : Int32} (called : Operation)
    (fits : InRange low ∧ InRange high)
    (moved : commandStep clients label = some next)
    (stands : clients.locals label.1 =
      ⟨calls, .write called.vName (Int32.ofInt called.delta) text⟩)
    (returned : next.locals label.1 = ⟨calls, .outside⟩)
    (between : Between called.vName low high clients current.toInt) :
    Between called.vName low high next (current + Int32.ofInt called.delta).toInt := by
  have written : ∀ operation : Operation,
      toCome operation next + (if called = operation then 1 else 0) =
        toCome operation clients := by
    intro operation
    obtain ⟨exchanged, _⟩ := toCome_step moved operation
    have begun := left_begun calls operation called
      (.write called.vName (Int32.ofInt called.delta) text) rfl
    have counted : Client.left operation ⟨called :: calls, .outside⟩ =
        Client.left operation ⟨calls, .outside⟩ + if called = operation then 1 else 0 := by
      simp only [Client.left, List.count_cons, beq_iff_eq]
      omega
    rw [stands, returned, begun, counted] at exchanged
    omega
  obtain ⟨below, above⟩ := between
  cases called with
  | increment vName =>
      have rising := written (.increment vName)
      have falling := written (.decrement vName)
      rw [if_pos rfl] at rising
      rw [if_neg nofun] at falling
      have up : Operation.delta (.increment vName) = 1 := rfl
      change current.toInt + toCome (.increment vName) clients ≤ high at below
      change low ≤ current.toInt - toCome (.decrement vName) clients at above
      unfold Between
      rw [toInt_add_delta _ fits (by omega) (by omega), up]
      change _ + (toCome (.increment vName) next : Int) ≤ high ∧
        low ≤ _ - (toCome (.decrement vName) next : Int)
      omega
  | decrement vName =>
      have rising := written (.increment vName)
      have falling := written (.decrement vName)
      rw [if_neg nofun] at rising
      rw [if_pos rfl] at falling
      have down : Operation.delta (.decrement vName) = -1 := rfl
      change current.toInt + toCome (.increment vName) clients ≤ high at below
      change low ≤ current.toInt - toCome (.decrement vName) clients at above
      unfold Between
      rw [toInt_add_delta _ fits (by omega) (by omega), down]
      change _ + (toCome (.increment vName) next : Int) ≤ high ∧
        low ≤ _ - (toCome (.decrement vName) next : Int)
      omega

omit [DecidableEq Index] in
theorem between_zero {key : String} {initial : Store} {low high : Int} {clients : Clients Index}
    (contained : Contained key initial low high clients) (absent : initial key = none) :
    Between key low high clients (0 : Int32).toInt := by
  have origin := contained.origin
  rw [countOf_absent absent] at origin
  exact origin

theorem stored_step {key : String} {initial : Store} {low high : Int}
    {clients next : Clients Index} {label : Index × Unit} (fits : InRange low ∧ InRange high)
    (contained : Contained key initial low high clients)
    (moved : commandStep clients label = some next)
    (issued : Issued clients.shared (clients.locals label.1) next.shared
      (next.locals label.1)) :
    Between key low high next (countOf next.shared key).toInt := by
  have kept : countOf next.shared key = countOf clients.shared key →
      Between key low high next (countOf next.shared key).toInt := by
    intro same
    rw [same]
    exact between_step moved contained.stored
  generalize shared : next.shared = store at issued kept
  generalize stands : clients.locals label.1 = client at issued
  generalize returned : next.locals label.1 = client' at issued
  cases issued with
  | getAbsent operation rest absent => exact kept rfl
  | getPresent operation rest text present => exact kept rfl
  | numberFormat calls k d text unparsed => exact kept rfl
  | initialise calls k d =>
      by_cases same : key = k
      · subst same
        rw [countOf_set_same]
        have absent := contained.initialised label.1 d (by rw [stands])
        exact between_step moved (between_zero contained absent)
      · exact kept (countOf_set_other _ _ _ same)
  | write calls k d text current parsed =>
      by_cases same : key = k
      · subst same
        rw [countOf_set_same]
        have read := contained.carried label.1 d text current (by rw [stands]) parsed
        obtain ⟨called, named, adds⟩ := contained.called label.1 key d (by rw [stands]; rfl)
        subst named
        subst adds
        exact between_written called fits moved stands returned read
      · exact kept (countOf_set_other _ _ _ same)

theorem contained_step {key : String} {initial : Store} {low high : Int}
    {clients next : Clients Index} {label : Index × Unit} (fits : InRange low ∧ InRange high)
    (contained : Contained key initial low high clients)
    (moved : commandStep clients label = some next) :
    Contained key initial low high next := by
  obtain ⟨store, client, acted, same⟩ := Pool.step_some command moved
  have issued := command_issued acted
  have shared : next.shared = store := by rw [same]
  have own : next.locals label.1 = client := by
    rw [same]
    exact Function.update_self _ _ _
  have others : ∀ index, index ≠ label.1 → next.locals index = clients.locals index := by
    intro index different
    rw [same]
    exact Function.update_of_ne different _ _
  rw [← shared, ← own] at issued
  refine ⟨between_step moved contained.origin, stored_step fits contained moved issued,
    fun present => issued_present issued (contained.present present), ?_, ?_, ?_⟩
  · intro index
    by_cases mover : index = label.1
    · rw [mover]
      exact issued_called issued (contained.called label.1)
    · rw [others index mover]
      exact contained.called index
  · intro index d stands
    by_cases mover : index = label.1
    · rw [mover] at stands
      generalize clients.locals label.1 = before at issued
      generalize next.locals label.1 = after at issued stands
      generalize next.shared = written at issued
      by_contra present
      have stored := contained.present present
      cases issued with
      | getAbsent operation rest absent =>
          cases stands
          exact stored absent
      | getPresent operation rest text found => cases stands
      | initialise calls k d => cases stands
      | numberFormat calls k d text unparsed => cases stands
      | write calls k d text current parsed => cases stands
    · rw [others index mover] at stands
      exact contained.initialised index d stands
  · intro index d text current stands parsed
    apply between_step moved
    by_cases mover : index = label.1
    · rw [mover] at stands
      generalize stood : clients.locals label.1 = before at issued
      generalize next.locals label.1 = after at issued stands
      generalize next.shared = written at issued
      cases issued with
      | getAbsent operation rest absent => cases stands
      | getPresent operation rest found present =>
          cases stands
          have stored := contained.stored
          rw [countOf_of_parse present parsed] at stored
          exact stored
      | initialise calls k d =>
          cases stands
          rw [parseInt_print] at parsed
          cases parsed
          exact between_zero contained (contained.initialised label.1 d (by rw [stood]))
      | numberFormat calls k d text unparsed => cases stands
      | write calls k d text current parsed => cases stands
    · rw [others index mover] at stands
      exact contained.carried index d text current stands parsed

/-- How often the operation was called for in the programs and has been written. -/
def written (operation : Operation) (programs : Index → List Operation)
    (clients : Clients Index) : Int :=
  (∑ index, (programs index).count operation : Nat) - toCome operation clients

omit [DecidableEq Index] in
theorem contained_start (key : String) (initial : Store) (programs : Index → List Operation) :
    Contained key initial
      ((countOf initial key).toInt - (∑ index, (programs index).count (.decrement key) : Nat))
      ((countOf initial key).toInt + (∑ index, (programs index).count (.increment key) : Nat))
      (start initial programs) := by
  have all : ∀ operation, toCome operation (start initial programs) =
      ∑ index, (programs index).count operation := fun _ => rfl
  have between : ∀ value, value = (countOf initial key).toInt → Between key
      ((countOf initial key).toInt - (∑ index, (programs index).count (.decrement key) : Nat))
      ((countOf initial key).toInt + (∑ index, (programs index).count (.increment key) : Nat))
      (start initial programs) value := by
    intro value same
    unfold Between
    rw [all, all, same]
    exact ⟨le_refl _, le_refl _⟩
  exact ⟨between _ rfl, between _ rfl, id, fun _ => nofun, nofun, nofun⟩

/-- However the commands of the clients interleave, every text parses, and a count that is
read lies between its first value less the decrements written so far and its first value
plus the increments written so far. -/
theorem count_within_bounds (initial : Store) (programs : Index → List Operation)
    (key : String) (schedule : List (Index × Unit)) (last : Clients Index)
    (readable : ∀ k, ReadableAt initial k)
    (fits : InRange ((countOf initial key).toInt -
          (∑ index, (programs index).count (.decrement key) : Nat)) ∧
        InRange ((countOf initial key).toInt +
          (∑ index, (programs index).count (.increment key) : Nat)))
    (ran : run commandStep (start initial programs) schedule = some last) :
    (∀ k, ReadableAt last.shared k) ∧ (∀ index, (last.locals index).Parsed) ∧
      ∀ count, getCount last.shared key = .ok count →
        (countOf initial key).toInt - written (.decrement key) programs last ≤ count.toInt ∧
          count.toInt ≤ (countOf initial key).toInt + written (.increment key) programs last := by
  obtain ⟨parsed, contained⟩ := run_invariant commandStep
    (fun clients => ((∀ k, ReadableAt clients.shared k) ∧
        ∀ index, (clients.locals index).Parsed) ∧
      Contained key initial
        ((countOf initial key).toInt - (∑ index, (programs index).count (.decrement key) : Nat))
        ((countOf initial key).toInt + (∑ index, (programs index).count (.increment key) : Nat))
        clients)
    (fun clients label next holds moved =>
      ⟨parsed_step holds.1 moved, contained_step fits holds.2 moved⟩)
    ⟨⟨readable, fun index => show ((start initial programs).locals index).Parsed from trivial⟩,
      contained_start key initial programs⟩ ran
  refine ⟨parsed.1, parsed.2, fun count read => ?_⟩
  have stored := contained.stored
  have counts : countOf last.shared key = count := by
    unfold getCount at read
    split at read
    · cases read
    · rename_i text present
      split at read
      · cases read
      · rename_i found reads
        cases read
        exact countOf_of_parse present reads
  rw [counts] at stored
  obtain ⟨below, above⟩ := stored
  unfold written
  omega

/-- The schedule that loses an update stays within the bounds. -/
theorem lost_update_within_bounds :
    ∃ last : Clients (Fin 2),
      run commandStep (start Store.empty fun _ => [.increment "page"])
          [(0, ()), (1, ()), (0, ()), (0, ()), (1, ()), (1, ())] = some last ∧
        ∀ count, getCount last.shared "page" = .ok count →
          (countOf Store.empty "page").toInt -
              written (.decrement "page") (fun _ => [.increment "page"]) last ≤ count.toInt ∧
            count.toInt ≤ (countOf Store.empty "page").toInt +
              written (.increment "page") (fun _ => [.increment "page"]) last := by
  obtain ⟨last, ran, _⟩ := exists_run_of_any commandStep
    (start Store.empty (fun _ => [.increment "page"]) : Clients (Fin 2))
    [(0, ()), (1, ()), (0, ()), (0, ()), (1, ()), (1, ())] (fun _ => True) (by decide)
  refine ⟨last, ran, (count_within_bounds Store.empty _ "page" _ last ?_ (by decide) ran).2.2⟩
  intro k text holds
  cases holds

end Interleaving

end SpringExamples.Counter.RedisClients
