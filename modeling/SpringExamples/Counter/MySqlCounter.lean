/-
The MySQL implementation of `Counter`, and when it agrees with the Redis one.

`MySqlCounter` sends one upsert for each operation.  The name column carries a
unique index, so a table is a partial map from names to the big-integer `val`
column.  The value inserted for an absent name and the change made to a present
one are separate parameters of the statement, and `decrement` passes `0` and `-1`.
-/

import SpringExamples.Counter.RedisCounter

set_option autoImplicit false

namespace SpringExamples.Counter

open JavaInteger

namespace MySqlCounter

abbrev Table := String → Option Int

def Table.empty : Table := fun _ => none

/-- `INSERT INTO counter (name, val) VALUES (?, ?) ON DUPLICATE KEY UPDATE val = val + ?`. -/
def upsert (table : Table) (name : String) (inserted change : Int) : Table :=
  Function.update table name
    (match table name with
      | none => some inserted
      | some val => some (val + change))

def increment (table : Table) (vName : String) : Table := upsert table vName 1 1

def decrement (table : Table) (vName : String) : Table := upsert table vName 0 (-1)

/-- `queryForInt` reads the single row and narrows its number to an `int`. -/
def getCount (table : Table) (vName : String) : Except CounterException Int32 :=
  match table vName with
  | none => .error .emptyResultDataAccess
  | some val => .ok (Int32.ofInt val)

def perform (table : Table) : Operation → Table
  | .increment vName => increment table vName
  | .decrement vName => decrement table vName

def performAll (table : Table) (operations : List Operation) : Table :=
  operations.foldl perform table

def inserted : Operation → Int
  | .increment _ => 1
  | .decrement _ => 0

theorem perform_same (table : Table) (operation : Operation) :
    perform table operation operation.vName =
      some (((table operation.vName).map fun val => val + operation.delta).getD
        (inserted operation)) := by
  cases operation with
  | increment vName =>
      change upsert table vName 1 1 vName = _
      unfold upsert
      rw [Function.update_self]
      cases found : table vName <;> simp [Operation.vName, Operation.delta, inserted, found]
  | decrement vName =>
      change upsert table vName 0 (-1) vName = _
      unfold upsert
      rw [Function.update_self]
      cases found : table vName <;> simp [Operation.vName, Operation.delta, inserted, found]

theorem perform_other (table : Table) (operation : Operation) {other : String}
    (different : other ≠ operation.vName) : perform table operation other = table other := by
  cases operation with
  | increment vName => exact Function.update_of_ne different _ _
  | decrement vName => exact Function.update_of_ne different _ _

def firstOn (operations : List Operation) (key : String) : Option Operation :=
  operations.find? fun operation => operation.vName = key

/-- What the first operation leaves out of the count of an absent name. -/
def shortfall (operation : Operation) : Int := inserted operation - operation.delta

theorem performAll_snoc (table : Table) (operations : List Operation) (operation : Operation) :
    performAll table (operations ++ [operation]) =
      perform (performAll table operations) operation := by
  simp only [performAll, List.foldl_append, List.foldl_cons, List.foldl_nil]

theorem firstOn_snoc (operations : List Operation) (operation : Operation) (key : String) :
    firstOn (operations ++ [operation]) key =
      (firstOn operations key).or (if operation.vName = key then some operation else none) := by
  unfold firstOn
  rw [List.find?_append, List.find?_singleton]
  simp only [decide_eq_true_eq]

theorem tally_of_firstOn_none {operations : List Operation} {key : String}
    (found : firstOn operations key = none) : tally operations key = 0 := by
  apply tally_untouched
  intro operation member named
  exact List.find?_eq_none.mp found operation member (decide_eq_true named)

/-- The row of a name after a sequential run.  Only an operation that inserts falls short of
the tally, and only by its shortfall. -/
theorem performAll_row (table : Table) (operations : List Operation) (key : String) :
    performAll table operations key =
      match table key with
      | some val => some (val + tally operations key)
      | none =>
          (firstOn operations key).map fun first => tally operations key + shortfall first := by
  induction operations using List.reverseRecOn with
  | nil =>
      change table key = _
      cases table key with
      | none => rfl
      | some val =>
          change some val = some (val + 0)
          rw [add_zero]
  | append_singleton before operation ih =>
      rw [performAll_snoc, firstOn_snoc, tally_snoc]
      by_cases same : operation.vName = key
      · subst same
        rw [perform_same, ih, if_pos rfl, Operation.deltaOn, if_pos rfl]
        cases table operation.vName with
        | some val =>
            dsimp only
            rw [Option.map_some, Option.getD_some, add_assoc]
        | none =>
            dsimp only
            cases found : firstOn before operation.vName with
            | none =>
                rw [tally_of_firstOn_none found, Option.map_none, Option.map_none,
                  Option.getD_none, Option.none_or, Option.map_some]
                congr 1
                unfold shortfall
                omega
            | some first =>
                rw [Option.map_some, Option.map_some, Option.getD_some, Option.some_or,
                  Option.map_some]
                congr 1
                omega
      · rw [perform_other _ _ (Ne.symm same), ih, if_neg same, Option.or_none,
          Operation.deltaOn, if_neg same, add_zero]

theorem performAll_spec (operations : List Operation) (key : String) :
    performAll Table.empty operations key =
      (firstOn operations key).map fun first => tally operations key + shortfall first :=
  performAll_row Table.empty operations key

end MySqlCounter

/-- Both counters report the number of increments minus the number of decrements. -/
def Agree (operations : List Operation) (key : String) : Prop :=
  ∃ count : Int32,
    MySqlCounter.getCount (MySqlCounter.performAll MySqlCounter.Table.empty operations) key =
        .ok count ∧
      RedisCounter.getCount (RedisCounter.performAll RedisCounter.Store.empty operations) key =
        .ok count ∧
      count.toInt = tally operations key

theorem redis_getCount (operations : List Operation) (key : String)
    (touched : ∃ operation ∈ operations, operation.vName = key)
    (fits : InRange (tally operations key)) :
    ∃ count, RedisCounter.getCount
        (RedisCounter.performAll RedisCounter.Store.empty operations) key = .ok count ∧
      count.toInt = tally operations key := by
  obtain ⟨canonical, counted⟩ := RedisCounter.performAll_spec operations
  obtain ⟨residues, present⟩ := counted key
  exact ⟨_, RedisCounter.getCount_of_canonical canonical (present.mpr touched),
    toInt_eq_of_residue fits residues⟩

theorem ofInt_eq_tally_iff (total short : Int) (small : short = 0 ∨ short = 1)
    (fits : InRange total) : (Int32.ofInt (total + short)).toInt = total ↔ short = 0 := by
  unfold InRange at fits
  rw [Int32.toInt_ofInt]
  constructor
  · intro same
    rcases small with zero | one
    · exact zero
    · have congruent : (total + short) % (Int32.size : Int) = total % (Int32.size : Int) := by
        rw [← Int.bmod_emod, same]
      have size : (Int32.size : Int) = 4294967296 := rfl
      rw [size, one] at congruent
      omega
  · intro zero
    rw [zero, add_zero]
    apply Int.bmod_eq_of_le_mul_two
    · change -(4294967296 : Int) ≤ _
      omega
    · change _ < (4294967296 : Int)
      omega

/-- The two implementations agree on a touched name precisely when the first
operation on it was an increment. -/
theorem agree_iff_first_increment (operations : List Operation) (key : String)
    (touched : ∃ operation ∈ operations, operation.vName = key)
    (fits : InRange (tally operations key)) :
    Agree operations key ↔
      MySqlCounter.firstOn operations key = some (.increment key) := by
  obtain ⟨count, redis, counted⟩ := redis_getCount operations key touched fits
  obtain ⟨first, found⟩ : ∃ first, MySqlCounter.firstOn operations key = some first := by
    obtain ⟨operation, member, named⟩ := touched
    apply Option.isSome_iff_exists.mp
    unfold MySqlCounter.firstOn
    rw [List.find?_isSome]
    exact ⟨operation, member, decide_eq_true named⟩
  have named : first.vName = key := by
    simpa using List.find?_some found
  have mysql : MySqlCounter.getCount
      (MySqlCounter.performAll MySqlCounter.Table.empty operations) key =
        .ok (Int32.ofInt (tally operations key + MySqlCounter.shortfall first)) := by
    unfold MySqlCounter.getCount
    rw [MySqlCounter.performAll_spec, found]
    rfl
  have small : MySqlCounter.shortfall first = 0 ∨ MySqlCounter.shortfall first = 1 := by
    cases first with
    | increment vName => exact Or.inl rfl
    | decrement vName => exact Or.inr rfl
  have exactly := ofInt_eq_tally_iff (tally operations key) _ small fits
  rw [found]
  constructor
  · intro given
    obtain ⟨shown, mysqlShown, _, shownTally⟩ := given
    rw [mysql] at mysqlShown
    cases mysqlShown
    have none := exactly.mp shownTally
    cases first with
    | increment vName =>
        change vName = key at named
        rw [named]
    | decrement vName => cases none
  · intro first_increment
    cases first_increment
    refine ⟨count, ?_, redis, counted⟩
    rw [mysql]
    congr 1
    rw [← Int32.toInt_inj, counted]
    exact exactly.mpr rfl

theorem agree_exercise :
    Agree [.increment "redisCounter", .increment "redisCounter", .decrement "redisCounter"]
        "redisCounter" ↔
      MySqlCounter.firstOn
        [.increment "redisCounter", .increment "redisCounter", .decrement "redisCounter"]
        "redisCounter" = some (.increment "redisCounter") :=
  agree_iff_first_increment _ _ ⟨_, List.mem_cons_self, rfl⟩ (by decide)

/-- After one decrement MySQL shows the inserted `0` and Redis shows `-1`. -/
theorem disagree_after_first_decrement :
    MySqlCounter.getCount
        (MySqlCounter.performAll MySqlCounter.Table.empty [.decrement "page"]) "page" = .ok 0 ∧
      RedisCounter.getCount
        (RedisCounter.performAll RedisCounter.Store.empty [.decrement "page"]) "page" =
          .ok (-1) ∧
      ¬Agree [.decrement "page"] "page" := by
  have mysql : MySqlCounter.getCount
      (MySqlCounter.performAll MySqlCounter.Table.empty [.decrement "page"]) "page" = .ok 0 := by
    decide
  have redis : RedisCounter.getCount
      (RedisCounter.performAll RedisCounter.Store.empty [.decrement "page"]) "page" =
        .ok (-1) := by
    decide
  refine ⟨mysql, redis, ?_⟩
  intro given
  obtain ⟨count, shown, redisShown, _⟩ := given
  rw [mysql] at shown
  rw [redis] at redisShown
  cases shown
  cases redisShown

end SpringExamples.Counter
