/-
The `Counter` interface and its Redis implementation.

`RedisCounter` keeps each count as decimal text under its name and reads, parses,
adds and writes it back in `modifyKey`.  The store is the Redis keyspace as the
counter sees it: `none` is an absent key, for which `GET` answers null.  What an
operation means is stated apart from the text, on the number a name counts; the
text is the code's own and is parsed and printed as Java does.
-/

import SpringExamples.Foundation.JavaInteger

set_option autoImplicit false

namespace SpringExamples.Counter

open JavaInteger

inductive Operation where
  | increment (vName : String)
  | decrement (vName : String)
  deriving DecidableEq, Repr

namespace Operation

def vName : Operation → String
  | .increment vName => vName
  | .decrement vName => vName

def delta : Operation → Int
  | .increment _ => 1
  | .decrement _ => -1

def deltaOn (key : String) (operation : Operation) : Int :=
  if operation.vName = key then operation.delta else 0

end Operation

/-- The number of increments minus the number of decrements of a name. -/
def tally (operations : List Operation) (key : String) : Int :=
  operations.count (.increment key) - operations.count (.decrement key)

@[simp] theorem tally_nil (key : String) : tally [] key = 0 := rfl

theorem tally_cons (operation : Operation) (rest : List Operation) (key : String) :
    tally (operation :: rest) key = operation.deltaOn key + tally rest key := by
  cases operation with
  | increment vName =>
      by_cases same : vName = key
      · subst same
        simp only [tally, Operation.deltaOn, Operation.vName, Operation.delta, if_pos,
          List.count_cons, beq_self_eq_true, beq_iff_eq, reduceCtorEq, if_false]
        omega
      · simp only [tally, Operation.deltaOn, Operation.vName, Operation.delta,
          List.count_cons, beq_iff_eq, Operation.increment.injEq, same, reduceCtorEq, if_false]
        omega
  | decrement vName =>
      by_cases same : vName = key
      · subst same
        simp only [tally, Operation.deltaOn, Operation.vName, Operation.delta, if_pos,
          List.count_cons, beq_self_eq_true, beq_iff_eq, reduceCtorEq, if_false]
        omega
      · simp only [tally, Operation.deltaOn, Operation.vName, Operation.delta,
          List.count_cons, beq_iff_eq, Operation.decrement.injEq, same, reduceCtorEq, if_false]
        omega

theorem tally_snoc (operations : List Operation) (operation : Operation) (key : String) :
    tally (operations ++ [operation]) key = tally operations key + operation.deltaOn key := by
  induction operations with
  | nil =>
      rw [List.nil_append, tally_cons, tally_nil]
      omega
  | cons head rest ih =>
      rw [List.cons_append, tally_cons, tally_cons, ih]
      omega

theorem tally_untouched (operations : List Operation) (key : String)
    (untouched : ∀ operation ∈ operations, operation.vName ≠ key) : tally operations key = 0 := by
  induction operations with
  | nil => rfl
  | cons head rest ih =>
      have here : head.deltaOn key = 0 := if_neg (untouched head List.mem_cons_self)
      have later := ih fun operation member =>
        untouched operation (List.mem_cons_of_mem head member)
      rw [tally_cons, here, later]
      rfl

inductive CounterException where
  | numberFormat
  | emptyResultDataAccess
  deriving DecidableEq, Repr

namespace RedisCounter

/-- `opsForValue().get(k)` for every key; null is `none`. -/
abbrev Store := String → Option String

def Store.set (store : Store) (k value : String) : Store :=
  Function.update store k (some value)

@[simp] theorem Store.set_same (store : Store) (k value : String) :
    store.set k value k = some value := by
  unfold Store.set
  exact Function.update_self _ _ _

theorem Store.set_other (store : Store) (k value : String) {other : String}
    (different : other ≠ k) :
    store.set k value other = store other := by
  unfold Store.set
  exact Function.update_of_ne different _ _

def Store.empty : Store := fun _ => none

/-- The exception leaves the store as the calls before it made it. -/
def modifyKey (store : Store) (k : String) (d : Int32) : Except CounterException Unit × Store :=
  let intValAsString := (store k).getD (print 0)
  let initialised := if store k = none then store.set k (print 0) else store
  match parseInt intValAsString with
  | none => (.error .numberFormat, initialised)
  | some currentIntVal => (.ok (), initialised.set k (print (currentIntVal + d)))

def increment (store : Store) (vName : String) : Except CounterException Unit × Store :=
  modifyKey store vName 1

def decrement (store : Store) (vName : String) : Except CounterException Unit × Store :=
  modifyKey store vName (-1)

def getCount (store : Store) (vName : String) : Except CounterException Int32 :=
  match store vName with
  | none => .error .numberFormat
  | some text =>
      match parseInt text with
      | none => .error .numberFormat
      | some count => .ok count

def perform (store : Store) : Operation → Except CounterException Unit × Store
  | .increment vName => increment store vName
  | .decrement vName => decrement store vName

def performAll (store : Store) (operations : List Operation) : Store :=
  operations.foldl (fun current operation => (perform current operation).2) store

/-- The number a key counts: an absent key counts from zero. -/
def countOf (store : Store) (k : String) : Int32 :=
  ((store k).bind parseInt).getD 0

def ReadableAt (store : Store) (k : String) : Prop :=
  ∀ text, store k = some text → ∃ count, parseInt text = some count

theorem countOf_of_parse {store : Store} {k text : String} {count : Int32}
    (holds : store k = some text) (parsed : parseInt text = some count) :
    countOf store k = count := by
  unfold countOf
  rw [holds, Option.bind_some, parsed]
  rfl

theorem countOf_absent {store : Store} {k : String} (absent : store k = none) :
    countOf store k = 0 := by
  unfold countOf
  rw [absent]
  rfl

@[simp] theorem countOf_set_same (store : Store) (k : String) (count : Int32) :
    countOf (store.set k (print count)) k = count :=
  countOf_of_parse (store.set_same k (print count)) (parseInt_print count)

theorem countOf_set_other (store : Store) (k value : String) {other : String}
    (different : other ≠ k) : countOf (store.set k value) other = countOf store other := by
  unfold countOf
  rw [store.set_other k value different]

theorem readableAt_set_print (store : Store) (k : String) (count : Int32) :
    ReadableAt (store.set k (print count)) k := by
  intro text holds
  rw [Store.set_same] at holds
  cases holds
  exact ⟨count, parseInt_print count⟩

theorem readableAt_set_other {store : Store} {k value other : String} (different : other ≠ k)
    (readable : ReadableAt store other) : ReadableAt (store.set k value) other := by
  intro text holds
  rw [store.set_other k value different] at holds
  exact readable text holds

theorem modifyKey_spec (store : Store) (k : String) (d : Int32) (readable : ReadableAt store k) :
    (modifyKey store k d).1 = .ok () ∧
      (modifyKey store k d).2 k = some (print (countOf store k + d)) ∧
      ∀ other, other ≠ k → (modifyKey store k d).2 other = store other := by
  cases found : store k with
  | none =>
      have parsed : parseInt (print 0) = some 0 := parseInt_print 0
      simp only [modifyKey, found, Option.getD_none, if_true, parsed, countOf_absent found,
        Store.set_same, true_and]
      intro other different
      rw [Store.set_other _ _ _ different, Store.set_other _ _ _ different]
  | some text =>
      obtain ⟨count, parsed⟩ := readable text found
      simp only [modifyKey, found, Option.getD_some, reduceCtorEq, if_false, parsed,
        countOf_of_parse found parsed, Store.set_same, true_and]
      intro other different
      exact Store.set_other _ _ _ different

theorem perform_eq (store : Store) (operation : Operation) :
    perform store operation =
      modifyKey store operation.vName (Int32.ofInt operation.delta) := by
  cases operation with
  | increment vName => rfl
  | decrement vName => rfl

/-- The text a key holds is canonical, so the key is readable and stays so. -/
def Canonical (store : Store) : Prop :=
  ∀ k text, store k = some text → ∃ count, text = print count

theorem Canonical.readableAt {store : Store} (canonical : Canonical store) (k : String) :
    ReadableAt store k := by
  intro text holds
  obtain ⟨count, same⟩ := canonical k text holds
  subst same
  exact ⟨count, parseInt_print count⟩

/-- A key of some operation holds the text of its tally, wrapped to 32 bits, and no other
key is there. -/
structure Counts (store : Store) (operations : List Operation) : Prop where
  touched : ∀ operation ∈ operations,
    store operation.vName = some (print (Int32.ofInt (tally operations operation.vName)))
  untouched : ∀ k, (∀ operation ∈ operations, operation.vName ≠ k) → store k = none

namespace Counts

variable {store : Store} {operations : List Operation}

theorem canonical (counts : Counts store operations) : Canonical store := by
  intro k text holds
  by_cases named : ∃ operation ∈ operations, operation.vName = k
  · obtain ⟨operation, member, same⟩ := named
    subst same
    rw [counts.touched operation member] at holds
    cases holds
    exact ⟨_, rfl⟩
  · have absent := counts.untouched k fun operation member same =>
      named ⟨operation, member, same⟩
    rw [absent] at holds
    cases holds

theorem countOf_eq (counts : Counts store operations) (k : String) :
    countOf store k = Int32.ofInt (tally operations k) := by
  by_cases named : ∃ operation ∈ operations, operation.vName = k
  · obtain ⟨operation, member, same⟩ := named
    subst same
    exact countOf_of_parse (counts.touched operation member) (parseInt_print _)
  · have other : ∀ operation ∈ operations, operation.vName ≠ k :=
      fun operation member same => named ⟨operation, member, same⟩
    rw [countOf_absent (counts.untouched k other), tally_untouched operations k other]
    rfl

theorem present_iff (counts : Counts store operations) (k : String) :
    store k ≠ none ↔ ∃ operation ∈ operations, operation.vName = k := by
  constructor
  · intro present
    by_contra unnamed
    apply present
    exact counts.untouched k fun operation member same => unnamed ⟨operation, member, same⟩
  · intro named
    obtain ⟨operation, member, same⟩ := named
    rw [← same, counts.touched operation member]
    exact Option.some_ne_none _

end Counts

theorem counts_empty : Counts Store.empty [] where
  touched := by
    intro operation impossible
    cases impossible
  untouched := fun _ _ => rfl

/-- One more operation is counted on its own key, and no other key is written. -/
theorem counts_perform {store : Store} {operations : List Operation}
    (counts : Counts store operations) (operation : Operation) :
    (perform store operation).1 = .ok () ∧
      Counts (perform store operation).2 (operations ++ [operation]) ∧
      ∀ other, other ≠ operation.vName → (perform store operation).2 other = store other := by
  obtain ⟨returned, written, others⟩ := modifyKey_spec store operation.vName
    (Int32.ofInt operation.delta) (counts.canonical.readableAt operation.vName)
  have own : tally (operations ++ [operation]) operation.vName =
      tally operations operation.vName + operation.delta := by
    rw [tally_snoc, Operation.deltaOn, if_pos rfl]
  rw [counts.countOf_eq, ← Int32.ofInt_add, ← own] at written
  rw [perform_eq]
  refine ⟨returned, ⟨?_, ?_⟩, others⟩
  · intro earlier member
    by_cases same : earlier.vName = operation.vName
    · rw [same]
      exact written
    · have before : earlier ∈ operations := by
        rcases List.mem_append.mp member with before | last
        · exact before
        · rw [List.mem_singleton.mp last] at same
          exact absurd rfl same
      have kept : tally (operations ++ [operation]) earlier.vName =
          tally operations earlier.vName := by
        rw [tally_snoc, Operation.deltaOn, if_neg (Ne.symm same), add_zero]
      rw [others earlier.vName same, kept]
      exact counts.touched earlier before
  · intro k unnamed
    have last := unnamed operation (List.mem_append_right operations List.mem_cons_self)
    rw [others k (Ne.symm last)]
    exact counts.untouched k fun earlier member =>
      unnamed earlier (List.mem_append_left [operation] member)

theorem performAll_snoc (store : Store) (operations : List Operation) (operation : Operation) :
    performAll store (operations ++ [operation]) =
      (perform (performAll store operations) operation).2 := by
  simp only [performAll, List.foldl_append, List.foldl_cons, List.foldl_nil]

theorem counts_performAll (operations : List Operation) :
    Counts (performAll Store.empty operations) operations := by
  induction operations using List.reverseRecOn with
  | nil => exact counts_empty
  | append_singleton before operation ih =>
      obtain ⟨_, counted, _⟩ := counts_perform ih operation
      rw [performAll_snoc]
      exact counted

/-- The state of the store after a sequential run from an empty one: a touched key
holds the printed tally modulo `2 ^ 32`, and every other key is still absent. -/
theorem performAll_spec (operations : List Operation) :
    Canonical (performAll Store.empty operations) ∧
      ∀ k, residue (countOf (performAll Store.empty operations) k) =
            (tally operations k : ZMod (2 ^ 32)) ∧
          (performAll Store.empty operations k ≠ none ↔
            ∃ operation ∈ operations, operation.vName = k) := by
  have counts := counts_performAll operations
  refine ⟨counts.canonical, fun k => ⟨?_, counts.present_iff k⟩⟩
  rw [counts.countOf_eq k]
  exact residue_ofInt (tally operations k)

theorem getCount_of_canonical {store : Store} {k : String} (canonical : Canonical store)
    (present : store k ≠ none) : getCount store k = .ok (countOf store k) := by
  obtain ⟨text, holds⟩ := Option.ne_none_iff_exists'.mp present
  obtain ⟨count, parsed⟩ := canonical.readableAt k text holds
  unfold getCount
  rw [holds]
  simp only [parsed, countOf_of_parse holds parsed]

/-- There is no text to parse for a key that was never counted. -/
theorem getCount_untouched (operations : List Operation) (k : String)
    (untouched : ∀ operation ∈ operations, operation.vName ≠ k) :
    getCount (performAll Store.empty operations) k = .error .numberFormat := by
  unfold getCount
  rw [(counts_performAll operations).untouched k untouched]

/-- A sequential client counts correctly: what a touched key holds, what the next call does to
its own key and to the others, and what is read back. -/
theorem sequential_counter (operations : List Operation) :
    let store := performAll Store.empty operations
    (∀ operation ∈ operations,
        (∃ count : Int32, store operation.vName = some (print count)) ∧
          getCount store operation.vName =
            .ok (Int32.ofInt (tally operations operation.vName))) ∧
      ∀ next : Operation, (perform store next).1 = .ok () ∧
        ∀ other, other ≠ next.vName → (perform store next).2 other = store other := by
  intro store
  have counts : Counts store operations := counts_performAll operations
  constructor
  · intro operation member
    have holds := counts.touched operation member
    refine ⟨⟨_, holds⟩, ?_⟩
    have present : store operation.vName ≠ none :=
      (counts.present_iff operation.vName).mpr ⟨operation, member, rfl⟩
    rw [getCount_of_canonical counts.canonical present, counts.countOf_eq]
  · intro next
    obtain ⟨returned, _, others⟩ := counts_perform counts next
    exact ⟨returned, others⟩

/-- Java's addition wraps around. -/
example : (increment (Store.empty.set "page" "2147483647") "page").2 "page" =
    some "-2147483648" := by decide

end RedisCounter

end SpringExamples.Counter
