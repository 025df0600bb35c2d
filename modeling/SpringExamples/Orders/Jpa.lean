/-
What the services rely on of JPA and of `@Transactional`.

A transaction works on the tables as its own statements see them.  A provider may
reject a null in a column that must not be null when the entity is persisted or when it
is written, and may write a new row when it is persisted or at the commit; nothing here
depends on which.  An exception rolls everything back.  The ids are whatever the database
generates; an id that is taken already violates the key of its table.
-/

import SpringExamples.Orders.Store

set_option autoImplicit false

namespace SpringExamples.Orders

structure Provider where
  rejectsNullAtPersist : Bool
  insertsAtPersist : Bool

inductive Failure where
  | nullNotAllowed
  | duplicateKey
  | entityNotFound
  | nullPointer
  deriving DecidableEq

/-- A new row for one of the tables; it is null if the entity lacks a value it must have. -/
inductive Insert (Price : Type) where
  | customer (id : Int) (row : Option Customer)
  | product (id : Int) (row : Option (Product Price))
  | purchase (id : Int) (row : Option (Purchase Price))
  | lineItem (id : Int) (row : Option LineItem)

structure Session (Price : Type) where
  store : Store Price
  pending : List (Insert Price)
  dirty : Option (Int × Purchase Price)

variable {Price : Type}

def insertRow {Row : Type} (table : Table Row) (id : Int) (row : Option Row) :
    Except Failure (Table Row) :=
  match row with
  | none => .error .nullNotAllowed
  | some row => if id ∈ table then .error .duplicateKey else .ok (table.insert id row)

namespace Insert

def lacksValue : Insert Price → Bool
  | .customer _ row => row.isNone
  | .product _ row => row.isNone
  | .purchase _ row => row.isNone
  | .lineItem _ row => row.isNone

def execute (store : Store Price) : Insert Price → Except Failure (Store Price)
  | .customer id row => (insertRow store.customers id row).map fun table =>
      { store with customers := table }
  | .product id row => (insertRow store.products id row).map fun table =>
      { store with products := table }
  | .purchase id row => (insertRow store.purchases id row).map fun table =>
      { store with purchases := table }
  | .lineItem id row => (insertRow store.lineItems id row).map fun table =>
      { store with lineItems := table }

end Insert

namespace Session

def persist (provider : Provider) (session : Session Price) (insert : Insert Price) :
    Except Failure (Session Price) :=
  if provider.rejectsNullAtPersist && insert.lacksValue then .error .nullNotAllowed
  else if provider.insertsAtPersist then
    (insert.execute session.store).map fun store => { session with store := store }
  else .ok { session with pending := session.pending ++ [insert] }

/-- Reading a product back that has not been written yet finds nothing. -/
def refresh (session : Session Price) (productId : Int) : Except Failure (Session Price) :=
  if productId ∈ session.store.products then .ok session else .error .entityNotFound

/-- New rows are written before changed ones. -/
def flush (session : Session Price) : Except Failure (Store Price) :=
  (session.pending.foldlM Insert.execute session.store).map fun store =>
    match session.dirty with
    | none => store
    | some (id, purchase) => { store with purchases := store.purchases.insert id purchase }

end Session

def transactional {Result : Type} (store : Store Price)
    (body : Session Price → Except Failure (Result × Session Price)) :
    Except Failure Result × Store Price :=
  match body { store := store, pending := [], dirty := none } with
  | .error failure => (.error failure, store)
  | .ok (result, session) =>
      match session.flush with
      | .error failure => (.error failure, store)
      | .ok committed => (.ok result, committed)

section Transactions

variable {Result : Type} (store : Store Price)

theorem transactional_of_error (body : Session Price → Except Failure (Result × Session Price))
    {failure : Failure} (failed : (transactional store body).1 = .error failure) :
    (transactional store body).2 = store := by
  unfold transactional at failed ⊢
  cases done : body { store := store, pending := [], dirty := none } with
  | error thrown => rfl
  | ok finished =>
      simp only [done] at failed ⊢
      cases flushed : finished.2.flush with
      | error thrown => rfl
      | ok committed =>
          rw [flushed] at failed
          cases failed

theorem Session.flush_of_persist {provider : Provider} {store : Store Price}
    {insert : Insert Price} {session : Session Price}
    (persisted : Session.persist provider { store := store, pending := [], dirty := none } insert =
      .ok session) :
    session.flush = insert.execute store := by
  unfold Session.persist at persisted
  split at persisted
  · cases persisted
  · split at persisted
    · cases executed : insert.execute store with
      | error failure =>
          rw [executed] at persisted
          cases persisted
      | ok written =>
          rw [executed] at persisted
          cases persisted
          rfl
    · cases persisted
      simp only [Session.flush, List.nil_append, List.foldlM_cons, List.foldlM_nil]
      cases insert.execute store with
      | error failure => rfl
      | ok written => rfl

theorem transactional_persist_ok {provider : Provider} {store : Store Price}
    {insert : Insert Price} {read : Session Price → Except Failure (Result × Session Price)}
    (keeps : ∀ session result next, read session = .ok (result, next) → next = session)
    {result : Result}
    (succeeded : (transactional store fun session =>
      session.persist provider insert >>= read).1 = .ok result) :
    insert.execute store = .ok (transactional store fun session =>
      session.persist provider insert >>= read).2 := by
  unfold transactional at succeeded ⊢
  dsimp only at succeeded ⊢
  cases persisted : Session.persist provider { store := store, pending := [], dirty := none }
      insert with
  | error failure =>
      rw [persisted] at succeeded
      cases succeeded
  | ok session =>
      simp only [persisted, bind, Except.bind] at succeeded ⊢
      cases done : read session with
      | error failure =>
          rw [done] at succeeded
          cases succeeded
      | ok finished =>
          have same := keeps session finished.1 finished.2 done
          simp only [done, same, Session.flush_of_persist persisted] at succeeded ⊢
          cases executed : insert.execute store with
          | error failure =>
              rw [executed] at succeeded
              cases succeeded
          | ok written => rfl

theorem Session.persist_of_unwritable (provider : Provider) {store : Store Price}
    {insert : Insert Price} {failure : Failure} {session : Session Price}
    (fails : insert.execute store = .error failure)
    (persisted : Session.persist provider { store := store, pending := [], dirty := none } insert =
      .ok session) :
    session = { store := store, pending := [insert], dirty := none } := by
  unfold Session.persist at persisted
  split at persisted
  · cases persisted
  · split at persisted
    · rw [fails] at persisted
      cases persisted
    · cases persisted
      rfl

theorem insertRow_map_ok {Row : Type} {table : Table Row} {id : Int} {row : Option Row}
    {update : Table Row → Store Price} {written : Store Price}
    (executed : (insertRow table id row).map update = .ok written) :
    ∃ value, row = some value ∧ id ∉ table ∧ written = update (table.insert id value) := by
  unfold insertRow at executed
  cases row with
  | none => cases executed
  | some value =>
      by_cases taken : id ∈ table
      · simp only [if_pos taken, Except.map] at executed
        cases executed
      · simp only [if_neg taken, Except.map] at executed
        cases executed
        exact ⟨value, rfl, taken, rfl⟩

end Transactions

end SpringExamples.Orders
