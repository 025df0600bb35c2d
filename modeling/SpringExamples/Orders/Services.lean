/-
The JPA services: customers, products, purchases and the line items of a purchase.

Every method is one transaction.  The id that the database will generate for the new
row is an argument of the call.  Within a transaction a line item that was persisted and
the one that is loaded from its row are the same object, so the set of line items of a
purchase is a list without two entries of one id; the order does not matter to a sum.
-/

import SpringExamples.Orders.Jpa

set_option autoImplicit false

namespace SpringExamples.Orders

variable {Price : Type}

def find {Row : Type} (table : Table Row) (id : Int) : Option (Int × Row) :=
  (table.lookup id).map fun row => (id, row)

/-- A line item in memory, whose references may be null. -/
structure ManagedLineItem where
  id : Int
  purchase : Option Int
  product : Option Int
  deriving DecidableEq

def ManagedLineItem.row (lineItem : ManagedLineItem) : Option LineItem :=
  match lineItem.purchase, lineItem.product with
  | some purchase, some product => some { purchase := purchase, product := product }
  | _, _ => none

def managed (row : Sigma fun _ : Int => LineItem) : ManagedLineItem :=
  { id := row.1
    purchase := some row.2.purchase
    product := some row.2.product }

def getLineItems (store : Store Price) (purchaseId : Int) : List ManagedLineItem :=
  (store.lineItemsOf purchaseId).map managed

/-- `HashSet.add`: line items have the equality of their identity. -/
def addLineItem (lineItems : List ManagedLineItem) (lineItem : ManagedLineItem) :
    List ManagedLineItem :=
  if lineItem.id ∈ lineItems.map ManagedLineItem.id then lineItems else lineItems ++ [lineItem]

def createCustomer (provider : Provider) (id : Int) (fn ln : Option String)
    (store : Store Price) : Except Failure Int × Store Price :=
  transactional store fun session =>
    let newCustomer : Option Customer :=
      match fn, ln with
      | some firstName, some lastName => some { firstName := firstName, lastName := lastName }
      | _, _ => none
    session.persist provider (.customer id newCustomer) >>= fun session => .ok (id, session)

def createProduct (provider : Provider) (id : Int) (title desc : Option String) (price : Price)
    (store : Store Price) : Except Failure Int × Store Price :=
  transactional store fun session =>
    let product := title.map fun name => { description := desc, name := name, price := price }
    session.persist provider (.product id product) >>= fun session =>
      (session.refresh id).map fun session => (id, session)

/-- Whether the new row has been written or not, the set becomes the old line items and
the new one. -/
theorem addLineItem_perm {store seen : Store Price} {id : Int} {lineItem : LineItem}
    (fresh : id ∉ store.lineItems)
    (view : seen.lineItems = store.lineItems ∨
      seen.lineItems = store.lineItems.insert id lineItem) :
    (addLineItem (getLineItems seen lineItem.purchase) (managed ⟨id, lineItem⟩)).Perm
      (managed ⟨id, lineItem⟩ :: getLineItems store lineItem.purchase) := by
  rcases view with unwritten | written
  · have loaded : getLineItems seen lineItem.purchase = getLineItems store lineItem.purchase := by
      simp only [getLineItems, Store.lineItemsOf, unwritten]
    have absent : (managed ⟨id, lineItem⟩).id ∉
        (getLineItems store lineItem.purchase).map ManagedLineItem.id := by
      intro member
      simp only [getLineItems, List.map_map, List.mem_map, Function.comp_apply] at member
      obtain ⟨row, listed, same⟩ := member
      change row.1 = id at same
      exact fresh (same ▸ Store.mem_of_lookup (Store.mem_lineItemsOf.mp listed).1)
    rw [loaded, addLineItem, if_neg absent]
    exact List.perm_append_singleton _ _
  · have loaded : getLineItems seen lineItem.purchase =
        managed ⟨id, lineItem⟩ :: getLineItems store lineItem.purchase := by
      have rows := Store.lineItemsOf_insert store lineItem fresh lineItem.purchase
      rw [if_pos rfl] at rows
      simp only [Store.lineItemsOf] at rows
      simp only [getLineItems, Store.lineItemsOf, written, rows, List.map_cons]
    rw [loaded, addLineItem, if_pos]
    exact List.mem_map_of_mem List.mem_cons_self

theorem refresh_keeps (id : Int) (session : Session Price) (result : Int) (next : Session Price)
    (read : ((session.refresh id).map fun session => (id, session)) = .ok (result, next)) :
    next = session := by
  unfold Session.refresh at read
  split at read
  · cases read
    rfl
  · cases read

section Purchases

variable [AddCommMonoid Price]

def createPurchase (provider : Provider) (id customerId : Int) (store : Store Price) :
    Except Failure Int × Store Price :=
  transactional store fun session =>
    let customer := find session.store.customers customerId
    let purchase := customer.map fun found => { customer := found.1, total := 0 }
    session.persist provider (.purchase id purchase) >>= fun session => .ok (id, session)

def recalculate (store : Store Price) (total : Price) :
    List ManagedLineItem → Except Failure Price
  | [] => .ok total
  | lineItem :: rest =>
      match lineItem.product with
      | none => .error .nullPointer
      | some productId =>
          match store.products.lookup productId with
          | none => .error .entityNotFound
          | some product => recalculate store (total + product.price) rest

/-- The line item is added to the purchase's set, and the new total is set.  The purchase is
managed already, so merging it changes nothing more. -/
def addAndRecalculate (session : Session Price) (purchase : Option (Int × Purchase Price))
    (lineItem : ManagedLineItem) : Except Failure (Unit × Session Price) :=
  match purchase with
  | none => .error .nullPointer
  | some (purchaseId, purchase) =>
      let lineItems := addLineItem (getLineItems session.store purchaseId) lineItem
      (recalculate session.store 0 lineItems).map fun total =>
        ((), { session with dirty := some (purchaseId, { purchase with total := total }) })

def addProductToPurchase (provider : Provider) (id purchaseId productId : Int)
    (store : Store Price) : Except Failure Unit × Store Price :=
  transactional store fun session =>
    let purchase := find session.store.purchases purchaseId
    let product := find session.store.products productId
    let lineItem : ManagedLineItem :=
      { id := id
        purchase := purchase.map Prod.fst
        product := product.map Prod.fst }
    session.persist provider (.lineItem id lineItem.row) >>= fun session =>
      addAndRecalculate session purchase lineItem

def priceOfItem (store : Store Price) (lineItem : ManagedLineItem) : Price :=
  match lineItem.product with
  | none => 0
  | some productId => store.priceOf productId

theorem recalculate_ok (store : Store Price) (total : Price) (lineItems : List ManagedLineItem)
    (known : ∀ lineItem ∈ lineItems, ∃ productId, lineItem.product = some productId ∧
      productId ∈ store.products) :
    recalculate store total lineItems =
      .ok (total + (lineItems.map (priceOfItem store)).sum) := by
  induction lineItems generalizing total with
  | nil =>
      rw [List.map_nil, List.sum_nil, add_zero]
      rfl
  | cons lineItem rest ih =>
      obtain ⟨productId, references, present⟩ := known lineItem List.mem_cons_self
      obtain ⟨product, found⟩ := Store.lookup_of_mem present
      have price : priceOfItem store lineItem = product.price := by
        simp only [priceOfItem, references, Store.priceOf, found]
      rw [List.map_cons, List.sum_cons, price, ← add_assoc]
      simp only [recalculate, references, found]
      exact ih (total + product.price) fun other member =>
        known other (List.mem_cons_of_mem lineItem member)

theorem recalculate_eq {store : Store Price} {total result : Price}
    {lineItems : List ManagedLineItem}
    (computed : recalculate store total lineItems = .ok result) :
    result = total + (lineItems.map (priceOfItem store)).sum := by
  induction lineItems generalizing total with
  | nil =>
      cases computed
      rw [List.map_nil, List.sum_nil, add_zero]
  | cons lineItem rest ih =>
      unfold recalculate at computed
      split at computed
      · cases computed
      · rename_i productId references
        split at computed
        · cases computed
        · rename_i product found
          have price : priceOfItem store lineItem = product.price := by
            simp only [priceOfItem, references, Store.priceOf, found]
          rw [List.map_cons, List.sum_cons, price, ← add_assoc]
          exact ih computed

theorem recalculate_addLineItem {store seen prices : Store Price}
    (priced : ∀ other row, store.lineItems.lookup other = some row →
      row.product ∈ store.products)
    {id : Int} (lineItem : LineItem) (fresh : id ∉ store.lineItems)
    (present : lineItem.product ∈ store.products) (products : prices.products = store.products)
    (view : seen.lineItems = store.lineItems ∨
      seen.lineItems = store.lineItems.insert id lineItem) :
    recalculate prices 0
        (addLineItem (getLineItems seen lineItem.purchase) (managed ⟨id, lineItem⟩)) =
      .ok (store.sumOfPrices lineItem.purchase + store.priceOf lineItem.product) := by
  have permuted := addLineItem_perm fresh view
  have known : ∀ other ∈ addLineItem (getLineItems seen lineItem.purchase)
      (managed ⟨id, lineItem⟩),
      ∃ productId, other.product = some productId ∧ productId ∈ prices.products := by
    intro other member
    rw [products]
    rcases List.mem_cons.mp (permuted.mem_iff.mp member) with new | old
    · exact ⟨lineItem.product, new ▸ rfl, present⟩
    · obtain ⟨row, listed, equal⟩ := List.mem_map.mp old
      exact ⟨row.2.product, equal ▸ rfl,
        priced row.1 row.2 (Store.mem_lineItemsOf.mp listed).1⟩
  have same : priceOfItem prices = priceOfItem store := by
    funext other
    simp only [priceOfItem, Store.priceOf, products]
  have total : ((addLineItem (getLineItems seen lineItem.purchase)
      (managed ⟨id, lineItem⟩)).map (priceOfItem prices)).sum =
      store.sumOfPrices lineItem.purchase + store.priceOf lineItem.product := by
    rw [same, (permuted.map (priceOfItem store)).sum_eq, List.map_cons, List.sum_cons, add_comm,
      getLineItems, List.map_map]
    rfl
  rw [recalculate_ok prices 0 _ known, total, zero_add]

theorem addProductToPurchase_ok (provider : Provider) {store : Store Price}
    (priced : ∀ other row, store.lineItems.lookup other = some row →
      row.product ∈ store.products)
    {id purchaseId productId : Int} {purchase : Purchase Price}
    (found : store.purchases.lookup purchaseId = some purchase)
    (present : productId ∈ store.products) (fresh : id ∉ store.lineItems) :
    addProductToPurchase provider id purchaseId productId store =
      (.ok (), { store with
        lineItems := store.lineItems.insert id { purchase := purchaseId, product := productId }
        purchases := store.purchases.insert purchaseId { purchase with
          total := store.sumOfPrices purchaseId + store.priceOf productId } }) := by
  obtain ⟨product, sold⟩ := Store.lookup_of_mem present
  have added : ∀ session : Session Price, session.store.products = store.products →
      session.store.lineItems = store.lineItems ∨ session.store.lineItems =
        store.lineItems.insert id { purchase := purchaseId, product := productId } →
      addAndRecalculate session (some (purchaseId, purchase))
          { id := id, purchase := some purchaseId, product := some productId } =
        .ok ((), { session with dirty := some (purchaseId, { purchase with
          total := store.sumOfPrices purchaseId + store.priceOf productId }) }) := by
    intro session products view
    have computed := recalculate_addLineItem priced
      { purchase := purchaseId, product := productId } fresh present products view
    simp only [managed] at computed
    simp only [addAndRecalculate, computed, Except.map]
  unfold addProductToPurchase transactional Session.persist
  simp only [find, found, sold, Option.map_some, ManagedLineItem.row, Insert.lacksValue,
    Option.isNone_some, Bool.and_false, Bool.false_eq_true, if_false, Insert.execute, insertRow,
    if_neg fresh, Except.map]
  cases provider.insertsAtPersist with
  | true =>
      simp only [if_true, bind, Except.bind]
      rw [added _ rfl (Or.inr rfl)]
      rfl
  | false =>
      simp only [Bool.false_eq_true, if_false, bind, Except.bind]
      rw [added _ rfl (Or.inl rfl)]
      simp only [Session.flush, List.nil_append, List.foldlM_cons, List.foldlM_nil,
        Insert.execute, insertRow, if_neg fresh, Except.map]
      rfl

theorem addAndRecalculate_keeps {session next : Session Price}
    {purchase : Option (Int × Purchase Price)} {lineItem : ManagedLineItem}
    (done : addAndRecalculate session purchase lineItem = .ok ((), next)) :
    next.store = session.store ∧ next.pending = session.pending := by
  cases purchase with
  | none => cases done
  | some found =>
      unfold addAndRecalculate at done
      dsimp only at done
      cases computed : recalculate session.store 0
          (addLineItem (getLineItems session.store found.1) lineItem) with
      | error failure =>
          rw [computed] at done
          cases done
      | ok total =>
          rw [computed] at done
          cases done
          exact ⟨rfl, rfl⟩

theorem addProductToPurchase_fails (provider : Provider) (store : Store Price)
    {id purchaseId productId : Int} (impossible : purchaseId ∉ store.purchases ∨
      productId ∉ store.products ∨ id ∈ store.lineItems) :
    ∃ failure, (addProductToPurchase provider id purchaseId productId store).1 =
      .error failure := by
  have unwritable : ∃ failure, (Insert.lineItem id (ManagedLineItem.row
      { id := id
        purchase := (find store.purchases purchaseId).map Prod.fst
        product := (find store.products productId).map Prod.fst })).execute store =
          .error failure := by
    rcases impossible with missing | missing | taken
    · simp [find, AList.lookup_eq_none.mpr missing, ManagedLineItem.row, Insert.execute, insertRow,
        Except.map]
    · simp [find, AList.lookup_eq_none.mpr missing, ManagedLineItem.row, Insert.execute, insertRow,
        Except.map]
    · simp only [Insert.execute, insertRow, if_pos taken]
      split <;> exact ⟨_, rfl⟩
  obtain ⟨failure, fails⟩ := unwritable
  unfold addProductToPurchase transactional
  dsimp only
  cases persisted : Session.persist provider { store := store, pending := [], dirty := none }
      (.lineItem id (ManagedLineItem.row
        { id := id
          purchase := (find store.purchases purchaseId).map Prod.fst
          product := (find store.products productId).map Prod.fst })) with
  | error thrown => exact ⟨thrown, rfl⟩
  | ok session =>
      have deferred := Session.persist_of_unwritable provider fails persisted
      subst deferred
      simp only [bind, Except.bind]
      split
      · exact ⟨_, rfl⟩
      · rename_i result next done
        have kept := addAndRecalculate_keeps done
        have flushed : next.flush = .error failure := by
          simp only [Session.flush, kept.1, kept.2, List.foldlM_cons, fails]
          rfl
        rw [flushed]
        exact ⟨failure, rfl⟩

end Purchases

end SpringExamples.Orders
