/-
The order tables, and what it means that they are right.

A table holds its rows by their generated id.  A row has no null in a column that
must not be null.  Prices are exact: any commutative addition with a zero will do.
-/

import Mathlib.Data.List.AList
import Mathlib.Algebra.BigOperators.Group.List.Basic

set_option autoImplicit false

namespace SpringExamples.Orders

abbrev Table (Row : Type) := AList fun _ : Int => Row

structure Customer where
  firstName : String
  lastName : String
  deriving DecidableEq

structure Product (Price : Type) where
  description : Option String
  name : String
  price : Price
  deriving DecidableEq

structure Purchase (Price : Type) where
  customer : Int
  total : Price
  deriving DecidableEq

structure LineItem where
  purchase : Int
  product : Int
  deriving DecidableEq

structure Store (Price : Type) where
  customers : Table Customer
  products : Table (Product Price)
  purchases : Table (Purchase Price)
  lineItems : Table LineItem
  deriving DecidableEq

variable {Price : Type}

namespace Store

def empty : Store Price :=
  { customers := ∅
    products := ∅
    purchases := ∅
    lineItems := ∅ }

def lineItemsOf (store : Store Price) (purchaseId : Int) : List (Sigma fun _ : Int => LineItem) :=
  store.lineItems.entries.filter fun row => row.2.purchase = purchaseId

theorem mem_lineItemsOf {store : Store Price} {purchaseId : Int}
    {row : Sigma fun _ : Int => LineItem} :
    row ∈ store.lineItemsOf purchaseId ↔
      store.lineItems.lookup row.1 = some row.2 ∧ row.2.purchase = purchaseId := by
  unfold lineItemsOf
  rw [List.mem_filter, decide_eq_true_iff, ← Option.mem_def, AList.mem_lookup_iff]

theorem lookup_of_mem {Row : Type} {table : Table Row} {id : Int} (present : id ∈ table) :
    ∃ row, table.lookup id = some row :=
  Option.isSome_iff_exists.mp (AList.lookup_isSome.mpr present)

theorem mem_of_lookup {Row : Type} {table : Table Row} {id : Int} {row : Row}
    (found : table.lookup id = some row) : id ∈ table := by
  rw [← AList.lookup_isSome, found]
  rfl

theorem lookup_insert_some {Row : Type} {table : Table Row} {id other : Int} {row found : Row}
    (present : (table.insert id row).lookup other = some found) :
    other = id ∧ found = row ∨ other ≠ id ∧ table.lookup other = some found := by
  by_cases same : other = id
  · subst same
    rw [AList.lookup_insert] at present
    exact Or.inl ⟨rfl, (Option.some.inj present).symm⟩
  · rw [AList.lookup_insert_ne same] at present
    exact Or.inr ⟨same, present⟩

/-- What holds of every row and of a new one holds of every row after the insert. -/
theorem forall_lookup_insert {Row : Type} {table : Table Row} {id : Int} {row : Row}
    {holds : Row → Prop} (new : holds row)
    (old : ∀ other found, table.lookup other = some found → holds found) (other : Int)
    (found : Row) (present : (table.insert id row).lookup other = some found) : holds found := by
  rcases lookup_insert_some present with ⟨_, same⟩ | ⟨_, before⟩
  · exact same ▸ new
  · exact old other found before

/-- A line item that nothing references yet is one more row of its purchase. -/
theorem lineItemsOf_insert (store : Store Price) {id : Int} (lineItem : LineItem)
    (fresh : id ∉ store.lineItems) (purchaseId : Int) :
    { store with lineItems := store.lineItems.insert id lineItem }.lineItemsOf purchaseId =
      if lineItem.purchase = purchaseId then ⟨id, lineItem⟩ :: store.lineItemsOf purchaseId
      else store.lineItemsOf purchaseId := by
  unfold lineItemsOf
  rw [AList.entries_insert_of_notMem fresh]
  rw [List.filter_cons]
  simp only [decide_eq_true_iff]

theorem lineItemsOf_keys_nodup (store : Store Price) (purchaseId : Int) :
    ((store.lineItemsOf purchaseId).map Sigma.fst).Nodup :=
  (List.filter_sublist.map Sigma.fst).nodup store.lineItems.keys_nodup

section Totals

variable [AddCommMonoid Price]

def priceOf (store : Store Price) (productId : Int) : Price :=
  match store.products.lookup productId with
  | some product => product.price
  | none => 0

/-- The prices of all line items of a purchase, a product that occurs twice counted twice. -/
def sumOfPrices (store : Store Price) (purchaseId : Int) : Price :=
  ((store.lineItemsOf purchaseId).map fun row => store.priceOf row.2.product).sum

/-- Every total is the sum of its line items' prices, and no reference dangles. -/
structure Right (store : Store Price) : Prop where
  totals : ∀ id purchase, store.purchases.lookup id = some purchase →
    purchase.total = store.sumOfPrices id
  purchaseOfLineItem : ∀ id lineItem, store.lineItems.lookup id = some lineItem →
    lineItem.purchase ∈ store.purchases
  productOfLineItem : ∀ id lineItem, store.lineItems.lookup id = some lineItem →
    lineItem.product ∈ store.products
  customerOfPurchase : ∀ id purchase, store.purchases.lookup id = some purchase →
    purchase.customer ∈ store.customers

theorem lineItemsOf_unreferenced {store : Store Price} (right : Right store) {purchaseId : Int}
    (fresh : purchaseId ∉ store.purchases) : store.lineItemsOf purchaseId = [] := by
  apply List.eq_nil_iff_forall_not_mem.mpr
  intro row listed
  obtain ⟨present, references⟩ := mem_lineItemsOf.mp listed
  exact fresh (references ▸ right.purchaseOfLineItem row.1 row.2 present)

theorem sumOfPrices_congr {store other : Store Price} {purchaseId : Int}
    (same : other.lineItemsOf purchaseId = store.lineItemsOf purchaseId)
    (prices : ∀ row ∈ store.lineItemsOf purchaseId,
      other.priceOf row.2.product = store.priceOf row.2.product) :
    other.sumOfPrices purchaseId = store.sumOfPrices purchaseId := by
  unfold sumOfPrices
  rw [same]
  exact congrArg List.sum (List.map_congr_left prices)

theorem right_empty : Right (empty : Store Price) where
  totals := by
    intro id purchase found
    cases found
  purchaseOfLineItem := by
    intro id lineItem found
    cases found
  productOfLineItem := by
    intro id lineItem found
    cases found
  customerOfPurchase := by
    intro id purchase found
    cases found

end Totals

end Store

end SpringExamples.Orders
