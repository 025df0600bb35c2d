/-
Any sequence of calls of the JPA services.

What a successful call does to the tables is said once, one case for each method; that
the totals are right and that no reference dangles follows for each case, and from it
for every run.
-/

import Mathlib.Algebra.Ring.Int.Defs
import SpringExamples.Foundation.Runs
import SpringExamples.Orders.Services

set_option autoImplicit false

namespace SpringExamples.Orders

variable {Price : Type}

inductive Call (Price : Type) where
  | createCustomer (id : Int) (fn ln : Option String)
  | createProduct (id : Int) (title desc : Option String) (price : Price)
  | createPurchase (id customerId : Int)
  | addProductToPurchase (id purchaseId productId : Int)
  deriving DecidableEq

/-- The call names a customer, a purchase or a product that does not exist. -/
def NamesMissing (store : Store Price) : Call Price → Prop
  | .createCustomer _ _ _ => False
  | .createProduct _ _ _ _ => False
  | .createPurchase _ customerId => customerId ∉ store.customers
  | .addProductToPurchase _ purchaseId productId =>
      purchaseId ∉ store.purchases ∨ productId ∉ store.products

open Runs

section Performing

variable [AddCommMonoid Price]

def perform (provider : Provider) (store : Store Price) :
    Call Price → Except Failure Unit × Store Price
  | .createCustomer id fn ln =>
      let done := createCustomer provider id fn ln store
      (done.1.map fun _ => (), done.2)
  | .createProduct id title desc price =>
      let done := createProduct provider id title desc price store
      (done.1.map fun _ => (), done.2)
  | .createPurchase id customerId =>
      let done := createPurchase provider id customerId store
      (done.1.map fun _ => (), done.2)
  | .addProductToPurchase id purchaseId productId =>
      addProductToPurchase provider id purchaseId productId store

def performAll (provider : Provider) (calls : List (Call Price)) : Store Price :=
  calls.foldl (fun store call => (perform provider store call).2) Store.empty

inductive Performs (store : Store Price) : Call Price → Store Price → Prop where
  | createCustomer (id : Int) (firstName lastName : String) (fresh : id ∉ store.customers) :
      Performs store (.createCustomer id (some firstName) (some lastName))
        { store with customers :=
          store.customers.insert id { firstName := firstName, lastName := lastName } }
  | createProduct (id : Int) (name : String) (desc : Option String) (price : Price)
      (fresh : id ∉ store.products) :
      Performs store (.createProduct id (some name) desc price)
        { store with products :=
          store.products.insert id { description := desc, name := name, price := price } }
  | createPurchase (id customerId : Int) (customerExists : customerId ∈ store.customers)
      (fresh : id ∉ store.purchases) :
      Performs store (.createPurchase id customerId)
        { store with purchases :=
          store.purchases.insert id { customer := customerId, total := 0 } }
  | addProductToPurchase (id purchaseId productId : Int) (purchase : Purchase Price)
      (found : store.purchases.lookup purchaseId = some purchase)
      (productExists : productId ∈ store.products) (fresh : id ∉ store.lineItems) :
      Performs store (.addProductToPurchase id purchaseId productId)
        { store with
          lineItems := store.lineItems.insert id { purchase := purchaseId, product := productId }
          purchases := store.purchases.insert purchaseId { purchase with
            total := store.sumOfPrices purchaseId + store.priceOf productId } }

theorem perform_error {provider : Provider} {store : Store Price} {call : Call Price}
    {failure : Failure} (failed : (perform provider store call).1 = .error failure) :
    (perform provider store call).2 = store := by
  have unmapped : ∀ done : Except Failure Int,
      (done.map fun _ => ()) = .error failure → done = .error failure := by
    intro done mapped
    cases done with
    | error thrown =>
        cases mapped
        rfl
    | ok result => cases mapped
  cases call with
  | createCustomer id fn ln => exact transactional_of_error store _ (unmapped _ failed)
  | createProduct id title desc price => exact transactional_of_error store _ (unmapped _ failed)
  | createPurchase id customerId => exact transactional_of_error store _ (unmapped _ failed)
  | addProductToPurchase id purchaseId productId => exact transactional_of_error store _ failed

theorem perform_ok {provider : Provider} {store : Store Price} (right : Store.Right store)
    {call : Call Price} (succeeded : (perform provider store call).1 = .ok ()) :
    Performs store call (perform provider store call).2 := by
  have unmapped : ∀ done : Except Failure Int,
      (done.map fun _ => ()) = .ok () → ∃ id, done = .ok id := by
    intro done mapped
    cases done with
    | error thrown => cases mapped
    | ok result => exact ⟨result, rfl⟩
  cases call with
  | createCustomer id fn ln =>
      obtain ⟨result, done⟩ := unmapped _ succeeded
      have executed := transactional_persist_ok (fun _ _ _ same => by cases same; rfl) done
      obtain ⟨customer, complete, fresh, same⟩ := insertRow_map_ok executed
      cases fn with
      | none => cases complete
      | some firstName =>
          cases ln with
          | none => cases complete
          | some lastName =>
              cases complete
              exact same ▸ .createCustomer id firstName lastName fresh
  | createProduct id title desc price =>
      obtain ⟨result, done⟩ := unmapped _ succeeded
      have executed := transactional_persist_ok (refresh_keeps id) done
      obtain ⟨product, complete, fresh, same⟩ := insertRow_map_ok executed
      cases title with
      | none => cases complete
      | some name =>
          cases complete
          exact same ▸ .createProduct id name desc price fresh
  | createPurchase id customerId =>
      obtain ⟨result, done⟩ := unmapped _ succeeded
      have executed := transactional_persist_ok (fun _ _ _ same => by cases same; rfl) done
      obtain ⟨purchase, complete, fresh, same⟩ := insertRow_map_ok executed
      cases found : store.customers.lookup customerId with
      | none =>
          simp only [find, found, Option.map_none] at complete
          cases complete
      | some customer =>
          simp only [find, found, Option.map_some, Option.some.injEq] at complete
          subst complete
          exact same ▸ .createPurchase id customerId (Store.mem_of_lookup found) fresh
  | addProductToPurchase id purchaseId productId =>
      by_cases impossible : purchaseId ∉ store.purchases ∨ productId ∉ store.products ∨
          id ∈ store.lineItems
      · obtain ⟨failure, failed⟩ := addProductToPurchase_fails provider store impossible
        change (addProductToPurchase provider id purchaseId productId store).1 = _ at succeeded
        rw [failed] at succeeded
        cases succeeded
      · simp only [not_or, not_not] at impossible
        obtain ⟨purchase, found⟩ := Store.lookup_of_mem impossible.1
        change Performs store _ (addProductToPurchase provider id purchaseId productId store).2
        rw [addProductToPurchase_ok provider right.productOfLineItem found impossible.2.1
          impossible.2.2]
        exact .addProductToPurchase id purchaseId productId purchase found impossible.2.1
          impossible.2.2

theorem right_performs {store after : Store Price} {call : Call Price}
    (right : Store.Right store) (performs : Performs store call after) : Store.Right after := by
  cases performs with
  | createCustomer id firstName lastName fresh =>
      refine ⟨right.totals, right.purchaseOfLineItem, right.productOfLineItem, ?_⟩
      intro other purchase found
      exact (AList.mem_insert _).mpr (Or.inr (right.customerOfPurchase other purchase found))
  | createProduct id name desc price fresh =>
      refine ⟨?_, right.purchaseOfLineItem, ?_, right.customerOfPurchase⟩
      · intro other purchase found
        rw [right.totals other purchase found]
        symm
        apply Store.sumOfPrices_congr
        · rfl
        · intro row listed
          have referenced :=
            right.productOfLineItem row.1 row.2 (Store.mem_lineItemsOf.mp listed).1
          have different : row.2.product ≠ id := fun same => fresh (same ▸ referenced)
          simp only [Store.priceOf, AList.lookup_insert_ne different]
      · intro other lineItem found
        exact (AList.mem_insert _).mpr (Or.inr (right.productOfLineItem other lineItem found))
  | createPurchase id customerId customerExists fresh =>
      refine ⟨?_, ?_, right.productOfLineItem, ?_⟩
      · intro other purchase found
        rcases Store.lookup_insert_some found with ⟨same, new⟩ | ⟨different, old⟩
        · subst same
          rw [new]
          change 0 = ((store.lineItemsOf other).map _).sum
          rw [Store.lineItemsOf_unreferenced right fresh, List.map_nil, List.sum_nil]
        · exact right.totals other purchase old
      · intro other lineItem found
        exact (AList.mem_insert _).mpr (Or.inr (right.purchaseOfLineItem other lineItem found))
      · exact Store.forall_lookup_insert customerExists right.customerOfPurchase
  | addProductToPurchase id purchaseId productId purchase found productExists fresh =>
      refine ⟨?_, ?_, ?_, ?_⟩
      · intro other later foundLater
        have prices := congrArg
          (fun rows : List (Sigma fun _ : Int => LineItem) =>
            (rows.map fun row => store.priceOf row.2.product).sum)
          (Store.lineItemsOf_insert store { purchase := purchaseId, product := productId } fresh
            other)
        refine Eq.trans ?_ prices.symm
        rcases Store.lookup_insert_some foundLater with ⟨same, new⟩ | ⟨different, old⟩
        · subst same
          rw [new, if_pos rfl]
          exact add_comm _ _
        · rw [if_neg (Ne.symm different)]
          exact right.totals other later old
      · refine Store.forall_lookup_insert ((AList.mem_insert _).mpr (Or.inl rfl)) ?_
        intro other lineItem foundItem
        exact (AList.mem_insert _).mpr (Or.inr (right.purchaseOfLineItem other lineItem foundItem))
      · exact Store.forall_lookup_insert productExists right.productOfLineItem
      · exact Store.forall_lookup_insert (right.customerOfPurchase purchaseId purchase found)
          right.customerOfPurchase

theorem right_performAll (provider : Provider) (calls : List (Call Price)) :
    Store.Right (performAll provider calls) := by
  have kept : ∀ store : Store Price, Store.Right store → ∀ call,
      Store.Right (perform provider store call).2 := by
    intro store right call
    cases outcome : (perform provider store call).1 with
    | error failure =>
        rw [perform_error outcome]
        exact right
    | ok done => exact right_performs right (perform_ok right outcome)
  refine run_invariant (total fun store call => (perform provider store call).2) Store.Right
    ?_ Store.right_empty (run_total _ _ calls)
  intro store call next right moved
  cases moved
  exact kept store right call

theorem perform_missing (provider : Provider) {store : Store Price} (right : Store.Right store)
    {call : Call Price} (missing : NamesMissing store call) :
    ∃ failure, (perform provider store call).1 = .error failure := by
  cases outcome : (perform provider store call).1 with
  | error failure => exact ⟨failure, rfl⟩
  | ok done =>
      have performs := perform_ok right outcome
      generalize (perform provider store call).2 = after at performs
      cases performs with
      | createCustomer id firstName lastName fresh => cases missing
      | createProduct id name desc price fresh => cases missing
      | createPurchase id customerId customerExists fresh => exact absurd customerExists missing
      | addProductToPurchase id purchaseId productId purchase found productExists fresh =>
          rcases missing with noPurchase | noProduct
          · exact absurd (Store.mem_of_lookup found) noPurchase
          · exact absurd productExists noProduct

/-- One more line item, the price of its product added to the total of its purchase, and
nothing else. -/
structure AddsLineItem (store after : Store Price) (id purchaseId productId : Int) : Prop where
  lineItems : after.lineItems.entries =
    ⟨id, { purchase := purchaseId, product := productId }⟩ :: store.lineItems.entries
  total : ∃ purchase, store.purchases.lookup purchaseId = some purchase ∧
    after.purchases.lookup purchaseId =
      some { purchase with total := purchase.total + store.priceOf productId }
  otherPurchases : ∀ other, other ≠ purchaseId →
    after.purchases.lookup other = store.purchases.lookup other
  customers : after.customers = store.customers
  products : after.products = store.products

theorem addProductToPurchase_iff (provider : Provider) {store : Store Price}
    (right : Store.Right store) (id purchaseId productId : Int) :
    ((addProductToPurchase provider id purchaseId productId store).1 = .ok () ↔
        purchaseId ∈ store.purchases ∧ productId ∈ store.products ∧ id ∉ store.lineItems) ∧
      ((addProductToPurchase provider id purchaseId productId store).1 = .ok () →
        AddsLineItem store (addProductToPurchase provider id purchaseId productId store).2
          id purchaseId productId) := by
  by_cases possible : purchaseId ∈ store.purchases ∧ productId ∈ store.products ∧
      id ∉ store.lineItems
  · obtain ⟨purchase, found⟩ := Store.lookup_of_mem possible.1
    rw [addProductToPurchase_ok provider right.productOfLineItem found possible.2.1 possible.2.2]
    refine ⟨iff_of_true rfl possible, fun _ => ?_⟩
    refine ⟨AList.entries_insert_of_notMem possible.2.2, ⟨purchase, found, ?_⟩, ?_, rfl, rfl⟩
    · rw [AList.lookup_insert, right.totals purchaseId purchase found]
    · intro other different
      exact AList.lookup_insert_ne different
  · have impossible : purchaseId ∉ store.purchases ∨ productId ∉ store.products ∨
        id ∈ store.lineItems := by
      by_contra none
      simp only [not_or, not_not] at none
      exact possible none
    obtain ⟨failure, failed⟩ := addProductToPurchase_fails provider store impossible
    rw [failed]
    refine ⟨iff_of_false (fun same => ?_) possible, fun same => ?_⟩
    · cases same
    · cases same

/-- After any calls the totals are right and no reference dangles; a call that names something
that does not exist fails; a call that fails changes nothing; and adding a product adds one line
item to its purchase alone. -/
theorem orders_always_right (provider : Provider) (calls : List (Call Price)) :
    let store := performAll provider calls
    Store.Right store ∧
      (∀ call, NamesMissing store call → ∃ failure,
        perform provider store call = (.error failure, store)) ∧
      (∀ call failure, (perform provider store call).1 = .error failure →
        (perform provider store call).2 = store) ∧
      ∀ id purchaseId productId,
        let added := perform provider store (.addProductToPurchase id purchaseId productId)
        (added.1 = .ok () ↔
            purchaseId ∈ store.purchases ∧ productId ∈ store.products ∧ id ∉ store.lineItems) ∧
          (added.1 = .ok () → AddsLineItem store added.2 id purchaseId productId) := by
  have right := right_performAll provider calls
  refine ⟨right, ?_, fun call failure failed => perform_error failed,
    addProductToPurchase_iff provider right⟩
  intro call missing
  obtain ⟨failure, failed⟩ := perform_missing provider right missing
  exact ⟨failure, Prod.ext failed (perform_error failed)⟩

end Performing

/-- A purchase of two widgets; there is no third product to add. -/
example :
    let store := performAll { rejectsNullAtPersist := true, insertsAtPersist := true }
      [.createCustomer 1 (some "A") (some "Customer"),
        .createPurchase 1 1,
        .createProduct 1 (some "Widget1") (some "a widget that slices (but not dices)") (12 : Int),
        .createProduct 2 (some "Widget2") (some "a widget that dices (but not slices)") 7,
        .addProductToPurchase 1 1 1,
        .addProductToPurchase 2 1 2,
        .addProductToPurchase 3 1 3]
    store.purchases.lookup 1 = some { customer := 1, total := 19 } ∧
      store.lineItems.lookup 2 = some { purchase := 1, product := 2 } ∧
      store.lineItems.lookup 3 = none := by
  decide

end SpringExamples.Orders
