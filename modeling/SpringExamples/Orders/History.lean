/-
What can be read back, told by the calls that succeeded.

The successful calls are a history, and what the services should answer can be said about
histories alone: a customer and a product are as they were given, a purchase belongs to the
customer it was created for, and its total is the price of each product that was added to it.
The tables never say anything else.
-/

import SpringExamples.Orders.Totals

set_option autoImplicit false

namespace SpringExamples.Orders

open Runs

variable {Price : Type}

def getCustomerById (store : Store Price) (id : Int) : Option (Int × Customer) :=
  find store.customers id

def getProductById (store : Store Price) (id : Int) : Option (Int × Product Price) :=
  find store.products id

def getPurchaseById (store : Store Price) (purchaseId : Int) : Option (Int × Purchase Price) :=
  find store.purchases purchaseId

namespace Call

def customer? (id : Int) : Call Price → Option Customer
  | .createCustomer created (some firstName) (some lastName) =>
      if created = id then some { firstName := firstName, lastName := lastName } else none
  | _ => none

def product? (id : Int) : Call Price → Option (Product Price)
  | .createProduct created (some name) desc price =>
      if created = id then some { description := desc, name := name, price := price } else none
  | _ => none

def buyer? (id : Int) : Call Price → Option Int
  | .createPurchase created customerId => if created = id then some customerId else none
  | _ => none

def added? (id : Int) : Call Price → Option Int
  | .addProductToPurchase _ purchaseId productId =>
      if purchaseId = id then some productId else none
  | _ => none

end Call

section Histories

variable (history : List (Call Price)) (id : Int)

def customerIn : Option Customer := history.findSome? (Call.customer? id)

def productIn : Option (Product Price) := history.findSome? (Call.product? id)

def buyerIn : Option Int := history.findSome? (Call.buyer? id)

/-- A product that was added twice occurs twice. -/
def addedIn : List Int := history.filterMap (Call.added? id)

end Histories

def priceIn [Zero Price] (history : List (Call Price)) (id : Int) : Price :=
  match productIn history id with
  | some product => product.price
  | none => 0

def totalIn [AddCommMonoid Price] (history : List (Call Price)) (id : Int) : Price :=
  ((addedIn history id).map (priceIn history)).sum

/-- The calls of a run that succeed, oldest first. -/
def accepted [AddCommMonoid Price] (provider : Provider) :
    Store Price → List (Call Price) → List (Call Price)
  | _, [] => []
  | store, call :: rest =>
      let done := perform provider store call
      match done.1 with
      | .ok () => call :: accepted provider done.2 rest
      | .error _ => accepted provider done.2 rest

/-- The history tells what is in the tables. -/
structure Explains (history : List (Call Price)) (store : Store Price) : Prop where
  customers : ∀ id, store.customers.lookup id = customerIn history id
  products : ∀ id, store.products.lookup id = productIn history id
  buyers : ∀ id, (store.purchases.lookup id).map Purchase.customer = buyerIn history id
  lineItems : ∀ id, ((store.lineItemsOf id).map fun row => row.2.product).Perm
    (addedIn history id)

theorem explains_empty : Explains [] (Store.empty : Store Price) where
  customers := fun _ => rfl
  products := fun _ => rfl
  buyers := fun _ => rfl
  lineItems := fun _ => .nil

section Steps

/-- What an insert adds to a table, a call adds to the history. -/
theorem lookup_insert_or {Row : Type} {table : Table Row} {id : Int} (row : Row)
    (fresh : id ∉ table) (other : Int) :
    (table.insert id row).lookup other =
      (table.lookup other).or (if id = other then some row else none) := by
  by_cases same : id = other
  · subst same
    rw [AList.lookup_insert, AList.lookup_eq_none.mpr fresh, if_pos rfl, Option.none_or]
  · rw [AList.lookup_insert_ne (Ne.symm same), if_neg same, Option.or_none]

theorem findSome?_snoc {Item Found : Type} (items : List Item) (item : Item)
    (look : Item → Option Found) :
    (items ++ [item]).findSome? look = (items.findSome? look).or (look item) := by
  rw [List.findSome?_append, List.findSome?_singleton]

/-- A call that creates nothing of the kind leaves what is told as it is. -/
theorem findSome?_snoc_of_none {Item Found : Type} {items : List Item} {item : Item}
    {look : Item → Option Found} (nothing : look item = none) :
    items.findSome? look = (items ++ [item]).findSome? look := by
  rw [findSome?_snoc, nothing, Option.or_none]

variable [AddCommMonoid Price] {history : List (Call Price)} {store after : Store Price}
  {call : Call Price}

omit [AddCommMonoid Price] in
theorem addedIn_snoc (history : List (Call Price)) (call : Call Price) (id : Int) :
    addedIn (history ++ [call]) id = addedIn history id ++ (call.added? id).toList := by
  unfold addedIn
  rw [List.filterMap_append]
  cases stands : call.added? id with
  | none => rw [List.filterMap_cons_none stands]; rfl
  | some productId => rw [List.filterMap_cons_some stands]; rfl

theorem explains_step (explains : Explains history store) (performs : Performs store call after) :
    Explains (history ++ [call]) after := by
  have noItem : ∀ id, call.added? id = none →
      ((store.lineItemsOf id).map fun row => row.2.product).Perm
        (addedIn (history ++ [call]) id) := by
    intro id nothing
    rw [addedIn_snoc, nothing]
    exact (explains.lineItems id).trans (.of_eq (List.append_nil _).symm)
  cases performs with
  | createCustomer id firstName lastName fresh =>
      refine ⟨fun other => ?_, fun other => ?_, fun other => ?_, fun other => noItem other rfl⟩
      · refine (lookup_insert_or _ fresh other).trans ?_
        rw [explains.customers other]
        exact (findSome?_snoc history (.createCustomer id (some firstName) (some lastName))
          (Call.customer? other)).symm
      · exact (explains.products other).trans (findSome?_snoc_of_none rfl)
      · exact (explains.buyers other).trans (findSome?_snoc_of_none rfl)
  | createProduct id name desc price fresh =>
      refine ⟨fun other => ?_, fun other => ?_, fun other => ?_, fun other => noItem other rfl⟩
      · exact (explains.customers other).trans (findSome?_snoc_of_none rfl)
      · refine (lookup_insert_or _ fresh other).trans ?_
        rw [explains.products other]
        exact (findSome?_snoc history (.createProduct id (some name) desc price)
          (Call.product? other)).symm
      · exact (explains.buyers other).trans (findSome?_snoc_of_none rfl)
  | createPurchase id customerId customerExists fresh =>
      refine ⟨fun other => ?_, fun other => ?_, fun other => ?_, fun other => noItem other rfl⟩
      · exact (explains.customers other).trans (findSome?_snoc_of_none rfl)
      · exact (explains.products other).trans (findSome?_snoc_of_none rfl)
      · refine (congrArg _ (lookup_insert_or _ fresh other)).trans ?_
        rw [Option.map_or, explains.buyers other]
        refine Eq.trans ?_ (findSome?_snoc _ _ _).symm
        rw [apply_ite (Option.map Purchase.customer)]
        rfl
  | addProductToPurchase id purchaseId productId purchase found productExists fresh =>
      refine ⟨fun other => ?_, fun other => ?_, fun other => ?_, fun other => ?_⟩
      · exact (explains.customers other).trans (findSome?_snoc_of_none rfl)
      · exact (explains.products other).trans (findSome?_snoc_of_none rfl)
      · refine Eq.trans ?_ ((explains.buyers other).trans (findSome?_snoc_of_none rfl))
        by_cases same : other = purchaseId
        · subst same
          rw [AList.lookup_insert, found]
          rfl
        · rw [AList.lookup_insert_ne same]
      · have rows := congrArg (List.map fun row => row.2.product)
          (Store.lineItemsOf_insert store { purchase := purchaseId, product := productId } fresh
            other)
        refine (List.Perm.of_eq rows).trans ?_
        rw [addedIn_snoc]
        by_cases same : purchaseId = other
        · rw [if_pos same, Call.added?, if_pos same]
          exact ((explains.lineItems other).cons productId).trans
            (List.perm_append_singleton productId _).symm
        · rw [if_neg same, Call.added?, if_neg same]
          exact (explains.lineItems other).trans (.of_eq (List.append_nil _).symm)

end Steps

section Runs

variable [AddCommMonoid Price] {history : List (Call Price)} {store : Store Price}

/-- A run extends the history by the calls that succeed on it. -/
theorem explains_run (provider : Provider) (explains : Explains history store)
    (right : Store.Right store) (calls : List (Call Price)) :
    Explains (history ++ accepted provider store calls)
      (calls.foldl (fun store call => (perform provider store call).2) store) := by
  induction calls generalizing history store with
  | nil =>
      rw [accepted, List.append_nil]
      exact explains
  | cons call rest ih =>
      rw [List.foldl_cons]
      unfold accepted
      dsimp only
      cases outcome : (perform provider store call).1 with
      | error failure =>
          rw [perform_error outcome]
          exact ih explains right
      | ok done =>
          have performs := perform_ok right outcome
          have extended := ih (explains_step explains performs) (right_performs right performs)
          rw [List.append_assoc] at extended
          exact extended

theorem priceOf_of_explains (explains : Explains history store) :
    store.priceOf = priceIn history := by
  funext productId
  let price : Option (Product Price) → Price := fun found =>
    match found with
    | some product => product.price
    | none => 0
  exact congrArg price (explains.products productId)

theorem sumOfPrices_of_explains (explains : Explains history store) (purchaseId : Int) :
    store.sumOfPrices purchaseId = totalIn history purchaseId := by
  have items := ((explains.lineItems purchaseId).map (priceIn history)).sum_eq
  unfold Store.sumOfPrices totalIn
  rw [← items, List.map_map, priceOf_of_explains explains]
  rfl

omit [AddCommMonoid Price] in
theorem getCustomerById_of_explains (explains : Explains history store) (id : Int) :
    getCustomerById store id = (customerIn history id).map fun row => (id, row) := by
  unfold getCustomerById find
  rw [explains.customers id]

omit [AddCommMonoid Price] in
theorem getProductById_of_explains (explains : Explains history store) (id : Int) :
    getProductById store id = (productIn history id).map fun row => (id, row) := by
  unfold getProductById find
  rw [explains.products id]

theorem getPurchaseById_of_explains (explains : Explains history store)
    (right : Store.Right store) (purchaseId : Int) :
    getPurchaseById store purchaseId = (buyerIn history purchaseId).map fun customerId =>
      (purchaseId, { customer := customerId, total := totalIn history purchaseId }) := by
  unfold getPurchaseById find
  rw [← explains.buyers purchaseId]
  cases found : store.purchases.lookup purchaseId with
  | none => rfl
  | some purchase =>
      have total := (right.totals purchaseId purchase found).trans
        (sumOfPrices_of_explains explains purchaseId)
      simp only [Option.map_some, ← total]

theorem explains_performAll (provider : Provider) (calls : List (Call Price)) :
    Explains (accepted provider Store.empty calls) (performAll provider calls) :=
  explains_run provider explains_empty Store.right_empty calls

/-- After any calls the services answer what the calls that succeeded say: every customer and
every product is as it was given, every purchase belongs to the customer it was created for, and
its total is the price of every product that was added to it, as often as it was added. -/
theorem answers_told_by_history (provider : Provider) (calls : List (Call Price)) :
    let store := performAll provider calls
    let history := accepted provider Store.empty calls
    (∀ id, getCustomerById store id = (customerIn history id).map fun row => (id, row)) ∧
      (∀ id, getProductById store id = (productIn history id).map fun row => (id, row)) ∧
      ∀ id, getPurchaseById store id = (buyerIn history id).map fun customerId =>
        (id, { customer := customerId, total := totalIn history id }) := by
  have explains := explains_performAll provider calls
  exact ⟨getCustomerById_of_explains explains, getProductById_of_explains explains,
    getPurchaseById_of_explains explains (right_performAll provider calls)⟩

end Runs

section ReadingBack

theorem transactional_result {Result : Type} {store : Store Price} {result given : Result}
    {body : Session Price → Except Failure (Result × Session Price)}
    (returns : ∀ session next result, body session = .ok (result, next) → result = given)
    (succeeded : (transactional store body).1 = .ok result) : result = given := by
  unfold transactional at succeeded
  cases done : body { store := store, pending := [], dirty := none } with
  | error failure =>
      rw [done] at succeeded
      cases succeeded
  | ok finished =>
      simp only [done] at succeeded
      cases flushed : finished.2.flush with
      | error failure =>
          rw [flushed] at succeeded
          cases succeeded
      | ok committed =>
          rw [flushed] at succeeded
          cases succeeded
          exact returns _ _ _ done

theorem returned_of_bind {session next : Session Price} {provider : Provider}
    {insert : Insert Price} {given result : Int}
    {read : Session Price → Except Failure (Int × Session Price)}
    (reads : ∀ session next result, read session = .ok (result, next) → result = given)
    (done : (session.persist provider insert >>= read) = .ok (result, next)) :
    result = given := by
  cases persisted : session.persist provider insert with
  | error failure =>
      rw [persisted] at done
      cases done
  | ok written =>
      rw [persisted] at done
      exact reads written next result done

variable [AddCommMonoid Price]

theorem accepted_append (provider : Provider) (store : Store Price)
    (calls later : List (Call Price)) :
    ∃ rest, accepted provider store (calls ++ later) = accepted provider store calls ++ rest := by
  induction calls generalizing store with
  | nil => exact ⟨accepted provider store later, rfl⟩
  | cons call rest ih =>
      obtain ⟨added, same⟩ := ih (perform provider store call).2
      refine ⟨added, ?_⟩
      simp only [List.cons_append, accepted, same]
      cases (perform provider store call).1 with
      | error failure => rfl
      | ok done => rfl

/-- What the history tells of an id, it tells after any further calls. -/
theorem told_for_good {Found : Type} {look : Call Price → Option Found} {found : Found}
    (provider : Provider) (calls : List (Call Price)) (call : Call Price)
    (told : (accepted provider Store.empty (calls ++ [call])).findSome? look = some found)
    (later : List (Call Price)) :
    (accepted provider Store.empty (calls ++ call :: later)).findSome? look = some found := by
  obtain ⟨rest, same⟩ := accepted_append provider Store.empty (calls ++ [call]) later
  rw [List.append_assoc, List.singleton_append] at same
  rw [same, List.findSome?_append, told, Option.some_or]

theorem performs_created {provider : Provider} {calls : List (Call Price)} {call : Call Price}
    (succeeded : (perform provider (performAll provider calls) call).1 = .ok ()) :
    Performs (performAll provider calls) call (performAll provider (calls ++ [call])) := by
  have snoc : performAll provider (calls ++ [call]) =
      (perform provider (performAll provider calls) call).2 := List.foldl_append
  rw [snoc]
  exact perform_ok (right_performAll provider calls) succeeded

theorem created_customer {provider : Provider} {calls : List (Call Price)}
    {id result : Int} {fn ln : Option String}
    (succeeded : (createCustomer provider id fn ln (performAll provider calls)).1 = .ok result)
    (later : List (Call Price)) :
    ∃ firstName lastName, fn = some firstName ∧ ln = some lastName ∧
      getCustomerById (performAll provider (calls ++ .createCustomer id fn ln :: later)) result =
        some (result, { firstName := firstName, lastName := lastName }) := by
  have same : result = id :=
    transactional_result (fun session next given done =>
      returned_of_bind (fun _ _ _ read => by cases read; rfl) done) succeeded
  subst same
  have performs : Performs _ (.createCustomer result fn ln) _ :=
    performs_created (congrArg (Except.map fun _ => ()) succeeded)
  have explains := explains_performAll provider (calls ++ [.createCustomer result fn ln])
  generalize performAll provider (calls ++ [.createCustomer result fn ln]) = after
    at performs explains
  cases performs with
  | createCustomer _ firstName lastName fresh =>
      have told := (explains.customers result).symm.trans (AList.lookup_insert _)
      refine ⟨firstName, lastName, rfl, rfl, ?_⟩
      rw [getCustomerById_of_explains (explains_performAll provider _)]
      exact congrArg _ (told_for_good provider calls _ told later)

theorem created_product {provider : Provider} {calls : List (Call Price)}
    {id result : Int} {title desc : Option String} {price : Price}
    (succeeded : (createProduct provider id title desc price
      (performAll provider calls)).1 = .ok result)
    (later : List (Call Price)) :
    ∃ name, title = some name ∧
      getProductById (performAll provider (calls ++ .createProduct id title desc price :: later))
          result =
        some (result, { description := desc, name := name, price := price }) := by
  have same : result = id := by
    refine transactional_result (fun session next given done => returned_of_bind ?_ done) succeeded
    intro written later read given
    cases refreshed : written.refresh id with
    | error failure =>
        rw [refreshed] at given
        cases given
    | ok kept =>
        rw [refreshed] at given
        cases given
        rfl
  subst same
  have performs : Performs _ (.createProduct result title desc price) _ :=
    performs_created (congrArg (Except.map fun _ => ()) succeeded)
  have explains := explains_performAll provider (calls ++ [.createProduct result title desc price])
  generalize performAll provider (calls ++ [.createProduct result title desc price]) = after
    at performs explains
  cases performs with
  | createProduct _ name _ _ fresh =>
      have told := (explains.products result).symm.trans (AList.lookup_insert _)
      refine ⟨name, rfl, ?_⟩
      rw [getProductById_of_explains (explains_performAll provider _)]
      exact congrArg _ (told_for_good provider calls _ told later)

theorem created_purchase {provider : Provider} {calls : List (Call Price)}
    {id customerId result : Int}
    (succeeded : (createPurchase provider id customerId (performAll provider calls)).1 =
      .ok result)
    (later : List (Call Price)) :
    getPurchaseById (performAll provider (calls ++ .createPurchase id customerId :: later))
        result =
      some (result,
        { customer := customerId
          total := totalIn
            (accepted provider Store.empty (calls ++ .createPurchase id customerId :: later))
            result }) := by
  have same : result = id :=
    transactional_result (fun session next given done =>
      returned_of_bind (fun _ _ _ read => by cases read; rfl) done) succeeded
  subst same
  have performs : Performs _ (.createPurchase result customerId) _ :=
    performs_created (congrArg (Except.map fun _ => ()) succeeded)
  have explains := explains_performAll provider (calls ++ [.createPurchase result customerId])
  generalize performAll provider (calls ++ [.createPurchase result customerId]) = after
    at performs explains
  cases performs with
  | createPurchase _ _ customerExists fresh =>
      have told := (explains.buyers result).symm.trans
        (congrArg (Option.map Purchase.customer) (AList.lookup_insert _))
      rw [getPurchaseById_of_explains (explains_performAll provider _)
        (right_performAll provider _)]
      exact congrArg _ (told_for_good provider calls _ told later)

/-- A create call returns the new id, and under it the services find what the call was given,
whatever calls were made before and are made after it. -/
theorem created_for_good (provider : Provider) (calls later : List (Call Price)) :
    let store := performAll provider calls
    let afterwards := fun call => performAll provider (calls ++ call :: later)
    (∀ id fn ln result, (createCustomer provider id fn ln store).1 = .ok result →
        ∃ firstName lastName, fn = some firstName ∧ ln = some lastName ∧
          getCustomerById (afterwards (.createCustomer id fn ln)) result =
            some (result, { firstName := firstName, lastName := lastName })) ∧
      (∀ id title desc price result,
        (createProduct provider id title desc price store).1 = .ok result →
          ∃ name, title = some name ∧
            getProductById (afterwards (.createProduct id title desc price)) result =
              some (result, { description := desc, name := name, price := price })) ∧
      ∀ id customerId result, (createPurchase provider id customerId store).1 = .ok result →
        ∃ total, getPurchaseById (afterwards (.createPurchase id customerId)) result =
          some (result, { customer := customerId, total := total }) := by
  refine ⟨?_, ?_, ?_⟩
  · intro id fn ln result succeeded
    exact created_customer succeeded later
  · intro id title desc price result succeeded
    exact created_product succeeded later
  · intro id customerId result succeeded
    exact ⟨_, created_purchase succeeded later⟩

end ReadingBack

/-- Each of the three methods succeeds; a purchase needs a customer that is there. -/
example :
    let provider : Provider := { rejectsNullAtPersist := true, insertsAtPersist := true }
    let store : Store Int :=
      performAll provider [.createCustomer 1 (some "A") (some "Customer")]
    (createCustomer provider 2 (some "B") (some "Customer") store).1 = .ok 2 ∧
      (createProduct provider 1 (some "Widget1") none 12 store).1 = .ok 1 ∧
      (createPurchase provider 1 1 store).1 = .ok 1 ∧
      (createPurchase provider 1 2 store).1 ≠ .ok 1 := by
  decide

end SpringExamples.Orders
