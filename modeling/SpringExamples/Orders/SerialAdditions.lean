/-
Overlapping additions, up to the total they may spoil.

A commit stores one line item and overwrites one total.  But for that total the tables are
those of the same additions made one after another in the order of their commits.  An
addition computes the total from all the line items it sees, so the next one that is not
interrupted leaves no difference at all.
-/

import SpringExamples.Orders.ConcurrentTotals

set_option autoImplicit false

namespace SpringExamples.Orders

open Runs

variable {Price : Type}

def Stage.purchase : Stage Price → Option (Purchase Price)
  | .purchaseRead purchase => some purchase
  | .productRead purchase _ => some purchase
  | .inserted purchase _ _ => some purchase
  | .loaded purchase _ _ _ => some purchase
  | .written purchase _ _ _ => some purchase
  | _ => none

def Stage.product : Stage Price → Option Int
  | .productRead _ productId => some productId
  | .inserted _ _ productId => some productId
  | .loaded _ _ productId _ => some productId
  | .written _ _ productId _ => some productId
  | _ => none

/-- The line item that a commit stores: its id and its product. -/
def Stage.addition : Stage Price → Statement → List (Int × Int)
  | .written _ id productId _, .commit => [(id, productId)]
  | _, _ => []

/-- All the statements of one addition. -/
def statementsOf (productId : Int) : List Statement :=
  [.readPurchase, .readProduct productId, .insertLineItem, .loadLineItems, .writeTotal, .commit]

def Statement.requested : Statement → Option Int
  | .readProduct productId => some productId
  | _ => none

def buyerOf (store : Store Price) (purchaseId : Int) : Option Int :=
  (store.purchases.lookup purchaseId).map Purchase.customer

/-- The same tables but for the total of one purchase. -/
structure SameButTotal (purchaseId : Int) (store other : Store Price) : Prop where
  customers : store.customers = other.customers
  products : store.products = other.products
  lineItems : store.lineItems = other.lineItems
  buyer : buyerOf store purchaseId = buyerOf other purchaseId
  otherPurchases : store.purchases.erase purchaseId = other.purchases.erase purchaseId

theorem sameButTotal_refl (purchaseId : Int) (store : Store Price) :
    SameButTotal purchaseId store store :=
  ⟨rfl, rfl, rfl, rfl, rfl⟩

theorem erase_insert {Row : Type} (table : Table Row) (id : Int) (row : Row) :
    (table.insert id row).erase id = table.erase id := by
  apply AList.ext
  exact List.kerase_cons_eq rfl

theorem insert_of_erase {Row : Type} {table other : Table Row} {id : Int} (row : Row)
    (same : table.erase id = other.erase id) : table.insert id row = other.insert id row := by
  apply AList.ext
  rw [AList.entries_insert, AList.entries_insert]
  exact congrArg (List.cons _) (congrArg AList.entries same)

theorem lookup_of_buyer {store : Store Price} {purchaseId customerId : Int}
    (buyer : buyerOf store purchaseId = some customerId) :
    ∃ purchase, store.purchases.lookup purchaseId = some purchase ∧
      purchase.customer = customerId :=
  Option.map_eq_some_iff.mp buyer

/-- What a transaction has in memory is right but for the total. -/
structure Remembers (purchaseId : Int) (store : Store Price) (stage : Stage Price) : Prop where
  buyer : ∀ purchase, stage.purchase = some purchase →
    buyerOf store purchaseId = some purchase.customer
  product : ∀ productId, stage.product = some productId → productId ∈ store.products

theorem remembers_congr {purchaseId : Int} {store other : Store Price} {stage : Stage Price}
    (remembers : Remembers purchaseId store stage)
    (buyer : buyerOf other purchaseId = buyerOf store purchaseId)
    (products : other.products = store.products) : Remembers purchaseId other stage := by
  constructor
  · intro purchase memorized
    rw [buyer]
    exact remembers.buyer purchase memorized
  · intro productId memorized
    rw [products]
    exact remembers.product productId memorized

theorem remembers_nothing {purchaseId : Int} {store : Store Price} {stage : Stage Price}
    (noPurchase : stage.purchase = none) (noProduct : stage.product = none) :
    Remembers purchaseId store stage := by
  constructor
  · intro purchase memorized
    rw [noPurchase] at memorized
    cases memorized
  · intro productId memorized
    rw [noProduct] at memorized
    cases memorized

section Additions

variable [AddCommMonoid Price] {purchaseId : Int}

/-- The additions to the purchase, made one after another. -/
def inTurn (provider : Provider) (purchaseId : Int) (store : Store Price)
    (added : List (Int × Int)) : Store Price :=
  added.foldl (fun store item => (addProductToPurchase provider item.1 purchaseId item.2 store).2)
    store

theorem inTurn_snoc (provider : Provider) (store : Store Price) (added : List (Int × Int))
    (id productId : Int) :
    inTurn provider purchaseId store (added ++ [(id, productId)]) =
      (addProductToPurchase provider id purchaseId productId
        (inTurn provider purchaseId store added)).2 := by
  unfold inTurn
  rw [List.foldl_append]
  rfl

theorem sumOfPrices_of_same {store other : Store Price} (same : SameButTotal purchaseId store other)
    (id : Int) : store.sumOfPrices id = other.sumOfPrices id := by
  unfold Store.sumOfPrices Store.lineItemsOf Store.priceOf
  rw [same.lineItems, same.products]

section Adding

variable (provider : Provider) {store other : Store Price} {id productId : Int}

theorem right_addProductToPurchase (right : Store.Right store)
    (bought : purchaseId ∈ store.purchases) (sold : productId ∈ store.products)
    (fresh : id ∉ store.lineItems) :
    Store.Right (addProductToPurchase provider id purchaseId productId store).2 := by
  obtain ⟨purchase, found⟩ := Store.lookup_of_mem bought
  rw [addProductToPurchase_ok provider right.productOfLineItem found sold fresh]
  exact right_performs right
    (.addProductToPurchase id purchaseId productId purchase found sold fresh)

/-- A commit with whatever total does to the tables what the addition does to tables that
are the same but for the total. -/
theorem sameButTotal_commit (right : Store.Right other)
    (same : SameButTotal purchaseId store other) {purchase : Purchase Price}
    (buyer : buyerOf store purchaseId = some purchase.customer)
    (sold : productId ∈ store.products) (fresh : id ∉ store.lineItems) :
    SameButTotal purchaseId
      { withLineItem store id purchaseId productId with
        purchases := store.purchases.insert purchaseId purchase }
      (addProductToPurchase provider id purchaseId productId other).2 := by
  rw [same.buyer] at buyer
  obtain ⟨bought, found, customer⟩ := lookup_of_buyer buyer
  rw [addProductToPurchase_ok provider right.productOfLineItem found (same.products ▸ sold)
    (same.lineItems ▸ fresh)]
  constructor
  · exact same.customers
  · exact same.products
  · change store.lineItems.insert id _ = other.lineItems.insert id _
    rw [same.lineItems]
  · change ((store.purchases.insert purchaseId purchase).lookup purchaseId).map _ =
      ((other.purchases.insert purchaseId _).lookup purchaseId).map _
    rw [AList.lookup_insert, AList.lookup_insert, Option.map_some, Option.map_some, customer]
  · change (store.purchases.insert purchaseId purchase).erase purchaseId =
      (other.purchases.insert purchaseId _).erase purchaseId
    rw [erase_insert, erase_insert]
    exact same.otherPurchases

/-- An addition does not read the total, and overwrites it. -/
theorem addProductToPurchase_of_same (right : Store.Right other)
    (same : SameButTotal purchaseId store other) (bought : purchaseId ∈ other.purchases)
    (sold : productId ∈ other.products) (fresh : id ∉ other.lineItems) :
    addProductToPurchase provider id purchaseId productId store =
      addProductToPurchase provider id purchaseId productId other := by
  obtain ⟨purchase, found⟩ := Store.lookup_of_mem bought
  have buyer : buyerOf store purchaseId = some purchase.customer := by
    rw [same.buyer, buyerOf, found]
    rfl
  obtain ⟨stale, foundStale, customer⟩ := lookup_of_buyer buyer
  have priced : ∀ other row, store.lineItems.lookup other = some row →
      row.product ∈ store.products := by
    rw [same.lineItems, same.products]
    exact right.productOfLineItem
  have sum := sumOfPrices_of_same same purchaseId
  have price : store.priceOf productId = other.priceOf productId := by
    unfold Store.priceOf
    rw [same.products]
  rw [addProductToPurchase_ok provider priced foundStale (same.products ▸ sold)
      (same.lineItems ▸ fresh),
    addProductToPurchase_ok provider right.productOfLineItem found sold fresh]
  have written : ({ stale with total := store.sumOfPrices purchaseId + store.priceOf productId } :
      Purchase Price) =
        { purchase with total := other.sumOfPrices purchaseId + other.priceOf productId } := by
    rw [sum, price, customer]
  rw [written, insert_of_erase _ same.otherPurchases, same.lineItems, same.customers,
    same.products]

end Adding

section Steps

variable {database next : Database Price} {stage stage' : Stage Price} {statement : Statement}

theorem kept_of_acts (acts : Acts purchaseId database stage statement next stage')
    (remembers : Remembers purchaseId database.store stage) :
    buyerOf next.store purchaseId = buyerOf database.store purchaseId ∧
      next.store.products = database.store.products := by
  cases acts with
  | commit purchase id productId lineItems =>
      refine ⟨?_, rfl⟩
      rw [remembers.buyer purchase rfl, buyerOf, AList.lookup_insert]
      rfl
  | _ => exact ⟨rfl, rfl⟩

theorem remembers_of_act (remembers : Remembers purchaseId database.store stage)
    (acted : act purchaseId database stage statement = some (next, stage')) :
    Remembers purchaseId next.store stage' := by
  unfold act at acted
  split at acted
  · obtain ⟨purchase, found, same⟩ := Option.map_eq_some_iff.mp acted
    cases same
    refine ⟨fun read memorized => ?_, fun productId memorized => by cases memorized⟩
    cases memorized
    rw [buyerOf, found]
    rfl
  · split at acted
    · rename_i sold
      cases acted
      refine ⟨remembers.buyer, fun productId memorized => ?_⟩
      cases memorized
      exact sold
    · cases acted
  · cases acted
    exact ⟨remembers.buyer, remembers.product⟩
  · cases acted
    exact ⟨remembers.buyer, remembers.product⟩
  · split at acted
    · cases acted
    · cases acted
      refine ⟨fun updated memorized => ?_, remembers.product⟩
      have customer := congrArg (Option.map Purchase.customer) memorized
      exact (remembers.buyer _ rfl).trans customer
  · cases acted
    exact remembers_nothing rfl rfl
  · cases acted

theorem stored_of_acts (acts : Acts purchaseId database stage statement next stage') :
    next.store = database.store ∧ stage.addition statement = [] ∨
      ∃ purchase id productId lineItems, stage = .written purchase id productId lineItems ∧
        stage.addition statement = [(id, productId)] ∧
          next.store = { withLineItem database.store id purchaseId productId with
            purchases := database.store.purchases.insert purchaseId purchase } := by
  cases acts with
  | commit purchase id productId lineItems =>
      exact Or.inr ⟨purchase, id, productId, lineItems, rfl, rfl, rfl⟩
  | _ => exact Or.inl ⟨rfl, rfl⟩

end Steps

/-- The line items that the commits of a run store, in the order of the commits. -/
def additions {Index : Type} [DecidableEq Index] (purchaseId : Int)
    (transactions : Transactions Index Price) (labels : List (Index × Statement)) :
    List (Int × Int) :=
  Pool.noted (act purchaseId) Stage.addition transactions labels

def requests {Index : Type} (labels : List (Index × Statement)) : List Int :=
  labels.filterMap fun label => label.2.requested

section Invariant

variable {Index : Type} [Fintype Index]

/-- The products that are added and those that are requested, beside the transactions. -/
def withRequests (transactions : Transactions Index Price) (added requested : List Int) :
    Pool Index (List Int × List Int) (Stage Price) :=
  { shared := (added, requested)
    locals := transactions.locals }

def Stage.outstanding (stage : Stage Price) : Multiset Int := stage.product.toList

structure Serial (provider : Provider) (purchaseId : Int) (initial : Store Price)
    (labels : List (Index × Statement)) (transactions : Transactions Index Price)
    (added : List (Int × Int)) : Prop where
  sound : Sound purchaseId transactions
  right : Store.Right (inTurn provider purchaseId initial added)
  same : SameButTotal purchaseId transactions.shared.store
    (inTurn provider purchaseId initial added)
  remembers : ∀ index, Remembers purchaseId transactions.shared.store (transactions.locals index)
  rows : transactions.shared.store.lineItems.entries =
    (added.reverse.map fun item => ⟨item.1, { purchase := purchaseId, product := item.2 }⟩) ++
      initial.lineItems.entries
  requested : Pool.Balanced (fun kept => (kept.1 : Multiset Int))
    (fun kept => (kept.2 : Multiset Int)) Stage.outstanding
      (withRequests transactions (added.map Prod.snd) (requests labels))

theorem serial_start (provider : Provider) {store : Store Price} {generated : Int}
    (right : Store.Right store) (fresh : ∀ id ∈ store.lineItems, id < generated) :
    Serial provider purchaseId store [] (start store generated : Transactions Index Price) [] where
  sound := sound_start fresh
  right := right
  same := sameButTotal_refl purchaseId store
  remembers := fun _ => remembers_nothing rfl rfl
  rows := rfl
  requested := by simp [Pool.Balanced, withRequests, requests, start, Stage.outstanding,
    Stage.product]

/-- The step books the product it requests and the one it adds. -/
theorem booked_of_acts {database next : Database Price} {stage stage' : Stage Price}
    {statement : Statement} (acts : Acts purchaseId database stage statement next stage')
    (added requested : List Int) :
    ((added ++ (stage.addition statement).map Prod.snd : List Int) : Multiset Int) +
        stage'.outstanding + (requested : Multiset Int) =
      (added : Multiset Int) + stage.outstanding +
        ((requested ++ statement.requested.toList : List Int) : Multiset Int) := by
  cases acts with
  | _ => simp [Stage.addition, Stage.outstanding, Stage.product, Statement.requested,
      ← Multiset.coe_add, add_comm, add_left_comm]

variable [DecidableEq Index]

omit [Fintype Index] in
theorem remembers_step {transactions next : Transactions Index Price} {label : Index × Statement}
    (remembers : ∀ index,
      Remembers purchaseId transactions.shared.store (transactions.locals index))
    (moved : transactionStep purchaseId transactions label = some next) :
    ∀ index, Remembers purchaseId next.shared.store (next.locals index) := by
  refine (Pool.step_invariant (act purchaseId) (fun _ => True)
    (fun database stage => Remembers purchaseId database.store stage) ⟨trivial, remembers⟩ moved
    (fun database stage acted => ⟨trivial, remembers_of_act (remembers label.1) acted⟩) ?_).2
  intro database stage other acted standing
  obtain ⟨buyer, products⟩ := kept_of_acts (act_acts purchaseId acted) (remembers label.1)
  exact remembers_congr standing buyer products

theorem serial_step {provider : Provider} {initial : Store Price}
    {labels : List (Index × Statement)} {transactions next : Transactions Index Price}
    {added : List (Int × Int)} {label : Index × Statement}
    (serial : Serial provider purchaseId initial labels transactions added)
    (moved : transactionStep purchaseId transactions label = some next) :
    Serial provider purchaseId initial (labels ++ [label]) next
      (added ++ (transactions.locals label.1).addition label.2) := by
  have sound := sound_step serial.sound moved
  have remembers := remembers_step serial.remembers moved
  obtain ⟨mover, statement⟩ := label
  obtain ⟨database, stage, acted, same⟩ := Pool.step_some (act purchaseId) moved
  subst same
  have acts := act_acts purchaseId acted
  have requested : Pool.Balanced (fun kept => (kept.1 : Multiset Int))
      (fun kept => (kept.2 : Multiset Int)) Stage.outstanding
        { shared := ((added ++ (transactions.locals mover).addition statement).map Prod.snd,
            requests (labels ++ [(mover, statement)]))
          locals := Function.update transactions.locals mover stage } := by
    refine (Pool.balanced_step_iff _ _ _ mover (_, _) stage serial.requested).mpr ?_
    have booked := booked_of_acts acts (added.map Prod.snd) (requests labels)
    rw [List.map_append, requests, List.filterMap_append]
    exact booked
  rcases stored_of_acts acts with ⟨unchanged, nothing⟩ |
      ⟨purchase, id, productId, lineItems, here, one, stored⟩
  · rw [nothing, List.append_nil] at requested ⊢
    refine ⟨sound, serial.right, ?_, remembers, ?_, requested⟩
    · exact unchanged ▸ serial.same
    · exact (congrArg (fun store : Store Price => store.lineItems.entries) unchanged).trans
        serial.rows
  · have buyer : buyerOf transactions.shared.store purchaseId = some purchase.customer :=
      (serial.remembers mover).buyer purchase (here ▸ rfl)
    have sold : productId ∈ transactions.shared.store.products :=
      (serial.remembers mover).product productId (here ▸ rfl)
    have fresh : id ∉ transactions.shared.store.lineItems :=
      (serial.sound.own mover id (here ▸ rfl)).2
    obtain ⟨bought, found, _⟩ := lookup_of_buyer (serial.same.buyer.symm.trans buyer)
    rw [one] at requested ⊢
    refine ⟨sound, ?_, ?_, remembers, ?_, requested⟩
    · rw [inTurn_snoc]
      exact right_addProductToPurchase provider serial.right (Store.mem_of_lookup found)
        (serial.same.products ▸ sold) (serial.same.lineItems ▸ fresh)
    · rw [inTurn_snoc]
      exact stored ▸ sameButTotal_commit provider serial.right serial.same buyer sold fresh
    · have entries : database.store.lineItems.entries =
          ⟨id, { purchase := purchaseId, product := productId }⟩ ::
            transactions.shared.store.lineItems.entries := by
        rw [stored]
        exact AList.entries_insert_of_notMem fresh
      refine entries.trans ?_
      rw [serial.rows, List.reverse_append]
      rfl

theorem serial_run {provider : Provider} {store : Store Price} {generated : Int}
    (right : Store.Right store) (fresh : ∀ id ∈ store.lineItems, id < generated)
    {labels : List (Index × Statement)} {last : Transactions Index Price}
    (ran : run (transactionStep purchaseId) (start store generated) labels = some last) :
    Serial provider purchaseId store labels last
      (additions purchaseId (start store generated) labels) :=
  Pool.noted_invariant Stage.addition (Serial provider purchaseId store)
    (fun _ _ _ _ _ serial moved => serial_step serial moved) [] (serial_start provider right fresh)
    ran

omit [DecidableEq Index] in
theorem perm_of_committed {provider : Provider} {initial : Store Price}
    {labels : List (Index × Statement)} {transactions : Transactions Index Price}
    {added : List (Int × Int)}
    (serial : Serial provider purchaseId initial labels transactions added)
    (complete : ∀ index, transactions.locals index = .committed) :
    (added.map Prod.snd).Perm (requests labels) :=
  Multiset.coe_eq_coe.mp (Pool.held_of_balanced serial.requested fun index =>
    congrArg Stage.outstanding (complete index))

theorem next_addition {provider : Provider} {initial : Store Price}
    {labels : List (Index × Statement)} {transactions : Transactions Index Price}
    {added : List (Int × Int)} {index : Index} {productId : Int}
    (serial : Serial provider purchaseId initial labels transactions added)
    (begins : transactions.locals index = .begun)
    (bought : purchaseId ∈ transactions.shared.store.purchases)
    (sold : productId ∈ transactions.shared.store.products) :
    ∃ settled, run (transactionStep purchaseId) transactions
        ((statementsOf productId).map fun statement => (index, statement)) = some settled ∧
      settled.shared.store = inTurn provider purchaseId initial
        (added ++ [(transactions.shared.generated, productId)]) ∧
      Store.Right settled.shared.store := by
  have fresh : transactions.shared.generated ∉ transactions.shared.store.lineItems :=
    fun present => lt_irrefl _ (serial.sound.rows _ present)
  have priced : ∀ other row, transactions.shared.store.lineItems.lookup other = some row →
      row.product ∈ transactions.shared.store.products := by
    rw [serial.same.lineItems, serial.same.products]
    exact serial.right.productOfLineItem
  obtain ⟨purchase, found⟩ := Store.lookup_of_mem bought
  have buyer : buyerOf transactions.shared.store purchaseId = some purchase.customer := by
    rw [buyerOf, found]
    rfl
  obtain ⟨_, foundSerial, _⟩ := lookup_of_buyer (serial.same.buyer.symm.trans buyer)
  have boughtSerial := Store.mem_of_lookup foundSerial
  have soldSerial := serial.same.products ▸ sold
  have freshSerial := serial.same.lineItems ▸ fresh
  have agreed := addProductToPurchase_of_same provider serial.right serial.same boughtSerial
    soldSerial freshSerial
  refine ⟨_, uninterrupted_addProductToPurchase purchaseId provider priced found sold fresh begins,
    ?_, ?_⟩
  · rw [inTurn_snoc, ← agreed]
  · rw [agreed]
    exact right_addProductToPurchase provider serial.right boughtSerial soldSerial freshSerial

/-- However the additions interleave, the tables are, but for the total, those of the additions
that have committed, made one after another in the order of their commits; the line items are
those that were committed, each once; and the next addition that is not interrupted leaves
the tables of the additions in turn, with every total right. -/
theorem additions_in_turn (provider : Provider) (store : Store Price) (generated : Int)
    (right : Store.Right store) (fresh : ∀ id ∈ store.lineItems, id < generated)
    (labels : List (Index × Statement)) (last : Transactions Index Price)
    (ran : run (transactionStep purchaseId) (start store generated) labels = some last) :
    let added := additions purchaseId (start store generated : Transactions Index Price) labels
    SameButTotal purchaseId last.shared.store (inTurn provider purchaseId store added) ∧
      last.shared.store.lineItems.entries =
        (added.reverse.map fun item => ⟨item.1, { purchase := purchaseId, product := item.2 }⟩) ++
          store.lineItems.entries ∧
      ((∀ index, last.locals index = .committed) →
        (added.map Prod.snd).Perm (requests labels)) ∧
      ∀ index productId, last.locals index = .begun →
        purchaseId ∈ last.shared.store.purchases → productId ∈ last.shared.store.products →
          ∃ settled, run (transactionStep purchaseId) last
              ((statementsOf productId).map fun statement => (index, statement)) = some settled ∧
            settled.shared.store = inTurn provider purchaseId store
              (added ++ [(last.shared.generated, productId)]) ∧
            Store.Right settled.shared.store := by
  have serial : Serial provider purchaseId store labels last _ := serial_run right fresh ran
  exact ⟨serial.same, serial.rows, perm_of_committed serial, fun index productId =>
    next_addition serial⟩

end Invariant

end Additions

/-- The second commit overwrites the total with the price of the second line item alone.  A third
addition that is not interrupted makes it right again. -/
theorem third_addition_repairs :
    ∃ last settled : Transactions (Fin 3) Int,
      run (transactionStep 1) (start twoWidgets 1)
          [(0, .readPurchase), (0, .readProduct 1), (1, .readPurchase), (1, .readProduct 2),
            (0, .insertLineItem), (1, .insertLineItem), (0, .loadLineItems), (1, .loadLineItems),
            (0, .writeTotal), (0, .commit), (1, .writeTotal), (1, .commit)] = some last ∧
        last.shared.store.purchases.lookup 1 = some { customer := 1, total := 7 } ∧
        run (transactionStep 1) last ((statementsOf 1).map fun statement => (2, statement)) =
          some settled ∧
        Store.Right settled.shared.store := by
  obtain ⟨last, ran, begins, stored, bought, sold⟩ := exists_run_of_any (transactionStep 1)
    (start twoWidgets 1 : Transactions (Fin 3) Int)
    [(0, .readPurchase), (0, .readProduct 1), (1, .readPurchase), (1, .readProduct 2),
      (0, .insertLineItem), (1, .insertLineItem), (0, .loadLineItems), (1, .loadLineItems),
      (0, .writeTotal), (0, .commit), (1, .writeTotal), (1, .commit)]
    (fun last => last.locals 2 = .begun ∧
      last.shared.store.purchases.lookup 1 = some { customer := 1, total := 7 } ∧
      1 ∈ last.shared.store.purchases ∧ 1 ∈ last.shared.store.products) (by decide)
  obtain ⟨_, _, _, repairs⟩ := additions_in_turn
    { rejectsNullAtPersist := true, insertsAtPersist := true } twoWidgets 1
    (right_performAll _ _) (fun id present => by cases present) _ last ran
  obtain ⟨settled, resumed, _, right⟩ := repairs 2 1 begins bought sold
  exact ⟨last, settled, ran, stored, resumed, right⟩

end SpringExamples.Orders
