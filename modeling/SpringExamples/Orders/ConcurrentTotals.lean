/-
Overlapping transactions that add products to one purchase.

Each transaction is cut at its database steps.  A statement sees the rows that were
committed before it and the transaction's own; a commit publishes the new line item and
the total.  No row is locked and no version is checked.  The generator of ids is not part
of a transaction.  A transaction overwrites the total with the sum of the line items it
loaded, so what matters is what has been committed after its load.
-/

import SpringExamples.Foundation.Pool
import SpringExamples.Orders.Totals

set_option autoImplicit false

namespace SpringExamples.Orders

open Runs

structure Database (Price : Type) where
  store : Store Price
  generated : Int
  deriving DecidableEq

/-- How far a transaction has come, and what it has in memory. -/
inductive Stage (Price : Type) where
  | begun
  | purchaseRead (purchase : Purchase Price)
  | productRead (purchase : Purchase Price) (productId : Int)
  | inserted (purchase : Purchase Price) (id productId : Int)
  | loaded (purchase : Purchase Price) (id productId : Int) (lineItems : List ManagedLineItem)
  | written (purchase : Purchase Price) (id productId : Int) (lineItems : List ManagedLineItem)
  | committed
  deriving DecidableEq

inductive Statement where
  | readPurchase
  | readProduct (productId : Int)
  | insertLineItem
  | loadLineItems
  | writeTotal
  | commit
  deriving DecidableEq

variable {Price : Type}

/-- The tables as a transaction with one uncommitted line item sees them. -/
def withLineItem (store : Store Price) (id purchaseId productId : Int) : Store Price :=
  { store with
    lineItems := store.lineItems.insert id { purchase := purchaseId, product := productId } }

def Stage.own : Stage Price → Option Int
  | .inserted _ id _ => some id
  | .loaded _ id _ _ => some id
  | .written _ id _ _ => some id
  | _ => none

/-- The line items in memory are the new one and those that were committed at the load;
any that were committed since stand before them in the table. -/
def Loaded (purchaseId : Int) (store : Store Price) (id productId : Int)
    (lineItems : List ManagedLineItem) : Prop :=
  ∃ newer seen, store.lineItemsOf purchaseId = newer ++ seen ∧
    lineItems.Perm
      (managed ⟨id, { purchase := purchaseId, product := productId }⟩ :: seen.map managed)

/-- The committed line items of the purchase that a transaction has not loaded. -/
def missedBy (purchaseId : Int) (store : Store Price) :
    Stage Price → List (Sigma fun _ : Int => LineItem)
  | .written _ _ _ lineItems =>
      (store.lineItemsOf purchaseId).filter fun row => row.1 ∉ lineItems.map ManagedLineItem.id
  | _ => []

theorem missed_eq {store : Store Price} {purchaseId id productId : Int}
    {lineItems : List ManagedLineItem}
    {newer seen : List (Sigma fun _ : Int => LineItem)} (fresh : id ∉ store.lineItems)
    (rows : store.lineItemsOf purchaseId = newer ++ seen)
    (loaded : lineItems.Perm
      (managed ⟨id, { purchase := purchaseId, product := productId }⟩ :: seen.map managed)) :
    ((store.lineItemsOf purchaseId).filter fun row =>
      row.1 ∉ lineItems.map ManagedLineItem.id) = newer := by
  have ids : ∀ other, other ∈ lineItems.map ManagedLineItem.id ↔
      other = id ∨ other ∈ seen.map Sigma.fst := by
    intro other
    rw [(loaded.map ManagedLineItem.id).mem_iff, List.map_cons, List.mem_cons, List.map_map]
    rfl
  have nodup := Store.lineItemsOf_keys_nodup store purchaseId
  rw [rows, List.map_append, List.nodup_append] at nodup
  have among : ∀ row ∈ newer ++ seen, row.1 ≠ id := by
    intro row member same
    rw [← rows] at member
    exact fresh (same ▸ Store.mem_of_lookup (Store.mem_lineItemsOf.mp member).1)
  rw [rows, List.filter_append]
  have kept : (newer.filter fun row => row.1 ∉ lineItems.map ManagedLineItem.id) = newer := by
    rw [List.filter_eq_self]
    intro row member
    rw [decide_eq_true_iff, ids]
    intro given
    rcases given with own | before
    · exact among row (List.mem_append_left seen member) own
    · exact nodup.2.2 row.1 (List.mem_map_of_mem member) row.1 before rfl
  have dropped : (seen.filter fun row => row.1 ∉ lineItems.map ManagedLineItem.id) = [] := by
    rw [List.filter_eq_nil_iff]
    intro row member holds
    rw [decide_eq_true_iff, ids] at holds
    exact holds (Or.inr (List.mem_map_of_mem member))
  rw [kept, dropped, List.append_nil]

section Transactions

variable [AddCommMonoid Price] (purchaseId : Int)

def act (database : Database Price) : Stage Price → Statement →
    Option (Database Price × Stage Price)
  | .begun, .readPurchase =>
      (database.store.purchases.lookup purchaseId).map fun purchase =>
        (database, .purchaseRead purchase)
  | .purchaseRead purchase, .readProduct productId =>
      if productId ∈ database.store.products then some (database, .productRead purchase productId)
      else none
  | .productRead purchase productId, .insertLineItem =>
      some ({ database with generated := database.generated + 1 },
        .inserted purchase database.generated productId)
  | .inserted purchase id productId, .loadLineItems =>
      let seen := getLineItems (withLineItem database.store id purchaseId productId) purchaseId
      some (database, .loaded purchase id productId
        (addLineItem seen (managed ⟨id, { purchase := purchaseId, product := productId }⟩)))
  | .loaded purchase id productId lineItems, .writeTotal =>
      match recalculate database.store 0 lineItems with
      | .error _ => none
      | .ok total =>
          some (database, .written { purchase with total := total } id productId lineItems)
  | .written purchase id productId _, .commit =>
      let published := withLineItem database.store id purchaseId productId
      some ({ database with store :=
          { published with purchases := published.purchases.insert purchaseId purchase } },
        .committed)
  | _, _ => none

/-- Everything a step of a transaction can do. -/
inductive Acts (database : Database Price) :
    Stage Price → Statement → Database Price → Stage Price → Prop where
  | readPurchase (purchase : Purchase Price) :
      Acts database .begun .readPurchase database (.purchaseRead purchase)
  | readProduct (purchase : Purchase Price) (productId : Int) :
      Acts database (.purchaseRead purchase) (.readProduct productId) database
        (.productRead purchase productId)
  | insertLineItem (purchase : Purchase Price) (productId : Int) :
      Acts database (.productRead purchase productId) .insertLineItem
        { database with generated := database.generated + 1 }
        (.inserted purchase database.generated productId)
  | loadLineItems (purchase : Purchase Price) (id productId : Int) :
      Acts database (.inserted purchase id productId) .loadLineItems database
        (.loaded purchase id productId (addLineItem
          (getLineItems (withLineItem database.store id purchaseId productId) purchaseId)
          (managed ⟨id, { purchase := purchaseId, product := productId }⟩)))
  | writeTotal (purchase : Purchase Price) (id productId : Int)
      (lineItems : List ManagedLineItem) (total : Price)
      (computed : recalculate database.store 0 lineItems = .ok total) :
      Acts database (.loaded purchase id productId lineItems) .writeTotal database
        (.written { purchase with total := total } id productId lineItems)
  | commit (purchase : Purchase Price) (id productId : Int) (lineItems : List ManagedLineItem) :
      Acts database (.written purchase id productId lineItems) .commit
        { database with store :=
          { withLineItem database.store id purchaseId productId with
            purchases := database.store.purchases.insert purchaseId purchase } }
        .committed

theorem act_acts {database next : Database Price} {stage stage' : Stage Price}
    {statement : Statement}
    (acted : act purchaseId database stage statement = some (next, stage')) :
    Acts purchaseId database stage statement next stage' := by
  unfold act at acted
  split at acted
  · obtain ⟨purchase, _, same⟩ := Option.map_eq_some_iff.mp acted
    cases same
    exact .readPurchase purchase
  · split at acted
    · cases acted
      exact .readProduct _ _
    · cases acted
  · cases acted
    exact .insertLineItem _ _
  · cases acted
    exact .loadLineItems _ _ _
  · split at acted
    · cases acted
    · cases acted
      exact .writeTotal _ _ _ _ _ ‹_›
  · cases acted
    exact .commit _ _ _ _
  · cases acted

theorem solo_addProductToPurchase (provider : Provider) {store : Store Price}
    (priced : ∀ other row, store.lineItems.lookup other = some row →
      row.product ∈ store.products)
    {generated productId : Int} {purchase : Purchase Price}
    (found : store.purchases.lookup purchaseId = some purchase)
    (present : productId ∈ store.products) (fresh : generated ∉ store.lineItems) :
    run (Pool.solo (act purchaseId)) ({ store := store, generated := generated }, .begun)
        [.readPurchase, .readProduct productId, .insertLineItem, .loadLineItems, .writeTotal,
          .commit] =
      some
        ({ store := (addProductToPurchase provider generated purchaseId productId store).2
           generated := generated + 1 }, .committed) := by
  have computed : recalculate store 0 (addLineItem
      (getLineItems (withLineItem store generated purchaseId productId) purchaseId)
      (managed ⟨generated, { purchase := purchaseId, product := productId }⟩)) =
        .ok (store.sumOfPrices purchaseId + store.priceOf productId) :=
    recalculate_addLineItem priced { purchase := purchaseId, product := productId } fresh present
      rfl (Or.inr rfl)
  rw [addProductToPurchase_ok provider priced found present fresh]
  simp only [run_cons, Pool.solo, act, found, Option.map_some, Option.bind_some, if_pos present,
    computed, run_nil]
  rfl

def Knows (store : Store Price) : Stage Price → Prop
  | .loaded _ id productId lineItems => Loaded purchaseId store id productId lineItems
  | .written purchase id productId lineItems =>
      Loaded purchaseId store id productId lineItems ∧
        purchase.total = (lineItems.map (priceOfItem store)).sum
  | _ => True

def TotalRight (store : Store Price) : Prop :=
  ∀ purchase, store.purchases.lookup purchaseId = some purchase →
    purchase.total = store.sumOfPrices purchaseId

theorem knows_withLineItem {store : Store Price} {id productId : Int}
    (purchases : Table (Purchase Price)) (fresh : id ∉ store.lineItems)
    {stage : Stage Price} (knows : Knows purchaseId store stage) :
    Knows purchaseId { withLineItem store id purchaseId productId with purchases := purchases }
      stage := by
  have rows : ({ withLineItem store id purchaseId productId with purchases := purchases } :
      Store Price).lineItemsOf purchaseId =
        ⟨id, { purchase := purchaseId, product := productId }⟩ :: store.lineItemsOf purchaseId := by
    have inserted := Store.lineItemsOf_insert store
      { purchase := purchaseId, product := productId } fresh purchaseId
    rw [if_pos rfl] at inserted
    exact inserted
  have loaded : ∀ {own product : Int} {lineItems : List ManagedLineItem},
      Loaded purchaseId store own product lineItems →
      Loaded purchaseId { withLineItem store id purchaseId productId with purchases := purchases }
        own product lineItems := by
    intro own product lineItems given
    obtain ⟨newer, seen, split, permuted⟩ := given
    refine ⟨⟨id, { purchase := purchaseId, product := productId }⟩ :: newer, seen, ?_, permuted⟩
    rw [rows, split, List.cons_append]
  cases stage with
  | loaded purchase own product lineItems => exact loaded knows
  | written purchase own product lineItems => exact ⟨loaded knows.1, knows.2⟩
  | begun => trivial
  | purchaseRead purchase => trivial
  | productRead purchase product => trivial
  | inserted purchase own product => trivial
  | committed => trivial

end Transactions

section Interleaving

variable {Index : Type} [DecidableEq Index] [AddCommMonoid Price] (purchaseId : Int)

abbrev Transactions (Index Price : Type) := Pool Index (Database Price) (Stage Price)

def start (store : Store Price) (generated : Int) : Transactions Index Price :=
  { shared := { store := store, generated := generated }
    locals := fun _ => .begun }

def transactionStep : Transactions Index Price → Index × Statement →
    Option (Transactions Index Price) :=
  Pool.step (act purchaseId)

/-- A transaction that is never interrupted does what `addProductToPurchase` does. -/
theorem uninterrupted_addProductToPurchase (provider : Provider)
    {transactions : Transactions Index Price} {index : Index}
    (priced : ∀ other row, transactions.shared.store.lineItems.lookup other = some row →
      row.product ∈ transactions.shared.store.products)
    {productId : Int} {purchase : Purchase Price}
    (found : transactions.shared.store.purchases.lookup purchaseId = some purchase)
    (present : productId ∈ transactions.shared.store.products)
    (fresh : transactions.shared.generated ∉ transactions.shared.store.lineItems)
    (begins : transactions.locals index = .begun) :
    run (transactionStep purchaseId) transactions
        ([.readPurchase, .readProduct productId, .insertLineItem, .loadLineItems, .writeTotal,
          .commit].map fun statement => (index, statement)) =
      some
        { shared :=
            { store := (addProductToPurchase provider transactions.shared.generated purchaseId
                productId transactions.shared.store).2
              generated := transactions.shared.generated + 1 }
          locals := Function.update transactions.locals index .committed } := by
  have ran := solo_addProductToPurchase purchaseId provider priced found present fresh
  rw [← begins] at ran
  exact Pool.run_solo (act purchaseId) ran

structure Sound (transactions : Transactions Index Price) : Prop where
  rows : ∀ id ∈ transactions.shared.store.lineItems, id < transactions.shared.generated
  own : ∀ index id, (transactions.locals index).own = some id →
    id < transactions.shared.generated ∧ id ∉ transactions.shared.store.lineItems
  distinct : ∀ index other id, (transactions.locals index).own = some id →
    (transactions.locals other).own = some id → index = other
  knows : ∀ index, Knows purchaseId transactions.shared.store (transactions.locals index)

variable {purchaseId}

/-- One transaction moves: it is enough to know what becomes of its own item and of the
items of the others. -/
theorem sound_update {transactions : Transactions Index Price}
    (sound : Sound purchaseId transactions) (index : Index) {database : Database Price}
    {stage : Stage Price}
    (rows : ∀ id ∈ database.store.lineItems, id < database.generated)
    (mine : ∀ id, stage.own = some id → id < database.generated ∧
      id ∉ database.store.lineItems ∧
      ∀ other, other ≠ index → (transactions.locals other).own ≠ some id)
    (others : ∀ other, other ≠ index → ∀ id, (transactions.locals other).own = some id →
      id < database.generated ∧ id ∉ database.store.lineItems)
    (knows : Knows purchaseId database.store stage)
    (known : ∀ other, other ≠ index →
      Knows purchaseId database.store (transactions.locals other)) :
    Sound purchaseId
      { shared := database, locals := Function.update transactions.locals index stage } := by
  refine ⟨rows, ?_, ?_, ?_⟩
  · intro other id owned
    change (Function.update transactions.locals index stage other).own = some id at owned
    by_cases mover : other = index
    · subst mover
      rw [Function.update_self] at owned
      exact ⟨(mine id owned).1, (mine id owned).2.1⟩
    · rw [Function.update_of_ne mover] at owned
      exact others other mover id owned
  · intro first second id ownedFirst ownedSecond
    change (Function.update transactions.locals index stage first).own = some id at ownedFirst
    change (Function.update transactions.locals index stage second).own = some id at ownedSecond
    by_cases moverFirst : first = index
    · by_cases moverSecond : second = index
      · rw [moverFirst, moverSecond]
      · rw [moverFirst, Function.update_self] at ownedFirst
        rw [Function.update_of_ne moverSecond] at ownedSecond
        exact absurd ownedSecond ((mine id ownedFirst).2.2 second moverSecond)
    · rw [Function.update_of_ne moverFirst] at ownedFirst
      by_cases moverSecond : second = index
      · rw [moverSecond, Function.update_self] at ownedSecond
        exact absurd ownedFirst ((mine id ownedSecond).2.2 first moverFirst)
      · rw [Function.update_of_ne moverSecond] at ownedSecond
        exact sound.distinct first second id ownedFirst ownedSecond
  · intro other
    change Knows purchaseId database.store (Function.update transactions.locals index stage other)
    by_cases mover : other = index
    · subst mover
      rw [Function.update_self]
      exact knows
    · rw [Function.update_of_ne mover]
      exact known other mover

theorem sound_quiet {transactions : Transactions Index Price}
    (sound : Sound purchaseId transactions) (index : Index) (stage : Stage Price)
    (same : ∀ id, stage.own = some id → (transactions.locals index).own = some id)
    (knows : Knows purchaseId transactions.shared.store stage) :
    Sound purchaseId
      { shared := transactions.shared
        locals := Function.update transactions.locals index stage } := by
  refine sound_update sound index sound.rows ?_ (fun other _ => sound.own other) knows
    (fun other _ => sound.knows other)
  intro id owned
  have before := same id owned
  refine ⟨(sound.own index id before).1, (sound.own index id before).2, ?_⟩
  intro other different holds
  exact different (sound.distinct other index id holds before)

theorem sound_step {transactions next : Transactions Index Price} {label : Index × Statement}
    (sound : Sound purchaseId transactions)
    (moved : transactionStep purchaseId transactions label = some next) :
    Sound purchaseId next := by
  obtain ⟨database, stage, acted, same⟩ := Pool.step_some (act purchaseId) moved
  subst same
  have acts := act_acts purchaseId acted
  have knows := sound.knows label.1
  have own := sound.own label.1
  have distinct := sound.distinct label.1
  generalize label.2 = statement at acts
  generalize here : transactions.locals label.1 = before at acts knows own distinct
  cases acts with
  | readPurchase purchase =>
      exact sound_quiet sound label.1 _ (fun id owned => by cases owned) trivial
  | readProduct purchase productId =>
      exact sound_quiet sound label.1 _ (fun id owned => by cases owned) trivial
  | insertLineItem purchase productId =>
      refine sound_update sound label.1 ?_ ?_ ?_ trivial (fun other _ => sound.knows other)
      · intro id present
        have older := sound.rows id present
        change id < transactions.shared.generated + 1
        omega
      · intro id owned
        cases owned
        refine ⟨Int.lt_add_one_iff.mpr le_rfl, ?_, ?_⟩
        · intro present
          exact lt_irrefl _ (sound.rows _ present)
        · intro other _ holds
          exact lt_irrefl _ (sound.own other _ holds).1
      · intro other _ id holds
        have older := (sound.own other id holds).1
        refine ⟨?_, (sound.own other id holds).2⟩
        change id < transactions.shared.generated + 1
        omega
  | loadLineItems purchase id productId =>
      refine sound_quiet sound label.1 _ (fun other owned => here ▸ owned) ?_
      exact ⟨[], _, rfl, addLineItem_perm (own id rfl).2 (Or.inr rfl)⟩
  | writeTotal purchase id productId lineItems total computed =>
      refine sound_quiet sound label.1 _ (fun other owned => here ▸ owned) ⟨knows, ?_⟩
      rw [← zero_add (List.sum _)]
      exact recalculate_eq computed
  | commit purchase id productId lineItems =>
      have mine := own id rfl
      refine sound_update sound label.1 ?_ (fun other owned => by cases owned) ?_ trivial ?_
      · intro other present
        rcases (AList.mem_insert _).mp present with new | old
        · exact new ▸ mine.1
        · exact sound.rows other old
      · intro other different item holds
        refine ⟨(sound.own other item holds).1, fun present => ?_⟩
        rcases (AList.mem_insert _).mp present with new | old
        · exact different (distinct other id rfl (new ▸ holds)).symm
        · exact (sound.own other item holds).2 old
      · intro other _
        exact knows_withLineItem purchaseId _ mine.2 (sound.knows other)

omit [DecidableEq Index] in
theorem sound_start {store : Store Price} {generated : Int}
    (fresh : ∀ id ∈ store.lineItems, id < generated) :
    Sound purchaseId (start store generated : Transactions Index Price) where
  rows := fresh
  own := by
    intro index id owned
    cases owned
  distinct := by
    intro index other id owned
    cases owned
  knows := fun _ => trivial

theorem sound_run {store : Store Price} {generated : Int}
    (fresh : ∀ id ∈ store.lineItems, id < generated) {labels : List (Index × Statement)}
    {last : Transactions Index Price}
    (ran : run (transactionStep purchaseId) (start store generated) labels = some last) :
    Sound purchaseId last :=
  run_invariant (transactionStep purchaseId) (Sound purchaseId)
    (fun _ _ _ sound moved => sound_step sound moved) (sound_start fresh) ran

theorem statement_of_committed {transactions next : Transactions Index Price}
    {label : Index × Statement} (moved : transactionStep purchaseId transactions label = some next)
    (ended : next.locals label.1 = .committed) : label = (label.1, .commit) := by
  obtain ⟨database, stage, acted, same⟩ := Pool.step_some (act purchaseId) moved
  subst same
  change Function.update transactions.locals label.1 stage label.1 = .committed at ended
  rw [Function.update_self] at ended
  subst ended
  have acts := act_acts purchaseId acted
  obtain ⟨index, statement⟩ := label
  generalize transactions.locals index = before at acts
  cases acts with
  | commit purchase id productId lineItems => rfl

theorem ends_with_commit [Nonempty Index] {store : Store Price} {generated : Int}
    {labels : List (Index × Statement)} {last : Transactions Index Price}
    (ran : run (transactionStep purchaseId) (start store generated) labels = some last)
    (complete : ∀ index, last.locals index = .committed) :
    ∃ earlier index before, labels = earlier ++ [(index, .commit)] ∧
      run (transactionStep purchaseId) (start store generated) earlier = some before ∧
      transactionStep purchaseId before (index, .commit) = some last := by
  rcases List.eq_nil_or_concat' labels with empty | ⟨earlier, label, split⟩
  · subst empty
    cases ran
    obtain ⟨index⟩ := ‹Nonempty Index›
    cases complete index
  · subst split
    obtain ⟨before, ranBefore, moved⟩ := run_snoc_some _ ran
    have commits := statement_of_committed moved (complete label.1)
    refine ⟨earlier, label.1, before, ?_, ranBefore, ?_⟩
    · rw [← commits]
    · rw [← commits]
      exact moved

end Interleaving

section Exactly

variable {Index : Type} [DecidableEq Index] [AddCancelCommMonoid Price] {purchaseId : Int}

/-- What a commit stores is short of the prices of the line items it has missed. -/
theorem commit_right_iff {transactions next : Transactions Index Price} {index : Index}
    (sound : Sound purchaseId transactions)
    (moved : transactionStep purchaseId transactions (index, .commit) = some next) :
    TotalRight purchaseId next.shared.store ↔
      ((missedBy purchaseId transactions.shared.store (transactions.locals index)).map
        fun row => transactions.shared.store.priceOf row.2.product).sum = 0 := by
  obtain ⟨database, stage, acted, same⟩ := Pool.step_some (act purchaseId) moved
  subst same
  have acts := act_acts purchaseId acted
  have knows := sound.knows index
  have own := sound.own index
  change Acts purchaseId transactions.shared (transactions.locals index) .commit database stage
    at acts
  generalize transactions.locals index = before at acts knows own ⊢
  cases acts with
  | commit purchase id productId lineItems =>
      have fresh := (own id rfl).2
      obtain ⟨⟨newer, seen, rows, loaded⟩, total⟩ := knows
      have computed : purchase.total = transactions.shared.store.priceOf productId +
          (seen.map fun row => transactions.shared.store.priceOf row.2.product).sum := by
        rw [total, (loaded.map _).sum_eq, List.map_cons, List.sum_cons, List.map_map]
        rfl
      have inserted := Store.lineItemsOf_insert transactions.shared.store
        { purchase := purchaseId, product := productId } fresh purchaseId
      rw [if_pos rfl, rows] at inserted
      have actual : (withLineItem transactions.shared.store id purchaseId productId).sumOfPrices
          purchaseId = transactions.shared.store.priceOf productId +
            ((newer.map fun row => transactions.shared.store.priceOf row.2.product).sum +
              (seen.map fun row => transactions.shared.store.priceOf row.2.product).sum) := by
        rw [← List.sum_append, ← List.map_append, ← List.sum_cons]
        exact congrArg (fun rows : List (Sigma fun _ : Int => LineItem) =>
          (rows.map fun row => transactions.shared.store.priceOf row.2.product).sum) inserted
      have missed := missed_eq fresh rows loaded
      rw [missedBy, missed]
      have stored : TotalRight purchaseId
            { withLineItem transactions.shared.store id purchaseId productId with
              purchases := transactions.shared.store.purchases.insert purchaseId purchase } ↔
          purchase.total = (withLineItem transactions.shared.store id purchaseId
            productId).sumOfPrices purchaseId := by
        constructor
        · exact fun right => right purchase (AList.lookup_insert _)
        · intro equal other found
          rw [AList.lookup_insert] at found
          cases found
          exact equal
      refine stored.trans ?_
      rw [computed, actual, add_right_inj]
      exact right_eq_add

/-- Once all transactions have committed, the total is right precisely when the line items
that the last one has missed cost nothing, in particular when it has missed none. -/
theorem total_right_iff_nothing_missed [Nonempty Index] (store : Store Price) (generated : Int)
    (fresh : ∀ id ∈ store.lineItems, id < generated) (labels : List (Index × Statement))
    (last : Transactions Index Price)
    (ran : run (transactionStep purchaseId) (start store generated) labels = some last)
    (complete : ∀ index, last.locals index = .committed) :
    ∃ earlier index before, labels = earlier ++ [(index, .commit)] ∧
      run (transactionStep purchaseId) (start store generated) earlier = some before ∧
      (TotalRight purchaseId last.shared.store ↔
        ((missedBy purchaseId before.shared.store (before.locals index)).map
          fun row => before.shared.store.priceOf row.2.product).sum = 0) := by
  obtain ⟨earlier, index, before, split, ranBefore, moved⟩ := ends_with_commit ran complete
  exact ⟨earlier, index, before, split, ranBefore,
    commit_right_iff (sound_run fresh ranBefore) moved⟩

end Exactly

def twoWidgets : Store Int :=
  performAll { rejectsNullAtPersist := true, insertsAtPersist := true }
    [.createCustomer 1 (some "A") (some "Customer"),
      .createPurchase 1 1,
      .createProduct 1 (some "Widget1") (some "a widget that slices (but not dices)") 12,
      .createProduct 2 (some "Widget2") (some "a widget that dices (but not slices)") 7]

def oneAfterTheOther : List (Fin 2 × Statement) :=
  [(0, .readPurchase), (0, .readProduct 1), (0, .insertLineItem), (0, .loadLineItems),
    (0, .writeTotal), (0, .commit), (1, .readPurchase), (1, .readProduct 2),
    (1, .insertLineItem), (1, .loadLineItems), (1, .writeTotal), (1, .commit)]

theorem second_misses_nothing :
    ∃ last : Transactions (Fin 2) Int,
      run (transactionStep 1) (start twoWidgets 1) oneAfterTheOther = some last ∧
        ∃ earlier index before, oneAfterTheOther = earlier ++ [(index, .commit)] ∧
          run (transactionStep 1) (start twoWidgets 1) earlier = some before ∧
          (TotalRight 1 last.shared.store ↔
            ((missedBy 1 before.shared.store (before.locals index)).map
              fun row => before.shared.store.priceOf row.2.product).sum = 0) := by
  obtain ⟨last, ran, complete⟩ := exists_run_of_any (transactionStep 1)
    (start twoWidgets 1 : Transactions (Fin 2) Int) oneAfterTheOther
    (fun last => ∀ index, last.locals index = .committed) (by decide)
  exact ⟨last, ran, total_right_iff_nothing_missed twoWidgets 1
    (by
      intro id present
      cases present) oneAfterTheOther last ran complete⟩

/-- Both transactions load the line items before either commits: both line items are
stored, and the total is the price of the second. -/
theorem total_misses_first_line_item :
    ∃ last : Transactions (Fin 2) Int,
      run (transactionStep 1) (start twoWidgets 1)
          [(0, .readPurchase), (0, .readProduct 1), (1, .readPurchase), (1, .readProduct 2),
            (0, .insertLineItem), (1, .insertLineItem), (0, .loadLineItems), (1, .loadLineItems),
            (0, .writeTotal), (0, .commit), (1, .writeTotal), (1, .commit)] = some last ∧
        (∀ index, last.locals index = .committed) ∧
        last.shared.store.purchases.lookup 1 = some { customer := 1, total := 7 } ∧
        last.shared.store.sumOfPrices 1 = 19 ∧
        ¬TotalRight 1 last.shared.store := by
  obtain ⟨last, ran, complete, stored, sum⟩ := exists_run_of_any (transactionStep 1)
    (start twoWidgets 1 : Transactions (Fin 2) Int)
    [(0, .readPurchase), (0, .readProduct 1), (1, .readPurchase), (1, .readProduct 2),
      (0, .insertLineItem), (1, .insertLineItem), (0, .loadLineItems), (1, .loadLineItems),
      (0, .writeTotal), (0, .commit), (1, .writeTotal), (1, .commit)]
    (fun last => (∀ index, last.locals index = .committed) ∧
      last.shared.store.purchases.lookup 1 = some { customer := 1, total := 7 } ∧
      last.shared.store.sumOfPrices 1 = 19) (by decide)
  refine ⟨last, ran, complete, stored, sum, fun right => ?_⟩
  have equal := right _ stored
  rw [sum] at equal
  revert equal
  decide

end SpringExamples.Orders
