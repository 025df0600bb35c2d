/-
Any number of processes over one shared state, one atomic step at a time.

A process is given by the act it performs next: from the shared state, its own
local state and a choice of the environment it computes both afterwards, or is
not enabled.  A run of the pool is any interleaving of such acts.  The rules
below reduce a property of all interleavings to one obligation about one act:
an invariant of the shared state, the exclusion of all processes but the holder
of a lock, or an account in which what the shared state holds and what every
process owes add up to what is due.
-/

import Mathlib.Algebra.BigOperators.Group.Finset.Basic
import Mathlib.Data.Fintype.BigOperators
import SpringExamples.Foundation.Runs

set_option autoImplicit false

namespace SpringExamples

open Runs

structure Pool (Index Shared Local : Type) where
  shared : Shared
  locals : Index → Local

namespace Pool

variable {Index Shared Local Choice : Type} [DecidableEq Index]

/-- Process `label.1` performs one act; every other process stands still. -/
def step (act : Shared → Local → Choice → Option (Shared × Local))
    (pool : Pool Index Shared Local) (label : Index × Choice) :
    Option (Pool Index Shared Local) :=
  (act pool.shared (pool.locals label.1) label.2).map fun result =>
    { shared := result.1
      locals := Function.update pool.locals label.1 result.2 }

variable (act : Shared → Local → Choice → Option (Shared × Local))

theorem step_some {pool next : Pool Index Shared Local} {label : Index × Choice}
    (moved : step act pool label = some next) :
    ∃ shared mine, act pool.shared (pool.locals label.1) label.2 = some (shared, mine) ∧
      next = { shared := shared, locals := Function.update pool.locals label.1 mine } := by
  unfold step at moved
  obtain ⟨⟨shared, mine⟩, acted, same⟩ := Option.map_eq_some_iff.mp moved
  exact ⟨shared, mine, acted, same.symm⟩

theorem step_of_act {pool : Pool Index Shared Local} {label : Index × Choice}
    {shared : Shared} {mine : Local}
    (acted : act pool.shared (pool.locals label.1) label.2 = some (shared, mine)) :
    step act pool label =
      some { shared := shared, locals := Function.update pool.locals label.1 mine } := by
  unfold step
  rw [acted]
  rfl

def solo (act : Shared → Local → Choice → Option (Shared × Local)) (state : Shared × Local)
    (choice : Choice) : Option (Shared × Local) :=
  act state.1 state.2 choice

/-- A process that runs on its own in a pool does what it does alone. -/
theorem run_solo {pool : Pool Index Shared Local} {index : Index} {choices : List Choice}
    {shared : Shared} {mine : Local}
    (ran : run (solo act) (pool.shared, pool.locals index) choices = some (shared, mine)) :
    run (step act) pool (choices.map fun choice => (index, choice)) =
      some { shared := shared, locals := Function.update pool.locals index mine } := by
  induction choices generalizing pool with
  | nil =>
      cases ran
      rw [List.map_nil, run_nil, Function.update_eq_self]
  | cons choice rest ih =>
      obtain ⟨⟨middle, between⟩, acted, later⟩ := run_cons_some (solo act) ran
      have moved : step act pool (index, choice) =
          some { shared := middle, locals := Function.update pool.locals index between } :=
        step_of_act act acted
      rw [List.map_cons, run_cons, moved, Option.bind_some]
      have resumed : run (solo act) (middle, Function.update pool.locals index between index)
          rest = some (shared, mine) := by
        rw [Function.update_self]
        exact later
      rw [ih resumed]
      simp only [Function.update_idem]

section Levels

variable {Shared' Local' Choice' : Type}
  (act' : Shared' → Local' → Choice' → Option (Shared' × Local'))
  (toShared : Shared → Shared') (toLocal : Local → Local')

omit [DecidableEq Index] in
/-- The pool at another level of detail. -/
def map (pool : Pool Index Shared Local) : Pool Index Shared' Local' :=
  { shared := toShared pool.shared
    locals := toLocal ∘ pool.locals }

/-- Where each act is several acts of a finer program that nothing comes between, each run of the
pool is a run of the finer one. -/
theorem run_refined (choices : Local → Choice → List Choice')
    (refines : ∀ shared mine choice shared' mine', act shared mine choice = some (shared', mine') →
      run (solo act') (toShared shared, toLocal mine) (choices mine choice) =
        some (toShared shared', toLocal mine'))
    {pool last : Pool Index Shared Local} {labels : List (Index × Choice)}
    (ran : run (step act) pool labels = some last) :
    ∃ labels' : List (Index × Choice'),
      (∀ label ∈ labels', ∃ mine choice, label.2 ∈ choices mine choice) ∧
        run (step act') (pool.map toShared toLocal) labels' =
          some (last.map toShared toLocal) := by
  induction labels generalizing pool with
  | nil =>
      cases ran
      exact ⟨[], fun _ none => absurd none List.not_mem_nil, rfl⟩
  | cons label rest ih =>
      obtain ⟨next, moved, later⟩ := run_cons_some (step act) ran
      obtain ⟨shared, mine, acted, same⟩ := step_some act moved
      subst same
      obtain ⟨following, drawn, resumed⟩ := ih later
      have alone : run (step act') (pool.map toShared toLocal)
          ((choices (pool.locals label.1) label.2).map fun choice => (label.1, choice)) = _ :=
        run_solo act' (refines _ _ _ _ _ acted)
      refine ⟨(choices (pool.locals label.1) label.2).map (fun choice => (label.1, choice)) ++
        following, ?_, ?_⟩
      · intro other among
        rcases List.mem_append.mp among with first | second
        · obtain ⟨choice, member, same⟩ := List.mem_map.mp first
          subst same
          exact ⟨_, _, member⟩
        · exact drawn other second
      · unfold map at resumed
        rw [Function.comp_update] at resumed
        rw [run_append, alone, Option.bind_some]
        exact resumed

/-- An act that the coarser program does not see, or does in one act, is a step of the pool that
the coarser pool does not see, or does in one step. -/
theorem step_abstracted {pool next : Pool Index Shared Local} {label : Index × Choice}
    (moved : step act pool label = some next)
    (abstracts : ∀ shared mine,
      act pool.shared (pool.locals label.1) label.2 = some (shared, mine) →
        (toShared shared = toShared pool.shared ∧ toLocal mine = toLocal (pool.locals label.1)) ∨
          ∃ choice, act' (toShared pool.shared) (toLocal (pool.locals label.1)) choice =
            some (toShared shared, toLocal mine)) :
    next.map toShared toLocal = pool.map toShared toLocal ∨
      ∃ label', step act' (pool.map toShared toLocal) label' =
        some (next.map toShared toLocal) := by
  obtain ⟨shared, mine, acted, same⟩ := step_some act moved
  subst same
  unfold map
  rw [Function.comp_update]
  rcases abstracts shared mine acted with ⟨unseen, still⟩ | ⟨choice, done⟩
  · left
    rw [unseen, still]
    exact congrArg (Pool.mk (toShared pool.shared))
      (Function.update_eq_self label.1 (toLocal ∘ pool.locals))
  · right
    exact ⟨(label.1, choice), step_of_act act' done⟩

end Levels

/-- An invariant of the shared state and of each local state against it.  The process that
acts re-establishes both, and does not interfere with a process that stands still. -/
theorem step_invariant (common : Shared → Prop) (each : Shared → Local → Prop)
    {pool next : Pool Index Shared Local} {label : Index × Choice}
    (holds : common pool.shared ∧ ∀ index, each pool.shared (pool.locals index))
    (moved : step act pool label = some next)
    (own : ∀ shared mine, act pool.shared (pool.locals label.1) label.2 = some (shared, mine) →
      common shared ∧ each shared mine)
    (interference : ∀ shared mine other,
      act pool.shared (pool.locals label.1) label.2 = some (shared, mine) →
        each pool.shared other → each shared other) :
    common next.shared ∧ ∀ index, each next.shared (next.locals index) := by
  obtain ⟨shared, mine, acted, same⟩ := step_some act moved
  subst same
  have renewed := own shared mine acted
  constructor
  · exact renewed.1
  · intro index
    change each shared (Function.update pool.locals label.1 mine index)
    by_cases mover : index = label.1
    · subst mover
      rw [Function.update_self]
      exact renewed.2
    · rw [Function.update_of_ne mover]
      exact interference shared mine (pool.locals index) acted (holds.2 index)

/-- The same with an invariant that may name the process: the others are told that they are
not the one that acts. -/
theorem step_invariant_each (common : Shared → Prop) (each : Index → Shared → Local → Prop)
    {pool next : Pool Index Shared Local} {label : Index × Choice}
    (holds : common pool.shared ∧ ∀ index, each index pool.shared (pool.locals index))
    (moved : step act pool label = some next)
    (own : ∀ shared mine, act pool.shared (pool.locals label.1) label.2 = some (shared, mine) →
      common shared ∧ each label.1 shared mine)
    (interference : ∀ shared mine other, other ≠ label.1 →
      act pool.shared (pool.locals label.1) label.2 = some (shared, mine) →
        each other pool.shared (pool.locals other) → each other shared (pool.locals other)) :
    common next.shared ∧ ∀ index, each index next.shared (next.locals index) := by
  obtain ⟨shared, mine, acted, same⟩ := step_some act moved
  subst same
  have renewed := own shared mine acted
  refine ⟨renewed.1, fun index => ?_⟩
  change each index shared (Function.update pool.locals label.1 mine index)
  by_cases mover : index = label.1
  · subst mover
    rw [Function.update_self]
    exact renewed.2
  · rw [Function.update_of_ne mover]
    exact interference shared mine index mover acted (holds.2 index)

section Notes

variable {Note : Type} (note : Local → Choice → List Note)

/-- What the acts of a run note down, in the order of the acts. -/
def noted : Pool Index Shared Local → List (Index × Choice) → List Note
  | _, [] => []
  | pool, label :: rest =>
      match step act pool label with
      | none => []
      | some next => note (pool.locals label.1) label.2 ++ noted next rest

variable {act}

theorem noted_cons {pool next : Pool Index Shared Local} {label : Index × Choice}
    (moved : step act pool label = some next) (rest : List (Index × Choice)) :
    noted act note pool (label :: rest) =
      note (pool.locals label.1) label.2 ++ noted act note next rest := by
  rw [noted, moved]

theorem noted_append {pool middle : Pool Index Shared Local} {labels : List (Index × Choice)}
    (ran : run (step act) pool labels = some middle) (later : List (Index × Choice)) :
    noted act note pool (labels ++ later) =
      noted act note pool labels ++ noted act note middle later := by
  induction labels generalizing pool with
  | nil =>
      cases ran
      rfl
  | cons label rest ih =>
      obtain ⟨next, moved, onwards⟩ := run_cons_some (step act) ran
      rw [List.cons_append, noted_cons note moved, noted_cons note moved, ih onwards,
        List.append_assoc]

/-- An invariant of what has happened, of the pool and of what has been noted down. -/
theorem noted_invariant
    (holds : List (Index × Choice) → Pool Index Shared Local → List Note → Prop)
    (kept : ∀ earlier pool notes label next, holds earlier pool notes →
      step act pool label = some next →
        holds (earlier ++ [label]) next (notes ++ note (pool.locals label.1) label.2))
    (earlier : List (Index × Choice)) {labels : List (Index × Choice)}
    {pool last : Pool Index Shared Local} {notes : List Note} (held : holds earlier pool notes)
    (ran : run (step act) pool labels = some last) :
    holds (earlier ++ labels) last (notes ++ noted act note pool labels) := by
  induction labels generalizing earlier pool notes with
  | nil =>
      cases ran
      rw [noted, List.append_nil, List.append_nil]
      exact held
  | cons label rest ih =>
      obtain ⟨next, moved, later⟩ := run_cons_some (step act) ran
      rw [noted_cons note moved, List.append_cons, ← List.append_assoc]
      exact ih (earlier ++ [label]) (kept earlier pool notes label next held moved) later

end Notes

section Mutex

variable (locked : Shared → Bool) (holds : Local → Prop)

/-- Nobody holds a free lock, and nobody else holds a taken one. -/
structure Mutex (pool : Pool Index Shared Local) : Prop where
  free : locked pool.shared = false → ∀ index, ¬holds (pool.locals index)
  alone : ∀ index other, holds (pool.locals index) → holds (pool.locals other) → index = other

/-- What an act may do about the lock: take it while it is free, and release it only while
holding it. -/
structure Respects (shared : Shared) (mine : Local) (shared' : Shared) (mine' : Local) :
    Prop where
  taken : holds mine' → holds mine ∨ locked shared = false
  kept : holds mine' → locked shared' = true
  released : locked shared = true → locked shared' = false → holds mine

variable {locked holds}

theorem mutex_step {pool : Pool Index Shared Local} {mover : Index} {shared : Shared}
    {mine : Local} (mutex : Mutex locked holds pool)
    (respects : Respects locked holds pool.shared (pool.locals mover) shared mine) :
    Mutex locked holds
      { shared := shared, locals := Function.update pool.locals mover mine } := by
  have bystander : ∀ index, index ≠ mover → holds (pool.locals index) → ¬holds mine := by
    intro index other holding own
    rcases respects.taken own with before | unlocked
    · exact other (mutex.alone index mover holding before)
    · exact mutex.free unlocked index holding
  constructor
  · intro unlocked index holding
    change holds (Function.update pool.locals mover mine index) at holding
    by_cases own : index = mover
    · subst own
      rw [Function.update_self] at holding
      have stillLocked := respects.kept holding
      exact Bool.false_ne_true (unlocked.symm.trans stillLocked)
    · rw [Function.update_of_ne own] at holding
      have lockedBefore : locked pool.shared = true :=
        Bool.not_eq_false _ |>.mp fun wasFree => mutex.free wasFree index holding
      have owner := respects.released lockedBefore unlocked
      exact own (mutex.alone index mover holding owner)
  · intro index other left right
    change holds (Function.update pool.locals mover mine index) at left
    change holds (Function.update pool.locals mover mine other) at right
    by_cases own : index = mover
    · by_cases otherOwn : other = mover
      · exact own.trans otherOwn.symm
      · subst own
        rw [Function.update_self] at left
        rw [Function.update_of_ne otherOwn] at right
        exact absurd left (bystander other otherOwn right)
    · rw [Function.update_of_ne own] at left
      by_cases otherOwn : other = mover
      · subst otherOwn
        rw [Function.update_self] at right
        exact absurd right (bystander index own left)
      · rw [Function.update_of_ne otherOwn] at right
        exact mutex.alone index other left right

end Mutex

section Account

variable [Fintype Index] {Amount : Type} [AddCommMonoid Amount]

omit [Fintype Index] in
/-- Replacing one summand, without subtraction. -/
theorem sum_update_of_mem (owed : Local → Amount) (locals : Index → Local) {mover : Index}
    (mine : Local) {processes : Finset Index} (member : mover ∈ processes) :
    (∑ index ∈ processes, owed (Function.update locals mover mine index)) + owed (locals mover) =
      (∑ index ∈ processes, owed (locals index)) + owed mine := by
  have split := Finset.add_sum_erase processes
    (fun index => owed (Function.update locals mover mine index)) member
  have splitOld := Finset.add_sum_erase processes (fun index => owed (locals index)) member
  have others : (processes.erase mover).sum
        (fun index => owed (Function.update locals mover mine index)) =
      (processes.erase mover).sum (fun index => owed (locals index)) := by
    apply Finset.sum_congr rfl
    intro index among
    rw [Function.update_of_ne (Finset.ne_of_mem_erase among)]
  simp only [Function.update_self] at split
  rw [← split, ← splitOld, others]
  ac_rfl

theorem sum_update (owed : Local → Amount) (locals : Index → Local) (mover : Index)
    (mine : Local) :
    (∑ index, owed (Function.update locals mover mine index)) + owed (locals mover) =
      (∑ index, owed (locals index)) + owed mine :=
  sum_update_of_mem owed locals mine (Finset.mem_univ mover)

/-- What the shared state holds and what all processes owe is what is due. -/
def Balanced (held due : Shared → Amount) (owed : Local → Amount)
    (pool : Pool Index Shared Local) : Prop :=
  held pool.shared + ∑ index, owed (pool.locals index) = due pool.shared

omit [DecidableEq Index] in
/-- Once no process owes anything, the shared state holds what is due. -/
theorem held_of_balanced {held due : Shared → Amount} {owed : Local → Amount}
    {pool : Pool Index Shared Local} (balanced : Balanced held due owed pool)
    (settled : ∀ index, owed (pool.locals index) = 0) : held pool.shared = due pool.shared := by
  unfold Balanced at balanced
  rw [Finset.sum_eq_zero fun index _ => settled index, add_zero] at balanced
  exact balanced

theorem balanced_step_iff [IsCancelAdd Amount] (held due : Shared → Amount)
    (owed : Local → Amount) {pool : Pool Index Shared Local} (mover : Index)
    (shared : Shared) (mine : Local) (balanced : Balanced held due owed pool) :
    Balanced held due owed
        { shared := shared, locals := Function.update pool.locals mover mine } ↔
      held shared + owed mine + due pool.shared =
        held pool.shared + owed (pool.locals mover) + due shared := by
  have exchanged := sum_update owed pool.locals mover mine
  unfold Balanced at balanced ⊢
  constructor
  · intro after
    have total : held shared + owed mine + due pool.shared +
          (∑ index, owed (pool.locals index)) =
        held pool.shared + owed (pool.locals mover) + due shared +
          ∑ index, owed (pool.locals index) := by
      calc
        _ = held shared + ((∑ index, owed (pool.locals index)) + owed mine) +
              due pool.shared := by ac_rfl
        _ = (held shared + ∑ index, owed (Function.update pool.locals mover mine index)) +
              (owed (pool.locals mover) + due pool.shared) := by
                rw [← exchanged]
                ac_rfl
        _ = due shared + (owed (pool.locals mover) +
              (held pool.shared + ∑ index, owed (pool.locals index))) := by rw [after, balanced]
        _ = _ := by ac_rfl
    exact add_right_cancel total
  · intro booked
    have total : held shared + (∑ index, owed (Function.update pool.locals mover mine index)) +
          (owed (pool.locals mover) + due pool.shared) =
        due shared + (owed (pool.locals mover) + due pool.shared) := by
      calc
        _ = held shared + ((∑ index, owed (Function.update pool.locals mover mine index)) +
              owed (pool.locals mover)) + due pool.shared := by ac_rfl
        _ = (held shared + owed mine + due pool.shared) +
              ∑ index, owed (pool.locals index) := by
                rw [exchanged]
                ac_rfl
        _ = (held pool.shared + ∑ index, owed (pool.locals index)) +
              (owed (pool.locals mover) + due shared) := by
                rw [booked]
                ac_rfl
        _ = due pool.shared + (owed (pool.locals mover) + due shared) := by rw [balanced]
        _ = _ := by ac_rfl
    exact add_right_cancel total

theorem balanced_step [IsCancelAdd Amount] (held due : Shared → Amount)
    (owed : Local → Amount) {pool next : Pool Index Shared Local} {label : Index × Choice}
    (balanced : Balanced held due owed pool) (moved : step act pool label = some next)
    (entry : ∀ shared mine,
      act pool.shared (pool.locals label.1) label.2 = some (shared, mine) →
        held shared + owed mine + due pool.shared =
          held pool.shared + owed (pool.locals label.1) + due shared) :
    Balanced held due owed next := by
  obtain ⟨shared, mine, acted, same⟩ := step_some act moved
  subst same
  exact (balanced_step_iff held due owed label.1 shared mine balanced).mpr
    (entry shared mine acted)

end Account

end Pool

end SpringExamples
