/-
Maps from keys to lists of values, in the order in which the keys first came.

Adding one value after another under a key leaves the values there in their order, so
that a map which is copied value by value keeps each key that has one.
-/

import Mathlib.Data.List.Basic
import Mathlib.Data.List.Nodup

set_option autoImplicit false

namespace SpringExamples

structure MultiMap (Key Value : Type) where
  entries : List (Key × List Value)
  distinct : (entries.map Prod.fst).Nodup

namespace MultiMap

variable {Key Value : Type}

def keys (map : MultiMap Key Value) : List Key := map.entries.map Prod.fst

def empty : MultiMap Key Value :=
  { entries := []
    distinct := List.nodup_nil }

section Adding

variable [DecidableEq Key]

def extend (key : Key) (value : Value) (entry : Key × List Value) : Key × List Value :=
  if entry.1 = key then (entry.1, entry.2 ++ [value]) else entry

theorem extend_fst (key : Key) (value : Value) (entry : Key × List Value) :
    (extend key value entry).1 = entry.1 := by
  unfold extend
  split
  · rfl
  · rfl

theorem extend_of_ne {key : Key} {entry : Key × List Value} (different : entry.1 ≠ key)
    (value : Value) : extend key value entry = entry :=
  if_neg different

theorem map_extend_fst (key : Key) (value : Value) (entries : List (Key × List Value)) :
    (entries.map (extend key value)).map Prod.fst = entries.map Prod.fst := by
  rw [List.map_map]
  exact List.map_congr_left fun entry _ => extend_fst key value entry

def add (map : MultiMap Key Value) (key : Key) (value : Value) : MultiMap Key Value :=
  if present : key ∈ map.keys then
    { entries := map.entries.map (extend key value)
      distinct := by
        rw [map_extend_fst]
        exact map.distinct }
  else
    { entries := map.entries ++ [(key, [value])]
      distinct := by
        rw [List.map_append, List.map_singleton]
        exact List.Nodup.append map.distinct (List.nodup_singleton key)
          (List.disjoint_singleton.mpr present) }

theorem entries_add_present {map : MultiMap Key Value} {key : Key} (present : key ∈ map.keys)
    (value : Value) : (map.add key value).entries = map.entries.map (extend key value) := by
  unfold add
  rw [dif_pos present]

theorem entries_add_absent {map : MultiMap Key Value} {key : Key} (absent : key ∉ map.keys)
    (value : Value) : (map.add key value).entries = map.entries ++ [(key, [value])] := by
  unfold add
  rw [dif_neg absent]

def addAll (map : MultiMap Key Value) (key : Key) (values : List Value) : MultiMap Key Value :=
  values.foldl (fun current value => current.add key value) map

theorem map_extend_last {before : List (Key × List Value)} {key : Key} {held : List Value}
    (distinct : ((before ++ [(key, held)]).map Prod.fst).Nodup) (value : Value) :
    (before ++ [(key, held)]).map (extend key value) = before ++ [(key, held ++ [value])] := by
  have others : ∀ entry ∈ before, extend key value entry = entry := by
    intro entry member
    apply extend_of_ne
    intro same
    have within : entry.1 ∈ before.map Prod.fst := List.mem_map_of_mem member
    rw [List.map_append, List.map_singleton] at distinct
    rw [same] at within
    exact List.disjoint_singleton.mp (List.disjoint_of_nodup_append distinct) within
  have last : extend key value (key, held) = (key, held ++ [value]) := if_pos rfl
  rw [List.map_append, List.map_singleton, last, List.map_congr_left others, List.map_id']

/-- Further values of the last key go behind those it has. -/
theorem entries_addAll_last {before : List (Key × List Value)} {key : Key} (values : List Value)
    {map : MultiMap Key Value} {held : List Value} (split : map.entries = before ++ [(key, held)]) :
    (map.addAll key values).entries = before ++ [(key, held ++ values)] := by
  induction values generalizing map held with
  | nil =>
      rw [List.append_nil]
      exact split
  | cons value rest ih =>
      have present : key ∈ map.keys := by
        unfold keys
        rw [split]
        exact List.mem_map_of_mem (List.mem_append_right before List.mem_cons_self)
      have distinct := map.distinct
      rw [split] at distinct
      have added : (map.add key value).entries = before ++ [(key, held ++ [value])] := by
        rw [entries_add_present present, split, map_extend_last distinct]
      have later := ih added
      rw [List.append_assoc, List.singleton_append] at later
      exact later

theorem entries_addAll_absent {map : MultiMap Key Value} {key : Key} (absent : key ∉ map.keys)
    (values : List Value) :
    (map.addAll key values).entries =
      map.entries ++ [(key, values)].filter fun entry => !entry.2.isEmpty := by
  cases values with
  | nil => exact (List.append_nil map.entries).symm
  | cons value rest => exact entries_addAll_last rest (entries_add_absent absent value)

/-- Every key that has a value is kept with all its values. -/
theorem entries_collect (entries : List (Key × List Value)) {map : MultiMap Key Value}
    (distinct : (entries.map Prod.fst).Nodup)
    (fresh : ∀ key ∈ map.keys, key ∉ entries.map Prod.fst) :
    (entries.foldl (fun current entry => current.addAll entry.1 entry.2) map).entries =
      map.entries ++ entries.filter fun entry => !entry.2.isEmpty := by
  induction entries generalizing map with
  | nil => exact (List.append_nil map.entries).symm
  | cons entry rest ih =>
      obtain ⟨apart, later⟩ := List.nodup_cons.mp distinct
      have absent : entry.1 ∉ map.keys := fun within => fresh entry.1 within List.mem_cons_self
      have added := entries_addAll_absent absent entry.2
      have stillFresh : ∀ key ∈ (map.addAll entry.1 entry.2).keys, key ∉ rest.map Prod.fst := by
        intro key member
        unfold keys at member
        rw [added, List.map_append] at member
        rcases List.mem_append.mp member with old | new
        · exact fun within => fresh key old (List.mem_cons_of_mem entry.1 within)
        · obtain ⟨single, listed, same⟩ := List.mem_map.mp new
          rw [List.mem_singleton.mp (List.mem_of_mem_filter listed)] at same
          exact same ▸ apart
      rw [List.foldl_cons, ih later stillFresh, added, List.append_assoc, ← List.filter_append,
        List.singleton_append]

end Adding

end MultiMap

end SpringExamples
