/-
Joining pieces of text with a separator, and splitting at it again.

Splitting always undoes a split that was joined; it undoes a join exactly when no
piece contains the separator.  What stands before the first separator is the first
piece under the same condition on that piece alone.
-/

import Mathlib.Data.List.Basic
import Mathlib.Data.List.TakeWhile

set_option autoImplicit false

namespace SpringExamples.DelimitedText

variable {Symbol : Type} [DecidableEq Symbol]

theorem not_mem_of_mem_splitOn (separator : Symbol) (text : List Symbol) :
    ∀ piece ∈ text.splitOn separator, separator ∉ piece := by
  induction text with
  | nil =>
      intro piece member
      rw [List.splitOn_nil, List.mem_singleton] at member
      rw [member]
      exact List.not_mem_nil
  | cons symbol rest ih =>
      intro piece member
      rw [List.splitOn_cons_eq_if_modifyHead] at member
      split at member
      · rcases List.mem_cons.mp member with empty | later
        · rw [empty]
          exact List.not_mem_nil
        · exact ih piece later
      · rename_i different
        cases pieces : rest.splitOn separator with
        | nil =>
            rw [pieces] at member
            cases member
        | cons first others =>
            rw [pieces] at ih member
            rcases List.mem_cons.mp member with longer | later
            · rw [longer]
              intro within
              rcases List.mem_cons.mp within with same | inside
              · rw [same] at different
                exact different (beq_self_eq_true symbol)
              · exact ih first List.mem_cons_self inside
            · exact ih piece (List.mem_cons_of_mem first later)

def beforeFirst (separator : Symbol) (text : List Symbol) : List Symbol :=
  text.takeWhile fun symbol => symbol ≠ separator

theorem not_mem_beforeFirst (separator : Symbol) (text : List Symbol) :
    separator ∉ beforeFirst separator text := by
  intro within
  have differs := List.mem_takeWhile_imp within
  rw [decide_eq_true_eq] at differs
  exact differs rfl

theorem beforeFirst_tagged_iff (separator : Symbol) (name rest : List Symbol) :
    beforeFirst separator (name ++ separator :: rest) = name ↔ separator ∉ name := by
  constructor
  · intro same
    rw [← same]
    exact not_mem_beforeFirst separator _
  · intro free
    have kept : ∀ symbol ∈ name, decide (symbol ≠ separator) = true := by
      intro symbol member
      apply decide_eq_true
      intro equal
      exact free (equal ▸ member)
    unfold beforeFirst
    rw [List.takeWhile_append_of_pos kept, List.takeWhile_cons_of_neg (by simp), List.append_nil]

theorem splitOn_join_iff (separator : Symbol) {pieces : List (List Symbol)}
    (nonempty : pieces ≠ []) :
    ([separator].intercalate pieces).splitOn separator = pieces ↔
      ∀ piece ∈ pieces, separator ∉ piece := by
  constructor
  · intro same piece member
    rw [← same] at member
    exact not_mem_of_mem_splitOn separator _ piece member
  · intro free
    exact List.splitOn_intercalate separator free nonempty

omit [DecidableEq Symbol] in
theorem join_eq_nil_iff (separator : Symbol) {pieces : List (List Symbol)}
    (nonempty : pieces ≠ []) :
    [separator].intercalate pieces = [] ↔ pieces = [[]] := by
  cases pieces with
  | nil => exact absurd rfl nonempty
  | cons first others =>
      cases others with
      | nil => simp
      | cons second later => simp [List.intercalate_cons_cons]

end SpringExamples.DelimitedText
