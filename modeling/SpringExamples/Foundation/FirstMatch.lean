/-
The first element of a list that passes a test, as a relation.

Searches that stop at their first hit are specified by it, nested ones included, and
two searches of one list are compared by where they stop.
-/

import Mathlib.Data.List.Basic

set_option autoImplicit false

namespace SpringExamples

variable {Item Result : Type}

structure FirstMatch (test : Item → Prop) (items : List Item) (item : Item) : Prop where
  passes : test item
  first : ∃ before after, items = before ++ item :: after ∧ ∀ other ∈ before, ¬test other

namespace FirstMatch

theorem mem {test : Item → Prop} {items : List Item} {item : Item}
    (found : FirstMatch test items item) : item ∈ items := by
  obtain ⟨before, after, split, _⟩ := found.first
  rw [split]
  exact List.mem_append_right _ List.mem_cons_self

theorem exists_of_mem {test : Item → Prop} {items : List Item} {item : Item}
    (member : item ∈ items) (passes : test item) : ∃ first, FirstMatch test items first := by
  induction items with
  | nil => cases member
  | cons head tail ih =>
      by_cases hit : test head
      · refine ⟨head, hit, [], tail, rfl, ?_⟩
        intro other impossible
        cases impossible
      · have later : item ∈ tail :=
          (List.mem_cons.mp member).resolve_left fun same => hit (same ▸ passes)
        obtain ⟨first, found⟩ := ih later
        obtain ⟨before, after, split, failed⟩ := found.first
        refine ⟨first, found.passes, head :: before, after, by rw [split]; rfl, ?_⟩
        intro other among
        rcases List.mem_cons.mp among with same | earlier
        · exact same ▸ hit
        · exact failed other earlier

theorem find?_eq_some_iff (test : Item → Bool) (items : List Item) (item : Item) :
    items.find? test = some item ↔ FirstMatch (fun other => test other = true) items item := by
  rw [List.find?_eq_some_iff_append]
  constructor
  · intro given
    obtain ⟨passes, before, after, split, failed⟩ := given
    refine ⟨passes, before, after, split, fun other member => ?_⟩
    have fails := failed other member
    rw [Bool.not_eq_true'] at fails
    rw [fails]
    exact Bool.false_ne_true
  · intro given
    obtain ⟨passes, before, after, split, failed⟩ := given
    refine ⟨passes, before, after, split, fun other member => ?_⟩
    rw [Bool.not_eq_true']
    exact Bool.eq_false_iff.mpr (failed other member)

theorem none_or (test : Item → Bool) (items : List Item) :
    (∀ item ∈ items, test item = false) ∨
      ∃ item, FirstMatch (fun other => test other = true) items item := by
  cases searched : items.find? test with
  | none =>
      left
      intro item member
      exact Bool.eq_false_iff.mpr (List.find?_eq_none.mp searched item member)
  | some item => exact Or.inr ⟨item, (find?_eq_some_iff test items item).mp searched⟩

theorem findSome?_eq_some_iff (search : Item → Option Result) (items : List Item)
    (result : Result) :
    items.findSome? search = some result ↔
      ∃ item, FirstMatch (fun other => ∃ hit, search other = some hit) items item ∧
        search item = some result := by
  rw [List.findSome?_eq_some_iff]
  constructor
  · intro given
    obtain ⟨before, item, after, split, found, failed⟩ := given
    refine ⟨item, ⟨⟨result, found⟩, before, after, split, ?_⟩, found⟩
    intro other member given
    obtain ⟨hit, hits⟩ := given
    rw [failed other member] at hits
    cases hits
  · intro given
    obtain ⟨item, ⟨_, before, after, split, failed⟩, found⟩ := given
    refine ⟨before, item, after, split, found, fun other member => ?_⟩
    cases searched : search other with
    | none => rfl
    | some hit => exact absurd ⟨hit, searched⟩ (failed other member)

/-- Two searches of one list stop at one element, or one of them passed over the place
where the other stopped. -/
theorem compare {first second : Item → Prop} {items : List Item} {left right : Item}
    (foundLeft : FirstMatch first items left) (foundRight : FirstMatch second items right) :
    ¬first right ∨ left = right ∨ ¬second left := by
  obtain ⟨beforeLeft, afterLeft, splitLeft, failedLeft⟩ := foundLeft.first
  obtain ⟨beforeRight, afterRight, splitRight, failedRight⟩ := foundRight.first
  rw [splitLeft] at splitRight
  rcases List.append_eq_append_iff.mp splitRight with
    ⟨middle, longer, rest⟩ | ⟨middle, longer, rest⟩
  · cases middle with
    | nil =>
        rw [List.nil_append, List.cons.injEq] at rest
        exact Or.inr (Or.inl rest.1)
    | cons head tail =>
        rw [List.cons_append, List.cons.injEq] at rest
        refine Or.inr (Or.inr (failedRight left ?_))
        rw [longer, rest.1]
        exact List.mem_append_right _ List.mem_cons_self
  · cases middle with
    | nil =>
        rw [List.nil_append, List.cons.injEq] at rest
        exact Or.inr (Or.inl rest.1.symm)
    | cons head tail =>
        rw [List.cons_append, List.cons.injEq] at rest
        refine Or.inl (failedLeft right ?_)
        rw [longer, rest.1]
        exact List.mem_append_right _ List.mem_cons_self

end FirstMatch

end SpringExamples
