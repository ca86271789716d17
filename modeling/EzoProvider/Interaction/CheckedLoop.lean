import Mathlib.Data.List.Basic
import Mathlib.Data.List.Perm.Basic

/-!
# Loops which check what they gather

A loop over a list that takes its items one by one into a state and leaves with
an error at the first it refuses. Where the refusal of an item does not depend
on what was gathered, the outcome is the fault of the first refused item, and
reordering the list can only change which one comes first.
-/

namespace EzoProvider.Interaction

variable {Item State Refusal Fault : Type}

/-- A pass which refuses an item for its own fault, or takes it. -/
structure Checks (step : State → Item → Except Refusal State) (kind : Refusal → Fault)
    (fault : Item → Option Fault) (take : State → Item → State) : Prop where
  refuses : ∀ {item found} (state), fault item = some found →
    ∃ refusal, step state item = .error refusal ∧ kind refusal = found
  takes : ∀ {item} (state), fault item = none → step state item = .ok (take state item)

/-- The loop leaves with the first fault, or takes every item. -/
theorem Checks.foldlM {step : State → Item → Except Refusal State} {kind : Refusal → Fault}
    {fault : Item → Option Fault} {take : State → Item → State}
    (checks : Checks step kind fault take) (items : List Item) (state : State) :
    (items.foldlM step state).mapError kind =
      match items.findSome? fault with
      | some found => .error found
      | none => .ok (items.foldl take state) := by
  induction items generalizing state with
  | nil => rfl
  | cons item items ih =>
      rw [List.foldlM_cons, List.findSome?_cons]
      cases here : fault item with
      | some found =>
          obtain ⟨refusal, refused, rfl⟩ := checks.refuses state here
          rw [refused]
          rfl
      | none =>
          rw [checks.takes state here]
          exact ih (take state item)

/-- Every order of the items gives the same first fault exactly when their faults are all
one. -/
theorem findSome?_perm_iff {fault : Item → Option Fault} {items : List Item} :
    (∀ other : List Item, other.Perm items → other.findSome? fault = items.findSome? fault) ↔
      ∀ first ∈ items, ∀ second ∈ items, ∀ found found', fault first = some found →
        fault second = some found' → found = found' := by
  constructor
  · intro same first member second member' found found' isFound isFound'
    -- Either item can be put first.
    have leads : ∀ item ∈ items, ∀ found, fault item = some found →
        items.findSome? fault = some found := by
      intro item there found isFound
      obtain ⟨before, after, rfl⟩ := List.append_of_mem there
      rw [← same _ List.perm_middle.symm, List.findSome?_cons, isFound]
    have one := leads first member found isFound
    have two := leads second member' found' isFound'
    exact Option.some.inj (one.symm.trans two)
  · intro alone other perm
    cases found : items.findSome? fault with
    | none =>
        rw [List.findSome?_eq_none_iff] at found ⊢
        exact fun item member => found item (perm.mem_iff.mp member)
    | some fault' =>
        obtain ⟨item, member, isFault⟩ := List.exists_of_findSome?_eq_some found
        cases found' : other.findSome? fault with
        | none =>
            rw [List.findSome?_eq_none_iff] at found'
            rw [found' item (perm.mem_iff.mpr member)] at isFault
            cases isFault
        | some second =>
            obtain ⟨item', member', isSecond⟩ := List.exists_of_findSome?_eq_some found'
            rw [alone item member item' (perm.mem_iff.mp member') _ _ isFault isSecond]

end EzoProvider.Interaction
