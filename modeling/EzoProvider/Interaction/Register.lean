import Mathlib.Data.List.Perm.Basic
import Mathlib.Order.Defs.PartialOrder

/-!
# Registers

What a register holds after a history of entries, each of which writes to it or
leaves it alone. Only the entries which write count, and of these the last.
-/

namespace EzoProvider.Interaction

universe u v

variable {Entry : Type u} {Value : Type v}

/-- What is left in a register which held `initial`. -/
def lastWritten (initial : Value) (writes : Entry → Option Value) (history : List Entry) : Value :=
  history.foldl (fun held entry => (writes entry).getD held) initial

variable {initial : Value} {writes writes' : Entry → Option Value} {history : List Entry}

@[simp] theorem lastWritten_nil : lastWritten initial writes [] = initial := rfl

theorem lastWritten_append (later : List Entry) :
    lastWritten initial writes (history ++ later) =
      lastWritten (lastWritten initial writes history) writes later :=
  List.foldl_append

theorem lastWritten_singleton (entry : Entry) :
    lastWritten initial writes [entry] = (writes entry).getD initial := rfl

/-- Entries which write the same leave the same. -/
theorem lastWritten_congr (same : ∀ entry ∈ history, writes entry = writes' entry) :
    lastWritten initial writes history = lastWritten initial writes' history := by
  induction history generalizing initial with
  | nil => rfl
  | cons entry rest ih =>
      rw [lastWritten, List.foldl_cons, same entry List.mem_cons_self]
      exact ih fun other member => same other (List.mem_cons_of_mem _ member)

/-- Entries which do not write do not count. -/
theorem lastWritten_filter {counts : Entry → Bool}
    (silent : ∀ entry, counts entry = false → writes entry = none) :
    lastWritten initial writes (history.filter counts) = lastWritten initial writes history := by
  induction history generalizing initial with
  | nil => rfl
  | cons entry rest ih =>
      cases counted : counts entry with
      | true =>
          rw [List.filter_cons_of_pos counted]
          exact ih
      | false =>
          rw [List.filter_cons_of_neg (by simp [counted]), ih]
          rw [lastWritten, lastWritten, List.foldl_cons, silent entry counted, Option.getD_none]

/-- Histories in which the entries that count stand in the same order leave the same. -/
theorem lastWritten_eq_of_ascending [Preorder Entry] {other : List Entry} {counts : Entry → Bool}
    (silent : ∀ entry, counts entry = false → writes entry = none)
    (ascending : (history.filter counts).Pairwise (· < ·))
    (ascending' : (other.filter counts).Pairwise (· < ·))
    (same : ∀ entry, counts entry = true → (entry ∈ history ↔ entry ∈ other)) :
    lastWritten initial writes history = lastWritten initial writes other := by
  have perm : (history.filter counts).Perm (other.filter counts) := by
    refine (List.perm_ext_iff_of_nodup ?_ ?_).mpr fun entry => ?_
    · exact ascending.imp ne_of_lt
    · exact ascending'.imp ne_of_lt
    · simp only [List.mem_filter]
      exact ⟨fun both => ⟨(same entry both.2).mp both.1, both.2⟩,
        fun both => ⟨(same entry both.2).mpr both.1, both.2⟩⟩
  rw [← lastWritten_filter silent, ← @lastWritten_filter _ _ _ _ other _ silent]
  rw [perm.eq_of_pairwise (fun _ _ _ _ first second => absurd second (lt_asymm first)) ascending
    ascending']

end EzoProvider.Interaction
