import EzoProvider.Interaction.Simulation
import Mathlib.Logic.Function.Basic

/-!
# Parts which answer for themselves

A party made of independent parts. Every operation is for one part or for none; a
part answers by what it has been asked itself, and takes its time over it. What a
program does depends on the parts it asks, and not on the others or on the hour.
-/

namespace EzoProvider.Interaction

universe u v w x

/-- One part: its answers, and the time they take it. -/
structure Part (Op : Type u) (Result : Op → Type v) where
  answer : Trace Op Result → (op : Op) → Result op
  takes : Trace Op Result → Op → Nat

/-- The part an operation is for. An operation for none is answered the same way always. -/
structure Routing (Op : Type u) (Result : Op → Type v) (Key : Type x) where
  part : Op → Option Key
  answer : (op : Op) → part op = none → Result op
  takes : Op → Nat

/-- What the parts have been asked so far, and the time. -/
structure Ledger (Op : Type u) (Result : Op → Type v) (Key : Type x) where
  asked : Key → Trace Op Result
  time : Nat

namespace Routing

variable {Op : Type u} {Result : Op → Type v} {Key : Type x} [DecidableEq Key]
  (routing : Routing Op Result Key) (parts : Key → Part Op Result)

/-- The parts as one responder. -/
def responder : Responder Op Result (Ledger Op Result Key) where
  respond ledger op :=
    match part : routing.part op with
    | none => (routing.answer op part, { ledger with time := ledger.time + routing.takes op })
    | some key =>
        let past := ledger.asked key
        let answer := (parts key).answer past op
        (answer,
          { asked := Function.update ledger.asked key (past ++ [⟨op, answer⟩])
            time := ledger.time + (parts key).takes past op })

variable {routing parts}

theorem respond_of_none {ledger : Ledger Op Result Key} {op : Op} (part : routing.part op = none) :
    (routing.responder parts).respond ledger op =
      (routing.answer op part, { ledger with time := ledger.time + routing.takes op }) := by
  simp only [responder]
  split
  · rfl
  · next other => simp [part] at other

theorem respond_of_some {ledger : Ledger Op Result Key} {op : Op} {key : Key}
    (part : routing.part op = some key) :
    (routing.responder parts).respond ledger op =
      ((parts key).answer (ledger.asked key) op,
        { asked := Function.update ledger.asked key
            (ledger.asked key ++ [⟨op, (parts key).answer (ledger.asked key) op⟩])
          time := ledger.time + (parts key).takes (ledger.asked key) op }) := by
  simp only [responder]
  split
  · next other => simp [part] at other
  · next other found =>
      obtain rfl : other = key := by simpa [part] using found.symm
      rfl

/-- The operation is for no part, or for one of these. -/
def Among (routing : Routing Op Result Key) (keys : Key → Prop) (op : Op) : Prop :=
  ∀ key, routing.part op = some key → keys key

end Routing

namespace Program

variable {Op : Type u} {Result : Op → Type v} {Key : Type x} [DecidableEq Key] {α : Type w}
  {routing : Routing Op Result Key} {parts other : Key → Part Op Result} {keys : Key → Prop}
  {program : Program Op Result α}

/-- Parts a program does not ask are not asked. -/
theorem asked_play_of_only (only : program.Only (routing.Among keys))
    (ledger : Ledger Op Result Key) {key : Key} (beyond : ¬ keys key) :
    (program.play (routing.responder parts) ledger).final.asked key = ledger.asked key := by
  induction program generalizing ledger with
  | done value => rfl
  | perform op next ih =>
      obtain ⟨among, later⟩ := only
      refine (ih _ (later _) _).trans ?_
      cases part : routing.part op with
      | none => rw [Routing.respond_of_none part]
      | some asked =>
          have different : key ≠ asked := by
            rintro rfl
            exact beyond (among _ part)
          rw [Routing.respond_of_some part]
          exact Function.update_of_ne different _ _

/-- Two plays of one program, from two ledgers, agree. -/
structure Play.Agrees (first second : Ledger Op Result Key)
    (one two : Play Op Result (Ledger Op Result Key) α) : Prop where
  trace : one.trace = two.trace
  value : one.value = two.value
  elapsed : one.final.time + second.time = two.final.time + first.time

/-- A program plays the same against parts which are the same where it asks them. -/
theorem play_agrees_of_only (only : program.Only (routing.Among keys))
    (same : ∀ key, keys key → parts key = other key) {first second : Ledger Op Result Key}
    (asked : ∀ key, keys key → first.asked key = second.asked key) :
    Play.Agrees first second (program.play (routing.responder parts) first)
      (program.play (routing.responder other) second) := by
  induction program generalizing first second with
  | done value => exact ⟨rfl, rfl, Nat.add_comm _ _⟩
  | perform op next ih =>
      obtain ⟨among, later⟩ := only
      -- One operation gets the same answer and takes as long.
      obtain ⟨answer, time, asked'⟩ :
          ((routing.responder parts).respond first op).1 =
              ((routing.responder other).respond second op).1 ∧
            ((routing.responder parts).respond first op).2.time + second.time =
              ((routing.responder other).respond second op).2.time + first.time ∧
            ∀ key, keys key → ((routing.responder parts).respond first op).2.asked key =
              ((routing.responder other).respond second op).2.asked key := by
        cases part : routing.part op with
        | none =>
            rw [Routing.respond_of_none part, Routing.respond_of_none part]
            exact ⟨rfl, by dsimp only; omega, asked⟩
        | some key =>
            have here := among key part
            rw [Routing.respond_of_some part, Routing.respond_of_some part, same key here,
              asked key here]
            refine ⟨rfl, by dsimp only; omega, fun more inside => ?_⟩
            dsimp only
            by_cases equal : more = key
            · subst equal
              rw [Function.update_self, Function.update_self]
            · rw [Function.update_of_ne equal, Function.update_of_ne equal, asked more inside]
      simp only [play]
      rw [answer]
      obtain ⟨trace, value, elapsed⟩ := ih _ (later _) asked'
      refine ⟨?_, value, ?_⟩
      · rw [trace]
      · dsimp only at elapsed ⊢
        omega

end Program
end EzoProvider.Interaction
