/-! What a computation that may fail ensures: whatever it results in has a property. A step of a
computation may use what the steps before it ensure. -/
namespace EntityDesign
variable {ε α β γ : Type}

/-- Every result of `x` has the property `P`. -/
def Ensures (x : Except ε α) (P : α → Prop) : Prop := ∀ a, x = .ok a → P a

namespace Ensures
variable {x : Except ε α} {P Q : α → Prop} {R : β → Prop}

theorem pure {a : α} (h : P a) : Ensures (Pure.pure a : Except ε α) P := by
  intro b hb
  cases hb
  exact h

theorem ok {a : α} (h : P a) : Ensures (.ok a : Except ε α) P := pure h

theorem error {e : ε} : Ensures (.error e) P := by
  intro a ha
  cases ha

theorem throw {e : ε} : Ensures (throw e : Except ε α) P := error

theorem trivial : Ensures x fun _ => True := fun _ _ => True.intro

theorem self : Ensures x fun a => x = .ok a := fun _ h => h

theorem imp (h : Ensures x P) (weaken : ∀ a, P a → Q a) : Ensures x Q :=
  fun a ha => weaken a (h a ha)

theorem bind {f : α → Except ε β} (first : Ensures x P) (next : ∀ a, P a → Ensures (f a) R) :
    Ensures (x >>= f) R := by
  intro b hb
  cases hx : x with
  | error e =>
    rw [hx] at hb
    cases hb
  | ok a =>
    rw [hx] at hb
    exact next a (first a hx) b hb

theorem throw_bind {e : ε} {f : α → Except ε β} : Ensures (Except.error e >>= f) R := error

theorem map {f : α → β} (h : Ensures x fun a => R (f a)) : Ensures (x.map f) R := by
  intro b hb
  cases hx : x with
  | error e =>
    rw [hx] at hb
    cases hb
  | ok a =>
    rw [hx] at hb
    cases hb
    exact h a hx

theorem mapError {δ : Type} {f : ε → δ} (h : Ensures x P) : Ensures (x.mapError f) P := by
  intro a ha
  cases hx : x with
  | error e =>
    rw [hx] at ha
    cases ha
  | ok b =>
    rw [hx] at ha
    cases ha
    exact h a hx

/-- What is ensured of every element is ensured of the results of a list. -/
theorem mapM {f : α → Except ε β} {l : List α} (each : ∀ a ∈ l, Ensures (f a) R) :
    Ensures (l.mapM f) fun bs => ∀ b ∈ bs, R b := by
  induction l with
  | nil => exact pure (by simp)
  | cons a l ih =>
    rw [List.mapM_cons]
    refine bind (each a List.mem_cons_self) fun b hb => ?_
    refine bind (ih fun c hc => each c (List.mem_cons_of_mem a hc)) fun bs hbs => ?_
    exact pure (List.forall_mem_cons.2 ⟨hb, hbs⟩)

end Ensures

end EntityDesign
