/-
This file says when a fallible computation succeeds: a sequence, a mapped result and a
computation with a mapped error succeed exactly when their parts do.
-/

import Mathlib.Data.List.Forall2

namespace Kepler.Result

variable {Failure Other Value Next : Type} {rest : Value → Except Failure Next}
  {first : Except Failure Value} {result : Next}

theorem bind_eq_ok :
    (first >>= rest) = .ok result ↔ ∃ value, first = .ok value ∧ rest value = .ok result := by
  cases first <;> simp [bind, Except.bind]

theorem exceptBind_eq_ok :
    first.bind rest = .ok result ↔ ∃ value, first = .ok value ∧ rest value = .ok result :=
  bind_eq_ok

variable {computation : Except Failure Value}

@[simp] theorem mapError_eq_ok {change : Failure → Other} {result : Value} :
    computation.mapError change = .ok result ↔ computation = .ok result := by
  cases computation with
  | error e =>
    change Except.error (change e) = Except.ok result ↔ _
    simp
  | ok value =>
    change Except.ok value = Except.ok result ↔ _
    simp

@[simp] theorem map_eq_ok {change : Value → Next} :
    computation.map change = .ok result ↔ ∃ value, computation = .ok value ∧
      change value = result := by
  cases computation <;> simp [Except.map]

theorem toOption_eq_some {result : Value} :
    computation.toOption = some result ↔ computation = .ok result := by
  cases computation <;> simp [Except.toOption]

section

variable {compute : Value → Except Failure Next} {values : List Value} {results : List Next}

theorem mapM_eq_ok : values.mapM compute = .ok results ↔
    List.Forall₂ (fun value result => compute value = .ok result) values results := by
  induction values generalizing results with
  | nil => simp [pure, Except.pure, eq_comm]
  | cons value rest inductionHypothesis =>
    simp only [List.mapM_cons, List.forall₂_cons_left_iff, bind_eq_ok, inductionHypothesis, pure,
      Except.pure, Except.ok.injEq]
    grind

theorem mem_of_mapM (success : values.mapM compute = .ok results) (result : Next) :
    result ∈ results ↔ ∃ value ∈ values, compute value = .ok result := by
  induction mapM_eq_ok.mp success with
  | nil => simp
  | cons computed others inductionHypothesis =>
    rw [List.mem_cons, inductionHypothesis (mapM_eq_ok.mpr others)]
    simp [computed, eq_comm]

theorem mapM_take (success : values.mapM compute = .ok results) (count : Nat) :
    (values.take count).mapM compute = .ok (results.take count) :=
  mapM_eq_ok.mpr (List.forall₂_take count (mapM_eq_ok.mp success))

end

end Kepler.Result
