/-
This file is about the depth of a node in a graph of requirements: the length of the longest chain
of requirements that begins with the node. A requirement is never as deep as the node that requires
it, so a graph in which every node has a depth has no cycles.
-/

import Kepler.Library.TopologicalOrder
import Mathlib.Order.Bounds.Basic

namespace Kepler

variable {Node : Type} {requires : Node → List Node} {node required : Node} {depth : Nat}

/-- A chain of requirements that begins with a node, with its length. -/
inductive Chain (requires : Node → List Node) : Node → Nat → Prop where
  | here (node : Node) : Chain requires node 0
  | step {node required : Node} {length : Nat} (isRequired : required ∈ requires node)
      (rest : Chain requires required length) : Chain requires node (length + 1)

def IsDepth (requires : Node → List Node) (node : Node) (depth : Nat) : Prop :=
  IsGreatest {length | Chain requires node length} depth

theorem IsDepth.unique {other : Nat} (isDepth : IsDepth requires node depth)
    (isOther : IsDepth requires node other) : depth = other :=
  IsGreatest.unique isDepth isOther

theorem isDepth_zero (none : requires node = []) : IsDepth requires node 0 := by
  refine ⟨.here node, fun length chain => ?_⟩
  cases chain with
  | here => exact Nat.le_refl 0
  | step isRequired =>
    rw [none] at isRequired
    cases isRequired

theorem isDepth_succ (bounded : ∀ required ∈ requires node, ∃ below ≤ depth,
      IsDepth requires required below)
    (attained : ∃ required ∈ requires node, IsDepth requires required depth) :
    IsDepth requires node (depth + 1) := by
  obtain ⟨deepest, isRequired, isDepth⟩ := attained
  refine ⟨Chain.step isRequired isDepth.1, fun length chain => ?_⟩
  cases chain with
  | here => exact Nat.zero_le _
  | step isRequired rest =>
    obtain ⟨below, le, isBelow⟩ := bounded _ isRequired
    exact Nat.succ_le_succ ((isBelow.2 rest).trans le)

theorem IsDepth.lt {below : Nat} (isDepth : IsDepth requires node depth)
    (isRequired : required ∈ requires node) (isBelow : IsDepth requires required below) :
    below < depth :=
  isDepth.2 (Chain.step isRequired isBelow.1)

theorem IsDepth.exists_required (isDepth : IsDepth requires node (depth + 1))
    (depths : ∀ required ∈ requires node, ∃ below, IsDepth requires required below) :
    ∃ required ∈ requires node, IsDepth requires required depth := by
  have chain := isDepth.1
  cases chain with
  | step isRequired rest =>
    obtain ⟨below, isBelow⟩ := depths _ isRequired
    have same : below = depth :=
      Nat.le_antisymm (Nat.le_of_lt_succ (isDepth.lt isRequired isBelow)) (isBelow.2 rest)
    exact ⟨_, isRequired, same ▸ isBelow⟩

theorem acyclic_of_isDepth (depths : ∀ node, ∃ depth, IsDepth requires node depth) :
    Acyclic requires := by
  have deeper : ∀ required node, Relation.TransGen (fun required node => required ∈ requires node)
      required node → ∀ below depth, IsDepth requires required below → IsDepth requires node depth →
        below < depth := by
    intro required node path
    induction path with
    | single isRequired => exact fun _ _ isBelow isDepth => isDepth.lt isRequired isBelow
    | tail _ isRequired inductionHypothesis =>
      intro below depth isBelow isDepth
      obtain ⟨between, isBetween⟩ := depths _
      exact (inductionHypothesis below between isBelow isBetween).trans
        (isDepth.lt isRequired isBetween)
  intro node cycle
  obtain ⟨depth, isDepth⟩ := depths node
  exact Nat.lt_irrefl depth (deeper node node cycle depth depth isDepth isDepth)

theorem isDepth_congr {needs : Node → List Node}
    (same : ∀ node required, required ∈ needs node ↔ required ∈ requires node) (node : Node)
    (depth : Nat) : IsDepth needs node depth ↔ IsDepth requires node depth := by
  have chains : ∀ {first second : Node → List Node},
      (∀ node required, required ∈ first node → required ∈ second node) →
        ∀ node length, Chain first node length → Chain second node length := by
    intro first second within node length chain
    induction chain with
    | here node => exact .here node
    | step isRequired _ inductionHypothesis =>
      exact .step (within _ _ isRequired) inductionHypothesis
  have equal : {length | Chain needs node length} = {length | Chain requires node length} := by
    ext length
    exact ⟨chains (fun node required => (same ..).mp) node length,
      chains (fun node required => (same ..).mpr) node length⟩
  rw [IsDepth, IsDepth, equal]

end Kepler
