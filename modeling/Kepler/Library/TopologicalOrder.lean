/-
This file is about lists in which every node comes after the nodes that it requires.

Kahn's algorithm finds such a list. It counts for each node the requirements that are not in the
result yet, and the nodes whose count is zero wait in a queue. A step takes the last node of the
queue over into the result and lowers the count of every node that requires it. The position in the
queue is left open, as it only decides between several good orders.

The loop ends after at most as many steps as there are nodes. The result then has all the nodes
exactly if no node requires itself in one step or more.
-/

import Mathlib.Data.List.Basic
import Mathlib.Data.List.Nodup
import Mathlib.Data.List.Perm.Basic
import Mathlib.Order.WellFoundedSet

namespace Kepler

open List Function

variable {Node : Type}

def Acyclic (requires : Node → List Node) : Prop :=
  ∀ node, ¬ Relation.TransGen (fun required node => required ∈ requires node) node node

theorem acyclic_congr {requires needs : Node → List Node}
    (same : ∀ node required, required ∈ needs node ↔ required ∈ requires node) :
    Acyclic needs ↔ Acyclic requires := by
  have equal : (fun required node => required ∈ needs node) =
      fun required node => required ∈ requires node := by
    funext required node
    exact propext (same ..)
  rw [Acyclic, Acyclic, equal]

/-- Every node of the list comes after the nodes that it requires. -/
def InOrder (requires : Node → List Node) (order : List Node) : Prop :=
  ∀ earlier node later, order = earlier ++ node :: later → requires node ⊆ earlier

/-- The list has every node once, after the nodes that it requires. -/
structure IsTopologicalOrder (nodes : List Node) (requires : Node → List Node)
    (order : List Node) : Prop where
  perm : order.Perm nodes
  inOrder : InOrder requires order

section Orders

variable {nodes order : List Node} {requires : Node → List Node} {node : Node} {Holds : Node → Prop}

theorem InOrder.left {rest : List Node} (inOrder : InOrder requires (order ++ rest)) :
    InOrder requires order := by
  intro earlier node later split
  refine inOrder earlier node (later ++ rest) ?_
  rw [split, append_assoc, cons_append]

theorem InOrder.last (inOrder : InOrder requires (order ++ [node])) :
    requires node ⊆ order :=
  inOrder order node [] rfl

theorem InOrder.concat (inOrder : InOrder requires order) (ready : requires node ⊆ order) :
    InOrder requires (order ++ [node]) := by
  intro earlier other later split
  rcases eq_nil_or_concat' later with rfl | ⟨front, last, rfl⟩
  · obtain ⟨rfl, same⟩ := append_inj' split rfl
    obtain rfl := singleton_inj.mp same
    exact ready
  · rw [← cons_append, ← append_assoc] at split
    exact inOrder earlier other front (append_inj' split rfl).1

/-- A judgement that only looks at the requirements of a node is right about every node, when the
nodes are judged in order. -/
theorem InOrder.judged [DecidableEq Node] {judge : (Node → Bool) → Node → Bool}
    (correct : ∀ known, ∀ node ∈ order,
      (∀ required ∈ requires node, known required ↔ Holds required) →
        (judge known node ↔ Holds node)) (known : Node → Bool) (inOrder : InOrder requires order) :
    ∀ node ∈ order, order.foldl (fun known node =>
      Function.update known node (judge known node)) known node ↔ Holds node := by
  induction order using List.reverseRecOn with
  | nil => exact fun node member => absurd member not_mem_nil
  | append_singleton order last inductionHypothesis =>
    have earlier := inductionHypothesis
      (fun known node member => correct known node (mem_append_left _ member)) inOrder.left
    intro node member
    rw [foldl_append, foldl_cons, foldl_nil]
    by_cases same : node = last
    · rw [same, update_self]
      exact correct _ last (mem_append_right _ (mem_singleton_self last))
        fun required isRequired => earlier required (inOrder.last isRequired)
    · rw [update_of_ne same]
      rcases mem_append.mp member with inside | isLast
      · exact earlier node inside
      · exact absurd (mem_singleton.mp isLast) same

/-- What has an order has no cycles: a requirement comes earlier in the order. -/
theorem IsTopologicalOrder.acyclic [DecidableEq Node]
    (isOrder : IsTopologicalOrder nodes requires order) (nodup : nodes.Nodup)
    (none_outside : ∀ node ∉ nodes, requires node = []) : Acyclic requires := by
  have earlier : ∀ required node, Relation.TransGen (fun required node => required ∈ requires node)
      required node → order.idxOf required < order.idxOf node := by
    intro required node path
    have edge : ∀ {required node}, required ∈ requires node →
        order.idxOf required < order.idxOf node := by
      intro required node member
      have inside : node ∈ order := by
        rw [isOrder.perm.mem_iff]
        by_contra outside
        rw [none_outside node outside] at member
        exact not_mem_nil member
      obtain ⟨front, later, split⟩ := append_of_mem inside
      have required_front := isOrder.inOrder front node later split member
      have distinct : order.Nodup := isOrder.perm.nodup_iff.mpr nodup
      rw [split] at distinct ⊢
      have node_front : node ∉ front := fun twice =>
        (nodup_append.mp distinct).2.2 node twice node mem_cons_self rfl
      rw [idxOf_append_of_mem required_front, idxOf_append_of_notMem node_front,
        idxOf_cons_self, Nat.add_zero]
      exact idxOf_lt_length_of_mem required_front
    induction path with
    | single member => exact edge member
    | tail _ member inductionHypothesis => exact inductionHypothesis.trans (edge member)
  exact fun node cycle => Nat.lt_irrefl _ (earlier node node cycle)

theorem Acyclic.induction (acyclic : Acyclic requires)
    (defined : ∀ node ∈ nodes, requires node ⊆ nodes)
    (passes : ∀ node ∈ nodes, (∀ required ∈ requires node, Holds required) → Holds node) :
    ∀ node ∈ nodes, Holds node := by
  let Before := Relation.TransGen fun required node => required ∈ requires node
  have : IsStrictOrder Node Before :=
    { irrefl := acyclic, trans := fun _ _ _ => Relation.TransGen.trans }
  have wellFounded : {node | node ∈ nodes}.WellFoundedOn Before :=
    (finite_toSet nodes).wellFoundedOn
  intro node member
  refine wellFounded.induction member fun node inside inductionHypothesis => ?_
  exact passes node inside fun required isRequired =>
    inductionHypothesis required (defined node inside isRequired) (.single isRequired)

end Orders

/-! ### The algorithm -/

namespace Kahn

variable [DecidableEq Node]

structure Placement (Node : Type) where
  position : List Node → Node → Nat
  inRange : ∀ queue node, position queue node ≤ queue.length

structure Progress (Node : Type) where
  inDegree : Node → Nat
  queue : List Node
  result : List Node := []

/-- One requirement of the node is in the result now. -/
def Progress.release (placement : Placement Node) (progress : Progress Node) (node : Node) :
    Progress Node :=
  { progress with
    inDegree := Function.update progress.inDegree node (progress.inDegree node - 1)
    queue := if progress.inDegree node - 1 = 0 then
        progress.queue.insertIdx (placement.position progress.queue node) node
      else progress.queue }

/-- The nodes that require a node, once for each time that they do. -/
def dependents (nodes : List Node) (requires : Node → List Node) (node : Node) : List Node :=
  nodes.flatMap fun name => ((requires name).filter (· = node)).map fun _ => name

/-- Takes the last node of the queue over into the result. -/
def Progress.visit (nodes : List Node) (requires : Node → List Node)
    (placement : Placement Node) (progress : Progress Node) : Progress Node :=
  match progress.queue.getLast? with
  | none => progress
  | some node => (dependents nodes requires node).foldl (release placement)
      { progress with queue := progress.queue.dropLast, result := progress.result ++ [node] }

def Progress.loop (nodes : List Node) (requires : Node → List Node)
    (placement : Placement Node) : Nat → Progress Node → Progress Node
  | 0, progress => progress
  | steps + 1, progress => loop nodes requires placement steps
      (progress.visit nodes requires placement)

/-- The result of the algorithm, for a queue with the nodes that require nothing. -/
def sort (nodes : List Node) (requires : Node → List Node) (placement : Placement Node)
    (queue : List Node) : List Node :=
  (Progress.loop nodes requires placement nodes.length
    { inDegree := fun node => (requires node).length, queue }).result

/-! ### What the loop maintains -/

/-- The counts are those of the requirements that are not in the result, and of the nodes that are
still to be released for the last one. Exactly the nodes without such requirements are in the result
or in the queue. -/
structure Progress.Sound (nodes : List Node) (requires : Node → List Node) (pending : List Node)
    (progress : Progress Node) : Prop where
  pending_subset : pending ⊆ nodes
  counted : ∀ node ∈ nodes, progress.inDegree node =
    pending.count node + (requires node).countP (· ∉ progress.result)
  reached : ∀ node, node ∈ progress.result ++ progress.queue ↔
    node ∈ nodes ∧ progress.inDegree node = 0
  nodup : (progress.result ++ progress.queue).Nodup
  inOrder : InOrder requires progress.result

namespace Progress

variable {nodes pending : List Node} {requires : Node → List Node} {placement : Placement Node}
  {progress : Progress Node} {node : Node} {other : Node}

@[simp]
theorem result_release (placement : Placement Node) (progress : Progress Node) (node : Node) :
    (progress.release placement node).result = progress.result := rfl

theorem mem_queue_release :
    other ∈ (progress.release placement node).queue ↔
      other ∈ progress.queue ∨ (other = node ∧ progress.inDegree node - 1 = 0) := by
  change other ∈ (if progress.inDegree node - 1 = 0 then _ else _) ↔ _
  split
  · rename_i last
    rw [mem_insertIdx (placement.inRange ..)]
    simp only [last, and_true]
    exact or_comm
  · rename_i more
    simp only [more, and_false, or_false]

theorem Sound.release (sound : progress.Sound nodes requires (node :: pending)) :
    (progress.release placement node).Sound nodes requires pending := by
  have inside : node ∈ nodes := sound.pending_subset mem_cons_self
  have counted := sound.counted node inside
  rw [count_cons_self] at counted
  -- The node has an open requirement, so it is neither in the result nor in the queue.
  have unreached : node ∉ progress.result ++ progress.queue := by
    rw [sound.reached]
    omega
  refine
    { pending_subset := fun _ member => sound.pending_subset (mem_cons_of_mem _ member)
      counted := fun other isNode => ?_
      reached := fun other => ?_
      nodup := ?_
      inOrder := sound.inOrder }
  · change update progress.inDegree node _ other = _
    by_cases same : other = node
    · subst same
      rw [update_self, counted]
      exact Nat.add_right_comm .. ▸ rfl
    · rw [update_of_ne same, sound.counted other isNode,
        count_cons_of_ne (Ne.symm same)]
      rfl
  · rw [mem_append, mem_queue_release, result_release]
    change _ ↔ _ ∧ update progress.inDegree node _ other = 0
    by_cases same : other = node
    · subst same
      rw [update_self]
      have notResult : other ∉ progress.result := fun member =>
        unreached (mem_append_left _ member)
      have notQueue : other ∉ progress.queue := fun member =>
        unreached (mem_append_right _ member)
      simp only [notResult, notQueue, inside, false_or, true_and]
    · rw [update_of_ne same, ← sound.reached, mem_append]
      simp only [same, false_and, or_false]
  · change (progress.result ++ if progress.inDegree node - 1 = 0 then _ else _).Nodup
    split
    · have moved : (progress.result ++
          progress.queue.insertIdx (placement.position progress.queue node) node).Perm
            (node :: (progress.result ++ progress.queue)) :=
        ((perm_insertIdx node progress.queue (placement.inRange ..)).append_left _).trans
          perm_middle
      exact moved.nodup_iff.mpr (nodup_cons.mpr ⟨unreached, sound.nodup⟩)
    · exact sound.nodup

theorem Sound.releaseAll (sound : progress.Sound nodes requires pending) :
    (pending.foldl (Progress.release placement) progress).Sound nodes requires [] := by
  induction pending generalizing progress with
  | nil => exact sound
  | cons node pending inductionHypothesis => exact inductionHypothesis sound.release

theorem dependents_subset : dependents nodes requires node ⊆ nodes := by
  intro other member
  obtain ⟨name, inside, mapped⟩ := mem_flatMap.mp member
  obtain ⟨_, _, rfl⟩ := mem_map.mp mapped
  exact inside

theorem count_dependents (nodup : nodes.Nodup) (inside : other ∈ nodes) :
    (dependents nodes requires node).count other = (requires other).count node := by
  induction nodes with
  | nil => cases inside
  | cons first rest inductionHypothesis =>
    obtain ⟨fresh, distinct⟩ := nodup_cons.mp nodup
    change (((requires first).filter (· = node)).map (fun _ => first) ++
      dependents rest requires node).count other = _
    rw [count_append, map_const', count_replicate]
    rcases mem_cons.mp inside with rfl | later
    · have absent : (dependents rest requires node).count other = 0 :=
        count_eq_zero.mpr fun member => fresh (dependents_subset member)
      rw [absent, beq_self_eq_true, if_pos rfl, Nat.add_zero, count_eq_length_filter]
      rfl
    · have differs : (first == other) = false := by
        rw [beq_eq_false_iff_ne]
        rintro rfl
        exact fresh later
      rw [differs, if_neg Bool.false_ne_true, Nat.zero_add, inductionHypothesis distinct later]

theorem countP_concat (list result : List Node) (fresh : node ∉ result) :
    list.countP (· ∉ result) = list.count node + list.countP (· ∉ result ++ [node]) := by
  induction list with
  | nil => rfl
  | cons first rest inductionHypothesis =>
    rw [countP_cons, countP_cons, count_cons, inductionHypothesis]
    by_cases same : first = node
    · subst same
      simp [fresh]
      omega
    · simp [same]
      omega

theorem Sound.take (sound : progress.Sound nodes requires []) (nodup : nodes.Nodup)
    (last : progress.queue.getLast? = some node) :
    ({ progress with
        queue := progress.queue.dropLast
        result := progress.result ++ [node] } : Progress Node).Sound nodes requires
      (dependents nodes requires node) := by
  obtain ⟨front, queue⟩ := getLast?_eq_some_iff.mp last
  have reached := (sound.reached node).mp (by simp [queue])
  have distinct := sound.nodup
  rw [queue, ← append_assoc] at distinct
  have fresh : node ∉ progress.result := by
    intro member
    exact (nodup_append.mp distinct).2.2 node (mem_append_left _ member) node
      (mem_singleton_self node) rfl
  have ready : requires node ⊆ progress.result := by
    have none := sound.counted node reached.1
    rw [reached.2, count_nil, Nat.zero_add] at none
    intro required isRequired
    have := countP_eq_zero.mp none.symm required isRequired
    simpa using this
  refine
    { pending_subset := dependents_subset
      counted := fun other inside => ?_
      reached := fun other => ?_
      nodup := ?_
      inOrder := sound.inOrder.concat ready }
  · rw [count_dependents nodup inside, ← countP_concat _ _ fresh]
    have counted := sound.counted other inside
    rwa [count_nil, Nat.zero_add] at counted
  · rw [queue, dropLast_concat, ← sound.reached, queue]
    simp only [mem_append, mem_singleton]
    tauto
  · rw [queue, dropLast_concat]
    have moved :
        (progress.result ++ [node] ++ front).Perm (progress.result ++ front ++ [node]) := by
      rw [append_assoc, append_assoc]
      exact perm_append_comm.append_left _
    exact moved.nodup_iff.mpr distinct

theorem Sound.visit (sound : progress.Sound nodes requires []) (nodup : nodes.Nodup) :
    (progress.visit nodes requires placement).Sound nodes requires [] := by
  unfold Progress.visit
  split
  · exact sound
  · rename_i node last
    exact (sound.take nodup last).releaseAll

theorem result_releaseAll (released : List Node) (progress : Progress Node) :
    (released.foldl (Progress.release placement) progress).result = progress.result := by
  induction released generalizing progress with
  | nil => rfl
  | cons node released inductionHypothesis => exact inductionHypothesis _

theorem loop_of_queue_eq_nil (empty : progress.queue = []) (steps : Nat) :
    progress.loop nodes requires placement steps = progress := by
  have visited : progress.visit nodes requires placement = progress := by
    rw [Progress.visit, empty]
    rfl
  induction steps with
  | zero => rfl
  | succ steps inductionHypothesis => rw [Progress.loop, visited, inductionHypothesis]

variable (placement) in
theorem Sound.loop (nodup : nodes.Nodup) {steps : Nat} (sound : progress.Sound nodes requires [])
    (enough : nodes.length ≤ progress.result.length + steps) :
    (progress.loop nodes requires placement steps).Sound nodes requires [] ∧
      (progress.loop nodes requires placement steps).queue = [] := by
  induction steps generalizing progress with
  | zero =>
    -- The result has all the nodes, and those in the queue would be others.
    have within : progress.result ++ progress.queue ⊆ nodes := fun node member =>
      ((sound.reached node).mp member).1
    have bound := (sound.nodup.subperm within).length_le
    rw [length_append] at bound
    have empty : progress.queue.length = 0 := by omega
    exact ⟨sound, length_eq_zero_iff.mp empty⟩
  | succ steps inductionHypothesis =>
    cases last : progress.queue.getLast? with
    | none =>
      have empty := getLast?_eq_none_iff.mp last
      rw [loop_of_queue_eq_nil empty]
      exact ⟨sound, empty⟩
    | some node =>
      refine inductionHypothesis (sound.visit nodup) ?_
      have grown : (progress.visit nodes requires placement).result =
          progress.result ++ [node] := by
        rw [Progress.visit, last]
        exact result_releaseAll ..
      rw [grown, length_append, length_singleton]
      omega

end Progress

/-! ### The result -/

section Result

variable {nodes queue : List Node} {requires : Node → List Node} (placement : Placement Node)
  (nodup : nodes.Nodup) (starts : queue.Perm (nodes.filter fun node => requires node = []))

include nodup starts

theorem sound_initially :
    ({ inDegree := fun node => (requires node).length, queue } : Progress Node).Sound nodes
      requires [] where
  pending_subset := nil_subset _
  counted node _ := by simp
  reached node := by
    rw [nil_append, starts.mem_iff, mem_filter, length_eq_zero_iff,
      decide_eq_true_iff]
  nodup := starts.nodup_iff.mpr (nodup.filter _)
  inOrder earlier node later split := by simp at split

/-- The result is in order, and has a node as soon as it has what the node requires. -/
theorem sort_spec :
    InOrder requires (sort nodes requires placement queue) ∧
      (sort nodes requires placement queue).Nodup ∧
      sort nodes requires placement queue ⊆ nodes ∧
      ∀ node ∈ nodes, requires node ⊆ sort nodes requires placement queue →
        node ∈ sort nodes requires placement queue := by
  obtain ⟨sound, empty⟩ := (sound_initially nodup starts).loop placement nodup
    (Nat.le_add_left nodes.length 0)
  have distinct := sound.nodup
  have reached := sound.reached
  rw [empty, append_nil] at distinct reached
  refine ⟨sound.inOrder, distinct, fun node member => ((reached node).mp member).1,
    fun node inside ready => (reached node).mpr ⟨inside, ?_⟩⟩
  rw [sound.counted node inside, count_nil, Nat.zero_add]
  refine countP_eq_zero.mpr fun required isRequired => ?_
  rw [decide_eq_true_iff, not_not]
  exact ready isRequired

theorem isTopologicalOrder_sort
    (complete : (sort nodes requires placement queue).length = nodes.length) :
    IsTopologicalOrder nodes requires (sort nodes requires placement queue) := by
  obtain ⟨inOrder, distinct, within, _⟩ := sort_spec placement nodup starts
  exact ⟨(distinct.subperm within).perm_of_length_le complete.ge, inOrder⟩

theorem length_sort_eq_iff (defined : ∀ node ∈ nodes, requires node ⊆ nodes)
    (none_outside : ∀ node ∉ nodes, requires node = []) :
    (sort nodes requires placement queue).length = nodes.length ↔ Acyclic requires := by
  constructor
  · intro complete
    exact (isTopologicalOrder_sort placement nodup starts complete).acyclic nodup none_outside
  · intro acyclic
    obtain ⟨_, distinct, within, closed⟩ := sort_spec placement nodup starts
    have all := acyclic.induction defined closed
    exact Nat.le_antisymm (distinct.subperm within).length_le (nodup.subperm all).length_le

end Result

end Kahn

end Kepler
