/-
This file is about the queue of Kahn's algorithm when the nodes have an order and the place of a
node in the queue is found by a search for the first node that is not above it.

As long as the queue is descending, the search finds a place that keeps it so, and the result does
not depend on the order in which the nodes are released. A queue that is ascending at the beginning
does no harm if nothing is put into it before all but one of its nodes have been taken. In any other
queue the answer of the search is left open.
-/

import Kepler.Library.TopologicalOrder
import Mathlib.Data.List.Sort

namespace Kepler

open List Function

/-! ### Binary search -/

section Search

variable {Node : Type}

/-- The part of a list in which a binary search looks, by its begin and its size. -/
def narrow (test : Node → Bool) (list : List Node) : Nat → Nat → Nat → Nat
  | 0, base, _ => base
  | rounds + 1, base, size =>
    if size ≤ 1 then base
    else if list[base + size / 2]?.any test then
      narrow test list rounds (base + size / 2) (size - size / 2)
    else narrow test list rounds base (size - size / 2)

/-- `partition_point`: the number of nodes at the begin that pass a test, when all the others fail
it. -/
def partitionPoint (test : Node → Bool) (list : List Node) : Nat :=
  let base := narrow test list list.length 0 list.length
  if list[base]?.any test then base + 1 else base

variable {test : Node → Bool} {high low : List Node}

theorem any_getElem?_append (passed : ∀ node ∈ high, test node)
    (failed : ∀ node ∈ low, test node = false) (index : Nat) :
    (high ++ low)[index]?.any test = true ↔ index < high.length := by
  by_cases inside : index < high.length
  · rw [getElem?_append_left inside, getElem?_eq_getElem inside]
    exact iff_of_true (passed _ (getElem_mem inside)) inside
  · rw [getElem?_append_right (Nat.le_of_not_lt inside)]
    refine iff_of_false (fun passes => ?_) inside
    obtain ⟨node, found, passes⟩ := (Option.any_eq_true ..).mp passes
    rw [failed node (mem_of_getElem? found)] at passes
    cases passes

theorem narrow_spec (passed : ∀ node ∈ high, test node) (failed : ∀ node ∈ low, test node = false)
    {rounds base size : Nat} (enough : size ≤ rounds + 1) (above : base = 0 ∨ base < high.length)
    (below : high.length ≤ base + size) :
    (narrow test (high ++ low) rounds base size = 0 ∨
        narrow test (high ++ low) rounds base size < high.length) ∧
      high.length ≤ narrow test (high ++ low) rounds base size + 1 := by
  induction rounds generalizing base size with
  | zero => exact ⟨above, by rw [narrow]; omega⟩
  | succ rounds inductionHypothesis =>
    unfold narrow
    by_cases small : size ≤ 1
    · rw [if_pos small]
      exact ⟨above, by omega⟩
    · rw [if_neg small]
      by_cases passes : (high ++ low)[base + size / 2]?.any test = true
      · rw [if_pos passes]
        have inside := (any_getElem?_append passed failed _).mp passes
        exact inductionHypothesis (by omega) (.inr inside) (by omega)
      · rw [if_neg passes]
        have outside := mt (any_getElem?_append passed failed _).mpr passes
        exact inductionHypothesis (by omega) above (by omega)

theorem partitionPoint_append (passed : ∀ node ∈ high, test node)
    (failed : ∀ node ∈ low, test node = false) :
    partitionPoint test (high ++ low) = high.length := by
  have spec := @narrow_spec Node test high low passed failed (high ++ low).length 0
    (high ++ low).length (Nat.le_succ _) (.inl rfl) (by simp)
  unfold partitionPoint
  dsimp only
  generalize narrow test (high ++ low) (high ++ low).length 0 (high ++ low).length = base at spec ⊢
  have inside := @any_getElem?_append Node test high low passed failed base
  split
  · rename_i passes
    have := inside.mp passes
    omega
  · rename_i fails
    have := mt inside.mpr fails
    omega

theorem narrow_le (test : Node → Bool) (list : List Node) (rounds base size : Nat) :
    narrow test list rounds base size ≤ base + (size - 1) := by
  induction rounds generalizing base size with
  | zero => exact Nat.le_add_right ..
  | succ rounds inductionHypothesis =>
    unfold narrow
    split
    · exact Nat.le_add_right ..
    · split <;> exact (inductionHypothesis ..).trans (by omega)

theorem partitionPoint_le (test : Node → Bool) (list : List Node) :
    partitionPoint test list ≤ list.length := by
  have bound := narrow_le test list list.length 0 list.length
  unfold partitionPoint
  dsimp only
  generalize narrow test list list.length 0 list.length = base at bound ⊢
  split
  · rename_i passes
    obtain ⟨node, found, _⟩ := (Option.any_eq_true ..).mp passes
    exact (List.getElem?_eq_some_iff.mp found).1
  · omega

theorem insertIdx_length_append (high low : List Node) (node : Node) :
    (high ++ low).insertIdx high.length node = high ++ node :: low := by
  induction high with
  | nil => rfl
  | cons first rest inductionHypothesis => exact congrArg (first :: ·) inductionHypothesis

end Search

namespace Kahn

variable {Node : Type} [LinearOrder Node]

/-- A placement by a search for the first node of the queue that is not above the new one. -/
structure Search (Node : Type) [LinearOrder Node] extends Placement Node where
  found : ∀ high low node, (∀ other ∈ high, node < other) → (∀ other ∈ low, ¬ node < other) →
    position (high ++ low) node = high.length

def Search.binary : Search Node where
  position queue node := partitionPoint (fun other => node < other) queue
  inRange queue _ := partitionPoint_le _ queue
  found _ _ _ above rest := partitionPoint_append
    (fun other member => decide_eq_true (above other member))
    (fun other member => decide_eq_false (rest other member))

/-! ### Descending queues -/

abbrev Descending (queue : List Node) : Prop := queue.Pairwise (· > ·)

variable {nodes pending queue : List Node} {requires : Node → List Node} {search : Search Node}
  {progress : Progress Node} {node : Node}

theorem exists_split (descending : Descending queue) (node : Node) :
    ∃ high low, queue = high ++ low ∧ (∀ other ∈ high, node < other) ∧
      ∀ other ∈ low, ¬ node < other := by
  induction queue with
  | nil => exact ⟨[], [], rfl, fun _ member => absurd member not_mem_nil,
      fun _ member => absurd member not_mem_nil⟩
  | cons first rest inductionHypothesis =>
    obtain ⟨larger, rest_descending⟩ := pairwise_cons.mp descending
    by_cases above : node < first
    · obtain ⟨high, low, rfl, highs, lows⟩ := inductionHypothesis rest_descending
      exact ⟨first :: high, low, rfl, forall_mem_cons.mpr ⟨above, highs⟩, lows⟩
    · refine ⟨[], first :: rest, rfl, fun _ member => absurd member not_mem_nil, ?_⟩
      refine forall_mem_cons.mpr ⟨above, fun other member => ?_⟩
      exact fun below => above (below.trans (larger other member))

theorem descending_insertIdx (descending : Descending queue) (fresh : node ∉ queue) :
    Descending (queue.insertIdx (search.position queue node) node) := by
  obtain ⟨high, low, rfl, highs, lows⟩ := exists_split descending node
  rw [search.found high low node highs lows, insertIdx_length_append]
  obtain ⟨highDescending, lowDescending, across⟩ := pairwise_append.mp descending
  have lower : ∀ other ∈ low, other < node := fun other member =>
    lt_of_le_of_ne (not_lt.mp (lows other member))
      fun same => fresh (mem_append_right _ (same ▸ member))
  refine pairwise_append.mpr ⟨highDescending, pairwise_cons.mpr ⟨lower, lowDescending⟩, ?_⟩
  intro other member
  exact forall_mem_cons.mpr ⟨highs other member, across other member⟩

namespace Progress

theorem Sound.notMem_queue (sound : progress.Sound nodes requires (node :: pending)) :
    node ∉ progress.queue := by
  intro member
  have reached := (sound.reached node).mp (mem_append_right _ member)
  have counted := sound.counted node reached.1
  rw [count_cons_self] at counted
  omega

theorem descending_release (sound : progress.Sound nodes requires (node :: pending))
    (descending : Descending progress.queue) :
    Descending (progress.release search.toPlacement node).queue := by
  unfold release
  split
  · exact descending_insertIdx descending sound.notMem_queue
  · exact descending

theorem descending_releaseAll (sound : progress.Sound nodes requires pending)
    (descending : Descending progress.queue) :
    Descending (pending.foldl (release search.toPlacement) progress).queue := by
  induction pending generalizing progress with
  | nil => exact descending
  | cons node pending inductionHypothesis =>
    exact inductionHypothesis sound.release (descending_release sound descending)

theorem inDegree_releaseAll_eq_zero (placement : Placement Node)
    (zero : progress.inDegree node = 0) :
    (pending.foldl (release placement) progress).inDegree node = 0 := by
  induction pending generalizing progress with
  | nil => exact zero
  | cons released pending inductionHypothesis =>
    refine inductionHypothesis ?_
    change update progress.inDegree released _ node = 0
    by_cases same : node = released
    · rw [same, update_self, ← same, zero]
    · rw [update_of_ne same, zero]

theorem queue_releaseAll (placement : Placement Node)
    (remain : ∀ node ∈ pending, (pending.foldl (release placement) progress).inDegree node ≠ 0) :
    (pending.foldl (release placement) progress).queue = progress.queue := by
  induction pending generalizing progress with
  | nil => rfl
  | cons node pending inductionHypothesis =>
    obtain ⟨first, rest⟩ := forall_mem_cons.mp remain
    have more : progress.inDegree node - 1 ≠ 0 := by
      intro last
      have zero : (progress.release placement node).inDegree node = 0 := by
        change update progress.inDegree node _ node = 0
        rw [update_self, last]
      have zeroAtEnd : (pending.foldl (release placement)
          (progress.release ..)).inDegree node = 0 :=
        inDegree_releaseAll_eq_zero placement zero
      exact first zeroAtEnd
    exact (inductionHypothesis rest).trans (if_neg more)

end Progress

/-! ### Two runs side by side -/

/-- The same nodes with the same requirements, both in another order. -/
structure Rearranged (nodes others : List Node) (requires needs : Node → List Node) : Prop where
  nodes : others.Perm nodes
  requires : ∀ node, (needs node).Perm (requires node)

/-- Every node with requirements has one besides the late roots, which are those other than the
first two. -/
def Deferred (nodes roots : List Node) (requires : Node → List Node) : Prop :=
  ∀ node ∈ nodes, requires node ≠ [] → ¬ requires node ⊆ roots.drop 2

namespace Progress

/-- The queue is descending, or only roots have been taken out of it. -/
def Tidy (roots : List Node) (progress : Progress Node) : Prop :=
  Descending progress.queue ∨
    ∃ taken, roots = progress.queue ++ taken ∧ progress.result ⊆ taken

variable {others roots : List Node} {needs : Node → List Node} {other : Progress Node}

theorem Sound.inDegree_eq (sound : progress.Sound nodes requires []) (inside : node ∈ nodes) :
    progress.inDegree node = (requires node).countP (· ∉ progress.result) := by
  rw [sound.counted node inside, count_nil, Nat.zero_add]

/-- While at least two roots are left, nothing is put into the queue. -/
theorem queue_of_roots (deferred : Deferred nodes roots requires) {front taken : List Node}
    (sound : progress.Sound nodes requires (dependents nodes requires node))
    (queue : progress.queue = front) (split : roots = front ++ node :: taken)
    (left : 2 ≤ front.length) (within : progress.result ⊆ node :: taken)
    (placement : Placement Node) :
    ((dependents nodes requires node).foldl (release placement) progress).queue = front := by
  have late : node :: taken ⊆ roots.drop 2 := by
    rw [split, drop_append_of_le_length left]
    exact subset_append_right ..
  refine (queue_releaseAll placement fun released isDependent zero => ?_).trans queue
  have inside := dependents_subset isDependent
  have after : ((dependents ..).foldl (release placement) progress).Sound nodes
      requires [] := sound.releaseAll
  have ready := after.inDegree_eq inside
  rw [zero, result_releaseAll] at ready
  refine deferred released inside ?_ fun required isRequired => ?_
  · obtain ⟨name, _, mapped⟩ := mem_flatMap.mp isDependent
    obtain ⟨required, kept, rfl⟩ := mem_map.mp mapped
    exact ne_nil_of_mem (mem_of_mem_filter kept)
  · have := countP_eq_zero.mp ready.symm required isRequired
    exact late (within (by simpa using this))

theorem Tidy.front {front : List Node} (tidy : progress.Tidy roots)
    (queue : progress.queue = front ++ [node]) :
    Descending front ∨ ∃ taken, roots = front ++ node :: taken ∧ progress.result ⊆ taken ∧
      2 ≤ front.length := by
  obtain descending | ⟨taken, split, within⟩ := tidy
  · rw [queue] at descending
    exact .inl (pairwise_append.mp descending).1
  · rw [queue, append_assoc] at split
    by_cases few : front.length ≤ 1
    · refine .inl ?_
      match front, few with
      | [], _ => exact .nil
      | [_], _ => exact pairwise_singleton ..
    · exact .inr ⟨taken, split, within, by omega⟩

theorem visit_of_getLast? {placement : Placement Node}
    (last : progress.queue.getLast? = some node) :
    progress.visit nodes requires placement =
      (dependents nodes requires node).foldl (release placement)
        { progress with
          queue := progress.queue.dropLast, result := progress.result ++ [node] } := by
  rw [Progress.visit, last]

section

variable (rearranged : Rearranged nodes others requires needs)

include rearranged

omit [LinearOrder Node] in
theorem deferred_rearranged (deferred : Deferred nodes roots requires) :
    Deferred others roots needs := by
  intro node inside required late
  have same := rearranged.requires node
  refine deferred node (rearranged.nodes.mem_iff.mp inside) (fun none => required ?_)
    (List.Subset.trans same.symm.subset late)
  rw [none] at same
  exact same.eq_nil

variable (sound : progress.Sound nodes requires []) (sound' : other.Sound others needs [])
  (results : progress.result = other.result)

include sound sound' results

theorem mem_queue_iff (node : Node) :
    node ∈ progress.queue ↔ node ∈ other.queue := by
  have reached : node ∈ progress.result ++ progress.queue ↔ node ∈ other.result ++ other.queue := by
    rw [sound.reached, sound'.reached, rearranged.nodes.mem_iff]
    refine and_congr_right fun inside => ?_
    rw [sound.inDegree_eq inside, sound'.inDegree_eq (rearranged.nodes.mem_iff.mpr inside), results,
      (rearranged.requires node).countP_eq]
  have apart := (nodup_append.mp sound.nodup).2.2
  have apart' := (nodup_append.mp sound'.nodup).2.2
  rw [mem_append, mem_append, results] at reached
  constructor
  · intro member
    refine (reached.mp (.inr member)).resolve_left fun taken => ?_
    exact apart node (results ▸ taken) node member rfl
  · intro member
    refine (reached.mpr (.inr member)).resolve_left fun taken => ?_
    exact apart' node taken node member rfl

theorem queue_eq (descending : Descending progress.queue)
    (descending' : Descending other.queue) : progress.queue = other.queue := by
  have same : progress.queue.Perm other.queue :=
    (perm_ext_iff_of_nodup (nodup_append.mp sound.nodup).2.1
      (nodup_append.mp sound'.nodup).2.1).mpr
      (mem_queue_iff rearranged sound sound' results)
  exact same.eq_of_pairwise' descending descending'

variable (deferred : Deferred nodes roots requires) (nodup : nodes.Nodup)
  (queues : progress.queue = other.queue) (tidy : progress.Tidy roots)

include deferred nodup queues tidy

theorem visit_agree :
    (progress.visit nodes requires search.toPlacement).queue =
        (other.visit others needs search.toPlacement).queue ∧
      (progress.visit nodes requires search.toPlacement).result =
        (other.visit others needs search.toPlacement).result ∧
      (progress.visit nodes requires search.toPlacement).Tidy roots := by
  cases last : progress.queue.getLast? with
  | none =>
    have last' := last
    rw [queues] at last'
    rw [Progress.visit, Progress.visit, last, last']
    exact ⟨queues, results, tidy⟩
  | some node =>
    have last' := last
    rw [queues] at last'
    obtain ⟨front, queue⟩ := getLast?_eq_some_iff.mp last
    have nodup' := rearranged.nodes.nodup_iff.mpr nodup
    have taken := sound.take nodup last
    have taken' := sound'.take nodup' last'
    rw [visit_of_getLast? last, visit_of_getLast? last', result_releaseAll, result_releaseAll]
    rw [← queues, queue, dropLast_concat] at taken'
    rw [queue, dropLast_concat] at taken
    rw [← queues, queue, dropLast_concat]
    have grown : progress.result ++ [node] = other.result ++ [node] := by rw [results]
    obtain descending | ⟨popped, split, within, left⟩ := tidy.front queue
    · have ends := @descending_releaseAll _ _ _ _ _ search _ taken descending
      refine ⟨queue_eq rearranged taken.releaseAll taken'.releaseAll ?_ ends
        (descending_releaseAll taken' descending), grown, .inl ends⟩
      rw [result_releaseAll, result_releaseAll, results]
    · have covered : progress.result ++ [node] ⊆ node :: popped :=
        append_subset.mpr ⟨fun _ member => mem_cons_of_mem _ (within member),
          fun _ member => mem_singleton.mp member ▸ mem_cons_self⟩
      have ends := queue_of_roots deferred taken rfl split left covered search.toPlacement
      have ends' := queue_of_roots (deferred_rearranged rearranged deferred) taken' rfl split left
        (grown ▸ covered) search.toPlacement
      refine ⟨ends.trans ends'.symm, grown, .inr ⟨node :: popped, ?_, ?_⟩⟩
      · rw [ends, split]
      · rw [result_releaseAll]
        exact covered

theorem loop_agree (steps : Nat) :
    (progress.loop nodes requires search.toPlacement steps).result =
      (other.loop others needs search.toPlacement steps).result := by
  induction steps generalizing progress other with
  | zero => exact results
  | succ steps inductionHypothesis =>
    obtain ⟨queues, results, tidy⟩ := @visit_agree _ _ _ _ search _ _ _ _ _ rearranged
      sound sound' results deferred nodup queues tidy
    exact inductionHypothesis (sound.visit nodup)
      (sound'.visit (rearranged.nodes.nodup_iff.mpr nodup)) results queues tidy

end

end Progress

/-- The result is the same for every arrangement of the nodes and of their requirements, when the
queue begins with the roots and every other node requires something besides the late roots. -/
theorem sort_rearranged {others roots : List Node} {needs : Node → List Node}
    (rearranged : Rearranged nodes others requires needs) (nodup : nodes.Nodup)
    (starts : roots.Perm (nodes.filter fun node => requires node = []))
    (deferred : Deferred nodes roots requires) (search : Search Node) :
    sort others needs search.toPlacement roots = sort nodes requires search.toPlacement roots := by
  have starts' : roots.Perm (others.filter fun node => needs node = []) := by
    have same : ∀ node, (needs node = []) ↔ (requires node = []) := fun node => by
      rw [← length_eq_zero_iff, (rearranged.requires node).length_eq, length_eq_zero_iff]
    simp only [same]
    exact starts.trans (rearranged.nodes.symm.filter _)
  have nodup' := rearranged.nodes.nodup_iff.mpr nodup
  unfold sort
  rw [rearranged.nodes.length_eq]
  exact (Progress.loop_agree rearranged (sound_initially nodup starts)
    (sound_initially nodup' starts') rfl deferred nodup rfl (.inr ⟨[], (append_nil _).symm,
      nil_subset _⟩) nodes.length).symm

end Kahn

end Kepler
