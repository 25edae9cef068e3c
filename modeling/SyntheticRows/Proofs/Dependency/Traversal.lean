import Mathlib.Data.List.Chain
import Mathlib.Data.List.Perm.Subperm
import SyntheticRows.Dependency.Order
/-!
# What a traversal keeps

Tables are known by their positions. A traversal is sound when its stack lists the positions in
progress, each waiting for the next one, and its order lists the finished positions, each behind all
that it waits for. Every step keeps this, whatever the dependencies look like: a step either goes on
with the same stack and a longer order, or stops with an error that the dependencies explain.
-/

namespace SyntheticRows

namespace Dependency

/-- One of the dependencies of the waiting table, its own name apart, names the required table. -/
def Requires (nodes : List DependencyNode) (waiting required : Nat) : Prop :=
  ∃ node, nodes[waiting]? = some node ∧ ∃ dependency ∈ node.dependsOn,
    dependency ≠ node.name ∧ indexOf? nodes dependency = some required

variable {nodes : List DependencyNode} {policy : MissingPolicy} {position required : Nat}
  {name dependency : String} {node : DependencyNode}

theorem exists_node_of_indexOf? (h : indexOf? nodes name = some position) :
    ∃ node, nodes[position]? = some node ∧ node.name = name := by
  obtain ⟨hlt, hname, _⟩ := List.findIdx?_eq_some_iff_getElem.mp h
  exact ⟨nodes[position], List.getElem?_eq_getElem hlt, by simpa using hname⟩

theorem nameAt_of_indexOf? (h : indexOf? nodes name = some position) :
    nameAt nodes position = name := by
  obtain ⟨node, hnode, hname⟩ := exists_node_of_indexOf? h
  simp [nameAt, hnode, hname]

theorem lt_length_of_indexOf? (h : indexOf? nodes name = some position) :
    position < nodes.length := by
  obtain ⟨node, hnode, _⟩ := exists_node_of_indexOf? h
  exact (List.getElem?_eq_some_iff.mp hnode).1

namespace Requires

theorem waiting_lt_length (h : Requires nodes position required) : position < nodes.length := by
  obtain ⟨_, hnode, _⟩ := h
  exact (List.getElem?_eq_some_iff.mp hnode).1

theorem lt_length (h : Requires nodes position required) : required < nodes.length := by
  obtain ⟨_, _, _, _, _, hindex⟩ := h
  exact lt_length_of_indexOf? hindex

/-- A required table is the first one of its name. -/
theorem indexOf?_nameAt (h : Requires nodes position required) :
    indexOf? nodes (nameAt nodes required) = some required := by
  obtain ⟨_, _, _, _, _, hindex⟩ := h
  rwa [nameAt_of_indexOf? hindex]

/-- Tables of one name never wait for each other. -/
theorem nameAt_ne (h : Requires nodes position required) :
    nameAt nodes position ≠ nameAt nodes required := by
  obtain ⟨node, hnode, dependency, _, hne, hindex⟩ := h
  rw [nameAt_of_indexOf? hindex]
  simpa [nameAt, hnode] using hne.symm

end Requires

/-- Each position of an order stands behind all that it waits for. -/
def Settled (nodes : List DependencyNode) (order : List Nat) : Prop :=
  ∀ front position, front ++ [position] <+: order →
    ∀ required, Requires nodes position required → required ∈ front

theorem Settled.concat {order : List Nat} (h : Settled nodes order)
    (hrequired : ∀ required, Requires nodes position required → required ∈ order) :
    Settled nodes (order ++ [position]) := by
  intro front last hprefix required hrequires
  rcases List.prefix_concat_iff.mp hprefix with heq | hprefix
  · obtain ⟨rfl, heq⟩ := List.append_inj' heq rfl
    obtain rfl : last = position := by simpa using heq
    exact hrequired required hrequires
  · exact h front last hprefix required hrequires

end Dependency

namespace Traversal

open Dependency

variable {nodes : List DependencyNode} {traversal : Traversal} {position : Nat}

theorem lt_length_of_mark_ne_done (h : traversal.mark position ≠ .done) :
    position < traversal.marks.length := by
  by_contra hge
  exact h (by simp [mark, List.getElem?_eq_none (Nat.le_of_not_lt hge)])

theorem getD_set_mark {marks : List Mark} (h : position < marks.length) (mark : Mark) (other : Nat) :
    (marks.set position mark).getD other .done =
      if other = position then mark else marks.getD other .done := by
  by_cases heq : other = position
  · subst heq
    simp [List.getElem?_set_self h]
  · simp [heq, List.getElem?_set_ne (Ne.symm heq)]

theorem mark_enter (h : position < traversal.marks.length) (other : Nat) :
    (traversal.enter position).mark other =
      if other = position then .inProgress else traversal.mark other :=
  getD_set_mark h .inProgress other

theorem mark_leave (h : position < traversal.marks.length) (other : Nat) :
    (traversal.leave position).mark other =
      if other = position then .done else traversal.mark other :=
  getD_set_mark h .done other

/-- Recording a missing dependency changes nothing else. -/
theorem exists_addMissing_eq (traversal : Traversal) (entry : MissingDependency) :
    ∃ missing, traversal.addMissing entry = { traversal with missing } := by
  refine ⟨(traversal.addMissing entry).missing, ?_⟩
  unfold addMissing
  split <;> rfl

@[simp]
theorem stack_addMissing (traversal : Traversal) (entry : MissingDependency) :
    (traversal.addMissing entry).stack = traversal.stack := by
  obtain ⟨missing, hmissing⟩ := traversal.exists_addMissing_eq entry
  rw [hmissing]

@[simp]
theorem order_addMissing (traversal : Traversal) (entry : MissingDependency) :
    (traversal.addMissing entry).order = traversal.order := by
  obtain ⟨missing, hmissing⟩ := traversal.exists_addMissing_eq entry
  rw [hmissing]

/-- The marks, the stack and the order tell the same story. -/
structure Sound (traversal : Traversal) (nodes : List DependencyNode) : Prop where
  size : traversal.marks.length = nodes.length
  mem_stack : ∀ position, position ∈ traversal.stack ↔ traversal.mark position = .inProgress
  mem_order : ∀ position, position ∈ traversal.order ↔
    position < nodes.length ∧ traversal.mark position = .done
  nodup_stack : traversal.stack.Nodup
  nodup_order : traversal.order.Nodup
  chain : traversal.stack.IsChain (Requires nodes)
  settled : Settled nodes traversal.order

theorem sound_start (nodes : List DependencyNode) : (start nodes.length).Sound nodes := by
  have hmark : ∀ position, (start nodes.length).mark position =
      if position < nodes.length then .unvisited else .done := by
    intro position
    simp only [mark, start, List.getD_eq_getElem?_getD, List.getElem?_replicate]
    split <;> rfl
  refine ⟨by simp [start], ?_, ?_, .nil, .nil, .nil, ?_⟩
  · intro position
    rw [hmark]
    split <;> simp [start]
  · intro position
    rw [hmark]
    split <;> simp_all [start]
  · intro front position hprefix
    simp [start] at hprefix

theorem Sound.enter (h : traversal.Sound nodes) (hmark : traversal.mark position = .unvisited)
    (hrequires : ∀ below ∈ traversal.stack.getLast?, Requires nodes below position) :
    (traversal.enter position).Sound nodes := by
  have hlt : position < traversal.marks.length :=
    lt_length_of_mark_ne_done (by simp [hmark])
  have hfresh : position ∉ traversal.stack := by simp [h.mem_stack, hmark]
  refine ⟨by simpa [Traversal.enter] using h.size, ?_, ?_, ?_, h.nodup_order, ?_, h.settled⟩
  · intro other
    rw [mark_enter hlt]
    by_cases heq : other = position
    · simp [Traversal.enter, heq]
    · simp [Traversal.enter, heq, h.mem_stack]
  · intro other
    rw [mark_enter hlt]
    by_cases heq : other = position
    · simp [Traversal.enter, heq, h.mem_order, hmark]
    · simp [Traversal.enter, heq, h.mem_order]
  · exact List.nodup_append.mpr ⟨h.nodup_stack, by simp, by grind⟩
  · exact h.chain.append (.singleton position) (by simpa using hrequires)

theorem Sound.leave {below : List Nat} (h : traversal.Sound nodes)
    (hstack : traversal.stack = below ++ [position])
    (hrequired : ∀ required, Requires nodes position required → required ∈ traversal.order) :
    (traversal.leave position).Sound nodes := by
  have hmark : traversal.mark position = .inProgress := by simp [← h.mem_stack, hstack]
  have hlt : position < traversal.marks.length := lt_length_of_mark_ne_done (by simp [hmark])
  have hnodup : (below ++ [position]).Nodup := hstack ▸ h.nodup_stack
  have hdrop : (traversal.leave position).stack = below := by simp [Traversal.leave, hstack]
  refine ⟨by simpa [Traversal.leave] using h.size, ?_, ?_, ?_, ?_, ?_, ?_⟩
  · intro other
    rw [mark_leave hlt, hdrop]
    by_cases heq : other = position
    · subst heq
      simpa using (List.nodup_append.mp hnodup).2.2 other
    · simp [heq, ← h.mem_stack, hstack]
  · intro other
    rw [mark_leave hlt]
    by_cases heq : other = position
    · simp [Traversal.leave, heq, h.size ▸ hlt]
    · simp [Traversal.leave, heq, h.mem_order]
  · rw [hdrop]
    exact (List.nodup_append.mp hnodup).1
  · have hfresh : position ∉ traversal.order := by simp [h.mem_order, hmark]
    exact List.nodup_append.mpr ⟨h.nodup_order, by simp, by grind⟩
  · rw [hdrop]
    exact (hstack ▸ h.chain).left_of_append
  · exact h.settled.concat hrequired

theorem Sound.addMissing (h : traversal.Sound nodes) (entry : MissingDependency) :
    (traversal.addMissing entry).Sound nodes := by
  obtain ⟨missing, hmissing⟩ := traversal.exists_addMissing_eq entry
  rw [hmissing]
  exact ⟨h.size, h.mem_stack, h.mem_order, h.nodup_stack, h.nodup_order, h.chain, h.settled⟩

/-- The tables in progress leave room for one that has no mark yet. -/
theorem Sound.length_stack_lt (h : traversal.Sound nodes)
    (hmark : traversal.mark position = .unvisited) : traversal.stack.length < nodes.length := by
  have hfresh : position ∉ traversal.stack := by simp [h.mem_stack, hmark]
  have hlt : position < nodes.length :=
    h.size ▸ lt_length_of_mark_ne_done (by simp [hmark])
  have hsubset : position :: traversal.stack ⊆ List.range nodes.length := by
    intro other hother
    rcases List.mem_cons.mp hother with rfl | hother
    · simpa using hlt
    · have hmark := (h.mem_stack other).mp hother
      have hlt : other < traversal.marks.length := lt_length_of_mark_ne_done (by simp [hmark])
      simpa [← h.size] using hlt
  have hlength := ((List.nodup_cons.mpr ⟨hfresh, h.nodup_stack⟩).subperm hsubset).length_le
  simpa [Nat.succ_le_iff] using hlength

end Traversal

end SyntheticRows
