import Mathlib.Data.List.Nodup
import Mathlib.Logic.Relation
import SyntheticRows.Proofs.Dependency.Order
/-!
# Tables cannot be ordered exactly when they wait for each other in a circle

A finished order ranks the tables, so no chain of requirements leads back to its start. A traversal
that meets a table in progress names the circle that it found; all names of the circle but the last
stand for different tables.
-/

namespace SyntheticRows.Dependency

open Relation

variable {nodes : List DependencyNode} {policy : MissingPolicy}

/-- Names along a circle: the last is the first one again, no other is repeated, and each is
followed by a dependency of the first table that bears it. -/
structure SimpleCycle (nodes : List DependencyNode) (names : List String) : Prop where
  length : 3 ≤ names.length
  closed : names.head? = names.getLast?
  nodup : names.dropLast.Nodup
  linked : names.IsChain fun name next =>
    ∃ node, nodes.find? (·.name == name) = some node ∧ next ∈ node.dependsOn

/-- A finished order ranks the positions along requirements. -/
theorem idxOf_lt_of_transGen {traversal : Traversal}
    (h : traverse nodes policy = .ok traversal) {later earlier : Nat}
    (hrequires : TransGen (Requires nodes) later earlier) :
    traversal.order.idxOf earlier < traversal.order.idxOf later := by
  obtain ⟨hsound, hall⟩ := sound_of_traverse_eq_ok h
  have hstep : ∀ {later earlier}, Requires nodes later earlier →
      traversal.order.idxOf earlier < traversal.order.idxOf later :=
    fun h => hsound.settled.idxOf_lt (hall _ h.waiting_lt_length) h
  induction hrequires with
  | single hrequires => exact hstep hrequires
  | tail _ hrequires ih => exact (hstep hrequires).trans ih

theorem transGen_of_isChain {first : Nat} {rest : List Nat}
    (h : (first :: rest ++ [first]).IsChain (Requires nodes)) :
    TransGen (Requires nodes) first first := by
  cases rest with
  | nil => exact .single (List.isChain_pair.mp h)
  | cons next rest =>
      have hlast : (next :: (rest ++ [first])).getLast (List.cons_ne_nil _ _) = first := by simp
      obtain ⟨hnext, hchain⟩ := List.isChain_cons_cons.mp h
      exact .head' hnext (List.relationReflTransGen_of_exists_isChain_cons _ hchain hlast)

/-- Each position of a circle is the first one of its name. -/
theorem indexOf?_nameAt_of_isChain {first : Nat} {rest : List Nat}
    (h : (first :: rest).IsChain (Requires nodes)) :
    ∀ position ∈ rest, indexOf? nodes (nameAt nodes position) = some position := by
  induction rest generalizing first with
  | nil => simp
  | cons next rest ih =>
      obtain ⟨hnext, hchain⟩ := List.isChain_cons_cons.mp h
      exact List.forall_mem_cons.mpr ⟨hnext.indexOf?_nameAt, ih hchain⟩

theorem exists_linked_of_requires {waiting required : Nat}
    (h : Requires nodes waiting required)
    (hindex : indexOf? nodes (nameAt nodes waiting) = some waiting) :
    ∃ node, nodes.find? (·.name == nameAt nodes waiting) = some node ∧
      nameAt nodes required ∈ node.dependsOn := by
  obtain ⟨node, hnode, dependency, hmem, _, hrequired⟩ := h
  refine ⟨node, ?_, by rwa [nameAt_of_indexOf? hrequired]⟩
  rw [List.find?_eq_bind_findIdx?_getElem?]
  change (indexOf? nodes (nameAt nodes waiting)).bind (nodes[·]?) = some node
  rw [hindex, Option.bind_some, hnode]

theorem simpleCycle_of_isChain {first : Nat} {rest : List Nat}
    (hchain : (first :: rest ++ [first]).IsChain (Requires nodes))
    (hnodup : (first :: rest).Nodup) :
    SimpleCycle nodes ((first :: rest ++ [first]).map (nameAt nodes)) := by
  have hindex : ∀ position ∈ first :: rest ++ [first],
      indexOf? nodes (nameAt nodes position) = some position := by
    have htail := indexOf?_nameAt_of_isChain hchain
    intro position hmem
    exact htail position (by simpa [or_comm] using hmem)
  refine ⟨?_, ?_, ?_, ?_⟩
  · cases rest with
    | nil => exact absurd rfl (List.isChain_pair.mp hchain).nameAt_ne
    | cons next rest => simp
  · rw [List.map_append, List.getLast?_append]
    simp
  · rw [List.map_append, List.map_singleton, List.dropLast_concat]
    refine List.Nodup.map_on (fun left hleft right hright heq => ?_) hnodup
    have hsame := hindex left (List.mem_append_left _ hleft)
    rw [heq, hindex right (List.mem_append_left _ hright)] at hsame
    exact (Option.some.inj hsame).symm
  · rw [List.isChain_map]
    exact hchain.imp_of_mem_imp fun waiting required hmem _ hrequires =>
      exists_linked_of_requires hrequires (hindex waiting hmem)

variable {α : Type} {node : α → DependencyNode} {items : List α}

theorem topologicalOrder_eq_error_iff {error : DependencyError} :
    topologicalOrder node items policy = .error error ↔
      traverse (items.map node) policy = .error error := by
  unfold topologicalOrder
  cases traverse (items.map node) policy <;> simp [bind, Except.bind]

/-- Where missing tables are skipped, an order fails to exist exactly when tables wait for each other
in a circle, and the only error is one that names such a circle. -/
theorem topologicalOrder_skip_fails_iff_cycle {α : Type} (node : α → DependencyNode)
    (items : List α) :
    ((∃ error, topologicalOrder node items .skip = .error error) ↔
      ∃ position, TransGen (Requires (items.map node)) position position) ∧
    ∀ error, topologicalOrder node items .skip = .error error →
      ∃ names, error = .cyclic names ∧ SimpleCycle (items.map node) names := by
  simp only [topologicalOrder_eq_error_iff]
  refine ⟨⟨?_, ?_⟩, ?_⟩
  · rintro ⟨error, herror⟩
    cases explained_of_traverse_eq_error herror with
    | cyclic hchain _ => exact ⟨_, transGen_of_isChain hchain⟩
  · rintro ⟨position, hcycle⟩
    cases htraverse : traverse (items.map node) .skip with
    | error error => exact ⟨error, rfl⟩
    | ok traversal => exact absurd (idxOf_lt_of_transGen htraverse hcycle) (Nat.lt_irrefl _)
  · intro error herror
    cases explained_of_traverse_eq_error herror with
    | cyclic hchain hnodup => exact ⟨_, rfl, simpleCycle_of_isChain hchain hnodup⟩

/-- The search starts at a second table of a name, which is no part of the circle. -/
theorem topologicalOrder_skip_names_cycle_behind_repeated_name :
    topologicalOrder id
        [⟨"x", []⟩, ⟨"x", ["y"]⟩, ⟨"y", ["x", "z"]⟩, ⟨"z", ["z", "y"]⟩] .skip =
      .error (.cyclic ["y", "z", "y"]) ∧
      SimpleCycle [⟨"x", []⟩, ⟨"x", ["y"]⟩, ⟨"y", ["x", "z"]⟩, ⟨"z", ["z", "y"]⟩]
        ["y", "z", "y"] := by
  have h : topologicalOrder id
        [⟨"x", []⟩, ⟨"x", ["y"]⟩, ⟨"y", ["x", "z"]⟩, ⟨"z", ["z", "y"]⟩] .skip =
      .error (.cyclic ["y", "z", "y"]) := by rfl
  obtain ⟨names, heq, hcycle⟩ := (topologicalOrder_skip_fails_iff_cycle id _).2 _ h
  cases heq
  exact ⟨h, hcycle⟩

end SyntheticRows.Dependency
