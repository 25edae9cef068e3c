import Mathlib.Data.Option.Basic
import SyntheticRows.Proofs.Dependency.Visit
import SyntheticRows.Proofs.Elementwise
/-!
# Orders are permutations that put requirements first

A successful traversal finishes each position once, so the items come out as a permutation of those
given, and each item stands behind the first item of every name it depends on.
-/

namespace SyntheticRows.Dependency

variable {nodes : List DependencyNode} {policy : MissingPolicy}

/-- In a settled order a required position comes first. -/
theorem Settled.idxOf_lt {order : List Nat} {later earlier : Nat} (h : Settled nodes order)
    (hmem : later ∈ order) (hrequires : Requires nodes later earlier) :
    order.idxOf earlier < order.idxOf later := by
  obtain ⟨front, back, rfl, hfresh⟩ := List.eq_append_cons_of_mem hmem
  have hfront : earlier ∈ front :=
    h front later ⟨back, by simp⟩ earlier hrequires
  rw [List.idxOf_append, if_pos hfront, List.idxOf_append, if_neg hfresh]
  have := List.idxOf_lt_length_of_mem hfront
  omega

/-- In a settled order no position stands behind one that requires it. -/
theorem Settled.pairwise {order : List Nat} (h : Settled nodes order) (hnodup : order.Nodup) :
    order.Pairwise fun earlier later => ¬Requires nodes earlier later := by
  rw [List.pairwise_iff_getElem]
  intro first second hfirst hsecond hlt hrequires
  have hbefore := h.idxOf_lt (List.getElem_mem hfirst) hrequires
  rw [hnodup.idxOf_getElem, hnodup.idxOf_getElem] at hbefore
  omega

/-- A traversal of all tables lists each position once. -/
theorem order_perm_range {traversal : Traversal} (h : traverse nodes policy = .ok traversal) :
    traversal.order.Perm (List.range nodes.length) := by
  obtain ⟨hsound, hall⟩ := sound_of_traverse_eq_ok h
  rw [List.perm_ext_iff_of_nodup hsound.nodup_order List.nodup_range]
  intro position
  rw [List.mem_range]
  exact ⟨fun hmem => ((hsound.mem_order position).mp hmem).1, hall position⟩

/-- Looking up the positions of a list loses none of them. -/
theorem map_some_filterMap_getElem? {α : Type} {items : List α} {positions : List Nat}
    (h : ∀ position ∈ positions, position < items.length) :
    (positions.filterMap (items[·]?)).map some = positions.map (items[·]?) := by
  induction positions with
  | nil => rfl
  | cons position positions ih =>
      obtain ⟨hlt, hrest⟩ := List.forall_mem_cons.mp h
      rw [List.filterMap_cons_some (List.getElem?_eq_getElem hlt)]
      simp [ih hrest, List.getElem?_eq_getElem hlt]

theorem filterMap_getElem?_range {α : Type} (items : List α) :
    (List.range items.length).filterMap (items[·]?) = items := by
  apply List.map_injective_iff.mpr (Option.some_injective α)
  rw [map_some_filterMap_getElem? (fun position => List.mem_range.mp)]
  apply List.ext_getElem?
  intro position
  by_cases hlt : position < items.length
  · simp [List.getElem?_range hlt, List.getElem?_eq_getElem hlt]
  · simp [Nat.le_of_not_lt hlt]

variable {α : Type} {node : α → DependencyNode} {items : List α} {ordered : DependencyOrder α}

theorem exists_traversal_of_topologicalOrder_eq_ok
    (h : topologicalOrder node items policy = .ok ordered) :
    ∃ traversal, traverse (items.map node) policy = .ok traversal ∧
      ordered.items = traversal.order.filterMap (items[·]?) ∧
      ordered.missing = traversal.missing := by
  unfold topologicalOrder at h
  cases htraverse : traverse (items.map node) policy with
  | error error => simp [htraverse, bind, Except.bind] at h
  | ok traversal =>
      simp only [htraverse, bind, Except.bind, Except.ok.injEq] at h
      exact ⟨traversal, rfl, by simp [← h], by simp [← h]⟩

theorem items_perm_of_topologicalOrder_eq_ok
    (h : topologicalOrder node items policy = .ok ordered) : ordered.items.Perm items := by
  obtain ⟨traversal, htraverse, hitems, _⟩ := exists_traversal_of_topologicalOrder_eq_ok h
  have hperm := (order_perm_range htraverse).filterMap (items[·]?)
  rwa [List.length_map, filterMap_getElem?_range, ← hitems] at hperm

theorem indexOf?_eq_some_of_nodup {position : Nat} {found : DependencyNode}
    (hnames : (nodes.map (·.name)).Nodup) (hfound : nodes[position]? = some found) :
    indexOf? nodes found.name = some position := by
  obtain ⟨hlt, rfl⟩ := List.getElem?_eq_some_iff.mp hfound
  refine List.findIdx?_eq_some_iff_getElem.mpr ⟨hlt, beq_self_eq_true _, fun other hother => ?_⟩
  have hne := List.pairwise_iff_getElem.mp hnames other position (by simpa using hother.trans hlt)
    (by simpa using hlt) hother
  simpa using hne

/-- Where names differ, no item stands behind one that depends on it. -/
theorem items_pairwise_of_topologicalOrder_eq_ok
    (h : topologicalOrder node items policy = .ok ordered)
    (hnames : (items.map fun item => (node item).name).Nodup) :
    ordered.items.Pairwise fun earlier later => (node later).name ∉ (node earlier).dependsOn := by
  obtain ⟨traversal, htraverse, hitems, _⟩ := exists_traversal_of_topologicalOrder_eq_ok h
  obtain ⟨hsound, _⟩ := sound_of_traverse_eq_ok htraverse
  have hnodes : ((items.map node).map (·.name)).Nodup := by rwa [List.map_map]
  rw [hitems, List.pairwise_filterMap]
  refine ((hsound.settled.pairwise hsound.nodup_order).and hsound.nodup_order).imp ?_
  rintro first second ⟨hfree, hne⟩ earlier hearlier later hlater hmem
  have hfirst : (items.map node)[first]? = some (node earlier) := by
    rw [List.getElem?_map, hearlier, Option.map_some]
  have hsecond : (items.map node)[second]? = some (node later) := by
    rw [List.getElem?_map, hlater, Option.map_some]
  have hindex := indexOf?_eq_some_of_nodup hnodes hsecond
  by_cases hname : (node later).name = (node earlier).name
  · rw [hname, indexOf?_eq_some_of_nodup hnodes hfirst] at hindex
    exact hne (Option.some.inj hindex)
  · exact hfree ⟨node earlier, hfirst, _, hmem, hname, hindex⟩

/-- Positions that are looked up on two sides give items that belong together. -/
theorem forall₂_filterMap_getElem? {β : Type} {R : α → β → Prop} {others : List β}
    (h : List.Forall₂ R items others) (positions : List Nat) :
    List.Forall₂ R (positions.filterMap (items[·]?)) (positions.filterMap (others[·]?)) := by
  induction positions with
  | nil => exact .nil
  | cons position positions ih =>
      by_cases hlt : position < items.length
      · have hlt' : position < others.length := h.length_eq ▸ hlt
        rw [List.filterMap_cons_some (List.getElem?_eq_getElem hlt),
          List.filterMap_cons_some (List.getElem?_eq_getElem hlt')]
        exact .cons (h.get hlt hlt') ih
      · have hge : items.length ≤ position := Nat.le_of_not_lt hlt
        rw [List.filterMap_cons_none (List.getElem?_eq_none hge),
          List.filterMap_cons_none (List.getElem?_eq_none (h.length_eq ▸ hge))]
        exact ih

/-- Items with the same nodes are put into the same order, or fail for the same reason. -/
theorem topologicalOrder_forall₂ {β : Type} {R : α → β → Prop} {node' : β → DependencyNode}
    {others : List β} (h : List.Forall₂ R items others)
    (hnode : ∀ item other, R item other → node item = node' other) (policy : MissingPolicy) :
    (∃ cause, topologicalOrder node items policy = .error cause ∧
      topologicalOrder node' others policy = .error cause) ∨
    ∃ ordered ordered', topologicalOrder node items policy = .ok ordered ∧
      topologicalOrder node' others policy = .ok ordered' ∧
      List.Forall₂ R ordered.items ordered'.items ∧ ordered.missing = ordered'.missing := by
  have hnodes : items.map node = others.map node' := map_eq_map_of_forall₂ (h.imp hnode)
  unfold topologicalOrder
  rw [hnodes]
  cases traverse (others.map node') policy with
  | error cause => exact .inl ⟨cause, rfl, rfl⟩
  | ok traversal =>
      exact .inr ⟨_, _, rfl, rfl, forall₂_filterMap_getElem? h traversal.order, rfl⟩

/-- Ordered items are the given ones, each position once, and the first item of a name stands before
all other items that depend on the name. -/
theorem topologicalOrder_permutes_requirements_first {α : Type} (node : α → DependencyNode)
    (items : List α) (policy : MissingPolicy) (ordered : DependencyOrder α)
    (h : topologicalOrder node items policy = .ok ordered) :
    ordered.items.Perm items ∧
      ∃ positions : List Nat,
        positions.Perm (List.range items.length) ∧
        ordered.items.map some = positions.map (items[·]?) ∧
        ∀ later item dependency earlier, items[later]? = some item →
          dependency ∈ (node item).dependsOn → dependency ≠ (node item).name →
          items.findIdx? (fun other => (node other).name == dependency) = some earlier →
          positions.idxOf earlier < positions.idxOf later := by
  refine ⟨items_perm_of_topologicalOrder_eq_ok h, ?_⟩
  obtain ⟨traversal, htraverse, hitems, _⟩ := exists_traversal_of_topologicalOrder_eq_ok h
  obtain ⟨hsound, hall⟩ := sound_of_traverse_eq_ok htraverse
  have hperm := order_perm_range htraverse
  rw [List.length_map] at hperm hall
  refine ⟨traversal.order, hperm, ?_, ?_⟩
  · rw [hitems]
    exact map_some_filterMap_getElem? fun position hmem =>
      List.mem_range.mp (hperm.mem_iff.mp hmem)
  · intro later item dependency earlier hitem hmem hne hindex
    have hlater : later ∈ traversal.order :=
      hall later (List.getElem?_eq_some_iff.mp hitem).1
    refine hsound.settled.idxOf_lt hlater ⟨node item, by simp [hitem], dependency, hmem, hne, ?_⟩
    rw [indexOf?, List.findIdx?_map]
    exact hindex

/-- Two tables of one name: the order table waits for the first of them. -/
theorem topologicalOrder_permutes_repeated_names :
    topologicalOrder id
        [⟨"orders", ["orders", "users", "ghosts"]⟩, ⟨"users", []⟩, ⟨"users", ["orders"]⟩] .skip =
      .ok ⟨[⟨"users", []⟩, ⟨"orders", ["orders", "users", "ghosts"]⟩, ⟨"users", ["orders"]⟩],
        [⟨"orders", "ghosts"⟩]⟩ ∧
      ∃ positions : List Nat, positions.Perm [0, 1, 2] ∧ positions.idxOf 1 < positions.idxOf 0 ∧
        positions.idxOf 0 < positions.idxOf 2 := by
  have h : topologicalOrder id
        [⟨"orders", ["orders", "users", "ghosts"]⟩, ⟨"users", []⟩, ⟨"users", ["orders"]⟩] .skip =
      .ok ⟨[⟨"users", []⟩, ⟨"orders", ["orders", "users", "ghosts"]⟩, ⟨"users", ["orders"]⟩],
        [⟨"orders", "ghosts"⟩]⟩ := by rfl
  obtain ⟨_, positions, hperm, _, hfirst⟩ :=
    topologicalOrder_permutes_requirements_first _ _ _ _ h
  exact ⟨h, positions, hperm,
    hfirst 0 _ "users" 1 rfl (by decide) (by decide) (by decide),
    hfirst 2 _ "orders" 0 rfl (by decide) (by decide) (by decide)⟩

end SyntheticRows.Dependency
