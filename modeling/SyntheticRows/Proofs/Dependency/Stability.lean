import SyntheticRows.Proofs.Dependency.Cycle
import SyntheticRows.Proofs.Dependency.Policies
/-!
# Ordered items keep their order

Where each item stands behind the items that it depends on, every visit finds its dependencies
finished and finishes its own table alone, so the tables are finished in the order given. An order is
arranged in this way, since the first item of a name in the order is at least as early as the one
that the name stood for before. So it is a fixed point.
-/

namespace SyntheticRows.Dependency

open Traversal

variable {nodes : List DependencyNode} {node : DependencyNode} {traversal : Traversal}
  {position : Nat}

/-! ### Visits that find all dependencies finished -/

theorem follow_of_done (visit : Nat → Traversal → Except DependencyError Traversal)
    (dependency : String)
    (hdone : ∀ required, dependency ≠ node.name → indexOf? nodes dependency = some required →
      traversal.mark required = .done) :
    ∃ missing, follow nodes .skip visit node.name dependency traversal =
      .ok { traversal with missing } := by
  unfold follow
  by_cases hname : dependency = node.name
  · rw [if_pos (by simpa using hname)]
    exact ⟨traversal.missing, rfl⟩
  rw [if_neg (by simpa using hname)]
  cases hindex : indexOf? nodes dependency with
  | none =>
      obtain ⟨missing, hmissing⟩ := traversal.exists_addMissing_eq ⟨node.name, dependency⟩
      exact ⟨missing, congrArg Except.ok hmissing⟩
  | some required =>
      simp only [hdone required hname hindex]
      exact ⟨traversal.missing, rfl⟩

theorem followAll_of_done (visit : Nat → Traversal → Except DependencyError Traversal)
    (hnode : nodes[position]? = some node) (dependencies : List String)
    (hsubset : dependencies ⊆ node.dependsOn) (traversal : Traversal)
    (hdone : ∀ required, Requires nodes position required → traversal.mark required = .done) :
    ∃ missing, followAll nodes .skip visit node.name dependencies traversal =
      .ok { traversal with missing } := by
  induction dependencies generalizing traversal with
  | nil => exact ⟨traversal.missing, rfl⟩
  | cons dependency dependencies ih =>
      obtain ⟨hmem, hsubset⟩ := List.cons_subset.mp hsubset
      obtain ⟨missing, hfollow⟩ := follow_of_done visit dependency
        fun required hne hindex => hdone required ⟨node, hnode, dependency, hmem, hne, hindex⟩
      unfold followAll
      rw [hfollow]
      exact ih hsubset { traversal with missing } hdone

/-- A visit behind all that its table depends on finishes this table alone. -/
theorem visit_of_done {depth : Nat} (hdepth : 0 < depth) (hlt : position < nodes.length)
    (hmark : traversal.mark position = .unvisited)
    (hdone : ∀ required, Requires nodes position required → traversal.mark required = .done) :
    ∃ after, visit nodes .skip depth position traversal = .ok after ∧
      after.order = traversal.order ++ [position] := by
  obtain ⟨depth, rfl⟩ := Nat.exists_eq_add_one_of_ne_zero hdepth.ne'
  have hnode : nodes[position]? = some nodes[position] := List.getElem?_eq_getElem hlt
  have hentered : ∀ required, Requires nodes position required →
      (traversal.enter position).mark required = .done := by
    intro required hrequires
    have hother : required ≠ position := by
      rintro rfl
      cases hmark.symm.trans (hdone required hrequires)
    rw [mark_enter (lt_length_of_mark_ne_done (by simp [hmark])), if_neg hother]
    exact hdone required hrequires
  obtain ⟨missing, hfollowed⟩ := followAll_of_done (visit nodes .skip depth) hnode
    nodes[position].dependsOn (List.Subset.refl _) (traversal.enter position) hentered
  refine ⟨{ traversal.enter position with missing }.leave position, ?_, rfl⟩
  simp only [visit, hnode, hfollowed]
  rfl

theorem mark_eq_unvisited (h : traversal.Sound nodes) (hstack : traversal.stack = [])
    (hlt : position < nodes.length) (hfresh : position ∉ traversal.order) :
    traversal.mark position = .unvisited := by
  cases hmark : traversal.mark position with
  | unvisited => rfl
  | inProgress =>
      have hmem := (h.mem_stack position).mpr hmark
      simp [hstack] at hmem
  | done => exact absurd ((h.mem_order position).mpr ⟨hlt, hmark⟩) hfresh

/-- Positions that require earlier ones only are finished one after the other. -/
theorem visitAll_of_requires_earlier
    (hearlier : ∀ later earlier, Requires nodes later earlier → earlier < later) (count : Nat)
    {first : Nat} (hcount : first + count ≤ nodes.length) (h : traversal.Sound nodes)
    (hstack : traversal.stack = []) (horder : traversal.order = List.range first) :
    ∃ after, visitAll nodes .skip (List.range' first count) traversal = .ok after ∧
      after.order = List.range (first + count) := by
  induction count generalizing first traversal with
  | zero => exact ⟨traversal, rfl, horder⟩
  | succ count ih =>
      have hlt : first < nodes.length := by omega
      have hmark : traversal.mark first = .unvisited :=
        mark_eq_unvisited h hstack hlt (by simp [horder])
      have hdone : ∀ required, Requires nodes first required →
          traversal.mark required = .done := by
        intro required hrequires
        refine ((h.mem_order required).mp ?_).2
        simpa [horder] using hearlier first required hrequires
      obtain ⟨after, hvisit, hafter⟩ :=
        visit_of_done (Nat.zero_lt_of_lt hlt) hlt hmark hdone
      have hdelivers : Delivers nodes .skip traversal (first ∈ ·.order) (.ok after) :=
        hvisit ▸ visit_delivers nodes.length first traversal h hmark (by simp [hstack])
          (Nat.le_add_right _ _)
      obtain ⟨hcontinues, _⟩ := hdelivers
      rw [List.range'_succ]
      simp only [visitAll, if_pos hmark, hvisit]
      have hlonger : after.order = List.range (first + 1) := by
        rw [hafter, horder, List.range_succ]
      have hrest := ih (by omega) hcontinues.sound (hcontinues.stack.trans hstack) hlonger
      rwa [Nat.add_right_comm, Nat.add_assoc] at hrest

theorem traverse_of_requires_earlier
    (hearlier : ∀ later earlier, Requires nodes later earlier → earlier < later) :
    ∃ after, traverse nodes .skip = .ok after ∧ after.order = List.range nodes.length := by
  have hcount : 0 + nodes.length ≤ nodes.length := by omega
  have h := visitAll_of_requires_earlier hearlier nodes.length hcount (sound_start nodes) rfl rfl
  rwa [Nat.zero_add, ← List.range_eq_range'] at h

/-! ### Arranged items -/

variable {α : Type} {view : α → DependencyNode} {items : List α} {policy : MissingPolicy}
  {ordered : DependencyOrder α}

/-- Each item stands behind the first item of every other name that it depends on. -/
def Arranged (view : α → DependencyNode) (items : List α) : Prop :=
  ∀ later : Fin items.length, ∀ dependency ∈ (view items[later]).dependsOn,
    dependency ≠ (view items[later]).name →
    ∀ earlier ∈ items.findIdx? (fun other => (view other).name == dependency), earlier < later.val

instance (view : α → DependencyNode) (items : List α) : Decidable (Arranged view items) :=
  inferInstanceAs (Decidable (∀ _ : Fin items.length, _))

theorem indexOf?_map (view : α → DependencyNode) (items : List α) (dependency : String) :
    indexOf? (items.map view) dependency =
      items.findIdx? (fun other => (view other).name == dependency) := by
  rw [indexOf?, List.findIdx?_map]
  rfl

theorem Arranged.lt_of_requires (h : Arranged view items) {later earlier : Nat}
    (hrequires : Requires (items.map view) later earlier) : earlier < later := by
  obtain ⟨node, hnode, dependency, hmem, hne, hindex⟩ := hrequires
  rw [List.getElem?_map] at hnode
  obtain ⟨item, hitem, rfl⟩ := Option.map_eq_some_iff.mp hnode
  obtain ⟨hlater, rfl⟩ := List.getElem?_eq_some_iff.mp hitem
  exact h ⟨later, hlater⟩ dependency hmem hne earlier (indexOf?_map view items dependency ▸ hindex)

/-- An arranged list keeps its order, or the strict policy misses a table. -/
theorem topologicalOrder_of_arranged (h : Arranged view items) (policy : MissingPolicy) :
    (policy = .fail ∧ ∃ entry, topologicalOrder view items policy = .error (.missing entry)) ∨
      ∃ ordered, topologicalOrder view items policy = .ok ordered ∧ ordered.items = items := by
  obtain ⟨after, hskip, horder⟩ := traverse_of_requires_earlier fun _ _ => h.lt_of_requires
  have hitems : after.order.filterMap (items[·]?) = items := by
    rw [horder, List.length_map, filterMap_getElem?_range]
  cases policy with
  | skip =>
      refine .inr ⟨⟨_, after.missing⟩, ?_, hitems⟩
      unfold topologicalOrder
      rw [hskip]
      rfl
  | fail =>
      have hagree := traverse_agree (items.map view)
      unfold topologicalOrder
      generalize traverse (items.map view) .fail = strict at hagree ⊢
      rw [hskip] at hagree
      cases hagree with
      | same => exact .inr ⟨⟨_, after.missing⟩, rfl, hitems⟩
      | missing => exact .inl ⟨rfl, _, rfl⟩

theorem getElem?_filterMap_getElem? {positions : List Nat}
    (h : ∀ position ∈ positions, position < items.length) (place : Nat) :
    (positions.filterMap (items[·]?))[place]? = positions[place]?.bind (items[·]?) := by
  have hplace := congrArg (fun found => found[place]?) (map_some_filterMap_getElem? h)
  simp only [List.getElem?_map] at hplace
  cases hposition : positions[place]? with
  | none => simpa [hposition] using hplace
  | some position =>
      rw [hposition, Option.map_some] at hplace
      obtain ⟨item, hitem, hfound⟩ := Option.map_eq_some_iff.mp hplace
      rw [hitem, Option.bind_some, hfound]

/-- Nothing that satisfies a test stands in front of the first thing found by it. -/
theorem le_of_findIdx?_eq_some {test : α → Bool} {first place : Nat} {item : α}
    (hfirst : items.findIdx? test = some first) (hitem : items[place]? = some item)
    (htest : test item = true) : first ≤ place := by
  obtain ⟨_, _, hleast⟩ := List.findIdx?_eq_some_iff_getElem.mp hfirst
  obtain ⟨_, rfl⟩ := List.getElem?_eq_some_iff.mp hitem
  exact Nat.le_of_not_lt fun hlt => hleast place hlt htest

/-- The items of an order are arranged, for what names stand for among them. -/
theorem arranged_of_topologicalOrder_eq_ok (h : topologicalOrder view items policy = .ok ordered) :
    Arranged view ordered.items := by
  have hperm := items_perm_of_topologicalOrder_eq_ok h
  obtain ⟨traversal, htraverse, hitems, _⟩ := exists_traversal_of_topologicalOrder_eq_ok h
  obtain ⟨hsound, hall⟩ := sound_of_traverse_eq_ok htraverse
  have hplaces : ∀ place : Nat,
      ordered.items[place]? = traversal.order[place]?.bind (items[·]?) := by
    rw [hitems]
    refine getElem?_filterMap_getElem? fun position hposition => ?_
    simpa using ((hsound.mem_order position).mp hposition).1
  rintro ⟨later, hlength⟩ dependency hmem hne earlier hfind
  have hitem := List.getElem?_eq_getElem hlength
  rw [hplaces] at hitem
  obtain ⟨position, hposition, hitem⟩ := Option.bind_eq_some_iff.mp hitem
  -- The name stood for an item before, maybe for another one than now.
  obtain ⟨required, hrequired⟩ :
      ∃ required, indexOf? (items.map view) dependency = some required := by
    obtain ⟨hlt, hname, _⟩ := List.findIdx?_eq_some_iff_getElem.mp hfind
    rw [← Option.ne_none_iff_exists', ne_eq, indexOf?_eq_none_iff, List.forall_mem_map]
    intro hnone
    exact hnone _ (hperm.mem_iff.mp (List.getElem_mem hlt)) (by simpa using hname)
  have hrequires : Requires (items.map view) position required :=
    ⟨view ordered.items[later], by simp [hitem], dependency, hmem, hne, hrequired⟩
  obtain ⟨node, hnode, hname⟩ := exists_node_of_indexOf? hrequired
  rw [List.getElem?_map] at hnode
  obtain ⟨other, hother, rfl⟩ := Option.map_eq_some_iff.mp hnode
  have hplace : ordered.items[traversal.order.idxOf required]? = some other := by
    rw [hplaces, List.getElem?_idxOf (hall required hrequires.lt_length), Option.bind_some, hother]
  obtain ⟨hlater, rfl⟩ := List.getElem?_eq_some_iff.mp hposition
  calc earlier
    _ ≤ traversal.order.idxOf required := le_of_findIdx?_eq_some hfind hplace (by simpa using hname)
    _ < traversal.order.idxOf traversal.order[later] :=
        hsound.settled.idxOf_lt (List.getElem_mem hlater) hrequires
    _ = later := hsound.nodup_order.idxOf_getElem later hlater

/-- **Ordered items keep their order.** If each item stands behind the first item of every other name
that it depends on, the items are ordered as they stand, or the strict policy misses a table. Items
that have been ordered, names shared among them or not, are ordered again as they stand. -/
theorem topologicalOrder_keeps_arranged_items {α : Type} (node : α → DependencyNode)
    (items : List α) (policy : MissingPolicy) :
    (Arranged node items →
      (policy = .fail ∧ ∃ entry, topologicalOrder node items policy = .error (.missing entry)) ∨
        ∃ ordered, topologicalOrder node items policy = .ok ordered ∧ ordered.items = items) ∧
    ∀ ordered, topologicalOrder node items policy = .ok ordered →
      ∃ again, topologicalOrder node ordered.items policy = .ok again ∧
        again.items = ordered.items := by
  refine ⟨fun h => topologicalOrder_of_arranged h policy, fun ordered h => ?_⟩
  rcases topologicalOrder_of_arranged (arranged_of_topologicalOrder_eq_ok h) policy with
    ⟨rfl, entry, hmissing⟩ | hagain
  · -- A table that lacks a dependency now lacked it before.
    have hperm := (items_perm_of_topologicalOrder_eq_ok h).map node
    obtain ⟨traversal, htraverse, _⟩ := exists_traversal_of_topologicalOrder_eq_ok h
    cases explained_of_traverse_eq_error (topologicalOrder_eq_error_iff.mp hmissing) with
    | missing hnode hdepends hne habsent =>
        have hlacks := Lacks.perm ⟨hdepends, hne, habsent⟩ hperm
        exact absurd hlacks (not_lacks_of_traverse_eq_ok htraverse (hperm.mem_iff.mp hnode) _)
  · exact hagain

/-- In both lists two tables share a name. The first list is arranged and stays as it is. The second
one is not, and its order, from which a table is missing, is ordered again as it stands. -/
theorem topologicalOrder_keeps_arranged_items_of_repeated_names :
    (∃ ordered, topologicalOrder id [⟨"b", []⟩, ⟨"a", ["a"]⟩, ⟨"b", ["a", "b"]⟩] .fail =
      .ok ordered ∧ ordered.items = [⟨"b", []⟩, ⟨"a", ["a"]⟩, ⟨"b", ["a", "b"]⟩]) ∧
    topologicalOrder id [⟨"b", ["c"]⟩, ⟨"a", ["b", "d"]⟩, ⟨"c", []⟩, ⟨"b", []⟩] .skip =
      .ok ⟨[⟨"c", []⟩, ⟨"b", ["c"]⟩, ⟨"a", ["b", "d"]⟩, ⟨"b", []⟩], [⟨"a", "d"⟩]⟩ ∧
    ∃ again, topologicalOrder id [⟨"c", []⟩, ⟨"b", ["c"]⟩, ⟨"a", ["b", "d"]⟩, ⟨"b", []⟩] .skip =
      .ok again ∧ again.items = [⟨"c", []⟩, ⟨"b", ["c"]⟩, ⟨"a", ["b", "d"]⟩, ⟨"b", []⟩] := by
  have harranged : Arranged id
      [(⟨"b", []⟩ : DependencyNode), ⟨"a", ["a"]⟩, ⟨"b", ["a", "b"]⟩] := by
    decide
  have h : topologicalOrder id [⟨"b", ["c"]⟩, ⟨"a", ["b", "d"]⟩, ⟨"c", []⟩, ⟨"b", []⟩] .skip =
      .ok ⟨[⟨"c", []⟩, ⟨"b", ["c"]⟩, ⟨"a", ["b", "d"]⟩, ⟨"b", []⟩], [⟨"a", "d"⟩]⟩ := by rfl
  refine ⟨?_, h, (topologicalOrder_keeps_arranged_items id _ .skip).2 _ h⟩
  rcases (topologicalOrder_keeps_arranged_items id _ .fail).1 harranged with
    ⟨_, entry, hmissing⟩ | hordered
  · cases hmissing
  · exact hordered

end SyntheticRows.Dependency
