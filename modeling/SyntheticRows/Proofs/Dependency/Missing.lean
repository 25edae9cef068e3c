import SyntheticRows.Proofs.Dependency.Order
/-!
# The missing dependencies of an order

A traversal that skips what it misses stops at circles only, and it never forgets a missing
dependency. Each dependency of a table is looked at before the table is finished, so in the end the
list holds, once each, all dependencies on names that no table bears.
-/

namespace SyntheticRows

namespace Traversal

variable {traversal : Traversal} {entry : MissingDependency}

theorem mem_missing_addMissing {other : MissingDependency} :
    other ∈ (traversal.addMissing entry).missing ↔ other ∈ traversal.missing ∨ other = entry := by
  unfold addMissing
  split
  next hknown =>
    refine ⟨.inl, ?_⟩
    rintro (hmem | rfl)
    · exact hmem
    · exact List.contains_iff_mem.mp hknown
  next => simp

theorem missing_prefix_addMissing (traversal : Traversal) (entry : MissingDependency) :
    traversal.missing <+: (traversal.addMissing entry).missing := by
  unfold addMissing
  split
  · exact List.prefix_refl _
  · exact List.prefix_append _ _

theorem nodup_missing_addMissing (h : traversal.missing.Nodup) :
    (traversal.addMissing entry).missing.Nodup := by
  unfold addMissing
  split
  next => exact h
  next hfresh =>
    rw [List.contains_iff_mem] at hfresh
    exact List.nodup_append.mpr ⟨h, by simp, by grind⟩

end Traversal

namespace Dependency

open Traversal

variable {nodes : List DependencyNode} {node : DependencyNode} {position : Nat}
  {dependency : String} {before after traversal : Traversal}

theorem indexOf?_eq_none_iff {name : String} :
    indexOf? nodes name = none ↔ ∀ node ∈ nodes, node.name ≠ name := by
  simp [indexOf?, List.findIdx?_eq_none_iff]

/-- A table depends on a name, not its own, that no table bears. -/
structure Lacks (nodes : List DependencyNode) (node : DependencyNode) (dependency : String) :
    Prop where
  depends : dependency ∈ node.dependsOn
  ne : dependency ≠ node.name
  absent : indexOf? nodes dependency = none

theorem Lacks.perm {nodes' : List DependencyNode} (h : Lacks nodes node dependency)
    (hperm : nodes.Perm nodes') : Lacks nodes' node dependency := by
  refine ⟨h.depends, h.ne, indexOf?_eq_none_iff.mpr fun other hother => ?_⟩
  exact indexOf?_eq_none_iff.mp h.absent other (hperm.mem_iff.mpr hother)

/-- The missing dependencies of a traversal are dependencies that tables lack, without repetition,
and those of finished tables are all there. -/
structure Recorded (nodes : List DependencyNode) (traversal : Traversal) : Prop where
  nodup : traversal.missing.Nodup
  lacking : ∀ entry ∈ traversal.missing,
    ∃ node ∈ nodes, node.name = entry.table ∧ Lacks nodes node entry.dependency
  complete : ∀ position ∈ traversal.order, ∀ node, nodes[position]? = some node →
    ∀ dependency, Lacks nodes node dependency → ⟨node.name, dependency⟩ ∈ traversal.missing

namespace Recorded

theorem start (nodes : List DependencyNode) : Recorded nodes (.start nodes.length) :=
  ⟨.nil, by simp [Traversal.start], by simp [Traversal.start]⟩

theorem enter (h : Recorded nodes traversal) (position : Nat) :
    Recorded nodes (traversal.enter position) :=
  ⟨h.nodup, h.lacking, h.complete⟩

theorem addMissing (h : Recorded nodes traversal) (hnode : node ∈ nodes)
    (hlacks : Lacks nodes node dependency) :
    Recorded nodes (traversal.addMissing ⟨node.name, dependency⟩) := by
  refine ⟨nodup_missing_addMissing h.nodup, fun entry hentry => ?_, ?_⟩
  · rcases mem_missing_addMissing.mp hentry with hentry | rfl
    · exact h.lacking entry hentry
    · exact ⟨node, hnode, rfl, hlacks⟩
  · intro position hposition other hother missing hmissing
    rw [order_addMissing] at hposition
    exact mem_missing_addMissing.mpr (.inl (h.complete position hposition other hother _ hmissing))

/-- A table may be left when all that it lacks is recorded. -/
theorem leave (h : Recorded nodes traversal) (hnode : nodes[position]? = some node)
    (hall : ∀ dependency, Lacks nodes node dependency →
      ⟨node.name, dependency⟩ ∈ traversal.missing) :
    Recorded nodes (traversal.leave position) := by
  refine ⟨h.nodup, h.lacking, fun other hother found hfound missing hmissing => ?_⟩
  rcases List.mem_append.mp hother with hother | hother
  · exact h.complete other hother found hfound missing hmissing
  · obtain rfl := List.mem_singleton.mp hother
    obtain rfl := Option.some.inj (hnode.symm.trans hfound)
    exact hall missing hmissing

end Recorded

/-- A later traversal has new missing dependencies behind the old ones, all of them rightly. -/
structure Records (nodes : List DependencyNode) (before after : Traversal) : Prop where
  missing : before.missing <+: after.missing
  recorded : Recorded nodes before → Recorded nodes after

theorem Records.refl (nodes : List DependencyNode) (traversal : Traversal) :
    Records nodes traversal traversal :=
  ⟨List.prefix_refl _, id⟩

theorem Records.trans {last : Traversal} (h : Records nodes before after)
    (h' : Records nodes after last) : Records nodes before last :=
  ⟨h.missing.trans h'.missing, h'.recorded ∘ h.recorded⟩

/-- An outcome reaches a goal, or a circle stops it. -/
def Reaches (goal : Traversal → Prop) : Except DependencyError Traversal → Prop
  | .ok after => goal after
  | .error error => ∃ names, error = .cyclic names

namespace Reaches

variable {goal goal' : Traversal → Prop} {outcome : Except DependencyError Traversal}

theorem imp (h : Reaches goal outcome) (himp : ∀ after, goal after → goal' after) :
    Reaches goal' outcome := by
  cases outcome with
  | error error => exact h
  | ok after => exact himp after h

theorem bind {next : Traversal → Except DependencyError Traversal} (h : Reaches goal outcome)
    (hnext : ∀ after, goal after → Reaches goal' (next after)) :
    Reaches goal' (outcome >>= next) := by
  cases outcome with
  | error error => exact h
  | ok after => exact hnext after h

end Reaches

theorem follow_records {visit : Nat → Traversal → Except DependencyError Traversal}
    (hvisit : ∀ required traversal, Reaches (Records nodes traversal) (visit required traversal))
    (hnode : node ∈ nodes) (hmem : dependency ∈ node.dependsOn) (traversal : Traversal) :
    Reaches (fun after => Records nodes traversal after ∧
        (Lacks nodes node dependency → ⟨node.name, dependency⟩ ∈ after.missing))
      (follow nodes .skip visit node.name dependency traversal) := by
  unfold follow
  by_cases hname : dependency = node.name
  · rw [if_pos (by simpa using hname)]
    exact ⟨.refl nodes traversal, fun hlacks => absurd hname hlacks.ne⟩
  rw [if_neg (by simpa using hname)]
  cases hindex : indexOf? nodes dependency with
  | none =>
      refine ⟨⟨missing_prefix_addMissing _ _, fun h => ?_⟩, fun _ => ?_⟩
      · exact h.addMissing hnode ⟨hmem, hname, hindex⟩
      · exact mem_missing_addMissing.mpr (.inr rfl)
  | some required =>
      have hborne : ¬Lacks nodes node dependency := fun hlacks => by
        cases hindex.symm.trans hlacks.absent
      cases hmark : traversal.mark required with
      | done =>
          simp only [hmark]
          exact ⟨.refl nodes traversal, fun hlacks => absurd hlacks hborne⟩
      | unvisited =>
          simp only [hmark]
          exact (hvisit required traversal).imp fun after hrecords =>
            ⟨hrecords, fun hlacks => absurd hlacks hborne⟩
      | inProgress =>
          simp only [hmark]
          exact ⟨_, rfl⟩

theorem followAll_records {visit : Nat → Traversal → Except DependencyError Traversal}
    (hvisit : ∀ required traversal, Reaches (Records nodes traversal) (visit required traversal))
    (hnode : node ∈ nodes) (dependencies : List String) (hsubset : dependencies ⊆ node.dependsOn)
    (traversal : Traversal) :
    Reaches (fun after => Records nodes traversal after ∧ ∀ dependency ∈ dependencies,
        Lacks nodes node dependency → ⟨node.name, dependency⟩ ∈ after.missing)
      (followAll nodes .skip visit node.name dependencies traversal) := by
  induction dependencies generalizing traversal with
  | nil => exact ⟨.refl nodes traversal, by simp⟩
  | cons dependency dependencies ih =>
      obtain ⟨hmem, hsubset⟩ := List.cons_subset.mp hsubset
      refine (follow_records hvisit hnode hmem traversal).bind ?_
      rintro after ⟨hrecords, hfirst⟩
      refine (ih hsubset after).imp ?_
      rintro last ⟨hrecords', hothers⟩
      refine ⟨hrecords.trans hrecords', List.forall_mem_cons.mpr ⟨fun hlacks => ?_, hothers⟩⟩
      exact hrecords'.missing.mem (hfirst hlacks)

/-- A visit that skips missing dependencies records those that it finds. -/
theorem visit_records (depth position : Nat) (traversal : Traversal) :
    Reaches (Records nodes traversal) (visit nodes .skip depth position traversal) := by
  induction depth generalizing position traversal with
  | zero => exact .refl nodes traversal
  | succ depth ih =>
      unfold visit
      cases hnode : nodes[position]? with
      | none => exact .refl nodes traversal
      | some node =>
          refine (followAll_records ih (List.mem_of_getElem? hnode) node.dependsOn
            (List.Subset.refl _) (traversal.enter position)).bind ?_
          rintro after ⟨hrecords, hall⟩
          refine ⟨hrecords.missing, fun h => ?_⟩
          exact (hrecords.recorded (h.enter position)).leave hnode fun dependency hlacks =>
            hall dependency hlacks.depends hlacks

theorem visitAll_records (positions : List Nat) (traversal : Traversal) :
    Reaches (Records nodes traversal) (visitAll nodes .skip positions traversal) := by
  induction positions generalizing traversal with
  | nil => exact .refl nodes traversal
  | cons position positions ih =>
      have hrest : ∀ after, Records nodes traversal after →
          Reaches (Records nodes traversal) (visitAll nodes .skip positions after) :=
        fun after hrecords => (ih after).imp fun last hlast => hrecords.trans hlast
      by_cases hmark : traversal.mark position = .unvisited
      · simp only [visitAll, if_pos hmark]
        exact (visit_records nodes.length position traversal).bind hrest
      · simp only [visitAll, if_neg hmark]
        exact hrest traversal (.refl nodes traversal)

theorem recorded_of_traverse_eq_ok (h : traverse nodes .skip = .ok traversal) :
    Recorded nodes traversal := by
  have hrecords : Reaches (Records nodes (.start nodes.length)) (traverse nodes .skip) :=
    visitAll_records _ _
  rw [h] at hrecords
  exact hrecords.recorded (.start nodes)

/-- The missing dependencies of a whole traversal are those that tables lack. -/
theorem mem_missing_iff (h : traverse nodes .skip = .ok traversal) {entry : MissingDependency} :
    entry ∈ traversal.missing ↔
      ∃ node ∈ nodes, node.name = entry.table ∧ Lacks nodes node entry.dependency := by
  have hrecorded := recorded_of_traverse_eq_ok h
  refine ⟨hrecorded.lacking entry, ?_⟩
  rintro ⟨node, hnode, hname, hlacks⟩
  obtain ⟨position, hposition⟩ := List.mem_iff_getElem?.mp hnode
  have hlt := (List.getElem?_eq_some_iff.mp hposition).1
  have hvisited := (sound_of_traverse_eq_ok h).2 position hlt
  have hmem := hrecorded.complete position hvisited node hposition _ hlacks
  rwa [hname] at hmem

variable {α : Type} {items : List α}

/-- What the table of an item lacks is a dependency on a name that the table of no item bears. -/
theorem lacks_map_iff {view : α → DependencyNode} :
    Lacks (items.map view) node dependency ↔
      dependency ∈ node.dependsOn ∧ dependency ≠ node.name ∧
        ∀ other ∈ items, (view other).name ≠ dependency := by
  have habsent : indexOf? (items.map view) dependency = none ↔
      ∀ other ∈ items, (view other).name ≠ dependency := by
    rw [indexOf?_eq_none_iff, List.forall_mem_map]
  rw [← habsent]
  exact ⟨fun ⟨hdepends, hne, hnone⟩ => ⟨hdepends, hne, hnone⟩,
    fun ⟨hdepends, hne, hnone⟩ => ⟨hdepends, hne, hnone⟩⟩

/-- **The missing list is exact.** An order that skips missing tables lists each missing dependency
once: the pairs of a table and another name that the table depends on and that no table bears. -/
theorem topologicalOrder_missing_exact {α : Type} (node : α → DependencyNode) (items : List α)
    (ordered : DependencyOrder α) (h : topologicalOrder node items .skip = .ok ordered) :
    ordered.missing.Nodup ∧
      ∀ table dependency, (⟨table, dependency⟩ : MissingDependency) ∈ ordered.missing ↔
        ∃ item ∈ items, (node item).name = table ∧ dependency ∈ (node item).dependsOn ∧
          dependency ≠ table ∧ ∀ other ∈ items, (node other).name ≠ dependency := by
  obtain ⟨traversal, htraverse, _, hmissing⟩ := exists_traversal_of_topologicalOrder_eq_ok h
  rw [hmissing]
  refine ⟨(recorded_of_traverse_eq_ok htraverse).nodup, fun table dependency => ?_⟩
  simp only [mem_missing_iff htraverse, List.mem_map, exists_exists_and_eq_and, lacks_map_iff]
  refine exists_congr fun item => and_congr_right fun _ => and_congr_right ?_
  rintro rfl
  rfl

/-- Repeated dependencies, an own name and two tables of one name that lack the same. -/
theorem topologicalOrder_missing_exact_of_repeated_names :
    topologicalOrder id
        [⟨"audit", ["roles", "audit", "users", "roles"]⟩, ⟨"users", ["regions"]⟩,
          ⟨"users", ["audit", "regions", "roles"]⟩] .skip =
      .ok ⟨[⟨"users", ["regions"]⟩, ⟨"audit", ["roles", "audit", "users", "roles"]⟩,
          ⟨"users", ["audit", "regions", "roles"]⟩],
        [⟨"audit", "roles"⟩, ⟨"users", "regions"⟩, ⟨"users", "roles"⟩]⟩ ∧
      (⟨"users", "audit"⟩ : MissingDependency) ∉
        [⟨"audit", "roles"⟩, ⟨"users", "regions"⟩, ⟨"users", "roles"⟩] := by
  have h : topologicalOrder id
        [⟨"audit", ["roles", "audit", "users", "roles"]⟩, ⟨"users", ["regions"]⟩,
          ⟨"users", ["audit", "regions", "roles"]⟩] .skip =
      .ok ⟨[⟨"users", ["regions"]⟩, ⟨"audit", ["roles", "audit", "users", "roles"]⟩,
          ⟨"users", ["audit", "regions", "roles"]⟩],
        [⟨"audit", "roles"⟩, ⟨"users", "regions"⟩, ⟨"users", "roles"⟩]⟩ := by rfl
  refine ⟨h, fun hmem => ?_⟩
  obtain ⟨_, _, _, _, _, hunborne⟩ :=
    ((topologicalOrder_missing_exact _ _ _ h).2 "users" "audit").mp hmem
  exact hunborne ⟨"audit", ["roles", "audit", "users", "roles"]⟩ List.mem_cons_self rfl

end Dependency

end SyntheticRows
