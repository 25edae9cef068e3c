import SyntheticRows.Proofs.Dependency.Missing
/-!
# The two policies for missing tables

A strict traversal and one that skips what it misses go through the same states until the first
missing dependency. There the strict one stops. The other goes on, and what it recorded first stays
in front, unless a circle stops it later.
-/

namespace SyntheticRows.Dependency

open Traversal

variable {nodes : List DependencyNode} {node : DependencyNode} {traversal : Traversal}

/-- How a strict traversal ends beside one that skips missing dependencies, when neither had met one
before. -/
inductive Agree : (strict lenient : Except DependencyError Traversal) → Prop where
  | same {after : Traversal} (none : after.missing = []) : Agree (.ok after) (.ok after)
  | cyclic (names : List String) :
      Agree (.error (.cyclic names)) (.error (.cyclic names))
  | missing {entry : MissingDependency} {lenient : Except DependencyError Traversal}
      (first : Reaches (fun after => after.missing.head? = some entry) lenient) :
      Agree (.error (.missing entry)) lenient

/-- The steps behind the first missing dependency are taken by one traversal only. -/
theorem Agree.bind {strict lenient : Except DependencyError Traversal}
    {next next' : Traversal → Except DependencyError Traversal} (h : Agree strict lenient)
    (hnext : ∀ after, after.missing = [] → Agree (next after) (next' after))
    (hkeep : ∀ after, Reaches (fun last => after.missing <+: last.missing) (next' after)) :
    Agree (strict >>= next) (lenient >>= next') := by
  cases h with
  | same hnone => exact hnext _ hnone
  | cyclic names => exact .cyclic names
  | missing hfirst =>
      refine .missing (hfirst.bind fun after hhead => (hkeep after).imp ?_)
      rintro last ⟨later, hlater⟩
      rw [← hlater, List.head?_append, hhead]
      rfl

theorem follow_agree {visit visit' : Nat → Traversal → Except DependencyError Traversal}
    (hvisit : ∀ required traversal, traversal.missing = [] →
      Agree (visit required traversal) (visit' required traversal))
    (table dependency : String) (hnone : traversal.missing = []) :
    Agree (follow nodes .fail visit table dependency traversal)
      (follow nodes .skip visit' table dependency traversal) := by
  unfold follow
  by_cases hname : dependency == table
  · rw [if_pos hname, if_pos hname]
    exact .same hnone
  rw [if_neg hname, if_neg hname]
  cases indexOf? nodes dependency with
  | none =>
      refine .missing ?_
      simp [Reaches, addMissing, hnone]
  | some required =>
      cases hmark : traversal.mark required with
      | done =>
          simp only [hmark]
          exact .same hnone
      | unvisited =>
          simp only [hmark]
          exact hvisit required traversal hnone
      | inProgress =>
          simp only [hmark]
          exact .cyclic _

theorem followAll_agree {visit visit' : Nat → Traversal → Except DependencyError Traversal}
    (hvisit : ∀ required traversal, traversal.missing = [] →
      Agree (visit required traversal) (visit' required traversal))
    (hrecords : ∀ required traversal, Reaches (Records nodes traversal) (visit' required traversal))
    (hnode : node ∈ nodes) (dependencies : List String) (hsubset : dependencies ⊆ node.dependsOn)
    (traversal : Traversal) (hnone : traversal.missing = []) :
    Agree (followAll nodes .fail visit node.name dependencies traversal)
      (followAll nodes .skip visit' node.name dependencies traversal) := by
  induction dependencies generalizing traversal with
  | nil => exact .same hnone
  | cons dependency dependencies ih =>
      obtain ⟨_, hsubset⟩ := List.cons_subset.mp hsubset
      refine (follow_agree hvisit node.name dependency hnone).bind (ih hsubset) fun after => ?_
      exact (followAll_records hrecords hnode dependencies hsubset after).imp fun _ h => h.1.missing

theorem visit_agree (depth position : Nat) (traversal : Traversal)
    (hnone : traversal.missing = []) :
    Agree (visit nodes .fail depth position traversal)
      (visit nodes .skip depth position traversal) := by
  induction depth generalizing position traversal with
  | zero => exact .same hnone
  | succ depth ih =>
      unfold visit
      cases hnode : nodes[position]? with
      | none => exact .same hnone
      | some node =>
          refine (followAll_agree ih (visit_records depth) (List.mem_of_getElem? hnode)
            node.dependsOn (List.Subset.refl _) (traversal.enter position) hnone).bind ?_ ?_
          · exact fun after hafter => .same hafter
          · exact fun after => List.prefix_refl _

theorem visitAll_agree (positions : List Nat) (traversal : Traversal)
    (hnone : traversal.missing = []) :
    Agree (visitAll nodes .fail positions traversal) (visitAll nodes .skip positions traversal) := by
  induction positions generalizing traversal with
  | nil => exact .same hnone
  | cons position positions ih =>
      by_cases hmark : traversal.mark position = .unvisited
      · simp only [visitAll, if_pos hmark]
        refine (visit_agree nodes.length position traversal hnone).bind ih fun after => ?_
        exact (visitAll_records positions after).imp fun _ h => h.missing
      · simp only [visitAll, if_neg hmark]
        exact ih traversal hnone

theorem traverse_agree (nodes : List DependencyNode) :
    Agree (traverse nodes .fail) (traverse nodes .skip) :=
  visitAll_agree _ _ rfl

/-- A strict traversal that succeeds met no missing dependency. -/
theorem not_lacks_of_traverse_eq_ok (h : traverse nodes .fail = .ok traversal)
    (hnode : node ∈ nodes) (dependency : String) : ¬Lacks nodes node dependency := by
  intro hlacks
  have hagree := traverse_agree nodes
  rw [h] at hagree
  cases hlenient : traverse nodes .skip with
  | error error =>
      rw [hlenient] at hagree
      cases hagree
  | ok after =>
      have hmem : (⟨node.name, dependency⟩ : MissingDependency) ∈ after.missing :=
        (mem_missing_iff hlenient).mpr ⟨node, hnode, rfl, hlacks⟩
      rw [hlenient] at hagree
      cases hagree with
      | same hnone => simp [hnone] at hmem

/-- **The two policies agree.** The strict one orders exactly the items for which the lenient one
misses nothing, and into the same order. Where it reports a circle the lenient one reports the same,
and the missing dependency that it reports is the first one that the lenient one lists, if no circle
stops that one. -/
theorem topologicalOrder_policies_agree {α : Type} (node : α → DependencyNode) (items : List α) :
    (∀ ordered, topologicalOrder node items .fail = .ok ordered ↔
      topologicalOrder node items .skip = .ok ordered ∧ ordered.missing = []) ∧
    (∀ names, topologicalOrder node items .fail = .error (.cyclic names) →
      topologicalOrder node items .skip = .error (.cyclic names)) ∧
    ∀ table dependency,
      topologicalOrder node items .fail = .error (.missing ⟨table, dependency⟩) →
        (∃ names, topologicalOrder node items .skip = .error (.cyclic names)) ∨
        ∃ ordered, topologicalOrder node items .skip = .ok ordered ∧
          ordered.missing.head? = some ⟨table, dependency⟩ := by
  have hagree := traverse_agree (items.map node)
  unfold topologicalOrder
  generalize traverse (items.map node) .fail = strict at hagree ⊢
  generalize traverse (items.map node) .skip = lenient at hagree ⊢
  cases hagree with
  | same hnone =>
      refine ⟨fun ordered => ⟨fun h => ⟨h, ?_⟩, And.left⟩, nofun, nofun⟩
      cases h
      exact hnone
  | cyclic names => exact ⟨fun ordered => ⟨nofun, nofun⟩, fun _ => id, nofun⟩
  | missing hfirst =>
      cases lenient with
      | error error =>
          obtain ⟨names, rfl⟩ := hfirst
          exact ⟨fun ordered => ⟨nofun, nofun⟩, nofun, fun _ _ _ => .inl ⟨names, rfl⟩⟩
      | ok after =>
          refine ⟨fun ordered => ⟨nofun, ?_⟩, nofun, ?_⟩
          · rintro ⟨⟨⟩, hnone⟩
            have hmissing : after.missing = [] := hnone
            have hhead : after.missing.head? = some _ := hfirst
            rw [hmissing] at hhead
            cases hhead
          · rintro table dependency ⟨⟩
            exact .inr ⟨_, rfl, hfirst⟩

/-- The strict order stops at the first of two missing names, which the lenient one lists in front of
the second. A circle in front of a missing name stops both. -/
theorem topologicalOrder_policies_agree_of_audit :
    topologicalOrder id [⟨"audit", ["users", "roles", "logs"]⟩, ⟨"users", []⟩] .fail =
      .error (.missing ⟨"audit", "roles"⟩) ∧
    (∃ ordered,
      topologicalOrder id [⟨"audit", ["users", "roles", "logs"]⟩, ⟨"users", []⟩] .skip =
        .ok ordered ∧ ordered.missing.head? = some ⟨"audit", "roles"⟩) ∧
    topologicalOrder id [⟨"users", ["teams"]⟩, ⟨"teams", ["users"]⟩, ⟨"audit", ["roles"]⟩] .fail =
      .error (.cyclic ["users", "teams", "users"]) ∧
    topologicalOrder id [⟨"users", ["teams"]⟩, ⟨"teams", ["users"]⟩, ⟨"audit", ["roles"]⟩] .skip =
      .error (.cyclic ["users", "teams", "users"]) := by
  have hmissing :
      topologicalOrder id [⟨"audit", ["users", "roles", "logs"]⟩, ⟨"users", []⟩] .fail =
        .error (.missing ⟨"audit", "roles"⟩) := by rfl
  have hcyclic :
      topologicalOrder id [⟨"users", ["teams"]⟩, ⟨"teams", ["users"]⟩, ⟨"audit", ["roles"]⟩] .fail =
        .error (.cyclic ["users", "teams", "users"]) := by rfl
  refine ⟨hmissing, ?_, hcyclic, (topologicalOrder_policies_agree id _).2.1 _ hcyclic⟩
  rcases (topologicalOrder_policies_agree id _).2.2 _ _ hmissing with ⟨names, hnames⟩ | hordered
  · cases hnames
  · exact hordered

end SyntheticRows.Dependency
