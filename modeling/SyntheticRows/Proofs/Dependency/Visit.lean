import SyntheticRows.Proofs.Dependency.Traversal
/-!
# What a visit delivers

A visit, a look at one dependency and the traversal of all tables have outcomes of one kind: either
a sound traversal that goes on from the one before, or an error with a reason in the dependencies.
The depth of a visit never runs out, because the tables in progress are distinct.
-/

namespace SyntheticRows.Dependency

open Traversal

variable {nodes : List DependencyNode} {policy : MissingPolicy} {before after traversal : Traversal}
  {position : Nat} {node : DependencyNode} {dependency : String}

/-- A later traversal of the same stack; what was finished stays finished. -/
structure Continues (nodes : List DependencyNode) (before after : Traversal) : Prop where
  sound : after.Sound nodes
  stack : after.stack = before.stack
  order : before.order <+: after.order

theorem Continues.refl (h : traversal.Sound nodes) : Continues nodes traversal traversal :=
  ⟨h, rfl, List.prefix_refl _⟩

theorem Continues.trans {last : Traversal} (h : Continues nodes before after)
    (h' : Continues nodes after last) : Continues nodes before last :=
  ⟨h'.sound, h'.stack.trans h.stack, h.order.trans h'.order⟩

/-- The reasons of errors: tables that wait for each other in a circle, or, where missing tables are
not allowed, a dependency that no table bears. -/
inductive Explained (nodes : List DependencyNode) : MissingPolicy → DependencyError → Prop where
  | cyclic {policy : MissingPolicy} {first : Nat} {rest : List Nat}
      (chain : (first :: rest ++ [first]).IsChain (Requires nodes))
      (nodup : (first :: rest).Nodup) :
      Explained nodes policy (.cyclic ((first :: rest ++ [first]).map (nameAt nodes)))
  | missing {node : DependencyNode} {dependency : String} (mem : node ∈ nodes)
      (depends : dependency ∈ node.dependsOn) (ne : dependency ≠ node.name)
      (absent : indexOf? nodes dependency = none) :
      Explained nodes .fail (.missing ⟨node.name, dependency⟩)

/-- An outcome goes on soundly and reaches a goal, or its error has a reason. -/
def Delivers (nodes : List DependencyNode) (policy : MissingPolicy) (before : Traversal)
    (goal : Traversal → Prop) : Except DependencyError Traversal → Prop
  | .ok after => Continues nodes before after ∧ goal after
  | .error error => Explained nodes policy error

namespace Delivers

variable {goal first second : Traversal → Prop} {outcome : Except DependencyError Traversal}

theorem imp (h : Delivers nodes policy before first outcome)
    (himp : ∀ after, Continues nodes before after → first after → second after) :
    Delivers nodes policy before second outcome := by
  cases outcome with
  | error error => exact h
  | ok after => exact ⟨h.1, himp after h.1 h.2⟩

theorem of_continues (hcontinues : Continues nodes before after)
    (h : Delivers nodes policy after goal outcome) : Delivers nodes policy before goal outcome := by
  cases outcome with
  | error error => exact h
  | ok last => exact ⟨hcontinues.trans h.1, h.2⟩

theorem bind {next : Traversal → Except DependencyError Traversal}
    (h : Delivers nodes policy before first outcome)
    (hnext : ∀ after, Continues nodes before after → first after →
      Delivers nodes policy after second (next after)) :
    Delivers nodes policy before second (outcome >>= next) := by
  cases outcome with
  | error error => exact h
  | ok after => exact of_continues h.1 (hnext after h.1 h.2)

end Delivers

/-- The part of the stack from a required table on closes a circle. -/
theorem explained_cycleNames (h : traversal.Sound nodes)
    (htop : traversal.stack.getLast? = some position) (hnode : nodes[position]? = some node)
    (hmem : dependency ∈ node.dependsOn) (hne : dependency ≠ node.name) {required : Nat}
    (hindex : indexOf? nodes dependency = some required)
    (hmark : traversal.mark required = .inProgress) :
    Explained nodes policy (.cyclic (cycleNames nodes traversal required dependency)) := by
  have hstack : required ∈ traversal.stack := (h.mem_stack required).mpr hmark
  have hlt := List.idxOf_lt_length_of_mem hstack
  obtain ⟨rest, hrest⟩ : ∃ rest, traversal.stackFrom required = required :: rest :=
    ⟨_, by rw [stackFrom, List.drop_eq_getElem_cons hlt, List.getElem_idxOf]⟩
  have hsuffix : required :: rest <:+ traversal.stack := hrest ▸ List.drop_suffix _ _
  have hlast : (required :: rest).getLast? = some position := by
    rw [← hrest, stackFrom, List.getLast?_drop, if_neg (Nat.not_le.mpr hlt), htop]
  have hchain : (required :: rest ++ [required]).IsChain (Requires nodes) := by
    refine (h.chain.suffix hsuffix).append (.singleton required) ?_
    intro last hlast' next hnext
    obtain rfl : position = last := by simpa [hlast] using hlast'
    obtain rfl : required = next := by simpa using hnext
    exact ⟨node, hnode, dependency, hmem, hne, hindex⟩
  have hnames : cycleNames nodes traversal required dependency =
      (required :: rest ++ [required]).map (nameAt nodes) := by
    simp [cycleNames, hrest, nameAt_of_indexOf? hindex]
  rw [hnames]
  exact .cyclic hchain (h.nodup_stack.sublist hsuffix.sublist)

theorem follow_delivers {visit : Nat → Traversal → Except DependencyError Traversal}
    (h : traversal.Sound nodes) (htop : traversal.stack.getLast? = some position)
    (hnode : nodes[position]? = some node) (hmem : dependency ∈ node.dependsOn)
    (hvisit : ∀ required, Requires nodes position required →
      traversal.mark required = .unvisited →
      Delivers nodes policy traversal (required ∈ ·.order) (visit required traversal)) :
    Delivers nodes policy traversal
      (fun after => ∀ required, dependency ≠ node.name →
        indexOf? nodes dependency = some required → required ∈ after.order)
      (follow nodes policy visit node.name dependency traversal) := by
  unfold follow
  by_cases hname : dependency = node.name
  · simp only [hname, beq_self_eq_true, if_true]
    exact ⟨.refl h, fun required hne => absurd rfl hne⟩
  rw [if_neg (by simpa using hname)]
  cases hindex : indexOf? nodes dependency with
  | none =>
      cases policy with
      | fail => exact .missing (List.mem_of_getElem? hnode) hmem hname hindex
      | skip =>
          have horder := order_addMissing traversal ⟨node.name, dependency⟩
          exact ⟨⟨h.addMissing _, stack_addMissing _ _, horder ▸ List.prefix_refl _⟩, by simp⟩
  | some required =>
      have hrequires : Requires nodes position required :=
        ⟨node, hnode, dependency, hmem, hname, hindex⟩
      cases hmark : traversal.mark required with
      | done =>
          simp only [hmark]
          refine ⟨.refl h, ?_⟩
          rintro _ _ ⟨⟩
          exact (h.mem_order required).mpr ⟨hrequires.lt_length, hmark⟩
      | unvisited =>
          simp only [hmark]
          refine (hvisit required hrequires hmark).imp fun after _ hafter => ?_
          rintro _ _ ⟨⟩
          exact hafter
      | inProgress =>
          simp only [hmark]
          exact explained_cycleNames h htop hnode hmem hname hindex hmark

theorem followAll_delivers {visit : Nat → Traversal → Except DependencyError Traversal}
    (hnode : nodes[position]? = some node) (dependencies : List String)
    (hsubset : dependencies ⊆ node.dependsOn) (traversal : Traversal) (h : traversal.Sound nodes)
    (htop : traversal.stack.getLast? = some position)
    (hvisit : ∀ after required, Continues nodes traversal after → Requires nodes position required →
      after.mark required = .unvisited →
      Delivers nodes policy after (required ∈ ·.order) (visit required after)) :
    Delivers nodes policy traversal
      (fun after => ∀ dependency ∈ dependencies, ∀ required, dependency ≠ node.name →
        indexOf? nodes dependency = some required → required ∈ after.order)
      (followAll nodes policy visit node.name dependencies traversal) := by
  induction dependencies generalizing traversal with
  | nil => exact ⟨.refl h, by simp⟩
  | cons dependency dependencies ih =>
      obtain ⟨hmem, hsubset⟩ := List.cons_subset.mp hsubset
      have hfollow := follow_delivers h htop hnode hmem (hvisit traversal · (.refl h))
      refine hfollow.bind fun after hcontinues hfirst => ?_
      have hrest := ih hsubset after hcontinues.sound (hcontinues.stack ▸ htop)
        fun later required hlater => hvisit later required (hcontinues.trans hlater)
      refine hrest.imp fun last hlast hothers => ?_
      rintro other hother required hne hindex
      rcases List.mem_cons.mp hother with rfl | hother
      · exact hlast.order.mem (hfirst required hne hindex)
      · exact hothers other hother required hne hindex

/-- Leaving a table behind all that it waits for finishes it. -/
theorem leave_delivers {outcome : Except DependencyError Traversal}
    (h : Delivers nodes policy (traversal.enter position)
      (fun after => ∀ required, Requires nodes position required → required ∈ after.order) outcome) :
    Delivers nodes policy traversal (position ∈ ·.order)
      (outcome >>= fun after => .ok (after.leave position)) := by
  cases outcome with
  | error error => exact h
  | ok after =>
      obtain ⟨hcontinues, hrequired⟩ := h
      have hstack : after.stack = traversal.stack ++ [position] := hcontinues.stack
      have hleft := hcontinues.sound.leave hstack hrequired
      have horder : traversal.order <+: after.order ++ [position] :=
        hcontinues.order.trans (List.prefix_append _ _)
      exact ⟨⟨hleft, by simp [leave, hstack], horder⟩, by simp [leave]⟩

/-- A visit finishes its table. -/
theorem visit_delivers (depth position : Nat) (traversal : Traversal)
    (h : traversal.Sound nodes) (hmark : traversal.mark position = .unvisited)
    (hrequires : ∀ below ∈ traversal.stack.getLast?, Requires nodes below position)
    (hdepth : nodes.length ≤ depth + traversal.stack.length) :
    Delivers nodes policy traversal (position ∈ ·.order)
      (visit nodes policy depth position traversal) := by
  induction depth generalizing position traversal with
  | zero =>
      have := h.length_stack_lt hmark
      omega
  | succ depth ih =>
      have hlt : position < nodes.length :=
        h.size ▸ lt_length_of_mark_ne_done (by simp [hmark])
      have hnode : nodes[position]? = some nodes[position] := List.getElem?_eq_getElem hlt
      have hstack : (traversal.enter position).stack = traversal.stack ++ [position] := rfl
      -- Each table in progress takes one from the depth, so the depth still suffices below.
      have hvisit : ∀ after required, Continues nodes (traversal.enter position) after →
          Requires nodes position required → after.mark required = .unvisited →
          Delivers nodes policy after (required ∈ ·.order)
            (visit nodes policy depth required after) := by
        intro after required hcontinues hrequired hunvisited
        refine ih required after hcontinues.sound hunvisited ?_ ?_
        · simpa [hcontinues.stack, hstack] using hrequired
        · simp only [hcontinues.stack, hstack, List.length_append, List.length_singleton]
          omega
      have hfollowed := followAll_delivers hnode nodes[position].dependsOn (List.Subset.refl _)
        (traversal.enter position) (h.enter hmark hrequires) (by simp [hstack]) hvisit
      simp only [visit, hnode]
      refine leave_delivers (hfollowed.imp fun after _ hafter => ?_)
      rintro required ⟨node, hnode', dependency, hmem, hne, hindex⟩
      obtain rfl : nodes[position] = node := by simpa [hnode] using hnode'
      exact hafter dependency hmem required hne hindex

theorem visitAll_delivers (positions : List Nat) (hpositions : ∀ position ∈ positions,
      position < nodes.length) (traversal : Traversal) (h : traversal.Sound nodes)
    (hstack : traversal.stack = []) :
    Delivers nodes policy traversal (fun after => ∀ position ∈ positions, position ∈ after.order)
      (visitAll nodes policy positions traversal) := by
  induction positions generalizing traversal with
  | nil => exact ⟨.refl h, by simp⟩
  | cons position positions ih =>
      obtain ⟨hposition, hpositions⟩ := List.forall_mem_cons.mp hpositions
      have hrest : ∀ after, Continues nodes traversal after → position ∈ after.order →
          Delivers nodes policy after
            (fun last => ∀ other ∈ position :: positions, other ∈ last.order)
            (visitAll nodes policy positions after) := by
        intro after hcontinues hafter
        refine (ih hpositions after hcontinues.sound (hcontinues.stack.trans hstack)).imp ?_
        intro last hlast hothers other hother
        rcases List.mem_cons.mp hother with rfl | hother
        · exact hlast.order.mem hafter
        · exact hothers other hother
      cases hmark : traversal.mark position with
      | unvisited =>
          simp only [visitAll, hmark, if_true]
          exact (visit_delivers nodes.length position traversal h hmark (by simp [hstack])
            (Nat.le_add_right _ _)).bind hrest
      | inProgress =>
          have hmem := (h.mem_stack position).mpr hmark
          simp [hstack] at hmem
      | done =>
          simp only [visitAll, hmark, reduceCtorEq, if_false]
          exact hrest traversal (.refl h) ((h.mem_order position).mpr ⟨hposition, hmark⟩)

/-- The traversal of all tables finishes each of them, or fails for a reason. -/
theorem traverse_delivers (nodes : List DependencyNode) (policy : MissingPolicy) :
    Delivers nodes policy (.start nodes.length)
      (fun after => ∀ position < nodes.length, position ∈ after.order) (traverse nodes policy) := by
  have h : Delivers nodes policy (.start nodes.length)
      (fun after => ∀ position ∈ List.range nodes.length, position ∈ after.order)
      (traverse nodes policy) :=
    visitAll_delivers _ (fun position => List.mem_range.mp) _ (sound_start nodes) rfl
  exact h.imp fun after _ hafter position hlt => hafter position (List.mem_range.mpr hlt)

theorem sound_of_traverse_eq_ok (h : traverse nodes policy = .ok traversal) :
    traversal.Sound nodes ∧ ∀ position < nodes.length, position ∈ traversal.order := by
  have hdelivers := traverse_delivers nodes policy
  rw [h] at hdelivers
  exact ⟨hdelivers.1.sound, hdelivers.2⟩

theorem explained_of_traverse_eq_error {error : DependencyError}
    (h : traverse nodes policy = .error error) : Explained nodes policy error := by
  have hdelivers := traverse_delivers nodes policy
  rwa [h] at hdelivers

end SyntheticRows.Dependency
