import Mathlib.Data.List.Nodup
import SyntheticRows.Proofs.Dependency.Visit
/-!
# Marks, stack and order at every moment of a traversal

A traversal is followed from state to state: where the loop over all tables comes to a table, where
a visit is entered, looks at a dependency or has followed all of them, and where the loop ends. At
each of these moments the marks, the stack and the order tell the same story, so a table that is
found in progress is on the stack. What a visit enters is unvisited when it begins and done when it
ends, so no table is entered twice, and the depth of a visit is never used up.
-/

namespace SyntheticRows.Dependency

open Traversal

/-- Where a traversal stands. -/
inductive Point where
  /-- The loop over all tables comes to a table. -/
  | turn (position : Nat)
  /-- A table is visited, with so much depth left. -/
  | entry (depth position : Nat)
  /-- The visit of a table looks at a dependency. -/
  | look (position : Nat) (dependency : String)
  /-- The visit of a table has followed all its dependencies. -/
  | exit (position : Nat)
  /-- The loop over all tables ends. -/
  | finish
  deriving DecidableEq, Repr

/-- The state of a traversal at a point. -/
structure Moment where
  point : Point
  traversal : Traversal
  deriving DecidableEq, Repr

def Moment.entered? (moment : Moment) : Option Nat :=
  match moment.point with
  | .entry _ position => some position
  | _ => none

/-- The tables that are entered, in turn. -/
def entries (moments : List Moment) : List Nat :=
  moments.filterMap Moment.entered?

/-- The table that is visited for a dependency. -/
def visited? (nodes : List DependencyNode) (table dependency : String) (traversal : Traversal) :
    Option Nat :=
  if dependency == table then none
  else (indexOf? nodes dependency).filter (traversal.mark · = .unvisited)

/-- The moments at which dependencies are followed; `during` tells those of the visits. A failure is
the last moment. -/
def momentsFollowing (nodes : List DependencyNode) (policy : MissingPolicy)
    (visit : Nat → Traversal → Except DependencyError Traversal)
    (during : Nat → Traversal → List Moment) (position : Nat) (table : String) :
    List String → Traversal → List Moment
  | [], traversal => [⟨.exit position, traversal⟩]
  | dependency :: dependencies, traversal =>
      ⟨.look position dependency, traversal⟩ ::
        ((visited? nodes table dependency traversal).elim [] (during · traversal) ++
          match follow nodes policy visit table dependency traversal with
          | .error _ => []
          | .ok after =>
              momentsFollowing nodes policy visit during position table dependencies after)

/-- The moments of a visit. -/
def momentsVisiting (nodes : List DependencyNode) (policy : MissingPolicy) :
    (depth : Nat) → Nat → Traversal → List Moment
  | 0, position, traversal => [⟨.entry 0 position, traversal⟩]
  | depth + 1, position, traversal =>
      ⟨.entry (depth + 1) position, traversal⟩ ::
        match nodes[position]? with
        | none => []
        | some node =>
            momentsFollowing nodes policy (visit nodes policy depth)
              (momentsVisiting nodes policy depth) position node.name node.dependsOn
              (traversal.enter position)

/-- The moments of the loop over tables. -/
def momentsOfAll (nodes : List DependencyNode) (policy : MissingPolicy) :
    List Nat → Traversal → List Moment
  | [], traversal => [⟨.finish, traversal⟩]
  | position :: positions, traversal =>
      ⟨.turn position, traversal⟩ ::
        if traversal.mark position = .unvisited then
          momentsVisiting nodes policy nodes.length position traversal ++
            match visit nodes policy nodes.length position traversal with
            | .error _ => []
            | .ok after => momentsOfAll nodes policy positions after
        else momentsOfAll nodes policy positions traversal

/-- The moments of the traversal of all tables. -/
def moments (nodes : List DependencyNode) (policy : MissingPolicy) : List Moment :=
  momentsOfAll nodes policy (List.range nodes.length) (.start nodes.length)

variable {nodes : List DependencyNode} {policy : MissingPolicy} {before after traversal : Traversal}
  {position required depth : Nat} {node : DependencyNode} {table dependency : String}

/-! ### Visits that may begin -/

/-- A table may be visited that has no mark yet, for the table on top of the stack, with depth for
all tables that are not in progress. -/
structure Enterable (nodes : List DependencyNode) (depth position : Nat) (traversal : Traversal) :
    Prop where
  sound : traversal.Sound nodes
  unvisited : traversal.mark position = .unvisited
  requires : ∀ below ∈ traversal.stack.getLast?, Requires nodes below position
  depth : nodes.length ≤ depth + traversal.stack.length

namespace Enterable

theorem depth_pos (h : Enterable nodes depth position traversal) : 0 < depth := by
  have hroom := h.sound.length_stack_lt h.unvisited
  have hdepth := h.depth
  omega

theorem getElem? (h : Enterable nodes depth position traversal) :
    ∃ node, nodes[position]? = some node := by
  have hlt := lt_length_of_mark_ne_done (by simp [h.unvisited] : traversal.mark position ≠ .done)
  exact ⟨_, List.getElem?_eq_getElem (h.sound.size ▸ hlt)⟩

theorem sound_enter (h : Enterable nodes depth position traversal) :
    (traversal.enter position).Sound nodes :=
  h.sound.enter h.unvisited h.requires

/-- What a visit meets without a mark may be visited in turn, with one less of depth. -/
theorem inner (h : Enterable nodes (depth + 1) position traversal)
    (hcontinues : Continues nodes (traversal.enter position) after)
    (hrequires : Requires nodes position required) (hmark : after.mark required = .unvisited) :
    Enterable nodes depth required after := by
  have hstack : after.stack = traversal.stack ++ [position] := hcontinues.stack
  refine ⟨hcontinues.sound, hmark, by simpa [hstack] using hrequires, ?_⟩
  have hdepth := h.depth
  rw [hstack, List.length_append, List.length_singleton]
  omega

theorem delivers (h : Enterable nodes depth position traversal) :
    Delivers nodes policy traversal (position ∈ ·.order)
      (visit nodes policy depth position traversal) :=
  visit_delivers depth position traversal h.sound h.unvisited h.requires h.depth

end Enterable

/-- Looking at a dependency takes no part in a visit but the one that it begins. -/
theorem follow_congr {visit visit' : Nat → Traversal → Except DependencyError Traversal}
    (h : ∀ position ∈ visited? nodes table dependency traversal,
      visit position traversal = visit' position traversal) :
    follow nodes policy visit table dependency traversal =
      follow nodes policy visit' table dependency traversal := by
  unfold visited? at h
  unfold follow
  split at h
  next hname => rw [if_pos hname, if_pos hname]
  next hname =>
    rw [if_neg hname, if_neg hname]
    cases hindex : indexOf? nodes dependency with
    | none => rfl
    | some required =>
        cases hmark : traversal.mark required with
        | unvisited =>
            simp only [hmark]
            exact h required (by simp [hindex, hmark])
        | done | inProgress => simp only [hmark]

theorem follow_of_visited? {visit : Nat → Traversal → Except DependencyError Traversal}
    (h : visited? nodes table dependency traversal = some position) :
    follow nodes policy visit table dependency traversal = visit position traversal := by
  unfold visited? at h
  split at h
  next => cases h
  next hname =>
    obtain ⟨hindex, hmark⟩ := Option.filter_eq_some_iff.mp h
    have hmark : traversal.mark position = .unvisited := by simpa using hmark
    unfold follow
    rw [if_neg hname, hindex]
    simp only [hmark]

theorem requires_of_visited? (hnode : nodes[position]? = some node)
    (hmem : dependency ∈ node.dependsOn)
    (h : visited? nodes node.name dependency traversal = some required) :
    Requires nodes position required ∧ traversal.mark required = .unvisited := by
  unfold visited? at h
  split at h
  next => cases h
  next hname =>
    obtain ⟨hindex, hmark⟩ := Option.filter_eq_some_iff.mp h
    exact ⟨⟨node, hnode, dependency, hmem, by simpa using hname, hindex⟩, by simpa using hmark⟩

/-! ### The depth suffices -/

/-- Visits that agree where a table may be visited follow its dependencies alike. -/
theorem followAll_congr {visit visit' : Nat → Traversal → Except DependencyError Traversal}
    (hnode : nodes[position]? = some node) (dependencies : List String)
    (hsubset : dependencies ⊆ node.dependsOn) (traversal : Traversal) (h : traversal.Sound nodes)
    (htop : traversal.stack.getLast? = some position)
    (hvisit : ∀ after required, Continues nodes traversal after → Requires nodes position required →
      after.mark required = .unvisited →
      Delivers nodes policy after (required ∈ ·.order) (visit required after) ∧
        visit required after = visit' required after) :
    followAll nodes policy visit node.name dependencies traversal =
      followAll nodes policy visit' node.name dependencies traversal := by
  induction dependencies generalizing traversal with
  | nil => rfl
  | cons dependency dependencies ih =>
      obtain ⟨hmem, hsubset⟩ := List.cons_subset.mp hsubset
      have hsame : follow nodes policy visit node.name dependency traversal =
          follow nodes policy visit' node.name dependency traversal := by
        refine follow_congr fun required hrequired => ?_
        obtain ⟨hrequires, hmark⟩ := requires_of_visited? hnode hmem hrequired
        exact (hvisit traversal required (.refl h) hrequires hmark).2
      have hdelivers := follow_delivers h htop hnode hmem
        fun required hrequires hmark => (hvisit traversal required (.refl h) hrequires hmark).1
      unfold followAll
      rw [← hsame]
      cases hfollow : follow nodes policy visit node.name dependency traversal with
      | error error => rfl
      | ok after =>
          rw [hfollow] at hdelivers
          obtain ⟨hcontinues, -⟩ := hdelivers
          exact ih hsubset after hcontinues.sound (hcontinues.stack ▸ htop)
            fun later required hlater => hvisit later required (hcontinues.trans hlater)

/-- A visit that may begin does not depend on the depth. -/
theorem Enterable.visit_add (h : Enterable nodes depth position traversal) (more : Nat) :
    visit nodes policy (depth + more) position traversal =
      visit nodes policy depth position traversal := by
  induction depth generalizing position traversal with
  | zero => exact absurd h.depth_pos (Nat.lt_irrefl 0)
  | succ depth ih =>
      obtain ⟨node, hnode⟩ := h.getElem?
      rw [Nat.add_right_comm]
      simp only [visit, hnode]
      rw [followAll_congr hnode node.dependsOn (List.Subset.refl _) _ h.sound_enter
        (by simp [enter])]
      intro after required hcontinues hrequires hmark
      have hinner := h.inner hcontinues hrequires hmark
      have hsame := ih hinner
      exact ⟨hsame ▸ hinner.delivers, hsame⟩

/-! ### What holds at each moment -/

/-- At every moment the traversal is sound. Between visits no table is in progress, and during a
visit its table is on top of the stack. -/
inductive Fits (nodes : List DependencyNode) : Moment → Prop where
  | turn {position : Nat} {traversal : Traversal} (sound : traversal.Sound nodes)
      (idle : traversal.stack = []) : Fits nodes ⟨.turn position, traversal⟩
  | entry {depth position : Nat} {traversal : Traversal}
      (enterable : Enterable nodes depth position traversal) :
      Fits nodes ⟨.entry depth position, traversal⟩
  | look {position : Nat} {dependency : String} {traversal : Traversal}
      (sound : traversal.Sound nodes) (top : traversal.stack.getLast? = some position) :
      Fits nodes ⟨.look position dependency, traversal⟩
  | exit {position : Nat} {traversal : Traversal} (sound : traversal.Sound nodes)
      (top : traversal.stack.getLast? = some position) : Fits nodes ⟨.exit position, traversal⟩
  | finish {traversal : Traversal} (sound : traversal.Sound nodes)
      (idle : traversal.stack = []) : Fits nodes ⟨.finish, traversal⟩

theorem Fits.sound {moment : Moment} (h : Fits nodes moment) : moment.traversal.Sound nodes := by
  cases h with
  | entry enterable => exact enterable.sound
  | turn sound | look sound | exit sound | finish sound => exact sound

/-- What has no mark later had none before. -/
theorem Continues.unvisited (h : Continues nodes before after) (hbefore : before.Sound nodes)
    (hmark : after.mark position = .unvisited) : before.mark position = .unvisited := by
  have hlt : position < nodes.length :=
    h.sound.size ▸ lt_length_of_mark_ne_done (by simp [hmark])
  cases hfirst : before.mark position with
  | unvisited => rfl
  | inProgress =>
      have hstack := (hbefore.mem_stack position).mpr hfirst
      rw [← h.stack, h.sound.mem_stack, hmark] at hstack
      cases hstack
  | done =>
      have horder := h.order.mem ((hbefore.mem_order position).mpr ⟨hlt, hfirst⟩)
      rw [h.sound.mem_order, hmark] at horder
      cases horder.2

/-- The moments of a part of a traversal: what it enters is entered once, unvisited before and done
behind it. -/
structure Orderly (nodes : List DependencyNode) (before : Traversal)
    (outcome : Except DependencyError Traversal) (moments : List Moment) : Prop where
  fits : ∀ moment ∈ moments, Fits nodes moment
  nodup : (entries moments).Nodup
  unvisited : ∀ position ∈ entries moments, before.mark position = .unvisited
  continues : ∀ after, outcome = .ok after → Continues nodes before after
  done : ∀ after, outcome = .ok after → ∀ position ∈ entries moments, position ∈ after.order

theorem entries_append (front back : List Moment) :
    entries (front ++ back) = entries front ++ entries back :=
  List.filterMap_append

namespace Orderly

variable {outcome : Except DependencyError Traversal} {front back moments : List Moment}

theorem nil (h : ∀ after, outcome = .ok after → Continues nodes before after) :
    Orderly nodes before outcome [] :=
  ⟨by simp, .nil, by simp [entries], h, by simp [entries]⟩

/-- A moment at which no table is entered comes first. -/
theorem cons {moment : Moment} (hfits : Fits nodes moment) (hentered : moment.entered? = none)
    (h : Orderly nodes before outcome moments) :
    Orderly nodes before outcome (moment :: moments) := by
  have hentries : entries (moment :: moments) = entries moments :=
    List.filterMap_cons_none hentered
  refine ⟨List.forall_mem_cons.mpr ⟨hfits, h.fits⟩, ?_, ?_, h.continues, ?_⟩
  · rw [hentries]
    exact h.nodup
  · rw [hentries]
    exact h.unvisited
  · rw [hentries]
    exact h.done

/-- A part that goes on behind another one enters none of the tables that were entered there. -/
theorem append (hbefore : before.Sound nodes) (h : Orderly nodes before (.ok after) front)
    (h' : Orderly nodes after outcome back) : Orderly nodes before outcome (front ++ back) := by
  have hcontinues := h.continues after rfl
  refine ⟨List.forall_mem_append.mpr ⟨h.fits, h'.fits⟩, ?_, ?_, ?_, ?_⟩
  · rw [entries_append]
    refine List.nodup_append.mpr ⟨h.nodup, h'.nodup, ?_⟩
    rintro position hfront _ hback rfl
    have hdone := ((hcontinues.sound.mem_order position).mp (h.done after rfl position hfront)).2
    cases hdone.symm.trans (h'.unvisited position hback)
  · rw [entries_append]
    refine List.forall_mem_append.mpr ⟨h.unvisited, fun position hback => ?_⟩
    exact hcontinues.unvisited hbefore (h'.unvisited position hback)
  · exact fun last hlast => hcontinues.trans (h'.continues last hlast)
  · intro last hlast
    rw [entries_append]
    refine List.forall_mem_append.mpr ⟨fun position hfront => ?_, h'.done last hlast⟩
    exact (h'.continues last hlast).order.mem (h.done after rfl position hfront)

end Orderly

/-- A look at a dependency has the moments of the visit that it begins, if any. -/
theorem orderly_follow {visit : Nat → Traversal → Except DependencyError Traversal}
    {during : Nat → Traversal → List Moment} (h : traversal.Sound nodes)
    (htop : traversal.stack.getLast? = some position) (hnode : nodes[position]? = some node)
    (hmem : dependency ∈ node.dependsOn)
    (hvisit : ∀ required, Requires nodes position required → traversal.mark required = .unvisited →
      Delivers nodes policy traversal (required ∈ ·.order) (visit required traversal) ∧
        Orderly nodes traversal (visit required traversal) (during required traversal)) :
    Orderly nodes traversal (follow nodes policy visit node.name dependency traversal)
      ((visited? nodes node.name dependency traversal).elim [] (during · traversal)) := by
  cases hvisited : visited? nodes node.name dependency traversal with
  | none =>
      have hdelivers := follow_delivers h htop hnode hmem
        fun required hrequires hmark => (hvisit required hrequires hmark).1
      refine .nil fun after hafter => ?_
      rw [hafter] at hdelivers
      exact hdelivers.1
  | some required =>
      obtain ⟨hrequires, hmark⟩ := requires_of_visited? hnode hmem hvisited
      rw [follow_of_visited? hvisited]
      exact (hvisit required hrequires hmark).2

theorem orderly_momentsFollowing {visit : Nat → Traversal → Except DependencyError Traversal}
    {during : Nat → Traversal → List Moment} (hnode : nodes[position]? = some node)
    (dependencies : List String) (hsubset : dependencies ⊆ node.dependsOn) (traversal : Traversal)
    (h : traversal.Sound nodes) (htop : traversal.stack.getLast? = some position)
    (hvisit : ∀ after required, Continues nodes traversal after → Requires nodes position required →
      after.mark required = .unvisited →
      Delivers nodes policy after (required ∈ ·.order) (visit required after) ∧
        Orderly nodes after (visit required after) (during required after)) :
    Orderly nodes traversal (followAll nodes policy visit node.name dependencies traversal)
      (momentsFollowing nodes policy visit during position node.name dependencies traversal) := by
  induction dependencies generalizing traversal with
  | nil =>
      refine .cons (.exit h htop) rfl (.nil ?_)
      rintro _ ⟨⟩
      exact .refl h
  | cons dependency dependencies ih =>
      obtain ⟨hmem, hsubset⟩ := List.cons_subset.mp hsubset
      have hfirst := orderly_follow h htop hnode hmem
        fun required => hvisit traversal required (.refl h)
      unfold momentsFollowing followAll
      refine .cons (.look h htop) rfl ?_
      cases hfollow : follow nodes policy visit node.name dependency traversal with
      | error error =>
          rw [hfollow] at hfirst
          rw [List.append_nil]
          exact hfirst
      | ok after =>
          rw [hfollow] at hfirst
          have hcontinues := hfirst.continues after rfl
          refine hfirst.append h (ih hsubset after hcontinues.sound (hcontinues.stack ▸ htop) ?_)
          exact fun later required hlater => hvisit later required (hcontinues.trans hlater)

/-- The table of a visit is in progress during the visit and therefore not entered again. -/
theorem Orderly.entry {outcome : Except DependencyError Traversal} {inner : List Moment}
    (h : Enterable nodes depth position traversal)
    (hinner : Orderly nodes (traversal.enter position) outcome inner)
    (hvisit : visit nodes policy depth position traversal =
      outcome >>= fun after => .ok (after.leave position)) :
    Orderly nodes traversal (visit nodes policy depth position traversal)
      (⟨.entry depth position, traversal⟩ :: inner) := by
  have hlt := lt_length_of_mark_ne_done (by simp [h.unvisited] : traversal.mark position ≠ .done)
  have hentries :
      entries (⟨.entry depth position, traversal⟩ :: inner) = position :: entries inner :=
    List.filterMap_cons_some rfl
  have hother : ∀ other ∈ entries inner, other ≠ position ∧ traversal.mark other = .unvisited := by
    intro other hmem
    have hmark := hinner.unvisited other hmem
    rw [mark_enter hlt] at hmark
    split at hmark
    next => cases hmark
    next hne => exact ⟨hne, hmark⟩
  have hdelivers : Delivers nodes policy traversal (position ∈ ·.order)
      (visit nodes policy depth position traversal) := h.delivers
  refine ⟨List.forall_mem_cons.mpr ⟨.entry h, hinner.fits⟩, ?_, ?_, ?_, ?_⟩
  · rw [hentries]
    exact List.nodup_cons.mpr ⟨fun hmem => (hother position hmem).1 rfl, hinner.nodup⟩
  · rw [hentries]
    exact List.forall_mem_cons.mpr ⟨h.unvisited, fun other hmem => (hother other hmem).2⟩
  · intro after hafter
    rw [hafter] at hdelivers
    exact hdelivers.1
  · intro after hafter
    rw [hafter] at hdelivers
    rw [hentries]
    refine List.forall_mem_cons.mpr ⟨hdelivers.2, fun other hmem => ?_⟩
    rw [hvisit] at hafter
    cases outcome with
    | error error => cases hafter
    | ok last =>
        cases hafter
        exact List.mem_append_left [position] (hinner.done last rfl other hmem)

theorem Enterable.orderly (h : Enterable nodes depth position traversal) :
    Orderly nodes traversal (visit nodes policy depth position traversal)
      (momentsVisiting nodes policy depth position traversal) := by
  induction depth generalizing position traversal with
  | zero => exact absurd h.depth_pos (Nat.lt_irrefl 0)
  | succ depth ih =>
      obtain ⟨node, hnode⟩ := h.getElem?
      unfold momentsVisiting
      rw [hnode]
      refine .entry h (orderly_momentsFollowing hnode node.dependsOn (List.Subset.refl _) _
        h.sound_enter (by simp [enter]) ?_) (by simp only [visit, hnode])
      intro after required hcontinues hrequires hmark
      have hinner := h.inner hcontinues hrequires hmark
      exact ⟨hinner.delivers, ih hinner⟩

theorem orderly_momentsOfAll (positions : List Nat) (traversal : Traversal)
    (h : traversal.Sound nodes) (hidle : traversal.stack = []) :
    Orderly nodes traversal (visitAll nodes policy positions traversal)
      (momentsOfAll nodes policy positions traversal) := by
  induction positions generalizing traversal with
  | nil =>
      refine .cons (.finish h hidle) rfl (.nil ?_)
      rintro _ ⟨⟩
      exact .refl h
  | cons position positions ih =>
      unfold momentsOfAll visitAll
      refine .cons (.turn h hidle) rfl ?_
      split
      next hmark =>
        have henterable : Enterable nodes nodes.length position traversal :=
          ⟨h, hmark, by simp [hidle], Nat.le_add_right _ _⟩
        have hvisiting : Orderly nodes traversal
            (visit nodes policy nodes.length position traversal)
            (momentsVisiting nodes policy nodes.length position traversal) := henterable.orderly
        cases hvisit : visit nodes policy nodes.length position traversal with
        | error error =>
            rw [hvisit] at hvisiting
            rw [List.append_nil]
            exact hvisiting
        | ok after =>
            rw [hvisit] at hvisiting
            have hcontinues := hvisiting.continues after rfl
            exact hvisiting.append h (ih after hcontinues.sound (hcontinues.stack.trans hidle))
      next => exact ih traversal h hidle

/-- The moments of the traversal of all tables are those of one run from its start. -/
theorem orderly_moments (nodes : List DependencyNode) (policy : MissingPolicy) :
    Orderly nodes (.start nodes.length) (traverse nodes policy) (moments nodes policy) :=
  orderly_momentsOfAll _ _ (sound_start nodes) rfl

/-! ### How the moments end -/

/-- The last moment is a look at a dependency that fails, whatever a visit would do. -/
def FailsLast (nodes : List DependencyNode) (policy : MissingPolicy) (error : DependencyError)
    (moments : List Moment) : Prop :=
  ∃ position dependency traversal, [⟨.look position dependency, traversal⟩] <:+ moments ∧
    ∀ visit, follow nodes policy visit (nameAt nodes position) dependency traversal = .error error

theorem FailsLast.of_suffix {error : DependencyError} {back moments : List Moment}
    (h : FailsLast nodes policy error back) (hsuffix : back <:+ moments) :
    FailsLast nodes policy error moments := by
  obtain ⟨position, dependency, traversal, hlast, hfollow⟩ := h
  exact ⟨position, dependency, traversal, hlast.trans hsuffix, hfollow⟩

theorem failsLast_momentsFollowing {visit : Nat → Traversal → Except DependencyError Traversal}
    {during : Nat → Traversal → List Moment} {error : DependencyError}
    (hname : nameAt nodes position = table)
    (hvisit : ∀ required after, visit required after = .error error →
      FailsLast nodes policy error (during required after))
    (dependencies : List String) (traversal : Traversal)
    (h : followAll nodes policy visit table dependencies traversal = .error error) :
    FailsLast nodes policy error
      (momentsFollowing nodes policy visit during position table dependencies traversal) := by
  induction dependencies generalizing traversal with
  | nil => cases h
  | cons dependency dependencies ih =>
      unfold followAll at h
      unfold momentsFollowing
      cases hfollow : follow nodes policy visit table dependency traversal with
      | ok after =>
          rw [hfollow] at h
          refine (ih after h).of_suffix ?_
          exact (List.suffix_append _ _).trans (List.suffix_cons _ _)
      | error other =>
          rw [hfollow] at h
          obtain rfl : other = error := Except.error.inj h
          rw [List.append_nil]
          cases hvisited : visited? nodes table dependency traversal with
          | none =>
              -- No visit begins here, so any other visit would fail alike.
              refine ⟨position, dependency, traversal, List.suffix_refl _, fun visit' => ?_⟩
              rw [hname, ← hfollow]
              exact follow_congr (by simp [hvisited])
          | some required =>
              rw [follow_of_visited? hvisited] at hfollow
              exact (hvisit required traversal hfollow).of_suffix (List.suffix_cons _ _)

theorem failsLast_momentsVisiting {error : DependencyError}
    (h : visit nodes policy depth position traversal = .error error) :
    FailsLast nodes policy error (momentsVisiting nodes policy depth position traversal) := by
  induction depth generalizing position traversal with
  | zero => cases h
  | succ depth ih =>
      unfold momentsVisiting
      cases hnode : nodes[position]? with
      | none => simp [visit, hnode] at h
      | some node =>
          simp only [visit, hnode] at h
          cases hfollowed : followAll nodes policy (visit nodes policy depth) node.name
              node.dependsOn (traversal.enter position) with
          | ok after =>
              rw [hfollowed] at h
              cases h
          | error other =>
              rw [hfollowed] at h
              obtain rfl : other = error := Except.error.inj h
              have hname : nameAt nodes position = node.name := by simp [nameAt, hnode]
              refine (failsLast_momentsFollowing hname ?_ _ _ hfollowed).of_suffix
                (List.suffix_cons _ _)
              exact fun required after => ih

theorem failsLast_momentsOfAll {error : DependencyError} (positions : List Nat)
    (traversal : Traversal) (h : visitAll nodes policy positions traversal = .error error) :
    FailsLast nodes policy error (momentsOfAll nodes policy positions traversal) := by
  induction positions generalizing traversal with
  | nil => cases h
  | cons position positions ih =>
      unfold visitAll at h
      unfold momentsOfAll
      split
      next hmark =>
        rw [if_pos hmark] at h
        cases hvisit : visit nodes policy nodes.length position traversal with
        | error other =>
            rw [hvisit] at h
            obtain rfl : other = error := Except.error.inj h
            rw [List.append_nil]
            exact (failsLast_momentsVisiting hvisit).of_suffix (List.suffix_cons _ _)
        | ok after =>
            rw [hvisit] at h
            refine (ih after h).of_suffix ?_
            exact (List.suffix_append _ _).trans (List.suffix_cons _ _)
      next hmark =>
        rw [if_neg hmark] at h
        exact (ih traversal h).of_suffix (List.suffix_cons _ _)

theorem finish_suffix_momentsOfAll (positions : List Nat) (traversal : Traversal)
    (h : visitAll nodes policy positions traversal = .ok after) :
    [⟨.finish, after⟩] <:+ momentsOfAll nodes policy positions traversal := by
  induction positions generalizing traversal with
  | nil =>
      cases h
      exact List.suffix_refl _
  | cons position positions ih =>
      unfold visitAll at h
      unfold momentsOfAll
      split
      next hmark =>
        rw [if_pos hmark] at h
        cases hvisit : visit nodes policy nodes.length position traversal with
        | error error =>
            rw [hvisit] at h
            cases h
        | ok after =>
            rw [hvisit] at h
            exact (ih after h).trans ((List.suffix_append _ _).trans (List.suffix_cons _ _))
      next hmark =>
        rw [if_neg hmark] at h
        exact (ih traversal h).trans (List.suffix_cons _ _)

/-- What is found in progress has a place on the stack, and the names of a cycle begin there. -/
theorem Fits.exists_idxOf? (h : Fits nodes ⟨.look position dependency, traversal⟩)
    (hmark : traversal.mark required = .inProgress) :
    ∃ start, traversal.stack.idxOf? required = some start ∧
      traversal.stackFrom required = traversal.stack.drop start := by
  have hmem : required ∈ traversal.stack := (h.sound.mem_stack required).mpr hmark
  obtain ⟨start, hstart⟩ := Option.isSome_iff_exists.mp (List.isSome_idxOf?.mpr hmem)
  exact ⟨start, hstart, by rw [stackFrom, List.idxOf_eq_getD_idxOf?, hstart, Option.getD_some]⟩

/-- **At every moment of a traversal the stack lists the tables in progress, each required by the
one below it, and the order lists the finished ones.** Whatever the tables and their dependencies
look like, each table is entered once at most, and a visit has more depth than it uses: more of it
would change nothing. So a table that is found in progress is on the stack. The moments end with the
outcome of the traversal, the last look at a dependency in case of an error. -/
theorem sound_at_every_moment (nodes : List DependencyNode) (policy : MissingPolicy) :
    (∀ moment ∈ moments nodes policy, moment.traversal.Sound nodes) ∧
    ((entries (moments nodes policy)).Nodup ∧
      ∀ position ∈ entries (moments nodes policy), position < nodes.length) ∧
    (∀ depth position traversal, ⟨.entry depth position, traversal⟩ ∈ moments nodes policy →
      0 < depth ∧ ∀ more, visit nodes policy (depth + more) position traversal =
        visit nodes policy depth position traversal) ∧
    (∀ position dependency traversal required,
      ⟨.look position dependency, traversal⟩ ∈ moments nodes policy →
      indexOf? nodes dependency = some required → traversal.mark required = .inProgress →
      ∃ start, traversal.stack.idxOf? required = some start ∧
        traversal.stackFrom required = traversal.stack.drop start) ∧
    match traverse nodes policy with
    | .ok after => [⟨.finish, after⟩] <:+ moments nodes policy
    | .error error => FailsLast nodes policy error (moments nodes policy) := by
  have horderly := orderly_moments nodes policy
  refine ⟨fun moment hmoment => (horderly.fits moment hmoment).sound,
    ⟨horderly.nodup, fun position hentered => ?_⟩, fun depth position traversal hmoment => ?_,
    fun position dependency traversal required hmoment _ hmark =>
      (horderly.fits _ hmoment).exists_idxOf? hmark, ?_⟩
  · have hlt := lt_length_of_mark_ne_done
      (by simp [horderly.unvisited position hentered] :
        (start nodes.length).mark position ≠ .done)
    simpa [start] using hlt
  · cases horderly.fits _ hmoment with
    | entry henterable => exact ⟨henterable.depth_pos, henterable.visit_add⟩
  · split
    next after hafter => exact finish_suffix_momentsOfAll _ _ hafter
    next error herror => exact failsLast_momentsOfAll _ _ herror

/-- A list of tables with an own name, an unknown one, a repeated one and, above the bottom of the
stack, a circle. -/
theorem idxOf?_at_look_of_circle :
    let nodes : List DependencyNode :=
      [⟨"orders", ["orders", "lost", "items", "items", "users"]⟩, ⟨"users", ["groups"]⟩,
        ⟨"groups", ["users"]⟩, ⟨"items", []⟩, ⟨"users", []⟩]
    let traversal : Traversal :=
      { marks := [.inProgress, .inProgress, .inProgress, .done, .unvisited]
        stack := [0, 1, 2]
        order := [3]
        missing := [⟨"orders", "lost"⟩] }
    ⟨.look 2 "users", traversal⟩ ∈ moments nodes .skip ∧ indexOf? nodes "users" = some 1 ∧
      traversal.mark 1 = .inProgress ∧
      ∃ start, traversal.stack.idxOf? 1 = some start ∧
        traversal.stackFrom 1 = traversal.stack.drop start := by
  intro nodes traversal
  have hlook : ⟨.look 2 "users", traversal⟩ ∈ moments nodes .skip := by decide
  have hindex : indexOf? nodes "users" = some 1 := by decide
  have hmark : traversal.mark 1 = .inProgress := by decide
  exact ⟨hlook, hindex, hmark,
    (sound_at_every_moment nodes .skip).2.2.2.1 2 "users" traversal 1 hlook hindex hmark⟩

end SyntheticRows.Dependency
