import SyntheticRows.Proofs.Dependency.Cycle
import SyntheticRows.Proofs.Plan.Shape
import SyntheticRows.Proofs.Population.Blocks
import SyntheticRows.Schema.Inspection
/-!
# An inspection predicts runs

An inspection orders the tables of the schema, and a run orders the planned tables. Plans and rules
keep names, dependencies and the order of the tables, so both come to the same order, or to the same
circle of tables. A name that no table bears is skipped by both, so there is no third outcome.
-/

namespace SyntheticRows

/-- A report has an order and the dependencies skipped on the way, or it has a cycle. -/
theorem DependencyReport.ofNodes_cases (nodes : List DependencyNode) :
    (∃ ordered, topologicalOrder id nodes .skip = .ok ordered ∧
      (ofNodes nodes).order = some (ordered.items.map (·.name)) ∧ (ofNodes nodes).cycle = none ∧
      (ofNodes nodes).missing = ordered.missing) ∨
    ∃ names, topologicalOrder id nodes .skip = .error (.cyclic names) ∧
      (ofNodes nodes).order = none ∧ (ofNodes nodes).cycle = some names := by
  unfold ofNodes
  cases hordered : topologicalOrder id nodes .skip with
  | ok ordered => exact .inl ⟨ordered, rfl, rfl, rfl, rfl⟩
  | error error =>
      have htraverse := Dependency.topologicalOrder_eq_error_iff.mp hordered
      cases Dependency.explained_of_traverse_eq_error htraverse with
      | cyclic chain nodup => exact .inr ⟨_, rfl, rfl, rfl⟩

/-- Planned tables have the nodes of the tables of the schema. -/
theorem map_node_applyRules (schema : Schema) (config : RulesConfig) :
    (applyRules (planTables schema) config).tables.map (·.node) =
      schema.tables.map Table.node := by
  have hshape := (applyRules_toTable (planTables schema) config).trans (planTables_toTable schema)
  rw [← hshape, List.map_map]
  rfl

namespace Population

/-- **An inspection predicts runs.** A schema has either an order or a cycle. If it has an order, runs
for its tables succeed in this order with the missing dependencies of the inspection, whatever the
rules and the store are. If it has a cycle, they fail with it and leave everything as it was. -/
theorem dependencyReport_predicts_run (schema : Schema) :
    (∃ order, schema.dependencyReport.order = some order ∧ schema.dependencyReport.cycle = none ∧
      ∀ (σ : Type) (store : RowStore σ) (config : RulesConfig) (progress : Progress σ),
        ∃ report after,
          run store .skip (applyRules (planTables schema) config).tables progress =
            (.ok report, after) ∧
          report.order = order ∧ report.missing = schema.dependencyReport.missing) ∨
    ∃ names, schema.dependencyReport.order = none ∧ schema.dependencyReport.cycle = some names ∧
      ∀ (σ : Type) (store : RowStore σ) (config : RulesConfig) (progress : Progress σ),
        run store .skip (applyRules (planTables schema) config).tables progress =
          (.error (.dependency (.cyclic names)), progress) := by
  have hnodes : ∀ config, List.Forall₂ (fun node table => id node = PlannedTable.node table)
      (schema.tables.map Table.node) (applyRules (planTables schema) config).tables := by
    intro config
    apply forall₂_of_map_eq_map
    rw [List.map_id, ← map_node_applyRules schema config]
  have hsame := fun config =>
    Dependency.topologicalOrder_forall₂ (hnodes config) (fun _ _ heq => heq) .skip
  rcases DependencyReport.ofNodes_cases (schema.tables.map Table.node) with
    ⟨ordered, hordered, horder, hcycle, hmissing⟩ | ⟨names, hcyclic, horder, hcycle⟩
  · refine .inl ⟨_, horder, hcycle, fun σ store config progress => ?_⟩
    rcases hsame config with
      ⟨cause, hcause, _⟩ | ⟨first, planned, hfirst, hplanned, hitems, hskipped⟩
    · cases hordered.symm.trans hcause
    · obtain rfl := Except.ok.inj (hordered.symm.trans hfirst)
      have hnames : ordered.items.map (·.name) = planned.items.map (·.name) :=
        map_eq_map_of_forall₂ (hitems.imp fun node table heq => congrArg DependencyNode.name heq)
      exact ⟨_, _, run_eq_runOrdered hplanned store progress, hnames.symm,
        hskipped.symm.trans hmissing.symm⟩
  · refine .inr ⟨names, horder, hcycle, fun σ store config progress => ?_⟩
    rcases hsame config with ⟨cause, hcause, hplanned⟩ | ⟨first, _, hfirst, _⟩
    · obtain rfl := Except.error.inj (hcyclic.symm.trans hcause)
      simp only [run, hplanned]
    · cases hcyclic.symm.trans hfirst

end Population

end SyntheticRows
