import SyntheticRows.Population.Report
import SyntheticRows.Proofs.Json.Record
import SyntheticRows.Rule.Reader
import SyntheticRows.Schema.Document
/-!
# Reading artifacts back

The documents of schemas, of configurations and of reports are readable, as all their parts are. So
what stands in a file that was written for one of them is the value that it was written for.
-/

namespace SyntheticRows

open Json

/-! ### Schemas -/

theorem PlainType.ofKind?_kind (type : PlainType) : PlainType.ofKind? type.kind = some type := by
  cases type <;> rfl

theorem readable_parameter :
    Readable ColumnType.parameterDocument (fun document => nullable? unsigned32? (some document)) :=
  readable_unsigned32.optional rfl

/-- No plain type has the kind of a type with parameters. -/
theorem ofKind?_eq_none : ∀ kind ∈ ["numeric", "char", "var_char", "bit", "var_bit", "time",
    "timestamp", "interval"], PlainType.ofKind? kind = none := by
  decide

theorem ColumnType.readable : Readable ColumnType.toDocument ColumnType.ofDocument? where
  whole type := by
    have hparameter := readable_parameter.whole
    cases type <;> exact .object (by simp [hparameter])
  decode_encode type := by
    have hparameter := readable_parameter.decode_encode
    cases type with
    | plain type =>
        simp [toDocument, ofDocument?, kindOf?, string?, noParameters?, PlainType.ofKind?_kind]
    | numeric precision scale =>
        simp [toDocument, ofDocument?, kindOf?, string?, ofKind?_eq_none, numericParameters?,
          hparameter]
    | char length | varChar length | bit length | varBit length | interval precision =>
        simp [toDocument, ofDocument?, kindOf?, string?, ofKind?_eq_none, onlyParameter?, hparameter]
    | time precision withTimeZone | timestamp precision withTimeZone =>
        simp [toDocument, ofDocument?, kindOf?, string?, bool?, ofKind?_eq_none, zonedParameters?,
          hparameter]

theorem Reference.readable : Readable Reference.toDocument Reference.ofDocument? where
  whole reference := by
    have hcolumn := (readable_string.optional rfl).whole reference.column
    exact .object (by simp [hcolumn])
  decode_encode reference := by
    have hcolumn := (readable_string.optional rfl).decode_encode reference.column
    simp [toDocument, ofDocument?, string?, hcolumn]

theorem Column.readable : Readable Column.toDocument Column.ofDocument? where
  whole column := by
    have htype := ColumnType.readable.whole column.type
    have hreferences := (Reference.readable.optional rfl).whole column.references
    exact .object (by simp [htype, hreferences])
  decode_encode column := by
    have htype := ColumnType.readable.decode_encode column.type
    have hreferences := (Reference.readable.optional rfl).decode_encode column.references
    simp [toDocument, ofDocument?, string?, bool?, defaulted?, htype, hreferences]

theorem Table.readable : Readable Table.toDocument Table.ofDocument? where
  whole table := by
    have hcolumns := Column.readable.list.whole table.columns
    have hnames := readable_strings.whole
    exact .object (by simp [hcolumns, hnames])
  decode_encode table := by
    have hcolumns := Column.readable.list.decode_encode table.columns
    have hnames := readable_strings.decode_encode
    simp [toDocument, ofDocument?, string?, hcolumns, hnames]

theorem Schema.readable : Readable Schema.toDocument Schema.ofDocument? where
  whole schema := by
    have hdatabase := (readable_string.optional rfl).whole schema.database
    have htables := Table.readable.list.whole schema.tables
    exact .object (by simp [hdatabase, htables])
  decode_encode schema := by
    have hdatabase := (readable_string.optional rfl).decode_encode schema.database
    have htables := Table.readable.list.decode_encode schema.tables
    simp [toDocument, ofDocument?, string?, hdatabase, htables]

/-! ### Configurations -/

theorem TableRule.readable : Readable TableRule.toDocument TableRule.ofDocument? where
  whole rule := by
    have hrows := readable_unsigned64.whole rule.rows
    have hcolumns := readable_string.nameMap.whole rule.columns
    exact .object (by simp [hrows, hcolumns])
  decode_encode rule := by
    have hrows := readable_unsigned64.decode_encode rule.rows
    have hcolumns := readable_string.nameMap.decode_encode rule.columns
    simp [toDocument, ofDocument?, defaulted?, hrows, hcolumns]

theorem RulesConfig.readable : Readable RulesConfig.toDocument RulesConfig.ofDocument? where
  whole config := by
    have htables := TableRule.readable.nameMap.whole config.tables
    exact .object (by simp [htables])
  decode_encode config := by
    have htables := TableRule.readable.nameMap.decode_encode config.tables
    simp [toDocument, ofDocument?, defaulted?, htables]

/-! ### Reports -/

theorem MissingDependency.readable :
    Readable MissingDependency.toDocument MissingDependency.ofDocument? where
  whole missing := .object (by simp)
  decode_encode missing := by simp [toDocument, ofDocument?, string?]

theorem TableReport.readable : Readable TableReport.toDocument TableReport.ofDocument? where
  whole report := by
    have hcount := readable_unsigned64.whole
    cases hstatus : report.status <;>
      exact .object (by simp [hcount, hstatus, TableStatus.toFields])
  decode_encode report := by
    have hcount := readable_unsigned64.decode_encode
    obtain ⟨table, requested, inserted, failed, status⟩ := report
    cases status <;>
      simp [toDocument, TableStatus.toFields, ofDocument?, TableStatus.ofDocument?,
        TableStatus.name?, TableStatus.abortedOf?, string?, hcount]

theorem PopulationReport.readable :
    Readable PopulationReport.toDocument PopulationReport.ofDocument? where
  whole report := by
    have hnames := readable_strings.whole
    have hmissing := MissingDependency.readable.list.whole report.missing
    have htables := TableReport.readable.list.whole report.tables
    exact .object (by simp [hnames, hmissing, htables])
  decode_encode report := by
    have hnames := readable_strings.decode_encode
    have hmissing := MissingDependency.readable.list.decode_encode report.missing
    have htables := TableReport.readable.list.decode_encode report.tables
    simp [toDocument, ofDocument?, hnames, hmissing, htables]

/-- **Artifacts are read back.** The text that is written for a schema, for a configuration or for
a report holds the document of exactly that schema, configuration or report, whatever characters
its names and texts have and however large its numbers are. -/
theorem artifacts_read_back :
    (∀ schema : Schema,
      (Json.read? schema.toDocument.pretty).bind Schema.ofDocument? = some schema) ∧
    (∀ config : RulesConfig,
      RulesConfig.read? .json config.toDocument.pretty = some config) ∧
    ∀ report : PopulationReport,
      (Json.read? report.toDocument.pretty).bind PopulationReport.ofDocument? = some report :=
  ⟨Schema.readable.read?_pretty, RulesConfig.readable.read?_pretty,
    PopulationReport.readable.read?_pretty⟩

end SyntheticRows
