import SyntheticRows.Proofs.Population.Sound
/-!
# Foreign keys of a dry run

If inserts name a column, a foreign key holds what was sampled from the referenced column. If not, it
holds the number of the row, and whether the referenced column has that number is a matter of its
rows.
-/

namespace SyntheticRows.Population

open MemoryStore

variable {tables : List PlannedTable} {table : PlannedTable} {column : PlannedColumn}
  {store : MemoryStore}

theorem toString_injective {left right : Nat} (h : toString left = toString right) :
    left = right := by
  have hdigits : Nat.toDigits 10 left = Nat.toDigits 10 right := by
    rw [← Nat.toList_repr, ← Nat.toList_repr]
    exact congrArg String.toList h
  rw [← Nat.ofDigitChars_ten_toDigits (n := left), hdigits, Nat.ofDigitChars_ten_toDigits]

/-- No insert names a column that the store numbers. -/
theorem inserts_eq_false_of_isSequenceColumn
    (h : MemoryTable.isSequenceColumn table column = true) : table.inserts column = false := by
  unfold MemoryTable.isSequenceColumn at h
  unfold PlannedTable.inserts Column.isInsertable
  rcases Bool.or_eq_true_iff.mp h with hgenerated | hkey
  · simp [hgenerated]
  · simp [hkey]

/-- A numbered column holds the numbers of the rows that there are. -/
theorem SoundStore.holds_number_iff (h : SoundStore tables store) (hmem : table ∈ tables)
    (hcolumn : column ∈ table.columns)
    (hsequence : MemoryTable.isSequenceColumn table column = true) (index : Nat) :
    store.Holds ⟨table.name, column.name⟩ (toString (index + 1)) ↔
      index < (store.rows table.name).length := by
  obtain ⟨found, hfound, hsound⟩ := h table hmem
  have hrows : store.rows table.name = found.rows.toList := by rw [rows, hfound]
  have hnumber : ∀ position row, found.rows.toList[position]? = some row →
      row.get? column.name = some (toString (position + 1)) := by
    intro position row hrow
    rw [(hsound.rows position row hrow).numbered column hcolumn
      (inserts_eq_false_of_isSequenceColumn hsequence), if_pos hsequence]
  unfold Holds
  rw [hrows]
  constructor
  · rintro ⟨row, hrow, hvalue⟩
    obtain ⟨position, hposition⟩ := List.mem_iff_getElem?.mp hrow
    rw [hnumber position row hposition, Option.some.injEq] at hvalue
    have hsame := toString_injective hvalue
    have := (List.getElem?_eq_some_iff.mp hposition).1
    omega
  · intro hlt
    have hrow := List.getElem?_eq_getElem hlt
    exact ⟨_, List.getElem_mem hlt, hnumber index _ hrow⟩

/-- A foreign key that inserts name is held where it points. -/
theorem SoundRow.referenced {index : Nat} {row : Row} (h : SoundRow tables store table index row)
    (hmem : column ∈ table.columns) (hinserts : table.inserts column = true)
    (hforeign : column.column.isForeignKey = true) {value : String}
    (hvalue : row.get? column.name = some value) :
    ∃ key, resolveReference table column tables = .ok key ∧ store.Holds key value := by
  obtain ⟨source, held, hsource, hheld, hholds⟩ :=
    h.supplied column (List.mem_filter.mpr ⟨hmem, hinserts⟩)
  obtain rfl : value = held := Option.some.inj (hvalue.symm.trans hheld)
  cases hsource with
  | generated own =>
      rw [own] at hforeign
      cases hforeign
  | @referenced key _ resolved => exact ⟨key, resolved, hholds key rfl⟩

/-- What a foreign key of a dry run holds: for a column that inserts name, a value of the referenced
column; for another one, the number of its row, which a numbered column has exactly if the referenced
table has so many rows. -/
theorem foreign_keys_held_or_numbered (schema : Schema) (config : RulesConfig)
    (policy : MissingPolicy) (stream : RandomStream) (hvalid : schema.validate = .ok ()) :
    let tables := (applyRules (planTables schema) config).tables
    let store := (populateInMemory policy tables stream).2.store
    ∀ table ∈ tables, ∀ index row, (store.rows table.name)[index]? = some row →
      ∀ column ∈ table.columns, column.column.isForeignKey = true →
        ∀ value, row.get? column.name = some value →
          (table.inserts column = true →
            ∃ key, resolveReference table column tables = .ok key ∧ store.Holds key value) ∧
          (table.inserts column = false →
            value = toString (index + 1) ∧
            ∀ key, resolveReference table column tables = .ok key →
              ∀ other ∈ tables, other.name = key.table →
                ∀ target ∈ other.columns, target.name = key.column →
                  MemoryTable.isSequenceColumn other target = true →
                    (store.Holds key value ↔ index < (store.rows key.table).length)) := by
  intro tables store table hmem index row hrow column hcolumn hforeign value hvalue
  have hnames : DistinctNames tables := distinctNames_of_validate_eq_ok hvalid config
  have hsound : SoundStore tables store := soundStore_populateInMemory hnames policy stream
  obtain ⟨found, hfound, hsoundTable⟩ := hsound table hmem
  have hrows : store.rows table.name = found.rows.toList := by rw [rows, hfound]
  have hsoundRow := hsoundTable.rows index row (hrows ▸ hrow)
  refine ⟨fun hinserts => hsoundRow.referenced hcolumn hinserts hforeign hvalue,
    fun hinserts => ?_⟩
  have hnumbered := hsoundRow.numbered column hcolumn hinserts
  have hnumber : value = toString (index + 1) := by
    rw [hvalue] at hnumbered
    split at hnumbered
    · exact Option.some.inj hnumbered
    · cases hnumbered
  refine ⟨hnumber, fun key _ other hother hname target htarget hkey hsequence => ?_⟩
  obtain ⟨keyTable, keyColumn⟩ := key
  obtain rfl : other.name = keyTable := hname
  obtain rfl : target.name = keyColumn := hkey
  rw [hnumber]
  exact hsound.holds_number_iff hother htarget hsequence index

/-! ### A foreign key that is the primary key -/

/-- Users, and profiles that have the key of their user and name another user. -/
def profileSchema : Schema :=
  { engine := "postgres"
    database := none
    namespaceName := "public"
    tables :=
      [⟨"users", [⟨"id", "integer", .plain .integer, false, none, false⟩], ["id"], []⟩,
        ⟨"profiles",
          [⟨"user_id", "integer", .plain .integer, true, some ⟨"users", some "id"⟩, false⟩,
            ⟨"inviter_id", "integer", .plain .integer, true, some ⟨"users", none⟩, false⟩],
          ["user_id"], ["users"]⟩] }

/-- One user and two profiles. -/
def profileConfig : RulesConfig :=
  { tables := .ofList [("users", ⟨1, .empty⟩), ("profiles", ⟨2, .empty⟩)] }

/-- Inserts name the inviter, who is the user; the key of the second profile is its number, which no
user has. -/
theorem foreign_keys_of_profiles_held_or_numbered :
    let store := (populateInMemory .skip (applyRules (planTables profileSchema) profileConfig).tables
      (.ofSeed 0)).2.store
    profileSchema.validate = .ok () ∧
      (∃ row, (store.rows "profiles")[1]? = some row ∧ row.get? "inviter_id" = some "1" ∧
        row.get? "user_id" = some "2") ∧
      store.Holds ⟨"users", "id"⟩ "1" ∧ ¬store.Holds ⟨"users", "id"⟩ "2" := by
  intro store
  have hvalid : profileSchema.validate = .ok () := by decide
  obtain ⟨hvalues, hcount⟩ :
      ((store.rows "profiles")[1]?).map (fun row => (row.get? "inviter_id", row.get? "user_id")) =
        some (some "1", some "2") ∧ (store.rows "users").length = 1 := by decide +kernel
  obtain ⟨row, hrow, hvalues⟩ := Option.map_eq_some_iff.mp hvalues
  obtain ⟨hinviter, huser⟩ := Prod.mk.inj hvalues
  let tables := (applyRules (planTables profileSchema) profileConfig).tables
  obtain ⟨table, hmem, hname, ⟨inviter, hinviterMem, hinviterName, hinviterForeign, hinserts,
      hinviterKey⟩, user, huserMem, huserName, huserForeign, hnumbered, huserKey⟩ :
      ∃ table ∈ tables, table.name = "profiles" ∧
        (∃ column ∈ table.columns, column.name = "inviter_id" ∧
          column.column.isForeignKey = true ∧ table.inserts column = true ∧
          resolveReference table column tables = .ok ⟨"users", "id"⟩) ∧
        ∃ column ∈ table.columns, column.name = "user_id" ∧
          column.column.isForeignKey = true ∧ table.inserts column = false ∧
          resolveReference table column tables = .ok ⟨"users", "id"⟩ := by decide
  obtain ⟨other, hother, hotherName, target, htarget, htargetName, hsequence⟩ :
      ∃ other ∈ tables, other.name = "users" ∧ ∃ target ∈ other.columns, target.name = "id" ∧
        MemoryTable.isSequenceColumn other target = true := by decide
  have hrows := foreign_keys_held_or_numbered profileSchema profileConfig .skip (.ofSeed 0) hvalid
    table hmem 1 row (hname ▸ hrow)
  have hheld := (hrows inviter hinviterMem hinviterForeign "1" (hinviterName ▸ hinviter)).1 hinserts
  have hnumber := ((hrows user huserMem huserForeign "2" (huserName ▸ huser)).2 hnumbered).2
    ⟨"users", "id"⟩ huserKey other hother hotherName target htarget htargetName hsequence
  refine ⟨hvalid, ⟨row, hrow, hinviter, huser⟩, ?_, ?_⟩
  · obtain ⟨key, hkey, hheld⟩ := hheld
    obtain rfl := Except.ok.inj (hinviterKey.symm.trans hkey)
    exact hheld
  · rw [hnumber, Nat.not_lt]
    exact Nat.le_of_eq hcount

/-- A consistent schema, whose references point at listed tables and at their columns, does not
suffice for stored references to be held. -/
theorem foreign_key_of_second_profile_unheld :
    let applied := applyRules (planTables profileSchema) profileConfig
    let store := (populateInMemory .skip applied.tables (.ofSeed 0)).2.store
    profileSchema.validate = .ok () ∧ applied.outcome = .ok () ∧
      (∀ table ∈ applied.tables, ∀ column ∈ table.columns, column.column.isForeignKey = true →
        ∃ key, resolveReference table column applied.tables = .ok key ∧
          key.table ∈ table.dependsOn ∧ ∃ other ∈ applied.tables, other.name = key.table ∧
            ∃ target ∈ other.columns, target.name = key.column) ∧
      ¬∀ table ∈ applied.tables, ∀ row ∈ store.rows table.name, ∀ column ∈ table.columns,
        column.column.isForeignKey = true → ∀ value, row.get? column.name = some value →
          ∃ key, resolveReference table column applied.tables = .ok key ∧
            store.Holds key value := by
  intro applied store
  have hresolved : ∀ table ∈ applied.tables, ∀ column ∈ table.columns,
      column.column.isForeignKey = true →
        resolveReference table column applied.tables = .ok ⟨"users", "id"⟩ ∧
          "users" ∈ table.dependsOn ∧ ∃ other ∈ applied.tables, other.name = "users" ∧
            ∃ target ∈ other.columns, target.name = "id" := by decide
  obtain ⟨table, hmem, hname, column, hcolumn, hcolumnName, hforeign⟩ :
      ∃ table ∈ applied.tables, table.name = "profiles" ∧ ∃ column ∈ table.columns,
        column.name = "user_id" ∧ column.column.isForeignKey = true := by decide
  obtain ⟨⟨row, hrow, hvalue⟩, hunheld⟩ :
      (∃ row ∈ store.rows "profiles", row.get? "user_id" = some "2") ∧
        ∀ held ∈ store.rows "users", held.get? "id" ≠ some "2" := by decide +kernel
  refine ⟨by decide, by decide, fun table hmem column hcolumn hforeign =>
    ⟨_, hresolved table hmem column hcolumn hforeign⟩, fun hheld => ?_⟩
  obtain ⟨key, hkey, held, hmemHeld, hvalueHeld⟩ :=
    hheld table hmem row (hname ▸ hrow) column hcolumn hforeign "2" (hcolumnName ▸ hvalue)
  obtain rfl := Except.ok.inj ((hresolved table hmem column hcolumn hforeign).1.symm.trans hkey)
  exact hunheld held hmemHeld hvalueHeld

end SyntheticRows.Population
