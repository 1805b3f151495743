/-
# EntityTables.Proofs.Content.Addresses — where the identifiers that are given out lead

The identifier of a type's table leads to the type, if the table's name is one that identifiers can
have. The identifier that an addition gives leads to the new row, unless values gave the row a
negative identity: such a row is there, and its identifier is refused.

* `resolve_eq_ok`, `resolve_run` — what it means that an identifier leads somewhere.
* `Instance.Stands` — the table of a type is there; `queryRows_byIdentity` — a search for one row.
* `ContentAccess.leads_back` — what exactly the identifiers that are given out lead to.
-/
import EntityTables.Proofs.Content.Batches
import EntityTables.Proofs.Content.Uri
import EntityTables.Proofs.Registry.Tables
import Mathlib.Data.Set.List

namespace EntityTables

set_option autoImplicit false

open EntityTables.Action Sql Database

/-! ## Types by their tables, again -/

namespace Registry

variable {registry after : Registry} {own : Instance} {table : String}

/-- Once a table was found for a type, it is found for that type again. -/
theorem Coherent.findTable_again (coherent : registry.Coherent)
    (distinct : (registry.registered.map Mapping.path).Nodup) (formed : registry.Formed)
    (found : findTable table registry = (.ok (some own), after)) :
    ∃ last, findTable table after = (.ok (some own), last) := by
  obtain ⟨first, knowing, ran, grows, still, owned, same⟩ :=
    coherent.findTable_run distinct formed table
  rw [found] at ran
  cases ran
  obtain ⟨second, last, again, more, -, further, again_same⟩ := still.findTable_run
    (grows.registered ▸ distinct) (fun other among => formed other (grows.registered ▸ among)) table
  rw [grows.registered, ← same] at again_same
  obtain ⟨other, rfl, whose⟩ := Option.map_eq_some_iff.mp again_same
  -- both are the one that is there for the type
  have there := (further other rfl).there
  rw [whose, (more.owns (owned own rfl)).there] at there
  cases there
  exact ⟨last, again⟩

end Registry

/-! ## One row -/

/-- A column that is given a value holds a value. -/
theorem Storage.exists_keep_value (storage : Storage) (given : Value) :
    ∃ held, storage.keep (.value given) = .value held := by
  have number : ∃ held, numeric (.value given) = .value held := by
    cases given with
    | text s => exact ⟨_, rfl⟩
    | _ => exact ⟨_, rfl⟩
  have whole : ∃ held, integral (.value given) = .value held := by
    obtain ⟨held, same⟩ := number
    rw [integral, same]
    cases held with
    | real x => exact ⟨_, rfl⟩
    | _ => exact ⟨_, rfl⟩
  cases storage with
  | integer => exact whole
  | real =>
    obtain ⟨held, same⟩ := whole
    rw [Storage.keep, same]
    cases held with
    | integer i => exact ⟨_, rfl⟩
    | _ => exact ⟨_, rfl⟩
  | text =>
    cases given with
    | integer i => exact ⟨_, rfl⟩
    | real x => exact ⟨_, rfl⟩
    | _ => exact ⟨_, rfl⟩
  | blob => exact ⟨given, rfl⟩

/-- The cells that values make can all be read. -/
theorem RowValues.exists_keptCells (definition : TableDefinition) (values : RowValues) :
    ∃ held : List Value, values.keptCells definition = held.map Cell.value := by
  have each : ∀ cell ∈ values.keptCells definition, cell ∈ Set.range Cell.value := by
    intro cell member
    obtain ⟨⟨⟨name, storage⟩, index⟩, -, rfl⟩ := List.mem_map.mp member
    have given : ∃ v, (valueFor? definition (.stored index) values.entries).elim .null
        Cell.ofValue = .value v := by
      cases valueFor? definition (.stored index) values.entries with
      | none => exact ⟨.null, rfl⟩
      | some value => cases value <;> exact ⟨_, rfl⟩
    obtain ⟨v, same⟩ := given
    obtain ⟨held, kept⟩ := Storage.exists_keep_value storage v
    exact ⟨held, (same ▸ kept).symm⟩
  have whole : values.keptCells definition ∈ Set.range (List.map Cell.value) := by
    rw [Set.range_list_map]
    exact each
  obtain ⟨held, same⟩ := whole
  exact ⟨held, same.symm⟩

/-- The table of a type is there: it has the name, and the type's identity column means the identity
of its rows. -/
structure Instance.Stands (found : Instance) (database : Database) (table : Table) : Prop where
  there : database.table found.table = .ok table
  identified : table.definition.place? found.identity = some .identity
  free : '\x00' ∉ found.identity.toList

section OneRow

variable {connection : Connection} {table : Table} {found : Instance} {identity : Int64}
  {row : StoredRow}

/-- A search for all columns of the one row of an identity, carried out. -/
theorem Instance.Stands.run_select {database : Database} (stands : found.Stands database table)
    (single : table.matching (some (Table.hasIdentity identity)) = [row])
    (whole : row.cells.length = table.definition.columns.length) :
    database.run (.select [] found.table
        (some (.compare (columnNameOf found.identity) .equal .placeholder)) [])
        [.integer identity] =
      .ok (.found [Table.entries table.definition row], database) := by
  have bound : (Statement.select [] found.table (some (.compare (columnNameOf found.identity)
      .equal .placeholder)) []).bind ([Value.integer identity].map Cell.ofValue) =
        .select [] found.table (some (.compare (columnNameOf found.identity) .equal
          (.value (.integer identity)))) [] := rfl
  have counted : countValues [Value.integer identity].length (Statement.placeholders
      (.select [] found.table (some (.compare (columnNameOf found.identity) .equal
        .placeholder)) [])) = .ok () := rfl
  have placed : table.condition (some (.compare (columnNameOf found.identity) .equal
      (.value (.integer identity)))) = .ok (some (Table.hasIdentity identity)) :=
    (binds_equal stands.identified (.integer identity)).placed
  have all : table.selection [] = .ok table.definition.places := rfl
  have order : table.order [] = .ok [] := rfl
  have selected : table.select table.definition.places (some (Table.hasIdentity identity)) [] =
      [Table.entries table.definition row] := by
    rw [Table.select, single]
    simp [Table.project_places whole]
  unfold Database.run
  rw [bound, counted, carryOut, stands.there]
  simp only [bind, Except.bind, all, placed, order, selected]
  rfl

/-- A search for all columns of the one row of an identity. -/
theorem Connection.queryRows_byIdentity (stands : found.Stands connection.database table)
    (named : '\x00' ∉ found.table.toList)
    (single : table.matching (some (Table.hasIdentity identity)) = [row])
    (whole : row.cells.length = table.definition.columns.length) :
    Gateway.queryRows found.table [] (.byIdentity found.identity identity) none connection =
      ([Table.entries table.definition row].mapM readRow,
        connection.after (selectText found.table [] (.byIdentity found.identity identity) none)
          connection.database) := by
  have means := Predicate.means_columnEquals stands.free (.integer identity)
  have read : script (selectText found.table [] (.byIdentity found.identity identity)
      (Option.none.map quoteName)) = [some (.select [] found.table
        (some (.compare (columnNameOf found.identity) .equal .placeholder)) [])] :=
    script_selectText named (by simp) means nofun
  rw [Option.map_none] at read
  show rows (selectText found.table [] (.byIdentity found.identity identity) none)
    [.integer identity] connection = _
  rw [rows, bind_run, run_run (firstStatement?_of_script read), stands.run_select single whole]
  simp only
  cases [Table.entries table.definition row].mapM readRow <;> rfl

/-- The row that a table has gained is the one with its identity. -/
theorem Database.Table.Gains.matching_eq {values : RowValues} {changed : Table}
    (gains : table.Gains [values] [row] changed) :
    changed.matching (some (Table.hasIdentity row.identity)) = [row] := by
  have free : table.rows.filter (fun old => decide (old.identity = row.identity)) = [] := by
    refine List.filter_eq_nil_iff.mpr fun old member => ?_
    simpa using List.any_eq_false.mp (gains.free row List.mem_cons_self) old member
  have perm := gains.rows.filter fun old => decide (old.identity = row.identity)
  rw [List.filter_append, free, List.nil_append] at perm
  rw [Table.matching_hasIdentity]
  exact List.perm_singleton.mp (by simpa using perm)

end OneRow

/-! ## Identifiers that lead somewhere -/

namespace ContentAccess

variable {session after : Session Connection} {authority text : String} {found : Instance}
  {selector : RowSelector}

/-- An identifier with the right authority leads to the type that its table is found for. -/
theorem resolve_run {uri : ContentUri} {last : Registry} (read : ContentUri.ofText? text = some uri)
    (own : uri.authority = authority)
    (searched : Registry.findTable uri.table session.registry = (.ok (some found), last)) :
    resolve authority text session =
      (.ok (found, uri.selector), { session with registry := last }) := by
  unfold resolve
  rw [bind_run, ofExcept_run_eq_ok_iff.mpr ⟨ContentUri.parse_eq_ok_iff.mpr read, rfl⟩]
  simp only [own, if_true]
  rw [bind_run]
  unfold Session.onRegistry
  rw [within_run, searched]
  rfl

/-- An identifier that leads somewhere was read, has the right authority, and its table was found. -/
theorem resolve_eq_ok (led : resolve authority text session = (.ok (found, selector), after)) :
    ∃ uri, ContentUri.ofText? text = some uri ∧ uri.authority = authority ∧
      uri.selector = selector ∧ found.table = uri.table ∧ after.storage = session.storage ∧
        Registry.findTable uri.table session.registry = (.ok (some found), after.registry) := by
  obtain ⟨uri, start, taken, led⟩ := bind_run_eq_ok_iff.mp led
  obtain ⟨parsed, rfl⟩ := ofExcept_run_eq_ok_iff.mp taken
  have read := ContentUri.parse_eq_ok_iff.mp parsed
  by_cases own : uri.authority = authority
  · simp only [own, if_true] at led
    obtain ⟨found?, knowing, searched, answered⟩ := bind_run_eq_ok_iff.mp led
    unfold Session.onRegistry at searched
    rw [within_run] at searched
    obtain ⟨outcome, becomes⟩ := Prod.mk.inj searched
    cases found? with
    | none => cases answered
    | some given =>
      cases answered
      subst becomes
      have ran : Registry.findTable uri.table session.registry =
          (.ok (some found), (Registry.findTable uri.table session.registry).2) :=
        Prod.ext outcome rfl
      exact ⟨uri, read, own, rfl, Registry.table_of_findTable ran, rfl, ran⟩
  · simp only [own, if_false] at led
    cases led

/-- SQL text can name the table that an identifier leads to. -/
theorem nul_notMem_table (led : resolve authority text session = (.ok (found, selector), after)) :
    '\x00' ∉ found.table.toList := by
  obtain ⟨uri, read, -, -, named, -⟩ := resolve_eq_ok led
  intro nul
  rw [named] at nul
  exact absurd (ContentUri.isTableChar_of_isTableName (ContentUri.ofText?_eq_some read).1 _ nul)
    (by decide)

theorem collection_eq_ok {uri : String}
    (led : collection authority uri session = (.ok found, after)) :
    resolve authority uri session = (.ok (found, .all), after) := by
  obtain ⟨⟨given, selector⟩, knowing, resolved, answered⟩ := bind_run_eq_ok_iff.mp led
  cases selector with
  | all =>
    cases answered
    exact resolved
  | row identity => cases answered

/-- An addition that succeeds gives the identifier of the row that the table has gained. -/
theorem insert_eq_ok {uri : String} {values : RowValues}
    (added : insert authority uri values session = (.ok text, after)) :
    ∃ found knowing row, collection authority uri session = (.ok found, knowing) ∧
      text = (ContentUri.row authority found.table row.identity).text ∧
        after.registry = knowing.registry ∧
          session.storage.database.GainsRow found.table values row after.storage.database := by
  obtain ⟨found, knowing, led, added⟩ := bind_run_eq_ok_iff.mp added
  obtain ⟨identity, between, inserted, answered⟩ := bind_run_eq_ok_iff.mp added
  cases answered
  obtain ⟨row, rfl, gained⟩ := Session.insertRow_eq_ok inserted
  obtain ⟨-, -, -, -, -, same, -⟩ := resolve_eq_ok (collection_eq_ok led)
  rw [same] at gained
  have ran : Session.onStorage (Gateway.insertRow found.table values) knowing =
      (.ok row.identity, after) := inserted
  unfold Session.onStorage at ran
  rw [within_run] at ran
  obtain ⟨-, becomes⟩ := Prod.mk.inj ran
  exact ⟨found, knowing, row, led, rfl, by rw [← becomes], gained⟩

/-- The identifier of a type's table leads to the type exactly if the table's name is one. -/
theorem contentUri_leads_iff (is : ContentUri.IsAuthority authority)
    (coherent : session.registry.Coherent)
    (distinct : (session.registry.registered.map Mapping.path).Nodup)
    (formed : session.registry.Formed)
    (apart : (session.registry.registered.map fun mapping => tableName mapping.path).Nodup)
    {mapping : Mapping} (member : mapping ∈ session.registry.registered) :
    ∃ own text knowing, contentUri authority mapping.path session = (.ok text, knowing) ∧
      Dispatcher.adapter mapping.path session = (.ok own, knowing) ∧
        ((∃ last, resolve authority text knowing = (.ok (own, .all), last)) ↔
          ContentUri.isTableName (tableName mapping.path).toList = true) := by
  obtain ⟨own, knowing, last, ran, searched⟩ :=
    (coherent.findTable_own_iff distinct formed member).mpr
      ((Registry.find?_table_iff _ (List.Nodup.of_map _ distinct)).mpr apart mapping member)
  have named : own.table = tableName mapping.path := by
    obtain ⟨compiles, -⟩ :=
      coherent.knows_of_adapter (Registry.find?_of_mem distinct member) ran
    exact mapping.table_of_compile compiles
  have asked : Dispatcher.adapter mapping.path session =
      (.ok own, { session with registry := knowing }) := by
    show Session.onRegistry (Registry.adapter mapping.path) session = _
    unfold Session.onRegistry
    rw [within_run, ran]
  have given : contentUri authority mapping.path session =
      (.ok (ContentUri.collection authority own.table).text,
        { session with registry := knowing }) := by
    unfold contentUri
    rw [bind_run, asked]
    rfl
  refine ⟨own, _, _, given, asked, ?_⟩
  rw [← named]
  constructor
  · rintro ⟨final, led⟩
    obtain ⟨uri, read, -, -, table, -⟩ := resolve_eq_ok led
    rw [table]
    exact (ContentUri.ofText?_eq_some read).1
  · intro plain
    have read : ContentUri.ofText? (ContentUri.collection authority own.table).text =
        some (ContentUri.collection authority own.table) :=
      ContentUri.ofText?_text is plain nofun
    exact ⟨_, resolve_run read rfl searched⟩

/-- The identifier that an addition gives leads to the new row exactly if its identity is not
negative. -/
theorem insert_leads_iff (is : ContentUri.IsAuthority authority) (coherent : session.registry.Coherent)
    (distinct : (session.registry.registered.map Mapping.path).Nodup)
    (formed : session.registry.Formed) {uri : String} {knowing : Session Connection}
    (identity : Int64) (led : collection authority uri session = (.ok found, knowing))
    (same : after.registry = knowing.registry) :
    (∃ last, resolve authority (ContentUri.row authority found.table identity).text after =
      (.ok (found, .row identity), last)) ↔ 0 ≤ identity := by
  obtain ⟨parsed, read, own, -, table, -, searched⟩ := resolve_eq_ok (collection_eq_ok led)
  obtain ⟨named, -⟩ := ContentUri.ofText?_eq_some read
  obtain ⟨last, again⟩ := coherent.findTable_again distinct formed searched
  rw [← table] at named again
  rw [← same] at again
  constructor
  · rintro ⟨final, back⟩
    obtain ⟨uri, read, -, selected, -⟩ := resolve_eq_ok back
    exact (ContentUri.ofText?_eq_some read).2 identity selected
  · intro some
    have read : ContentUri.ofText? (ContentUri.row authority found.table identity).text =
        .some (ContentUri.row authority found.table identity) := by
      refine ContentUri.ofText?_text is named fun other selected => ?_
      cases selected
      exact some
    exact ⟨_, resolve_run read rfl again⟩

/-- A search for the row that an identifier leads to finds this row. -/
theorem query_row {table : Table} {row : StoredRow} {last : Session Connection}
    (led : resolve authority text session = (.ok (found, .row row.identity), last))
    (stands : found.Stands session.storage.database table)
    (single : table.matching (some (Table.hasIdentity row.identity)) = [row]) {held : List Value}
    (cells : row.cells = held.map Cell.value)
    (whole : row.cells.length = table.definition.columns.length) :
    ∃ final, query authority text [] .all none session =
      (.ok [⟨(table.definition.identity, .integer row.identity) ::
        table.definition.columnNames.zip held⟩], final) := by
  obtain ⟨-, -, -, -, -, same, -⟩ := resolve_eq_ok led
  rw [← same] at stands
  have searched := Connection.queryRows_byIdentity stands (nul_notMem_table led) single whole
  have entries : Table.entries table.definition row =
      ((table.definition.identity, .integer row.identity) ::
        table.definition.columnNames.zip held).map fun entry => (entry.1, .value entry.2) := by
    rw [Table.entries, cells, List.zip_map_right]
    rfl
  have read : [Table.entries table.definition row].mapM Connection.readRow =
      .ok [⟨(table.definition.identity, .integer row.identity) ::
        table.definition.columnNames.zip held⟩] := by
    rw [entries, List.mapM_cons, Connection.readRow_values]
    rfl
  have narrow : narrowed found (.row row.identity) .all =
      .byIdentity found.identity row.identity := rfl
  rw [read] at searched
  have step : query authority text [] .all none session =
      Session.onStorage (Gateway.queryRows found.table []
        (.byIdentity found.identity row.identity) none) last := by
    unfold query
    rw [bind_run, led]
    simp only [narrow]
    rfl
  exact ⟨_, step.trans (Session.onStorage_run searched)⟩

/-- Every identifier that is given out leads back to what it was made for, but for two cases: the
name of the type's table is none that identifiers can have, or the new row was given a negative
identity. Where the identifier of a new row leads back, a search by it finds exactly this row. -/
theorem leads_back (is : ContentUri.IsAuthority authority)
    (coherent : session.registry.Coherent)
    (distinct : (session.registry.registered.map Mapping.path).Nodup)
    (formed : session.registry.Formed)
    (apart : (session.registry.registered.map fun mapping => tableName mapping.path).Nodup) :
    (∀ mapping ∈ session.registry.registered, ∃ own given knowing,
        contentUri authority mapping.path session = (.ok given, knowing) ∧
          Dispatcher.adapter mapping.path session = (.ok own, knowing) ∧
            ((∃ last, resolve authority given knowing = (.ok (own, .all), last)) ↔
              ContentUri.isTableName (tableName mapping.path).toList = true) ∧
            ∀ names, IsPath names mapping.path →
              (∀ name ∈ names, ContentUri.IsIdentifier name) →
                (ContentUri.isTableName (tableName mapping.path).toList = true ↔
                  ∀ name ∈ names, ∀ c ∈ name.toList, c.toNat < 128)) ∧
      ∀ uri values given after, insert authority uri values session = (.ok given, after) →
        ∃ found knowing row, collection authority uri session = (.ok found, knowing) ∧
          given = (ContentUri.row authority found.table row.identity).text ∧
            session.storage.database.GainsRow found.table values row after.storage.database ∧
              ((∃ last, resolve authority given after = (.ok (found, .row row.identity), last)) ↔
                0 ≤ row.identity) ∧
              ∀ table, found.Stands session.storage.database table → 0 ≤ row.identity →
                ∃ held last, row.cells = held.map Cell.value ∧
                  query authority given [] .all none after =
                    (.ok [⟨(table.definition.identity, .integer row.identity) ::
                      table.definition.columnNames.zip held⟩], last) := by
  constructor
  · intro mapping member
    obtain ⟨own, given, knowing, made, asked, leads⟩ :=
      contentUri_leads_iff is coherent distinct formed apart member
    exact ⟨own, given, knowing, made, asked, leads, fun names path identifiers =>
      ContentUri.isTableName_tableName_iff path identifiers⟩
  · intro uri values given after added
    obtain ⟨found, knowing, row, led, rfl, same, gained⟩ := insert_eq_ok added
    have leads := insert_leads_iff is coherent distinct formed row.identity led same
    refine ⟨found, knowing, row, led, rfl, gained, leads, fun table stands some => ?_⟩
    obtain ⟨last, back⟩ := leads.mpr some
    obtain ⟨standing, changed, there, gains, becomes, still⟩ := gained
    obtain rfl : standing = table := Except.ok.inj (there.symm.trans stands.there)
    obtain ⟨held, cells⟩ := RowValues.exists_keptCells standing.definition values
    have kept : row.cells = held.map Cell.value :=
      ((List.forall₂_cons.mp gains.makes).1.cells).trans cells
    have whole : row.cells.length = changed.definition.columns.length := by
      rw [(List.forall₂_cons.mp gains.makes).1.cells, gains.defined]
      simp [RowValues.keptCells]
    have after : found.Stands after.storage.database changed :=
      ⟨still, gains.defined ▸ stands.identified, stands.free⟩
    obtain ⟨final, searched⟩ := query_row back after gains.matching_eq kept whole
    rw [gains.defined] at searched
    exact ⟨held, final, kept, searched⟩

/-- A session with one type, whose table is there and has one row. -/
def desk (path : String) : Session Connection :=
  ⟨⟨[Registry.bareMapping path], []⟩,
    ⟨⟨[⟨⟨EntityTables.tableName path, "id", []⟩, [⟨1, []⟩], 1⟩]⟩, none, []⟩⟩

theorem formed_desk {path : String} (compiles : (Registry.bareMapping path).compile =
    .ok (Registry.bareCompiled path)) : (desk path).registry.Formed := by
  intro mapping member
  obtain rfl := List.mem_singleton.mp member
  exact ⟨_, compiles⟩

/-- The identifiers of a table and of a row that was given an identity lead back. -/
theorem leads_back_desk :
    ∃ given after last, insert "org.example" "content://org.example/shop_Note/"
        (.ofPairs [("ID", .integer 7)]) (desk "shop::Note") = (.ok given, after) ∧
      query "org.example" given [] .all none after = (.ok [⟨[("id", .integer 7)]⟩], last) := by
  have coherent : (desk "shop::Note").registry.Coherent := fun _ member => nomatch member
  have added : (insert "org.example" "content://org.example/shop_Note/"
      (.ofPairs [("ID", .integer 7)]) (desk "shop::Note")).1 =
        .ok "content://org.example/shop_Note/7" := by decide +kernel
  have is : ContentUri.IsAuthority "org.example" := by decide
  obtain ⟨-, leads⟩ := leads_back is coherent (by decide) (formed_desk rfl) (by decide)
  rcases ran : insert "org.example" "content://org.example/shop_Note/"
    (.ofPairs [("ID", .integer 7)]) (desk "shop::Note") with ⟨outcome, after⟩
  rw [ran] at added
  obtain rfl : outcome = .ok "content://org.example/shop_Note/7" := added
  obtain ⟨found, knowing, row, led, -, gained, -, finds⟩ := leads _ _ _ _ ran
  have own : (collection "org.example" "content://org.example/shop_Note/" (desk "shop::Note")).1.map
      (fun found => (found.table, found.identity)) = .ok ("shop_Note", "id") := by decide +kernel
  rw [led] at own
  obtain ⟨table, identity⟩ := Prod.mk.inj (Except.ok.inj own)
  have stands : found.Stands (desk "shop::Note").storage.database
      ⟨⟨"shop_Note", "id", []⟩, [⟨1, []⟩], 1⟩ :=
    ⟨by rw [table]; rfl, by rw [identity]; decide, by rw [identity]; decide⟩
  -- the row has the identity that the values name
  have seven : row.identity = 7 := by
    obtain ⟨standing, changed, there, gains, -⟩ := gained
    obtain rfl := Except.ok.inj (there.symm.trans stands.there)
    have explicit : RowValues.explicitIdentity ⟨"shop_Note", "id", []⟩
        (.ofPairs [("ID", .integer 7)]) = .ok (some 7) := by decide
    rcases (List.forall₂_cons.mp gains.makes).1.identity with nothing | given
    · rw [explicit] at nothing
      cases nothing
    · rw [explicit] at given
      exact (Option.some.inj (Except.ok.inj given)).symm
  obtain ⟨held, last, -, searched⟩ := finds _ stands (by rw [seven]; decide)
  rw [seven] at searched
  exact ⟨_, after, last, rfl, searched⟩

/-- A row that is given a negative identity is there, and its identifier is refused; so is the
identifier of the table of a type with a name beyond ASCII. -/
theorem leads_astray :
    (desk "shop::Note").registry.Formed ∧ (desk "shop::Größe").registry.Formed ∧
      (∃ added, insert "org.example" "content://org.example/shop_Note"
          (.ofPairs [("id", .integer (-5))]) (desk "shop::Note") = added ∧
        added.1 = .ok "content://org.example/shop_Note/-5" ∧
          added.2.storage.database.tables.map (fun table => table.rows.map StoredRow.identity) =
            [[-5, 1]] ∧
          (resolve "org.example" "content://org.example/shop_Note/-5" added.2).1 =
            .error (.unknownUri "content://org.example/shop_Note/-5")) ∧
      (∃ made, contentUri "org.example" "shop::Größe" (desk "shop::Größe") = made ∧
        made.1 = .ok "content://org.example/shop_Größe" ∧
          (resolve "org.example" "content://org.example/shop_Größe" made.2).1 =
            .error (.unknownUri "content://org.example/shop_Größe")) := by
  refine ⟨formed_desk rfl, formed_desk rfl, ⟨_, rfl, ?_⟩, ⟨_, rfl, ?_⟩⟩
  · decide +kernel
  · decide +kernel

end ContentAccess

end EntityTables
