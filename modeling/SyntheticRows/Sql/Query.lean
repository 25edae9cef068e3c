/-!
The questions to the catalog of a database, as statements with numbered parameters.
-/

namespace SyntheticRows.Sql

def statement (clauses : List String) : String :=
  " ".intercalate clauses

def databaseName : String :=
  "select current_database()"

/-- The tables of the namespace `$1`; partitioned tables are included if `$2` holds. -/
def tableNames : String :=
  statement [
    "select c.relname::text",
    "from pg_class c",
    "join pg_namespace n on n.oid = c.relnamespace",
    "where n.nspname = $1",
    "and (c.relkind = 'r' or ($2 and c.relkind = 'p'))",
    "and not c.relispartition",
    "order by c.relname"]

/-- The columns of the table `$2` in the namespace `$1`. -/
def columns : String :=
  statement [
    "select",
    "a.attname::text as name,",
    "pg_catalog.format_type(a.atttypid, a.atttypmod) as data_type,",
    "pg_get_expr(ad.adbin, ad.adrelid) as \"default\",",
    "(a.attidentity <> '') as is_identity,",
    "(a.attgenerated <> '') as is_generated",
    "from pg_attribute a",
    "join pg_class c on c.oid = a.attrelid",
    "join pg_namespace n on n.oid = c.relnamespace",
    "left join pg_attrdef ad on ad.adrelid = a.attrelid and ad.adnum = a.attnum",
    "where n.nspname = $1",
    "and c.relname = $2",
    "and a.attnum > 0",
    "and not a.attisdropped",
    "order by a.attnum"]

/-- The columns of the primary key, in the order of the key. -/
def primaryKey : String :=
  statement [
    "select a.attname::text",
    "from pg_constraint con",
    "join pg_class c on c.oid = con.conrelid",
    "join pg_namespace n on n.oid = c.relnamespace",
    "join unnest(con.conkey) with ordinality as k(attnum, ord) on true",
    "join pg_attribute a on a.attrelid = c.oid and a.attnum = k.attnum",
    "where n.nspname = $1",
    "and c.relname = $2",
    "and con.contype = 'p'",
    "order by k.ord"]

/-- The pairs of columns of the foreign keys, in the order of the names of the keys. -/
def foreignKeys : String :=
  statement [
    "select",
    "con.conname::text as constraint_name,",
    "src_att.attname::text as column_name,",
    "ref_nsp.nspname::text as referenced_schema,",
    "ref_rel.relname::text as referenced_table,",
    "ref_att.attname::text as referenced_column",
    "from pg_constraint con",
    "join pg_class src_rel on src_rel.oid = con.conrelid",
    "join pg_namespace src_nsp on src_nsp.oid = src_rel.relnamespace",
    "join pg_class ref_rel on ref_rel.oid = con.confrelid",
    "join pg_namespace ref_nsp on ref_nsp.oid = ref_rel.relnamespace",
    "join unnest(con.conkey, con.confkey) with ordinality",
    "as k(src_attnum, ref_attnum, ord) on true",
    "join pg_attribute src_att",
    "on src_att.attrelid = src_rel.oid and src_att.attnum = k.src_attnum",
    "join pg_attribute ref_att",
    "on ref_att.attrelid = ref_rel.oid and ref_att.attnum = k.ref_attnum",
    "where src_nsp.nspname = $1",
    "and src_rel.relname = $2",
    "and con.contype = 'f'",
    "order by con.conname, k.ord"]

end SyntheticRows.Sql
