import BitProtector.Foundation.Effect
import Mathlib.Data.List.Forall2

/-! Scripts that bring the tables of a database up to date: what is missing is added, and what is there stays. A check of
the script alone tells that it runs on every database whose tables have at least some columns. -/
namespace BitProtector.Migrations
open Effect

inductive Value
  | null
  | integer (n : Int)
  | text (s : String)
  /-- What `datetime('now')` gives. -/
  | moment (s : String)
  deriving DecidableEq, Repr

inductive Default
  | value (v : Value)
  | datetimeNow
  deriving DecidableEq, Repr

def Default.at (now : String) : Default → Value
  | .value v => v
  | .datetimeNow => .moment now

/-- What rows take that are there before the column, which needs a constant. -/
def Default.constant : Default → Value
  | .value v => v
  | .datetimeNow => .null

structure Column where
  name : String
  notNull : Bool
  default : Default
  /-- `CHECK (name IN (..))`. -/
  admits : Option (List String)
  /-- `REFERENCES parent(id)`. -/
  parent : Option String
  deriving DecidableEq, Repr

/-- Only the values of the columns mean anything. -/
abbrev Row := String → Value

structure Relation where
  columns : List Column
  rows : List Row

def Relation.names (relation : Relation) : List String := relation.columns.map Column.name

structure Catalog where
  relation : String → Option Relation
  /-- Names, each with its table. -/
  indexes : List (String × String)
  triggers : List (String × String)

def Catalog.put (db : Catalog) (table : String) (relation : Relation) : Catalog :=
  { db with relation := fun other => if other = table then some relation else db.relation other }

/-- Each of these leaves what it would add alone where it is there. -/
inductive Statement
  | createTable (table : String) (columns : List Column)
  | createTrigger (name table : String)
  | createIndex (name table : String) (columns : List String)
  | insertOrIgnore (table : String) (id : Int) (values : List (String × Value))
  /-- `ALTER TABLE .. ADD COLUMN`, whose errors are dropped. -/
  | tryAddColumn (table : String) (column : Column)
  /-- `CREATE INDEX`, whose errors are dropped. -/
  | tryCreateIndex (name table : String) (columns : List String)

/-- The value passes `NOT NULL` and `CHECK`. -/
def Column.passes (column : Column) (value : Value) : Bool :=
  (!column.notNull || value != .null) &&
    match column.admits,value with
    | none,_ | _,.null => true
    | some texts,.text s => texts.contains s
    | some _,.integer _ | some _,.moment _ => false

/-- Rows that are there can take the default. -/
def Column.fills (column : Column) : Bool :=
  match column.default with
  | .value v => column.passes v
  | .datetimeNow => false

/-- What the rows of a table hold in a new column. -/
def extended (added : List Column) (row : Row) : Row := fun name =>
  match added.find? (fun column => column.name == name) with
  | some column => column.default.constant
  | none => row name

def addColumn (table : String) (column : Column) (db : Catalog) : Except String Catalog :=
  match db.relation table with
  | none => .error "no such table"
  | some relation =>
    if column.name ∈ relation.names then .error "duplicate column name"
    else if !column.fills && !relation.rows.isEmpty then .error "constraint failed"
    else .ok (db.put table ⟨relation.columns ++ [column],relation.rows.map (extended [column])⟩)

def createIndex (name table : String) (columns : List String) (db : Catalog) : Except String Catalog :=
  if name ∈ db.indexes.map Prod.fst then .ok db
  else
    match db.relation table with
    | none => .error "no such table"
    | some relation =>
      if ∀ column ∈ columns, column ∈ relation.names then .ok { db with indexes := (name,table)::db.indexes }
      else .error "no such column"

/-- The row that is inserted: what is not given takes its default. -/
def given (now : String) (columns : List Column) (id : Int) (values : List (String × Value)) : Row := fun name =>
  if name = "id" then .integer id
  else
    match values.lookup name,columns.find? (fun column => column.name == name) with
    | some value,_ => value
    | none,some column => column.default.at now
    | none,none => .null

/-- The row passes the checks of the table, whose rows have other ids. -/
def Relation.admits (relation : Relation) (row : Row) : Bool :=
  !relation.rows.any (fun other => other "id" == row "id") &&
    relation.columns.all fun column => column.passes (row column.name)

def orElse (db : Catalog) : Except String Catalog → Catalog
  | .ok next => next
  | .error _ => db

def createTable (table : String) (columns : List Column) (db : Catalog) : Catalog :=
  match db.relation table with
  | some _ => db
  | none => db.put table ⟨columns,[]⟩

def createTrigger (name table : String) (db : Catalog) : Except String Catalog :=
  if name ∈ db.triggers.map Prod.fst then .ok db
  else if (db.relation table).isSome then .ok { db with triggers := (name,table)::db.triggers }
  else .error "no such table"

/-- `IGNORE` is for the row that is refused. -/
def insertOrIgnore (now table : String) (id : Int) (values : List (String × Value)) (db : Catalog) : Except String Catalog :=
  match db.relation table with
  | none => .error "no such table"
  | some relation =>
    if ∀ name ∈ "id"::values.map Prod.fst, name ∈ relation.names then
      if relation.admits (given now relation.columns id values) then
        .ok (db.put table ⟨relation.columns,relation.rows ++ [given now relation.columns id values]⟩)
      else .ok db
    else .error "no such column"

def exec (now : String) (db : Catalog) : Statement → Except String Catalog
  | .createTable table columns => .ok (createTable table columns db)
  | .createTrigger name table => createTrigger name table db
  | .createIndex name table columns => createIndex name table columns db
  | .insertOrIgnore table id values => insertOrIgnore now table id values db
  | .tryAddColumn table column => .ok (orElse db (addColumn table column db))
  | .tryCreateIndex name table columns => .ok (orElse db (createIndex name table columns db))

/-- An error ends the script, and what was done before it stays. Every clock of it reads `now`. -/
def run (now : String) : List Statement → EStateM String Catalog Unit
  | [] => pure ()
  | statement::rest => fun db =>
    match exec now db statement with
    | .ok next => run now rest next
    | .error message => .error message db

/-! What a script leaves of what was there. -/

/-- The tables that the script inserts into. -/
def seeded (script : List Statement) : List String :=
  script.filterMap fun
    | .insertOrIgnore table _ _ => some table
    | _ => none

/-- The indexes and triggers that the script makes. -/
def made (script : List Statement) : List (String × String) :=
  script.filterMap fun
    | .createTrigger name table | .createIndex name table _ | .tryCreateIndex name table _ => some (name,table)
    | _ => none

/-- The table with more columns, of their defaults in its rows, and more rows. -/
structure Widened (relation next : Relation) (added : List Column) (more : List Row) : Prop where
  columns : next.columns = relation.columns ++ added
  rows : next.rows = relation.rows.map (extended added) ++ more
  fresh : ∀ column ∈ added, column.name ∉ relation.names

/-- Every table is still there, with the new columns and the new rows of the script. -/
structure Grows (script : List Statement) (db next : Catalog) : Prop where
  tables : ∀ table relation, db.relation table = some relation → ∃ wide added more, next.relation table = some wide ∧
    Widened relation wide added more ∧ (∀ column ∈ added, Statement.tryAddColumn table column ∈ script) ∧
    (table ∉ seeded script → more = [])
  fresh : ∀ table relation, db.relation table = none → next.relation table = some relation →
    (∃ columns added, Statement.createTable table columns ∈ script ∧ relation.columns = columns ++ added) ∧
    (table ∉ seeded script → relation.rows = [])
  indexes : db.indexes ⊆ next.indexes
  triggers : db.triggers ⊆ next.triggers
  newer : ∀ entry ∈ next.indexes ++ next.triggers, entry ∈ db.indexes ++ db.triggers ∨ entry ∈ made script

theorem extended_nil : extended [] = id := rfl

theorem extended_other {added : List Column} {name : String} (other : ∀ column ∈ added, column.name ≠ name) (row : Row) :
    extended added row name = row name := by
  have none : added.find? (fun column => column.name == name) = none := by simpa using other
  simp [extended,none]

theorem extended_append {added more : List Column} (fresh : ∀ column ∈ more, column.name ∉ added.map Column.name) (row : Row) :
    extended (added ++ more) row = extended more (extended added row) := by
  ext name : 1
  cases found : added.find? (fun column => column.name == name) with
  | none => simp [extended,found]
  | some column =>
    have named : column.name = name := by simpa using List.find?_some found
    have member : column ∈ added := List.mem_of_find?_eq_some found
    have none : ∀ other ∈ more, other.name ≠ name := by
      intro other listed same
      exact fresh other listed (by rw [same,← named]; exact List.mem_map_of_mem member)
    rw [extended_other none]
    simp [extended,found]

theorem Widened.refl (relation : Relation) : Widened relation relation [] [] := by
  constructor <;> simp [extended_nil]

theorem Widened.names {relation next : Relation} {added : List Column} {more : List Row}
    (widened : Widened relation next added more) : next.names = relation.names ++ added.map Column.name := by
  simp [Relation.names,widened.columns]

theorem Widened.trans {a b c : Relation} {added more : List Column} {first second : List Row}
    (ab : Widened a b added first) (bc : Widened b c more second) :
    Widened a c (added ++ more) (first.map (extended more) ++ second) where
  columns := by rw [bc.columns,ab.columns,List.append_assoc]
  rows := by
    have fresh : ∀ column ∈ more, column.name ∉ added.map Column.name := fun column member inside =>
      bc.fresh column member (by rw [ab.names]; exact List.mem_append_right _ inside)
    rw [bc.rows,ab.rows,List.map_append,List.map_map,List.append_assoc]
    congr 2
    ext row name
    simp [extended_append fresh]
  fresh := by
    intro column member inside
    rcases List.mem_append.mp member with early | late
    · exact ab.fresh column early inside
    · exact bc.fresh column late (by rw [ab.names]; exact List.mem_append_left _ inside)

instance (script : List Statement) : IsPreorder Catalog (Grows script) where
  refl db := ⟨fun table relation found => ⟨relation,[],[],found,.refl relation,by simp,fun _ => rfl⟩,
    fun table relation missing there => by simp [missing] at there,List.Subset.refl _,List.Subset.refl _,fun _ => .inl⟩
  trans a b c first second := by
    refine ⟨fun table relation found => ?_,fun table relation missing there => ?_,
      List.Subset.trans first.indexes second.indexes,List.Subset.trans first.triggers second.triggers,?_⟩
    · obtain ⟨wide,added,more,there,widened,scripted,still⟩ := first.tables table relation found
      obtain ⟨wider,others,rest,here,widens,listed,stays⟩ := second.tables table wide there
      refine ⟨wider,_,_,here,widened.trans widens,List.forall_mem_append.mpr ⟨scripted,listed⟩,fun fixed => ?_⟩
      rw [still fixed,stays fixed]
      rfl
    · cases was : b.relation table with
      | none => exact second.fresh table relation was there
      | some middle =>
        obtain ⟨⟨columns,early,created,eq⟩,empty⟩ := first.fresh table middle missing was
        obtain ⟨wide,added,more,here,widened,-,stays⟩ := second.tables table middle was
        cases here.symm.trans there
        refine ⟨⟨columns,early ++ added,created,by rw [widened.columns,eq,List.append_assoc]⟩,fun fixed => ?_⟩
        rw [widened.rows,empty fixed,stays fixed]
        rfl
    · intro entry listed
      rcases second.newer entry listed with old | scripted
      · exact first.newer entry old
      · exact .inr scripted

theorem put_kept {db : Catalog} {table : String} {relation : Relation} (there : (db.relation table).isSome) {other : String}
    (missing : db.relation other = none) : (db.put table relation).relation other = none := by
  have apart : other ≠ table := by
    rintro rfl
    simp [missing] at there
  simpa [Catalog.put,apart] using missing

theorem grows_put {script : List Statement} {db : Catalog} {table : String} {relation wide : Relation} {added : List Column}
    {more : List Row} (found : db.relation table = some relation) (widened : Widened relation wide added more)
    (scripted : ∀ column ∈ added, Statement.tryAddColumn table column ∈ script) (still : table ∉ seeded script → more = []) :
    Grows script db (db.put table wide) := by
  refine ⟨fun other old there => ?_,fun other new missing there => ?_,List.Subset.refl _,List.Subset.refl _,fun _ => .inl⟩
  · by_cases same : other = table
    · subst same
      cases found.symm.trans there
      exact ⟨wide,added,more,by simp [Catalog.put],widened,scripted,still⟩
    · exact ⟨old,[],[],by simpa [Catalog.put,same] using there,.refl old,by simp,fun _ => rfl⟩
  · rw [put_kept (by simp [found]) missing] at there
    cases there

theorem grows_put_new {script : List Statement} {db : Catalog} {table : String} (missing : db.relation table = none)
    {columns : List Column} (listed : Statement.createTable table columns ∈ script) :
    Grows script db (db.put table ⟨columns,[]⟩) := by
  refine ⟨fun other old there => ?_,fun other new absent there => ?_,List.Subset.refl _,List.Subset.refl _,fun _ => .inl⟩
  · have apart : other ≠ table := by
      rintro rfl
      cases missing.symm.trans there
    exact ⟨old,[],[],by simpa [Catalog.put,apart] using there,.refl old,by simp,fun _ => rfl⟩
  · by_cases same : other = table
    · simp only [Catalog.put,same,if_true,Option.some.injEq] at there
      exact ⟨⟨columns,[],same ▸ listed,by simp [← there]⟩,fun _ => by rw [← there]⟩
    · simp [Catalog.put,same,absent] at there

/-! What a script needs of what was there. -/

/-- The columns that are known to be there, each with its table. -/
abbrev Known := List (String × String)

def Known.covers (known : Known) (db : Catalog) : Prop :=
  ∀ entry ∈ known, ∃ relation, db.relation entry.1 = some relation ∧ entry.2 ∈ relation.names

def Known.table (known : Known) (table : String) : Bool := known.any fun entry => entry.1 == table

/-- Tables that were there have the columns that `floor` gives them. -/
def Older (floor : String → List String) (db : Catalog) : Prop :=
  ∀ table relation, db.relation table = some relation → ∀ name ∈ floor table, name ∈ relation.names

/-- What is known after the statement, where nothing can stop it. -/
def check (floor : String → List String) (known : Known) : Statement → Option Known
  | .createTable table columns =>
    if ∀ name ∈ floor table, name ∈ columns.map Column.name then some ((floor table).map (Prod.mk table) ++ known) else none
  | .createTrigger _ table => if known.table table then some known else none
  | .createIndex _ table columns | .tryCreateIndex _ table columns =>
    if known.table table ∧ ∀ name ∈ columns, (table,name) ∈ known then some known else none
  | .insertOrIgnore table _ values =>
    if ∀ name ∈ "id"::values.map Prod.fst, (table,name) ∈ known then some known else none
  | .tryAddColumn table column =>
    if known.table table ∧ column.fills then some ((table,column.name)::known) else none

def checkAll (floor : String → List String) (known : Known) : List Statement → Option Known
  | [] => some known
  | statement::rest => (check floor known statement).bind fun next => checkAll floor next rest

def declared (script : List Statement) (table : String) : List String :=
  script.flatMap fun
    | .createTable other columns => if other = table then columns.map Column.name else []
    | _ => []

def altered (script : List Statement) (table : String) : List String :=
  script.filterMap fun
    | .tryAddColumn other column => if other = table then some column.name else none
    | _ => none

/-- What a table has to have already: the script does not add it where the table is there. -/
def floor (script : List Statement) (table : String) : List String :=
  (declared script table).filter fun name => !(altered script table).contains name

/-- The statement finds nothing to do. -/
def Settled (db : Catalog) : Statement → Prop
  | .createTable table _ => ∃ relation, db.relation table = some relation
  | .createTrigger name _ => name ∈ db.triggers.map Prod.fst
  | .createIndex name _ _ | .tryCreateIndex name _ _ => name ∈ db.indexes.map Prod.fst
  | .insertOrIgnore table id values => ∃ relation, db.relation table = some relation ∧
      (∀ name ∈ "id"::values.map Prod.fst, name ∈ relation.names) ∧
      ∀ now, relation.admits (given now relation.columns id values) = false
  | .tryAddColumn table column => ∃ relation, db.relation table = some relation ∧ column.name ∈ relation.names

theorem exec_settled (now : String) {db : Catalog} {statement : Statement} (settled : Settled db statement) :
    exec now db statement = .ok db := by
  cases statement with
  | createTable table columns =>
    obtain ⟨relation,there⟩ := settled
    simp [exec,createTable,there]
  | createTrigger name table => exact if_pos settled
  | createIndex name table columns => exact if_pos settled
  | insertOrIgnore table id values =>
    obtain ⟨relation,there,named,refused⟩ := settled
    simp only [exec,insertOrIgnore,there]
    rw [if_pos named,if_neg (by simp [refused])]
  | tryAddColumn table column =>
    obtain ⟨relation,there,named⟩ := settled
    simp [exec,addColumn,there,named,orElse]
  | tryCreateIndex name table columns =>
    have done : createIndex name table columns db = .ok db := if_pos settled
    simp [exec,done,orElse]

theorem run_cons {now : String} {db next : Catalog} {statement : Statement} (ok : exec now db statement = .ok next)
    (rest : List Statement) : run now (statement::rest) db = run now rest next := by
  simp only [run,ok]

theorem run_settled (now : String) {db : Catalog} {script : List Statement}
    (settled : ∀ statement ∈ script, Settled db statement) :
    run now script db = .ok () db := by
  induction script with
  | nil => rfl
  | cons statement rest ih =>
    rw [run_cons (exec_settled now (settled statement List.mem_cons_self))]
    exact ih fun other listed => settled other (List.mem_cons_of_mem _ listed)

theorem Grows.names {script : List Statement} {db next : Catalog} (grown : Grows script db next) {table name : String}
    {relation : Relation} (there : db.relation table = some relation) (named : name ∈ relation.names) :
    ∃ wide, next.relation table = some wide ∧ name ∈ wide.names := by
  obtain ⟨wide,added,more,here,widened,-⟩ := grown.tables table relation there
  exact ⟨wide,here,by rw [widened.names]; exact List.mem_append_left _ named⟩

theorem Known.covers.grows {script : List Statement} {db next : Catalog} {known : Known} (covers : known.covers db)
    (grown : Grows script db next) : known.covers next := by
  intro entry listed
  obtain ⟨relation,there,named⟩ := covers entry listed
  exact grown.names there named

theorem given_append (now : String) {columns : List Column} {column : Column} (member : column ∈ columns) (added : List Column)
    (id : Int) (values : List (String × Value)) :
    given now (columns ++ added) id values column.name = given now columns id values column.name := by
  have found : (columns.find? fun other => other.name == column.name).isSome := by
    rw [List.find?_isSome]
    exact ⟨column,member,by simp⟩
  obtain ⟨first,found⟩ := Option.isSome_iff_exists.mp found
  simp [given,found]

theorem passes_moment (column : Column) (now : String) : column.passes (.moment now) = column.admits.isNone := by
  have there : (Value.moment now != .null) = true := by simp
  cases listed : column.admits <;> simp [Column.passes,there,listed]

theorem passes_given (now later : String) (column : Column) (columns : List Column) (id : Int) (values : List (String × Value)) :
    column.passes (given now columns id values column.name) = column.passes (given later columns id values column.name) := by
  simp only [given]
  split
  · rfl
  · split
    · rfl
    · rename_i stored _ _
      cases stored.default <;> simp [Default.at,passes_moment]
    · rfl

theorem admits_given (now later : String) (relation : Relation) (id : Int) (values : List (String × Value)) :
    relation.admits (given now relation.columns id values) = relation.admits (given later relation.columns id values) := by
  have key : given now relation.columns id values "id" = given later relation.columns id values "id" := rfl
  simp only [Relation.admits,key,passes_given now later]

theorem Widened.refuses (now : String) {relation wide : Relation} {added : List Column} {more : List Row} {id : Int}
    {values : List (String × Value)} (widened : Widened relation wide added more) (keyed : "id" ∈ relation.names)
    (refused : relation.admits (given now relation.columns id values) = false) :
    wide.admits (given now wide.columns id values) = false := by
  by_contra accepted
  rw [Bool.not_eq_false] at accepted
  simp only [Relation.admits,Bool.and_eq_true,Bool.not_eq_true',List.any_eq_false,List.all_eq_true,beq_iff_eq] at accepted
  obtain ⟨apart,passes⟩ := accepted
  rw [← Bool.not_eq_true] at refused
  apply refused
  simp only [Relation.admits,Bool.and_eq_true,Bool.not_eq_true',List.any_eq_false,List.all_eq_true,beq_iff_eq]
  constructor
  · intro row listed same
    have kept : extended added row "id" = row "id" := by
      apply extended_other
      intro column member named
      exact widened.fresh column member (named ▸ keyed)
    apply apart (extended added row)
    · rw [widened.rows]
      exact List.mem_append_left _ (List.mem_map_of_mem listed)
    · rw [kept,same]
      simp [given]
  · intro column member
    have still := passes column (by rw [widened.columns]; exact List.mem_append_left _ member)
    rwa [widened.columns,given_append now member] at still

theorem Settled.grows {script : List Statement} {db next : Catalog} {statement : Statement} (settled : Settled db statement)
    (grown : Grows script db next) : Settled next statement := by
  cases statement with
  | createTable table columns =>
    obtain ⟨relation,there⟩ := settled
    obtain ⟨wide,added,more,here,-⟩ := grown.tables table relation there
    exact ⟨wide,here⟩
  | createTrigger name table => exact List.map_subset _ grown.triggers settled
  | createIndex name table columns => exact List.map_subset _ grown.indexes settled
  | tryCreateIndex name table columns => exact List.map_subset _ grown.indexes settled
  | tryAddColumn table column =>
    obtain ⟨relation,there,named⟩ := settled
    exact grown.names there named
  | insertOrIgnore table id values =>
    obtain ⟨relation,there,named,refused⟩ := settled
    obtain ⟨wide,added,more,here,widened,-⟩ := grown.tables table relation there
    refine ⟨wide,here,?_,fun now => widened.refuses now (named "id" List.mem_cons_self) (refused now)⟩
    intro name given
    rw [widened.names]
    exact List.mem_append_left _ (named name given)

/-! One statement of a script, on a database whose tables have what is known. -/

theorem Known.table_covered {known : Known} {table : String} (there : known.table table) {db : Catalog}
    (covers : known.covers db) : ∃ relation, db.relation table = some relation := by
  obtain ⟨entry,listed,same⟩ := List.any_eq_true.mp there
  obtain ⟨relation,found,-⟩ := covers entry listed
  exact ⟨relation,by rwa [← eq_of_beq same]⟩

theorem Known.covered {known : Known} {table name : String} (listed : (table,name) ∈ known) {db : Catalog}
    (covers : known.covers db) {relation : Relation} (there : db.relation table = some relation) : name ∈ relation.names := by
  obtain ⟨other,found,named⟩ := covers _ listed
  rw [there] at found
  exact Option.some.inj found ▸ named

/-- What a statement that cannot stop makes of the database. -/
structure Runs (script : List Statement) (floor : String → List String) (known : Known) (db : Catalog) (statement : Statement)
    (next : Catalog) : Prop where
  grown : Grows script db next
  older : Older floor next
  covers : known.covers next
  settled : Settled next statement

theorem Older.of_grows {script : List Statement} {floor : String → List String} {db next : Catalog} (older : Older floor db)
    (grown : Grows script db next)
    (fresh : ∀ table relation, db.relation table = none → next.relation table = some relation →
      ∀ name ∈ floor table, name ∈ relation.names) : Older floor next := by
  intro table relation there name needed
  cases was : db.relation table with
  | none => exact fresh table relation was there name needed
  | some old =>
    obtain ⟨wide,here,named⟩ := grown.names was (older table old was name needed)
    rw [there] at here
    exact Option.some.inj here ▸ named

section
variable {script : List Statement} {floor : String → List String} {known : Known} {db : Catalog} {table : String}

theorem createTable_runs {columns : List Column} (listed : Statement.createTable table columns ∈ script)
    (declared : ∀ name ∈ floor table, name ∈ columns.map Column.name) (older : Older floor db)
    (covers : known.covers db) :
    Runs script floor ((floor table).map (Prod.mk table) ++ known) db (.createTable table columns)
      (createTable table columns db) := by
  have grown : Grows script db (createTable table columns db) := by
    cases was : db.relation table with
    | none => simpa [createTable,was] using grows_put_new was listed
    | some relation => simpa [createTable,was] using refl db
  have there : ∃ relation, (createTable table columns db).relation table = some relation ∧
      ∀ name ∈ floor table, name ∈ relation.names := by
    cases was : db.relation table with
    | none => exact ⟨⟨columns,[]⟩,by simp [createTable,was,Catalog.put],declared⟩
    | some relation => exact ⟨relation,by simp [createTable,was],older table relation was⟩
  obtain ⟨relation,here,named⟩ := there
  refine ⟨grown,older.of_grows grown ?_,?_,⟨relation,here⟩⟩
  · intro other fresh missing found
    by_cases same : other = table
    · rw [same,here] at found
      rw [same]
      exact Option.some.inj found ▸ named
    · cases was : db.relation table with
      | none => simp [createTable,was,Catalog.put,same,missing] at found
      | some kept => simp [createTable,was,missing] at found
  · intro entry listed
    rcases List.mem_append.mp listed with new | old
    · obtain ⟨name,needed,rfl⟩ := List.mem_map.mp new
      exact ⟨relation,here,named name needed⟩
    · exact covers.grows grown entry old

theorem Runs.same_tables {next : Catalog} {statement : Statement} (grown : Grows script db next)
    (same : ∀ table, db.relation table = none → next.relation table = none)
    (older : Older floor db) (covers : known.covers db) (settled : Settled next statement) :
    Runs script floor known db statement next where
  grown := grown
  older := older.of_grows grown fun table relation missing there => by simp [same table missing] at there
  covers := covers.grows grown
  settled := settled

theorem mem_made {statement : Statement} (listed : statement ∈ script) {entry : String × String}
    (makes : made [statement] = [entry]) : entry ∈ made script := by
  have inside : made [statement] ⊆ made script := List.filterMap_subset _ (by simpa using listed)
  exact inside (by simp [makes])

theorem createTrigger_runs {name : String} (listed : (name,table) ∈ made script) (there : known.table table)
    (older : Older floor db) (covers : known.covers db) :
    ∃ next, createTrigger name table db = .ok next ∧ Runs script floor known db (.createTrigger name table) next := by
  by_cases done : name ∈ db.triggers.map Prod.fst
  · exact ⟨db,if_pos done,.same_tables (refl db) (fun _ missing => missing) older covers done⟩
  · obtain ⟨relation,found⟩ := Known.table_covered there covers
    have grown : Grows script db { db with triggers := (name,table)::db.triggers } :=
      { (refl db : Grows script db db) with
        triggers := List.subset_cons_self _ _
        newer := by
          intro entry member
          simp only [List.mem_append,List.mem_cons] at member ⊢
          rcases member with old | rfl | old
          exacts [.inl (.inl old),.inr listed,.inl (.inr old)] }
    refine ⟨_,?_,.same_tables grown (fun _ missing => missing) older covers ?_⟩
    · simp only [createTrigger,if_neg done,found,Option.isSome_some,if_true]
    · simp [Settled]

theorem createIndex_runs {name : String} {columns : List String} (listed : (name,table) ∈ made script)
    (there : known.table table) (needs : ∀ name ∈ columns, (table,name) ∈ known)
    (older : Older floor db) (covers : known.covers db) :
    ∃ next, createIndex name table columns db = .ok next ∧ Runs script floor known db (.createIndex name table columns) next := by
  by_cases done : name ∈ db.indexes.map Prod.fst
  · exact ⟨db,if_pos done,.same_tables (refl db) (fun _ missing => missing) older covers done⟩
  · obtain ⟨relation,found⟩ := Known.table_covered there covers
    have named : ∀ column ∈ columns, column ∈ relation.names := fun column member =>
      Known.covered (needs column member) covers found
    have grown : Grows script db { db with indexes := (name,table)::db.indexes } :=
      { (refl db : Grows script db db) with
        indexes := List.subset_cons_self _ _
        newer := by
          intro entry member
          simp only [List.cons_append,List.mem_cons] at member
          rcases member with rfl | old
          exacts [.inr listed,.inl old] }
    refine ⟨_,?_,.same_tables grown (fun _ missing => missing) older covers ?_⟩
    · simp only [createIndex,if_neg done,found]
      exact if_pos named
    · simp [Settled]

theorem insertOrIgnore_runs (now : String) {id : Int} {values : List (String × Value)}
    (listed : Statement.insertOrIgnore table id values ∈ script)
    (needs : ∀ name ∈ "id"::values.map Prod.fst, (table,name) ∈ known) (older : Older floor db) (covers : known.covers db) :
    ∃ next, insertOrIgnore now table id values db = .ok next ∧
      Runs script floor known db (.insertOrIgnore table id values) next := by
  obtain ⟨relation,found,-⟩ := covers _ (needs "id" List.mem_cons_self)
  have named : ∀ name ∈ "id"::values.map Prod.fst, name ∈ relation.names := fun name member =>
    Known.covered (needs name member) covers found
  cases accepted : relation.admits (given now relation.columns id values) with
  | false =>
    refine ⟨db,?_,.same_tables (refl db) (fun _ missing => missing) older covers ⟨relation,found,named,fun later => ?_⟩⟩
    · simp only [insertOrIgnore,found]
      rw [if_pos named,if_neg (by simp [accepted])]
    · rw [← accepted,admits_given]
  | true =>
    have widened : Widened relation ⟨relation.columns,relation.rows ++ [given now relation.columns id values]⟩ []
        [given now relation.columns id values] := by
      constructor <;> simp [extended_nil]
    refine ⟨_,?_,.same_tables (grows_put found widened (by simp) (absurd (List.mem_filterMap.mpr ⟨_,listed,rfl⟩)))
      (fun _ => put_kept (by simp [found])) older covers
      ⟨_,if_pos rfl,named,fun later => ?_⟩⟩
    · simp only [insertOrIgnore,found]
      rw [if_pos named,if_pos accepted]
    · rw [admits_given later now]
      simp [Relation.admits]

theorem addColumn_runs {column : Column} (listed : Statement.tryAddColumn table column ∈ script) (there : known.table table)
    (fills : column.fills) (older : Older floor db)
    (covers : known.covers db) :
    Runs script floor ((table,column.name)::known) db (.tryAddColumn table column) (orElse db (addColumn table column db)) := by
  obtain ⟨relation,found⟩ := Known.table_covered there covers
  have added : ∃ next, orElse db (addColumn table column db) = next ∧
      Runs script floor known db (.tryAddColumn table column) next := by
    by_cases named : column.name ∈ relation.names
    · refine ⟨db,by simp [addColumn,found,named,orElse],?_⟩
      exact .same_tables (refl db) (fun _ missing => missing) older covers ⟨relation,found,named⟩
    · have widened : Widened relation ⟨relation.columns ++ [column],relation.rows.map (extended [column])⟩ [column] [] := by
        constructor <;> simp [named]
      refine ⟨_,?_,.same_tables (grows_put found widened (by simpa using listed) fun _ => rfl)
        (fun _ => put_kept (by simp [found])) older covers
        ⟨_,if_pos rfl,by simp [widened.names]⟩⟩
      simp [addColumn,found,named,fills,orElse]
  obtain ⟨next,eq,runs⟩ := added
  rw [eq]
  refine { runs with covers := ?_ }
  intro entry listed
  rcases List.mem_cons.mp listed with rfl | old
  · exact runs.settled
  · exact runs.covers entry old

theorem exec_runs (now : String) {statement : Statement} {next : Known} (checked : check floor known statement = some next)
    (member : statement ∈ script) (older : Older floor db) (covers : known.covers db) :
    ∃ after, exec now db statement = .ok after ∧ Runs script floor next db statement after := by
  cases statement with
  | createTable table columns =>
    obtain ⟨declared,same⟩ := Option.ite_none_right_eq_some.mp checked
    exact ⟨_,rfl,Option.some.inj same ▸ createTable_runs member declared older covers⟩
  | createTrigger name table =>
    obtain ⟨there,same⟩ := Option.ite_none_right_eq_some.mp checked
    exact Option.some.inj same ▸ createTrigger_runs (mem_made member rfl) there older covers
  | createIndex name table columns =>
    obtain ⟨⟨there,listed⟩,same⟩ := Option.ite_none_right_eq_some.mp checked
    exact Option.some.inj same ▸ createIndex_runs (mem_made member rfl) there listed older covers
  | insertOrIgnore table id values =>
    obtain ⟨listed,same⟩ := Option.ite_none_right_eq_some.mp checked
    exact Option.some.inj same ▸ insertOrIgnore_runs now member listed older covers
  | tryAddColumn table column =>
    obtain ⟨⟨there,fills⟩,same⟩ := Option.ite_none_right_eq_some.mp checked
    exact ⟨_,rfl,Option.some.inj same ▸ addColumn_runs member there fills older covers⟩
  | tryCreateIndex name table columns =>
    obtain ⟨⟨there,listed⟩,same⟩ := Option.ite_none_right_eq_some.mp checked
    obtain ⟨after,ok,runs⟩ : ∃ after, createIndex name table columns db = .ok after ∧
        Runs script floor known db (.createIndex name table columns) after :=
          createIndex_runs (mem_made member rfl) there listed older covers
    exact ⟨after,by simp [exec,ok,orElse],Option.some.inj same ▸ { runs with settled := runs.settled }⟩

theorem runs_checked (now : String) {part : List Statement} {known final : Known} {db : Catalog}
    (checked : checkAll floor known part = some final) (within : ∀ statement ∈ part, statement ∈ script) (older : Older floor db)
    (covers : known.covers db) : ∃ after, run now part db = .ok () after ∧ Grows script db after ∧ Older floor after ∧
      ∀ statement ∈ part, Settled after statement := by
  induction part generalizing known db with
  | nil =>
    cases checked
    exact ⟨db,rfl,refl db,older,by simp⟩
  | cons statement rest ih =>
    obtain ⟨next,first,others⟩ := Option.bind_eq_some_iff.mp checked
    obtain ⟨middle,ok,runs⟩ : ∃ middle, exec now db statement = .ok middle ∧ Runs script floor next db statement middle :=
      exec_runs now first (within statement List.mem_cons_self) older covers
    obtain ⟨after,done,grown,still,settled⟩ := ih others
      (fun other listed => within other (List.mem_cons_of_mem _ listed)) runs.older runs.covers
    refine ⟨after,by rw [run_cons ok,done],Trans.trans runs.grown grown,still,?_⟩
    intro other listed
    rcases List.mem_cons.mp listed with rfl | late
    · exact runs.settled.grows grown
    · exact settled other late

end

theorem run_checked (now : String) {script : List Statement} {final : Known} {db : Catalog}
    (checked : checkAll (floor script) [] script = some final) (older : Older (floor script) db) :
    ∃ after, run now script db = .ok () after ∧ Grows script db after ∧
      (∀ table, ∀ name ∈ declared script table ++ altered script table, ∃ relation, after.relation table = some relation ∧
        name ∈ relation.names) ∧
      ∀ statement ∈ script, Settled after statement := by
  obtain ⟨after,ok,grown,still,settled⟩ := runs_checked now checked (fun _ listed => listed) older (by simp [Known.covers])
  refine ⟨after,ok,grown,?_,settled⟩
  intro table name given
  by_cases later : name ∈ altered script table
  · obtain ⟨statement,listed,names⟩ := List.mem_filterMap.mp later
    cases statement <;> simp only [reduceCtorEq,Option.ite_none_right_eq_some,Option.some.injEq] at names
    obtain ⟨rfl,rfl⟩ := names
    exact settled _ listed
  · replace given := (List.mem_append.mp given).resolve_right later
    obtain ⟨statement,listed,names⟩ := List.mem_flatMap.mp given
    cases statement <;> simp only [List.not_mem_nil] at names
    rename_i other columns
    split_ifs at names with same
    · subst same
      obtain ⟨relation,there⟩ := settled _ listed
      exact ⟨relation,there,still other relation there name (List.mem_filter.mpr ⟨given,by simpa using later⟩)⟩
    · cases names

/-! A table made anew from its rows, all or nothing. -/

/-- The row can go into a table with these columns: it passes their checks, and what it refers to is there. -/
def Catalog.accepts (db : Catalog) (columns : List Column) (row : Row) : Bool :=
  columns.all fun column => column.passes (row column.name) &&
    match column.parent with
    | none => true
    | some parent => row column.name == .null ||
        ((db.relation parent).map Relation.rows).any fun rows => rows.any fun other => other "id" == row column.name

theorem Grows.accepts {script : List Statement} {db next : Catalog} (grown : Grows script db next) {columns : List Column}
    (parents : ∀ column ∈ columns, ∀ parent ∈ column.parent, parent ∉ seeded script ∧
      ∀ relation, db.relation parent = some relation → "id" ∈ relation.names) (row : Row) :
    next.accepts columns row = db.accepts columns row := by
  have ids : ∀ column ∈ columns, ∀ parent ∈ column.parent, ∀ id,
      (((next.relation parent).map Relation.rows).any fun rows => rows.any fun other => other "id" == id) =
      ((db.relation parent).map Relation.rows).any fun rows => rows.any fun other => other "id" == id := by
    intro column member parent refers id
    obtain ⟨fixed,keyed⟩ := parents column member parent refers
    cases was : db.relation parent with
    | none =>
      cases there : next.relation parent with
      | none => rfl
      | some relation => simp [(grown.fresh parent relation was there).2 fixed]
    | some relation =>
      obtain ⟨wide,added,more,here,widened,-,still⟩ := grown.tables parent relation was
      have kept : ∀ other : Row, extended added other "id" = other "id" := by
        apply extended_other
        intro new listed named
        exact widened.fresh new listed (named ▸ keyed relation was)
      simp [here,widened.rows,still fixed,kept,Function.comp_def]
  simp only [Catalog.accepts]
  apply Bool.eq_iff_iff.mpr
  simp only [List.all_eq_true]
  apply forall₂_congr
  intro column member
  cases refers : column.parent with
  | none => simp
  | some parent => simp only [ids column member parent refers]

def fill (db : Catalog) (columns : List Column) (done : List Row) : List Row → Except String (List Row)
  | [] => .ok done
  | row::rest =>
    if done.any fun other => other "id" == row "id" then .error "UNIQUE constraint failed"
    else if db.accepts columns row then fill db columns (done ++ [row]) rest
    else .error "constraint failed"

/-- In one transaction: the table is renamed to `aside`, a new one made and filled, the old one dropped. -/
def replaceTable (table aside : String) (columns : List Column) (carry : Row → Row) : EStateM String Catalog Unit := fun db =>
  match db.relation table,db.relation aside with
  | none,_ => .error "no such table" db
  | some _,some _ => .error "there is already another table with this name" db
  | some relation,none =>
    match fill db columns [] (relation.rows.map carry) with
    | .error message => .error message db
    | .ok rows => .ok () { db.put table ⟨columns,rows⟩ with
        indexes := db.indexes.filter fun index => index.2 != table
        triggers := db.triggers.filter fun trigger => trigger.2 != table }

/-- The rows can go into the table one after the other. -/
def Fills (db : Catalog) (columns : List Column) (rows : List Row) : Prop :=
  (rows.map fun row => row "id").Nodup ∧ ∀ row ∈ rows, db.accepts columns row

theorem fill_ok_iff {db : Catalog} {columns : List Column} {done rows : List Row} (apart : (done.map fun row => row "id").Nodup) :
    (∃ filled, fill db columns done rows = .ok filled) ↔
      ((done ++ rows).map fun row => row "id").Nodup ∧ ∀ row ∈ rows, db.accepts columns row := by
  induction rows generalizing done with
  | nil => simpa [fill] using apart
  | cons row rest ih =>
    by_cases same : done.any fun other => other "id" == row "id"
    · have twice : ¬((done ++ row::rest).map fun row => row "id").Nodup := by
        obtain ⟨other,listed,eq⟩ := List.any_eq_true.mp same
        intro nodup
        rw [List.map_append,List.nodup_append] at nodup
        exact nodup.2.2 _ (List.mem_map_of_mem listed) _ (by simp) (eq_of_beq eq)
      constructor
      · simp [fill,same]
      · exact fun fits => absurd fits.1 twice
    · have fresh : ((done ++ [row]).map fun row => row "id").Nodup := by
        simp only [List.any_eq_true,not_exists,not_and,beq_iff_eq] at same
        rw [List.map_append,List.nodup_append]
        refine ⟨apart,by simp,?_⟩
        intro id listed other single eq
        obtain ⟨stored,inside,rfl⟩ := List.mem_map.mp listed
        exact same stored inside (by simpa [eq] using single)
      by_cases accepted : db.accepts columns row
      · have steps := ih fresh
        simp only [fill,same,accepted,if_true]
        simpa [accepted] using steps
      · simp [fill,same,accepted]

theorem fill_rows {db : Catalog} {columns : List Column} {done rows filled : List Row}
    (ok : fill db columns done rows = .ok filled) : filled = done ++ rows := by
  induction rows generalizing done with
  | nil =>
    cases ok
    simp
  | cons row rest ih =>
    simp only [fill] at ok
    split_ifs at ok
    simpa using ih ok

/-- A statement that has nothing to do in a table that is made anew has nothing to do after it. -/
theorem Settled.replaced {db next : Catalog} {table : String} {relation : Relation} {statement : Statement}
    (settled : Settled db statement) (here : next.relation table = some relation)
    (others : ∀ other, other ≠ table → next.relation other = db.relation other) (indexes : next.indexes = db.indexes)
    (triggers : next.triggers = db.triggers)
    (adds : ∀ column, statement = .tryAddColumn table column → column.name ∈ relation.names)
    (inserts : ∀ id values, statement ≠ .insertOrIgnore table id values) : Settled next statement := by
  cases statement with
  | createTable other columns =>
    by_cases same : other = table
    · exact ⟨relation,same ▸ here⟩
    · obtain ⟨old,there⟩ := settled
      exact ⟨old,by rw [others other same,there]⟩
  | createTrigger name other => simpa [Settled,triggers] using settled
  | createIndex name other columns => simpa [Settled,indexes] using settled
  | tryCreateIndex name other columns => simpa [Settled,indexes] using settled
  | insertOrIgnore other id values =>
    have apart : other ≠ table := fun same => inserts id values (by rw [same])
    simpa [Settled,others other apart] using settled
  | tryAddColumn other column =>
    by_cases same : other = table
    · exact ⟨relation,same ▸ here,adds column (by rw [same])⟩
    · simpa [Settled,others other same] using settled

theorem replaceTable_ok {db next : Catalog} {table aside : String} {columns : List Column} {carry : Row → Row}
    (ok : replaceTable table aside columns carry db = .ok () next) :
    ∃ relation, db.relation table = some relation ∧ next.relation table = some ⟨columns,relation.rows.map carry⟩ ∧
      (∀ other, other ≠ table → next.relation other = db.relation other) ∧
      ((∀ entry ∈ db.indexes ++ db.triggers, entry.2 ≠ table) → next.indexes = db.indexes ∧ next.triggers = db.triggers) := by
  simp only [replaceTable] at ok
  split at ok
  · cases ok
  · cases ok
  · rename_i relation there _
    split at ok
    · cases ok
    · rename_i rows filled
      cases ok
      refine ⟨relation,there,?_,fun other apart => by simp [Catalog.put,apart],fun apart => ?_⟩
      · simp [Catalog.put,fill_rows filled]
      · obtain ⟨indexes,triggers⟩ := List.forall_mem_append.mp apart
        constructor
        · simpa using indexes
        · simpa using triggers

theorem replaceTable_iff {db : Catalog} {table aside : String} {relation : Relation} (there : db.relation table = some relation)
    (columns : List Column) (carry : Row → Row) :
    (∃ next, replaceTable table aside columns carry db = .ok () next) ↔
      db.relation aside = none ∧ Fills db columns (relation.rows.map carry) := by
  have filling : (∃ rows, fill db columns [] (relation.rows.map carry) = .ok rows) ↔
      Fills db columns (relation.rows.map carry) := @fill_ok_iff db columns [] _ List.nodup_nil
  cases left : db.relation aside with
  | some old => simp [replaceTable,there,left]
  | none =>
    rw [← filling]
    cases result : fill db columns [] (relation.rows.map carry) with
    | ok rows => simp [replaceTable,there,left,result]
    | error message => simp [replaceTable,there,left,result]

theorem replaceTable_rollback {db : Catalog} {table aside : String} {columns : List Column} {carry : Row → Row}
    (failed : ¬∃ next, replaceTable table aside columns carry db = .ok () next) :
    ∃ message, replaceTable table aside columns carry db = .error message db := by
  simp only [replaceTable] at failed ⊢
  split
  · exact ⟨_,rfl⟩
  · exact ⟨_,rfl⟩
  · split
    · exact ⟨_,rfl⟩
    · simp_all

end BitProtector.Migrations
