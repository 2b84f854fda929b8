import WindowSql.Context

/-!
Contexts and sources taken over from a select built elsewhere.

Its grouping gives the partition, its ordering the default ordering, and its one entry in FROM the
source. The entries are taken as the select holds them. Only named columns are taken: an ordering is
looked at below its unary operations, of which the innermost direction counts; a grouping is taken
as it stands.
-/

namespace WindowSql

/-- What a unary operation in a grouping or an ordering does: it says how to order, or it computes a
value. Of the latter there are more than the negation, none of which is told apart here. -/
inductive Unary where
  | ascending | descending | nullsFirst | nullsLast | negation
  deriving DecidableEq, Repr

/-- An entry of a grouping or an ordering. -/
inductive Element where
  | column (name : String)
  | label (name : String)
  | unnamed
  | unary (op : Unary) (inner : Element)
  deriving DecidableEq, Repr, Inhabited

namespace Element

def name? : Element → Option String
  | column name | label name => if name.isEmpty then none else some name
  | _ => none

/-- The element below all unary operations. -/
def base : Element → Element
  | unary _ e => base e
  | e => e

/-- The direction of an ordering, where `outer` is what holds outside. -/
def directionIn (outer : Direction) : Element → Direction
  | unary .ascending e => directionIn .asc e
  | unary .descending e => directionIn .desc e
  | unary _ e => directionIn outer e
  | _ => outer

def groupName (e : Element) : Except ConfigFault String :=
  match e.name? with
  | some name => .ok name
  | none => .error (.unnamedColumn "group_by")

def orderKey (e : Element) : Except ConfigFault OrderKey :=
  match e.base.name? with
  | some name => .ok ⟨.column name, e.directionIn .asc⟩
  | none => .error (.unnamedColumn "order_by")

end Element

/-- An entry of FROM. Entries that are no tables are known by their kind. -/
inductive FromEntry where
  | table (schema : Option String) (name : String) (label : Option String)
  | other (kind : String)
  deriving DecidableEq, Repr

structure Select where
  sources : List FromEntry
  groupBy : List Element
  orderBy : List Element
  deriving Repr

namespace Select

/-- The context of a select. -/
def context (s : Select) (profile : Profile) : Except ConfigFault Context := do
  let partition ← s.groupBy.mapM Element.groupName
  let keys ← s.orderBy.mapM Element.orderKey
  match keys with
  | [] => return ⟨partition.map .str, none, profile⟩
  | [k] => return ⟨partition.map .str, some k, profile⟩
  | _ => throw (.severalOrderKeys keys)

/-- The name of a table behind its schema. -/
def tableName (schema : Option String) (name : String) : String :=
  match schema with
  | some q => if q.isEmpty then name else q ++ "." ++ name
  | none => name

/-- The table of the only entry of FROM, and its label. -/
def source (s : Select) : Except ConfigFault (String × Option String) :=
  match s.sources with
  | [.table schema name label] => .ok (tableName schema name, label)
  | [.other kind] => .error (.unsupportedSource kind)
  | es => .error (.sourceCount es.length)

end Select

end WindowSql
