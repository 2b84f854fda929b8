import WindowSql.Dialect.Profile
import WindowSql.Expr.Calls
import WindowSql.Fault.Pair
import WindowSql.Schema.Expr
import WindowSql.Text.Case

/-!
The context a statement is compiled in: the columns the rows are grouped by, the ordering of the
last arrangement, and the dialect profile.

A default ordering has at most one key. It is given by order specifications: the name of a column, a
pair of a column and a direction, or a key. Partition columns are taken as they are; only a window
needs them to be names.
-/

namespace WindowSql

structure Context where
  partition : List Json := []
  defaultOrder : Option OrderKey := none
  profile : Profile := {}
  deriving Repr, Inhabited

/-- One entry of a default ordering, as it is given. -/
inductive OrderSpec where
  | column (name : String)
  | key (k : OrderKey)
  | entries (items : List Json)
  /-- A value that is no ordering at all. -/
  | value (j : Json)
  deriving Repr

inductive ContextFault where
  | config (fault : ConfigFault)
  | schema (fault : Schema.Fault)
  | pair (fault : PairFault)
  deriving Repr

namespace OrderSpec

/-- A text names a column; a list holds a column and a direction, and of an object the names of its
fields are taken for such a list. -/
def ofJson : Json → OrderSpec
  | .str name => column name
  | .arr items => entries items
  | .obj fields => entries (fields.map fun f => .str f.1)
  | j => value j

/-- A column of a pair has to be a text. -/
def columnExpr (j : Json) : Except Schema.Fault Expr :=
  Schema.Decoded.named "ColumnExpr"
    ((Schema.Decoded.within (.field "col") (Schema.text j)).map Expr.column)

/-- A direction is read without regard to case. -/
def direction (j : Json) : Except Schema.Fault Direction :=
  let read := match j with
    | .str s => Schema.direction (.str (Text.upper s))
    | j => Schema.direction j
  Schema.Decoded.named "OrderKey" (Schema.Decoded.within (.field "direction") read)

def orderKey : OrderSpec → Except ContextFault OrderKey
  | column name => .ok ⟨.column name, .asc⟩
  | key k => .ok k
  | entries items =>
    match asPair items with
    | .error f => .error (.pair f)
    | .ok (c, d) =>
      match columnExpr c with
      | .error f => .error (.schema f)
      | .ok e =>
        match direction d with
        | .error f => .error (.schema f)
        | .ok dir => .ok ⟨e, dir⟩
  | value j => .error (.config (.notAnOrderKey j))

end OrderSpec

/-- Grouping columns as they are given: one name, or several columns. -/
inductive Grouping where
  | one (name : String)
  | several (columns : List Json)
  deriving Repr

/-- A default ordering as it is given: one specification, or several. -/
inductive Arrangement where
  | column (name : String)
  | key (k : OrderKey)
  | several (specs : List OrderSpec)
  deriving Repr

namespace Grouping

def columns : Grouping → List Json
  | one name => [.str name]
  | several columns => columns

/-- The entries of a grouping read one by one; those of a name are its characters. -/
def spread : Grouping → List Json
  | one name => name.toList.map fun c => .str (String.singleton c)
  | several columns => columns

end Grouping

namespace Arrangement

def specs : Arrangement → List OrderSpec
  | column name => [.column name]
  | key k => [.key k]
  | several specs => specs

/-- The entries of an arrangement read one by one; those of a name are its characters, those of a
key its fields. -/
def spread : Arrangement → List OrderSpec
  | column name => name.toList.map fun c => .column (String.singleton c)
  | key k =>
    [.entries [.str "expr", Schema.encodeExpr k.expr],
     .entries [.str "direction", .str k.direction.name]]
  | several specs => specs

end Arrangement

namespace Context

/-- A context with the one key of the specifications, or none. -/
def ofSpecs (partition : List Json) (specs : List OrderSpec) (profile : Profile) :
    Except ContextFault Context := do
  let keys ← specs.mapM OrderSpec.orderKey
  match keys with
  | [] => return ⟨partition, none, profile⟩
  | [k] => return ⟨partition, some k, profile⟩
  | _ => throw (.config (.severalOrderKeys keys))

def make (grouping : Grouping) (arrangement : Arrangement) (profile : Profile) :
    Except ContextFault Context :=
  ofSpecs grouping.columns arrangement.specs profile

/-- The context of a relation, whose grouping and ordering are read one by one. -/
def ofRelation (grouping : Grouping) (arrangement : Arrangement) (profile : Profile) :
    Except ContextFault Context :=
  ofSpecs grouping.spread arrangement.spread profile

def groupBy (c : Context) (columns : List Json) : Context := { c with partition := columns }

def ungroup (c : Context) : Context := c.groupBy []

def arrange (c : Context) (column direction : Json) : Except ContextFault Context :=
  (OrderSpec.entries [column, direction]).orderKey.map fun k => { c with defaultOrder := some k }

def withProfile (c : Context) (profile : Profile) : Context := { c with profile := profile }

def describeOrder (l : Limits) (c : Context) : Except LongInteger (List String) :=
  c.defaultOrder.toList.mapM (OrderKey.describe l)

/-- The nested calls of the default ordering. -/
def orderDepth (c : Context) : Nat :=
  match c.defaultOrder with
  | some k => k.expr.callDepth
  | none => 0

end Context

end WindowSql
