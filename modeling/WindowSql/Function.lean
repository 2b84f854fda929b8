import WindowSql.Text.Case

/-!
Window functions: what is known of a function by its name.

The category decides the frame of a window, the order source where its ordering is looked for first.
-/

namespace WindowSql

inductive Category where
  | ranking | offset | cumulative | rolling | recycled | plain
  deriving DecidableEq, Repr, Inhabited

/-- Where a function looks first for its ordering. -/
inductive OrderSource where
  | firstArgument | contextOnly | explicitOrdering
  deriving DecidableEq, Repr, Inhabited

namespace Category

def all : List Category := [ranking, offset, cumulative, rolling, recycled, plain]

def name : Category → String
  | ranking => "ranking"
  | offset => "offset"
  | cumulative => "cumulative_aggregate"
  | rolling => "rolling_aggregate"
  | recycled => "recycled_aggregate"
  | plain => "plain_aggregate"

def ofName? (s : String) : Option Category := all.find? (·.name == s)

def isAggregate : Category → Bool
  | ranking | offset => false
  | _ => true

end Category

namespace OrderSource

def all : List OrderSource := [firstArgument, contextOnly, explicitOrdering]

def name : OrderSource → String
  | firstArgument => "first_argument"
  | contextOnly => "context_only"
  | explicitOrdering => "explicit_order_by_argument"

def ofName? (s : String) : Option OrderSource := all.find? (·.name == s)

end OrderSource

/-- What is known of a window function. -/
structure WindowFunction where
  /-- The name it is called by, in lower case. -/
  name : String
  category : Category
  /-- The function of SQL it becomes; a dialect may spell it otherwise. -/
  sqlName : String
  /-- Without an ordering it cannot be computed. -/
  requiresOrder : Bool
  orderSource : OrderSource
  minArgs : Int := 1
  maxArgs : Int := 1
  /-- Arguments that have to be integers, with the least value of each. A negative position counts
  from the end. -/
  integerArgs : List (Int × Int) := []
  /-- What generated column names start with, if not the name. -/
  aliasStem : Option String := none
  preceding : Option Int := none
  following : Option Int := none
  /-- Without arguments it is applied to `*`. -/
  starWhenEmpty : Bool := false
  deriving DecidableEq, Repr, Inhabited

namespace WindowFunction

def stem (f : WindowFunction) : String :=
  match f.aliasStem with
  | some s => if s.isEmpty then f.name else s
  | none => f.name

def isAggregate (f : WindowFunction) : Bool := f.category.isAggregate

/-- An aggregate over some rows before and some after the current one. -/
def rolling (name aggregate : String) (preceding following : Option Int) : WindowFunction where
  name := Text.lower name
  category := .rolling
  sqlName := Text.upper aggregate
  requiresOrder := true
  orderSource := .explicitOrdering
  preceding := preceding
  following := following

def ranking (name sqlName : String) : WindowFunction where
  name := name
  category := .ranking
  sqlName := sqlName
  requiresOrder := true
  orderSource := .firstArgument
  minArgs := 0

def offset (name sqlName : String) : WindowFunction where
  name := name
  category := .offset
  sqlName := sqlName
  requiresOrder := true
  orderSource := .explicitOrdering

def cumulative (name sqlName : String) : WindowFunction where
  name := name
  category := .cumulative
  sqlName := sqlName
  requiresOrder := true
  orderSource := .explicitOrdering

def aggregate (name sqlName : String) : WindowFunction where
  name := name
  category := .plain
  sqlName := sqlName
  requiresOrder := false
  orderSource := .contextOnly

/-- Ranking functions: the first argument, when there is one, is the ordering key. -/
def rankingFunctions : List WindowFunction :=
  [ranking "row_number" "ROW_NUMBER",
   { ranking "min_rank" "RANK" with aliasStem := some "rank" },
   { ranking "rank" "RANK" with orderSource := .contextOnly },
   ranking "dense_rank" "DENSE_RANK",
   ranking "percent_rank" "PERCENT_RANK",
   ranking "cume_dist" "CUME_DIST",
   { ranking "ntile" "NTILE" with minArgs := 1, maxArgs := 2, integerArgs := [(-1, 1)] }]

/-- Offset functions: the ordering comes from the call or from the context. -/
def offsetFunctions : List WindowFunction :=
  [{ offset "lead" "LEAD" with maxArgs := 3, integerArgs := [(1, 0)] },
   { offset "lag" "LAG" with maxArgs := 3, integerArgs := [(1, 0)] },
   { offset "nth_value" "NTH_VALUE" with minArgs := 2, maxArgs := 2, integerArgs := [(1, 1)] },
   offset "first_value" "FIRST_VALUE",
   offset "last_value" "LAST_VALUE"]

/-- Cumulative aggregates: from the start of the partition to the current row. -/
def cumulativeFunctions : List WindowFunction :=
  [cumulative "cumsum" "SUM", cumulative "cummin" "MIN", cumulative "cummax" "MAX",
   cumulative "cummean" "AVG", cumulative "cumany" "BOOL_OR", cumulative "cumall" "BOOL_AND"]

/-- Plain aggregates: computed over the whole partition when they stand in a window. -/
def aggregateFunctions : List WindowFunction :=
  [aggregate "mean" "AVG", aggregate "sum" "SUM", aggregate "min" "MIN", aggregate "max" "MAX",
   aggregate "sd" "STDDEV", aggregate "var" "VARIANCE", aggregate "median" "MEDIAN",
   { aggregate "n" "COUNT" with minArgs := 0, maxArgs := 0, starWhenEmpty := true },
   aggregate "any" "BOOL_OR", aggregate "all" "BOOL_AND"]

/-- The functions that are always known. -/
def builtin : List WindowFunction :=
  rankingFunctions ++ offsetFunctions ++ cumulativeFunctions ++ aggregateFunctions

end WindowFunction

end WindowSql
