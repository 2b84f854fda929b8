import WindowSql.Dialect
import WindowSql.Expr.Calls
import WindowSql.Json
import WindowSql.Naming.Fresh
import WindowSql.Schema.Issue

/-!
What is wrong with a statement.

A `Fault` is something the statement is to blame for: it has a message, a code, details, and the
clause it is in where that is known. A `Failure` is a fault, or one of the ways in which the names
or the context of a compilation let it down, or an integer that is too long to be written. Such an
integer may also stand in the message of a fault, and is all that is told of it then.
-/

namespace WindowSql

/-- A part of a statement. -/
inductive Place where
  | selectList | source | predicate | expression
  deriving DecidableEq, Repr

def Place.name : Place → String
  | selectList => "select_list"
  | source => "from"
  | predicate => "predicate"
  | expression => "expression"

/-- Why a frame cannot be written. -/
inductive FrameRefusal where
  | disabled (target : Target)
  | noWidth
  | asymmetric (preceding following : Int)
  | negative (width : Int)
  | tooWide (width limit : Int) (target : Target)
  deriving DecidableEq, Repr

namespace FrameRefusal

def message (l : Limits) : FrameRefusal → Except LongInteger String
  | disabled target => .ok ("dialect '" ++ target.name ++ "' profile has frame clauses disabled.")
  | noWidth => .ok "rolling aggregate declares no width."
  | asymmetric preceding following => do
    let before ← l.text preceding
    let after ← l.text following
    return "asymmetric width (" ++ before ++ " preceding, " ++ after ++ " following)."
  | negative width => (l.text width).map fun rows => "negative width " ++ rows ++ "."
  | tooWide width limit target => do
    let rows ← l.text width
    let most ← l.text limit
    return "width " ++ rows ++ " exceeds the '" ++ target.name ++ "' profile limit of " ++ most
      ++ "."

/-- The rows before and after the current one that were asked for. -/
def widths : FrameRefusal → Option (Int × Int)
  | disabled _ | noWidth => none
  | asymmetric preceding following => some (preceding, following)
  | negative width | tooWide width _ _ => some (width, width)

end FrameRefusal

inductive Fault where
  | unknownFunction (name : String) (known : List String)
  | unavailableFunction (name dialect : String)
  | argumentCount (call : Call) (least most : Int)
  /-- The argument at `position` is no integer from `least` on. -/
  | integerArgument (call : Call) (position : Nat) (least : Int) (argument : Expr)
  | missingOrder (call : Call)
  | noWindow (call : Call)
  | nestedCall (call : Call) (nested : Call.Nested)
  | severalPartitions (partitions : List (List String))
  | frame (func : String) (refusal : FrameRefusal)
  | misplacedDesc (place : Place) (e : Expr)
  /-- A filter on a window call that was not moved over a subquery. -/
  | windowInFilter (predicate : Expr)
  | sourceCount
  | blankTable
  | repeatedName (name : String)
  | noSource
  /-- A call is left in a block over promoted columns. -/
  | callLeft (e : Expr)
  | hiddenQualifier (column qualifier : String) (label : Option String)
  | absentColumn (column : String) (produced : List String)
  | unknownDialect (target : String) (known : List String)
  deriving Repr

namespace Fault

/-- A number of arguments, or from least to most. -/
def argumentRange (l : Limits) (least most : Int) : Except LongInteger String := do
  let low ← l.text least
  if least = most then return low
  let high ← l.text most
  return low ++ " to " ++ high

def message (l : Limits) : Fault → Except LongInteger String
  | unknownFunction name _ => .ok ("Unknown window function '" ++ name ++ "'.")
  | unavailableFunction name dialect =>
    .ok ("Window function '" ++ name ++ "' is not available in dialect '" ++ dialect ++ "'.")
  | argumentCount call least most =>
    (argumentRange l least most).map fun range =>
      "'" ++ call.func ++ "' takes " ++ range ++ " argument(s), got "
        ++ toString call.args.length ++ "."
  | integerArgument call position least argument => do
    let bound ← l.text least
    let given ← argument.describe l
    return "Argument " ++ toString position ++ " of '" ++ call.func
      ++ "' must be an integer literal >= " ++ bound ++ ", got " ++ given ++ "."
  | missingOrder call =>
    .ok ("Window function '" ++ call.func ++ "' requires an ordering, but none was given "
      ++ "as an argument, an order_by override, or a context default.")
  | noWindow call =>
    .ok ("Aggregate '" ++ call.func ++ "' is used outside a window context (no partition, "
      ++ "no ordering, not in a filter); use ordinary aggregation instead.")
  | nestedCall call nested =>
    .ok ("Window function '" ++ nested.inner ++ "' cannot be nested inside window function '"
      ++ call.func ++ "'.")
  | severalPartitions partitions =>
    .ok ("Window clauses in one statement use different partitions: "
      ++ Text.bracketed (partitions.map Text.quotedList) ++ ".")
  | frame func refusal =>
    (refusal.message l).map fun reason =>
      "Frame for window function '" ++ func ++ "' is not supported: " ++ reason
  | misplacedDesc _ _ => .ok "desc() is only valid as an ordering key."
  | windowInFilter _ => .ok "Window function in WHERE clause; rewrite the statement first."
  | sourceCount => .ok "Relation must specify exactly one of 'table' or 'subquery'."
  | blankTable => .ok "Relation table name must not be empty."
  | repeatedName name => .ok ("Duplicate select alias '" ++ name ++ "'.")
  | noSource => .ok "Relation has neither a table nor a subquery."
  | callLeft e =>
    (e.describe l).map fun text => "Outer statement still computes a window call: " ++ text ++ "."
  | hiddenQualifier column qualifier _ =>
    .ok ("Column '" ++ column ++ "' is qualified by '" ++ qualifier ++ "', which is "
      ++ "not visible outside the inner select.")
  | absentColumn column _ =>
    .ok ("Column '" ++ column ++ "' is not produced by the inner select.")
  | unknownDialect target known =>
    .ok ("No compiler registered for dialect '" ++ target ++ "' (known: "
      ++ ", ".intercalate known ++ ").")

def code : Fault → String
  | unknownFunction .. | unavailableFunction .. => "UNKNOWN_FUNCTION"
  | argumentCount .. | integerArgument .. => "INVALID_ARGUMENTS"
  | missingOrder _ => "MISSING_ORDER"
  | noWindow _ => "NOT_A_WINDOW_CONTEXT"
  | nestedCall .. => "UNSUPPORTED_NESTING"
  | severalPartitions _ => "AMBIGUOUS_PARTITION"
  | frame .. => "UNSUPPORTED_FRAME"
  | misplacedDesc .. => "MISPLACED_DESC"
  | windowInFilter _ => "UNREWRITTEN_FILTER"
  | sourceCount | blankTable => "INVALID_RELATION"
  | repeatedName _ => "DUPLICATE_ALIAS"
  | noSource => "COMPILATION_ERROR"
  | callLeft _ | hiddenQualifier .. | absentColumn .. => "REWRITE_INVARIANT"
  | unknownDialect .. => "UNSUPPORTED_DIALECT"

/-- The part of the statement that is shown. -/
def fragment? : Fault → Option Expr
  | argumentCount call _ _ | integerArgument call _ _ _ | missingOrder call | noWindow call
  | nestedCall call _ => some call.toExpr
  | misplacedDesc _ e | windowInFilter e | callLeft e => some e
  | _ => none

/-- The details that tell where in the statement to look, but for the part that is shown. -/
def particulars : Fault → List (String × Json)
  | unknownFunction name known => [("function", .str name), ("known_functions", .ofStrings known)]
  | unavailableFunction name dialect => [("function", .str name), ("dialect", .str dialect)]
  | argumentCount call _ _ => [("function", .str call.func), ("position", .null)]
  | integerArgument call position _ _ =>
    [("function", .str call.func), ("position", .int position)]
  | missingOrder call | noWindow call => [("function", .str call.func)]
  | nestedCall call nested =>
    [("function", .str call.func), ("nested_function", .str nested.inner),
      ("position", Json.ofOption (fun n : Nat => .int n) nested.position)]
  | severalPartitions partitions => [("partitions", .arr (partitions.map .ofStrings))]
  | frame func refusal =>
    [("function", .str func),
      ("preceding", Json.ofOption .int (refusal.widths.map Prod.fst)),
      ("following", Json.ofOption .int (refusal.widths.map Prod.snd))]
  | misplacedDesc .. | windowInFilter _ | callLeft _ | sourceCount | blankTable | noSource => []
  | repeatedName name => [("alias", .str name)]
  | hiddenQualifier column _ label =>
    [("column", .str column), ("relation", Json.ofOption .str label)]
  | absentColumn column produced => [("column", .str column), ("produced", .ofStrings produced)]
  | unknownDialect target known =>
    [("target", .str target), ("registered_targets", .ofStrings known)]

def details (l : Limits) (f : Fault) : Except LongInteger (List (String × Json)) := do
  let fragment ← f.fragment?.toList.mapM (Expr.describe l)
  return f.particulars ++ fragment.map fun text => ("fragment", .str text)

/-- The part of the statement that the fault is in. -/
def place? : Fault → Option Place
  | misplacedDesc place _ => some place
  | windowInFilter _ => some .predicate
  | sourceCount | blankTable | noSource => some .source
  | repeatedName _ => some .selectList
  | _ => none

end Fault

inductive Failure where
  | fault (f : Fault)
  | naming (f : NamingFault)
  /-- The context gives no proper window. -/
  | window (f : Schema.Fault)
  /-- An ordering of the context needs the window it is the ordering of. -/
  | endlessOrdering
  | longInteger (f : LongInteger)
  deriving Repr

instance : Coe Fault Failure := ⟨.fault⟩

/-- A check as a step of a compilation. -/
def Fault.lift {α : Type} (result : Except Fault α) : Except Failure α := result.mapError .fault

/-- A text of integers as a step of a compilation. -/
def LongInteger.lift {α : Type} (result : Except LongInteger α) : Except Failure α :=
  result.mapError .longInteger

end WindowSql
