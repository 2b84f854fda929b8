import WindowSql.Schema.Scalar
import WindowSql.Expr

/-!
Expressions as documents.

The first of the fields `col`, `value`, `func`, `op` and `desc` that is present tells the kind of an
expression, and stands in the path of what is wrong inside it. `encode` writes every field.
-/

namespace WindowSql.Schema

def literalValue : Json → Decoded Literal
  | .null => .ok .null
  | .bool b => .ok (.bool b)
  | .int i => .ok (.int i)
  | .float x => .ok (.float x)
  | .str s => .ok (.str s)
  | _ => .error
    [⟨[.field "bool"], .notBool⟩, ⟨[.field "int"], .notInteger⟩, ⟨[.field "float"], .notNumber⟩,
     ⟨[.field "str"], .notString⟩]

def operator : Json → Decoded BinaryOp :=
  oneOf BinaryOp.ofName? (.notLiteral (BinaryOp.all.map (·.name)))

/-- The kinds of expressions by their field. -/
inductive Tag where
  | col | value | func | op | desc
  deriving DecidableEq, Repr

namespace Tag

def all : List Tag := [col, value, func, op, desc]

def name : Tag → String
  | col => "col"
  | value => "value"
  | func => "func"
  | op => "op"
  | desc => "desc"

/-- The kind that the fields of an object tell. -/
def of? (fields : List (String × Json)) : Option Tag :=
  all.find? fun t => fields.any (·.1 == t.name)

end Tag

mutual

def expr : Json → Decoded Expr
  | .obj fields =>
    match Tag.of? fields with
    | none => .fail .untagged
    | some tag => Decoded.within (.field tag.name) (match tag with
      | .col =>
        Decoded.app (.ok Expr.column) (required fields "col" text)
          |>.andThen (onlyFields ["col"] fields)
      | .value =>
        Decoded.app (.ok Expr.literal) (required fields "value" literalValue)
          |>.andThen (onlyFields ["value"] fields)
      | .func =>
        Decoded.app (.ok Expr.call) (required fields "func" text)
          |>.app ((exprsAt "args" fields).getD (.ok []))
          |>.app ((orderingAt fields).getD (.ok none))
          |>.andThen (onlyFields ["func", "args", "order_by"] fields)
      | .op =>
        Decoded.app (.ok Expr.binary) (required fields "op" operator)
          |>.app ((exprAt "left" fields).getD (missing "left"))
          |>.app ((exprAt "right" fields).getD (missing "right"))
          |>.andThen (onlyFields ["op", "left", "right"] fields)
      | .desc =>
        Decoded.app (.ok Expr.desc) ((exprAt "desc" fields).getD (missing "desc"))
          |>.andThen (onlyFields ["desc"] fields))
  | _ => .fail .untagged

/-- The expressions of a list, under their indexes counted from `start`. -/
def exprs (start : Nat) : List Json → Decoded (List Expr)
  | [] => .ok []
  | j :: rest =>
    Decoded.app (.ok List.cons) (Decoded.within (.index start) (expr j))
      |>.app (exprs (start + 1) rest)

/-- The expression in a field. -/
def exprAt (name : String) : List (String × Json) → Option (Decoded Expr)
  | [] => none
  | (n, j) :: rest =>
    if n = name then some (Decoded.within (.field name) (expr j)) else exprAt name rest

/-- The list of expressions in a field. -/
def exprsAt (name : String) : List (String × Json) → Option (Decoded (List Expr))
  | [] => none
  | (n, j) :: rest =>
    if n = name then
      some (Decoded.within (.field name) (match j with
        | .arr js => exprs 0 js
        | _ => .fail .notTuple))
    else exprsAt name rest

/-- The ordering of a call, which may be null. -/
def orderingAt : List (String × Json) → Option (Decoded (Option (List Expr)))
  | [] => none
  | (n, j) :: rest =>
    if n = "order_by" then
      some (Decoded.within (.field "order_by") (match j with
        | .null => .ok none
        | .arr js => (exprs 0 js).map some
        | _ => .fail .notTuple))
    else orderingAt rest

end

def encodeLiteral : Literal → Json
  | .null => .null
  | .bool b => .bool b
  | .int i => .int i
  | .float x => .float x
  | .str s => .str s

mutual

def encodeExpr : Expr → Json
  | .column name => .obj [("col", .str name)]
  | .literal v => .obj [("value", encodeLiteral v)]
  | .call func args none =>
    .obj [("func", .str func), ("args", .arr (encodeExprs args)), ("order_by", .null)]
  | .call func args (some keys) =>
    .obj [("func", .str func), ("args", .arr (encodeExprs args)),
      ("order_by", .arr (encodeExprs keys))]
  | .binary op l r =>
    .obj [("op", .str op.name), ("left", encodeExpr l), ("right", encodeExpr r)]
  | .desc e => .obj [("desc", encodeExpr e)]

def encodeExprs : List Expr → List Json
  | [] => []
  | e :: rest => encodeExpr e :: encodeExprs rest

end

/-- The name of the schema of a bare expression. -/
def exprModel : String := "tagged-union[ColumnExpr,LiteralExpr,CallExpr,BinaryOpExpr,DescExpr]"

def directionNames : List String := [Direction.asc.name, Direction.desc.name]

def directionOfName? (s : String) : Option Direction :=
  if s = Direction.asc.name then some .asc
  else if s = Direction.desc.name then some .desc
  else none

def direction : Json → Decoded Direction := oneOf directionOfName? (.notLiteral directionNames)

def orderKey : Json → Decoded OrderKey
  | .obj fields =>
    Decoded.app (.ok OrderKey.mk) (required fields "expr" expr)
      |>.app (optional fields "direction" .asc direction)
      |>.andThen (onlyFields ["expr", "direction"] fields)
  | _ => .fail (.notModel "OrderKey")

def encodeOrderKey (k : OrderKey) : Json :=
  .obj [("expr", encodeExpr k.expr), ("direction", .str k.direction.name)]

end WindowSql.Schema
