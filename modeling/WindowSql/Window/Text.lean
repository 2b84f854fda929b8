import WindowSql.Window.Resolution

/-!
Expressions and windows as SQL.

A call is written as its function over its window. The keys of the window are expressions that may
have calls of their own, so `Setting.callText` counts down the levels of calls in calls: those of
the call, and those of the default ordering of the context. More levels than that are needed only
where the default ordering depends on itself.
-/

namespace WindowSql

/-- An expression, where `call` writes the window calls. An operand that is an operation is put in
parentheses. -/
def Expr.sql (l : Limits) (d : Dialect) (call : Call → Except Failure String) :
    Expr → Except Failure String
  | column name => .ok (d.reference name)
  | literal v => LongInteger.lift (d.literal l v)
  | .call func args orderBy => call ⟨func, args, orderBy⟩
  | binary op a b => do
    let left ← sql l d call a
    let right ← sql l d call b
    return operand a left ++ " " ++ op.sql ++ " " ++ operand b right
  | desc e => .error (.fault (.misplacedDesc .expression (.desc e)))

def OrderKey.sql (render : Expr → Except Failure String) (k : OrderKey) : Except Failure String :=
  (render k.expr).map fun text =>
    match k.direction with
    | .asc => text
    | .desc => text ++ " DESC"

def Frame.sql (l : Limits) (f : Frame) : Except LongInteger String := do
  let start ← f.start.sql l
  let stop ← f.stop.sql l
  return "ROWS BETWEEN " ++ start ++ " AND " ++ stop

/-- The clause for the frame, which is left out without frames. -/
def Window.frameClause (l : Limits) (frames : Bool) (w : Window) :
    Except LongInteger (List String) :=
  match w.frame with
  | some f => if frames then (f.sql l).map ([·]) else .ok []
  | none => .ok []

/-- What stands between the parentheses after `OVER`. -/
def Window.sql (l : Limits) (d : Dialect) (render : Expr → Except Failure String) (frames : Bool)
    (w : Window) : Except Failure String := do
  let keys ← w.orderBy.mapM (·.sql render)
  let frame ← LongInteger.lift (w.frameClause l frames)
  let partition :=
    if w.partitionBy.isEmpty then []
    else ["PARTITION BY " ++ ", ".intercalate (w.partitionBy.map d.reference)]
  let ordering := if keys.isEmpty then [] else ["ORDER BY " ++ ", ".intercalate keys]
  return " ".intercalate (partition ++ ordering ++ frame)

/-- The arguments that are written. A ranking function has none but the number of its buckets: an
argument it is ordered by moves into the window. -/
def Call.writtenArgs (c : Call) (f : WindowFunction) : List Expr :=
  if f.category = .ranking then
    if f.orderSource = .contextOnly then []
    else if (c.keyArgument? f).isSome then c.args.tail
    else c.args
  else c.args

/-- The function with its arguments, as the dialect spells it. -/
def Call.functionSql (d : Dialect) (render : Expr → Except Failure String) (c : Call)
    (f : WindowFunction) : Except Failure String := do
  match d.function? f.sqlName with
  | none => throw (.fault (.unavailableFunction c.func d.name))
  | some name =>
    let args ← (c.writtenArgs f).mapM render
    if args.isEmpty && f.starWhenEmpty then return name ++ "(*)"
    else return name ++ "(" ++ ", ".intercalate args ++ ")"

/-- A call with its window, and the text of both. -/
structure WindowColumn where
  category : Category
  window : Window
  functionSql : String
  overSql : String
  deriving Repr

def WindowColumn.sql (w : WindowColumn) : String := w.functionSql ++ " OVER (" ++ w.overSql ++ ")"

/-- The window column of a call, where `render` writes the expressions in it. -/
def Call.windowColumn (l : Limits) (d : Dialect) (render : Expr → Except Failure String)
    (context : Context) (inWindow : Bool) (f : WindowFunction) (c : Call) :
    Except Failure WindowColumn := do
  let (category, window) ← c.window f context inWindow
  let functionSql ← c.functionSql d render f
  let overSql ← window.sql l d render context.profile.frames
  return ⟨category, window, functionSql, overSql⟩

namespace Setting

/-- A call as SQL, through so many levels of calls in calls. -/
def callText (s : Setting) : (levels : Nat) → (inWindow : Bool) → Call → Except Failure String
  | 0, _, _ => .error .endlessOrdering
  | levels + 1, inWindow, c => do
    let f ← Fault.lift (s.catalog.get c.func)
    let column ← c.windowColumn s.limits s.dialect
      (Expr.sql s.limits s.dialect (s.callText levels false)) s.context inWindow f
    return column.sql

/-- An expression as SQL, with so many levels of calls besides those of the default ordering. -/
def textWithin (s : Setting) (levels : Nat) (inWindow : Bool) (e : Expr) : Except Failure String :=
  e.sql s.limits s.dialect (s.callText (levels + s.context.orderDepth) inWindow)

/-- An expression as SQL; `inWindow` says that its plain aggregates are computed over their
partition. -/
def text (s : Setting) (inWindow : Bool) (e : Expr) : Except Failure String :=
  s.textWithin e.callDepth inWindow e

/-- The window column of a call in another context; calls inside it are in that of the setting. -/
def windowColumnIn (s : Setting) (context : Context) (inWindow : Bool) (f : WindowFunction)
    (c : Call) : Except Failure WindowColumn :=
  c.windowColumn s.limits s.dialect
    (s.textWithin (c.toExpr.callDepth + context.orderDepth) false) context inWindow f

/-- The window column of a call. -/
def windowColumn (s : Setting) (inWindow : Bool) (c : Call) : Except Failure WindowColumn := do
  let f ← Fault.lift (s.catalog.get c.func)
  s.windowColumnIn s.context inWindow f c

/-- What stands between the parentheses after `OVER` for a window. -/
def overText (s : Setting) (w : Window) : Except Failure String :=
  let levels := (w.orderBy.map fun k => k.expr.callDepth).foldl max 0
  w.sql s.limits s.dialect (s.textWithin levels false) s.context.profile.frames

end Setting

end WindowSql
