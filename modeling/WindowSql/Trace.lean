import WindowSql.Compiled

/-!
What a compilation reports on its way, up to where it fails.

Every report is of the level `debug`. A logger shows the reports from its own level on; one without
a level shows warnings and worse. A report with an integer that is too long is not shown.
-/

namespace WindowSql

/-- A report of a compilation. -/
inductive Report where
  | started (dialect : String) (partition : List Json) (order : List String)
  | alreadySplit
  | promoted (label : String) (names : List String)
  | finished (sql : String)
  deriving Repr

def Report.message (l : Limits) : Report → Except LongInteger String
  | started dialect partition order =>
    ((Json.arr partition).display l).map fun columns =>
      "Compiling statement for " ++ dialect ++ " (partition=" ++ columns ++ ", order="
        ++ Text.quotedList order ++ ")"
  | alreadySplit => .ok "Statement already rewritten; skipping"
  | promoted label names =>
    .ok ("Promoted " ++ toString names.length ++ " window call(s) into subquery "
      ++ Text.quoted label ++ ": " ++ ", ".intercalate names)
  | finished sql => .ok ("Compiled SQL:\n" ++ sql)

/-- The level of a logger: a number, where 0 stands for the level of warnings. -/
structure LogLevel where
  value : Int
  deriving DecidableEq, Repr

namespace LogLevel

def debug : LogLevel := ⟨10⟩

def warning : LogLevel := ⟨30⟩

def effective (l : LogLevel) : LogLevel := if l.value = 0 then warning else l

/-- Whether a logger of this level shows reports of level `debug`. -/
def showsDebug (l : LogLevel) : Bool := l.effective.value ≤ debug.value

end LogLevel

namespace Setting

/-- The reports on splitting the outermost block of a statement, if it has to be split. -/
def splitReports (s : Setting) (stmt : Statement) : List Report :=
  if stmt.block.filtersOnWindow then
    match s.promotedNames stmt with
    | .ok names =>
      match describeNames s.limits names with
      | .ok texts => [.promoted s.options.subqueryLabel texts]
      | .error _ => []
    | .error _ => []
  else []

/-- The reports on moving the filters of a statement over subqueries. -/
def promoteReports (s : Setting) : Statement → List Report
  | .select b => s.splitReports (.select b)
  | .derived b inner =>
    if (Statement.derived b inner).readsPromoted then [.alreadySplit]
    else promoteReports s inner ++ match s.promote? inner with
      | .ok moved => s.splitReports (.derived b (moved.getD inner))
      | .error _ => []

/-- The reports on compiling a statement. -/
def compileReports (s : Setting) (stmt : Statement) : List Report :=
  match s.context.describeOrder s.limits with
  | .error _ => []
  | .ok order =>
    .started s.dialect.name s.context.partition order ::
      match stmt.check s.catalog with
      | .error _ => []
      | .ok _ => s.promoteReports stmt ++ match s.compile stmt with
        | .ok c => [.finished c.sql]
        | .error _ => []

end Setting

end WindowSql
