import WindowSql.Expr
import WindowSql.Text.Dotted

/-!
SQL dialects: how names, constants and functions are spelled.

A name stands between quotes, and a quote inside it is doubled; a text stands between single quotes,
which are doubled inside it, and where the dialect reads a backslash as an escape so is the
backslash. A function that a dialect spells as nothing is not available in it.
-/

namespace WindowSql

structure Dialect where
  name : String
  openQuote : Char := '"'
  closeQuote : Char := '"'
  /-- The closing quote is doubled inside a name. -/
  doublesQuote : Bool := true
  /-- Functions with a spelling of their own, or with none. -/
  spellings : List (String × Option String) := []
  /-- Truth values are written as 1 and 0. -/
  numericBooleans : Bool := false
  /-- A backslash in a text is an escape. -/
  escapesBackslash : Bool := false
  deriving DecidableEq, Repr, Inhabited

/-- Writes a character of a class twice. -/
def doubled (p : Char → Bool) (cs : List Char) : List Char :=
  cs.flatMap fun c => if p c then [c, c] else [c]

/-- How an operator is written in SQL. -/
def BinaryOp.sql : BinaryOp → String
  | eq => "="
  | and => "AND"
  | or => "OR"
  | op => op.name

namespace Dialect

def quote (d : Dialect) (name : String) : String :=
  let inside := doubled (fun c => d.doublesQuote && c == d.closeQuote) name.toList
  String.ofList (d.openQuote :: inside ++ [d.closeQuote])

def textLiteral (d : Dialect) (s : String) : String :=
  let inside := doubled (fun c => c == '\'' || (d.escapesBackslash && c == '\\')) s.toList
  String.ofList ('\'' :: inside ++ ['\''])

/-- A constant as the dialect spells it, where integers may be of any length. -/
def spelling (d : Dialect) : Literal → String
  | .null => "NULL"
  | .bool b =>
    if d.numericBooleans then (if b then "1" else "0") else (if b then "TRUE" else "FALSE")
  | .int i => toString i
  | .float x => x.text
  | .str s => d.textLiteral s

def literal (l : Limits) (d : Dialect) : Literal → Except LongInteger String
  | .int i => l.text i
  | v => .ok (d.spelling v)

/-- The spelling of a function, nothing if the dialect has no such function. -/
def function? (d : Dialect) (generic : String) : Option String :=
  (d.spellings.lookup generic).getD (some generic)

/-- A column or a table; a name with a dot is quoted in two parts. -/
def reference (d : Dialect) (name : String) : String :=
  match Text.splitFirstDot? name.toList with
  | some (before, after) => d.quote (String.ofList before) ++ "." ++ d.quote (String.ofList after)
  | none => d.quote name

/-- PostgreSQL: the median has no window form. -/
def postgres : Dialect where
  name := "postgres"
  spellings :=
    [("STDDEV", some "STDDEV_SAMP"), ("VARIANCE", some "VAR_SAMP"), ("MEDIAN", none)]

/-- SQLite: truth values are integers, so the greatest and the least of them stand for "any" and
"all"; there is no deviation, variance or median. -/
def sqlite : Dialect where
  name := "sqlite"
  spellings :=
    [("BOOL_OR", some "MAX"), ("BOOL_AND", some "MIN"), ("STDDEV", none), ("VARIANCE", none),
     ("MEDIAN", none)]
  numericBooleans := true

/-- MySQL 8: names stand in backticks and a backslash in a text is an escape. -/
def mysql : Dialect where
  name := "mysql"
  openQuote := '\x60'
  closeQuote := '\x60'
  spellings :=
    [("BOOL_OR", some "MAX"), ("BOOL_AND", some "MIN"), ("STDDEV", some "STDDEV_SAMP"),
     ("VARIANCE", some "VAR_SAMP"), ("MEDIAN", none)]
  escapesBackslash := true

/-- DuckDB: every function is available. -/
def duckdb : Dialect where
  name := "duckdb"
  spellings := [("STDDEV", some "STDDEV_SAMP"), ("VARIANCE", some "VAR_SAMP")]

end Dialect

/-- The engines a profile can aim at. -/
inductive Target where
  | postgres | sqlite | mysql | duckdb
  deriving DecidableEq, Repr, Inhabited

namespace Target

def all : List Target := [postgres, sqlite, mysql, duckdb]

def dialect : Target → Dialect
  | postgres => .postgres
  | sqlite => .sqlite
  | mysql => .mysql
  | duckdb => .duckdb

def name (t : Target) : String := t.dialect.name

def ofName? (s : String) : Option Target := all.find? (·.name == s)

end Target

end WindowSql
