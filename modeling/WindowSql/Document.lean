import WindowSql.Compiled
import WindowSql.Json.Reader
import WindowSql.Schema.Statement

/-!
Compiling statements that are given as documents, or as the text of one.
-/

namespace WindowSql

/-- Why a document is not compiled. -/
inductive CompileError where
  | unreadable (text : String) (error : Json.ReadError)
  /-- The document, and the text it was read from, if any, is no statement. -/
  | noStatement (text : Option String) (fault : Schema.Fault)
  | failure (f : Failure)
  deriving Repr

/-- The message on a document or a text that is no statement. -/
def notJsonMessage (text : String) (error : Json.ReadError) : String :=
  "Invalid JSON: " ++ error.message text

def noStatementMessage (fault : Schema.Fault) : String :=
  "Statement does not match schema: " ++ fault.message

namespace Setting

/-- Compiles the statement of a document, which may have been read from a text. -/
def compileRead (s : Setting) (text : Option String) (document : Json) :
    Except CompileError Compiled :=
  match (Schema.statement document).named Schema.statementModel with
  | .error fault => .error (.noStatement text fault)
  | .ok stmt => (s.compile stmt).mapError .failure

def compileDocument (s : Setting) (document : Json) : Except CompileError Compiled :=
  s.compileRead none document

def compileText (s : Setting) (text : String) : Except CompileError Compiled :=
  match Json.read s.limits text with
  | .error error => .error (.unreadable text error)
  | .ok document => s.compileRead (some text) document

end Setting

end WindowSql
