import WindowSql.Text.Format

/-!
What is wrong with a template of names.
-/

namespace WindowSql

inductive TemplateFault where
  | loneClose
  | loneOpen
  | openInName
  | conversionCut
  | colonExpected
  | openInSpec
  | fieldCut
  | unknownConversion (c : Char)
  | unknownName (name : String)
  | position (index : Nat)
  | tooDeep
  /-- A part of a value is asked for without saying which. -/
  | emptyPart
  /-- Something else than a part follows an index. -/
  | textAfterIndex
  | noAttribute (of : Text.Formatted) (name : List Char)
  /-- A text has no character at an index. -/
  | pastEnd
  /-- A character of a text is asked for by something else than an index. -/
  | textKey
  /-- A part of an integer is asked for by an index. -/
  | notIndexed
  /-- What another object says when it is asked for a part or for its text. -/
  | complaint (kind message : String)
  | format (fault : Text.FormatFault)
  deriving DecidableEq, Repr

namespace TemplateFault

def message : TemplateFault → String
  | loneClose => "Single '\x7d' encountered in format string"
  | loneOpen => "Single '\x7b' encountered in format string"
  | openInName => "unexpected '\x7b' in field name"
  | conversionCut => "end of string while looking for conversion specifier"
  | colonExpected => "expected ':' after conversion specifier"
  | openInSpec => "unmatched '\x7b' in format spec"
  | fieldCut => "expected '\x7d' before end of string"
  | unknownConversion c =>
    "Unknown conversion specifier "
      ++ (if 32 < c.toNat ∧ c.toNat < 127 then String.singleton c
        else "\\x" ++ String.ofList (Text.hex 1 c.toNat))
  | unknownName name => Text.quoted name
  | position index =>
    "Replacement index " ++ toString index ++ " out of range for positional args tuple"
  | tooDeep => "Max string recursion exceeded"
  | emptyPart => "Empty attribute in format string"
  | textAfterIndex => "Only '.' or '[' may follow ']' in format field specifier"
  | noAttribute of name =>
    "'" ++ of.name ++ "' object has no attribute '" ++ String.ofList name ++ "'"
  | pastEnd => "string index out of range"
  | textKey => "string indices must be integers, not 'str'"
  | notIndexed => "'int' object is not subscriptable"
  | complaint _ message => message
  | format fault => fault.message

end TemplateFault

end WindowSql
