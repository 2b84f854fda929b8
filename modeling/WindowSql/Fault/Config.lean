import WindowSql.Expr
import WindowSql.Json

/-!
What is wrong with a configuration: a profile, a context, compile options or a select handle. Each
cause has a message, the settings it is about, and the reason of the rule.
-/

namespace WindowSql

inductive ConfigFault where
  | emptySubqueryAlias
  | aliasWithoutCounter (template : String)
  | negativeFrameLimit (limit : Int)
  | limitWithoutFrames
  | severalOrderKeys (keys : List OrderKey)
  | notAnOrderKey (spec : Json)
  /-- An element of `clause` that is no named column. -/
  | unnamedColumn (clause : String)
  | sourceCount (count : Nat)
  | unsupportedSource (kind : String)
  deriving Repr

namespace ConfigFault

def message (l : Limits) : ConfigFault → Except LongInteger String
  | emptySubqueryAlias => .ok "subquery_alias must be a non-empty identifier."
  | aliasWithoutCounter template =>
    .ok ("alias_template " ++ Text.quoted template ++ " must contain '\x7bn\x7d'.")
  | negativeFrameLimit limit =>
    (l.text limit).map fun rows => "max_frame_offset must be >= 0, got " ++ rows ++ "."
  | limitWithoutFrames =>
    .ok "max_frame_offset() cannot be combined with without_frames(). Remove one of the two calls."
  | severalOrderKeys keys =>
    (keys.mapM (OrderKey.describe l)).map fun texts =>
      "Default ordering supports a single column, got " ++ toString texts.length ++ ": "
        ++ Text.quotedList texts ++ "."
  | notAnOrderKey spec =>
    (spec.display l).map fun text => "Cannot interpret " ++ text ++ " as an ordering key."
  | unnamedColumn clause =>
    .ok ("Cannot use <element> in " ++ clause ++ ": only named columns are supported.")
  | sourceCount count => .ok ("Expected a single FROM entry, found " ++ toString count ++ ".")
  | unsupportedSource kind => .ok ("Unsupported FROM entry: " ++ kind ++ ".")

/-- The settings that have to be added or changed. -/
def missing : ConfigFault → List String
  | emptySubqueryAlias => ["subquery_alias"]
  | aliasWithoutCounter _ => ["alias_template"]
  | negativeFrameLimit _ => ["max_frame_offset"]
  | limitWithoutFrames => ["frames"]
  | severalOrderKeys _ | notAnOrderKey _ => ["default_order"]
  | unnamedColumn clause => [clause]
  | sourceCount _ | unsupportedSource _ => ["from"]

/-- Why the rule exists. -/
def reason : ConfigFault → String
  | emptySubqueryAlias => "Every derived table needs an alias in MySQL and PostgreSQL."
  | aliasWithoutCounter _ =>
    "Without a counter, two calls sharing a stem would get the same alias."
  | negativeFrameLimit _ => "Frame offsets are row counts."
  | limitWithoutFrames => "An offset cap only applies to profiles that support frames."
  | severalOrderKeys _ =>
    "Multi-variable default ordering is not supported; pass "
      ++ "an explicit order_by on the call instead."
  | notAnOrderKey _ => "Use a column name, a (column, direction) pair, or an OrderKey."
  | unnamedColumn _ => "Window partitions and default orderings are column names."
  | sourceCount _ => "A window statement reads from exactly one relation."
  | unsupportedSource _ => "Only tables and aliased tables can be converted."

end ConfigFault

end WindowSql
