import WindowSql.Fault.Config
import WindowSql.Naming.Template

/-!
How a compilation names what it adds: the label of the subquery that a filter is moved over, and the
template of the names of its window columns.
-/

namespace WindowSql

/-- Whether a text has a part. -/
def hasPart (part : List Char) : List Char → Bool
  | [] => part.isEmpty
  | c :: rest => part.isPrefixOf (c :: rest) || hasPart part rest

/-- The field that a template has to have, as it has to be written. -/
def counterField : List Char := ['\x7b', 'n', '\x7d']

structure Options where
  subqueryLabel : String := "tmp"
  template : String := "\x7bstem\x7d_\x7bn\x7d"
  label_nonempty : subqueryLabel.isEmpty = false := by decide
  template_counts : hasPart counterField template.toList = true := by decide
  deriving DecidableEq, Repr

namespace Options

instance : Inhabited Options := ⟨{}⟩

def make (subqueryLabel template : String) : Except ConfigFault Options :=
  if label : subqueryLabel.isEmpty = false then
    if counts : hasPart counterField template.toList = true then
      .ok ⟨subqueryLabel, template, label, counts⟩
    else .error (.aliasWithoutCounter template)
  else .error .emptySubqueryAlias

/-- The name of a window column by its stem and its counter. -/
def columnName (o : Options) (objects : Template.Objects) (stem : String) (counter : Int) :
    Except TemplateFault String :=
  renderTemplate objects o.template stem counter

end Options

end WindowSql
