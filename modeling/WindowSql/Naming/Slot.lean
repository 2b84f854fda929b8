import WindowSql.Fault.Template

/-!
What the fields of a template stand for.

A field names the stem or the counter. It may go on to a part of it, and to a part of that part: a
character of a text by an index in brackets, an attribute behind a point. An attribute may be any
object. What attributes values have, and what is written for objects, is not known here: it is
given by `Objects`.
-/

namespace WindowSql.Template

/-- A value of a field: a text, the counter, or another object, which is known by a number. -/
inductive Slot where
  | text (cs : List Char)
  | integer (i : Int)
  | object (id : Nat)
  deriving DecidableEq, Repr

/-- The attributes of integers that are integers. -/
def Slot.numberAttribute (name : List Char) : Slot → Except TemplateFault Slot
  | text _ => .error (.noAttribute .text name)
  | integer i =>
    if name = "real".toList ∨ name = "numerator".toList then .ok (integer i)
    else if name = "imag".toList then .ok (integer 0)
    else if name = "denominator".toList then .ok (integer 1)
    else .error (.noAttribute .integer name)
  | object _ => .error (.complaint "AttributeError" (String.ofList name))

/-- What is known of values: their attributes, and for objects that are no text and no integer what
stands in brackets behind them, their conversions and their texts by a format specification. -/
structure Objects where
  attributeOf : List Char → Slot → Except TemplateFault Slot := Slot.numberAttribute
  itemOf : Nat → List Char → Except TemplateFault Slot := fun _ _ => .error .notIndexed
  converted : Nat → Char → Except TemplateFault (List Char) := fun _ _ => .ok []
  formatted : Nat → List Char → Except TemplateFault (List Char) := fun _ _ => .ok []

instance : Inhabited Objects := ⟨{}⟩

/-- The values that fields stand for. -/
structure Values where
  stem : String
  counter : Int
  objects : Objects := {}

namespace Objects

def convert (o : Objects) (c : Char) (slot : Slot) : Except TemplateFault Slot :=
  if c = 's' ∨ c = 'r' ∨ c = 'a' then
    match slot with
    | .text cs =>
      let s := String.ofList cs
      let written := if c = 's' then s else if c = 'r' then Text.quoted s else Text.quotedAscii s
      .ok (.text written.toList)
    | .integer i => .ok (.text (toString i).toList)
    | .object id => (o.converted id c).map .text
  else .error (.unknownConversion c)

def format (o : Objects) (spec : List Char) : Slot → Except TemplateFault (List Char)
  | .text cs => (Text.formatText spec cs).mapError .format
  | .integer i => (Text.formatInteger spec i).mapError .format
  | .object id => o.formatted id spec

end Objects

/-! ### Parts of values -/

/-- A step from a value to one of its parts. -/
inductive Part where
  | attribute (name : List Char)
  | item (key : List Char)
  | bad (fault : TemplateFault)
  deriving DecidableEq, Repr

def beginsPart (c : Char) : Bool := c == '.' || c == '['

/-- The parts that the name of a field goes on to; `steps` bounds their number. -/
def parts : Nat → List Char → List Part
  | 0, _ => []
  | _, [] => []
  | steps + 1, c :: rest =>
    if beginsPart c then
      let ends (d : Char) := if c = '.' then beginsPart d else d == ']'
      let name := rest.takeWhile (!ends ·)
      let after := rest.dropWhile (!ends ·)
      if name.isEmpty then [.bad .emptyPart]
      else if c = '.' then .attribute name :: parts steps after
      else .item name :: parts steps (after.drop 1)
    else [.bad .textAfterIndex]

/-- The index that a text is, nothing if it is no number. -/
def index? (cs : List Char) : Except TemplateFault (Option Nat) :=
  ((Text.readCount cs).mapError .format).map fun (n, rest) => if rest.isEmpty then n else none

namespace Objects

/-- What stands in brackets behind a value. -/
def item (o : Objects) (slot : Slot) (key : List Char) : Except TemplateFault Slot := do
  let index ← index? key
  match slot, index with
  | .text _, none => throw .textKey
  | .text cs, some i =>
    match cs[i]? with
    | some c => return .text [c]
    | none => throw .pastEnd
  | .integer _, _ => throw .notIndexed
  | .object id, _ => o.itemOf id key

def part (o : Objects) (slot : Slot) : Part → Except TemplateFault Slot
  | .attribute name => o.attributeOf name slot
  | .item key => o.item slot key
  | .bad fault => .error fault

end Objects

/-- The value of a field by its name. A number, or no name at all, asks for a value by position, and
there is none. -/
def Values.slot (v : Values) (name : List Char) : Except TemplateFault Slot := do
  let first := name.takeWhile (!beginsPart ·)
  if let some index ← index? first then throw (.position index)
  if first.isEmpty then throw (.position 0)
  let value ←
    if first = "stem".toList then pure (Slot.text v.stem.toList)
    else if first = "n".toList then pure (.integer v.counter)
    else throw (.unknownName (String.ofList first))
  (parts (name.length + 1) (name.dropWhile (!beginsPart ·))).foldlM v.objects.part value

end WindowSql.Template
