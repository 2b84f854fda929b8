import WindowSql.Naming.Slot

/-!
Templates of generated names.

A template is text with fields in braces: `{stem}` stands for the stem of a name, `{n}` for its
counter, and a doubled brace for a brace. A field may name a conversion after `!` and a format
specification after `:`, in which fields may stand again, once. A template is read from left to
right and the first thing wrong ends it.
-/

namespace WindowSql

namespace Template

/-- A field as it is written. -/
structure Field where
  name : List Char
  conversion : Option Char
  spec : List Char
  /-- The specification has fields of its own. -/
  nested : Bool
  deriving DecidableEq, Repr

inductive Segment where
  | char (c : Char)
  | field (f : Field)
  | bad (fault : TemplateFault)
  deriving DecidableEq, Repr

/-- What ends the name of a field, what stands before it, and what follows. -/
structure NameEnd where
  name : List Char
  ending : Option Char
  rest : List Char

/-- Reads the name of a field; between brackets anything may stand. -/
def readName (bracketed : Bool) : List Char → Except TemplateFault NameEnd
  | [] => .ok ⟨[], none, []⟩
  | c :: rest =>
    if bracketed then (readName (c != ']') rest).map fun e => { e with name := c :: e.name }
    else if c = '\x7b' then .error .openInName
    else if c = '\x7d' ∨ c = ':' ∨ c = '!' then .ok ⟨[], some c, rest⟩
    else (readName (c == '[') rest).map fun e => { e with name := c :: e.name }

/-- A format specification up to the brace that closes its field; `depth` counts open braces. -/
def readSpec (depth : Nat) : List Char → Option (List Char × List Char)
  | [] => none
  | c :: rest =>
    if c = '\x7d' then
      match depth with
      | 0 => some ([], rest)
      | d + 1 => (readSpec d rest).map fun (spec, after) => (c :: spec, after)
    else (readSpec (if c = '\x7b' then depth + 1 else depth) rest).map
      fun (spec, after) => (c :: spec, after)

def withSpec (name : List Char) (conversion : Option Char) (cs : List Char) :
    Except TemplateFault (Field × List Char) :=
  match readSpec 0 cs with
  | some (spec, rest) => .ok (⟨name, conversion, spec, spec.contains '\x7b'⟩, rest)
  | none => .error .openInSpec

/-- A field after its opening brace, and what follows it. -/
def readField (cs : List Char) : Except TemplateFault (Field × List Char) := do
  let e ← readName false cs
  match e.ending with
  | none => throw .fieldCut
  | some '!' =>
    match e.rest with
    | [] => throw .conversionCut
    | [c] => withSpec e.name (some c) []
    | c :: '\x7d' :: rest => return (⟨e.name, some c, [], false⟩, rest)
    | c :: ':' :: rest => withSpec e.name (some c) rest
    | _ => throw .colonExpected
  | some ':' => withSpec e.name none e.rest
  | some _ => return (⟨e.name, none, [], false⟩, e.rest)

/-- The segments of a template; `steps` bounds their number. -/
def segments : Nat → List Char → List Segment
  | 0, _ => []
  | _, [] => []
  | steps + 1, c :: rest =>
    if c = '\x7b' then
      match rest with
      | [] => [.bad .loneOpen]
      | d :: after =>
        if d = '\x7b' then .char c :: segments steps after
        else match readField rest with
          | .ok (f, after) => .field f :: segments steps after
          | .error fault => [.bad fault]
    else if c = '\x7d' then
      match rest with
      | d :: after => if d = '\x7d' then .char c :: segments steps after else [.bad .loneClose]
      | [] => [.bad .loneClose]
    else .char c :: segments steps rest

/-- The text of a field, where `write` writes the specification that has fields of its own. -/
def Field.text (v : Values) (write : List Char → Except TemplateFault (List Char)) (f : Field) :
    Except TemplateFault (List Char) := do
  let slot ← v.slot f.name
  let slot ← match f.conversion with
    | some c => v.objects.convert c slot
    | none => pure slot
  let spec ← if f.nested then write f.spec else pure f.spec
  v.objects.format spec slot

def Segment.text (v : Values) (write : List Char → Except TemplateFault (List Char)) :
    Segment → Except TemplateFault (List Char)
  | char c => .ok [c]
  | field f => f.text v write
  | bad fault => .error fault

/-- Writes the segments of a template; `depth` says how far specifications may be nested. -/
def write (v : Values) : Nat → List Char → Except TemplateFault (List Char)
  | 0, _ => .error .tooDeep
  | depth + 1, cs =>
    ((segments (cs.length + 1) cs).mapM (Segment.text v (write v depth))).map List.flatten

end Template

/-- The name that a template makes of a stem and a counter. -/
def renderTemplate (objects : Template.Objects) (template stem : String) (counter : Int) :
    Except TemplateFault String :=
  (Template.write ⟨stem, counter, objects⟩ 2 template.toList).map String.ofList

end WindowSql
