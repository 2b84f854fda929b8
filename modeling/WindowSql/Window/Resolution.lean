import WindowSql.Setting
import WindowSql.Schema.Window

/-!
The window of a call: its partition, its ordering and its frame.

The ordering comes from the first of these that gives a key: the first argument, for a function that
is ordered by it; the call; the context; any argument of a ranking function that is ordered by the
context. The category of the function decides the frame. The partition is that of the context.
-/

namespace WindowSql

namespace Call

/-- The first argument of a function that is ordered by it, unless it is a literal. -/
def keyArgument? (c : Call) (f : WindowFunction) : Option Expr :=
  if f.orderSource = .firstArgument then c.args.head?.filter (!·.isLiteral) else none

/-- The argument that a ranking function falls back on. -/
def lastResort? (c : Call) (f : WindowFunction) : Option Expr :=
  if f.category = .ranking ∧ f.orderSource = .contextOnly then c.args.find? (!·.isLiteral) else none

/-- The keys that the rows of the window are ordered by. -/
def ordering (c : Call) (f : WindowFunction) (context : Context) : List OrderKey :=
  match c.keyArgument? f, c.keys, context.defaultOrder with
  | some e, _, _ => [e.orderKey]
  | none, k :: ks, _ => (k :: ks).map (·.orderKey)
  | none, [], some k => [k]
  | none, [], none => (c.lastResort? f).toList.map (·.orderKey)

/-- A plain aggregate is computed over its partition where there is a window: in a filter, in a
partition, or with an ordering of its own. -/
def category (c : Call) (f : WindowFunction) (context : Context) (inWindow : Bool) :
    Except Fault Category :=
  if f.category ≠ .plain then .ok f.category
  else if inWindow || !context.partition.isEmpty || !c.keys.isEmpty then .ok .recycled
  else .error (.noWindow c)

end Call

/-- The frame of a rolling aggregate: as many rows before the current one as after it. -/
def WindowFunction.rollingFrame (f : WindowFunction) (profile : Profile) :
    Except FrameRefusal Frame :=
  match f.preceding, f.following with
  | some before, some after =>
    if before ≠ after then .error (.asymmetric before after)
    else if before < 0 then .error (.negative before)
    else match profile.maxFrameOffset with
      | some limit =>
        if limit < before then .error (.tooWide before limit profile.target)
        else .ok (.around before after)
      | none => .ok (.around before after)
  | _, _ => .error .noWidth

/-- The frame of a category, none for rankings and offsets. -/
def WindowFunction.frameOf (f : WindowFunction) (category : Category) (profile : Profile) :
    Except FrameRefusal (Option Frame) :=
  match category with
  | .ranking | .offset => .ok none
  | .cumulative => .ok (some .running)
  | .rolling => (f.rollingFrame profile).map some
  | .recycled | .plain => .ok (some .partition)

/-- A frame can be written where the profile has frames; the whole partition is also the frame of an
aggregate that is written without one and has no ordering. -/
def frameFits (category : Category) (profile : Profile) (ordered : Bool) : Bool :=
  profile.frames || (category = .recycled && !ordered)

namespace Call

/-- The frame of a call, where it can be written. -/
def frame (c : Call) (f : WindowFunction) (category : Category) (profile : Profile)
    (ordered : Bool) : Except Fault (Option Frame) :=
  match f.frameOf category profile with
  | .error refusal => .error (.frame c.func refusal)
  | .ok none => .ok none
  | .ok (some frame) =>
    if frameFits category profile ordered then .ok (some frame)
    else .error (.frame c.func (.disabled profile.target))

/-- The ordering of the window. Without frames an ordering would turn an aggregate over its
partition into a running one, so only an ordering of its own is kept. -/
def windowOrdering (c : Call) (f : WindowFunction) (context : Context) (category : Category) :
    List OrderKey :=
  if category = .recycled ∧ !context.profile.frames ∧ c.keys.isEmpty then []
  else c.ordering f context

/-- The category and the window of a call. -/
def window (c : Call) (f : WindowFunction) (context : Context) (inWindow : Bool) :
    Except Failure (Category × Window) := do
  let category ← Fault.lift (c.category f context inWindow)
  let keys := c.windowOrdering f context category
  if keys.isEmpty ∧ f.requiresOrder then throw (.fault (.missingOrder c))
  let frame ← Fault.lift (c.frame f category context.profile !keys.isEmpty)
  let partition ← (Schema.partitionNames context.partition).mapError .window
  return (category, ⟨partition, keys, frame⟩)

end Call

end WindowSql
