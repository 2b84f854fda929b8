import WindowSql.Schema.Expr
import WindowSql.Window

/-!
Windows, frames and bounds as documents.
-/

namespace WindowSql.Schema

def boundKind : Json → Decoded BoundKind :=
  oneOf BoundKind.ofName? (.notMember (BoundKind.all.map (·.name)))

def frameBound : Json → Decoded FrameBound
  | .obj fields =>
    Decoded.app (.ok FrameBound.mk) (required fields "kind" boundKind)
      |>.app (optional fields "offset" none (nullable integer))
      |>.andThen (onlyFields ["kind", "offset"] fields)
  | _ => .fail (.notModel "FrameBound")

def frame : Json → Decoded Frame
  | .obj fields =>
    Decoded.app (.ok Frame.mk) (required fields "start" frameBound)
      |>.app (required fields "end" frameBound)
      |>.andThen (onlyFields ["start", "end"] fields)
  | _ => .fail (.notModel "Frame")

/-- The name of the schema of a window. -/
def windowModel : String := "Clause"

def window : Json → Decoded Window
  | .obj fields =>
    Decoded.app (.ok Window.mk) (optional fields "partition_by" [] (tupleOf text))
      |>.app (optional fields "order_by" [] (tupleOf orderKey))
      |>.app (optional fields "frame" none (nullable frame))
      |>.andThen (onlyFields ["partition_by", "order_by", "frame"] fields)
  | _ => .fail (.notModel windowModel)

/-- The names of a partition, which have to be texts. -/
def partitionNames (columns : List Json) : Except Fault (List String) :=
  (Decoded.within (.field "partition_by") (Decoded.items text 0 columns)).named windowModel

def encodeBound (b : FrameBound) : Json :=
  .obj [("kind", .str b.kind.name), ("offset", Json.ofOption .int b.offset)]

def encodeFrame (f : Frame) : Json :=
  .obj [("start", encodeBound f.start), ("end", encodeBound f.stop)]

def encodeWindow (w : Window) : Json :=
  .obj [("partition_by", Json.ofStrings w.partitionBy),
    ("order_by", .arr (w.orderBy.map encodeOrderKey)),
    ("frame", Json.ofOption encodeFrame w.frame)]

end WindowSql.Schema
