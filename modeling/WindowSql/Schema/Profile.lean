import WindowSql.Dialect.Profile
import WindowSql.Schema.Scalar

/-!
Dialect profiles as documents.
-/

namespace WindowSql.Schema

def target : Json → Decoded Target := oneOf Target.ofName? (.notLiteral (Target.all.map (·.name)))

/-- The name of the schema of a profile. -/
def profileModel : String := "DialectProfile"

def profile : Json → Decoded Profile
  | .obj fields =>
    Decoded.app (.ok Profile.mk) (optional fields "target" .postgres target)
      |>.app (optional fields "frames" true truth)
      |>.app (optional fields "max_frame_offset" none (nullable integer))
      |>.andThen (onlyFields ["target", "frames", "max_frame_offset"] fields)
  | _ => .fail (.notModel profileModel)

def encodeProfile (p : Profile) : Json :=
  .obj [("target", .str p.target.name), ("frames", .bool p.frames),
    ("max_frame_offset", Json.ofOption .int p.maxFrameOffset)]

end WindowSql.Schema
