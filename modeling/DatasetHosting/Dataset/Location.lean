import DatasetHosting.Text.Lowercase
import DatasetHosting.Text.Slash

/-!
# Dataset/Location — where a dataset is stored

A location is a URI in a region of the cloud. Its URI is a path for `resolve`, which goes one step down,
and `lastSegment?`, which names the place.
-/

namespace DatasetHosting

open DatasetHosting.Text

/-- A region, under the name of its constant: `EU_WEST_1`. -/
structure Region where
  /-- The constant's name. -/
  name : String
  deriving DecidableEq, Repr, Inhabited

/-- The region's name in requests: lower case, with hyphens for underscores. -/
def Region.apiName (region : Region) : String :=
  String.ofList ((lowercase region.name).toList.map fun c => if c = '_' then '-' else c)

/-- A place in the cloud's storage. -/
structure Location where
  /-- The address of the place. -/
  uri : String
  /-- The region that holds it. -/
  region : Region
  deriving DecidableEq, Repr, Inhabited

namespace Location

/-- **One step down**: the URI and the segment with exactly one slash between them. -/
def resolve (location : Location) (segment : String) : Location :=
  { location with
    uri := underDirectory location.uri (String.ofList (dropSlashes segment.toList)) }

/-- The last piece of the URI that is not empty, where slashes at the end do not count. -/
def lastSegment? (location : Location) : Option String :=
  match lastPiece (dropEndSlashes location.uri.toList) with
  | [] => none
  | piece => some (String.ofList piece)

end Location

end DatasetHosting
