/-!
# Text/Slash — paths as pieces between slashes

Locations and home paths are texts cut at `/`. Nothing here resolves `.` or `..`, and a run of slashes
inside a path is kept.
-/

namespace DatasetHosting.Text

/-- The text less its leading slashes. -/
def dropSlashes (cs : List Char) : List Char :=
  cs.dropWhile (· == '/')

/-- The text less its trailing slashes. -/
def dropEndSlashes (cs : List Char) : List Char :=
  (dropSlashes cs.reverse).reverse

/-- The text less its slashes at both ends. -/
def trimSlashes (cs : List Char) : List Char :=
  dropEndSlashes (dropSlashes cs)

/-- What follows the last slash, the whole text if there is none. -/
def lastPiece (cs : List Char) : List Char :=
  (cs.reverse.takeWhile (· != '/')).reverse

/-- `directory`, exactly one slash, and `path`: trailing slashes of the directory are dropped. -/
def underDirectory (directory path : String) : String :=
  String.ofList (dropEndSlashes directory.toList ++ '/' :: path.toList)

end DatasetHosting.Text
