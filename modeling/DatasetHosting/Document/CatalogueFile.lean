import DatasetHosting.Document.Host
import DatasetHosting.Document.Json.Document
import DatasetHosting.Document.Yaml.Document

/-!
# Document/CatalogueFile — catalogues from texts and files

A catalogue file is JSON if its name says so and YAML otherwise. Its bytes must be UTF-8.
-/

namespace DatasetHosting

/-- The languages of documents. -/
inductive Language where
  | json
  | yaml
  deriving DecidableEq, Repr

/-- Why a file holds no catalogue. -/
inductive LoadError where
  /-- There is no such file, or its bytes are not UTF-8. -/
  | unreadable (path : String)
  /-- Its text is no catalogue in the language. -/
  | malformed (language : Language)
  deriving DecidableEq, Repr

/-- The wording of a load error. -/
def LoadError.message : LoadError → String
  | unreadable path => s!"failed to read host catalogue '{path}'"
  | malformed .json => "failed to parse JSON host catalogue"
  | malformed .yaml => "failed to parse YAML host catalogue"

/-- **A record in a language**, given its reader for each of them. -/
def Language.read? {α : Type} (language : Language) (text : String)
    (ofJson : Json → Option α) (ofYaml : Yaml.Value → Yaml.Bounded α) : Option α :=
  match language with
  | .json => (Json.read? text).bind ofJson
  | .yaml => Yaml.read? text ofYaml

/-- What stands behind the last dot of a file name. A dot in front is part of the name. -/
def extension? (name : String) : Option String :=
  let cs := name.toList
  let tail := cs.reverse.takeWhile (· != '.')
  let stem := cs.length - tail.length - 1
  if cs = ['.', '.'] ∨ tail.length = cs.length ∨ stem = 0 then none
  else some (String.ofList tail.reverse)

/-- The language of a file, by its name. -/
def Language.ofFileName (name : String) : Language :=
  if extension? name = some "json" then .json else .yaml

namespace Catalogue

/-- The catalogue that a text writes. -/
def ofText (language : Language) (text : String) : Except LoadError Catalogue :=
  match language.read? text ofDocument? ofDocument? with
  | some catalogue => .ok catalogue
  | none => .error (.malformed language)

/-- **The catalogue in a file**, given the file's bytes if it exists. -/
def ofFile (path : String) (bytes : Option ByteArray) : Except LoadError Catalogue :=
  match bytes.bind String.fromUTF8? with
  | some text => ofText (.ofFileName path) text
  | none => .error (.unreadable path)

end Catalogue

end DatasetHosting
