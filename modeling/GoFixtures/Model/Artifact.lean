import GoFixtures.Json.Printer
import GoFixtures.Json.Reader
import GoFixtures.Library.Libraries
import GoFixtures.Model.Data
import GoFixtures.Yaml.Shown

/-!
# Artifacts

An artifact is a compact JSON document with one model and the version of the format. `TypeModel.serialize`
writes it, `TypeModel.deserialize` reads it; the model itself is written and checked by the libraries.
-/

namespace GoFixtures

/-- The version of the format. -/
def artifactVersion : String := "1"

variable [Libraries]

namespace TypeModel

/-- The artifact of a model. -/
def serialize (m : TypeModel) : String :=
  Json.toText (.object [("v", .string artifactVersion), ("model", Libraries.dump m.toDatum)])

end TypeModel

/-- Why a text is no artifact. An artifact with `surrogates` holds a model, in which there are strings that
are no texts; nothing more is said about such models. -/
inductive ArtifactError
  | notJson (error : Json.ReadError)
  | notObject
  | unsupportedVersion (shown : String)
  | invalid (report : Libraries.Report)
  | surrogates

namespace ArtifactError

/-- The error in words. -/
def message : ArtifactError → String
  | notJson (.oversized digits) => (Json.ReadError.oversized digits).message
  | notJson e => "Artifact is not valid JSON: " ++ e.message
  | notObject => "Artifact must be a JSON object"
  | unsupportedVersion shown => "Unsupported artifact format version: " ++ shown
  | invalid report => "Invalid model artifact: " ++ Libraries.reportText report
  | surrogates => "surrogates in a model"

end ArtifactError

namespace TypeModel

/-- The model that data are. -/
def ofData (d : Libraries.Data) : Except ArtifactError TypeModel :=
  match Libraries.validate (.object .typeModel) d with
  | .error report => .error (.invalid report)
  | .ok item =>
    match ofDatum? item with
    | some m => .ok m
    | none => .error .surrogates

/-- The model that an artifact holds. -/
def deserialize (text : String) : Except ArtifactError TypeModel :=
  match Json.parse text with
  | .error e => .error (.notJson e)
  | .ok j =>
    if j.isObject then
      let version := (j.member? "v").getD .null
      match version with
      | .string v =>
        if v = artifactVersion then ofData (Libraries.ofJson ((j.member? "model").getD (.object [])))
        else .error (.unsupportedVersion (Yaml.Value.ofJson version).shown)
      | _ => .error (.unsupportedVersion (Yaml.Value.ofJson version).shown)
    else .error .notObject

end TypeModel

end GoFixtures
