import Arbiter.Format.Request
import Arbiter.Format.Response
import Arbiter.Format.Settings
import Arbiter.Json.Writer
import Arbiter.Shape.Json
import Arbiter.Shape.Yaml
import Arbiter.Yaml.Writer

/-! Documents, requests and their parts as JSON and YAML texts.

A text is first cast into the JSON value that it stands for, field by field, which takes what is spelled in
several ways to one spelling and leaves out what is not known. -/

namespace Arbiter

/-- Reads a value from its JSON text. -/
def readJson (shape : Shape) (ofJson? : Json → Option α) (text : String) : Except Error α :=
  match (Json.read? shape text).bind ofJson? with
  | some a => .ok a
  | none => .error (.serialization "malformed JSON text")

def readYaml (shape : Shape) (ofJson? : Json → Option α) (text : String) : Except Error α :=
  match (Yaml.read? shape text).bind ofJson? with
  | some a => .ok a
  | none => .error (.yaml "malformed YAML text")

/-- Reads any value in its stored form. -/
def Json.freeOfText (text : String) : Except Error Json := readJson .value (fun j => some j.free) text

def Condition.ofJsonText (text : String) : Except Error Condition := readJson (.record .condition) ofJson? text

def Obligation.ofJsonText (text : String) : Except Error Obligation :=
  readJson (.record .obligation) ofJson? text

namespace Rule

def ofJsonText (text : String) : Except Error Rule := readJson (.record .rule) ofJson? text

/-- Reads a list of rules and empty slots, or null. -/
def slotsOfJsonText (text : String) : Except Error (Option (List (Option Rule))) :=
  readJson (.orNull (.list (.orNull (.record .rule)))) slotsOfJson? text

end Rule

namespace Node

def ofJsonText (text : String) : Except Error Node := readJson .node ofJson? text

/-- Reads a list of nodes and empty slots, or null. -/
def slotsOfJsonText (text : String) : Except Error (Option (List (Option Node))) :=
  readJson (.orNull (.list (.orNull .node))) childrenOfJson? text

end Node

namespace Document

def ofJsonText (text : String) : Except Error Document := readJson (.record .document) ofJson? text

def ofYamlText (text : String) : Except Error Document := readYaml (.record .document) ofJson? text

/-- Reads a document in the format its extension tells, or else in the one that fits. -/
def ofText (extension text : String) : Except Error Document :=
  match extension.toLower with
  | "yaml" | "yml" => ofYamlText text
  | "json" => ofJsonText text
  | _ =>
    match ofYamlText text with
    | .ok d => .ok d
    | .error _ => ofJsonText text

def toJsonText (d : Document) : String := d.toJson.pretty ""

def toYamlText (d : Document) : String := Yaml.write d.toJson

/-- Whether two documents hold the same policies, doubles compared as numbers. -/
def samePolicies (d e : Document) : Bool :=
  Json.sameItems (d.policies.map (·.toJson)) (e.policies.map (·.toJson))

/-- Whether the policies are the same once written as JSON and read again. -/
def survivesJson (d : Document) : Except Error Bool :=
  (ofJsonText d.toJsonText).map d.samePolicies

/-- Whether the policies are the same once written as YAML and read again. -/
def survivesYaml (d : Document) : Except Error Bool :=
  (ofYamlText d.toYamlText).map d.samePolicies

end Document

namespace Request

def ofJsonText (text : String) : Except Error Request := readJson (.record .request) ofJson? text

def ofYamlText (text : String) : Except Error Request := readYaml (.record .request) ofJson? text

end Request

def MissingAttribute.ofJsonText (text : String) : Except Error MissingAttribute :=
  readJson (.record .missingAttribute) ofJson? text

def Response.ofJsonText (text : String) : Except Error Response := readJson (.record .response) ofJson? text

def TelemetrySettings.ofJsonText (text : String) : Except Error TelemetrySettings :=
  readJson (.record .telemetrySettings) ofJson? text

def Settings.ofJsonText (text : String) : Except Error Settings := readJson (.record .settings) ofJson? text

end Arbiter
