import Arbiter.Attribute
import Arbiter.Combining.Algorithm
import Arbiter.Condition.Basic
import Arbiter.Decision
import Arbiter.Status

namespace Arbiter

/-- The kinds of records, each with its fields in order. -/
inductive RecordKind where
  | designator
  | condition
  | assignment
  | obligation
  | rule
  | policy
  | policySet
  | reference
  | document
  | requestAttribute
  | request
  | missingAttribute
  | response
  | engineSettings
  | cacheSettings
  | telemetrySettings
  | settings
  deriving DecidableEq, Repr

inductive Shape where
  /-- Any value. Which ones can be read there is told by the reader of the record. -/
  | value
  | text
  /-- One of these words, which may also stand as the one key of an object. -/
  | word (names : List String)
  | list (item : Shape)
  | record (kind : RecordKind)
  /-- A record that tells its kind in a field of that name. -/
  | node
  | orNull (s : Shape)

namespace Shape

/-- What is expected if it is not null. -/
def core : Shape → Shape
  | orNull s => s.core
  | s => s

def isNullable : Shape → Bool
  | orNull _ => true
  | _ => false

def category : Shape := word (Category.all.map (·.name))

def effect : Shape := word ([Effect.permit, .deny].map (·.name))

def decision : Shape := word (Decision.all.map (·.name))

def status : Shape := word (StatusCode.all.map (·.urn))

def ruleAlgorithm : Shape := word (RuleAlgorithm.all.map (·.urn))

def policyAlgorithm : Shape := word (PolicyAlgorithm.all.map (·.urn))

/-- The words for operators, the one of a negation beside its opposite. -/
def operator : Shape :=
  word [
    "equals", "not_equals", "greater_than", "greater_than_or_equals", "less_than", "less_than_or_equals",
    "in", "not_in", "contains", "starts_with", "ends_with", "matches", "exists", "not_exists", "and", "or",
    "not"]

end Shape

namespace RecordKind

def fields : RecordKind → List (String × Shape)
  | designator => [
    ("category", .category), ("attributeId", .text), ("dataType", .text), ("issuer", .orNull .text),
    ("mustBePresent", .value)]
  | condition => [
    ("operator", .operator), ("attribute", .orNull (.record designator)), ("value", .orNull .value),
    ("conditions", .list (.record condition))]
  | assignment => [("attributeId", .text), ("value", .value)]
  | obligation => [
    ("id", .text), ("fulfillOn", .effect), ("assignments", .list (.record assignment))]
  | rule => [
    ("id", .text), ("description", .orNull .text), ("effect", .effect),
    ("target", .orNull (.record condition)), ("condition", .orNull (.record condition)),
    ("obligations", .list (.record obligation))]
  | policy => [
    ("id", .text), ("description", .orNull .text), ("version", .text),
    ("target", .orNull (.record condition)), ("combiningAlgorithm", .orNull .ruleAlgorithm),
    ("rules", .orNull (.list (.orNull (.record rule)))), ("obligations", .list (.record obligation)),
    ("enabled", .value), ("priority", .value)]
  | policySet => [
    ("id", .text), ("description", .orNull .text), ("target", .orNull (.record condition)),
    ("combiningAlgorithm", .orNull .policyAlgorithm), ("children", .orNull (.list (.orNull .node))),
    ("obligations", .list (.record obligation)), ("enabled", .value), ("priority", .value)]
  | reference => [("id", .text)]
  | document => [("apiVersion", .text), ("kind", .text), ("policies", .list .node)]
  | requestAttribute => [
    ("category", .category), ("attributeId", .text), ("dataType", .text), ("issuer", .orNull .text),
    ("values", .list .value)]
  | request => [("id", .text), ("attributes", .list (.record requestAttribute))]
  | missingAttribute => [
    ("category", .category), ("attributeId", .text), ("dataType", .text), ("issuer", .orNull .text)]
  | response => [
    ("requestId", .text), ("decision", .decision), ("statusCode", .status), ("statusCodes", .list .status),
    ("missingAttributes", .list (.record missingAttribute)), ("obligations", .list (.record obligation)),
    ("evaluationTimeMs", .value), ("cached", .value)]
  | engineSettings => [
    ("respect_abandoned_evaluatables", .value), ("root_combining_algorithm", .policyAlgorithm),
    ("max_reference_depth", .value)]
  | cacheSettings => [("enabled", .value), ("l1_max_entries", .value), ("l1_ttl_secs", .value)]
  | telemetrySettings => [
    ("enabled", .value), ("service_name", .text), ("log_level", .text), ("json_logs", .value)]
  | settings => [
    ("engine", .record engineSettings), ("cache", .record cacheSettings),
    ("telemetry", .record telemetrySettings)]

/-- The field of that name. Other names are passed over. -/
def field? (k : RecordKind) (name : String) : Option Shape := (k.fields.find? (·.1 = name)).map (·.2)

/-- The kinds of nodes by the words for them, in order. -/
def nodes : List (String × RecordKind) :=
  [("policy", policy), ("policySet", policySet), ("reference", reference)]

end RecordKind

end Arbiter
