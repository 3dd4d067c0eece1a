/-
# Reading settings

Settings come from the environment and from overrides, which win.  A variable of the environment
names a setting behind a fixed start, in any casing; overrides use the plain names, and those
that name no setting are kept.  All fields that do not fit are reported together, in the order
of the settings.
-/

import Eligibility.Lenient
import Eligibility.Settings.Basic

namespace Eligibility
namespace Settings

/-- The settings by name, in order. -/
def toList (s : Settings) : List (String × Value) :=
  [("log_level", .text s.logLevel), ("cache_backend", .text s.backend),
    ("redis_url", .text s.redisUrl), ("pass_threshold", .double s.passThreshold),
    ("scoring_method", .text s.scoringMethod), ("default_decision", .text s.defaultDecision),
    ("evaluation_cache_enabled", .bool s.storeResults),
    ("evaluation_cache_ttl", .int s.lifetime), ("cache_prefix", .text s.keyPrefix),
    ("batch_size", .int s.batchSize), ("batch_concurrency", .int s.batchConcurrency),
    ("validate_input", .bool s.validateInput), ("max_field_length", .int s.maxFieldLength),
    ("max_value_length", .int s.maxValueLength)] ++ s.extra

/-- The names of the settings. -/
def names : List String := (toList {}).map (·.1)

/-- What the names of variables start with, in lower case. -/
def variableStart : String := "eligibility_"

/-- The value of the last variable that names a setting. -/
def ofEnvironment? (environment : List (String × String)) (name : String) : Option String :=
  (environment.reverse.find? fun v => Text.lowerAscii v.1 == variableStart ++ name).map (·.2)

/-- What the sources give for a setting: an override, or else a variable. -/
def given? (environment : List (String × String)) (overrides : List (String × Value))
    (name : String) : Option Value :=
  match overrides.reverse.find? (·.1 == name) with
  | some (_, v) => some v
  | none => (ofEnvironment? environment name).map .text

/-- Reading fields one after another, with the misfits so far. -/
abbrev Reading := StateM (List Misfit)

/-- Read a field that has a default. -/
def field {α : Type} (given? : String → Option Value) (name : String)
    (read : Value → Except FieldFault α) (default : α) : Reading α := do
  match given? name with
  | none => return default
  | some v =>
    match read v with
    | .ok a => return a
    | .error fault =>
      modify (· ++ [⟨name, fault⟩])
      return default

/-- Read all fields. -/
def readAll (given? : String → Option Value) : Reading Settings := do
  let d : Settings := {}
  let positive := Lenient.atLeast 1 Lenient.integer
  return {
    logLevel := ← field given? "log_level" Lenient.text d.logLevel
    backend := ← field given? "cache_backend" Lenient.text d.backend
    redisUrl := ← field given? "redis_url" Lenient.text d.redisUrl
    passThreshold := ← field given? "pass_threshold" Lenient.nonnegative d.passThreshold
    scoringMethod := ← field given? "scoring_method" Lenient.text d.scoringMethod
    defaultDecision := ← field given? "default_decision" Lenient.text d.defaultDecision
    storeResults := ← field given? "evaluation_cache_enabled" Lenient.boolean d.storeResults
    lifetime := ← field given? "evaluation_cache_ttl" positive d.lifetime
    keyPrefix := ← field given? "cache_prefix" Lenient.text d.keyPrefix
    batchSize := ← field given? "batch_size" positive d.batchSize
    batchConcurrency := ← field given? "batch_concurrency" positive d.batchConcurrency
    validateInput := ← field given? "validate_input" Lenient.boolean d.validateInput
    maxFieldLength := ← field given? "max_field_length" positive d.maxFieldLength
    maxValueLength := ← field given? "max_value_length" positive d.maxValueLength }

/-- The settings that the environment and the overrides make up. -/
def ofSources (environment : List (String × String)) (overrides : List (String × Value)) :
    Except Failure Settings :=
  let (settings, misfits) := (readAll (given? environment overrides)).run []
  if misfits.isEmpty then
    .ok { settings with extra := overrides.filter fun o => !names.contains o.1 }
  else .error (.misfits misfits)

end Settings
end Eligibility
