/-
# Failures

Why a step did not yield a value.  Each cause is a case of its own with what its wording needs;
the wording is in `Failure.message`, and the details that go with it in `Failure.details`.
-/

import Eligibility.Expression.Fault
import Eligibility.Value.Number
import Eligibility.Value.Written

namespace Eligibility

/-- What a criteria was wanted for. -/
inductive Purpose where
  | evaluation
  | batchEvaluation
  | warmUp
  deriving DecidableEq

/-- The wording of a purpose. -/
def Purpose.text : Purpose → String
  | .evaluation => "evaluation"
  | .batchEvaluation => "batch evaluation"
  | .warmUp => "cache warm-up"

/-- What is wrong with one field of a record. -/
inductive FieldFault where
  | notText
  /-- Bytes that are no UTF-8 text. -/
  | brokenText
  | notInteger
  | unreadableInteger
  | fractionalInteger
  /-- An integer in the form of a double that is too large for one. -/
  | oversizedInteger
  | notFinite
  | notNumber
  | unreadableNumber
  | notBoolean
  | unreadableBoolean
  | belowMinimum
  | aboveMaximum
  | notList
  | notRecord
  | absent
  deriving DecidableEq

/-- The code of a fault. -/
def FieldFault.code : FieldFault → String
  | notText => "string_type"
  | brokenText => "string_unicode"
  | notInteger => "int_type"
  | unreadableInteger => "int_parsing"
  | fractionalInteger => "int_from_float"
  | oversizedInteger => "int_parsing_size"
  | notFinite => "finite_number"
  | notNumber => "float_type"
  | unreadableNumber => "float_parsing"
  | notBoolean => "bool_type"
  | unreadableBoolean => "bool_parsing"
  | belowMinimum => "greater_than_equal"
  | aboveMaximum => "less_than_equal"
  | notList => "list_type"
  | notRecord => "model_type"
  | absent => "missing"

/-- A field of a record that does not hold what it should. -/
structure Misfit where
  field : String
  fault : FieldFault
  deriving DecidableEq

/-- Why the members of a map have no canonical order or form. -/
inductive CanonicalFault where
  /-- A key of a kind that canonical text has no form for. -/
  | badKey (kind : String)
  /-- Two keys that cannot be compared. -/
  | unordered (left right : String)
  /-- A date and a moment, which are not compared. -/
  | momentAgainstDate
  /-- Moments or clock times with and without an offset, which are not compared. -/
  | mixedOffsets (kind : String)
  /-- A decimal and a NaN, which have no order. -/
  | decimalAgainstNaN
  deriving DecidableEq

/-- The wording of a fault. -/
def CanonicalFault.message : CanonicalFault → String
  | badKey kind => "keys must be str, int, float, bool or None, not " ++ kind
  | unordered left right =>
    "'<' not supported between instances of '" ++ left ++ "' and '" ++ right ++ "'"
  | momentAgainstDate => "can't compare datetime.datetime to datetime.date"
  | mixedOffsets kind => "can't compare offset-naive and offset-aware " ++ kind ++ "s"
  | decimalAgainstNaN => "[<class 'decimal.InvalidOperation'>]"

/-- Why a step failed. -/
inductive Failure where
  | unknownOperator (shown : String)
  | unknownCombinator (shown : String)
  | unknownMethod (shown : String)
  | thresholdNotNumeric (given : Value)
  | duplicateThreshold (threshold : Double) (first : String) (second : Value)
  | unknownBackend (name : String)
  | unknownLevel (name : String)
  | expression (fault : Expression.Fault)
  | subjectNotMap (kind : String)
  | fieldTooLong (field : String) (limit : Int)
  | valueTooLong (field : String) (limit : Int)
  | noCriteria (purpose : Purpose)
  /-- The store has no client. -/
  | storeNotStarted
  /-- The store's client failed, while it was started or in an operation. -/
  | storeFailed (message : String) (operation : Option String)
  /-- The client failed in a way that the store does not answer for. -/
  | clientFailed (kind message : String)
  /-- A record was given fields that do not fit. -/
  | misfits (fields : List Misfit)
  /-- A record holds something that has no written form. -/
  | unwritable
  | number (fault : NumberFault)
  /-- A cluster tag that is no text. -/
  | tagNotText (kind : String)
  /-- A key is wanted for a criteria that there is none of. -/
  | keyWithoutCriteria
  | canonical (fault : CanonicalFault)

namespace Failure

/-- The wording of a failure. Records that do not fit have no wording of their own. -/
def message : Failure → String
  | unknownOperator shown => "Unknown operator: " ++ shown
  | unknownCombinator shown => shown ++ " is not a valid Combinator"
  | unknownMethod shown => shown ++ " is not a valid ScoringMethod"
  | thresholdNotNumeric _ => "Decision threshold must be numeric"
  | duplicateThreshold .. => "Duplicate decision threshold"
  | unknownBackend name => "Unknown cache backend: " ++ name
  | unknownLevel name => "module 'logging' has no attribute '" ++ name ++ "'"
  | expression fault => fault.message
  | subjectNotMap _ => "Subject must be a mapping"
  | fieldTooLong .. => "Subject field name too long"
  | valueTooLong .. => "Subject value too long"
  | noCriteria purpose => "No criteria supplied for " ++ purpose.text
  | storeNotStarted => "redis: Redis cache not started"
  | storeFailed message _ => "redis: " ++ message
  | clientFailed _ message => message
  | misfits _ => ""
  | unwritable => ""
  | number fault => fault.message
  | tagNotText kind => "'" ++ kind ++ "' object has no attribute 'strip'"
  | keyWithoutCriteria => "'NoneType' object has no attribute 'criteria_id'"
  | canonical fault => fault.message

/-- The details that go with a failure. -/
def details : Failure → List (String × Value)
  | unknownOperator shown => [("operator", .text shown)]
  | thresholdNotNumeric given => [("threshold", given)]
  | duplicateThreshold threshold first second =>
    [("threshold", .double threshold), ("labels", .list [.text first, second])]
  | unknownBackend name => [("cache_backend", .text name)]
  | subjectNotMap kind => [("type", .text kind)]
  | fieldTooLong field limit => [("field", .text field), ("max_length", .int limit)]
  | valueTooLong field limit => [("field", .text field), ("max_length", .int limit)]
  | storeFailed _ (some operation) => [("operation", .text operation)]
  | _ => []

/-- The family of a failure that callers are meant to tell apart. -/
inductive Family where
  | configuration
  | validation
  | criteriaNotFound
  | store
  | expression
  deriving DecidableEq

/-- The code of a family. -/
def Family.code : Family → String
  | configuration => "CONFIGURATION_ERROR"
  | validation => "VALIDATION_ERROR"
  | criteriaNotFound => "CRITERIA_NOT_FOUND"
  | store => "CACHE_BACKEND_ERROR"
  | expression => "EXPRESSION_ERROR"

/-- The family that a failure belongs to, when it has one. -/
def family? : Failure → Option Family
  | unknownOperator _ => some .configuration
  | thresholdNotNumeric _ => some .configuration
  | duplicateThreshold .. => some .configuration
  | unknownBackend _ => some .configuration
  | expression _ => some .expression
  | subjectNotMap _ => some .validation
  | fieldTooLong .. => some .validation
  | valueTooLong .. => some .validation
  | noCriteria _ => some .criteriaNotFound
  | storeNotStarted => some .store
  | storeFailed .. => some .store
  | _ => none

end Failure
end Eligibility
