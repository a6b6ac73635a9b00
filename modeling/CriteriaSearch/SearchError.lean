import CriteriaSearch.Field

namespace CriteriaSearch

inductive SearchError where
  | notRegistered (entity : String)
  | fieldNotFound (entity field : String)
  | blankKey
  | missingFieldType (key : String)
  | noOperators (key : String)
  | missingValue (key : String) (operator : Operator)
  | missingUpperBound (key : String)
  | invalidPageSize (size : Nat)
  | unknownName (kind value : String)
  | invalidDate (value : String)
  | invalidNumber (value : String)
  | unsupported (value : String) (fieldType : FieldType)
  | connectionFailed (backend text : String)
  | queryError (backend text : String)
  | mapping (backend text : String)
  | internal (backend text : String)
  deriving DecidableEq, Repr

namespace SearchError

/-- The name of a cause, by which errors are told apart without their texts. -/
def kind : SearchError → String
  | .notRegistered .. => "NotRegistered"
  | .fieldNotFound .. => "FieldNotFound"
  | .blankKey => "BlankKey"
  | .missingFieldType .. => "MissingFieldType"
  | .noOperators .. => "NoOperators"
  | .missingValue .. => "MissingValue"
  | .missingUpperBound .. => "MissingUpperBound"
  | .invalidPageSize .. => "InvalidPageSize"
  | .unknownName .. => "UnknownName"
  | .invalidDate .. => "InvalidDate"
  | .invalidNumber .. => "InvalidNumber"
  | .unsupported .. => "Unsupported"
  | .connectionFailed .. => "ConnectionFailed"
  | .queryError .. => "QueryError"
  | .mapping .. => "Mapping"
  | .internal .. => "Internal"

def message : SearchError → String
  | .notRegistered entity => "entity not registered: " ++ entity
  | .fieldNotFound entity field => "field not found: " ++ entity ++ "." ++ field
  | .blankKey => "filter key must not be blank"
  | .missingFieldType key => "field type is required for filter '" ++ key ++ "'"
  | .noOperators key => "filter '" ++ key ++ "' must declare at least one operator"
  | .missingValue key op =>
    "filter '" ++ key ++ "' with operator " ++ op.name ++ " requires a value"
  | .missingUpperBound key =>
    "filter '" ++ key ++ "' with operator BETWEEN requires value_to"
  | .invalidPageSize size => "page size must be positive, got " ++ toString size
  | .unknownName kind value => "unknown " ++ kind ++ ": '" ++ value ++ "'"
  | .invalidDate value => "cannot parse '" ++ value ++ "' as a date"
  | .invalidNumber value => "cannot parse '" ++ value ++ "' as a number"
  | .unsupported value fieldType =>
    "value '" ++ value ++ "' is not valid for field type " ++ fieldType.name
  | .connectionFailed backend text => "connection failed to " ++ backend ++ ": " ++ text
  | .queryError backend text => "query error in " ++ backend ++ ": " ++ text
  | .mapping backend text => "result mapping failed in " ++ backend ++ ": " ++ text
  | .internal backend text => "internal error in " ++ backend ++ ": " ++ text

end SearchError

end CriteriaSearch
