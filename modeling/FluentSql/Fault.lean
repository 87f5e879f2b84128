import FluentSql.Refusal
import FluentSql.Text.Quoted
import FluentSql.Value

/-!
# Faults

Everything that can go wrong, by cause. `Fault.message` is the wording of each cause.

Builders refuse statements with a `Refusal`. A session reports failures of its driver by the step
that failed, with the driver's own fault as the cause. A fault that a driver raises is
`Fault.raised`; a cancellation is the one kind that no session handles.
-/

namespace FluentSql

/-- The wording of a display fault. -/
def DisplayFault.message : DisplayFault → String
  | .tableName position typeName =>
    "sequence item " ++ toString position ++ ": expected str instance, " ++ typeName ++ " found"
  | .conditionCount typeName => "object of type '" ++ typeName ++ "' has no len()"
  | .tooManyDigits =>
    "Exceeds the limit (4300 digits) for integer string conversion; "
      ++ "use sys.set_int_max_str_digits() to increase the limit"
  | .endless => "maximum recursion depth exceeded"

/-- Why a value is no number of the kind asked for. -/
inductive NumberFault where
  /-- The text, in its quoted form, is no integer. -/
  | malformedInteger (shown : String)
  /-- The text has more digits than an integer may be read from. -/
  | tooManyDigits (digits : Nat)
  /-- The text, in its quoted form, is no decimal number. -/
  | malformedDecimal (shown : String)
  /-- A value of a type that is no integer and can be read as none. -/
  | notInteger (typeName : String)
  /-- A value of a type that is no decimal number and can be read as none. -/
  | notDecimal (typeName : String)
  | nanInteger
  | infiniteInteger
  /-- An integer beyond the largest decimal number. -/
  | hugeDecimal
deriving DecidableEq

/-- The wording of a number fault. At most 200 characters of a malformed integer are shown. -/
def NumberFault.message : NumberFault → String
  | .malformedInteger shown =>
    "invalid literal for int() with base 10: " ++ String.ofList (shown.toList.take 200)
  | .tooManyDigits digits =>
    "Exceeds the limit (4300 digits) for integer string conversion: value has " ++ toString digits
      ++ " digits; use sys.set_int_max_str_digits() to increase the limit"
  | .malformedDecimal shown => "could not convert string to float: " ++ shown
  | .notInteger typeName =>
    "int() argument must be a string, a bytes-like object or a real number, not '" ++ typeName
      ++ "'"
  | .notDecimal typeName =>
    "float() argument must be a string or a real number, not '" ++ typeName ++ "'"
  | .nanInteger => "cannot convert float NaN to integer"
  | .infiniteInteger => "cannot convert float infinity to integer"
  | .hugeDecimal => "int too large to convert to float"

/-- What is wrong with a connection URL. -/
inductive UrlFault where
  /-- Neither a path nor a scheme. -/
  | noScheme (url : String)
  | unbalancedBrackets
  /-- A bracketed host that is no IPv6 address. -/
  | badAddress (shown : String)
  /-- A bracketed host that starts with `v` and is no future address. -/
  | badFutureAddress
  /-- A bracketed host that is an IPv4 address. -/
  | bracketedIPv4
  /-- A network location with a character that normalises to a delimiter. -/
  | hiddenDelimiter (location : String)
  | portOutOfRange
  | malformedPort (shown : String)
deriving DecidableEq

/-- The wording of a URL fault. -/
def UrlFault.message : UrlFault → String
  | .noScheme url =>
    "Invalid connection string: '" ++ url
      ++ "'. Expected 'type:connection_info' or path (absolute or relative)."
  | .unbalancedBrackets => "Invalid IPv6 URL"
  | .badAddress shown => shown ++ " does not appear to be an IPv4 or IPv6 address"
  | .badFutureAddress => "IPvFuture address is invalid"
  | .bracketedIPv4 => "An IPv4 address cannot be in brackets"
  | .hiddenDelimiter location =>
    "netloc '" ++ location ++ "' contains invalid characters under NFKC normalization"
  | .portOutOfRange => "Port out of range 0-65535"
  | .malformedPort shown => "Port could not be cast to integer value as " ++ shown

/-- What is wrong with an INI file. -/
inductive IniFault where
  | missingHeader
  | malformedLine
  | duplicateSection
  | duplicateOption
  | interpolationSyntax
  | interpolationMissing
  | interpolationDepth
deriving DecidableEq

/-- The wording of an INI fault. -/
def IniFault.message : IniFault → String
  | .missingHeader => "an option stands before the first section"
  | .malformedLine => "a line is no option"
  | .duplicateSection => "a section comes twice"
  | .duplicateOption => "an option comes twice"
  | .interpolationSyntax => "a percent sign begins no reference"
  | .interpolationMissing => "a reference names no option"
  | .interpolationDepth => "references lead too deep"

/-- The kinds of fault that a driver raises. -/
inductive RaisedKind where
  | os | runtime | value | timeout | key | package | attribute | type
  /-- The MySQL driver's base error, and its operational error. -/
  | mysql | mysqlOperational
  /-- The library's own kinds, raised by a driver. -/
  | connection | driver | validation
  /-- The operation was cancelled from outside. -/
  | cancelled
deriving DecidableEq

/-- Everything that can go wrong. -/
inductive Fault where
  | refused (refusal : Refusal)
  | display (fault : DisplayFault)
  | number (fault : NumberFault)
  | url (fault : UrlFault)
  | ini (fault : IniFault)
  | unknownDialect (name : String)
  | unknownJoin (name : String)
  /-- A condition list with something else than a condition, in its quoted form. -/
  | unknownNode (shown : String)
  /-- A value of a type that the operation does not take. -/
  | wrongType
  /-- A value, of the given type, that holds no items. -/
  | notCollection (typeName : String)
  /-- A key with a part, of the given type, that can change. -/
  | noKey (typeName : String)
  /-- A value without the member that the operation needs. -/
  | missingMember
  /-- A position behind the end. -/
  | outOfRange
  /-- A number that is no byte. -/
  | noByte
  /-- An entry of a record, by its position, that is no pair but has another length. -/
  | noPair (position length : Nat)
  /-- A statement that is no text, where it has to be searched: bytes, or a value of the given
  type. -/
  | bytesStatement
  | noStatement (typeName : String)
  /-- A name that is no text, in its quoted form, where only text is taken for one. -/
  | noIdentifier (shown : String)
  /-- A key, in its quoted form, that is not there. -/
  | missingKey (shown : String)
  | unknownDatabase (name : String)
  /-- A database whose driver package, with its extra, is not installed. -/
  | missingPackage (database package extra : String)
  /-- A row with fewer (or more) values than there are columns. -/
  | rowWidth (short : Bool)
  | noConfigFile (path : String)
  /-- A path, in its quoted form, with a component that is too long. -/
  | longPath (shown : String)
  /-- A path with a null character. -/
  | nullInPath
  | noConfigSection (name path : String)
  /-- A builder without a session. -/
  | unbound (builder : String)
  | connectFailed (cause : Fault)
  | setupFailed (cause : Fault)
  | statementFailed (sql : Value) (cause : Fault)
  | beginFailed (sql : Value) (cause : Fault)
  | commitFailed (cause : Fault)
  | rollbackFailed (cause : Fault)
  /-- A statement of a transaction failed, and the transaction was rolled back. -/
  | aborted (sql : Value) (cause : Fault)
  /-- The connection was lost with a transaction open. The statement is null for a commit. -/
  | transactionLost (sql : Value)
  | raised (kind : RaisedKind) (text : String)

namespace Fault

/-- The wording of a fault. -/
def message : Fault → String
  | refused refusal => refusal.message
  | display fault => fault.message
  | number fault => fault.message
  | url fault => fault.message
  | ini fault => fault.message
  | unknownDialect name =>
    "Unknown dialect: '" ++ name ++ "'. Supported: mariadb, mysql, postgres, postgresql, sqlite"
  | unknownJoin name => "Unknown join kind: '" ++ name ++ "'"
  | unknownNode shown => "Unknown condition node: " ++ shown
  | wrongType => "wrong type"
  | notCollection typeName => "'" ++ typeName ++ "' object is not iterable"
  | noKey typeName => "unhashable type: '" ++ typeName ++ "'"
  | missingMember => "missing member"
  | outOfRange => "index out of range"
  | noByte => "byte must be in range(0, 256)"
  | noPair position length =>
    "dictionary update sequence element #" ++ toString position ++ " has length "
      ++ toString length ++ "; 2 is required"
  | bytesStatement => "cannot use a string pattern on a bytes-like object"
  | noStatement typeName => "expected string or bytes-like object, got '" ++ typeName ++ "'"
  | noIdentifier shown => "SQL identifier parts must be strings, got " ++ shown ++ " instead"
  | missingKey shown => shown
  | unknownDatabase name =>
    "Unknown database type: '" ++ name ++ "'. Supported: sqlite, mysql, postgresql"
  | missingPackage database package extra =>
    database ++ " support requires " ++ package ++ ". Install with: pip install sqlchain["
      ++ extra ++ "]"
  | rowWidth short => "zip() argument 2 is " ++ (if short then "shorter" else "longer")
      ++ " than argument 1"
  | noConfigFile path => "Config file not found: " ++ path
  | longPath shown => "[Errno 36] File name too long: " ++ shown
  | nullInPath => "embedded null byte"
  | noConfigSection name path =>
    Text.quoted ("Section [" ++ name ++ "] not found in " ++ path)
  | unbound builder => builder ++ " is not bound to a session"
  | connectFailed cause => "Connection failed: " ++ cause.message
  | setupFailed cause => "Session setup failed: " ++ cause.message
  | statementFailed _ cause => cause.message
  | beginFailed _ cause => "Could not begin transaction: " ++ cause.message
  | commitFailed cause => "Commit failed: " ++ cause.message
  | rollbackFailed cause => "Rollback failed: " ++ cause.message
  | aborted _ cause => cause.message
  | transactionLost _ => "Connection lost with an open transaction; it was rolled back"
  | raised .key text => Text.quoted text
  | raised _ text => text

/-- The title of a fault that a builder or a session reports, by what it is about. -/
def title : Fault → String
  | refused _ => "ValidationError"
  | unbound _ | connectFailed _ | setupFailed _ => "ConnectionError"
  | aborted .. | transactionLost _ => "TransactionAbort"
  | _ => "DriverError"

/-- A fault with the statement that it is about changed. -/
def mapStatement (f : Value → Value) : Fault → Fault
  | statementFailed sql cause => statementFailed (f sql) cause
  | beginFailed sql cause => beginFailed (f sql) cause
  | aborted sql cause => aborted (f sql) cause
  | transactionLost sql => transactionLost (f sql)
  | fault => fault

/-- A cancellation passes through every handler. -/
def isCancellation : Fault → Bool
  | raised .cancelled _ => true
  | _ => false

end Fault

end FluentSql
