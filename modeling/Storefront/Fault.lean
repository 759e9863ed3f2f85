import Storefront.Calendar.Reading
import Storefront.Decimal.Literal
import Storefront.Json.Reader
import Storefront.Json.Writer
import Storefront.Url

/-! # What can go wrong

A `Fault` is the cause of a failed operation; `Fault.message` words it.  Faults come in three
groups: values of a shape that an operation cannot use, conditions that the shop reports to its
caller (`rejected`, `notFound`), and hard failures of the shop itself. -/

namespace Storefront

/-- One step on the way to a part of a checked value. -/
inductive PathStep where
  | name (s : String)
  | index (n : Nat)
  deriving DecidableEq, Repr

/-- What is wrong with a part of a checked value. -/
inductive IssueKind where
  /-- A required part is absent. -/
  | missing
  /-- A text was expected. -/
  | textExpected
  /-- The text has characters that cannot be sent. -/
  | textUnsendable
  /-- A list was expected. -/
  | listExpected
  /-- A record with known members was expected. -/
  | modelExpected
  /-- A record of any members was expected. -/
  | recordExpected
  /-- A request body was expected to be a record. -/
  | bodyExpected
  /-- A whole number was expected. -/
  | wholeExpected
  /-- The text is not a whole number. -/
  | wholeMalformed
  /-- The number has a fraction. -/
  | wholeFractional
  /-- The number is too large to be read. -/
  | wholeTooLarge
  /-- The number is not finite. -/
  | notFinite
  /-- The text is not JSON. -/
  | jsonMalformed
  deriving DecidableEq, Repr

/-- The code that names a kind of issue in an answer. -/
def IssueKind.code : IssueKind → String
  | .missing => "missing"
  | .textExpected => "string_type"
  | .textUnsendable => "string_unicode"
  | .listExpected => "list_type"
  | .modelExpected => "model_type"
  | .recordExpected => "dict_type"
  | .bodyExpected => "model_attributes_type"
  | .wholeExpected => "int_type"
  | .wholeMalformed => "int_parsing"
  | .wholeFractional => "int_from_float"
  | .wholeTooLarge => "int_parsing_size"
  | .notFinite => "finite_number"
  | .jsonMalformed => "json_invalid"

/-- One defect of a checked value and its place. -/
structure Issue where
  path : List PathStep
  kind : IssueKind
  deriving DecidableEq, Repr

/-- Why a value of the right shape cannot be used. -/
inductive BadValue where
  /-- The text is not a whole number. -/
  | notWhole (text : String)
  /-- A whole number has too many digits to be read. -/
  | tooManyDigits (count : Nat)
  /-- A whole number has too many digits to be written. -/
  | unwritable
  /-- The double that is not a number has no whole part. -/
  | notANumber
  /-- The text is not a decimal number. -/
  | notReal (text : String)
  /-- A nested attribute lacks its key or its value. -/
  | attribute (key : Key) (value : Value)
  /-- An entry of a list that is taken as a record does not have two elements. -/
  | notPair (place count : Nat)
  | date (error : Calendar.DateError)
  | json (error : Json.ReadError)
  /-- What arrived is no text. -/
  | octets (error : Text.DecodeError)
  /-- A text cannot be sent. -/
  | characters (lacking : Text.Unencodable)
  /-- A number that is not finite cannot be sent. -/
  | notSendable
  /-- A cause stated by whoever reported it. -/
  | stated (text : String)

/-- The cause of a failed operation. -/
inductive Fault where
  /-- A value has a shape that the operation cannot use. -/
  | shape
  /-- A value failed the checks of its model. -/
  | invalid (issues : List Issue)
  /-- The shop rejects the request for the listed reasons. -/
  | rejected (failures : List Value)
  /-- The shop does not know what a field names. -/
  | notFound (field message : Value)
  /-- A document has no body. -/
  | emptyDocument
  /-- An identifier was asked for without a kind. -/
  | emptyPrefix
  /-- No unused identifier was found. -/
  | exhausted
  /-- Any other failure of the shop. -/
  | engine (text : String)
  /-- A failure that a handler reports. -/
  | runtime (text : String)
  | missingKey (key : Key)
  /-- A whole number is too large for a double. -/
  | tooLarge
  /-- An infinite double has no whole part. -/
  | infiniteWhole
  /-- Lists or records in a JSON text are nested too deeply; it is a list that is one too many, or a
  record. -/
  | tooDeep (isList : Bool)
  /-- A text is no address. -/
  | address (error : UrlError)
  | value (cause : BadValue)

/-- The words for the digit limit; how many digits there are is told of a number that is read. -/
def digitLimitMessage (count : Option Nat) : String :=
  let found := match count with
    | some count => ": value has " ++ Decimal.whole count ++ " digits"
    | none => ""
  "Exceeds the limit (" ++ Decimal.whole Decimal.digitLimit ++
    " digits) for integer string conversion" ++ found ++
    "; use sys.set_int_max_str_digits() to increase the limit"

/-- What is wrong with a JSON text, and where, in words. -/
def Json.ReadError.display (e : Json.ReadError) : String :=
  match e.cause with
  | .tooLong count => digitLimitMessage (some count)
  | cause =>
    cause.message ++ ": line " ++ Decimal.whole e.line ++ " column " ++ Decimal.whole e.column ++
      " (char " ++ Decimal.whole e.offset ++ ")"

/-- Why a value cannot be used, in words. -/
def BadValue.message : BadValue → String
  | .notWhole text => "invalid literal for int() with base 10: " ++ Text.quoted text
  | .tooManyDigits count => digitLimitMessage (some count)
  | .unwritable => digitLimitMessage none
  | .notANumber => "cannot convert float NaN to integer"
  | .notReal text => "could not convert string to float: " ++ Text.quoted text
  | .attribute key value =>
    -- The fault of an attribute that cannot be written is that it cannot be written.
    if key.isWritable && value.isWritable then
      "Invalid attribute: " ++ Json.write .line (.record [(.text key.display, value)])
    else digitLimitMessage none
  | .notPair place count =>
    "dictionary update sequence element #" ++ Decimal.whole place ++ " has length " ++
      Decimal.whole count ++ "; 2 is required"
  | .date error => error.message
  | .json error => error.display
  | .octets error => error.message
  | .characters lacking => lacking.message
  | .notSendable => "Out of range float values are not JSON compliant"
  | .stated text => text

@[simp] theorem BadValue.message_tooManyDigits (count : Nat) :
    (tooManyDigits count).message = digitLimitMessage (some count) := rfl

@[simp] theorem BadValue.message_unwritable : unwritable.message = digitLimitMessage none := rfl

/-- A fault in words.  Faults of shape have none of their own. -/
def Fault.message : Fault → String
  | .shape => "<internal>"
  | .invalid issues => Decimal.whole issues.length ++ " validation errors"
  | .rejected _ => "Validation failed"
  | .notFound _ message => message.display
  | .emptyDocument => "Empty query"
  | .emptyPrefix => "Unable to generate random ID: prefix is empty"
  | .exhausted => "Unable to generate a random ID: reached max attempts."
  | .engine text => text
  | .runtime text => text
  | .missingKey key => key.quoted
  | .tooLarge => "int too large to convert to float"
  | .infiniteWhole => "cannot convert float infinity to integer"
  | .tooDeep isList =>
    "maximum recursion depth exceeded while decoding a JSON " ++
      (if isList then "array" else "object") ++ " from a unicode string"
  | .address error => error.message
  | .value cause => cause.message

/-- The fault of a value that cannot be sent. -/
def Fault.ofSendError : Json.SendError → Fault
  | .notFinite => .value .notSendable
  | .encoding u => .value (.characters u)

/-- The fault of JSON that cannot be read. -/
def Fault.ofArrivalError : Json.ArrivalError → Fault
  | .encoding e => .value (.octets e)
  | .text ⟨.tooDeep isList, _, _, _⟩ => .tooDeep isList
  | .text e => .value (.json e)

/-- Whether the shop reports a fault as the outcome of a request, rather than failing itself. -/
def Fault.isRejection : Fault → Bool
  | .rejected _ | .notFound _ _ => true
  | _ => false

/-- What the shop lists against a rejected request. -/
def Fault.failures : Fault → List Value
  | .rejected failures => failures
  | .notFound field message => [.ofFields [("field", field), ("message", message)]]
  | _ => []

/-- The shop does not know the identifier of a request. -/
def Fault.unknownId : Fault := .notFound "id" "Non existing"

end Storefront
