import LiveFind.Json.FloatText
import LiveFind.Text.Quoted

/-!
# What can be wrong with a JSON text

Faults of form, and faults of content: a value that is well formed and not what its place asks for.
-/

namespace LiveFind.Json

/-- A value where something else was expected. -/
inductive Found
  | null
  | bool (b : Bool)
  | int (n : Int)
  | float (bits : UInt64)
  | str (s : String)
  | sequence
  | map
deriving Repr, DecidableEq

/-- The wording of such a value. -/
def Found.describe : Found → String
  | null => "null"
  | bool b => "boolean `" ++ toString b ++ "`"
  | int n => "integer `" ++ toString n ++ "`"
  | float bits => "floating point `" ++ String.ofList (floatText bits) ++ "`"
  | str s => "string " ++ Text.quoted s
  | sequence => "sequence"
  | map => "map"

/-- Why a text could not be read. -/
inductive Fault
  | endInValue
  | endInObject
  | endInArray
  | endInString
  | wordExpected
  | valueExpected
  | colonExpected
  | objectCommaExpected
  | arrayCommaExpected
  | keyNotString
  | trailingComma
  | trailingCharacters
  | invalidNumber
  | numberOutOfRange
  | invalidEscape
  | controlCharacter
  | loneSurrogate
  | surrogateUnfinished
  | nestedTooDeep
  | missingField (name : String)
  | duplicateField (name : String)
  /-- A value of another type than expected. -/
  | invalidType (found : Found) (expected : String)
  /-- A value of the right type and outside of what is expected. -/
  | invalidValue (found : Found) (expected : String)
  /-- A sequence with too few items. -/
  | invalidLength (length : Nat) (expected : String)
deriving Repr, DecidableEq

/-- The wording of a fault. -/
def Fault.message : Fault → String
  | endInValue => "EOF while parsing a value"
  | endInObject => "EOF while parsing an object"
  | endInArray => "EOF while parsing a list"
  | endInString => "EOF while parsing a string"
  | wordExpected => "expected ident"
  | valueExpected => "expected value"
  | colonExpected => "expected `:`"
  | objectCommaExpected => "expected `,` or `\x7d`"
  | arrayCommaExpected => "expected `,` or `]`"
  | keyNotString => "key must be a string"
  | trailingComma => "trailing comma"
  | trailingCharacters => "trailing characters"
  | invalidNumber => "invalid number"
  | numberOutOfRange => "number out of range"
  | invalidEscape => "invalid escape"
  | controlCharacter => "control character (\\u0000-\\u001F) found while parsing a string"
  | loneSurrogate => "lone leading surrogate in hex escape"
  | surrogateUnfinished => "unexpected end of hex escape"
  | nestedTooDeep => "recursion limit exceeded"
  | missingField name => "missing field `" ++ name ++ "`"
  | duplicateField name => "duplicate field `" ++ name ++ "`"
  | invalidType found expected => "invalid type: " ++ found.describe ++ ", expected " ++ expected
  | invalidValue found expected => "invalid value: " ++ found.describe ++ ", expected " ++ expected
  | invalidLength length expected =>
    "invalid length " ++ toString length ++ ", expected " ++ expected

end LiveFind.Json
