/-!
# Where and why a document cannot be read

- `Json.Cause` : what is wrong
- `Json.Fault` : the cause with its line and column
- `Json.Fault.message` : the wording
-/

namespace SymbolIndex
namespace Json

/-- What is wrong with a text that is no document. -/
inductive Cause where
  | eofInValue
  | eofInList
  | eofInObject
  | eofInString
  | expectedValue
  | expectedIdent
  | expectedColon
  | expectedListEnd
  | expectedObjectEnd
  | keyNotString
  | trailingComma
  | trailingCharacters
  | invalidNumber
  | numberOutOfRange
  | controlCharacter
  | invalidEscape
  | unfinishedSurrogate
  | loneSurrogate
  | invalidCodePoint
  | tooDeep
  deriving DecidableEq, Repr

namespace Cause

def text : Cause → String
  | .eofInValue => "EOF while parsing a value"
  | .eofInList => "EOF while parsing a list"
  | .eofInObject => "EOF while parsing an object"
  | .eofInString => "EOF while parsing a string"
  | .expectedValue => "expected value"
  | .expectedIdent => "expected ident"
  | .expectedColon => "expected `:`"
  | .expectedListEnd => "expected `,` or `]`"
  | .expectedObjectEnd => "expected `,` or `\x7d`"
  | .keyNotString => "key must be a string"
  | .trailingComma => "trailing comma"
  | .trailingCharacters => "trailing characters"
  | .invalidNumber => "invalid number"
  | .numberOutOfRange => "number out of range"
  | .controlCharacter => "control character (\\u0000-\\u001F) found while parsing a string"
  | .invalidEscape => "invalid escape"
  | .unfinishedSurrogate => "unexpected end of hex escape"
  | .loneSurrogate => "lone leading surrogate in hex escape"
  | .invalidCodePoint => "invalid unicode code point"
  | .tooDeep => "recursion limit exceeded"

end Cause

/-- A cause with the place up to which the text had been read: lines count from one, the column is
the number of bytes read of the line. -/
structure Fault where
  cause : Cause
  line : Nat
  column : Nat
  deriving DecidableEq, Repr

namespace Fault

def after (cause : Cause) (read : List UInt8) : Fault :=
  { cause
    line := 1 + read.count 0x0A
    column := (read.reverse.takeWhile (· != 0x0A)).length }

def message (f : Fault) : String :=
  f.cause.text ++ " at line " ++ toString f.line ++ " column " ++ toString f.column

end Fault
end Json
end SymbolIndex
