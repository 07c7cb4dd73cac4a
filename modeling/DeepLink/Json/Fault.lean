import DeepLink.Text.Utf8

/-!
Why a text is not JSON, and where: a fault counts the bytes that were left when it was found, and
`locate` turns them into a line and a column.
-/

namespace DeepLink.Json

inductive Cause where
  | endInList | endInObject | endInString | endInValue
  | noColon | noListEnd | noObjectEnd | noIdent | noValue | noKey
  | trailingComma | trailingText
  | badNumber | numberTooLarge
  | badEscape | controlCharacter | loneSurrogate | halfSurrogate
  | tooDeep
deriving DecidableEq, Repr

def Cause.message : Cause → String
  | endInList => "EOF while parsing a list"
  | endInObject => "EOF while parsing an object"
  | endInString => "EOF while parsing a string"
  | endInValue => "EOF while parsing a value"
  | noColon => "expected `:`"
  | noListEnd => "expected `,` or `]`"
  | noObjectEnd => "expected `,` or `\x7d`"
  | noIdent => "expected ident"
  | noValue => "expected value"
  | noKey => "key must be a string"
  | trailingComma => "trailing comma"
  | trailingText => "trailing characters"
  | badNumber => "invalid number"
  | numberTooLarge => "number out of range"
  | badEscape => "invalid escape"
  | controlCharacter => "control character (\\u0000-\\u001F) found while parsing a string"
  | loneSurrogate => "lone leading surrogate in hex escape"
  | halfSurrogate => "unexpected end of hex escape"
  | tooDeep => "recursion limit exceeded"

structure Fault where
  cause : Cause
  left : Nat
deriving DecidableEq, Repr

namespace Fault

def here (cause : Cause) (rest : List Char) : Fault := ⟨cause, Utf8.size rest - 1⟩

def before (cause : Cause) (rest : List Char) : Fault := ⟨cause, Utf8.size rest⟩

end Fault

def locate (bytes line column : Nat) : List Char → Nat × Nat
  | [] => (line, column)
  | c :: s =>
    if bytes < c.utf8Size then (line, column + bytes)
    else if c = '\n' then locate (bytes - 1) (line + 1) 0 s
    else locate (bytes - c.utf8Size) line (column + c.utf8Size) s

structure SyntaxError where
  cause : Cause
  line : Nat
  column : Nat
deriving DecidableEq, Repr

def Fault.toError (text : List Char) (f : Fault) : SyntaxError :=
  let (line, column) := locate (Utf8.size text - f.left) 1 0 text
  ⟨f.cause, line, column⟩

def SyntaxError.message (e : SyntaxError) : String :=
  s!"{e.cause.message} at line {e.line} column {e.column}"

end DeepLink.Json
