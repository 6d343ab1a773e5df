import Mathlib.Algebra.Group.Nat.Defs
import GuideXOS.Core.Text
import GuideXOS.Lib.Reading

/-!
# `JsonUtils` — the builder and the parser of configurations

`JsonBuilder` writes a document into a buffer; `JsonParser` is a cursor over one. Their notions of an escape are two
separate tables: the builder has an escape for every byte that is below 32 as a signed character, the parser knows the
seven that are letters and the slash.

* The parser holds what is left of the text beside its position.
* Positions stand in the messages of errors, as the source has them.
-/

namespace GuideXOS.Config
open Core Lib.Reading

def quote : UInt8 := 0x22

def backslash : UInt8 := 0x5C

def comma : UInt8 := 0x2C

def newline : UInt8 := 0x0A

def space : UInt8 := 0x20

/-! ## The builder -/

/-- A number in hexadecimal, with at least four digits. -/
def hexPadded (n : UInt32) : Text :=
  let digits := (Nat.toDigits 16 n.toNat).map fun c => c.toNat.toUInt8
  List.replicate (4 - digits.length) 0x30 ++ digits

def escapeByte (c : UInt8) : Text :=
  if c = quote then [backslash, quote]
  else if c = backslash then [backslash, backslash]
  else if c = 0x08 then text "\\b"
  else if c = 0x0C then text "\\f"
  else if c = 0x0A then text "\\n"
  else if c = 0x0D then text "\\r"
  else if c = 0x09 then text "\\t"
  else if c.toInt8 < 32 then text "\\u" ++ hexPadded c.toInt8.toInt32.toUInt32
  else [c]

def escapeString (str : Text) : Text := str.flatMap escapeByte

/-- A number in decimal. -/
def decimal (n : Nat) : Text :=
  if n < 10 then [UInt8.ofNat (0x30 + n)] else decimal (n / 10) ++ [UInt8.ofNat (0x30 + n % 10)]

structure JsonBuilder where
  buffer : Text := []
  /-- the innermost element first -/
  isFirstElement : List Bool := []
  indentLevel : Nat := 0

namespace JsonBuilder

variable (builder : JsonBuilder)

def put (bytes : Text) : JsonBuilder := { builder with buffer := builder.buffer ++ bytes }

def writeIndent : JsonBuilder := builder.put (List.replicate (2 * builder.indentLevel) space)

def writeComma : JsonBuilder :=
  match builder.isFirstElement with
  | [] => builder
  | false :: _ => builder.put [comma, newline]
  | true :: outer => { builder.put [newline] with isFirstElement := false :: outer }

/-- What `beginObject` and `beginArray` share: the bracket that opens, and one level more. -/
def enter (bracket : UInt8) : JsonBuilder where
  buffer := builder.buffer ++ [bracket]
  isFirstElement := true :: builder.isFirstElement
  indentLevel := builder.indentLevel + 1

/-- What `endObject` and `endArray` share: one level less, and the bracket that closes on a line of its own. -/
def leave (bracket : UInt8) : JsonBuilder :=
  let outer : JsonBuilder := { builder with
    indentLevel := builder.indentLevel - 1
    isFirstElement := builder.isFirstElement.tail }
  (outer.put [newline]).writeIndent.put [bracket]

def beginObject : JsonBuilder := builder.enter 0x7B

def endObject : JsonBuilder := builder.leave 0x7D

def beginArray : JsonBuilder := builder.enter 0x5B

def endArray : JsonBuilder := builder.leave 0x5D

def writeKey (key : Text) : JsonBuilder :=
  builder.writeComma.writeIndent.put ([quote] ++ escapeString key ++ [quote, 0x3A, space])

def writeString (key value : Text) : JsonBuilder :=
  (builder.writeKey key).put ([quote] ++ escapeString value ++ [quote])

def writeNumber (key : Text) (value : Nat) : JsonBuilder :=
  (builder.writeKey key).put (decimal value)

def writeBool (key : Text) (value : Bool) : JsonBuilder :=
  (builder.writeKey key).put (if value then text "true" else text "false")

def writeArrayElement : JsonBuilder := builder.writeComma.writeIndent

end JsonBuilder

/-! ## The parser -/

inductive JsonError
  | runtime (what : String)
  | invalidArgument (what : String)
  | outOfRange (what : String)
  /-- not an error of the source: a loop of the model without fuel -/
  | stuck
  deriving DecidableEq

abbrev JsonParser := Cursor UInt8

abbrev Parser (α : Type) := Reader JsonError UInt8 α

namespace JsonParser

def isSpace (c : UInt8) : Bool := c == 0x20 || c == 0x09 || c == 0x0A || c == 0x0D

def skipWhitespace : Parser Unit := fun parser =>
  .ok ((), ⟨parser.pos + (parser.rest.takeWhile isSpace).length, parser.rest.dropWhile isSpace⟩)

/-- The next character, a NUL at the end. -/
def peek : Parser UInt8 := do
  skipWhitespace
  return (← get).rest.headD 0

def consume : Parser UInt8 := do
  skipWhitespace
  fun parser =>
    match parser.rest with
    | [] => .ok (0, parser)
    | c :: rest => .ok (c, ⟨parser.pos + 1, rest⟩)

def tryMatch (c : UInt8) : Parser Bool := do
  skipWhitespace
  fun parser =>
    match parser.rest with
    | [] => .ok (false, parser)
    | d :: rest => if d = c then .ok (true, ⟨parser.pos + 1, rest⟩) else .ok (false, parser)

def unescape (c : UInt8) : Option UInt8 :=
  if c = quote then some quote
  else if c = backslash then some backslash
  else if c = 0x2F then some 0x2F
  else if c = 0x62 then some 0x08
  else if c = 0x66 then some 0x0C
  else if c = 0x6E then some 0x0A
  else if c = 0x72 then some 0x0D
  else if c = 0x74 then some 0x09
  else none

/-- The rest of a string and its closing quote. -/
def parseChars : Text → Nat → Text → Except JsonError (Text × JsonParser)
  | _, _, [] => .error (.runtime "Unterminated string")
  | result, pos, c :: rest =>
      if c = quote then .ok (result, ⟨pos + 1, rest⟩)
      else if c = backslash then
        match rest with
        | [] => .error (.runtime "Unexpected end of string")
        | d :: rest =>
            match unescape d with
            | none => .error (.runtime "Invalid escape sequence")
            | some u => parseChars (result ++ [u]) (pos + 2) rest
      else parseChars (result ++ [c]) (pos + 1) rest

/-- One character that has to come next. -/
def expect (c : UInt8) (what : String) : Parser Unit := do
  if (← consume) ≠ c then throw (.runtime (what ++ toString (← get).pos))

def parseString : Parser Text := do
  expect quote "Expected '\"' at position "
  fun parser => parseChars [] parser.pos parser.rest

def isDigit (c : UInt8) : Bool := 0x30 ≤ c && c ≤ 0x39

def stoull (negative : Bool) (digits : Text) : Except JsonError UInt64 :=
  if digits = [] then .error (.invalidArgument "stoull")
  else
    let value := digits.foldl (fun n d => 10 * n + (d.toNat - 0x30)) 0
    if 2 ^ 64 ≤ value then .error (.outOfRange "stoull")
    else .ok (if negative then 0 - UInt64.ofNat value else UInt64.ofNat value)

def parseNumber : Parser UInt64 := do
  skipWhitespace
  let negative ← tryMatch 0x2D
  fun parser =>
    let digits := parser.rest.takeWhile isDigit
    match stoull negative digits with
    | .error error => .error error
    | .ok value => .ok (value, ⟨parser.pos + digits.length, parser.rest.drop digits.length⟩)

def parseBool : Parser Bool := do
  skipWhitespace
  fun parser =>
    if parser.rest.take 4 = text "true" then .ok (true, ⟨parser.pos + 4, parser.rest.drop 4⟩)
    else if parser.rest.take 5 = text "false" then .ok (false, ⟨parser.pos + 5, parser.rest.drop 5⟩)
    else .error (.runtime ("Expected 'true' or 'false' at position " ++ toString parser.pos))

def expectObjectStart : Parser Unit := expect 0x7B "Expected '\x7b' at position "

def expectObjectEnd : Parser Unit := expect 0x7D "Expected '\x7d' at position "

def expectArrayStart : Parser Unit := expect 0x5B "Expected '[' at position "

def expectArrayEnd : Parser Unit := expect 0x5D "Expected ']' at position "

def tryConsumeComma : Parser Bool := tryMatch comma

def parseKey : Parser Text := do
  let key ← parseString
  expect 0x3A "Expected ':' after key at position "
  return key

def isObjectEnd : Parser Bool := do return (← peek) == 0x7D

def isArrayEnd : Parser Bool := do return (← peek) == 0x5D

/-- An object, with what a key makes of the value that follows it. -/
def readObject {α : Type} (readMember : Text → α → Parser α) (config : α) : Parser α := do
  expectObjectStart
  let config ← readItems isObjectEnd tryConsumeComma .stuck (fun config => do readMember (← parseKey) config) config
  expectObjectEnd
  return config

/-- An array, appended to the elements there are. -/
def readArray {α : Type} (element : Parser α) (elements : List α) : Parser (List α) := do
  expectArrayStart
  let elements ← readItems isArrayEnd tryConsumeComma .stuck (fun elements => do return elements ++ [← element]) elements
  expectArrayEnd
  return elements

end JsonParser

end GuideXOS.Config
