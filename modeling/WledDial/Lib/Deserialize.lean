/-
A concrete `deserializeJson`: the recursive-descent reader ArduinoJson
documents, executable, so that a payload can be run through the handlers
above it.

# What it keeps on an error

The document is built as the text is read. A member is added, as null,
once its key has been read, and is filled in by its value; an error
returns at once and leaves the document as far as it was built. A number
that the end of the input cuts is a number already, and an array or an
object that the end cuts keeps the elements read so far. Text after a
complete array, object or string is not looked at.

# The fuel

`parseVariant`, `parseElements` and `parseMembers` call one another on
ever shorter input; each call spends one unit of fuel, and
`deserializeJson` starts with two for every byte, which no input
exhausts.
-/
import WledDial.Lib.Json

namespace Deserialize

-- =========================================================== characters

/-- The byte of an ASCII character. -/
def chr (c : Char) : UInt8 := c.toNat.toUInt8

def doubleQuote : UInt8 := 34
def singleQuote : UInt8 := 39
def backslash : UInt8 := 92
def openBrace : UInt8 := 123
def closeBrace : UInt8 := 125

/-- The current byte, NUL past the end. -/
def current (input : Bytes) : UInt8 := input.headD 0

def isSpace (c : UInt8) : Bool :=
  c == chr ' ' || c == 9 || c == 10 || c == 13

def isDigit (c : UInt8) : Bool := chr '0' ≤ c && c ≤ chr '9'

def skipSpaces (input : Bytes) : Bytes := input.dropWhile isSpace

def canBeInNumber (c : UInt8) : Bool :=
  isDigit c || c == chr '+' || c == chr '-' || c == chr '.'
    || c == chr 'e' || c == chr 'E'

def canBeInNonQuotedString (c : UInt8) : Bool :=
  isDigit c || (chr '_' ≤ c && c ≤ chr 'z') || (chr 'A' ≤ c && c ≤ chr 'Z')

-- ============================================================== numbers

def digitsValue (ds : Bytes) : Nat :=
  ds.foldl (fun n d => 10 * n + (d - chr '0').toNat) 0

/-- A leading sign and what follows it. -/
def takeSign (s : Bytes) : Int × Bytes :=
  if current s == chr '-' then (-1, s.tail)
  else if current s == chr '+' then (1, s.tail)
  else (1, s)

/-- The exponent part, to the end of the text. -/
def parseExponent (s : Bytes) : Option Int :=
  if s.isEmpty then some 0
  else if current s == chr 'e' || current s == chr 'E' then
    let (sign, ds) := takeSign s.tail
    if ds.all isDigit then some (sign * digitsValue ds) else none
  else none

/-- A whole number text, as mantissa and exponent. -/
def parseNumber (s : Bytes) : Option (Int × Int) :=
  let (sign, s) := takeSign s
  if isDigit (current s) || current s == chr '.' then
    let whole := s.takeWhile isDigit
    let s := s.dropWhile isDigit
    let fraction :=
      if current s == chr '.' then s.tail.takeWhile isDigit else []
    let s := if current s == chr '.' then s.tail.dropWhile isDigit else s
    (parseExponent s).map fun e =>
      (sign * digitsValue (whole ++ fraction), e - fraction.length)
  else none

-- ============================================================== strings

/-- What a backslash and this byte stand for, NUL if nothing. -/
def unescapeChar (c : UInt8) : UInt8 :=
  if c == chr 'b' then 8 else if c == chr 'f' then 12
  else if c == chr 'n' then 10 else if c == chr 'r' then 13
  else if c == chr 't' then 9
  else if c == doubleQuote || c == backslash || c == chr '/' then c
  else 0

/-- The rest of a quoted string, up to its closing quote. -/
def parseQuotedString (stop : UInt8) :
    Bytes → Bytes → DeserializationError × Bytes × Bytes
  | acc, [] => (.incompleteInput, acc, [])
  | acc, c :: s =>
      if c == stop then (.ok, acc, s)
      else if c == 0 then (.incompleteInput, acc, c :: s)
      else if c == backslash then
        match s with
        | [] => (.incompleteInput, acc, [])
        | e :: s =>
            if unescapeChar e == 0 then (.invalidInput, acc, e :: s)
            else parseQuotedString stop (acc ++ [unescapeChar e]) s
      else parseQuotedString stop (acc ++ [c]) s

/-- A member name, quoted or not. -/
def parseKey (s : Bytes) : DeserializationError × Bytes × Bytes :=
  if current s == doubleQuote || current s == singleQuote then
    parseQuotedString (current s) [] s.tail
  else if canBeInNonQuotedString (current s) then
    (.ok, s.takeWhile canBeInNonQuotedString,
      s.dropWhile canBeInNonQuotedString)
  else (.invalidInput, [], s)

/-- The keyword, read byte by byte. -/
def skipKeyword : Bytes → Bytes → DeserializationError × Bytes
  | [], s => (.ok, s)
  | k :: ks, s =>
      if current s == 0 then (.incompleteInput, s)
      else if current s == k then skipKeyword ks s.tail
      else (.invalidInput, s)

-- ============================================================== values

/-- What a parser returns: the outcome, the document as far as it was
built, and the input left. -/
structure Parsed where
  err : DeserializationError
  value : Json
  rest : Bytes

/-- Add the member, or overwrite the one of that name. -/
def setMember (key : Bytes) (v : Json) :
    List (Bytes × Json) → List (Bytes × Json)
  | [] => [(key, v)]
  | (k, w) :: ms =>
      if k == key then (k, v) :: ms else (k, w) :: setMember key v ms

def parseKeyword (word : Bytes) (v : Json) (s : Bytes) : Parsed :=
  let (err, s) := skipKeyword word s
  ⟨err, v, s⟩

def parseNumericValue (s : Bytes) : Parsed :=
  match parseNumber (s.takeWhile canBeInNumber) with
  | some (m, e) => ⟨.ok, .num m e, s.dropWhile canBeInNumber⟩
  | none => ⟨.invalidInput, .null, s.dropWhile canBeInNumber⟩

def parseStringValue (s : Bytes) : Parsed :=
  match parseQuotedString (current s) [] s.tail with
  | (.ok, str, s) => ⟨.ok, .str str, s⟩
  | (err, _, s) => ⟨err, .null, s⟩

mutual

/-- One value; `nesting` is how many levels may still be opened. -/
def parseVariant (fuel nesting : Nat) (input : Bytes) : Parsed :=
  match fuel with
  | 0 => ⟨.noMemory, .null, input⟩
  | fuel + 1 =>
      let s := skipSpaces input
      let c := current s
      if c == 0 then ⟨.incompleteInput, .null, s⟩
      else if c == chr '[' then
        match nesting with
        | 0 => ⟨.tooDeep, .arr [], s⟩
        | nesting + 1 =>
            let s := skipSpaces s.tail
            if current s == 0 then ⟨.incompleteInput, .arr [], s⟩
            else if current s == chr ']' then ⟨.ok, .arr [], s.tail⟩
            else parseElements fuel nesting [] s
      else if c == openBrace then
        match nesting with
        | 0 => ⟨.tooDeep, .obj [], s⟩
        | nesting + 1 =>
            let s := skipSpaces s.tail
            if current s == 0 then ⟨.incompleteInput, .obj [], s⟩
            else if current s == closeBrace then ⟨.ok, .obj [], s.tail⟩
            else parseMembers fuel nesting [] s
      else if c == doubleQuote || c == singleQuote then parseStringValue s
      else if c == chr 't' then parseKeyword (ascii "true") (.bool true) s
      else if c == chr 'f' then parseKeyword (ascii "false") (.bool false) s
      else if c == chr 'n' then parseKeyword (ascii "null") .null s
      else parseNumericValue s

/-- The rest of an array, from an element on. -/
def parseElements (fuel nesting : Nat) (acc : List Json) (input : Bytes) :
    Parsed :=
  match fuel with
  | 0 => ⟨.noMemory, .arr acc, input⟩
  | fuel + 1 =>
      let r := parseVariant fuel nesting input
      let acc := acc ++ [r.value]
      if r.err ≠ .ok then ⟨r.err, .arr acc, r.rest⟩
      else
        let s := skipSpaces r.rest
        if current s == 0 then ⟨.incompleteInput, .arr acc, s⟩
        else if current s == chr ']' then ⟨.ok, .arr acc, s.tail⟩
        else if current s == chr ',' then
          parseElements fuel nesting acc s.tail
        else ⟨.invalidInput, .arr acc, s⟩

/-- The rest of an object, from a member on. -/
def parseMembers (fuel nesting : Nat) (acc : List (Bytes × Json))
    (input : Bytes) : Parsed :=
  match fuel with
  | 0 => ⟨.noMemory, .obj acc, input⟩
  | fuel + 1 =>
      let (err, key, s) := parseKey input
      if err ≠ .ok then ⟨err, .obj acc, s⟩
      else
        let s := skipSpaces s
        if current s == 0 then ⟨.incompleteInput, .obj acc, s⟩
        else if current s != chr ':' then ⟨.invalidInput, .obj acc, s⟩
        else
          let r := parseVariant fuel nesting s.tail
          let acc := setMember key r.value acc
          if r.err ≠ .ok then ⟨r.err, .obj acc, r.rest⟩
          else
            let s := skipSpaces r.rest
            if current s == 0 then ⟨.incompleteInput, .obj acc, s⟩
            else if current s == closeBrace then ⟨.ok, .obj acc, s.tail⟩
            else if current s == chr ',' then
              let s := skipSpaces s.tail
              if current s == 0 then ⟨.incompleteInput, .obj acc, s⟩
              else parseMembers fuel nesting acc s
            else ⟨.invalidInput, .obj acc, s⟩

end

/-- The default nesting limit. -/
def defaultNestingLimit : Nat := 10

/-- The deserializer: an empty text has an error of its own, and only a
bare number is checked for what follows it. -/
def deserializeJson (input : Bytes) : DeserializationError × Json :=
  if current (skipSpaces input) == 0 then (.emptyInput, .null)
  else
    let r := parseVariant (2 * input.length + 2) defaultNestingLimit input
    match r.value with
    | .num _ _ =>
        if r.err = .ok ∧ current r.rest ≠ 0 then (.invalidInput, r.value)
        else (r.err, r.value)
    | v => (r.err, v)

-- ========================================================== conversions

/-- Round a decimal literal towards zero; past 32 bits the value is
immaterial. -/
def truncate (m e : Int) : Int :=
  if 10 < e then m * 10 ^ 10
  else if 0 ≤ e then m * 10 ^ e.toNat
  else m.tdiv (10 ^ (-e).toNat)

def numberToInt32 (m e : Int) : Int32 :=
  if FitsInt32 (truncate m e) then Int32.ofInt (truncate m e) else 0

def asBool : Json → Bool
  | .null => false
  | .bool b => b
  | .num m _ => m != 0
  | _ => true

def asSignedInt : Json → Int32
  | .bool b => if b then 1 else 0
  | .num m e => numberToInt32 m e
  | .str s =>
      match parseNumber s with
      | some (m, e) => numberToInt32 m e
      | none => 0
  | _ => 0

theorem truncate_int (n : Int) : truncate n 0 = n := by
  simp [truncate]

end Deserialize

/-- The library with the concrete deserializer and conversions. -/
def ArduinoJson.reference : ArduinoJson where
  deserializeJson := Deserialize.deserializeJson
  asBool := Deserialize.asBool
  asSignedInt := Deserialize.asSignedInt
  asBool_null := rfl
  asBool_bool := fun _ => rfl
  asSignedInt_null := rfl
  asSignedInt_int := by
    intro n hn
    show Deserialize.numberToInt32 n 0 = _
    unfold Deserialize.numberToInt32
    rw [Deserialize.truncate_int, if_pos hn]
  asSignedInt_unfit := by
    intro n hn
    show Deserialize.numberToInt32 n 0 = _
    unfold Deserialize.numberToInt32
    rw [Deserialize.truncate_int, if_neg hn]
