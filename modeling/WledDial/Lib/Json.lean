/-
JSON documents and the part of the ArduinoJson 7 interface a program
reads them through.

# The document

`Json` is a parsed document: what `deserializeJson` leaves behind, with
object members in the order they were met. Texts, strings and keys are
byte strings, as they are in C. A number is kept as the decimal literal
it was written as, mantissa and exponent, so that no rounding is fixed
here.

# The library as a parameter

The library's own code is not part of the programs verified over it, so
`ArduinoJson` bundles what such a program calls with the documented
facts it relies on: `as<bool>` and `as<signed int>` return the value of
a member of the matching type and the type's default for an absent one,
and an integer that does not fit 32 bits reads as 0. `deserializeJson`
carries no law: results that hold of it hold for every parser.
-/
import Mathlib.Data.List.Basic
import Mathlib.Algebra.Group.Int.Defs

-- ============================================================ documents

/-- A byte string. -/
abbrev Bytes := List UInt8

/-- The bytes of a string literal of ASCII characters. -/
def ascii (s : String) : Bytes := s.toList.map fun c => c.toNat.toUInt8

/-- A JSON document; `num m e` is the number `m · 10 ^ e`. -/
inductive Json where
  | null
  | bool (b : Bool)
  | num (mantissa exponent : Int)
  | str (s : Bytes)
  | arr (elements : List Json)
  | obj (members : List (Bytes × Json))

namespace Json

/-- The integer literal `n`. -/
abbrev int (n : Int) : Json := .num n 0

/-- The member of that name, if the document is an object that has
one. -/
def find? (key : Bytes) : Json → Option Json
  | .obj members => members.lookup key
  | _ => none

/-- `operator[]`: an absent member reads as null. -/
def get (key : Bytes) (doc : Json) : Json := (doc.find? key).getD .null

/-- `is<JsonObject>`. -/
def isObject : Json → Bool
  | .obj _ => true
  | _ => false

@[simp] theorem find?_cons_self (key : Bytes) (v : Json)
    (members : List (Bytes × Json)) :
    (obj ((key, v) :: members)).find? key = some v := by
  show ((key, v) :: members).lookup key = some v
  exact List.lookup_cons_self

theorem find?_cons_ne {key k : Bytes} (h : key ≠ k) (v : Json)
    (members : List (Bytes × Json)) :
    (obj ((k, v) :: members)).find? key = (obj members).find? key := by
  show ((k, v) :: members).lookup key = members.lookup key
  rw [List.lookup_cons, beq_false_of_ne h]

@[simp] theorem find?_nil (key : Bytes) : (obj []).find? key = none := rfl

theorem get_of_find? {key : Bytes} {doc v : Json}
    (h : doc.find? key = some v) : doc.get key = v := by
  unfold get
  rw [h]
  rfl

theorem get_of_find?_none {key : Bytes} {doc : Json}
    (h : doc.find? key = none) : doc.get key = .null := by
  unfold get
  rw [h]
  rfl

end Json

-- ========================================================== the library

/-- The outcome of a deserialization. -/
inductive DeserializationError where
  | ok
  | emptyInput
  | incompleteInput
  | invalidInput
  | noMemory
  | tooDeep
  deriving DecidableEq

/-- Does the integer fit a 32-bit `signed int`? -/
abbrev FitsInt32 (n : Int) : Prop := -2 ^ 31 ≤ n ∧ n < 2 ^ 31

/-- The ArduinoJson calls a program makes, with the facts it relies
on. -/
structure ArduinoJson where
  deserializeJson : Bytes → DeserializationError × Json
  asBool : Json → Bool
  asSignedInt : Json → Int32
  asBool_null : asBool .null = false
  asBool_bool : ∀ b, asBool (.bool b) = b
  asSignedInt_null : asSignedInt .null = 0
  asSignedInt_int : ∀ n, FitsInt32 n → asSignedInt (.int n) = Int32.ofInt n
  asSignedInt_unfit : ∀ n, ¬ FitsInt32 n → asSignedInt (.int n) = 0

attribute [simp] ArduinoJson.asBool_null ArduinoJson.asBool_bool
  ArduinoJson.asSignedInt_null
