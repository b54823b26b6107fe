import Vastora.Library.Json

/-!
# JsonDecode — values of Go types from documents

What `json.Unmarshal` stores in a variable of a Go type that has its zero value: a `null` leaves it there.
-/

namespace Vastora
namespace Library

def decimalValue (digits : List Char) : Int :=
  digits.foldl (fun n c => 10 * n + (c.toNat - '0'.toNat)) 0

/-- The integer of a literal without fraction and exponent that fits 64 bits. -/
def NumberLiteral.int? (n : NumberLiteral) : Option Int :=
  let value : Option Int := match n.text.toList with
    | '-' :: digits => if digits.all Char.isDigit then some (-decimalValue digits) else none
    | digits => if digits.all Char.isDigit then some (decimalValue digits) else none
  value.filter fun v => -9223372036854775808 ≤ v && v ≤ 9223372036854775807

namespace Json

def unmarshalInt : Json → Option Int
  | null => some 0
  | number n => n.int?
  | _ => none

def unmarshalString : Json → Option String
  | null => some ""
  | string s => some s
  | _ => none

def unmarshalStrings : Json → Option (List String)
  | null => some []
  | array items => items.mapM unmarshalString
  | _ => none

/-- A `map[string]json.RawMessage` by its members. -/
def unmarshalMap : Json → Option (List (String × Json))
  | null => some []
  | object members => some members
  | _ => none

def unmarshalMaps : Json → Option (List (List (String × Json)))
  | null => some []
  | array items => items.mapM unmarshalMap
  | _ => none

end Json

end Library
end Vastora
