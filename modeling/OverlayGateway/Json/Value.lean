import OverlayGateway.Decimal.Unsigned
import OverlayGateway.Text.Basic
/-!
JSON documents and their compact text: no blanks, quotes and backslashes escaped, control
characters escaped by letter or by number, every other character as it is.
-/

set_option autoImplicit false
set_option relaxedAutoImplicit false

namespace OverlayGateway.Json

inductive Value where
  | null
  | bool (value : Bool)
  | nat (value : Nat)
  | string (value : String)
  | array (items : List Value)
  /-- Members in the order in which they are written. -/
  | object (members : List (String × Value))

/-- A character as it stands inside a JSON string. -/
def escapedChar (c : Char) : List Char :=
  if c = '"' then ['\\', '"']
  else if c = '\\' then ['\\', '\\']
  else if c.toNat = 8 then ['\\', 'b']
  else if c.toNat = 9 then ['\\', 't']
  else if c.toNat = 10 then ['\\', 'n']
  else if c.toNat = 12 then ['\\', 'f']
  else if c.toNat = 13 then ['\\', 'r']
  else if c.toNat < 32 then
    ['\\', 'u', '0', '0', Text.hexDigit (c.toNat / 16), Text.hexDigit (c.toNat % 16)]
  else [c]

def stringChars (s : String) : List Char :=
  '"' :: (s.toList.flatMap escapedChar ++ ['"'])

namespace Value

mutual

def chars : Value → List Char
  | .null => ['n', 'u', 'l', 'l']
  | .bool true => ['t', 'r', 'u', 'e']
  | .bool false => ['f', 'a', 'l', 's', 'e']
  | .nat n => Nat.toDigits 10 n
  | .string s => stringChars s
  | .array items => '[' :: (itemsChars items ++ [']'])
  | .object members => '\x7b' :: (membersChars members ++ ['\x7d'])

def itemsChars : List Value → List Char
  | [] => []
  | [item] => item.chars
  | item :: items => item.chars ++ ',' :: itemsChars items

def membersChars : List (String × Value) → List Char
  | [] => []
  | [(key, value)] => stringChars key ++ ':' :: value.chars
  | (key, value) :: members =>
    stringChars key ++ ':' :: (value.chars ++ ',' :: membersChars members)

end

/-- The compact text of a document. -/
def text (value : Value) : String := String.ofList value.chars

/-- An object with its members in the order of their names. -/
def sorted (members : List (String × Value)) : Value :=
  .object (members.mergeSort fun a b ↦ decide (a.1 ≤ b.1))

theorem sorted_singleton (member : String × Value) : sorted [member] = .object [member] := by
  rw [sorted, List.mergeSort_singleton]

theorem sorted_pair {key other : String} (h : other < key) (value value' : Value) :
    sorted [(key, value), (other, value')] = .object [(other, value'), (key, value)] := by
  have hle : ¬ key ≤ other := String.not_le.2 h
  simp [sorted, List.mergeSort, hle]

def strings (items : List String) : Value := .array (items.map .string)

end Value

end OverlayGateway.Json
