import Sluice.Text.Numeral

/-! # Printing JSON

JSON data without fractions, and its compact text: no white space, members in the order in which
they stand, and in strings an escape for quotes, backslashes and the characters below the space
only.
-/

namespace Sluice

/-- JSON data whose numbers are whole. -/
inductive Json where
  | null
  | bool (b : Bool)
  | number (n : Int)
  | string (s : String)
  | array (items : List Json)
  | object (members : List (String × Json))

namespace Json

/-- The short escape of a character, if it has one. -/
def shortEscape? (c : Char) : Option Char :=
  if c = '"' then some '"'
  else if c = '\\' then some '\\'
  else if c = '\x08' then some 'b'
  else if c = '\x09' then some 't'
  else if c = '\x0a' then some 'n'
  else if c = '\x0c' then some 'f'
  else if c = '\x0d' then some 'r'
  else none

def renderChar (c : Char) : List Char :=
  match shortEscape? c with
  | some short => ['\\', short]
  | none =>
      if c.toNat < 0x20 then
        ['\\', 'u', '0', '0', Text.hexDigit (c.toNat / 16), Text.hexDigit (c.toNat % 16)]
      else [c]

def renderString (s : String) : List Char := '"' :: (s.toList.flatMap renderChar ++ ['"'])

def renderNumber (n : Int) : List Char := (toString n).toList

mutual

def renderChars : Json → List Char
  | .null => "null".toList
  | .bool b => (if b then "true" else "false").toList
  | .number n => renderNumber n
  | .string s => renderString s
  | .array items => '[' :: (renderItems items ++ [']'])
  | .object members => '\x7b' :: (renderMembers members ++ ['\x7d'])

def renderItems : List Json → List Char
  | [] => []
  | [item] => item.renderChars
  | item :: rest => item.renderChars ++ ',' :: renderItems rest

def renderMembers : List (String × Json) → List Char
  | [] => []
  | [(key, value)] => renderString key ++ ':' :: value.renderChars
  | (key, value) :: rest =>
      renderString key ++ ':' :: (value.renderChars ++ ',' :: renderMembers rest)

end

def render (j : Json) : String := String.ofList j.renderChars

end Json

end Sluice
