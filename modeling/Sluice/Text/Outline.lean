import Sluice.Text.Invisible

/-! # Outlines of data

Programs report a failure by its outline: the name of each cause with its fields in braces, or with
the cause inside it in parentheses, and all texts in quotes. Inside quotes, quotes and backslashes
are escaped, and so are characters without a shape of their own.
-/

namespace Sluice.Text

/-- A character as it stands in a quoted text. -/
def quoteChar (c : Char) : List Char :=
  if c = '\x00' then ['\\', '0']
  else if c = '\t' then ['\\', 't']
  else if c = '\n' then ['\\', 'n']
  else if c = '\r' then ['\\', 'r']
  else if c = '"' then ['\\', '"']
  else if c = '\\' then ['\\', '\\']
  else if isInvisible c then
    ['\\', 'u', '\x7b'] ++ Nat.toDigits 16 c.toNat ++ ['\x7d']
  else [c]

def quote (s : String) : String :=
  String.ofList ('"' :: (s.toList.flatMap quoteChar ++ ['"']))

/-- Data to be written out by its structure. -/
inductive Outline where
  /-- A text, to be quoted. -/
  | quoted (s : String)
  /-- A word that is written as it is. -/
  | word (s : String)
  /-- A name with the data that it wraps. -/
  | wrapped (name : String) (inner : Outline)
  /-- A name with named fields. -/
  | record (name : String) (fields : List (String × Outline))

namespace Outline

mutual

def render : Outline → String
  | .quoted s => quote s
  | .word s => s
  | .wrapped name inner => name ++ "(" ++ inner.render ++ ")"
  | .record name fields =>
      name ++ " \x7b " ++ ", ".intercalate (renderFields fields) ++ " \x7d"

def renderFields : List (String × Outline) → List String
  | [] => []
  | (name, value) :: rest => (name ++ ": " ++ value.render) :: renderFields rest

end

end Outline

end Sluice.Text
