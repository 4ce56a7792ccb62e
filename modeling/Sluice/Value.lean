import Sluice.Bytes
import Sluice.Keyed
import Sluice.Number.Shortest

/-! # Values

What a pipeline hands over for publication: primitives of ten kinds, lists, maps with text keys, and
application objects that are known by their type name, their text and, if they have one, their
serialized form. `Value.display` is the text of a value; `Value.flatten` lists a value and
everything inside its maps under dotted names.
-/

namespace Sluice

/-- An application object. -/
structure AppObject where
  /-- The name of its type. -/
  typeName : String
  /-- Its text. -/
  display : String
  /-- What its serializer returns; none if it has no serializer. -/
  serialized : Option (Except String Bytes)

/-- A value bound in an execution context. -/
inductive Value where
  | string (s : String)
  | int (n : Int32)
  | long (n : Int64)
  | double (x : Double)
  | float (x : Single)
  | boolean (b : Bool)
  | short (n : Int16)
  | byte (n : Int8)
  | char (c : Char)
  | bytes (data : Bytes)
  | list (items : List Value)
  /-- The entries stand in increasing key order (`Value.Ordered`). -/
  | map (entries : List (String × Value))
  | object (o : AppObject)

namespace Value

/-- The map of a list of entries, in which of two entries with one key the later stays. -/
def ofEntries (entries : List (String × Value)) : Value := .map (Keyed.ofList entries).entries

mutual

/-- Every map inside the value lists its entries in increasing key order. -/
def Ordered : Value → Prop
  | .list items => OrderedItems items
  | .map entries => entries.Pairwise (fun a b => a.1 < b.1) ∧ OrderedEntries entries
  | _ => True

def OrderedItems : List Value → Prop
  | [] => True
  | v :: rest => v.Ordered ∧ OrderedItems rest

def OrderedEntries : List (String × Value) → Prop
  | [] => True
  | (_, v) :: rest => v.Ordered ∧ OrderedEntries rest

end

/-- The name of the kind of a value, or of the type of an object. -/
def typeName : Value → String
  | .string _ => "string"
  | .int _ => "int"
  | .long _ => "long"
  | .double _ => "double"
  | .float _ => "float"
  | .boolean _ => "boolean"
  | .short _ => "short"
  | .byte _ => "byte"
  | .char _ => "char"
  | .bytes _ => "bytes"
  | .list _ => "list"
  | .map _ => "map"
  | .object o => o.typeName

def entries? : Value → Option (List (String × Value))
  | .map entries => some entries
  | _ => none

def booleanText (b : Bool) : String := if b then "true" else "false"

mutual

/-- The text of a value: primitives in their plain form, lists in brackets, maps in braces. -/
def display : Value → String
  | .string s => s
  | .int n => toString n.toInt
  | .long n => toString n.toInt
  | .double x => x.render
  | .float x => x.render
  | .boolean b => booleanText b
  | .short n => toString n.toInt
  | .byte n => toString n.toInt
  | .char c => String.singleton c
  | .bytes data => Bytes.render data
  | .list items => "[" ++ ", ".intercalate (displayItems items) ++ "]"
  | .map entries => "\x7b" ++ ", ".intercalate (displayEntries entries) ++ "\x7d"
  | .object o => o.display

def displayItems : List Value → List String
  | [] => []
  | v :: rest => v.display :: displayItems rest

/-- The texts of the entries of a map, each behind its key and a colon. -/
def displayEntries : List (String × Value) → List String
  | [] => []
  | (key, v) :: rest => (key ++ ": " ++ v.display) :: displayEntries rest

end

mutual

/-- The value under `name`, then, for a map, every entry under `name`, a dot and its key, and so on
inside the entries. -/
def flatten (name : String) : Value → List (String × String)
  | .map entries => (name, (Value.map entries).display) :: flattenEntries name entries
  | v => [(name, v.display)]

/-- The entries of a map under dotted names. -/
def flattenEntries (name : String) : List (String × Value) → List (String × String)
  | [] => []
  | (key, v) :: rest => v.flatten (name ++ "." ++ key) ++ flattenEntries name rest

end

end Value

abbrev Context := Keyed Value

end Sluice
