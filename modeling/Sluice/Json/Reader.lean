import Sluice.Json.Fault
import Sluice.Keyed
import Sluice.Number.Rounding
import Sluice.Text.Numeral

/-! # Reading JSON

Readers take what they ask for from the front of a document. The first problem from left to right is
the one reported, by its class: malformed, ended too early, or not what was asked for. A value that
nobody asks for is skipped by looser rules: its numbers may have any size, and escapes in its
strings need not pair up.
-/

namespace Sluice.Json

/-- Takes a value from the front of a JSON document. -/
abbrev Reader (α : Type) := StateT (List Char) (Except JsonFault) α

def Reader.fail {α : Type} (fault : JsonFault) : Reader α := fun _ => .error fault

/-- Whether a character may stand between tokens. -/
def isSpace (c : Char) : Bool := c = ' ' || c = '\n' || c = '\t' || c = '\r'

def skipSpace : Reader Unit := fun cs => .ok ((), cs.dropWhile isSpace)

/-- The next character, left in its place. -/
def peek? : Reader (Option Char) := fun cs => .ok (cs.head?, cs)

/-- The next character behind white space, left in its place. -/
def token? : Reader (Option Char) := do
  skipSpace
  peek?

def advance : Reader Unit := fun cs => .ok ((), cs.tail)

def readWord : List Char → Reader Unit
  | [], cs => .ok ((), cs)
  | _ :: _, [] => .error .ended
  | w :: word, c :: rest => if c = w then readWord word rest else .error .syntaxError

/-! ## Strings -/

def unescape? (c : Char) : Option Char :=
  if c = '"' then some '"'
  else if c = '\\' then some '\\'
  else if c = '/' then some '/'
  else if c = 'b' then some '\x08'
  else if c = 'f' then some '\x0c'
  else if c = 'n' then some '\n'
  else if c = 'r' then some '\r'
  else if c = 't' then some '\t'
  else none

def hexNumber? (a b c d : Char) : Option Nat := do
  let a ← Text.hexValue? a
  let b ← Text.hexValue? b
  let c ← Text.hexValue? c
  let d ← Text.hexValue? d
  return ((a * 16 + b) * 16 + c) * 16 + d

/-- What is wrong where four hexadecimal digits should stand: with less than four bytes left the
document has ended. -/
def hexFault (cs : List Char) : JsonFault :=
  if 4 ≤ (String.ofList cs).utf8ByteSize then .syntaxError else .ended

/-- Whether a number is the first half of a pair of escapes. -/
def isHighHalf (n : Nat) : Bool := 0xd800 ≤ n && n ≤ 0xdbff

/-- Whether a number is the second half of a pair of escapes. -/
def isLowHalf (n : Nat) : Bool := 0xdc00 ≤ n && n ≤ 0xdfff

/-- The character of a pair of escapes. -/
def joinHalves (high low : Nat) : Char :=
  Char.ofNat ((high - 0xd800) * 0x400 + (low - 0xdc00) + 0x10000)

/-- Read the rest of a string, behind its opening quote. -/
def readStringRest : List Char → Except JsonFault (List Char × List Char)
  | [] => .error .ended
  | '"' :: rest => .ok ([], rest)
  | '\\' :: 'u' :: a :: b :: c :: d :: rest =>
      match hexNumber? a b c d with
      | none => .error (hexFault (a :: b :: c :: d :: rest))
      | some n =>
          if isLowHalf n then .error .syntaxError
          else if isHighHalf n then
            match rest with
            | [] => .error .ended
            | ['\\'] => .error .ended
            | '\\' :: 'u' :: a' :: b' :: c' :: d' :: rest' =>
                match hexNumber? a' b' c' d' with
                | none => .error (hexFault (a' :: b' :: c' :: d' :: rest'))
                | some m =>
                    if isLowHalf m then
                      (readStringRest rest').map fun r => (joinHalves n m :: r.1, r.2)
                    else .error .syntaxError
            | '\\' :: 'u' :: rest' => .error (hexFault rest')
            | _ => .error .syntaxError
          else (readStringRest rest).map fun r => (Char.ofNat n :: r.1, r.2)
  | '\\' :: 'u' :: rest => .error (hexFault rest)
  | ['\\'] => .error .ended
  | '\\' :: c :: rest =>
      match unescape? c with
      | none => .error .syntaxError
      | some x => (readStringRest rest).map fun r => (x :: r.1, r.2)
  | c :: rest =>
      if c.toNat < 0x20 then .error .syntaxError
      else (readStringRest rest).map fun r => (c :: r.1, r.2)

/-- Skip the rest of a string, behind its opening quote. -/
def skipStringRest : List Char → Except JsonFault (List Char)
  | [] => .error .ended
  | '"' :: rest => .ok rest
  | '\\' :: 'u' :: a :: b :: c :: d :: rest =>
      match hexNumber? a b c d with
      | none => .error (hexFault (a :: b :: c :: d :: rest))
      | some _ => skipStringRest rest
  | '\\' :: 'u' :: rest => .error (hexFault rest)
  | ['\\'] => .error .ended
  | '\\' :: c :: rest =>
      match unescape? c with
      | none => .error .syntaxError
      | some _ => skipStringRest rest
  | c :: rest => if c.toNat < 0x20 then .error .syntaxError else skipStringRest rest

/-! ## Numbers -/

/-- A number of a document. -/
inductive Number where
  /-- Written without fraction and exponent, and not too big. -/
  | whole (n : Int)
  /-- Any other. -/
  | fractional

/-- The digits at the front, and what follows them. -/
def spanDigits (cs : List Char) : List Char × List Char := cs.span Char.isDigit

def digitsValue (digits : List Char) : Nat :=
  digits.foldl (fun n c => 10 * n + (c.toNat - '0'.toNat)) 0

/-- A number below which significands are kept. -/
def significandBound : Nat := Nat.pow 2 64

/-- Append digits to a significand as long as it stays below the bound: the significand, and how
many digits were taken. -/
def takeDigits (significand : Nat) : List Char → Nat × Nat
  | [] => (significand, 0)
  | c :: rest =>
      let next := digitsValue [c] + 10 * significand
      if next < significandBound then
        let (total, taken) := takeDigits next rest
        (total, taken + 1)
      else (significand, 0)

/-- The least magnitude that lies beyond the doubles, half a step above the greatest of them. -/
def beyondDoubles : Nat := Nat.pow 2 1024 - Nat.pow 2 970

def doubleDigits : Nat := 53

def greatestPower : Nat := 308

/-- Whether `significand * 10 ^ exponent` lies beyond the doubles, if it is computed as the product
of two doubles. -/
def isBeyondDoubles (significand : Nat) (exponent : Int) : Bool :=
  if exponent < 0 then false
  else if (greatestPower : Int) < exponent then significand ≠ 0
  else
    beyondDoubles ≤
      roundToBits doubleDigits significand * roundToBits doubleDigits (Nat.pow 10 exponent.toNat)

/-- A number that was read with a fraction or an exponent, or that is a long whole number. -/
def fractional (significand : Nat) (exponent : Int) (rest : List Char) :
    Except JsonFault (Number × List Char) :=
  if isBeyondDoubles significand exponent then .error .syntaxError else .ok (.fractional, rest)

/-- A number below which exponents are kept. -/
def exponentBound : Nat := Nat.pow 2 31

/-- Read an exponent, behind its letter; `place` is the exponent without it. One that leaves its
bound makes every number too big or nothing. -/
def readExponent (significand : Nat) (place : Int) (cs : List Char) :
    Except JsonFault (Number × List Char) :=
  let (negative, cs) :=
    match cs with
    | '+' :: rest => (false, rest)
    | '-' :: rest => (true, rest)
    | _ => (false, cs)
  match spanDigits cs with
  | ([], []) => .error .ended
  | ([], _) => .error .syntaxError
  | (digits, rest) =>
      let exponent := digitsValue digits
      if negative then fractional significand (place - exponent) rest
      else if exponentBound ≤ exponent then fractional significand exponent rest
      else fractional significand (place + exponent) rest

/-- Read an exponent if there is one. -/
def readScale (significand : Nat) (place : Int) (cs : List Char) :
    Except JsonFault (Number × List Char) :=
  match cs with
  | 'e' :: rest => readExponent significand place rest
  | 'E' :: rest => readExponent significand place rest
  | _ => fractional significand place cs

/-- Read the rest of a number, behind its whole part. -/
def readFraction (negative : Bool) (whole : List Char) (cs : List Char) :
    Except JsonFault (Number × List Char) :=
  let (significand, taken) := takeDigits 0 whole
  let place : Int := ((whole.length - taken : Nat) : Int)
  match cs with
  | '.' :: rest =>
      match spanDigits rest with
      | ([], []) => .error .ended
      | ([], _) => .error .syntaxError
      | (digits, rest) =>
          let (significand, taken) := takeDigits significand digits
          readScale significand (place - taken) rest
  | 'e' :: _ => readScale significand place cs
  | 'E' :: _ => readScale significand place cs
  | _ =>
      if 0 < place then fractional significand place cs
      else if !negative then .ok (.whole significand, cs)
      else if 0 < significand ∧ significand ≤ Nat.pow 2 63 then
        .ok (.whole (-(significand : Int)), cs)
      else .ok (.fractional, cs)

def readNumberRest (negative : Bool) (cs : List Char) : Except JsonFault (Number × List Char) :=
  match spanDigits cs with
  | ([], []) => .error .ended
  | ([], _) => .error .syntaxError
  | ('0' :: _ :: _, _) => .error .syntaxError
  | (whole, rest) => readFraction negative whole rest

def readNumber : Reader Number
  | '-' :: rest => readNumberRest true rest
  | cs => readNumberRest false cs

def skipDigits (cs : List Char) : Except JsonFault (List Char) :=
  match spanDigits cs with
  | ([], _) => .error .syntaxError
  | (_, rest) => .ok rest

/-- Skip the exponent of a number, if there is one. -/
def skipExponent (cs : List Char) : Except JsonFault (List Char) :=
  match cs with
  | c :: rest =>
      if c = 'e' ∨ c = 'E' then
        match rest with
        | '+' :: rest => skipDigits rest
        | '-' :: rest => skipDigits rest
        | _ => skipDigits rest
      else .ok cs
  | [] => .ok cs

def skipNumberRest (cs : List Char) : Except JsonFault (List Char) :=
  match spanDigits cs with
  | ([], _) => .error .syntaxError
  | ('0' :: _ :: _, _) => .error .syntaxError
  | (_, '.' :: rest) => (skipDigits rest).bind skipExponent
  | (_, rest) => skipExponent rest

/-! ## Values that nobody asks for -/

mutual

/-- Skip a value; `depth` bounds the work. -/
def skipValue : Nat → List Char → Except JsonFault (List Char)
  | 0, _ => .error .ended
  | depth + 1, cs =>
      match cs.dropWhile isSpace with
      | [] => .error .ended
      | 'n' :: rest => (readWord "ull".toList rest).map Prod.snd
      | 't' :: rest => (readWord "rue".toList rest).map Prod.snd
      | 'f' :: rest => (readWord "alse".toList rest).map Prod.snd
      | '"' :: rest => skipStringRest rest
      | '-' :: rest => skipNumberRest rest
      | '[' :: rest =>
          match rest.dropWhile isSpace with
          | [] => .error .ended
          | ']' :: rest => .ok rest
          | rest => skipItems depth rest
      | '\x7b' :: rest =>
          match rest.dropWhile isSpace with
          | [] => .error .ended
          | '\x7d' :: rest => .ok rest
          | rest => skipMembers depth rest
      | c :: rest => if c.isDigit then skipNumberRest (c :: rest) else .error .syntaxError

/-- Skip the items of an array and its end. -/
def skipItems : Nat → List Char → Except JsonFault (List Char)
  | 0, _ => .error .ended
  | depth + 1, cs =>
      match skipValue depth cs with
      | .error fault => .error fault
      | .ok rest =>
          match rest.dropWhile isSpace with
          | [] => .error .ended
          | ',' :: rest => skipItems depth rest
          | ']' :: rest => .ok rest
          | _ => .error .syntaxError

/-- Skip the members of an object and its end. -/
def skipMembers : Nat → List Char → Except JsonFault (List Char)
  | 0, _ => .error .ended
  | depth + 1, cs =>
      match cs.dropWhile isSpace with
      | [] => .error .ended
      | '"' :: rest =>
          match skipStringRest rest with
          | .error fault => .error fault
          | .ok rest =>
              match rest.dropWhile isSpace with
              | [] => .error .ended
              | ':' :: rest =>
                  match skipValue depth rest with
                  | .error fault => .error fault
                  | .ok rest =>
                      match rest.dropWhile isSpace with
                      | [] => .error .ended
                      | ',' :: rest => skipMembers depth rest
                      | '\x7d' :: rest => .ok rest
                      | _ => .error .syntaxError
              | _ => .error .syntaxError
      | _ => .error .syntaxError

end

def skip : Reader Unit := fun cs => (skipValue (2 * cs.length + 1) cs).map (fun rest => ((), rest))

/-! ## Values that are asked for -/

/-- Report the next value as not being what was asked for, provided that it is well formed. -/
def mismatch {α : Type} : Reader α := fun cs =>
  match cs with
  | [] => .error .syntaxError
  | 'n' :: rest => (readWord "ull".toList rest).bind (fun _ => .error .data)
  | 't' :: rest => (readWord "rue".toList rest).bind (fun _ => .error .data)
  | 'f' :: rest => (readWord "alse".toList rest).bind (fun _ => .error .data)
  | '"' :: rest => (readStringRest rest).bind (fun _ => .error .data)
  | '[' :: _ => .error .data
  | '\x7b' :: _ => .error .data
  | c :: rest =>
      if c = '-' ∨ c.isDigit then (readNumber (c :: rest)).bind (fun _ => .error .data)
      else .error .syntaxError

def readString : Reader String := do
  match ← token? with
  | none => Reader.fail .ended
  | some '"' =>
      advance
      fun cs => (readStringRest cs).map (fun r => (String.ofList r.1, r.2))
  | some _ => mismatch

/-- Read a whole number from `least` to `greatest`. -/
def readWhole (least greatest : Int) : Reader Int := do
  match ← token? with
  | none => Reader.fail .ended
  | some c =>
      if c = '-' ∨ c.isDigit then
        match ← readNumber with
        | .whole n => if least ≤ n ∧ n ≤ greatest then return n else Reader.fail .data
        | .fractional => Reader.fail .data
      else mismatch

def readBool : Reader Bool := do
  match ← token? with
  | none => Reader.fail .ended
  | some 't' =>
      advance
      readWord "rue".toList
      return true
  | some 'f' =>
      advance
      readWord "alse".toList
      return false
  | some _ => mismatch

def readNull : Reader Unit := do
  match ← token? with
  | none => Reader.fail .ended
  | some 'n' =>
      advance
      readWord "ull".toList
  | some _ => mismatch

def readOptional {α : Type} (value : Reader α) : Reader (Option α) := do
  match ← token? with
  | some 'n' =>
      readNull
      return none
  | _ => return some (← value)

def readColon : Reader Unit := do
  match ← token? with
  | none => Reader.fail .ended
  | some ':' => advance
  | some _ => Reader.fail .syntaxError

/-- Step to the next key of an object: whether there is one. -/
def nextKey (first : Bool) : Reader Bool := do
  match ← token? with
  | none => Reader.fail .ended
  | some '\x7d' => return false
  | some c =>
      if first then
        if c = '"' then return true else Reader.fail .syntaxError
      else if c = ',' then
        advance
        match ← token? with
        | none => Reader.fail .ended
        | some '"' => return true
        | some _ => Reader.fail .syntaxError
      else Reader.fail .syntaxError

/-- Step to the next item of an array: whether there is one. -/
def nextItem (first : Bool) : Reader Bool := do
  match ← token? with
  | none => Reader.fail .ended
  | some ']' => return false
  | some c =>
      if first then return true
      else if c = ',' then
        advance
        match ← token? with
        | none => Reader.fail .ended
        | some ']' => Reader.fail .syntaxError
        | some _ => return true
      else Reader.fail .syntaxError

/-- Take the end of an array of which no more items are wanted. -/
def endArray : Reader Unit := do
  match ← token? with
  | none => Reader.fail .ended
  | some ']' => advance
  | some _ => Reader.fail .syntaxError

/-- Take the end of an object, which `nextKey` has found. -/
def endObject : Reader Unit := do
  match ← token? with
  | none => Reader.fail .ended
  | some '\x7d' => advance
  | some _ => Reader.fail .syntaxError

/-- Read the entries of an object, each by the reader of values; `work` bounds their number. -/
def readEntries {α : Type} (value : Reader α) : Nat → Bool → Reader (List (String × α))
  | 0, _ => Reader.fail .ended
  | work + 1, first => do
      if ← nextKey first then
        let key ← readString
        readColon
        let x ← value
        let rest ← readEntries value work false
        return (key, x) :: rest
      else return []

/-- Read an object as a map; of two entries with one key the later stays. -/
def readMap {α : Type} (value : Reader α) : Reader (Keyed α) := do
  match ← token? with
  | none => Reader.fail .ended
  | some '\x7b' =>
      advance
      let entries ← fun cs => readEntries value (cs.length + 1) true cs
      endObject
      return Keyed.ofList entries
  | some _ => mismatch

/-- Read a name out of a table, alone or as the key of an object whose value is `null`. -/
def readName {α : Type} (table : List (String × α)) : Reader α := do
  match ← token? with
  | none => Reader.fail .ended
  | some '"' => named
  | some '\x7b' =>
      advance
      let x ← named
      readColon
      readNull
      match ← token? with
      | none => Reader.fail .ended
      | some '\x7d' =>
          advance
          return x
      | some _ => Reader.fail .syntaxError
  | some _ => Reader.fail .syntaxError
where
  named : Reader α := do
    let name ← readString
    match Keyed.findIn name table with
    | some x => return x
    | none => Reader.fail .data

/-! ## Records -/

/-- A field of a record: its name, and how it is read into a record that is being filled. -/
structure RecordField (σ : Type) where
  name : String
  read : σ → Reader σ

/-- Read the members of a record; a known one may stand once only and unknown ones are skipped.
`work` bounds their number. -/
def readMembers {σ : Type} (fields : List (RecordField σ)) :
    Nat → Bool → List String → σ → Reader (σ × List String)
  | 0, _, _, _ => Reader.fail .ended
  | work + 1, first, seen, x => do
      if ← nextKey first then
        let key ← readString
        match fields.find? (fun f => f.name = key) with
        | some f =>
            if key ∈ seen then Reader.fail .data
            else
              readColon
              let next ← f.read x
              readMembers fields work false (key :: seen) next
        | none =>
            readColon
            skip
            readMembers fields work false seen x
      else return (x, seen)

/-- Read the items of a record that is written as an array of its fields, and say which fields were
there. -/
def readItems {σ : Type} : List (RecordField σ) → Bool → List String → σ → Reader (σ × List String)
  | [], _, seen, x => return (x, seen)
  | f :: fields, first, seen, x => do
      if ← nextItem first then
        let next ← f.read x
        readItems fields false (f.name :: seen) next
      else return (x, seen)

/-- Read a record that starts as `blank`. All fields in `required` have to be there. -/
def readRecord {σ : Type} (fields : List (RecordField σ)) (required : List String) (blank : σ) :
    Reader σ := do
  match ← token? with
  | none => Reader.fail .ended
  | some '[' =>
      advance
      let (x, seen) ← readItems fields true [] blank
      if required.all (· ∈ seen) then
        endArray
        return x
      else Reader.fail .data
  | some '\x7b' =>
      advance
      let (x, seen) ← fun cs => readMembers fields (cs.length + 1) true [] blank cs
      if required.all (· ∈ seen) then
        endObject
        return x
      else Reader.fail .data
  | some _ => mismatch

/-- Read a whole document, behind which nothing but white space may stand. -/
def readDocument {α : Type} (value : Reader α) (text : String) : Except JsonFault α :=
  match value text.toList with
  | .error fault => .error fault
  | .ok (x, rest) => if rest.all isSpace then .ok x else .error .syntaxError

end Sluice.Json
