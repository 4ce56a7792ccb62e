/-! # Byte sequences -/

namespace Sluice

abbrev Bytes := List UInt8

/-- The bytes as decimal numbers in brackets. -/
def Bytes.render (bytes : Bytes) : String :=
  "[" ++ ", ".intercalate (bytes.map (fun b => toString b.toNat)) ++ "]"

def Bytes.ofString (s : String) : Bytes := s.toUTF8.toList

/-- The least and the greatest byte that can follow the first byte of a character of several bytes,
and how many bytes follow it; none if no such character starts with it. -/
def Bytes.continuation? (first : UInt8) : Option (Nat × Nat × Nat) :=
  let b := first.toNat
  if b < 0xc2 then none
  else if b < 0xe0 then some (0x80, 0xbf, 1)
  else if b = 0xe0 then some (0xa0, 0xbf, 2)
  else if b = 0xed then some (0x80, 0x9f, 2)
  else if b < 0xf0 then some (0x80, 0xbf, 2)
  else if b = 0xf0 then some (0x90, 0xbf, 3)
  else if b < 0xf4 then some (0x80, 0xbf, 3)
  else if b = 0xf4 then some (0x80, 0x8f, 3)
  else none

/-- How many of the bytes behind the first byte of a character belong to it: the first of them lies
within bounds of its own, the others are any continuation bytes. -/
def Bytes.following (low high : Nat) : Nat → List UInt8 → Nat
  | 0, _ => 0
  | _ + 1, [] => 0
  | count + 1, b :: rest =>
      if low ≤ b.toNat && b.toNat ≤ high then following 0x80 0xbf count rest + 1 else 0

/-- The characters of a byte sequence, in which each longest part that begins a character but does
not complete it, and each byte that begins none, counts as one replacement character. -/
def Bytes.lossyChars (bytes : List UInt8) : List Char :=
  match bytes with
  | [] => []
  | b :: rest =>
      if b.toNat < 0x80 then Char.ofNat b.toNat :: lossyChars rest
      else
        match continuation? b with
        | none => '\ufffd' :: lossyChars rest
        | some (low, high, count) =>
            let taken := following low high count rest
            let c :=
              match String.fromUTF8? ⟨(b :: rest.take taken).toArray⟩ with
              | some s => s.toList.headD '\ufffd'
              | none => '\ufffd'
            c :: lossyChars (rest.drop taken)
termination_by bytes.length
decreasing_by all_goals (simp only [List.length_cons, List.length_drop]; omega)

/-- The text of a byte sequence, with a replacement character for whatever is not well formed. -/
def Bytes.toLossyString (bytes : Bytes) : String := String.ofList (lossyChars bytes)

/-- The text of which these are the UTF-8 bytes, if they are well formed. -/
def Bytes.toString? (bytes : Bytes) : Option String := String.fromUTF8? ⟨bytes.toArray⟩

end Sluice
