import Sluice.Bytes
import Sluice.Domain.Basic
import Sluice.Url.Address

/-! # Hosts

The host of a URL is an address in brackets or a name. Where the scheme of the URL is known, the
name is that of a domain or spells an address; elsewhere any text without the characters that
separate the parts of a URL will do.
-/

namespace Sluice

/-- Why a text is no URL. -/
inductive UrlFault where
  /-- There is no scheme in front. -/
  | noScheme
  /-- A port or a name in front of a host is given, but no host. -/
  | emptyHost
  /-- What follows the host is no port. -/
  | invalidPort
  /-- The brackets around a host hold no address. -/
  | invalidIpv6
  /-- The host ends in a number and is no address. -/
  | invalidIpv4
  /-- The host contains a character that no host contains. -/
  | invalidHostCharacter
  /-- The host is no domain name. -/
  | invalidDomain
deriving DecidableEq, Repr

def UrlFault.message : UrlFault → String
  | .noScheme => "relative URL without a base"
  | .emptyHost => "empty host"
  | .invalidPort => "invalid port number"
  | .invalidIpv6 => "invalid IPv6 address"
  | .invalidIpv4 => "invalid IPv4 address"
  | .invalidHostCharacter => "invalid domain character"
  | .invalidDomain => "invalid international domain name"

namespace Url

def isForbiddenInHost (c : Char) : Bool :=
  c ∈ ['\x00', '\t', '\n', '\r', ' ', '#', '/', ':', '<', '>', '?', '@', '[', '\\', ']', '^', '|']

/-- Whether no name of a domain contains a character. -/
def isForbiddenInDomain (c : Char) : Bool :=
  isForbiddenInHost c || c = '%' || c.toNat < 0x20 || c.toNat = 0x7f

/-- The bytes of a text in which a percent sign with two hexadecimal digits stands for a byte. -/
def unescape : List Char → Bytes
  | '%' :: a :: b :: rest =>
      match Text.hexValue? a, Text.hexValue? b with
      | some x, some y => UInt8.ofNat (16 * x + y) :: unescape rest
      | _, _ => Bytes.ofString "%" ++ unescape (a :: b :: rest)
  | c :: rest => Bytes.ofString (String.singleton c) ++ unescape rest
  | [] => []

/-- Check an address in brackets, behind the opening one. -/
def checkBrackets (cs : List Char) : Except UrlFault Unit :=
  if cs.getLast? = some ']' && isBracketed cs.dropLast then .ok () else .error .invalidIpv6

def checkLabels (labels : List (List Char)) : Except UrlFault Unit :=
  if labels = [[]] then .error .emptyHost
  else if endsInNumber labels && !isAddress labels then .error .invalidIpv4
  else .ok ()

/-- Check a host that is a domain or an address. -/
def checkDomain : List Char → Except UrlFault Unit
  | '[' :: rest => checkBrackets rest
  | host =>
      match (unescape host).toString?.bind fun name =>
          Domain.labels? isForbiddenInDomain name.toList with
      | none => .error .invalidDomain
      | some labels => checkLabels labels

/-- Check a host of which nothing is known but that it is one. -/
def checkPlainHost : List Char → Except UrlFault Unit
  | '[' :: rest => checkBrackets rest
  | host => if host.any isForbiddenInHost then .error .invalidHostCharacter else .ok ()

end Url

end Sluice
