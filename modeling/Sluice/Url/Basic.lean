import Sluice.Url.Host

/-! # URLs

The parts of a URL that tell how a service is reached: its scheme and its query. A URL is cut up by
the general rules of the web; what stands between scheme and query only has to be well formed.
-/

namespace Sluice

/-- A URL, as far as it matters here. -/
structure Url where
  /-- The scheme in small letters. -/
  scheme : String
  /-- What stands behind the first question mark, up to a number sign. -/
  query : Option (List Char)
deriving DecidableEq

namespace Url

/-! ### The scheme -/

/-- Whether a character is a control character or a space. -/
def isPadding (c : Char) : Bool := c.toNat ≤ 0x20

/-- The characters that are read: padding at the ends, tabs and line ends do not count. -/
def significant (cs : List Char) : List Char :=
  (((cs.dropWhile isPadding).reverse.dropWhile isPadding).reverse).filter
    fun c => !(c = '\t' || c = '\n' || c = '\r')

/-- Whether a character can stand in a scheme behind its first letter. -/
def isSchemeChar (c : Char) : Bool := c.isAlphanum || c = '+' || c = '-' || c = '.'

/-- Split a scheme from what stands behind its colon. -/
def splitScheme (cs : List Char) : Option (String × List Char) :=
  match cs.takeWhile isSchemeChar, cs.dropWhile isSchemeChar with
  | c :: rest, ':' :: tail =>
      if c.isAlpha then some (String.ofList ((c :: rest).map Char.toLower), tail) else none
  | _, _ => none

/-- What the scheme of a URL says about the part behind it. -/
inductive SchemeKind where
  /-- The scheme of files: a host may be named, without user and port. -/
  | file
  /-- A scheme of the web: a host has to be named. -/
  | web
  /-- Any other scheme. -/
  | other
deriving DecidableEq, Repr

def SchemeKind.of (scheme : String) : SchemeKind :=
  if scheme = "file" then .file
  else if scheme ∈ ["http", "https", "ws", "wss", "ftp"] then .web
  else .other

/-! ### User, host and port -/

/-- Whether a character ends the part of a URL that names user, host and port. -/
def endsAuthority (kind : SchemeKind) (c : Char) : Bool :=
  c = '/' || c = '?' || c = '#' || (c = '\\' && kind ≠ .other)

/-- Whether nothing stands in front of the path. -/
def isAtPath (kind : SchemeKind) (cs : List Char) : Bool := cs.head?.any (endsAuthority kind)

/-- The user in front of the last at sign of the part that names the host, if there is one, and what
stands behind it. -/
def splitUser (kind : SchemeKind) (cs : List Char) : Option (List Char) × List Char :=
  let authority := cs.takeWhile fun c => !endsAuthority kind c
  if '@' ∈ authority then
    let host := authority.reverse.takeWhile (· ≠ '@')
    let behind := authority.length - host.length
    (some (authority.take (behind - 1)), cs.drop behind)
  else (none, cs)

/-- Whether a user has a name or a password; a colon between two empty ones is neither. -/
def isNamed (user : List Char) : Bool := user ≠ [] && user ≠ [':']

/-- The characters of a host and what stands behind it; a colon inside brackets is part of it. -/
def splitHost (kind : SchemeKind) : (bracketed : Bool) → List Char → List Char × List Char
  | _, [] => ([], [])
  | bracketed, c :: rest =>
      if (c = ':' && !bracketed) || endsAuthority kind c then ([], c :: rest)
      else
        let inside := if c = '[' then true else if c = ']' then false else bracketed
        let (host, tail) := splitHost kind inside rest
        (c :: host, tail)

/-- Check the port behind a colon; it ends where the path, the query or the fragment begins. -/
def checkPort (cs : List Char) : Except UrlFault Unit :=
  let digits := cs.takeWhile Char.isDigit
  let ends := (cs.dropWhile Char.isDigit).head?.all (endsAuthority .web)
  if ends && (digits.isEmpty || (Text.readNat 65535 (String.ofList digits)).isOk) then .ok ()
  else .error .invalidPort

/-- Check a host and the port behind it. A host is needed in the web, and wherever a user or a port
is given. -/
def checkHostAndPort (kind : SchemeKind) (hasUser : Bool) (cs : List Char) : Except UrlFault Unit :=
  let (host, tail) := splitHost kind false cs
  if host.isEmpty && (kind = .web || hasUser || tail.head? = some ':') then .error .emptyHost
  else
    match if kind = .other then checkPlainHost host else checkDomain host with
    | .error fault => .error fault
    | .ok _ => if tail.head? = some ':' then checkPort (tail.drop 1) else .ok ()

def checkAuthority (kind : SchemeKind) (cs : List Char) : Except UrlFault Unit :=
  match splitUser kind cs with
  | (none, rest) => checkHostAndPort kind false rest
  | (some user, rest) =>
      if user.isEmpty && isAtPath kind rest then .error .emptyHost
      else checkHostAndPort kind (isNamed user) rest

/-- Whether the place of a host holds the letter of a drive. -/
def isDrive (host : List Char) : Bool :=
  match host with
  | [letter, mark] => letter.isAlpha && (mark = ':' || mark = '|')
  | _ => false

def checkFileHost (cs : List Char) : Except UrlFault Unit :=
  let host := cs.takeWhile fun c => !endsAuthority .file c
  if host.isEmpty || isDrive host then .ok () else checkDomain host

/-- Whether a character is a slash of either direction. -/
def isSlash (c : Char) : Bool := c = '/' || c = '\\'

/-- Check what stands between the scheme and the path. -/
def checkPlace (scheme : String) (cs : List Char) : Except UrlFault Unit :=
  match SchemeKind.of scheme, cs with
  | .web, _ => checkAuthority .web (cs.dropWhile isSlash)
  | .file, first :: second :: rest =>
      if isSlash first && isSlash second then checkFileHost rest else .ok ()
  | .other, '/' :: '/' :: rest => checkAuthority .other rest
  | _, _ => .ok ()

/-! ### The whole -/

def queryOf (cs : List Char) : Option (List Char) :=
  match (cs.takeWhile (· ≠ '#')).dropWhile (· ≠ '?') with
  | [] => none
  | _ :: query => some query

def parse (s : String) : Except UrlFault Url :=
  match splitScheme (significant s.toList) with
  | none => .error .noScheme
  | some (scheme, rest) => (checkPlace scheme rest).map fun _ => ⟨scheme, queryOf rest⟩

end Url

end Sluice
