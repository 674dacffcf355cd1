/-
Module: BoxProbe.Session.Address
Purpose: Which addresses no connection can be opened to.
Main exports: Address, Address.ofUrl, Address.refusal?
-/
import BoxProbe.Failure.Basic
import BoxProbe.Session.HostName
import BoxProbe.Session.HostNumber

/-!
An address must be well formed, with a numeric host if there are any brackets, and it must have the
scheme `ws` or `wss`, a host, no fragment, a port that is a number up to 65535, a password if it
has a user name, both in UTF-8, and a host name with an ASCII form.  The first of these that fails,
in this order, is the failure of connecting.
-/

namespace BoxProbe

/-- The parts of an address. -/
structure Address where
  scheme : String
  /-- User name, password, host and port. -/
  authority : List Char
  fragment : List Char

namespace Address

/-- The characters before the first `c`, and those after it if there is one. -/
def cut (c : Char) (cs : List Char) : List Char × Option (List Char) :=
  match cs.dropWhile (· ≠ c) with
  | [] => (cs, none)
  | _ :: rest => (cs.takeWhile (· ≠ c), some rest)

/-- The characters before the last `c`, if there is one, and those after it. -/
def cutLast (c : Char) (cs : List Char) : Option (List Char) × List Char :=
  let (last, before) := cut c cs.reverse
  (before.map List.reverse, last.reverse)

/-- A character that a scheme may have after its first letter. -/
def isSchemeChar (c : Char) : Bool :=
  c.isAlphanum || c == '+' || c == '-' || c == '.'

/-- The scheme of an address in lower case, and the rest. -/
def cutScheme (cs : List Char) : String × List Char :=
  match cs, cut ':' cs with
  | c :: _, (scheme, some rest) =>
    if c.isAlpha && scheme.all isSchemeChar then (String.ofList (scheme.map Char.toLower), rest)
    else ("", cs)
  | _, _ => ("", cs)

/-- The parts of an address.  Control characters and spaces in front of it do not count, nor do tabs
and line ends inside. -/
def ofUrl (url : String) : Address :=
  let plain := (url.toList.dropWhile fun c => c.toNat ≤ 0x20).filter fun c =>
    c != '\t' && c != '\n' && c != '\r'
  let (scheme, rest) := cutScheme plain
  let (authority, path) :=
    match rest with
    | '/' :: '/' :: more =>
      let isEnd (c : Char) : Bool := c == '/' || c == '?' || c == '#'
      (more.takeWhile (!isEnd ·), more.dropWhile (!isEnd ·))
    | _ => ([], rest)
  { scheme, authority, fragment := (cut '#' path).2.getD [] }

/-- The user part of an authority, if it has one, and the host part. -/
def cutUser (a : Address) : Option (List Char) × List Char :=
  cutLast '@' a.authority

/-- The host of an address, and its port if there is one. -/
def hostAndPort (a : Address) : List Char × Option (List Char) :=
  let hostPart := a.cutUser.2
  let (host, port) :=
    match cut '[' hostPart with
    | (_, some bracketed) =>
      let (host, rest) := cut ']' bracketed
      (host, (rest.bind fun r => (cut ':' r).2))
    | (_, none) => cut ':' hostPart
  (host, port.filter (· ≠ []))

/-- Why a host that should be a number is refused. -/
def numberFailure? (host : List Char) : Option Failure :=
  if host.head? = some 'v' then
    if HostNumber.isFuture host then none
    else some (.ofMessage .value "IPvFuture address is invalid")
  else if HostNumber.isV4 host then
    some (.ofMessage .value "An IPv4 address cannot be in brackets")
  else if HostNumber.isV6 host then none
  else
    some (.plain .value [.str ((Text.ofString (String.ofList host)).quoted ++
      (" does not appear to be an IPv4 or IPv6 address" : Text))])

/-- Why brackets in an authority are refused: they come in pairs, they enclose the whole host, and
wherever they stand, the host is a number. -/
def bracketFailure? (a : Address) : Option Failure :=
  let opens := a.authority.contains '['
  let closes := a.authority.contains ']'
  if opens != closes then some (.ofMessage .value "Invalid IPv6 URL")
  else if opens then
    let hostPart := a.cutUser.2
    match cut '[' hostPart with
    | (before, some bracketed) =>
      let (host, rest) := cut ']' bracketed
      if before ≠ [] ∨ rest.any (fun r => !r.isEmpty && r.head? ≠ some ':') then
        some (.ofMessage .value "Invalid IPv6 URL")
      else numberFailure? host
    | (_, none) => numberFailure? (cut ':' hostPart).1
  else none

/-- Whether a character stands for others with a delimiter among them (those with `/`, `?`, `#`, `@`
or `:` in their compatibility decomposition in Unicode 14). -/
def hidesDelimiter (c : Char) : Bool :=
  [0x2047, 0x2048, 0x2049, 0x2100, 0x2101, 0x2105, 0x2106, 0x2A74, 0xFE13, 0xFE16, 0xFE55, 0xFE56,
    0xFE5F, 0xFE6B, 0xFF03, 0xFF0F, 0xFF1A, 0xFF1F, 0xFF20].contains c.toNat

/-- Why the characters of an authority are refused. -/
def characterFailure? (a : Address) : Option Failure :=
  if a.authority.any hidesDelimiter then
    some (.ofMessage .value ("netloc '" ++ String.ofList a.authority ++
      "' contains invalid characters under NFKC normalization"))
  else none

/-- Why a port is refused. -/
def portFailure? (port : List Char) : Option Failure :=
  if port.all Char.isDigit then
    if maxIntDigits < port.length then
      some (.ofMessage .value (Numeral.tooManyDigits port.length))
    else if Numeral.natOf port ≤ 65535 then none
    else some (.ofMessage .value "Port out of range 0-65535")
  else
    some (.plain .value [.str (("Port could not be cast to integer value as " : Text) ++
      (Text.ofString (String.ofList port)).quoted)])

/-- The bytes of an ASCII text, in which a percent sign with two hexadecimal digits is a byte. -/
def unescaped : List Char → List UInt8
  | [] => []
  | '%' :: a :: b :: rest =>
    match hexValue? a, hexValue? b with
    | some high, some low => (16 * high + low).toUInt8 :: unescaped rest
    | _, _ => '%'.toNat.toUInt8 :: unescaped (a :: b :: rest)
  | c :: rest => c.toNat.toUInt8 :: unescaped rest

/-- Why a user name or a password is refused: a part of it in ASCII is no UTF-8. -/
def escapeFailure? (text : List Char) : Option Failure :=
  (pieces (0x80 ≤ ·.toNat) text).findSome? fun part =>
    let bytes := unescaped part
    (Utf8.flaw? bytes).map (Failure.notUtf8 bytes)

/-- The failure of an address that is none for a connection. -/
def invalid (url reason : String) : Failure :=
  .badAddress (Json.ofString url) (Json.ofString reason)

/-- Why the user part of an address is refused. -/
def userFailure? (url : String) (user : List Char) : Option Failure :=
  match cut ':' user with
  | (_, none) => some (invalid url "username provided without password")
  | (name, some password) => (escapeFailure? name).or (escapeFailure? password)

/-- Why a host name is refused. -/
def nameFailure? (host : List Char) : Option Failure :=
  (HostName.flaw? host).map fun flaw =>
    .plain .unicode [.str (("encoding with 'idna' codec failed (UnicodeError: " : Text) ++
      flaw.message ++ (")" : Text))]

/-- The failure of connecting to an address that is refused before any connection is tried. -/
def refusal? (url : String) : Option Failure :=
  let a := ofUrl url
  let (host, port) := a.hostAndPort
  match a.bracketFailure?.or a.characterFailure? with
  | some f => some f
  | none =>
    if a.scheme ≠ "ws" ∧ a.scheme ≠ "wss" then some (invalid url "scheme isn't ws or wss")
    else if host = [] then some (invalid url "hostname isn't provided")
    else if a.fragment ≠ [] then some (invalid url "fragment identifier is meaningless")
    else
      (port.bind portFailure?).or
        ((a.cutUser.1.bind (userFailure? url)).or (nameFailure? host))

end Address

end BoxProbe
