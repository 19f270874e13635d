import PaymentCredentials.Web.Address
import PaymentCredentials.Web.Domain
import PaymentCredentials.Web.Percent

/-!
Absolute addresses of the World Wide Web. What follows the host and the port is never at fault.
-/
namespace PaymentCredentials.Web.Url

/-- The kinds of schemes. -/
inductive SchemeKind
  /-- An address with a host that is a domain name. -/
  | web
  /-- A file, perhaps with a host. -/
  | file
  /-- Anything else. -/
  | other
  deriving DecidableEq

def SchemeKind.ofName (name : String) : SchemeKind :=
  if name ∈ ["http", "https", "ws", "wss", "ftp"] then .web
  else if name = "file" then .file
  else .other

/-- The characters of an address without control characters and spaces at its ends, and without tabs and
line ends. -/
def cleaned (s : String) : List Char :=
  let isSpace (c : Char) : Bool := c.toNat ≤ 32
  let cs := ((s.toList.dropWhile isSpace).reverse.dropWhile isSpace).reverse
  cs.filter fun c => c ≠ '\t' && c ≠ '\n' && c ≠ '\r'

/-- The scheme of an address in lower case, and what follows its colon. -/
def scheme? (cs : List Char) : Option (String × List Char) :=
  let isPart (c : Char) : Bool := c.isAlphanum || c == '+' || c == '-' || c == '.'
  match cs.dropWhile isPart with
  | ':' :: rest =>
    if cs.head?.any Char.isAlpha then
      some (String.ofList ((cs.takeWhile isPart).map Char.toLower), rest)
    else none
  | _ => none

/-- Whether a character ends the part of an address that names the host. -/
def endsAuthority (kind : SchemeKind) (c : Char) : Bool :=
  c == '/' || c == '?' || c == '#' || (kind ≠ .other && c == '\\')

/-- The text in brackets, if there are any, as an address. -/
def isBracketed (host : List Char) : Bool :=
  host.getLast? = some ']' && Address.isEightPieces (host.drop 1).dropLast

/-- Whether a host is a domain name or an address. -/
def isHost (host : List Char) : Bool :=
  if host.head? = some '[' then isBracketed host
  else
    match ofUtf8? (percentDecode (utf8 (String.ofList host))) with
    | none => false
    | some name =>
      match Domain.labels? name.toList with
      | none => false
      | some labels =>
        labels ≠ [[]] && (!Address.endsInNumber labels || Address.isFourParts labels)

/-- Whether a host of an address of any kind can be read. It may be empty. -/
def isOpaqueHost (host : List Char) : Bool :=
  if host.head? = some '[' then isBracketed host
  else host.all fun c => !"\x00\t\n\r #/:<>?@[\\]^|".toList.contains c

/-- Whether a port is a number of 16 bits. -/
def isPort (cs : List Char) : Bool :=
  let digits := cs.takeWhile fun c => c ≠ '/' && c ≠ '\\' && c ≠ '?' && c ≠ '#'
  match Address.number? 10 digits with
  | some n => n < 0x10000
  | none => false

/-- The characters of the host, up to a colon outside of brackets. -/
def hostLength (kind : SchemeKind) : (bracketed : Bool) → List Char → Nat
  | _, [] => 0
  | bracketed, c :: rest =>
    if (c = ':' ∧ bracketed = false) ∨ endsAuthority kind c = true then 0
    else 1 + hostLength kind (c == '[' || (bracketed && c ≠ ']')) rest

/-- Whether the host and the port are readable, in front of a path. With credentials there has to be a
host. -/
def isHostAndPort (kind : SchemeKind) (credentials : Bool) (cs : List Char) : Bool :=
  let host := cs.take (hostLength kind false cs)
  let rest := cs.drop (hostLength kind false cs)
  let hostFits :=
    if kind = .other then isOpaqueHost host && !(host.isEmpty && credentials)
    else !host.isEmpty && isHost host
  match rest with
  | ':' :: port => hostFits && !host.isEmpty && isPort port
  | _ => hostFits

/-- Whether what follows two slashes is readable: credentials up to the last at sign, a host and a
port. -/
def isAuthority (kind : SchemeKind) (cs : List Char) : Bool :=
  let authority := cs.takeWhile fun c => !endsAuthority kind c
  if authority.contains '@' then
    let host := (authority.reverse.takeWhile (· ≠ '@')).reverse
    let user := (authority.take (authority.length - host.length)).dropLast
    let rest := cs.drop (authority.length - host.length)
    if user.isEmpty && rest.head?.any (endsAuthority kind) then false
    else isHostAndPort kind (user ≠ [] && user ≠ [':']) rest
  else isHostAndPort kind false cs

/-- Whether a text is the letter of a drive. -/
def isDrive : List Char → Bool
  | [letter, mark] => letter.isAlpha && (mark == ':' || mark == '|')
  | _ => false

/-- Whether the host of a file, if there is one, is readable. -/
def isFile : List Char → Bool
  | a :: b :: rest =>
    if (a = '/' ∨ a = '\\') ∧ (b = '/' ∨ b = '\\') then
      let host := rest.takeWhile fun c => !endsAuthority .file c
      host.isEmpty || isDrive host || isHost host
    else true
  | _ => true

/-- Whether a text is an absolute address. -/
def isAbsolute (s : String) : Bool :=
  match scheme? (cleaned s) with
  | none => false
  | some (name, rest) =>
    match SchemeKind.ofName name with
    | .web => isAuthority .web (rest.dropWhile fun c => c == '/' || c == '\\')
    | .file => isFile rest
    | .other =>
      match rest with
      | '/' :: '/' :: authority => isAuthority .other authority
      | _ => true

end PaymentCredentials.Web.Url
