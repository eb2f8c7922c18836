import Scaffold.Url.Address
import Scaffold.Url.Domain
import Scaffold.Text.Octets

namespace Scaffold

open Text

-- Why a text is no URL.
inductive UrlFault
  | emptyHost
  | domain
  | port
  | ipv4
  | ipv6
  | character
  | relative
deriving DecidableEq, Repr

def UrlFault.message : UrlFault → String
  | emptyHost => "empty host"
  | domain => "invalid international domain name"
  | port => "invalid port number"
  | ipv4 => "invalid IPv4 address"
  | ipv6 => "invalid IPv6 address"
  | character => "invalid domain character"
  | relative => "relative URL without a base"

namespace Url

-- Schemes differ in how what follows them is read.
inductive Kind
  | special
  | file
  | other
deriving DecidableEq, Repr

def Kind.ofScheme (s : List Char) : Kind :=
  let s := String.ofList (s.map Char.toLower)
  if s = "file" then .file
  else if ["http", "https", "ws", "wss", "ftp"].contains s then .special
  else .other

-- The characters of a text that count.
def significant (s : List Char) : List Char :=
  let trimmed := ((s.dropWhile (· ≤ ' ')).reverse.dropWhile (· ≤ ' ')).reverse
  trimmed.filter fun c => c != '\t' && c != '\n' && c != '\r'

def isSchemeChar (c : Char) : Bool :=
  c.isAlphanum || c == '+' || c == '-' || c == '.'

-- A scheme and what follows its colon.
def scheme? (s : List Char) : Option (List Char × List Char) :=
  match cut ':' s with
  | some (c :: cs, rest) => if c.isAlpha && cs.all isSchemeChar then some (c :: cs, rest) else none
  | _ => none

def isSlash (c : Char) : Bool :=
  c == '/' || c == '\\'

-- Whether a character ends the authority of a URL.
def endsAuthority (special : Bool) (c : Char) : Bool :=
  c == '/' || c == '?' || c == '#' || (special && c == '\\')

-- A byte given by two hexadecimal digits after a percent sign. Other percent signs stay.
def percentDecode (acc : Octets) : Octets → Octets
  | [] => acc.reverse
  | 0x25 :: h :: l :: rest =>
    match digitValue? 16 (Char.ofNat h.toNat), digitValue? 16 (Char.ofNat l.toNat) with
    | some a, some b => percentDecode (UInt8.ofNat (a * 16 + b) :: acc) rest
    | _, _ => percentDecode (0x25 :: acc) (h :: l :: rest)
  | b :: rest => percentDecode (b :: acc) rest
termination_by s => s.length

-- Checks a host that stands between brackets.
def checkBracketed (rest : List Char) : Except UrlFault Unit :=
  if rest.getLast? = some ']' ∧ isIPv6 rest.dropLast then .ok () else .error .ipv6

-- Checks the host of a scheme that is known to have domains and addresses.
def checkHost (host : List Char) : Except UrlFault Unit :=
  match host with
  | '[' :: rest => checkBracketed rest
  | _ =>
    match (ofOctets? (percentDecode [] (octets (String.ofList host)))).bind fun s => labels? s.toList with
    | none => .error .domain
    | some [[]] => .error .emptyHost
    | some labels =>
      if endsInNumber labels && !isIPv4 labels then .error .ipv4 else .ok ()

def isForbiddenOpaque (c : Char) : Bool :=
  "\x00\t\n\r #/:<>?@[\\]^|".toList.contains c

-- Checks the host of a scheme of which nothing is known.
def checkOpaqueHost (host : List Char) : Except UrlFault Unit :=
  match host with
  | '[' :: rest => checkBracketed rest
  | _ => if host.any isForbiddenOpaque then .error .character else .ok ()

-- The host at the start of a text; a colon between brackets belongs to it.
def spanHost (special : Bool) : Bool → List Char → List Char → List Char × List Char
  | _, acc, [] => (acc.reverse, [])
  | inside, acc, c :: cs =>
    if endsAuthority special c || (c == ':' && !inside) then (acc.reverse, c :: cs)
    else spanHost special (c == '[' || (inside && c != ']')) (c :: acc) cs

def checkPort (s : List Char) : Except UrlFault Unit :=
  let digits := s.takeWhile Char.isDigit
  match numeral? 10 digits, s.drop digits.length with
  | some n, rest =>
    if n ≤ 65535 && (rest.head?.all fun c => isSlash c || c == '?' || c == '#') then .ok ()
    else .error .port
  | none, _ => .error .port

-- Checks the authority at the start of what follows two slashes: a user before the last `@`, a host, a
-- port.
def checkAuthority (special : Bool) (s : List Char) : Except UrlFault Unit := do
  let authority := s.takeWhile fun c => !endsAuthority special c
  let user? := (cut '@' authority.reverse).map fun (_, u) => u.reverse
  let rest := match user? with
    | some u => s.drop (u.length + 1)
    | none => s
  if user? = some [] ∧ rest.head?.any (endsAuthority special) then throw .emptyHost
  let (host, rest) := spanHost special false [] rest
  if host = [] then
    if special ∨ rest.head? = some ':' then throw .emptyHost
    if user?.any fun u => u != [] && u != [':'] then throw .emptyHost
  else if special then checkHost host
  else checkOpaqueHost host
  match rest with
  | ':' :: port => checkPort port
  | _ => return ()

def isDriveLetter (s : List Char) : Bool :=
  match s with
  | [c, d] => c.isAlpha && (d == ':' || d == '|')
  | _ => false

def checkFile (s : List Char) : Except UrlFault Unit :=
  match s with
  | a :: b :: rest =>
    let host := rest.takeWhile fun c => !endsAuthority true c
    if isSlash a && isSlash b && host != [] && !isDriveLetter host then checkHost host else .ok ()
  | _ => .ok ()

-- Checks that a text is an absolute URL.
def check (text : String) : Except UrlFault Unit :=
  match scheme? (significant text.toList) with
  | none => .error .relative
  | some (scheme, rest) =>
    match Kind.ofScheme scheme, rest with
    | .special, rest => checkAuthority true (rest.dropWhile isSlash)
    | .file, rest => checkFile rest
    | .other, '/' :: '/' :: rest => checkAuthority false rest
    | .other, _ => .ok ()

end Url
end Scaffold
