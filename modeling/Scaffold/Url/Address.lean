import Scaffold.Text.Cut

namespace Scaffold.Url

def digitValue? (radix : Nat) (c : Char) : Option Nat :=
  let n :=
    if c.isDigit then c.toNat - '0'.toNat
    else if 'a' ≤ c ∧ c ≤ 'f' then c.toNat - 'a'.toNat + 10
    else if 'A' ≤ c ∧ c ≤ 'F' then c.toNat - 'A'.toNat + 10
    else radix
  if n < radix then some n else none

def numeral? (radix : Nat) (s : List Char) : Option Nat :=
  s.foldlM (fun n c => (digitValue? radix c).map (n * radix + ·)) 0

-- One part of an IPv4 address: hexadecimal after `0x`, octal after `0`, else decimal.
def part? : List Char → Option Nat
  | [] => none
  | '0' :: 'x' :: s => numeral? 16 s
  | '0' :: 'X' :: s => numeral? 16 s
  | '0' :: c :: s => numeral? 8 (c :: s)
  | s => numeral? 10 s

-- Whether a domain's last label, an empty one at the end aside, is a number, so that the whole has to be
-- an IPv4 address.
def endsInNumber (labels : List (List Char)) : Bool :=
  let last := match labels.reverse with
    | [] :: l :: _ => l
    | [] :: [] => []
    | l :: _ => l
    | [] => []
  (!last.isEmpty && last.all Char.isDigit) || (part? last).isSome

-- At most four parts; all but the last are octets, and the last fills what is left of 32 bits.
def isIPv4 (labels : List (List Char)) : Bool :=
  let labels := if labels.getLast? = some [] then labels.dropLast else labels
  match (labels.mapM part?).map List.reverse with
  | some (last :: front) =>
    front.length ≤ 3 && front.all (· ≤ 255) && last < Nat.pow 256 (4 - front.length)
  | _ => false

-- The decimal octets, with dots between them, at the end of an IPv6 address.
def isDottedQuad (s : List Char) : Bool :=
  let parts := s.splitOn '.'
  parts.length == 4 && parts.all fun p =>
    match numeral? 10 p, p with
    | some n, c :: rest => n ≤ 255 && (c != '0' || rest.isEmpty)
    | _, _ => false

-- The groups of an IPv6 address from the start of one on: `count` groups stand before, and `packed` says
-- that a double colon was among them.
def isIPv6From : Nat → Nat → Bool → List Char → Bool
  | 0, _, _, _ => false
  | _, count, packed, [] => packed || count == 8
  | n + 1, count, packed, s =>
    if count == 8 then false
    else match s with
      | ':' :: r => !packed && isIPv6From n (count + 1) true r
      | _ =>
        let group := (s.take 4).takeWhile fun c => (digitValue? 16 c).isSome
        match s.drop group.length with
        | [] => isIPv6From n (count + 1) packed []
        | ':' :: r => !r.isEmpty && isIPv6From n (count + 1) packed r
        | '.' :: _ =>
          !group.isEmpty && count ≤ 6 && isDottedQuad s && (packed || count == 6)
        | _ => false

def isIPv6 (s : List Char) : Bool :=
  match s with
  | ':' :: ':' :: r => isIPv6From (s.length + 2) 1 true r
  | ':' :: _ => false
  | [_] => false
  | [] => false
  | _ => isIPv6From (s.length + 2) 0 false s

end Scaffold.Url
