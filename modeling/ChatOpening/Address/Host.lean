import ChatOpening.Address.DomainName
import ChatOpening.Address.Percent
import ChatOpening.Address.Socket

/-!
# Hosts in URLs

A host is a name or a number. Where the scheme is special, a name that ends in a number is an address of one to four
numbers, decimal, octal or hexadecimal, the last of which fills the remaining bytes. In brackets stands an address of
eight groups. Where the scheme is not special a name is kept as it is, its controls escaped.
-/

namespace ChatOpening

inductive Host where
  | name (text : String)
  | ipv4 (number : Nat)
  | ipv6 (groups : List Nat)
  deriving DecidableEq, Repr

namespace Host

/-- The value of digits in a number system, if all of them are digits of it. -/
def digitsValue? (base : Nat) (cs : List Char) : Option Nat :=
  cs.foldlM (fun n c => (SocketAddress.digitValue? base c).map (n * base + ·)) 0

/-- The value of a part of an address; the digits behind the mark of a number system may be missing. -/
def partValue? (part : List Char) : Option Nat :=
  match part with
  | [] => none
  | '0' :: 'x' :: digits => digitsValue? 16 digits
  | '0' :: 'X' :: digits => digitsValue? 16 digits
  | '0' :: d :: digits => digitsValue? 8 (d :: digits)
  | digits => digitsValue? 10 digits

/-- The parts of a name, without the empty one behind a dot at its end. -/
def partsOf (cs : List Char) : List (List Char) :=
  let parts := cs.splitOn '.'
  if 1 < parts.length && parts.getLast? = some [] then parts.dropLast else parts

/-- Whether the last part of a name is a number. -/
def endsInNumber (cs : List Char) : Bool :=
  match (partsOf cs).getLast? with
  | none => false
  | some last => (!last.isEmpty && last.all Char.isDigit) || (partValue? last).isSome

/-- The address that numbers make, of which all but the last are bytes. -/
def combined? : (place : Nat) → List Nat → Option Nat
  | _, [] => none
  | place, [last] => if last < Nat.pow 256 (4 - place) then some last else none
  | place, byte :: others =>
    if 255 < byte then none else (combined? (place + 1) others).map (byte * Nat.pow 256 (3 - place) + ·)

/-- The address of one to four numbers. -/
def ipv4? (cs : List Char) : Option Host :=
  let parts := partsOf cs
  if 4 < parts.length then none else ((parts.mapM partValue?).bind (combined? 0)).map ipv4

/-- The address between brackets. -/
def bracketed? (cs : List Char) : Option Host :=
  match cs.getLast? with
  | some ']' =>
    match SocketAddress.ipv6 cs.dropLast with
    | some (groups, []) => some (ipv6 groups)
    | _ => none
  | _ => none

/-- The host in a URL with a special scheme. -/
def ofSpecial? (cs : List Char) : Option Host :=
  match cs with
  | '[' :: inner => bracketed? inner
  | _ =>
    match Percent.text? (String.ofList cs) with
    | none => none
    | some text =>
      match DomainName.written? text.toList with
      | none => none
      | some [] => none
      | some written => if endsInNumber written then ipv4? written else some (name (String.ofList written))

/-- A character that may not stand in a host of any scheme. -/
def isForbidden (c : Char) : Bool :=
  ['\x00', '\t', '\n', '\r', ' ', '#', '/', ':', '<', '>', '?', '@', '[', '\\', ']', '^', '|'].contains c

/-- The host in a URL with another scheme. -/
def ofPlain? (cs : List Char) : Option Host :=
  match cs with
  | '[' :: inner => bracketed? inner
  | _ => if cs.any isForbidden then none else some (name (Percent.escaped Percent.always cs))

/-- Groups with colons between them, the first of the longest runs of zero groups shortened. -/
def writtenGroups (groups : List Nat) : String :=
  let (start, run) := SocketAddress.longestRun groups
  if 1 < run then
    SocketAddress.colonned (groups.take start) ++ "::" ++ SocketAddress.colonned (groups.drop (start + run))
  else SocketAddress.colonned groups

/-- The four bytes of a number. -/
def octets (n : Nat) : List Nat :=
  [3, 2, 1, 0].map fun place => n / Nat.pow 256 place % 256

def written : Host → String
  | name text => text
  | ipv4 number => SocketAddress.dotted (octets number)
  | ipv6 groups => "[" ++ writtenGroups groups ++ "]"

end Host

end ChatOpening
