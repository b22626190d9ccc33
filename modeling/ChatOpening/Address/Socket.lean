import ChatOpening.Text.Quoted

/-!
# Socket addresses

An address of the form `a.b.c.d:port` or `[groups]:port`. The numbers of the first form have no leading zeros; the groups
of the second are hexadecimal, two colons stand for a run of zero groups, and the last two groups may be written like
the first form. Written again, an address has one form: the longest run of at least two zero groups is shortened, the
first one if there are several.
-/

namespace ChatOpening

inductive SocketAddress where
  | v4 (octets : List Nat) (port : Nat)
  | v6 (groups : List Nat) (scope : Nat) (port : Nat)
  deriving DecidableEq, Repr

namespace SocketAddress

/-- Takes a value from the front of the characters, and returns the rest. -/
abbrev Scanner (α : Type) := List Char → Option (α × List Char)

/-- The value of a digit in a number system with at most sixteen digits. -/
def digitValue? (base : Nat) (c : Char) : Option Nat :=
  let value? :=
    if '0' ≤ c && c ≤ '9' then some (c.toNat - '0'.toNat)
    else if 'a' ≤ c && c ≤ 'f' then some (c.toNat - 'a'.toNat + 10)
    else if 'A' ≤ c && c ≤ 'F' then some (c.toNat - 'A'.toNat + 10)
    else none
  value?.filter (· < base)

/-- How numbers are written at a place of an address. -/
structure NumberForm where
  base : Nat
  greatest : Nat
  mostDigits : Option Nat
  leadingZeros : Bool

def octetForm : NumberForm := ⟨10, 255, some 3, false⟩

def groupForm : NumberForm := ⟨16, 65535, some 4, true⟩

def portForm : NumberForm := ⟨10, 65535, none, true⟩

def scopeForm : NumberForm := ⟨10, UInt32.size - 1, none, true⟩

def number (form : NumberForm) : Scanner Nat := fun cs =>
  let isDigit (c : Char) : Bool := (digitValue? form.base c).isSome
  let digits := cs.takeWhile isDigit
  let value := digits.foldl (fun n c => n * form.base + (digitValue? form.base c).getD 0) 0
  let tooLong := form.mostDigits.any (· < digits.length)
  let zeroFirst := !form.leadingZeros && digits.head? = some '0' && 1 < digits.length
  if digits.isEmpty || tooLong || zeroFirst || form.greatest < value then none
  else some (value, cs.dropWhile isDigit)

def character (c : Char) : Scanner Unit
  | [] => none
  | d :: rest => if d = c then some ((), rest) else none

/-- Four numbers with dots between them. -/
def ipv4 : Scanner (List Nat) := fun cs => do
  let (a, cs) ← number octetForm cs
  let ((), cs) ← character '.' cs
  let (b, cs) ← number octetForm cs
  let ((), cs) ← character '.' cs
  let (c, cs) ← number octetForm cs
  let ((), cs) ← character '.' cs
  let (d, cs) ← number octetForm cs
  return ([a, b, c, d], cs)

/-- The two groups that four octets make. -/
def groupsOfOctets : List Nat → List Nat
  | [a, b, c, d] => [a * 256 + b, c * 256 + d]
  | _ => []

/-- Groups with colons between them, at most `limit` of them, and whether the last two are written as octets. The rest
starts with the colon that no group follows. -/
def groups : (limit : Nat) → (first : Bool) → List Char → List Nat × Bool × List Char
  | 0, _, cs => ([], false, cs)
  | limit + 1, first, cs =>
    let start? := if first then some ((), cs) else character ':' cs
    match start? with
    | none => ([], false, cs)
    | some ((), inner) =>
      match if 0 < limit then ipv4 inner else none with
      | some (octets, rest) => (groupsOfOctets octets, true, rest)
      | none =>
        match number groupForm inner with
        | none => ([], false, cs)
        | some (group, rest) =>
          let (others, octets, rest) := groups limit false rest
          (group :: others, octets, rest)

/-- Eight groups, some of which may be left out where two colons stand. -/
def ipv6 : Scanner (List Nat) := fun cs =>
  let (head, octets, rest) := groups 8 true cs
  if head.length = 8 then some (head, rest)
  else if octets then none
  else do
    let ((), rest) ← character ':' rest
    let ((), rest) ← character ':' rest
    let (tail, _, rest) := groups (7 - head.length) true rest
    return (head ++ List.replicate (8 - head.length - tail.length) 0 ++ tail, rest)

def port : Scanner Nat := fun cs => do
  let ((), cs) ← character ':' cs
  number portForm cs

def socketV4 : Scanner SocketAddress := fun cs => do
  let (octets, cs) ← ipv4 cs
  let (p, cs) ← port cs
  return (v4 octets p, cs)

/-- The number of a scope, if there is one. -/
def scope (cs : List Char) : Nat × List Char :=
  match character '%' cs >>= fun (_, rest) => number scopeForm rest with
  | some result => result
  | none => (0, cs)

def socketV6 : Scanner SocketAddress := fun cs => do
  let ((), cs) ← character '[' cs
  let (gs, cs) ← ipv6 cs
  let (s, cs) := scope cs
  let ((), cs) ← character ']' cs
  let (p, cs) ← port cs
  return (v6 gs s p, cs)

/-- Reads an address. -/
def ofText? (s : String) : Option SocketAddress :=
  match socketV4 s.toList <|> socketV6 s.toList with
  | some (address, []) => some address
  | _ => none

/-- Numbers with dots between them. -/
def dotted (octets : List Nat) : String :=
  String.intercalate "." (octets.map toString)

/-- Groups with colons between them. -/
def colonned (groups : List Nat) : String :=
  String.intercalate ":" (groups.map Text.hexadecimal)

/-- The number of zero groups at the front. -/
def zeroRun (groups : List Nat) : Nat :=
  (groups.takeWhile (· = 0)).length

/-- Where the first of the longest runs of zero groups starts, and how long it is. -/
def longestRun (groups : List Nat) : Nat × Nat :=
  (List.range groups.length).foldl (fun best i =>
    let run := zeroRun (groups.drop i)
    if best.2 < run then (i, run) else best) (0, 0)

def writtenGroups (groups : List Nat) : String :=
  match groups with
  | [0, 0, 0, 0, 0, 65535, a, b] => "::ffff:" ++ dotted [a / 256, a % 256, b / 256, b % 256]
  | _ =>
    let (start, run) := longestRun groups
    if 1 < run then colonned (groups.take start) ++ "::" ++ colonned (groups.drop (start + run))
    else colonned groups

/-- The written form of an address. -/
def written : SocketAddress → String
  | v4 octets p => s!"{dotted octets}:{p}"
  | v6 gs s p =>
    let host := if s = 0 then writtenGroups gs else s!"{writtenGroups gs}%{s}"
    s!"[{host}]:{p}"

end SocketAddress

end ChatOpening
