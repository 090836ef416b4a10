import Mathlib

/-!
# Textual internet addresses

The reading of an address follows the recursive descent of the standard parser: a
number is read as long as digits follow, a separator stands before every group but
the first, and the two colons stand for at least one group of zeros. Reading fails
without consuming anything, so every reader returns the rest of its text.
-/
namespace IpAddr

inductive Address where
  | v4 (octets : List Nat)
  | v6 (groups : List Nat)
  deriving DecidableEq, Repr

abbrev Reading (α : Type) := List Char → Option (α × List Char)

def givenChar (expected : Char) : Reading Unit
  | c :: rest => if c = expected then some ((), rest) else none
  | [] => none

/-- `char::to_digit`. -/
def toDigit (radix : Nat) (c : Char) : Option Nat :=
  let value :=
    if '0' ≤ c ∧ c ≤ '9' then some (c.toNat - '0'.toNat)
    else if 'a' ≤ c ∧ c ≤ 'f' then some (c.toNat - 'a'.toNat + 10)
    else if 'A' ≤ c ∧ c ≤ 'F' then some (c.toNat - 'A'.toNat + 10)
    else none
  value.filter (· < radix)

/-- A number below the bound, of at most so many digits. -/
def number (radix maxDigits bound : Nat) (allowZeroPrefix : Bool) : Reading Nat := fun text =>
  let digits := text.takeWhile fun c => (toDigit radix c).isSome
  let value := (digits.filterMap (toDigit radix)).foldl (fun value digit => value * radix + digit) 0
  if digits.isEmpty ∨ digits.length > maxDigits then none
  else if allowZeroPrefix = false ∧ digits.head? = some '0' ∧ digits.length > 1 then none
  else if value < bound then some (value, text.drop digits.length)
  else none

/-- The groups after the first stand behind a separator. -/
def separated {α : Type} (separator : Char) (index : Nat) (read : Reading α) : Reading α := fun text =>
  if index > 0 then do
    let ((), rest) ← givenChar separator text
    read rest
  else read text

/-- The octets that are left to read, from an index on. -/
def octets : Nat → Nat → Reading (List Nat)
  | 0, _ => fun text => some ([], text)
  | count + 1, index => fun text => do
    let (octet, rest) ← separated '.' index (number 10 3 256 false) text
    let (others, rest) ← octets count (index + 1) rest
    some (octet :: others, rest)

def readV4 : Reading (List Nat) := octets 4 0

/-- Up to `left` groups from an index on, and whether they end in an embedded address of
version four, for which two groups must be left. -/
def groups : Nat → Nat → List Char → (List Nat × Bool) × List Char
  | 0, _, text => (([], false), text)
  | left + 1, index, text =>
    let embedded := if left > 0 then separated ':' index readV4 text else none
    match embedded with
    | some ([one, two, three, four], rest) =>
      (([one * 256 + two, three * 256 + four], true), rest)
    | _ =>
      match separated ':' index (number 16 4 65536 true) text with
      | none => (([], false), text)
      | some (group, rest) =>
        let ((others, ipv4), rest) := groups left (index + 1) rest
        ((group :: others, ipv4), rest)

def readV6 : Reading (List Nat) := fun text =>
  let ((head, ipv4), rest) := groups 8 0 text
  if head.length = 8 then some (head, rest)
  else if ipv4 then none
  else do
    let ((), rest) ← givenChar ':' rest
    let ((), rest) ← givenChar ':' rest
    let ((tail, _), rest) := groups (8 - (head.length + 1)) 0 rest
    some (head ++ List.replicate (8 - head.length - tail.length) 0 ++ tail, rest)

/-- `str::parse::<IpAddr>`. -/
def parse (text : String) : Option Address :=
  match readV4 text.toList with
  | some (octets, rest) => if rest.isEmpty then some (.v4 octets) else none
  | none =>
    match readV6 text.toList with
    | some (groups, []) => some (.v6 groups)
    | _ => none

structure SocketAddr where
  ip : Address
  /-- The zone of an address of version six. -/
  scopeId : Nat
  port : Nat
  deriving DecidableEq, Repr

/-- A number behind a sign, of any number of digits. -/
def numberBehind (sign : Char) (bound : Nat) : Reading Nat := fun text => do
  let ((), rest) ← givenChar sign text
  number 10 rest.length bound true rest

def readSocketV4 : Reading SocketAddr := fun text => do
  let (octets, rest) ← readV4 text
  let (port, rest) ← numberBehind ':' (2 ^ 16) rest
  some (⟨.v4 octets, 0, port⟩, rest)

def readSocketV6 : Reading SocketAddr := fun text => do
  let ((), rest) ← givenChar '[' text
  let (groups, rest) ← readV6 rest
  let (scopeId, rest) := (numberBehind '%' (2 ^ 32) rest).getD (0, rest)
  let ((), rest) ← givenChar ']' rest
  let (port, rest) ← numberBehind ':' (2 ^ 16) rest
  some (⟨.v6 groups, scopeId, port⟩, rest)

/-- `str::parse::<SocketAddr>`. -/
def parseSocket (text : String) : Option SocketAddr :=
  match (readSocketV4 text.toList).or (readSocketV6 text.toList) with
  | some (address, []) => some address
  | _ => none

def isUnspecified : Address → Bool
  | .v4 octets => octets.all (· == 0)
  | .v6 groups => groups.all (· == 0)

def isMulticast : Address → Bool
  | .v4 octets => (octets.head?.getD 0) / 16 == 14
  | .v6 groups => (groups.head?.getD 0) / 256 == 255

example : parse "224.0.0.1" = some (.v4 [224, 0, 0, 1]) := by decide +kernel
example : parse "::ffff:10.0.0.1" = some (.v6 [0, 0, 0, 0, 0, 65535, 2560, 1]) := by decide +kernel
example : parse "10.0.0.01" = none := by decide +kernel
example : parseSocket "[fe80::1%7]:0443" = some ⟨.v6 [65152, 0, 0, 0, 0, 0, 0, 1], 7, 443⟩ := by
  decide +kernel

end IpAddr
