import DocExcerpt.Text.Digit
import DocExcerpt.Url.Error

/-!
# Network addresses as hosts

The numeric forms of a host. An IPv4 address is one to four numbers between dots, each decimal,
octal or hexadecimal, the last one filling all bytes that remain. An IPv6 address is eight groups
of up to four hexadecimal digits, where one `::` may stand for groups of zeros and the last two
groups may be written as four decimal numbers.
-/

namespace DocExcerpt.Url

inductive Host where
  | domain (name : Text)
  | ipv4 (address : Nat)
  | ipv6 (groups : List Nat)
  deriving DecidableEq, Repr

/-! ## IPv4 -/

/-- A part of an IPv4 address: none for a text that is no number. `0x` announces hexadecimal
digits and a leading zero octal ones; no digits after either mean zero. -/
def ipv4Number? (t : Text) : Option Nat :=
  match t with
  | [] => none
  | ['0'] => some 0
  | '0' :: x :: digits =>
    if x.toLower = 'x' then Text.number? 16 digits else Text.number? 8 (x :: digits)
  | digits => Text.number? 10 digits

/-- The parts of a domain between dots, without an empty one at its end. -/
def domainParts (domain : Text) : List Text :=
  let parts := domain.splitOnChar '.'
  if 1 < parts.length ∧ parts.getLast? = some [] then parts.dropLast else parts

/-- Whether a domain has to be an IPv4 address: its last part is a number. -/
def endsInNumber (domain : Text) : Bool :=
  match (domainParts domain).getLast? with
  | none => false
  | some last => (!last.isEmpty && last.all Char.isDigit) || (ipv4Number? last).isSome

def ipv4? (domain : Text) : Option Nat := do
  let numbers ← (domainParts domain).mapM ipv4Number?
  let leading := numbers.dropLast
  let last ← numbers.getLast?
  let room := Nat.pow 256 (4 - leading.length)
  if numbers.length ≤ 4 ∧ leading.all (· < 256) ∧ last < room then
    some (leading.foldl (fun value n => value * 256 + n) 0 * room + last)
  else none

/-! ## IPv6 -/

def ipv6Group? (t : Text) : Option Nat :=
  if 1 ≤ t.length ∧ t.length ≤ 4 then Text.number? 16 t else none

/-- One of four decimal numbers at the end of an IPv6 address, written without leading zeros. -/
def decimalByte? (t : Text) : Option Nat :=
  if t.isEmpty ∨ (1 < t.length ∧ t.head? = some '0') then none
  else (Text.number? 10 t).filter (· < 256)

def decimalGroups? (t : Text) : Option (List Nat) := do
  match ← (t.splitOnChar '.').mapM decimalByte? with
  | [a, b, c, d] => some [a * 256 + b, c * 256 + d]
  | _ => none

/-- The groups of one side of `::`, or of an address without it. Decimal numbers may stand for the
last two groups only where the address ends. -/
def ipv6Groups? (atEnd : Bool) (t : Text) : Option (List Nat) :=
  if t.isEmpty then some []
  else do
    let parts := t.splitOnChar ':'
    let leading ← parts.dropLast.mapM ipv6Group?
    let last ← parts.getLast?
    if atEnd ∧ '.' ∈ last then
      (decimalGroups? last).map (leading ++ ·)
    else
      (ipv6Group? last).map fun group => leading ++ [group]

def ipv6? (t : Text) : Option (List Nat) :=
  match Text.splitAtPhrase? [':', ':'] t with
  | some (left, right) => do
    let before ← ipv6Groups? false left
    let after ← ipv6Groups? true right
    if before.length + after.length ≤ 7 then
      some (before ++ List.replicate (8 - before.length - after.length) 0 ++ after)
    else none
  | none => do
    let groups ← ipv6Groups? true t
    if groups.length = 8 then some groups else none

def bracketedHost (t : Text) : Except Error Host :=
  match t.getLast? with
  | some ']' =>
    match ipv6? (t.drop 1).dropLast with
    | some groups => .ok (.ipv6 groups)
    | none => .error .malformedIpv6
  | _ => .error .malformedIpv6

end DocExcerpt.Url
