import Laneway.Text.Percent
import Laneway.Text.Punycode

set_option autoImplicit false

/-! # Hosts of a URL

A host is a name, an IPv4 address or an IPv6 address. The written form decides which: brackets
enclose an IPv6 address, and a name whose last label is a number has to be an IPv4 address. Each
host has one canonical text: names in lower-case ASCII, addresses in their usual notation. -/

namespace Laneway.Http

/-! ## IPv4 addresses -/

namespace Ipv4

def digits? (base : Nat) : (value : Nat) → List Char → Option Nat
  | value, [] => some value
  | value, c :: rest =>
    match Hex.value? (UInt8.ofNat c.toNat) with
    | some d => if c.toNat < 0x80 ∧ d < base then digits? base (value * base + d) rest else none
    | none => none

/-- A part of an address: decimal, octal after a zero, or hexadecimal after `0x`. -/
def part? : List Char → Option Nat
  | [] => none
  | '0' :: 'x' :: rest => digits? 16 0 rest
  | '0' :: 'X' :: rest => digits? 16 0 rest
  | '0' :: c :: rest => digits? 8 0 (c :: rest)
  | cs => digits? 10 0 cs

/-- The parts of a text between dots; one dot at the end separates nothing. -/
def parts (text : List Char) : List (List Char) :=
  let ps := text.splitOn '.'
  if 1 < ps.length ∧ ps.getLast? = some [] then ps.dropLast else ps

/-- Whether the last label of a name is a number, which makes it an address. -/
def endsInNumber (text : List Char) : Bool :=
  match (parts text).getLast? with
  | none => false
  | some last => (!last.isEmpty && last.all Char.isDigit) || (part? last).isSome

/-- The value of parts each of which but the last is one byte; the last fills what is left. -/
def combine? : (bytesLeft : Nat) → List Nat → Option Nat
  | _, [] => none
  | 0, _ => none
  | left, [last] => if last < 1 <<< (8 * left) then some last else none
  | left + 1, byte :: rest =>
    if byte < 256 then (combine? left rest).map (byte <<< (8 * left) + ·) else none

/-- Reads an address as a number below `2 ^ 32`. -/
def read? (text : List Char) : Option Nat := do
  let values ← (parts text).mapM part?
  combine? 4 values

def text (address : Nat) : String :=
  ".".intercalate ([3, 2, 1, 0].map fun i => toString (address >>> (8 * i) % 256))

end Ipv4

/-! ## IPv6 addresses -/

namespace Ipv6

/-- A decimal byte without leading zeros. -/
def decimalByte? (cs : List Char) : Option Nat :=
  match cs with
  | [] => none
  | ['0'] => some 0
  | '0' :: _ => none
  | cs => (Ipv4.digits? 10 0 cs).filter (· < 256)

/-- The two pieces written as a dotted IPv4 address. -/
def dotted? (cs : List Char) : Option (List Nat) := do
  match ← (cs.splitOn '.').mapM decimalByte? with
  | [a, b, c, d] => some [a * 256 + b, c * 256 + d]
  | _ => none

/-- One piece of at most four digits. -/
def piece? (cs : List Char) : Option Nat :=
  if cs.isEmpty ∨ 4 < cs.length then none else Ipv4.digits? 16 0 cs

/-- The pieces between colons; where `tail` allows it the last may be a dotted IPv4 address. -/
def pieces? (tail : Bool) : List (List Char) → Option (List Nat)
  | [] => some []
  | [last] => if tail && last.contains '.' then dotted? last else (piece? last).map ([·])
  | cs :: rest => do return (← piece? cs) :: (← pieces? tail rest)

/-- The pieces of a text, none when it is empty. -/
def group? (tail : Bool) (cs : List Char) : Option (List Nat) :=
  if cs.isEmpty then some [] else pieces? tail (cs.splitOn ':')

/-- The texts before and after the first double colon. -/
def splitGap : List Char → Option (List Char × List Char)
  | ':' :: ':' :: rest => some ([], rest)
  | c :: rest => (splitGap rest).map fun (before, after) => (c :: before, after)
  | [] => none

/-- Reads the eight pieces of an address; a double colon stands for one zero piece or more. -/
def read? (cs : List Char) : Option (List Nat) :=
  match splitGap cs with
  | some (before, after) => do
    let left ← group? false before
    let right ← group? true after
    let used := left.length + right.length
    if used ≤ 7 then some (left ++ List.replicate (8 - used) 0 ++ right) else none
  | none => (pieces? true (cs.splitOn ':')).filter (·.length = 8)

/-- The lengths of the runs of zeros that start at each piece. -/
def zeroRuns : List Nat → List Nat
  | [] => []
  | piece :: rest =>
    let runs := zeroRuns rest
    (if piece = 0 then runs.headD 0 + 1 else 0) :: runs

def pieceText (n : Nat) : String := String.ofList (Nat.toDigits 16 n)

/-- The text of an address: the first longest run of two zero pieces or more becomes a double
    colon. -/
def text (pieces : List Nat) : String :=
  let runs := zeroRuns pieces
  let longest := runs.foldl max 0
  let shown (ps : List Nat) := ":".intercalate (ps.map pieceText)
  if longest < 2 then shown pieces
  else
    let start := runs.idxOf longest
    shown (pieces.take start) ++ "::" ++ shown (pieces.drop (start + longest))

end Ipv6

/-! ## Names -/

namespace Domain

/-- Characters that no name holds: controls, blank space, and those that delimit a URL. -/
def isForbidden (c : Char) : Bool :=
  c.toNat ≤ 0x20 || c.toNat = 0x7F || "%#/:<>?@[\\]^|".toList.contains c

/-- The full stops that separate labels beside the ASCII one. -/
def isFullStop (c : Char) : Bool := c = '\u3002' || c = '\uff0e' || c = '\uff61'

/-- A label in ASCII. -/
def labelText (label : List Char) : List Char :=
  if label.all (·.toNat < 0x80) then label else "xn--".toList ++ Punycode.encode label

/-- The ASCII form of a name, unless it holds a forbidden character. -/
def ascii? (name : List Char) : Option (List Char) :=
  let lowered := name.map fun c => if isFullStop c then '.' else c.toLower
  if lowered.any isForbidden then none
  else some ([('.' : Char)].intercalate ((lowered.splitOn '.').map labelText))

end Domain

/-! ## Hosts -/

/-- The canonical text of a host as written in a URL. -/
def host? (written : List Char) : Option String :=
  match written with
  | '[' :: rest =>
    if rest.getLast? = some ']' then
      (Ipv6.read? rest.dropLast).map fun pieces => "[" ++ Ipv6.text pieces ++ "]"
    else none
  | _ => do
    let decoded ← Utf8.text? (Percent.decode (utf8 (String.ofList written)))
    let name ← Domain.ascii? decoded.toList
    if name.isEmpty then none
    else if Ipv4.endsInNumber name then (Ipv4.read? name).map Ipv4.text
    else some (String.ofList name)

end Laneway.Http
