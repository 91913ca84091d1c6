/-
IP addresses as the Rust standard library orders, prints and parses them.
-/

import Ngxora.Base.Digits

namespace Ngxora.Net

open Digits

structure Ipv4Addr where
  a : UInt8
  b : UInt8
  c : UInt8
  d : UInt8
  deriving DecidableEq

structure Ipv6Addr where
  segments : List UInt16
  eight : segments.length = 8
  deriving DecidableEq

inductive IpAddr where
  | v4 (address : Ipv4Addr)
  | v6 (address : Ipv6Addr)
  deriving DecidableEq

def IpAddr.orderKey : IpAddr → List Nat
  | .v4 address => [0, address.a.toNat, address.b.toNat, address.c.toNat, address.d.toNat]
  | .v6 address => 1 :: address.segments.map UInt16.toNat

def Ipv4Addr.display (address : Ipv4Addr) : List Char :=
  Nat.toDigits 10 address.a.toNat ++ '.' :: (Nat.toDigits 10 address.b.toNat ++
    '.' :: (Nat.toDigits 10 address.c.toNat ++ '.' :: Nat.toDigits 10 address.d.toNat))

structure ZeroSpan where
  start : Nat
  len : Nat

/-- One step of the scan for the longest run of zero segments; the first of
several equally long runs wins. -/
def ZeroSpan.scan : List UInt16 → Nat → ZeroSpan → ZeroSpan → ZeroSpan
  | [], _, longest, _ => longest
  | segment :: rest, index, longest, current =>
    if segment = 0 then
      let current : ZeroSpan :=
        { start := if current.len = 0 then index else current.start
          len := current.len + 1 }
      ZeroSpan.scan rest (index + 1)
        (if longest.len < current.len then current else longest) current
    else
      ZeroSpan.scan rest (index + 1) longest { start := 0, len := 0 }

def Ipv6Addr.zeroes (address : Ipv6Addr) : ZeroSpan :=
  ZeroSpan.scan address.segments 0 { start := 0, len := 0 } { start := 0, len := 0 }

def displaySegment (segment : UInt16) : List Char := Nat.toDigits 16 segment.toNat

def displaySegments (segments : List UInt16) : List Char :=
  [':'].intercalate (segments.map displaySegment)

def Ipv4Addr.high (address : Ipv4Addr) : UInt16 :=
  UInt16.ofNat (address.a.toNat * 256 + address.b.toNat)

def Ipv4Addr.low (address : Ipv4Addr) : UInt16 :=
  UInt16.ofNat (address.c.toNat * 256 + address.d.toNat)

def Ipv4Addr.ofHalves (high low : UInt16) : Ipv4Addr :=
  { a := UInt8.ofNat (high.toNat / 256)
    b := UInt8.ofNat (high.toNat % 256)
    c := UInt8.ofNat (low.toNat / 256)
    d := UInt8.ofNat (low.toNat % 256) }

def Ipv6Addr.toIpv4Mapped (address : Ipv6Addr) : Option Ipv4Addr :=
  match address.segments with
  | [0, 0, 0, 0, 0, 0xffff, high, low] => some (Ipv4Addr.ofHalves high low)
  | _ => none

def Ipv6Addr.display (address : Ipv6Addr) : List Char :=
  match address.toIpv4Mapped with
  | some mapped => "::ffff:".toList ++ mapped.display
  | none =>
    let zeroes := address.zeroes
    if 1 < zeroes.len then
      displaySegments (address.segments.take zeroes.start) ++ ':' :: ':' ::
        displaySegments (address.segments.drop (zeroes.start + zeroes.len))
    else
      displaySegments address.segments

def IpAddr.display : IpAddr → List Char
  | .v4 address => address.display
  | .v6 address => address.display

def IpAddr.toText (address : IpAddr) : String := String.ofList address.display

/-- Each `read` returns the value and the unread text. -/
def readNumber (radix maxDigits : Nat) (allowZeroPrefix : Bool) (text : List Char) :
    Option (Nat × List Char) :=
  let (digits, rest) := spanDigits radix text
  if digits.length > maxDigits ∨ digits = [] then none
  else if !allowZeroPrefix && digits.head? == some '0' && digits.length > 1 then none
  else some (valueOf radix digits, rest)

def readOctet (text : List Char) : Option (UInt8 × List Char) :=
  match readNumber 10 3 false text with
  | some (value, rest) => if value < 256 then some (UInt8.ofNat value, rest) else none
  | none => none

def readSegment (text : List Char) : Option (UInt16 × List Char) :=
  (readNumber 16 4 true text).map fun (value, rest) => (UInt16.ofNat value, rest)

def readSeparated {α : Type} (separator : Char) (first : Bool)
    (read : List Char → Option (α × List Char)) (text : List Char) : Option (α × List Char) :=
  if first then read text
  else
    match text with
    | char :: rest => if char = separator then read rest else none
    | [] => none

def readIpv4Addr (text : List Char) : Option (Ipv4Addr × List Char) := do
  let (a, text) ← readSeparated '.' true readOctet text
  let (b, text) ← readSeparated '.' false readOctet text
  let (c, text) ← readSeparated '.' false readOctet text
  let (d, text) ← readSeparated '.' false readOctet text
  pure ({ a, b, c, d }, text)

/-- Read at most `slots` segments; the flag reports an embedded IPv4 address,
which takes two slots and ends the groups. -/
def readGroups (first : Bool) : Nat → List Char → List UInt16 × Bool × List Char
  | 0, text => ([], false, text)
  | slots + 1, text =>
    let embedded :=
      if 0 < slots then readSeparated ':' first readIpv4Addr text else none
    match embedded with
    | some (address, rest) => ([address.high, address.low], true, rest)
    | none =>
      match readSeparated ':' first readSegment text with
      | some (segment, rest) =>
        let (segments, isV4, rest) := readGroups false slots rest
        (segment :: segments, isV4, rest)
      | none => ([], false, text)

def Ipv6Addr.ofSegments (segments : List UInt16) : Option Ipv6Addr :=
  if eight : segments.length = 8 then some { segments, eight } else none

def readIpv6Addr (text : List Char) : Option (Ipv6Addr × List Char) :=
  let (head, headIsV4, rest) := readGroups true 8 text
  if head.length = 8 then (Ipv6Addr.ofSegments head).map (·, rest)
  else if headIsV4 then none
  else
    match rest with
    | ':' :: ':' :: rest =>
      let (tail, _, rest) := readGroups true (8 - (head.length + 1)) rest
      let zeroes := List.replicate (8 - head.length - tail.length) 0
      (Ipv6Addr.ofSegments (head ++ zeroes ++ tail)).map (·, rest)
    | _ => none

def readIpAddr (text : List Char) : Option (IpAddr × List Char) :=
  match readIpv4Addr text with
  | some (address, rest) => some (.v4 address, rest)
  | none => (readIpv6Addr text).map fun (address, rest) => (.v6 address, rest)

/-- `str::parse::<IpAddr>`: the whole text is one address. -/
def IpAddr.parse (text : String) : Option IpAddr :=
  match readIpAddr text.toList with
  | some (address, []) => some address
  | _ => none

/-- `SocketAddr`; nothing reads the scope of an IPv6 address. -/
structure SocketAddr where
  ip : IpAddr
  port : UInt16

def readMarked (mark : Char) (limit : Nat) : List Char → Option (Nat × List Char)
  | char :: rest =>
    let (digits, rest) := spanDigits 10 rest
    if char = mark ∧ digits ≠ [] ∧ valueOf 10 digits < limit then
      some (valueOf 10 digits, rest)
    else none
  | [] => none

def readPort (text : List Char) : Option (UInt16 × List Char) :=
  (readMarked ':' (2 ^ 16) text).map fun (port, rest) => (UInt16.ofNat port, rest)

def skipScopeId (text : List Char) : List Char :=
  match readMarked '%' (2 ^ 32) text with
  | some (_, rest) => rest
  | none => text

def readSocketAddrV4 (text : List Char) : Option (SocketAddr × List Char) := do
  let (address, text) ← readIpv4Addr text
  let (port, text) ← readPort text
  pure ({ ip := .v4 address, port }, text)

def readSocketAddrV6 (text : List Char) : Option (SocketAddr × List Char) :=
  match text with
  | '[' :: text => do
    let (address, text) ← readIpv6Addr text
    match skipScopeId text with
    | ']' :: text => do
      let (port, text) ← readPort text
      pure ({ ip := .v6 address, port }, text)
    | _ => none
  | _ => none

def SocketAddr.parse (text : String) : Option SocketAddr :=
  match (readSocketAddrV4 text.toList).or (readSocketAddrV6 text.toList) with
  | some (address, []) => some address
  | _ => none

end Ngxora.Net
