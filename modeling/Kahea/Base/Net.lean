import Kahea.Base.Json

/-!
# Internet Addresses

IPv4 and IPv6 addresses as a standard library has them: their predicates,
their text and the parser of that text.

The predicates are the library's, one for one; what a program calls unsafe it
builds out of them itself. The IPv6 text follows the compression rule (the
longest run of at least two zero groups is written `::`, an IPv4-mapped address
ends in dotted decimal), and the parser reads every spelling, not only that
one. Neither reads brackets: a bracketed literal is URL syntax.

## Main definitions

* `Ipv4Addr`, `Ipv6Addr`, `IpAddr`, `SocketAddr`: Addresses.
* `Ipv4Addr.toIpv6Mapped`: The IPv4-mapped IPv6 form `::ffff:a.b.c.d`.
* `IpAddr.text`: The printed form.
* `parseIpAddr`: The parser of both families.
-/

namespace Kahea

/-- An IPv4 address by its octets. -/
structure Ipv4Addr where
  a : UInt8
  b : UInt8
  c : UInt8
  d : UInt8
  deriving DecidableEq, Repr

/-- An IPv6 address by its sixteen-bit segments. -/
structure Ipv6Addr where
  s0 : UInt16
  s1 : UInt16
  s2 : UInt16
  s3 : UInt16
  s4 : UInt16
  s5 : UInt16
  s6 : UInt16
  s7 : UInt16
  deriving DecidableEq, Repr

/-- An address of either family. -/
inductive IpAddr where
  | v4 (address : Ipv4Addr)
  | v6 (address : Ipv6Addr)
  deriving DecidableEq, Repr

/-- An address with a port. -/
structure SocketAddr where
  ip : IpAddr
  port : Nat
  deriving DecidableEq, Repr

namespace Ipv4Addr

/-- `127.0.0.0/8`. -/
def isLoopback (x : Ipv4Addr) : Bool := x.a == 127

/-- `0.0.0.0`. -/
def isUnspecified (x : Ipv4Addr) : Bool := x.a == 0 && x.b == 0 && x.c == 0 && x.d == 0

/-- `224.0.0.0/4`. -/
def isMulticast (x : Ipv4Addr) : Bool := 224 ≤ x.a && x.a ≤ 239

/-- `10.0.0.0/8`, `172.16.0.0/12` and `192.168.0.0/16`. -/
def isPrivate (x : Ipv4Addr) : Bool :=
  x.a == 10 || (x.a == 172 && 16 ≤ x.b && x.b ≤ 31) || (x.a == 192 && x.b == 168)

/-- `169.254.0.0/16`. -/
def isLinkLocal (x : Ipv4Addr) : Bool := x.a == 169 && x.b == 254

/-- The IPv4-mapped IPv6 form `::ffff:a.b.c.d`. -/
def toIpv6Mapped (x : Ipv4Addr) : Ipv6Addr :=
  { s0 := 0, s1 := 0, s2 := 0, s3 := 0, s4 := 0, s5 := 0xffff,
    s6 := x.a.toUInt16 * 256 + x.b.toUInt16, s7 := x.c.toUInt16 * 256 + x.d.toUInt16 }

/-- Dotted decimal. -/
def text (x : Ipv4Addr) : Str :=
  decimal x.a.toNat ++ '.' :: decimal x.b.toNat ++ '.' :: decimal x.c.toNat ++
    '.' :: decimal x.d.toNat

end Ipv4Addr

namespace Ipv6Addr

/-- The segments in order. -/
def segments (x : Ipv6Addr) : List UInt16 := [x.s0, x.s1, x.s2, x.s3, x.s4, x.s5, x.s6, x.s7]

/-- The address of eight segments; missing ones are zero. -/
def ofSegments (l : List UInt16) : Ipv6Addr :=
  { s0 := l.getD 0 0, s1 := l.getD 1 0, s2 := l.getD 2 0, s3 := l.getD 3 0,
    s4 := l.getD 4 0, s5 := l.getD 5 0, s6 := l.getD 6 0, s7 := l.getD 7 0 }

/-- `::1`. -/
def isLoopback (x : Ipv6Addr) : Bool := x == ofSegments [0, 0, 0, 0, 0, 0, 0, 1]

/-- `::`. -/
def isUnspecified (x : Ipv6Addr) : Bool := x == ofSegments []

/-- `ff00::/8`. -/
def isMulticast (x : Ipv6Addr) : Bool := x.s0 &&& 0xff00 == 0xff00

/-- `fc00::/7`. -/
def isUniqueLocal (x : Ipv6Addr) : Bool := x.s0 &&& 0xfe00 == 0xfc00

/-- `fe80::/10`. -/
def isUnicastLinkLocal (x : Ipv6Addr) : Bool := x.s0 &&& 0xffc0 == 0xfe80

/-- The IPv4 address inside an IPv4-mapped address. -/
def toIpv4Mapped (x : Ipv6Addr) : Option Ipv4Addr :=
  if x.s0 == 0 && x.s1 == 0 && x.s2 == 0 && x.s3 == 0 && x.s4 == 0 && x.s5 == 0xffff then
    some { a := (x.s6 / 256).toUInt8, b := x.s6.toUInt8,
           c := (x.s7 / 256).toUInt8, d := x.s7.toUInt8 }
  else none

/-- The first longest run of zero segments, as its start and length. -/
def longestZeroRun (l : List UInt16) : Nat × Nat :=
  let step := fun (st : Nat × Nat × Nat × Nat × Nat) (s : UInt16) =>
    let (i, curStart, curLen, bestStart, bestLen) := st
    if s = 0 then
      let start := if curLen = 0 then i else curStart
      let len := curLen + 1
      if bestLen < len then (i + 1, start, len, start, len)
      else (i + 1, start, len, bestStart, bestLen)
    else (i + 1, 0, 0, bestStart, bestLen)
  let r := l.foldl step (0, 0, 0, 0, 0)
  (r.2.2.2.1, r.2.2.2.2)

/-- Segments in hexadecimal, separated by colons. -/
def hexGroups (l : List UInt16) : Str :=
  join ":" (l.map (fun s => Nat.toDigits 16 s.toNat))

/-- The compressed text. -/
def text (x : Ipv6Addr) : Str :=
  match x.toIpv4Mapped with
  | some v4 => "::ffff:" ++ v4.text
  | none =>
      let (start, len) := longestZeroRun x.segments
      if 1 < len then
        hexGroups (x.segments.take start) ++ "::" ++ hexGroups (x.segments.drop (start + len))
      else hexGroups x.segments

end Ipv6Addr

namespace IpAddr

/-- Loopback in either family. -/
def isLoopback : IpAddr → Bool
  | v4 x => x.isLoopback
  | v6 x => x.isLoopback

/-- The unspecified address of either family. -/
def isUnspecified : IpAddr → Bool
  | v4 x => x.isUnspecified
  | v6 x => x.isUnspecified

/-- Multicast in either family. -/
def isMulticast : IpAddr → Bool
  | v4 x => x.isMulticast
  | v6 x => x.isMulticast

/-- The printed form. -/
def text : IpAddr → Str
  | v4 x => x.text
  | v6 x => x.text

end IpAddr

/-! ### Parsing -/

/-- The value of a digit in a radix of at most sixteen. -/
def digitValue (radix : Nat) (c : Char) : Option Nat :=
  let n :=
    if '0' ≤ c ∧ c ≤ '9' then c.toNat - '0'.toNat
    else if 'a' ≤ c ∧ c ≤ 'f' then c.toNat - 'a'.toNat + 10
    else if 'A' ≤ c ∧ c ≤ 'F' then c.toNat - 'A'.toNat + 10
    else 16
  if n < radix then some n else none

/-- The digits at the front of a text: their value, their number, the rest. -/
def readDigits (radix : Nat) : Str → Nat → Nat → Nat × Nat × Str
  | [], acc, count => (acc, count, [])
  | c :: cs, acc, count => match digitValue radix c with
    | some d => readDigits radix cs (acc * radix + d) (count + 1)
    | none => (acc, count, c :: cs)

/-- A number of at most `maxDigits` digits below a bound. A leading zero is
    refused unless it is allowed or is the whole number. -/
def readNumber (radix maxDigits bound : Nat) (allowZeroPrefix : Bool) (s : Str) :
    Option (Nat × Str) :=
  let (value, count, rest) := readDigits radix s 0 0
  if count = 0 ∨ maxDigits < count ∨ bound ≤ value then none
  else if !allowZeroPrefix && s.head? == some '0' && 1 < count then none
  else some (value, rest)

/-- One expected character. -/
def readChar (expected : Char) : Str → Option Str
  | [] => none
  | c :: cs => if c = expected then some cs else none

/-- Dotted decimal at the front of a text. -/
def readIpv4 (s : Str) : Option (Ipv4Addr × Str) := do
  let (a, s) ← readNumber 10 3 256 false s
  let (b, s) ← readNumber 10 3 256 false (← readChar '.' s)
  let (c, s) ← readNumber 10 3 256 false (← readChar '.' s)
  let (d, s) ← readNumber 10 3 256 false (← readChar '.' s)
  return ({ a := a.toUInt8, b := b.toUInt8, c := c.toUInt8, d := d.toUInt8 }, s)

/-- The separator before every group but the first. -/
def readSeparator (first : Bool) (s : Str) : Option Str :=
  if first then some s else readChar ':' s

/-- At most `limit` colon-separated groups, the last two of which may be
    written in dotted decimal: the groups, whether they ended so, the rest. -/
def readGroups : (limit : Nat) → (first : Bool) → Str → List UInt16 × Bool × Str
  | 0, _, s => ([], false, s)
  | limit + 1, first, s =>
      let embedded := if limit = 0 then none else (readSeparator first s).bind readIpv4
      match embedded with
      | some (v4, rest) =>
          ([v4.a.toUInt16 * 256 + v4.b.toUInt16, v4.c.toUInt16 * 256 + v4.d.toUInt16], true, rest)
      | none =>
          match (readSeparator first s).bind (readNumber 16 4 0x10000 true) with
          | some (g, rest) =>
              let (groups, ended, rest') := readGroups limit false rest
              (g.toUInt16 :: groups, ended, rest')
          | none => ([], false, s)

/-- An IPv6 address at the front of a text. -/
def readIpv6 (s : Str) : Option (Ipv6Addr × Str) :=
  let (head, ended, rest) := readGroups 8 true s
  if head.length = 8 then some (.ofSegments head, rest)
  else if ended then none
  else do
    let rest ← readChar ':' rest
    let rest ← readChar ':' rest
    let (tail, _, rest) := readGroups (8 - (head.length + 1)) true rest
    let zeros := List.replicate (8 - head.length - tail.length) 0
    return (.ofSegments (head ++ zeros ++ tail), rest)

/-- An address of either family, as a whole text. -/
def parseIpAddr (s : Str) : Option IpAddr :=
  match readIpv4 s with
  | some (x, []) => some (.v4 x)
  | some (_, _ :: _) => none
  | none => match readIpv6 s with
    | some (x, []) => some (.v6 x)
    | _ => none

example : parseIpAddr "010.0.0.1" = none := by decide

example : parseIpAddr "::ffff:127.0.0.1" = some (.v6 (Ipv4Addr.toIpv6Mapped ⟨127, 0, 0, 1⟩)) := by
  decide

example : (IpAddr.v6 (.ofSegments [0x2001, 0xdb8, 0, 0, 1])).text = "2001:db8:0:0:1::" := by
  decide

/-! ### The printed form is unambiguous -/

end Kahea
