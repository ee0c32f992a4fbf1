/-
# Addresses and loopback authorities

`is_loopback_authority` in `crates/rgrok-proto/src/inspect.rs`, and the parsers
of the standard library's `Ipv4Addr` and `IpAddr` that it and the configuration
check use.
-/

import Rgrok.Lib.Text

namespace Rgrok

/-- `IpAddr`: four bytes, or eight groups of sixteen bits. -/
inductive IpAddr
  | v4 (octets : List ℕ)
  | v6 (groups : List ℕ)
deriving DecidableEq

/-- `IpAddr::is_loopback`. -/
def IpAddr.isLoopback : IpAddr → Bool
  | .v4 octets => octets.head? == some 127
  | .v6 groups => groups == [0, 0, 0, 0, 0, 0, 0, 1]

namespace AddrParser

/-- `read_number`: as many digits as there are, at most `maxDigits`. -/
def readNumber (radix maxDigits : ℕ) (allowZeroPrefix : Bool) (bound : ℕ) (s : List Char) :
    Option (ℕ × List Char) :=
  let digits := s.takeWhile fun c => (Text.toDigit radix c).isSome
  let value := Text.ofDigits radix (digits.filterMap (Text.toDigit radix))
  if digits.isEmpty || maxDigits < digits.length then none
  else if !allowZeroPrefix && digits.head? == some '0' && 1 < digits.length then none
  else if value < bound then some (value, s.drop digits.length)
  else none

/-- `read_separator`: the separator stands before every item but the first. -/
def readSeparator {α : Type} (sep : Char) (index : ℕ) (inner : List Char → Option (α × List Char)) :
    List Char → Option (α × List Char)
  | [] => if index = 0 then inner [] else none
  | c :: s => if index = 0 then inner (c :: s) else if c = sep then inner s else none

/-- `read_ipv4_addr`, from the octet `index` on. -/
def readOctets : (count index : ℕ) → List Char → Option (List ℕ × List Char)
  | 0, _, s => some ([], s)
  | count + 1, index, s =>
      match readSeparator '.' index (readNumber 10 3 false 256) s with
      | none => none
      | some (octet, s) =>
          (readOctets count (index + 1) s).map fun (octets, s) => (octet :: octets, s)

/-- `read_ipv4_addr`. -/
def readIpv4Addr (s : List Char) : Option (List ℕ × List Char) :=
  readOctets 4 0 s

/-- The two groups of an embedded IPv4 address. -/
def embeddedGroups : List ℕ → List ℕ
  | [one, two, three, four] => [one * 256 + two, three * 256 + four]
  | _ => []

/-- `read_groups`, with room for `room` groups from the group `index` on; the
flag tells that the last two came from an IPv4 address. -/
def readGroups : (room index : ℕ) → List Char → List ℕ × Bool × List Char
  | 0, _, s => ([], false, s)
  | room + 1, index, s =>
      match if room = 0 then none else readSeparator ':' index readIpv4Addr s with
      | some (octets, s) => (embeddedGroups octets, true, s)
      | none =>
          match readSeparator ':' index (readNumber 16 4 true 65536) s with
          | none => ([], false, s)
          | some (group, s) =>
              let (groups, ipv4, s) := readGroups room (index + 1) s
              (group :: groups, ipv4, s)

/-- `read_ipv6_addr`. -/
def readIpv6Addr (s : List Char) : Option (List ℕ × List Char) :=
  let (head, headIpv4, s) := readGroups 8 0 s
  if head.length = 8 then some (head, s)
  else if headIpv4 then none
  else
    match s with
    | ':' :: ':' :: s =>
        let (tail, _, s) := readGroups (8 - (head.length + 1)) 0 s
        some (head ++ List.replicate (8 - head.length - tail.length) 0 ++ tail, s)
    | _ => none

end AddrParser

/-- `str::parse::<Ipv4Addr>`. -/
def parseIpv4Addr (s : String) : Option (List ℕ) :=
  if 15 < s.utf8ByteSize then none
  else
    match AddrParser.readIpv4Addr s.toList with
    | some (octets, []) => some octets
    | _ => none

/-- `str::parse::<IpAddr>`. -/
def parseIpAddr (s : String) : Option IpAddr :=
  match AddrParser.readIpv4Addr s.toList with
  | some (octets, []) => some (.v4 octets)
  | some (_, _ :: _) => none
  | none =>
      match AddrParser.readIpv6Addr s.toList with
      | some (groups, []) => some (.v6 groups)
      | _ => none

/-- `str::parse::<u16>`. -/
def parsePort (s : String) : Option ℕ :=
  Text.parseUnsigned 10 65536 s.toList

/-- The host of a well-formed authority, with or without a port. -/
def authorityHost (authority : String) : Option String :=
  match Text.stripPrefix "[" authority with
  | some bracketed =>
      match Text.splitOnce ']' bracketed with
      | none => none
      | some (host, suffix) =>
          if suffix.isEmpty || (Text.stripPrefix ":" suffix).any fun port => (parsePort port).isSome
          then some host
          else none
  | none =>
      match Text.splitOnce ':' authority with
      | some (host, port) => if (parsePort port).isSome then some host else none
      | none => some authority

/-- `is_loopback_authority`. -/
def isLoopbackAuthority (authority : String) : Bool :=
  (authorityHost authority).any fun host =>
    Text.eqIgnoreAsciiCase host "localhost" || (parseIpAddr host).any IpAddr.isLoopback

/-- `loopback_authority_rejects_malformed_and_rebinding_hosts`. -/
example : (["localhost", "localhost:4040", "127.0.0.1:4040", "[::1]:4040"].all
      isLoopbackAuthority = true) ∧
    (["attacker.example:4040", "localhost:4040:evil", "[::1].attacker.example",
      "[::1]:not-a-port"].any isLoopbackAuthority = false) := by
  decide +kernel

end Rgrok
