import Coactor.Foundation.Numerals

/-!
# Socket addresses as text

How socket addresses are read and printed.  An IPv4 address is four decimal
octets; an IPv6 address is eight hexadecimal segments, of which a run of zeros
may be left out and the last two may be written as an IPv4 address; in a socket
address it stands in brackets, perhaps with a scope.
-/

namespace Coactor.Foundation

/-! ## Addresses -/

structure Ipv4Addr where
  a : Fin 256
  b : Fin 256
  c : Fin 256
  d : Fin 256
  deriving DecidableEq, Repr

abbrev Segment := Fin 65536

/-- Zero as a segment and as a port. -/
instance neZeroSegment : NeZero 65536 := ⟨by decide⟩

/-- Zero as a scope. -/
instance neZeroScope : NeZero 4294967296 := ⟨by decide⟩

structure Ipv6Addr where
  segments : List Segment
  size : segments.length = 8
  deriving DecidableEq

inductive SocketAddr where
  | v4 (ip : Ipv4Addr) (port : Fin 65536)
  | v6 (ip : Ipv6Addr) (port : Fin 65536) (scopeId : Fin 4294967296)
  deriving DecidableEq

def SocketAddr.port : SocketAddr → Fin 65536
  | .v4 _ port | .v6 _ port _ => port

/-! ## Reading -/

/-- Two octets as one segment. -/
def segmentOf (high low : Fin 256) : Segment := ⟨high.val * 256 + low.val, by omega⟩

def Ipv4Addr.segments (ip : Ipv4Addr) : List Segment :=
  [segmentOf ip.a ip.b, segmentOf ip.c ip.d]

def readChar (expected : Char) : List Char → Option (List Char)
  | [] => none
  | character :: rest => if character = expected then some rest else none

def readOctet (input : List Char) : Option (Fin 256 × List Char) :=
  readNumber 10 (some 3) false 256 input

/-- `read_ipv4_addr`. -/
def readIpv4Addr (input : List Char) : Option (Ipv4Addr × List Char) :=
  (readOctet input).bind fun a =>
    ((readChar '.' a.2).bind readOctet).bind fun b =>
      ((readChar '.' b.2).bind readOctet).bind fun c =>
        ((readChar '.' c.2).bind readOctet).map fun d => (⟨a.1, b.1, c.1, d.1⟩, d.2)

def readSegment (input : List Char) : Option (Segment × List Char) :=
  readNumber 16 (some 4) true 65536 input

/-- `read_separator`: nothing stands before the first item. -/
def readSeparator (first : Bool) (input : List Char) : Option (List Char) :=
  if first then some input else readChar ':' input

/-- `read_groups`: at most `left` segments, of which the last two may be an IPv4
address, and whether they were. -/
def readGroups : Nat → Bool → List Char → List Segment × Bool × List Char
  | 0, _, input => ([], false, input)
  | left + 1, first, input =>
      match if left = 0 then none else (readSeparator first input).bind readIpv4Addr with
      | some (ip, rest) => (ip.segments, true, rest)
      | none =>
          match (readSeparator first input).bind readSegment with
          | some (segment, rest) =>
              let groups := readGroups left false rest
              (segment :: groups.1, groups.2)
          | none => ([], false, input)

theorem length_readGroups (left : Nat) (first : Bool) (input : List Char) :
    (readGroups left first input).1.length ≤ left := by
  induction left generalizing first input with
  | zero => exact Nat.le_refl 0
  | succ left ih =>
      unfold readGroups
      split
      · rename_i ip rest found
        have embedded : left ≠ 0 := by
          rintro rfl
          cases found
        simp only [Ipv4Addr.segments, List.length_cons, List.length_nil]
        omega
      · split
        · exact Nat.succ_le_succ (ih false _)
        · exact Nat.zero_le _

/-- Segments with zeros between head and tail. -/
def Ipv6Addr.ofParts (head tail : List Segment) (fits : head.length + tail.length ≤ 8) :
    Ipv6Addr where
  segments := head ++ List.replicate (8 - (head.length + tail.length)) 0 ++ tail
  size := by
    simp only [List.length_append, List.length_replicate]
    omega

/-- `read_ipv6_addr`. -/
def readIpv6Addr (input : List Char) : Option (Ipv6Addr × List Char) :=
  let head := readGroups 8 true input
  if whole : head.1.length = 8 then some (⟨head.1, whole⟩, head.2.2)
  else if head.2.1 then none
  else ((readChar ':' head.2.2).bind (readChar ':')).map fun rest =>
    let tail := readGroups (8 - (head.1.length + 1)) true rest
    (.ofParts head.1 tail.1 (by
      have front : head.1.length ≤ 8 := length_readGroups 8 true input
      have back : tail.1.length ≤ 8 - (head.1.length + 1) := length_readGroups _ true rest
      omega), tail.2.2)

def readPort (input : List Char) : Option (Fin 65536 × List Char) :=
  (readChar ':' input).bind (readNumber 10 none true 65536)

/-- `read_scope_id`, where an absent scope is zero. -/
def readScopeId (input : List Char) : Fin 4294967296 × List Char :=
  ((readChar '%' input).bind (readNumber 10 none true 4294967296)).getD (0, input)

/-- `read_socket_addr_v4`. -/
def readSocketAddrV4 (input : List Char) : Option (SocketAddr × List Char) :=
  (readIpv4Addr input).bind fun ip =>
    (readPort ip.2).map fun port => (.v4 ip.1 port.1, port.2)

/-- `read_socket_addr_v6`. -/
def readSocketAddrV6 (input : List Char) : Option (SocketAddr × List Char) :=
  ((readChar '[' input).bind readIpv6Addr).bind fun ip =>
    let scope := readScopeId ip.2
    ((readChar ']' scope.2).bind readPort).map fun port => (.v6 ip.1 port.1 scope.1, port.2)

/-- `SocketAddr::from_str`: the whole text is read. -/
def parseSocketAddr (text : List Char) : Option SocketAddr :=
  match (readSocketAddrV4 text).or (readSocketAddrV6 text) with
  | some (address, []) => some address
  | _ => none

/-! ## Printing -/

def printIpv4Addr (ip : Ipv4Addr) : List Char :=
  printNumber 10 ip.a ++ '.' :: (printNumber 10 ip.b ++ '.' ::
    (printNumber 10 ip.c ++ '.' :: printNumber 10 ip.d))

/-- Segments between colons. -/
def printSegments : List Segment → List Char
  | [] => []
  | [segment] => printNumber 16 segment
  | segment :: rest => printNumber 16 segment ++ ':' :: printSegments rest

/-- A run of zeros: where it starts and how long it is. -/
structure Span where
  start : Nat
  length : Nat
  deriving DecidableEq, Repr

/-- The longest run of zeros, the first of equal ones, in what is left from an
index on. -/
def longestZeros (index : Nat) (current longest : Span) : List Segment → Span
  | [] => longest
  | segment :: rest =>
      if segment = 0 then
        let current := ⟨if current.length = 0 then index else current.start, current.length + 1⟩
        longestZeros (index + 1) current
          (if longest.length < current.length then current else longest) rest
      else longestZeros (index + 1) ⟨0, 0⟩ longest rest

/-- `Ipv6Addr::to_ipv4_mapped`. -/
def Ipv6Addr.toIpv4Mapped (ip : Ipv6Addr) : Option Ipv4Addr :=
  match ip.segments with
  | [0, 0, 0, 0, 0, 65535, high, low] =>
      some ⟨⟨high.val / 256, by omega⟩, ⟨high.val % 256, by omega⟩, ⟨low.val / 256, by omega⟩,
        ⟨low.val % 256, by omega⟩⟩
  | _ => none

def printIpv6Addr (ip : Ipv6Addr) : List Char :=
  match ip.toIpv4Mapped with
  | some mapped => "::ffff:".toList ++ printIpv4Addr mapped
  | none =>
      let zeros := longestZeros 0 ⟨0, 0⟩ ⟨0, 0⟩ ip.segments
      if 1 < zeros.length then
        printSegments (ip.segments.take zeros.start) ++ ':' :: ':' ::
          printSegments (ip.segments.drop (zeros.start + zeros.length))
      else printSegments ip.segments

/-- `SocketAddr::to_string`. -/
def printSocketAddr : SocketAddr → List Char
  | .v4 ip port => printIpv4Addr ip ++ ':' :: printNumber 10 port
  | .v6 ip port scopeId =>
      '[' :: (printIpv6Addr ip ++
        ((if scopeId = 0 then [] else '%' :: printNumber 10 scopeId) ++
          ']' :: ':' :: printNumber 10 port))

end Coactor.Foundation
