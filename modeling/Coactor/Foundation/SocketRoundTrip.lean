import Coactor.Foundation.SocketAddress
import Mathlib.Data.List.Basic

/-!
# Socket addresses that are printed are read back

Reading inverts printing, printing inverts the reading of IPv4 addresses, and
reading does not tell upper case from lower case.
-/

namespace Coactor.Foundation

variable {rest text input : List Char}

/-! ## IPv4 addresses -/

theorem readChar_cons (character : Char) (rest : List Char) :
    readChar character (character :: rest) = some rest := by
  simp [readChar]

theorem readChar_eq_some {character : Char} (read : readChar character input = some rest) :
    input = character :: rest := by
  cases input with
  | nil => cases read
  | cons first tail =>
      simp only [readChar] at read
      split at read
      · rename_i same
        rw [same, Option.some.inj read]
      · cases read

theorem stops_cons {radix : Nat} {character : Char} (stops : toDigit radix character = none) :
    Stops radix (character :: rest) := by
  rintro other ⟨⟩
  exact stops

theorem readOctet_print (octet : Fin 256) (stops : Stops 10 rest) :
    readOctet (printNumber 10 octet ++ rest) = some (octet, rest) := by
  refine readNumber_printNumber (by decide) (by decide) stops octet ?_
  rintro most ⟨⟩
  omega

/-- A printed IPv4 address is read back. -/
theorem readIpv4Addr_print (ip : Ipv4Addr) (stops : Stops 10 rest) :
    readIpv4Addr (printIpv4Addr ip ++ rest) = some (ip, rest) := by
  have dot : ∀ {tail : List Char}, Stops 10 ('.' :: tail) := stops_cons (by decide)
  simp only [readIpv4Addr, printIpv4Addr, List.append_assoc, List.cons_append, readOctet_print _ dot,
    readOctet_print _ stops, Option.bind_some, readChar_cons, Option.map_some]

/-- An IPv4 address is read from its print only. -/
theorem printIpv4Addr_of_read {ip : Ipv4Addr} (read : readIpv4Addr input = some (ip, rest)) :
    input = printIpv4Addr ip ++ rest := by
  obtain ⟨⟨a, afterA⟩, readA, read⟩ := Option.bind_eq_some_iff.mp read
  obtain ⟨⟨b, afterB⟩, readB, read⟩ := Option.bind_eq_some_iff.mp read
  obtain ⟨⟨c, afterC⟩, readC, read⟩ := Option.bind_eq_some_iff.mp read
  obtain ⟨⟨d, afterD⟩, readD, same⟩ := Option.map_eq_some_iff.mp read
  obtain ⟨rfl, rfl⟩ := Prod.mk.inj same
  obtain ⟨beforeB, dotB, readB⟩ := Option.bind_eq_some_iff.mp readB
  obtain ⟨beforeC, dotC, readC⟩ := Option.bind_eq_some_iff.mp readC
  obtain ⟨beforeD, dotD, readD⟩ := Option.bind_eq_some_iff.mp readD
  have textA := printNumber_of_readNumber readA
  have textB := printNumber_of_readNumber readB
  have textC := printNumber_of_readNumber readC
  have textD := printNumber_of_readNumber readD
  simp only at dotB dotC dotD
  rw [textA, readChar_eq_some dotB, textB, readChar_eq_some dotC, textC, readChar_eq_some dotD, textD]
  simp only [printIpv4Addr, List.append_assoc, List.cons_append]

/-! ## Segments -/

theorem readSegment_print (segment : Segment) (stops : Stops 16 rest) :
    readSegment (printNumber 16 segment ++ rest) = some (segment, rest) := by
  refine readNumber_printNumber (by decide) (by decide) stops segment ?_
  rintro most ⟨⟩
  omega

theorem toDigit_ten_of_sixteen {character : Char} (none' : toDigit 16 character = none) :
    toDigit 10 character = none := by
  unfold toDigit at none' ⊢
  split at none'
  · cases none'
  · rw [if_neg (by omega)]

theorem Stops.ten (stops : Stops 16 rest) : Stops 10 rest :=
  fun character leads => toDigit_ten_of_sixteen (stops character leads)

theorem readNumber_of_stops {radix bound : Nat} {maxDigits : Option Nat} {allowZeroPrefix : Bool}
    (stops : Stops radix input) :
    readNumber radix maxDigits allowZeroPrefix bound input = none := by
  have spans := @spanDigits_append radix input [] [] rfl stops
  rw [List.nil_append] at spans
  simp only [readNumber, spans, if_true]

theorem readIpv4Addr_of_stops (stops : Stops 10 input) : readIpv4Addr input = none := by
  rw [readIpv4Addr, readOctet, readNumber_of_stops stops, Option.bind_none]

/-- What may follow segments: neither a digit, nor a dot, nor another segment. -/
structure Closes (rest : List Char) : Prop where
  stops : Stops 16 rest
  dot : rest.head? ≠ some '.'
  colon : ∀ tail, rest = ':' :: tail → Stops 16 tail

/-- A segment is not the start of an IPv4 address unless a dot follows. -/
theorem readIpv4Addr_segment (segment : Segment) (stops : Stops 16 rest)
    (dot : rest.head? ≠ some '.') : readIpv4Addr (printNumber 16 segment ++ rest) = none := by
  have plain : '.' ∉ printNumber 16 segment.val := by
    intro member
    exact toDigit_of_mem_printNumber (by decide) (by decide) member (by decide)
  rw [readIpv4Addr]
  cases read : readOctet (printNumber 16 segment ++ rest) with
  | none => rfl
  | some octet =>
      obtain ⟨octet, after⟩ := octet
      have written := printNumber_of_readNumber read
      simp only [Option.bind_some]
      cases found : readChar '.' after with
      | none => rfl
      | some tail =>
          obtain rfl := readChar_eq_some found
          exfalso
          rcases List.append_eq_append_iff.mp written with ⟨between, first, second⟩ |
            ⟨between, first, second⟩
          · cases between with
            | nil =>
                rw [List.nil_append] at second
                exact dot (second ▸ rfl)
            | cons character between =>
                have member : character ∈ printNumber 10 octet.val := by
                  rw [first]
                  exact List.mem_append_right _ List.mem_cons_self
                exact toDigit_of_mem_printNumber (by decide) (by decide) member
                  (stops.ten character (second ▸ rfl))
          · cases between with
            | nil =>
                rw [List.nil_append] at second
                exact dot (second ▸ rfl)
            | cons character between =>
                obtain ⟨rfl, -⟩ := List.cons.inj second
                refine plain ?_
                rw [first]
                exact List.mem_append_right _ List.mem_cons_self

/-- Segments, each after a colon. -/
def colonSegments (segments : List Segment) : List Char :=
  segments.flatMap fun segment => ':' :: printNumber 16 segment

theorem printSegments_cons (segment : Segment) (segments : List Segment) :
    printSegments (segment :: segments) = printNumber 16 segment ++ colonSegments segments := by
  induction segments generalizing segment with
  | nil => simp [printSegments, colonSegments]
  | cons next segments ih =>
      rw [printSegments, ih next]
      · simp [colonSegments]
      · simp

theorem closes_segments (closes : Closes rest) (segments : List Segment) :
    Stops 16 (colonSegments segments ++ rest) ∧
      (colonSegments segments ++ rest).head? ≠ some '.' := by
  cases segments with
  | nil => exact ⟨closes.stops, closes.dot⟩
  | cons segment segments => exact ⟨stops_cons (by decide), by simp [colonSegments]⟩

/-- Nothing more is read where segments are closed. -/
theorem readGroups_closed (closes : Closes rest) (left : Nat) :
    readGroups left false rest = ([], false, rest) := by
  cases left with
  | zero => rfl
  | succ left =>
      have ended : (readSeparator false rest).bind readIpv4Addr = none ∧
          (readSeparator false rest).bind readSegment = none := by
        rw [readSeparator, if_neg (by decide)]
        cases found : readChar ':' rest with
        | none => exact ⟨rfl, rfl⟩
        | some tail =>
            have stops := closes.colon tail (readChar_eq_some found)
            exact ⟨readIpv4Addr_of_stops stops.ten, readNumber_of_stops stops⟩
      simp only [readGroups, ended, ite_self]

/-- A segment is read, and not as the start of an IPv4 address. -/
theorem readGroups_segment {first : Bool} {segment : Segment} {left : Nat}
    (before : readSeparator first input = some (printNumber 16 segment ++ rest))
    (stops : Stops 16 rest) (dot : rest.head? ≠ some '.') :
    readGroups (left + 1) first input =
      (segment :: (readGroups left false rest).1, (readGroups left false rest).2) := by
  simp only [readGroups, before, Option.bind_some, readIpv4Addr_segment segment stops dot, ite_self,
    readSegment_print segment stops]

/-- Segments that each follow a colon are read back. -/
theorem readGroups_colonSegments (closes : Closes rest) {segments : List Segment} {left : Nat}
    (room : segments.length ≤ left) :
    readGroups left false (colonSegments segments ++ rest) = (segments, false, rest) := by
  induction segments generalizing left with
  | nil => exact readGroups_closed closes left
  | cons segment segments ih =>
      cases left with
      | zero => cases room
      | succ left =>
          obtain ⟨stops, dot⟩ := closes_segments closes segments
          have before : readSeparator false (colonSegments (segment :: segments) ++ rest) =
              some (printNumber 16 segment ++ (colonSegments segments ++ rest)) := by
            simp [readSeparator, colonSegments, readChar]
          rw [readGroups_segment before stops dot, ih (Nat.le_of_succ_le_succ room)]

/-- Printed segments are read back. -/
theorem readGroups_print (closes : Closes rest) {segments : List Segment} {left : Nat}
    (room : segments.length ≤ left) :
    readGroups left true (printSegments segments ++ rest) = (segments, false, rest) := by
  cases segments with
  | nil =>
      cases left with
      | zero => rfl
      | succ left =>
          simp only [printSegments, List.nil_append, readGroups, readSeparator, if_true,
            Option.bind_some, readIpv4Addr_of_stops closes.stops.ten, ite_self, readSegment,
            readNumber_of_stops closes.stops]
  | cons segment segments =>
      cases left with
      | zero => cases room
      | succ left =>
          obtain ⟨stops, dot⟩ := closes_segments closes segments
          have before : readSeparator true (printSegments (segment :: segments) ++ rest) =
              some (printNumber 16 segment ++ (colonSegments segments ++ rest)) := by
            rw [readSeparator, if_pos rfl, printSegments_cons, List.append_assoc]
          rw [readGroups_segment before stops dot,
            readGroups_colonSegments closes (Nat.le_of_succ_le_succ room)]

/-! ## Runs of zeros -/

/-- A span of zeros that ends where the rest of the segments begins. -/
def Span.EndsAt (span : Span) (done : List Segment) : Prop :=
  span.length = 0 ∨
    ∃ front, done = front ++ List.replicate span.length 0 ∧ front.length = span.start

/-- A span of zeros somewhere in the segments. -/
def Span.Within (span : Span) (segments : List Segment) : Prop :=
  span.length = 0 ∨ ∃ front back,
    segments = front ++ (List.replicate span.length 0 ++ back) ∧ front.length = span.start

theorem Span.EndsAt.within {span : Span} {done : List Segment} (ends : span.EndsAt done)
    (rest : List Segment) : span.Within (done ++ rest) := by
  refine ends.imp_right ?_
  rintro ⟨front, rfl, start⟩
  exact ⟨front, rest, List.append_assoc _ _ _, start⟩

theorem longestZeros_within {done rest : List Segment} {current longest : Span}
    (ends : current.EndsAt done) (within : longest.Within (done ++ rest)) :
    (longestZeros done.length current longest rest).Within (done ++ rest) := by
  induction rest generalizing done current longest with
  | nil => exact within
  | cons segment rest ih =>
      have shift : done ++ segment :: rest = done ++ [segment] ++ rest := by simp
      have longer : done.length + 1 = (done ++ [segment]).length := by simp
      rw [longestZeros]
      split
      · rename_i zero
        subst zero
        simp only
        have grows : Span.EndsAt ⟨if current.length = 0 then done.length else current.start,
            current.length + 1⟩ (done ++ [0]) := by
          right
          rcases ends with none | ⟨front, rfl, start⟩
          · exact ⟨done, by simp [none], by simp [none]⟩
          · by_cases none : current.length = 0
            · exact ⟨front, by simp [none], by simp [none]⟩
            · exact ⟨front, by simp [List.replicate_succ'], by simp [none, start]⟩
        rw [shift, longer]
        refine ih grows ?_
        split
        · exact grows.within rest
        · rwa [shift] at within
      · rw [shift, longer]
        refine ih (.inl rfl) ?_
        rwa [shift] at within

/-- A printed run of zeros can be filled in again. -/
theorem split_of_within {span : Span} {segments : List Segment} (within : span.Within segments)
    (long : 0 < span.length) :
    segments = segments.take span.start ++ (List.replicate span.length 0 ++
      segments.drop (span.start + span.length)) := by
  rcases within with none | ⟨front, back, rfl, start⟩
  · omega
  · rw [← start, List.take_left, ← List.drop_drop, List.drop_left, List.drop_left' (by simp)]

/-! ## IPv6 addresses -/

theorem toIpv4Mapped_eq_some {ip : Ipv6Addr} {mapped : Ipv4Addr}
    (found : ip.toIpv4Mapped = some mapped) :
    ip.segments = [0, 0, 0, 0, 0, 65535] ++ mapped.segments := by
  unfold Ipv6Addr.toIpv4Mapped at found
  split at found
  · rename_i high low here
    obtain rfl := Option.some.inj found
    rw [here]
    have whole : ∀ segment : Segment, segmentOf ⟨segment.val / 256, by omega⟩
        ⟨segment.val % 256, by omega⟩ = segment := by
      intro segment
      refine Fin.ext ?_
      simp only [segmentOf]
      omega
    simp only [Ipv4Addr.segments, whole, List.cons_append, List.nil_append]
  · cases found

/-- What follows an IPv6 address in a socket address. -/
def ClosesIp (rest : List Char) : Prop := ∃ tail, rest = '%' :: tail ∨ rest = ']' :: tail

theorem ClosesIp.closes (closes : ClosesIp rest) : Closes rest := by
  obtain ⟨tail, rfl | rfl⟩ := closes
  · exact ⟨stops_cons (by decide), by simp, by rintro other ⟨⟩⟩
  · exact ⟨stops_cons (by decide), by simp, by rintro other ⟨⟩⟩

theorem closes_colons {tail : List Char} : Closes (':' :: ':' :: tail) :=
  ⟨stops_cons (by decide), by simp, by
    rintro other ⟨⟩
    exact stops_cons (by decide)⟩

/-- Segments on both sides of two colons are read with zeros between. -/
theorem readIpv6Addr_parts {head tail : List Segment} {between : Bool} {after : List Char}
    (short : head.length < 8)
    (reads : readGroups (8 - (head.length + 1)) true after = (tail, between, rest))
    {ip : Ipv6Addr}
    (segments : ip.segments =
      head ++ (List.replicate (8 - (head.length + tail.length)) 0 ++ tail)) :
    readIpv6Addr (printSegments head ++ ':' :: ':' :: after) = some (ip, rest) := by
  have front := readGroups_print (@closes_colons after) (Nat.le_of_lt short)
  obtain ⟨own, size⟩ := ip
  obtain rfl : own = _ := segments
  unfold readIpv6Addr
  simp only [front, reads, Nat.ne_of_lt short, dif_neg, not_false_eq_true, Bool.false_eq_true,
    if_false, readChar_cons, Option.bind_some, Option.map_some, Ipv6Addr.ofParts, List.append_assoc]

/-- An IPv4 address after the segment `ffff` is read as two segments. -/
theorem readGroups_mapped (mapped : Ipv4Addr) (closes : Closes rest) :
    readGroups 7 true ("ffff:".toList ++ (printIpv4Addr mapped ++ rest)) =
      (65535 :: mapped.segments, true, rest) := by
  have before : readSeparator true ("ffff:".toList ++ (printIpv4Addr mapped ++ rest)) =
      some (printNumber 16 (65535 : Segment).val ++ (':' :: (printIpv4Addr mapped ++ rest))) := by
    have ffff : printNumber 16 (65535 : Segment).val = "ffff".toList := by decide
    rw [ffff]
    rfl
  have embedded : readGroups 6 false (':' :: (printIpv4Addr mapped ++ rest)) =
      (mapped.segments, true, rest) := by
    simp only [readGroups, readSeparator, Bool.false_eq_true, if_false, readChar_cons,
      Option.bind_some, readIpv4Addr_print mapped closes.stops.ten, Nat.succ_ne_zero]
  rw [readGroups_segment before (stops_cons (by decide)) (by simp), embedded]

/-- A printed IPv6 address is read back. -/
theorem readIpv6Addr_print (ip : Ipv6Addr) (closes : ClosesIp rest) :
    readIpv6Addr (printIpv6Addr ip ++ rest) = some (ip, rest) := by
  unfold printIpv6Addr
  cases found : ip.toIpv4Mapped with
  | some mapped =>
      exact @readIpv6Addr_parts rest [] (65535 :: mapped.segments) true _ (by decide)
        (readGroups_mapped mapped closes.closes) ip (toIpv4Mapped_eq_some found)
  | none =>
      simp only
      split
      · rename_i long
        have within := @longestZeros_within [] ip.segments ⟨0, 0⟩ ⟨0, 0⟩ (.inl rfl) (.inl rfl)
        have parts := split_of_within within (by simpa using Nat.lt_trans Nat.one_pos long)
        simp only [List.nil_append, List.length_nil] at parts
        generalize ip.segments.take (longestZeros 0 ⟨0, 0⟩ ⟨0, 0⟩ ip.segments).start = head at *
        generalize ip.segments.drop ((longestZeros 0 ⟨0, 0⟩ ⟨0, 0⟩ ip.segments).start +
          (longestZeros 0 ⟨0, 0⟩ ⟨0, 0⟩ ip.segments).length) = tail at *
        generalize (longestZeros 0 ⟨0, 0⟩ ⟨0, 0⟩ ip.segments).length = zeros at *
        have size := ip.size
        rw [parts] at size
        simp only [List.length_append, List.length_replicate] at size
        have room : tail.length ≤ 8 - (head.length + 1) := by omega
        have exact' : 8 - (head.length + tail.length) = zeros := by omega
        rw [List.append_assoc, List.cons_append, List.cons_append]
        refine readIpv6Addr_parts (by omega) (readGroups_print closes.closes room) ?_
        rw [exact', parts]
      · have whole := readGroups_print closes.closes (Nat.le_of_eq ip.size)
        unfold readIpv6Addr
        simp only [whole, ip.size, dif_pos]

/-! ## Socket addresses -/

theorem readPort_print (port : Fin 65536) :
    readPort (':' :: printNumber 10 port) = some (port, []) := by
  have reads := @readNumber_printNumber 10 65536 [] none true (by decide) (by decide)
    (by rintro character ⟨⟩) port (by rintro most ⟨⟩)
  rw [List.append_nil] at reads
  rw [readPort, readChar_cons, Option.bind_some, reads]

theorem readScopeId_print (scopeId : Fin 4294967296) (tail : List Char) :
    readScopeId ((if scopeId = 0 then [] else '%' :: printNumber 10 scopeId) ++ ']' :: tail) =
      (scopeId, ']' :: tail) := by
  split
  · rename_i zero
    rw [zero]
    simp [readScopeId, readChar]
  · have reads := @readNumber_printNumber 10 4294967296 (']' :: tail) none true (by decide)
      (by decide) (stops_cons (by decide)) scopeId (by rintro most ⟨⟩)
    rw [List.cons_append, readScopeId, readChar_cons, Option.bind_some, reads, Option.getD_some]

/-- What is printed is read back. -/
theorem parseSocketAddr_print (address : SocketAddr) :
    parseSocketAddr (printSocketAddr address) = some address := by
  unfold parseSocketAddr
  cases address with
  | v4 ip port =>
      have colon : Stops 10 (':' :: printNumber 10 port.val) := stops_cons (by decide)
      have reads : readSocketAddrV4 (printSocketAddr (.v4 ip port)) = some (.v4 ip port, []) := by
        simp only [readSocketAddrV4, printSocketAddr, readIpv4Addr_print ip colon, Option.bind_some,
          readPort_print, Option.map_some]
      rw [reads, Option.some_or]
  | v6 ip port scopeId =>
      have bracket : readSocketAddrV4 (printSocketAddr (.v6 ip port scopeId)) = none := by
        rw [readSocketAddrV4, printSocketAddr, readIpv4Addr_of_stops (stops_cons (by decide)),
          Option.bind_none]
      have closes : ClosesIp ((if scopeId = 0 then [] else '%' :: printNumber 10 scopeId) ++
          ']' :: ':' :: printNumber 10 port) := by
        split
        · exact ⟨_, .inr rfl⟩
        · exact ⟨_, .inl rfl⟩
      have reads : readSocketAddrV6 (printSocketAddr (.v6 ip port scopeId)) =
          some (.v6 ip port scopeId, []) := by
        simp only [readSocketAddrV6, printSocketAddr, readChar_cons, Option.bind_some,
          readIpv6Addr_print ip closes, readScopeId_print, readPort_print, Option.map_some]
      rw [bracket, Option.none_or, reads]

/-- What is printed before the port. -/
def SocketAddr.host : SocketAddr → List Char
  | .v4 ip _ => printIpv4Addr ip
  | .v6 ip _ scopeId =>
      '[' :: (printIpv6Addr ip ++ ((if scopeId = 0 then [] else '%' :: printNumber 10 scopeId) ++ [']']))

theorem printSocketAddr_eq (address : SocketAddr) :
    printSocketAddr address = address.host ++ ':' :: printNumber 10 address.port := by
  cases address with
  | v4 ip port => rfl
  | v6 ip port scopeId =>
      simp only [printSocketAddr, SocketAddr.host, SocketAddr.port, List.cons_append,
        List.append_assoc, List.nil_append]

/-- A text without brackets is read as an IPv4 address and a port. -/
theorem parseSocketAddr_v4 {address : SocketAddr} (read : parseSocketAddr text = some address)
    (plain : text.head? ≠ some '[') :
    ∃ ip port portText, address = .v4 ip port ∧ text = printIpv4Addr ip ++ ':' :: portText ∧
      readNumber 10 none true 65536 portText = some (port, []) := by
  have noBracket : readSocketAddrV6 text = none := by
    rw [readSocketAddrV6]
    cases found : readChar '[' text with
    | none => rfl
    | some rest => exact absurd (readChar_eq_some found ▸ rfl) plain
  unfold parseSocketAddr at read
  rw [noBracket, Option.or_none] at read
  split at read
  · rename_i found here
    obtain rfl := Option.some.inj read
    obtain ⟨⟨ip, after⟩, readIp, here⟩ := Option.bind_eq_some_iff.mp here
    obtain ⟨⟨port, ended⟩, readPort, same⟩ := Option.map_eq_some_iff.mp here
    obtain ⟨rfl, rfl⟩ := Prod.mk.inj same
    obtain ⟨portText, colon, digits⟩ := Option.bind_eq_some_iff.mp readPort
    refine ⟨ip, port, portText, rfl, ?_, digits⟩
    simp only at colon
    rw [printIpv4Addr_of_read readIp, readChar_eq_some colon]
  · cases read

/-! ## Characters -/

/-- The characters of printed socket addresses. -/
def isAddressChar (character : Char) : Bool :=
  (toDigit 16 character).isSome || ".:[]%".toList.contains character

theorem isAddressChar_printNumber {radix number : Nat} (wide : 1 < radix) (small : radix ≤ 16) :
    ∀ character ∈ printNumber radix number, isAddressChar character = true := by
  intro character member
  have listed := List.mem_map_of_mem (f := toDigit radix) member
  rw [map_printNumber wide small] at listed
  obtain ⟨digit, -, same⟩ := List.mem_map.mp listed
  rw [isAddressChar, Bool.or_eq_true]
  left
  unfold toDigit at same ⊢
  split at same
  · rw [if_pos (by omega)]
    rfl
  · cases same

theorem isAddressChar_ipv4 (ip : Ipv4Addr) :
    ∀ character ∈ printIpv4Addr ip, isAddressChar character = true := by
  intro character member
  simp only [printIpv4Addr, List.mem_append, List.mem_cons] at member
  rcases member with a | rfl | b | rfl | c | rfl | d
  · exact isAddressChar_printNumber (by decide) (by decide) character a
  · rfl
  · exact isAddressChar_printNumber (by decide) (by decide) character b
  · rfl
  · exact isAddressChar_printNumber (by decide) (by decide) character c
  · rfl
  · exact isAddressChar_printNumber (by decide) (by decide) character d

theorem isAddressChar_segments (segments : List Segment) :
    ∀ character ∈ printSegments segments, isAddressChar character = true := by
  intro character member
  cases segments with
  | nil => cases member
  | cons segment segments =>
      rw [printSegments_cons] at member
      rcases List.mem_append.mp member with first | later
      · exact isAddressChar_printNumber (by decide) (by decide) character first
      · obtain ⟨next, -, here⟩ := List.mem_flatMap.mp later
        rcases List.mem_cons.mp here with rfl | digit
        · rfl
        · exact isAddressChar_printNumber (by decide) (by decide) character digit

theorem isAddressChar_ipv6 (ip : Ipv6Addr) :
    ∀ character ∈ printIpv6Addr ip, isAddressChar character = true := by
  intro character member
  unfold printIpv6Addr at member
  split at member
  · rename_i mapped found
    rcases List.mem_append.mp member with front | back
    · have every : "::ffff:".toList.all isAddressChar = true := rfl
      exact List.all_eq_true.mp every character front
    · exact isAddressChar_ipv4 mapped character back
  · simp only at member
    split at member
    · simp only [List.mem_append, List.mem_cons] at member
      rcases member with front | rfl | rfl | back
      · exact isAddressChar_segments _ character front
      · rfl
      · rfl
      · exact isAddressChar_segments _ character back
    · exact isAddressChar_segments _ character member

/-- A printed socket address has hexadecimal digits and separators only. -/
theorem isAddressChar_print (address : SocketAddr) :
    ∀ character ∈ printSocketAddr address, isAddressChar character = true := by
  intro character member
  cases address with
  | v4 ip port =>
      rcases List.mem_append.mp member with host | rest
      · exact isAddressChar_ipv4 ip character host
      · rcases List.mem_cons.mp rest with rfl | digit
        · rfl
        · exact isAddressChar_printNumber (by decide) (by decide) character digit
  | v6 ip port scopeId =>
      simp only [printSocketAddr, List.mem_cons, List.mem_append] at member
      rcases member with rfl | host | scope | rfl | rfl | digit
      · rfl
      · exact isAddressChar_ipv6 ip character host
      · split at scope
        · cases scope
        · rcases List.mem_cons.mp scope with rfl | digit
          · rfl
          · exact isAddressChar_printNumber (by decide) (by decide) character digit
      · rfl
      · rfl
      · exact isAddressChar_printNumber (by decide) (by decide) character digit

/-! ## Upper and lower case -/

theorem toNat_toLower (character : Char) :
    character.toLower.toNat =
      if 65 ≤ character.toNat ∧ character.toNat ≤ 90 then character.toNat + 32
      else character.toNat := by
  have upper : (character.val ≥ 'A'.val ∧ character.val ≤ 'Z'.val) ↔
      (65 ≤ character.toNat ∧ character.toNat ≤ 90) := Iff.rfl
  unfold Char.toLower
  by_cases letter : 65 ≤ character.toNat ∧ character.toNat ≤ 90
  · rw [dif_pos (upper.mpr letter), if_pos letter]
    have value : (character.val + 32).toNat = character.val.toNat + 32 := by
      have below : character.val.toNat ≤ 90 := letter.2
      rw [UInt32.toNat_add]
      simp only [UInt32.reduceToNat]
      omega
    exact value
  · rw [dif_neg (fun both => letter (upper.mp both)), if_neg letter]

theorem digitValue_eq (character : Char) :
    digitValue character =
      if 48 ≤ character.toNat ∧ character.toNat ≤ 57 then character.toNat - 48
      else if 97 ≤ character.toNat ∧ character.toNat ≤ 102 then character.toNat - 87
      else if 65 ≤ character.toNat ∧ character.toNat ≤ 70 then character.toNat - 55
      else 16 := by
  have decimal : character.isDigit = true ↔ 48 ≤ character.toNat ∧ character.toNat ≤ 57 := by
    simp only [Char.isDigit, Bool.and_eq_true, decide_eq_true_eq]
    exact Iff.rfl
  simp only [digitValue, decimal]
  rfl

/-- Hexadecimal digits have no case. -/
theorem digitValue_toLower (character : Char) :
    digitValue character.toLower = digitValue character := by
  rw [digitValue_eq, digitValue_eq, toNat_toLower]
  split_ifs <;> omega

/-- The text in lower case. -/
abbrev lower (text : List Char) : List Char := text.map Char.toLower

/-- The reader takes the same from a text in lower case. -/
def Caseless {α : Type} (read : List Char → Option (α × List Char)) : Prop :=
  ∀ input, read (lower input) = (read input).map fun found => (found.1, lower found.2)

theorem toDigit_toLower (radix : Nat) (character : Char) :
    toDigit radix character.toLower = toDigit radix character := by
  rw [toDigit, digitValue_toLower, toDigit]

theorem spanDigits_lower (radix : Nat) (input : List Char) :
    spanDigits radix (lower input) =
      ((spanDigits radix input).1, lower (spanDigits radix input).2) := by
  induction input with
  | nil => rfl
  | cons character rest ih =>
      simp only [lower, List.map_cons, spanDigits, toDigit_toLower] at ih ⊢
      split
      · rw [ih]
      · rfl

theorem caseless_readNumber (radix : Nat) (maxDigits : Option Nat) (allowZeroPrefix : Bool)
    (bound : Nat) : Caseless (readNumber radix maxDigits allowZeroPrefix bound) := by
  intro input
  simp only [readNumber, spanDigits_lower]
  split_ifs <;> rfl

theorem readChar_lower {expected : Char}
    (caseless : ∀ character : Char, character.toLower = expected ↔ character = expected)
    (input : List Char) : readChar expected (lower input) = (readChar expected input).map lower := by
  cases input with
  | nil => rfl
  | cons character rest =>
      simp only [lower, List.map_cons, readChar, caseless]
      split <;> rfl

/-- Separators are no letters. -/
theorem toLower_eq_iff {expected : Char} (below : expected.toNat < 65 ∨
    90 < expected.toNat ∧ expected.toNat < 97) (character : Char) :
    character.toLower = expected ↔ character = expected := by
  rw [← Char.toNat_inj, ← Char.toNat_inj, toNat_toLower]
  split <;> omega

theorem caseless_after {α : Type} {read : List Char → Option (α × List Char)} {expected : Char}
    (caseless : Caseless read)
    (plain : expected.toNat < 65 ∨ 90 < expected.toNat ∧ expected.toNat < 97) :
    Caseless fun input => (readChar expected input).bind read := by
  intro input
  simp only [readChar_lower (toLower_eq_iff plain)]
  cases readChar expected input with
  | none => rfl
  | some rest => exact caseless rest

theorem caseless_readOctet : Caseless readOctet := caseless_readNumber _ _ _ _

theorem caseless_readSegment : Caseless readSegment := caseless_readNumber _ _ _ _

theorem caseless_readIpv4Addr : Caseless readIpv4Addr := by
  intro input
  have dot : ∀ rest, (readChar '.' (lower rest)).bind readOctet =
      ((readChar '.' rest).bind readOctet).map fun found => (found.1, lower found.2) :=
    caseless_after caseless_readOctet (by decide)
  simp only [readIpv4Addr, caseless_readOctet input]
  cases readOctet input with
  | none => rfl
  | some a =>
      simp only [Option.map_some, Option.bind_some, dot]
      cases (readChar '.' a.2).bind readOctet with
      | none => rfl
      | some b =>
          simp only [Option.map_some, Option.bind_some, dot]
          cases (readChar '.' b.2).bind readOctet with
          | none => rfl
          | some c =>
              simp only [Option.map_some, Option.bind_some, dot, Option.map_map]
              rfl

theorem readSeparator_lower (first : Bool) (input : List Char) :
    readSeparator first (lower input) = (readSeparator first input).map lower := by
  cases first with
  | true => rfl
  | false => exact readChar_lower (toLower_eq_iff (by decide)) input

theorem caseless_separated {α : Type} {read : List Char → Option (α × List Char)}
    (caseless : Caseless read) (first : Bool) :
    Caseless fun input => (readSeparator first input).bind read := by
  intro input
  simp only [readSeparator_lower]
  cases readSeparator first input with
  | none => rfl
  | some rest => exact caseless rest

theorem readGroups_lower (left : Nat) (first : Bool) (input : List Char) :
    readGroups left first (lower input) =
      ((readGroups left first input).1, (readGroups left first input).2.1,
        lower (readGroups left first input).2.2) := by
  induction left generalizing first input with
  | zero => rfl
  | succ left ih =>
      have embedded := caseless_separated caseless_readIpv4Addr first input
      have segment := caseless_separated caseless_readSegment first input
      simp only at embedded segment
      simp only [readGroups, embedded, segment]
      cases (readSeparator first input).bind readIpv4Addr with
      | none =>
          simp only [Option.map_none, ite_self]
          cases (readSeparator first input).bind readSegment with
          | none => rfl
          | some found => simp only [Option.map_some, ih]
      | some found =>
          by_cases last : left = 0
          · simp only [last, if_true]
            cases (readSeparator first input).bind readSegment with
            | none => rfl
            | some found => rfl
          · simp only [last, if_false, Option.map_some]

theorem caseless_readIpv6Addr : Caseless readIpv6Addr := by
  intro input
  simp only [readIpv6Addr, readGroups_lower]
  split_ifs with whole embedded
  · rfl
  · rfl
  · have colon := readChar_lower (@toLower_eq_iff ':' (by decide))
    rw [colon]
    cases readChar ':' (readGroups 8 true input).2.2 with
    | none => rfl
    | some rest =>
        simp only [Option.map_some, Option.bind_some, colon]
        cases readChar ':' rest with
        | none => rfl
        | some tail => simp only [Option.map_some, readGroups_lower]

theorem caseless_readPort : Caseless readPort :=
  caseless_after (caseless_readNumber _ _ _ _) (by decide)

theorem readScopeId_lower (input : List Char) :
    readScopeId (lower input) = ((readScopeId input).1, lower (readScopeId input).2) := by
  have scope := @caseless_after _ _ '%' (caseless_readNumber 10 none true 4294967296)
    (by decide) input
  simp only at scope
  rw [readScopeId, scope, readScopeId]
  cases (readChar '%' input).bind (readNumber 10 none true 4294967296) with
  | none => rfl
  | some found => rfl

theorem caseless_readSocketAddrV4 : Caseless readSocketAddrV4 := by
  intro input
  simp only [readSocketAddrV4, caseless_readIpv4Addr input]
  cases readIpv4Addr input with
  | none => rfl
  | some ip =>
      simp only [Option.map_some, Option.bind_some, caseless_readPort ip.2, Option.map_map]
      rfl

theorem caseless_readSocketAddrV6 : Caseless readSocketAddrV6 := by
  intro input
  have bracket := @caseless_after _ _ '[' caseless_readIpv6Addr (by decide) input
  have port := @caseless_after _ _ ']' caseless_readPort (by decide)
  simp only at bracket
  simp only [readSocketAddrV6, bracket]
  cases (readChar '[' input).bind readIpv6Addr with
  | none => rfl
  | some ip =>
      have closed := port (readScopeId ip.2).2
      simp only at closed
      simp only [Option.map_some, Option.bind_some, readScopeId_lower, closed, Option.map_map]
      rfl

/-- Reading does not tell upper case from lower case. -/
theorem parseSocketAddr_lower (text : List Char) :
    parseSocketAddr (lower text) = parseSocketAddr text := by
  simp only [parseSocketAddr, caseless_readSocketAddrV4 text, caseless_readSocketAddrV6 text]
  cases readSocketAddrV4 text with
  | none =>
      cases readSocketAddrV6 text with
      | none => rfl
      | some found =>
          obtain ⟨address, rest⟩ := found
          cases rest with
          | nil => rfl
          | cons character rest => rfl
  | some found =>
      obtain ⟨address, rest⟩ := found
      cases rest with
      | nil => rfl
      | cons character rest => rfl

end Coactor.Foundation
