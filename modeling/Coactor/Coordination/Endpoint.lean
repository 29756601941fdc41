import Coactor.Coordination.Records
import Coactor.Foundation.SocketRoundTrip
import Mathlib.Data.List.Basic

/-!
# Canonical endpoints

`canonical_endpoint` reads an advertised endpoint as a socket address or, if it
is none, as a host name and a port, and writes it in one way.  A Server without
a configured node id is known by its canonical endpoint.
-/

namespace Coactor.Coordination

open Coactor.Foundation

/-! ## Texts -/

/-- `str::rsplit_once`: what stands before and after the last separator. -/
def rsplitOnce (separator : Char) : List Char → Option (List Char × List Char)
  | [] => none
  | character :: rest =>
      match rsplitOnce separator rest with
      | some (before, after) => some (character :: before, after)
      | none => if character = separator then some ([], rest) else none

/-- `str::parse::<u16>`, which takes a plus sign and leading zeros. -/
def parsePort (text : List Char) : Option (Fin 65536) :=
  match readNumber 10 none true 65536 (if text.head? = some '+' then text.tail else text) with
  | some (port, []) => some port
  | _ => none

/-- `host.split('.')` finds DNS labels only. -/
def areDnsLabels (host : List Char) : Bool :=
  (host.splitOn '.').all fun label => isDnsLabel (String.ofList label)

/-! ## Endpoints -/

/-- A host name and a port, where a host name is written in lower case. -/
def canonicalHostPort (text : List Char) : Option (List Char) :=
  match rsplitOnce ':' text with
  | none => none
  | some (host, portText) =>
      if host.isEmpty || host.head? == some '[' || host.getLast? == some ']' ||
          host.contains ':' then none
      else
        match parsePort portText with
        | none => none
        | some port =>
            let name := lower host
            if port = 0 ∨ 253 < (String.ofList name).utf8ByteSize ∨ areDnsLabels name = false then
              none
            else some (name ++ ':' :: printNumber 10 port)

/-- `canonical_endpoint`. -/
def canonicalEndpoint (value : String) : Option String :=
  let text := value.toList
  if text.isEmpty || decide ("://".toList <:+: text) || text.contains '/' || text.contains '?' ||
      text.contains '#' then none
  else
    match parseSocketAddr text with
    | some address =>
        if address.port = 0 then none else some (String.ofList (printSocketAddr address))
    | none => (canonicalHostPort text).map String.ofList

/-- The errors of `into_starter`. -/
inductive StarterError where
  | missingAdvertisedEndpoint
  | invalidAdvertisedEndpoint
  | invalidNodeId
  | invalidNodeLeaseTtl
  | invalidCoordinationTimeout
  deriving DecidableEq, Repr

/-- What the application configures; durations in nanoseconds. -/
structure ServerBuilder where
  advertisedEndpoint : Option String
  nodeId : Option String
  nodeLeaseTtl : Nat
  coordinationTimeout : Nat
  deriving DecidableEq, Repr

/-- The identity and timing a Server starts with. -/
structure Starter where
  nodeId : String
  advertisedEndpoint : String
  nodeLeaseTtl : Nat
  coordinationTimeout : Nat
  deriving DecidableEq, Repr

/-- The endpoint `into_starter` advertises. -/
def ServerBuilder.endpoint (builder : ServerBuilder) : Except StarterError String :=
  match builder.advertisedEndpoint with
  | none => .error .missingAdvertisedEndpoint
  | some rawEndpoint =>
      match canonicalEndpoint rawEndpoint with
      | none => .error .invalidAdvertisedEndpoint
      | some endpoint => .ok endpoint

/-- The node id `into_starter` chooses. -/
def ServerBuilder.identity (builder : ServerBuilder) (advertisedEndpoint : String) :
    Except StarterError String :=
  match builder.nodeId with
  | some nodeId => if isDnsLabel nodeId then .ok nodeId else .error .invalidNodeId
  | none => .ok advertisedEndpoint

/-- `into_starter`. -/
def ServerBuilder.intoStarter (builder : ServerBuilder) : Except StarterError Starter := do
  let advertisedEndpoint ← builder.endpoint
  let nodeId ← builder.identity advertisedEndpoint
  if builder.nodeLeaseTtl = 0 then .error .invalidNodeLeaseTtl
  else if builder.coordinationTimeout = 0 then .error .invalidCoordinationTimeout
  else .ok ⟨nodeId, advertisedEndpoint, builder.nodeLeaseTtl, builder.coordinationTimeout⟩

/-! ## The last separator -/

variable {separator : Char} {before after text : List Char}

theorem rsplitOnce_eq_none (plain : separator ∉ text) : rsplitOnce separator text = none := by
  induction text with
  | nil => rfl
  | cons character text ih =>
      obtain ⟨other, plain⟩ := List.ne_and_not_mem_of_not_mem_cons plain
      simp only [rsplitOnce, ih plain, if_neg other.symm]

theorem rsplitOnce_append (plain : separator ∉ after) :
    rsplitOnce separator (before ++ separator :: after) = some (before, after) := by
  induction before with
  | nil => simp only [List.nil_append, rsplitOnce, rsplitOnce_eq_none plain, if_true]
  | cons character before ih => simp only [List.cons_append, rsplitOnce, ih]

theorem rsplitOnce_lower (text : List Char) :
    rsplitOnce ':' (lower text) =
      (rsplitOnce ':' text).map fun parts => (lower parts.1, lower parts.2) := by
  induction text with
  | nil => rfl
  | cons character text ih =>
      simp only [lower, List.map_cons, rsplitOnce, @toLower_eq_iff ':' (by decide)] at ih ⊢
      rw [ih]
      cases rsplitOnce ':' text with
      | some parts => rfl
      | none =>
          simp only [Option.map_none]
          split <;> rfl

/-! ## Ports -/

theorem colon_notMem_printNumber (number : Nat) : ':' ∉ printNumber 10 number := by
  intro member
  exact toDigit_of_mem_printNumber (by decide) (by decide) member (by decide)

theorem readNumber_print (port : Fin 65536) :
    readNumber 10 none true 65536 (printNumber 10 port) = some (port, []) := by
  have read := readPort_print port
  rwa [readPort, readChar_cons, Option.bind_some] at read

theorem parsePort_print (port : Fin 65536) : parsePort (printNumber 10 port) = some port := by
  have unsigned : (printNumber 10 port.val).head? ≠ some '+' := by
    intro plus
    exact toDigit_of_mem_printNumber (by decide) (by decide) (List.mem_of_head? plus) (by decide)
  rw [parsePort, if_neg unsigned, readNumber_print]

theorem parsePort_lower (text : List Char) : parsePort (lower text) = parsePort text := by
  have sign : (if (lower text).head? = some '+' then (lower text).tail else lower text) =
      lower (if text.head? = some '+' then text.tail else text) := by
    cases text with
    | nil => rfl
    | cons character text =>
        simp only [lower, List.map_cons, List.head?_cons, Option.some.injEq,
          @toLower_eq_iff '+' (by decide), List.tail_cons]
        split <;> rfl
  rw [parsePort, sign, caseless_readNumber, parsePort]
  cases readNumber 10 none true 65536 (if text.head? = some '+' then text.tail else text) with
  | none => rfl
  | some found =>
      obtain ⟨port, rest⟩ := found
      cases rest with
      | nil => rfl
      | cons character rest => rfl

/-! ## Host names -/

/-- The characters of host names. -/
def isHostChar (character : Char) : Bool :=
  character.isLower || character.isDigit || character == '-' || character == '.'

theorem mem_splitOn {character : Char} (member : character ∈ text) :
    character = separator ∨ ∃ part ∈ text.splitOn separator, character ∈ part := by
  induction text with
  | nil => cases member
  | cons first text ih =>
      rw [List.splitOn_cons_eq_if_modifyHead]
      obtain ⟨part, parts, cut⟩ := List.exists_cons_of_ne_nil (List.splitOn_ne_nil separator text)
      rw [cut] at ih ⊢
      split
      · rename_i same
        rcases List.mem_cons.mp member with rfl | later
        · exact .inl (eq_of_beq same)
        · refine (ih later).imp_right ?_
          rintro ⟨other, listed, here⟩
          exact ⟨other, List.mem_cons_of_mem _ listed, here⟩
      · rw [List.modifyHead_cons]
        rcases List.mem_cons.mp member with rfl | later
        · exact .inr ⟨character :: part, List.mem_cons_self, List.mem_cons_self⟩
        · refine (ih later).imp_right ?_
          rintro ⟨other, listed, here⟩
          rcases List.mem_cons.mp listed with rfl | listed
          · exact ⟨first :: other, List.mem_cons_self, List.mem_cons_of_mem _ here⟩
          · exact ⟨other, List.mem_cons_of_mem _ listed, here⟩

theorem isHostChar_of_areDnsLabels {host : List Char} (labels : areDnsLabels host = true) :
    ∀ character ∈ host, isHostChar character = true := by
  intro character member
  unfold isHostChar
  rcases @mem_splitOn '.' host character member with rfl | ⟨label, listed, here⟩
  · rfl
  · have valid := List.all_eq_true.mp labels label listed
    unfold isDnsLabel at valid
    simp only [Bool.and_eq_true, List.all_eq_true, String.toList_ofList] at valid
    rw [valid.2 character here, Bool.true_or]

theorem lower_lower (text : List Char) : lower (lower text) = lower text := by
  simp only [lower, List.map_map]
  refine List.map_congr_left fun character _ => ?_
  refine Char.toNat_inj.mp ?_
  rw [Function.comp_apply, toNat_toLower, toNat_toLower]
  split_ifs <;> omega

/-! ## Host names with a port -/

/-- What an accepted host name and port look like. -/
theorem canonicalHostPort_eq_some {endpoint : List Char}
    (accepted : canonicalHostPort text = some endpoint) :
    ∃ (name : List Char) (port : Fin 65536), endpoint = name ++ ':' :: printNumber 10 port ∧
      port ≠ 0 ∧ name ≠ [] ∧ lower name = name ∧ (String.ofList name).utf8ByteSize ≤ 253 ∧
      areDnsLabels name = true := by
  unfold canonicalHostPort at accepted
  split at accepted
  · cases accepted
  · rename_i host portText cut
    split at accepted
    · cases accepted
    · rename_i plain
      split at accepted
      · cases accepted
      · rename_i port parsed
        simp only at accepted
        split at accepted
        · cases accepted
        · rename_i valid
          simp only [not_or, Nat.not_lt, Bool.not_eq_false] at valid
          simp only [Bool.or_eq_true, List.isEmpty_iff, not_or] at plain
          refine ⟨lower host, port, (Option.some.inj accepted).symm, valid.1, ?_, lower_lower host,
            valid.2⟩
          simpa using plain.1.1.1

/-- A canonical host name and port are accepted as they are. -/
theorem canonicalHostPort_self {name : List Char} {port : Fin 65536} (positive : port ≠ 0)
    (nonempty : name ≠ []) (small : lower name = name)
    (short : (String.ofList name).utf8ByteSize ≤ 253) (labels : areDnsLabels name = true) :
    canonicalHostPort (name ++ ':' :: printNumber 10 port) =
      some (name ++ ':' :: printNumber 10 port) := by
  have characters := isHostChar_of_areDnsLabels labels
  have open' : name.head? ≠ some '[' := by
    intro bracket
    exact absurd (characters '[' (List.mem_of_head? bracket)) (by decide)
  have close : name.getLast? ≠ some ']' := by
    intro bracket
    exact absurd (characters ']' (List.mem_of_getLast? bracket)) (by decide)
  have colon : ':' ∉ name := by
    intro colon
    exact absurd (characters ':' colon) (by decide)
  unfold canonicalHostPort
  simp only [rsplitOnce_append (colon_notMem_printNumber port), List.isEmpty_iff, nonempty, open',
    close, colon, beq_iff_eq, List.contains_iff_mem, Bool.or_eq_true, or_self, if_false,
    parsePort_print, small, positive, Nat.not_lt.mpr short, labels, Bool.true_eq_false]

theorem canonicalHostPort_lower (text : List Char) :
    canonicalHostPort (lower text) = canonicalHostPort text := by
  unfold canonicalHostPort
  rw [rsplitOnce_lower]
  cases rsplitOnce ':' text with
  | none => rfl
  | some parts =>
      obtain ⟨host, portText⟩ := parts
      have first : (lower host).head? = some '[' ↔ host.head? = some '[' := by
        cases host with
        | nil => exact Iff.rfl
        | cons character host =>
            simp only [lower, List.map_cons, List.head?_cons, Option.some.injEq,
              @toLower_eq_iff '[' (by decide)]
      have last : (lower host).getLast? = some ']' ↔ host.getLast? = some ']' := by
        rw [List.getLast?_map]
        cases host.getLast? with
        | none => exact Iff.rfl
        | some character => simp only [Option.map_some, Option.some.injEq,
            @toLower_eq_iff ']' (by decide)]
      have colon : ':' ∈ lower host ↔ ':' ∈ host := by
        simp only [List.mem_map, @toLower_eq_iff ':' (by decide), exists_eq_right]
      simp only [Option.map_some, List.isEmpty_iff, List.map_eq_nil_iff, beq_iff_eq,
        List.contains_iff_mem, Bool.or_eq_true, first, last, colon, parsePort_lower, lower_lower]

/-! ## Canonical endpoints -/

/-- The endpoint a text stands for, whatever marks it has. -/
def readEndpoint (text : List Char) : Option (List Char) :=
  match parseSocketAddr text with
  | some address => if address.port = 0 then none else some (printSocketAddr address)
  | none => canonicalHostPort text

/-- Some text without the marks of a path, a query or a fragment. -/
structure IsAuthority (text : List Char) : Prop where
  nonempty : text ≠ []
  slash : '/' ∉ text
  question : '?' ∉ text
  hash : '#' ∉ text

theorem canonicalEndpoint_eq_some {value endpoint : String} :
    canonicalEndpoint value = some endpoint ↔
      IsAuthority value.toList ∧ readEndpoint value.toList = some endpoint.toList := by
  have scheme : decide ("://".toList <:+: value.toList) = true → '/' ∈ value.toList := by
    intro found
    exact (of_decide_eq_true found).subset (by decide)
  have reads : (match parseSocketAddr value.toList with
      | some address =>
          if address.port = 0 then none else some (String.ofList (printSocketAddr address))
      | none => (canonicalHostPort value.toList).map String.ofList) =
      (readEndpoint value.toList).map String.ofList := by
    unfold readEndpoint
    split
    · split <;> rfl
    · rfl
  have written : ∀ {characters : List Char}, String.ofList characters = endpoint ↔
      characters = endpoint.toList := by
    intro characters
    rw [← String.toList_inj, String.toList_ofList]
  unfold canonicalEndpoint
  simp only [reads]
  split
  · rename_i refused
    refine iff_of_false (by simp) ?_
    rintro ⟨plain, -⟩
    simp only [Bool.or_eq_true, List.isEmpty_iff, List.contains_iff_mem] at refused
    rcases refused with (((empty | found) | slash) | question) | hash
    · exact plain.nonempty empty
    · exact plain.slash (scheme found)
    · exact plain.slash slash
    · exact plain.question question
    · exact plain.hash hash
  · rename_i plain
    simp only [Bool.or_eq_true, List.isEmpty_iff, List.contains_iff_mem, not_or] at plain
    obtain ⟨⟨⟨⟨nonempty, -⟩, slash⟩, question⟩, hash⟩ := plain
    rw [Option.map_eq_some_iff]
    constructor
    · rintro ⟨characters, read, same⟩
      exact ⟨⟨nonempty, slash, question, hash⟩, (written.mp same) ▸ read⟩
    · rintro ⟨-, read⟩
      exact ⟨_, read, written.mpr rfl⟩

theorem isAuthority_lower : IsAuthority (lower text) ↔ IsAuthority text := by
  have member : ∀ {mark : Char}, (mark.toNat < 65 ∨ 90 < mark.toNat ∧ mark.toNat < 97) →
      (mark ∈ lower text ↔ mark ∈ text) := by
    intro mark plain
    simp only [List.mem_map, toLower_eq_iff plain, exists_eq_right]
  constructor
  · rintro ⟨nonempty, slash, question, hash⟩
    exact ⟨fun empty => nonempty (by rw [empty]; rfl), slash ∘ (member (by decide)).mpr,
      question ∘ (member (by decide)).mpr, hash ∘ (member (by decide)).mpr⟩
  · rintro ⟨nonempty, slash, question, hash⟩
    exact ⟨fun empty => nonempty (List.map_eq_nil_iff.mp empty), slash ∘ (member (by decide)).mp,
      question ∘ (member (by decide)).mp, hash ∘ (member (by decide)).mp⟩

theorem readEndpoint_lower (text : List Char) : readEndpoint (lower text) = readEndpoint text := by
  rw [readEndpoint, parseSocketAddr_lower, canonicalHostPort_lower, readEndpoint]

/-- Upper and lower case make no difference. -/
theorem canonicalEndpoint_congr {first second : String}
    (same : lower first.toList = lower second.toList) :
    canonicalEndpoint first = canonicalEndpoint second := by
  refine Option.ext fun endpoint => ?_
  rw [canonicalEndpoint_eq_some, canonicalEndpoint_eq_some, ← isAuthority_lower,
    ← readEndpoint_lower, same, isAuthority_lower, readEndpoint_lower]

/-- The form of canonical endpoints. -/
structure IsEndpoint (text : List Char) : Prop where
  self : readEndpoint text = some text
  plain : ∀ character ∈ text, isHostChar character = true ∨ isAddressChar character = true
  port : ∃ (host : List Char) (port : Fin 65536),
    text = host ++ ':' :: printNumber 10 port ∧ port ≠ 0

/-- A canonical host name and port that is a socket address is printed as it is. -/
theorem readEndpoint_hostPort {name : List Char} {port : Fin 65536} (positive : port ≠ 0)
    (nonempty : name ≠ []) (labels : areDnsLabels name = true)
    (self : canonicalHostPort (name ++ ':' :: printNumber 10 port) =
      some (name ++ ':' :: printNumber 10 port)) :
    readEndpoint (name ++ ':' :: printNumber 10 port) =
      some (name ++ ':' :: printNumber 10 port) := by
  have characters := isHostChar_of_areDnsLabels labels
  unfold readEndpoint
  cases parsed : parseSocketAddr (name ++ ':' :: printNumber 10 port) with
  | none => exact self
  | some address =>
      have bracket : (name ++ ':' :: printNumber 10 port.val).head? ≠ some '[' := by
        rw [List.head?_append_of_ne_nil _ nonempty]
        intro bracket
        exact absurd (characters '[' (List.mem_of_head? bracket)) (by decide)
      obtain ⟨ip, own, portText, rfl, text, read⟩ := parseSocketAddr_v4 parsed bracket
      have name' : ':' ∉ name := by
        intro colon
        exact absurd (characters ':' colon) (by decide)
      obtain ⟨rfl, -, rfl⟩ :=
        (List.append_cons_inj_of_notMem name' (colon_notMem_printNumber port)).mp text
      rw [readNumber_print] at read
      obtain rfl := (Prod.mk.inj (Option.some.inj read)).1
      simp only [SocketAddr.port, positive, if_false, printSocketAddr]

theorem isEndpoint_of_readEndpoint {endpoint : List Char}
    (accepted : readEndpoint text = some endpoint) : IsEndpoint endpoint := by
  unfold readEndpoint at accepted
  cases parsed : parseSocketAddr text with
  | some address =>
      rw [parsed] at accepted
      simp only at accepted
      split at accepted
      · cases accepted
      · rename_i positive
        obtain rfl := Option.some.inj accepted
        constructor
        · rw [readEndpoint, parseSocketAddr_print]
          simp only [positive, if_false]
        · exact fun character member => .inr (isAddressChar_print address character member)
        · exact ⟨address.host, address.port, printSocketAddr_eq address, positive⟩
  | none =>
      rw [parsed] at accepted
      obtain ⟨name, port, rfl, positive, nonempty, small, short, labels⟩ :=
        canonicalHostPort_eq_some accepted
      constructor
      · exact readEndpoint_hostPort positive nonempty labels
          (canonicalHostPort_self positive nonempty small short labels)
      · intro character member
        rcases List.mem_append.mp member with host | rest
        · exact .inl (isHostChar_of_areDnsLabels labels character host)
        · rcases List.mem_cons.mp rest with rfl | digit
          · exact .inr rfl
          · exact .inr (isAddressChar_printNumber (by decide) (by decide) character digit)
      · exact ⟨name, port, rfl, positive⟩

theorem IsEndpoint.isAuthority {endpoint : List Char} (canonical : IsEndpoint endpoint) :
    IsAuthority endpoint := by
  have allowed : ∀ {mark : Char}, mark ∈ endpoint →
      isHostChar mark = true ∨ isAddressChar mark = true := canonical.plain _
  constructor
  · rintro rfl
    obtain ⟨host, port, split, -⟩ := canonical.port
    cases host <;> cases split
  · intro slash
    exact absurd (allowed slash) (by decide)
  · intro question
    exact absurd (allowed question) (by decide)
  · intro hash
    exact absurd (allowed hash) (by decide)

theorem isDnsLabel_eq_false_of_colon {value : String} (colon : ':' ∈ value.toList) :
    isDnsLabel value = false := by
  rw [← Bool.not_eq_true]
  intro valid
  unfold isDnsLabel at valid
  simp only [Bool.and_eq_true, List.all_eq_true] at valid
  exact absurd (valid.2 ':' colon) (by decide)

theorem endpoint_ok {builder : ServerBuilder} {endpoint : String}
    (accepted : builder.endpoint = .ok endpoint) :
    ∃ rawEndpoint, canonicalEndpoint rawEndpoint = some endpoint := by
  unfold ServerBuilder.endpoint at accepted
  split at accepted
  · cases accepted
  · rename_i rawEndpoint _
    split at accepted
    · cases accepted
    · rename_i canonical
      exact ⟨rawEndpoint, Except.ok.inj accepted ▸ canonical⟩

theorem identity_ok {builder : ServerBuilder} {endpoint nodeId : String}
    (chosen : builder.identity endpoint = .ok nodeId) :
    builder.nodeId = some nodeId ∧ isDnsLabel nodeId = true ∨
      builder.nodeId = none ∧ nodeId = endpoint := by
  unfold ServerBuilder.identity at chosen
  split at chosen
  · rename_i configured here
    split at chosen
    · rename_i label
      obtain rfl := Except.ok.inj chosen
      exact .inl ⟨here, label⟩
    · cases chosen
  · rename_i here
    exact .inr ⟨here, (Except.ok.inj chosen).symm⟩

/-- What a Server that starts is configured with. -/
theorem intoStarter_ok {builder : ServerBuilder} {starter : Starter}
    (started : builder.intoStarter = .ok starter) :
    (∃ rawEndpoint, canonicalEndpoint rawEndpoint = some starter.advertisedEndpoint) ∧
      (builder.nodeId = some starter.nodeId ∧ isDnsLabel starter.nodeId = true ∨
        builder.nodeId = none ∧ starter.nodeId = starter.advertisedEndpoint) := by
  unfold ServerBuilder.intoStarter at started
  cases accepted : builder.endpoint with
  | error error =>
      rw [accepted] at started
      cases started
  | ok endpoint =>
      rw [accepted] at started
      cases chosen : builder.identity endpoint with
      | error error =>
          simp only [bind, Except.bind, chosen] at started
          cases started
      | ok nodeId =>
          simp only [bind, Except.bind, chosen] at started
          split_ifs at started
          obtain rfl := Except.ok.inj started
          exact ⟨endpoint_ok accepted, identity_ok chosen⟩

theorem isEndpoint_of_canonicalEndpoint {value endpoint : String}
    (accepted : canonicalEndpoint value = some endpoint) : IsEndpoint endpoint.toList :=
  isEndpoint_of_readEndpoint (canonicalEndpoint_eq_some.mp accepted).2

theorem IsEndpoint.colon {endpoint : List Char} (canonical : IsEndpoint endpoint) :
    ':' ∈ endpoint := by
  obtain ⟨host, port, split, -⟩ := canonical.port
  rw [split]
  exact List.mem_append_right _ List.mem_cons_self

/-- `canonical_endpoint` maps every accepted text to a canonical one: it is
accepted as it is, has no path, query or fragment, names a port and is no node
id that can be configured; upper and lower case make no difference. -/
theorem canonicalEndpoint_is_canonical :
    (∀ value endpoint : String, canonicalEndpoint value = some endpoint →
      canonicalEndpoint endpoint = some endpoint ∧
        '/' ∉ endpoint.toList ∧ '?' ∉ endpoint.toList ∧ '#' ∉ endpoint.toList ∧
        (∃ (host : List Char) (port : Fin 65536),
          endpoint.toList = host ++ ':' :: printNumber 10 port ∧ port ≠ 0) ∧
        isDnsLabel endpoint = false) ∧
      (∀ (defaulted explicit : ServerBuilder) (first second : Starter),
        defaulted.nodeId = none → explicit.nodeId ≠ none → defaulted.intoStarter = .ok first →
          explicit.intoStarter = .ok second → first.nodeId ≠ second.nodeId) ∧
      ∀ first second : String, lower first.toList = lower second.toList →
        canonicalEndpoint first = canonicalEndpoint second := by
  refine ⟨?_, ?_, fun first second same => canonicalEndpoint_congr same⟩
  · intro value endpoint accepted
    have canonical := isEndpoint_of_canonicalEndpoint accepted
    have authority := canonical.isAuthority
    exact ⟨canonicalEndpoint_eq_some.mpr ⟨authority, canonical.self⟩, authority.slash,
      authority.question, authority.hash, canonical.port,
      isDnsLabel_eq_false_of_colon canonical.colon⟩
  · intro defaulted explicit first second unset set' startsFirst startsSecond same
    obtain ⟨⟨rawEndpoint, accepted⟩, here⟩ := intoStarter_ok startsFirst
    obtain ⟨-, there⟩ := intoStarter_ok startsSecond
    rcases there with ⟨-, label⟩ | ⟨none, -⟩
    · rcases here with ⟨some', -⟩ | ⟨-, endpoint⟩
      · rw [unset] at some'
        cases some'
      · have colon := (isEndpoint_of_canonicalEndpoint accepted).colon
        rw [← same, endpoint, isDnsLabel_eq_false_of_colon colon] at label
        cases label
    · exact set' none

theorem canonicalEndpoint_of_mixed_case :
    canonicalEndpoint "EXAMPLE.com:+080" = some "example.com:80" ∧
      canonicalEndpoint "example.com:80" = some "example.com:80" := by
  have accepted : canonicalEndpoint "EXAMPLE.com:+080" = some "example.com:80" := by decide
  exact ⟨accepted, (canonicalEndpoint_is_canonical.1 _ _ accepted).1⟩

end Coactor.Coordination
