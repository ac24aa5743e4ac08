import Mathlib.Algebra.Ring.Int.Defs
import Mathlib.Algebra.Ring.Nat
import MysticAuth.Python.Json

/-!
# The `ipaddress` module

`ip_address` and `ip_network(..., strict=False)` on texts, following the
standard library's parsing rules: no leading zeros in an IPv4 octet, at most
one `::` in an IPv6 text, an optional IPv4 tail and an optional scope id.  A
`ValueError` is `none`.
-/

set_option autoImplicit false

namespace Python

inductive IpAddress where
  | v4 (value : Nat)
  | v6 (value : Nat) (scopeId : Option String)
  deriving DecidableEq, Repr

inductive IpNetwork where
  | v4 (networkAddress prefixLength : Nat)
  | v6 (networkAddress prefixLength : Nat)
  deriving DecidableEq, Repr

namespace IpAddress

def digitsValue (base : Nat) (digit : Char → Nat) (text : List Char) : Nat :=
  text.foldl (fun value c => base * value + digit c) 0

def decimalValue (text : List Char) : Nat :=
  digitsValue 10 (fun c => c.toNat - '0'.toNat) text

def isHexDigit (c : Char) : Bool :=
  c.isDigit || ('a' ≤ c && c ≤ 'f') || ('A' ≤ c && c ≤ 'F')

def hexDigit (c : Char) : Nat :=
  if c.isDigit then c.toNat - '0'.toNat
  else if 'a' ≤ c then c.toNat - 'a'.toNat + 10
  else c.toNat - 'A'.toNat + 10

def parseOctet (octet : List Char) : Option Nat :=
  if octet.isEmpty || !octet.all Char.isDigit || octet.length > 3 then none
  else if octet != ['0'] && octet.head? == some '0' then none
  else if decimalValue octet > 255 then none
  else some (decimalValue octet)

def parseV4 (text : List Char) : Option Nat :=
  match text.splitOn '.' with
  | [a, b, c, d] => do
    let a ← parseOctet a
    let b ← parseOctet b
    let c ← parseOctet c
    let d ← parseOctet d
    some (((a * 256 + b) * 256 + c) * 256 + d)
  | _ => none

/-- One colon-separated part of an IPv6 text, before the hextet is read. -/
inductive Part where
  | text (hextet : List Char)
  | value (hextet : Nat)

def Part.isBlank : Part → Bool
  | .text hextet => hextet.isEmpty
  | .value _ => false

def parseHextet : Part → Option Nat
  | .value hextet => some hextet
  | .text hextet =>
      if hextet.isEmpty || !hextet.all isHexDigit || hextet.length > 4 then none
      else some (digitsValue 16 hexDigit hextet)

def joinHextets (hextets : List Nat) : Nat :=
  hextets.foldl (fun value hextet => 65536 * value + hextet) 0

/-- The colon-separated parts, an IPv4 tail replaced by its two hextets. -/
def splitParts (text : List Char) : Option (List Part) :=
  let parts := text.splitOn ':'
  if parts.length < 3 then none
  else
    match parts.getLast? with
    | some last =>
        if last.contains '.' then do
          let tail ← parseV4 last
          some (parts.dropLast.map .text ++ [.value (tail / 65536), .value (tail % 65536)])
        else some (parts.map .text)
    | none => none

/-- Positions of the blank parts strictly between the first and the last. -/
def skipPositions (parts : List Part) : List Nat :=
  (List.range parts.length).filter fun i =>
    i != 0 && i + 1 != parts.length && (parts[i]?.any Part.isBlank)

def parseV6Parts (parts : List Part) : Option Nat :=
  let firstBlank := parts.head?.any Part.isBlank
  let lastBlank := parts.getLast?.any Part.isBlank
  if parts.length > 9 then none
  else
    match skipPositions parts with
    | [] =>
        if parts.length != 8 || firstBlank || lastBlank then none
        else joinHextets <$> parts.mapM parseHextet
    | [skip] =>
        let high := if firstBlank then skip - 1 else skip
        let low := if lastBlank then parts.length - skip - 2 else parts.length - skip - 1
        if (firstBlank && high != 0) || (lastBlank && low != 0) || high + low ≥ 8 then none
        else do
          let above ← (parts.take high).mapM parseHextet
          let below ← (parts.drop (parts.length - low)).mapM parseHextet
          let below := if lastBlank then [] else below
          some (joinHextets (above ++ List.replicate (8 - (high + low)) 0 ++ below))
    | _ => none

def splitScopeId (text : List Char) : Option (List Char × Option String) :=
  match text.splitOn '%' with
  | [address] => some (address, none)
  | [address, scopeId] =>
      if scopeId.isEmpty then none else some (address, some (String.ofList scopeId))
  | _ => none

def parseV6 (text : List Char) : Option (Nat × Option String) := do
  let (address, scopeId) ← splitScopeId text
  let parts ← splitParts address
  let value ← parseV6Parts parts
  some (value, scopeId)

/-- `ipaddress.ip_address(text)`. -/
def ofText (text : List Char) : Option IpAddress :=
  if text.contains '/' then none
  else
    match parseV4 text with
    | some value => some (.v4 value)
    | none => (fun parsed => .v6 parsed.1 parsed.2) <$> parseV6 text

/-- `ipaddress.ip_address(number)`. -/
def ofInt (value : Int) : Option IpAddress :=
  if value < 0 then none
  else if value < 2 ^ 32 then some (.v4 value.toNat)
  else if value < 2 ^ 128 then some (.v6 value.toNat none)
  else none

/-- `ipaddress.ip_address` on a decoded JSON value; a container is read through its `str`,
which is never an address text. -/
def ofJson : Json → Option IpAddress
  | .str text => ofText text.toList
  | .int value => ofInt value
  | .bool value => ofInt (if value then 1 else 0)
  | _ => none

end IpAddress

namespace IpNetwork

def parsePrefix (width : Nat) (text : List Char) : Option Nat :=
  if text.isEmpty || !text.all Char.isDigit then none
  else if IpAddress.decimalValue text > width then none
  else some (IpAddress.decimalValue text)

/-- The prefix length a netmask, or else a hostmask, stands for. -/
def prefixOfMask (mask : Nat) : Option Nat :=
  let netmask (length : Nat) := 2 ^ 32 - 2 ^ (32 - length)
  match (List.range 33).find? (fun length => netmask length == mask) with
  | some length => some length
  | none => (List.range 33).find? (fun length => netmask length == 2 ^ 32 - 1 - mask)

def parsePrefixV4 (text : List Char) : Option Nat :=
  match parsePrefix 32 text with
  | some length => some length
  | none => IpAddress.parseV4 text >>= prefixOfMask

def clearHost (width length value : Nat) : Nat :=
  value / 2 ^ (width - length) * 2 ^ (width - length)

def ofTextV4 (address : List Char) (mask : Option (List Char)) : Option IpNetwork := do
  let value ← IpAddress.parseV4 address
  let length ← match mask with
    | some text => parsePrefixV4 text
    | none => some 32
  some (.v4 (clearHost 32 length value) length)

def ofTextV6 (address : List Char) (mask : Option (List Char)) : Option IpNetwork := do
  let (value, _) ← IpAddress.parseV6 address
  let length ← match mask with
    | some text => parsePrefix 128 text
    | none => some 128
  some (.v6 (clearHost 128 length value) length)

/-- `ipaddress.ip_network(text, strict=False)`. -/
def ofText (text : List Char) : Option IpNetwork :=
  match text.splitOn '/' with
  | [address] => (ofTextV4 address none).or (ofTextV6 address none)
  | [address, mask] => (ofTextV4 address (some mask)).or (ofTextV6 address (some mask))
  | _ => none

/-- `address in network`. -/
def contains : IpNetwork → IpAddress → Bool
  | .v4 networkAddress length, .v4 value => clearHost 32 length value == networkAddress
  | .v6 networkAddress length, .v6 value _ => clearHost 128 length value == networkAddress
  | _, _ => false

example : (ofText "10.1.2.3/8".toList).map (·.contains (.v4 (10 * 2 ^ 24 + 7))) = some true := by
  decide

end IpNetwork

/-! ## What parses, parses as one version -/

theorem mem_splitOn_of_mem (text : List Char) (separator c : Char) (member : c ∈ text)
    (other : c ≠ separator) : ∃ piece ∈ text.splitOn separator, c ∈ piece := by
  induction text with
  | nil => simp at member
  | cons head rest ih =>
    rw [List.splitOn_cons_eq_if_modifyHead]
    split
    · rename_i cut
      have inRest : c ∈ rest := by
        rcases List.mem_cons.mp member with rfl | tail
        · exact absurd (by simpa using cut) other
        · exact tail
      obtain ⟨piece, pieceMember, found⟩ := ih inRest
      exact ⟨piece, List.mem_cons_of_mem _ pieceMember, found⟩
    · obtain ⟨first, pieces, pieceList⟩ :=
        List.exists_cons_of_ne_nil (List.splitOn_ne_nil separator rest)
      rw [pieceList, List.modifyHead_cons]
      rcases List.mem_cons.mp member with rfl | tail
      · exact ⟨_, List.mem_cons_self, List.mem_cons_self⟩
      · obtain ⟨piece, pieceMember, found⟩ := ih tail
        rw [pieceList] at pieceMember
        rcases List.mem_cons.mp pieceMember with rfl | later
        · exact ⟨_, List.mem_cons_self, List.mem_cons_of_mem _ found⟩
        · exact ⟨piece, List.mem_cons_of_mem _ later, found⟩

theorem separator_not_mem_splitOn (text : List Char) (separator : Char) (piece : List Char)
    (member : piece ∈ text.splitOn separator) : separator ∉ piece := by
  induction text generalizing piece with
  | nil =>
    obtain rfl : piece = [] := by simpa using member
    simp
  | cons head rest ih =>
    rw [List.splitOn_cons_eq_if_modifyHead] at member
    split at member
    · rcases List.mem_cons.mp member with rfl | tail
      · simp
      · exact ih piece tail
    · rename_i kept
      obtain ⟨first, pieces, pieceList⟩ :=
        List.exists_cons_of_ne_nil (List.splitOn_ne_nil separator rest)
      rw [pieceList, List.modifyHead_cons] at member
      rcases List.mem_cons.mp member with rfl | later
      · have firstFree := ih first (pieceList ▸ List.mem_cons_self)
        have headKept : separator ≠ head := fun same => kept (by simp [same])
        simp [firstFree, headKept]
      · exact ih piece (pieceList ▸ List.mem_cons_of_mem _ later)

namespace IpAddress

theorem isDigit_of_parseOctet (octet : List Char) (value : Nat)
    (parsed : parseOctet octet = some value) (c : Char) (member : c ∈ octet) :
    c.isDigit = true := by
  simp only [parseOctet] at parsed
  split at parsed
  · simp at parsed
  · rename_i digits
    simp only [Bool.or_eq_true, Bool.not_eq_true', not_or, Bool.not_eq_false] at digits
    exact List.all_eq_true.mp digits.1.2 c member

theorem parseV4_chars (text : List Char) (value : Nat) (parsed : parseV4 text = some value)
    (c : Char) (member : c ∈ text) : c = '.' ∨ c.isDigit = true := by
  by_cases dot : c = '.'
  · exact Or.inl dot
  · obtain ⟨piece, pieceMember, found⟩ := mem_splitOn_of_mem text '.' c member dot
    simp only [parseV4] at parsed
    split at parsed
    · rename_i p q r s pieces
      simp only [Option.bind_eq_bind, Option.bind_eq_some_iff] at parsed
      obtain ⟨_, first, _, second, _, third, _, fourth, _⟩ := parsed
      rw [pieces] at pieceMember
      simp only [List.mem_cons, List.not_mem_nil, or_false] at pieceMember
      rcases pieceMember with rfl | rfl | rfl | rfl
      · exact Or.inr (isDigit_of_parseOctet _ _ first c found)
      · exact Or.inr (isDigit_of_parseOctet _ _ second c found)
      · exact Or.inr (isDigit_of_parseOctet _ _ third c found)
      · exact Or.inr (isDigit_of_parseOctet _ _ fourth c found)
    · simp at parsed

/-- No text is an address of both versions. -/
theorem parseV6_of_parseV4 (text : List Char) (value : Nat) (parsed : parseV4 text = some value) :
    parseV6 text = none := by
  have chars := parseV4_chars text value parsed
  have noColon : ':' ∉ text := fun member => absurd (chars _ member) (by decide)
  have noScope : '%' ∉ text := fun member => absurd (chars _ member) (by decide)
  simp [parseV6, splitScopeId, List.splitOn_eq_singleton noScope, splitParts,
    List.splitOn_eq_singleton noColon]

theorem ofText_nil : ofText [] = none := by decide

end IpAddress

namespace IpNetwork

/-- The address a network text is written with lies in the network. -/
theorem contains_own_address (text : List Char) (network : IpNetwork)
    (parsed : ofText text = some network) :
    ∃ written address, IpAddress.ofText written = some address ∧
      network.contains address = true := by
  have own (written : List Char) (mask : Option (List Char)) (noSlash : '/' ∉ written)
      (found : (ofTextV4 written mask).or (ofTextV6 written mask) = some network) :
      ∃ address, IpAddress.ofText written = some address ∧ network.contains address = true := by
    rcases Option.or_eq_some_iff.mp found with asV4 | ⟨_, asV6⟩
    · simp only [ofTextV4, Option.bind_eq_bind, Option.bind_eq_some_iff] at asV4
      obtain ⟨value, parsedV4, masked⟩ := asV4
      refine ⟨.v4 value, by simp [IpAddress.ofText, noSlash, parsedV4], ?_⟩
      obtain ⟨length, rfl⟩ : ∃ length, network = .v4 (clearHost 32 length value) length := by
        cases mask with
        | none => exact ⟨32, by simpa using masked.symm⟩
        | some digits =>
          obtain ⟨length, _, same⟩ := Option.bind_eq_some_iff.mp masked
          exact ⟨length, by simpa using same.symm⟩
      simp [contains]
    · simp only [ofTextV6, Option.bind_eq_bind, Option.bind_eq_some_iff] at asV6
      obtain ⟨⟨value, scopeId⟩, parsedV6, masked⟩ := asV6
      have notV4 : IpAddress.parseV4 written = none := by
        by_contra parsesV4
        obtain ⟨other, parsedV4⟩ := Option.ne_none_iff_exists'.mp parsesV4
        simp [IpAddress.parseV6_of_parseV4 written other parsedV4] at parsedV6
      refine ⟨.v6 value scopeId, by simp [IpAddress.ofText, noSlash, notV4, parsedV6], ?_⟩
      obtain ⟨length, rfl⟩ : ∃ length, network = .v6 (clearHost 128 length value) length := by
        cases mask with
        | none => exact ⟨128, by simpa using masked.symm⟩
        | some digits =>
          obtain ⟨length, _, same⟩ := Option.bind_eq_some_iff.mp masked
          exact ⟨length, by simpa using same.symm⟩
      simp [contains]
  simp only [ofText] at parsed
  split at parsed
  · rename_i written pieces
    have noSlash := separator_not_mem_splitOn text '/' written (by simp [pieces])
    exact ⟨written, own written none noSlash parsed⟩
  · rename_i written mask pieces
    have noSlash := separator_not_mem_splitOn text '/' written (by simp [pieces])
    exact ⟨written, own written (some mask) noSlash parsed⟩
  · simp at parsed

end IpNetwork

end Python
