import MysticAuth.Python.IpAddress

/-!
# Texts of IP addresses

What `str` and `exploded` make of an address, and that an address that was
read from a text is in the range of its version.
-/

set_option autoImplicit false

namespace Python

/-! ## Digits -/

/-- The last digits of a number in base 16, as many as asked for. -/
def hexText : Nat → Nat → List Char
  | 0, _ => []
  | count + 1, value => hexText count (value / 16) ++ [Nat.digitChar (value % 16)]

theorem length_hexText (count value : Nat) : (hexText count value).length = count := by
  induction count generalizing value with
  | zero => rfl
  | succ count ih => simp [hexText, ih]

theorem digitChar_injective {m n : Nat} (below : m < 16) (below' : n < 16)
    (same : Nat.digitChar m = Nat.digitChar n) : m = n := by
  have distinct : ∀ m < 16, ∀ n < 16, Nat.digitChar m = Nat.digitChar n → m = n := by decide
  exact distinct m below n below' same

theorem mem_hexText {count value : Nat} {c : Char} (member : c ∈ hexText count value) :
    c ∈ "0123456789abcdef".toList := by
  have digit : ∀ n < 16, Nat.digitChar n ∈ "0123456789abcdef".toList := by decide
  induction count generalizing value with
  | zero => cases member
  | succ count ih =>
    rcases List.mem_append.mp member with earlier | last
    · exact ih earlier
    · rw [List.mem_singleton.mp last]
      exact digit _ (Nat.mod_lt _ (by decide))

theorem hexText_injective {count value value' : Nat} (below : value < 16 ^ count)
    (below' : value' < 16 ^ count) (same : hexText count value = hexText count value') :
    value = value' := by
  induction count generalizing value value' with
  | zero => omega
  | succ count ih =>
    obtain ⟨front, last⟩ := List.append_inj' same rfl
    have sameLast := digitChar_injective (Nat.mod_lt _ (by decide)) (Nat.mod_lt _ (by decide))
      (List.singleton_inj.mp last)
    have sameFront := ih (by omega) (by omega) front
    omega

theorem take_hexText (count more value : Nat) :
    (hexText (count + more) value).take count = hexText count (value / 16 ^ more) := by
  induction more generalizing value with
  | zero => simp [List.take_of_length_le (length_hexText count value).le]
  | succ more ih =>
    rw [← Nat.add_assoc, hexText, List.take_append_of_le_length (by simp [length_hexText]), ih,
      Nat.div_div_eq_div_mul, Nat.pow_succ']

namespace IpAddress

/-- `str` of an IPv4 address. -/
def dotted (value : Nat) : List Char :=
  List.intercalate ['.'] ([value / 2 ^ 24, value / 2 ^ 16 % 256, value / 2 ^ 8 % 256, value % 256].map
    (Nat.toDigits 10))

theorem splitOn_dotted (value : Nat) :
    (dotted value).splitOn '.' =
      [value / 2 ^ 24, value / 2 ^ 16 % 256, value / 2 ^ 8 % 256, value % 256].map
        (Nat.toDigits 10) := by
  refine List.splitOn_intercalate '.' (fun text member dot => ?_) (by simp)
  obtain ⟨octet, -, rfl⟩ := List.mem_map.mp member
  exact absurd (Nat.isDigit_of_mem_toDigits (by decide) (by decide) dot) (by decide)

theorem mem_dotted {value : Nat} {c : Char} (member : c ∈ dotted value) :
    c = '.' ∨ c.isDigit = true := by
  by_cases dot : c = '.'
  · exact .inl dot
  · obtain ⟨piece, pieceMember, found⟩ := mem_splitOn_of_mem _ '.' c member dot
    rw [splitOn_dotted] at pieceMember
    obtain ⟨octet, -, rfl⟩ := List.mem_map.mp pieceMember
    exact .inr (Nat.isDigit_of_mem_toDigits (by decide) (by decide) found)

theorem dotted_injective {value value' : Nat} (same : dotted value = dotted value') :
    value = value' := by
  have split := congrArg (List.splitOn '.') same
  rw [splitOn_dotted, splitOn_dotted] at split
  have decimal : Function.Injective (Nat.toDigits 10) :=
    Function.LeftInverse.injective fun _ => Nat.ofDigitChars_ten_toDigits
  have octets := decimal.list_map split
  simp only [List.cons.injEq, and_true] at octets
  omega

/-- `IPv6Address.ipv4_mapped` -/
def ipv4Mapped (value : Nat) : Option Nat :=
  if value / 2 ^ 32 = 0xFFFF then some (value % 2 ^ 32) else none

/-- The eight groups of `'%032x'`. -/
def groups (value : Nat) : List (List Char) :=
  (List.range 8).map fun i => ((hexText 32 value).drop (4 * i)).take 4

/-- `IPv6Address.exploded`; the text that it reads again has the scope id in it, which is no part of
a group. -/
def exploded (value : Nat) : Option String → Option (List Char)
  | none => some (List.intercalate [':'] (groups value))
  | some _ => none

theorem mem_groups {value : Nat} {group : List Char} (member : group ∈ groups value) :
    ∀ c ∈ group, c ∈ "0123456789abcdef".toList := by
  intro c digit
  obtain ⟨i, -, rfl⟩ := List.mem_map.mp member
  exact mem_hexText (List.mem_of_mem_drop (List.mem_of_mem_take digit))

theorem groups_of_exploded (value : Nat) :
    (List.intercalate [':'] (groups value)).splitOn ':' = groups value := by
  refine List.splitOn_intercalate ':' (fun group member colon => ?_) (by simp [groups])
  exact absurd (mem_groups member ':' colon) (by decide)

/-- The groups of the /64 network. -/
def networkGroups (value : Nat) : List (List Char) :=
  (groups value).take 4

theorem splitOn_networkGroups (value : Nat) :
    (List.intercalate ['-'] (networkGroups value)).splitOn '-' = networkGroups value := by
  refine List.splitOn_intercalate '-' (fun group member dash => ?_)
    (by simp [networkGroups, groups])
  exact absurd (mem_groups (List.mem_of_mem_take member) '-' dash) (by decide)

theorem networkGroups_eq (value : Nat) :
    networkGroups value =
      [((hexText 32 value).drop 0).take 4, ((hexText 32 value).drop 4).take 4,
        ((hexText 32 value).drop 8).take 4, ((hexText 32 value).drop 12).take 4] := rfl

/-- They are the digits of the upper half of the number. -/
theorem flatten_networkGroups (value : Nat) :
    (networkGroups value).flatten = hexText 16 (value / 2 ^ 64) := by
  have cut : (hexText 32 value).take (4 + 4 + 4 + 4) = (networkGroups value).flatten := by
    rw [networkGroups_eq, List.take_add, List.take_add, List.take_add]
    simp
  exact cut.symm.trans (take_hexText 16 16 value)

theorem networkGroups_congr {value value' : Nat} (same : value / 2 ^ 64 = value' / 2 ^ 64) :
    networkGroups value = networkGroups value' := by
  have group (value i : Nat) (within : i ≤ 12) :
      ((hexText 32 value).drop i).take 4 = ((hexText 16 (value / 2 ^ 64)).drop i).take 4 := by
    have digits : hexText 16 (value / 2 ^ 64) = (hexText 32 value).take 16 :=
      (take_hexText 16 16 value).symm
    rw [digits, List.drop_take, List.take_take, Nat.min_eq_left (by omega)]
  rw [networkGroups_eq, networkGroups_eq, group value 0 (by decide), group value 4 (by decide),
    group value 8 (by decide), group value 12 (by decide), same, ← group value' 0 (by decide),
    ← group value' 4 (by decide), ← group value' 8 (by decide), ← group value' 12 (by decide)]

/-- The groups tell the network from the others. -/
theorem networkGroups_inj {value value' : Nat} (below : value < 2 ^ 128) (below' : value' < 2 ^ 128) :
    networkGroups value = networkGroups value' ↔ value / 2 ^ 64 = value' / 2 ^ 64 := by
  refine ⟨fun same => ?_, networkGroups_congr⟩
  have digits := congrArg List.flatten same
  rw [flatten_networkGroups, flatten_networkGroups] at digits
  exact hexText_injective (by omega) (by omega) digits

/-! ## Ranges -/

/-- What an address of the version can be. -/
def InRange : IpAddress → Prop
  | .v4 value => value < 2 ^ 32
  | .v6 value _ => value < 2 ^ 128

theorem foldl_digits_lt {α : Type} (base : Nat) (digit : α → Nat) (digits : List α)
    (below : ∀ d ∈ digits, digit d < base) (start : Nat) :
    digits.foldl (fun value d => base * value + digit d) start <
      (start + 1) * base ^ digits.length := by
  induction digits generalizing start with
  | nil => simp
  | cons d digits ih =>
    obtain ⟨first, rest⟩ := List.forall_mem_cons.mp below
    calc
      _ < (base * start + digit d + 1) * base ^ digits.length := ih rest _
      _ ≤ ((start + 1) * base) * base ^ digits.length := by
        refine Nat.mul_le_mul_right _ ?_
        rw [Nat.add_mul, Nat.one_mul, Nat.mul_comm start base]
        omega
      _ = (start + 1) * base ^ (d :: digits).length := by
        rw [List.length_cons, Nat.pow_succ', Nat.mul_assoc]

theorem parseOctet_lt {octet : List Char} {value : Nat} (parsed : parseOctet octet = some value) :
    value < 256 := by
  simp only [parseOctet] at parsed
  split at parsed
  · cases parsed
  · split at parsed
    · cases parsed
    · split at parsed
      · cases parsed
      · cases parsed
        omega

theorem parseV4_lt {text : List Char} {value : Nat} (parsed : parseV4 text = some value) :
    value < 2 ^ 32 := by
  simp only [parseV4] at parsed
  split at parsed
  · simp only [Option.bind_eq_bind, Option.bind_eq_some_iff] at parsed
    obtain ⟨a, first, b, second, c, third, d, fourth, same⟩ := parsed
    have := parseOctet_lt first
    have := parseOctet_lt second
    have := parseOctet_lt third
    have := parseOctet_lt fourth
    cases same
    omega
  · cases parsed

theorem hexDigit_lt {c : Char} (digit : isHexDigit c = true) : hexDigit c < 16 := by
  simp only [isHexDigit, Bool.or_eq_true, Bool.and_eq_true, decide_eq_true_eq, Char.le_def,
    UInt32.le_iff_toNat_le, Char.isDigit] at digit
  simp only [hexDigit, Char.isDigit, Char.le_def, UInt32.le_iff_toNat_le, Bool.and_eq_true,
    decide_eq_true_eq, Char.toNat] at *
  have nine : '9'.val.toNat = 57 := rfl
  have zero : '0'.val.toNat = 48 := rfl
  have a : 'a'.val.toNat = 97 := rfl
  have f : 'f'.val.toNat = 102 := rfl
  have upperA : 'A'.val.toNat = 65 := rfl
  have upperF : 'F'.val.toNat = 70 := rfl
  split
  · omega
  · split <;> omega

/-- A part that stands for a number stands for a hextet. -/
def Part.InRange : Part → Prop
  | .text _ => True
  | .value hextet => hextet < 65536

theorem parseHextet_lt {part : Part} {hextet : Nat} (inRange : part.InRange)
    (parsed : parseHextet part = some hextet) : hextet < 65536 := by
  cases part with
  | value value =>
    cases parsed
    exact inRange
  | text text =>
    simp only [parseHextet] at parsed
    split at parsed
    · cases parsed
    · rename_i wellFormed
      simp only [Bool.or_eq_true, Bool.not_eq_true', decide_eq_true_eq, not_or,
        Bool.not_eq_false] at wellFormed
      cases parsed
      have below := foldl_digits_lt 16 hexDigit text
        (fun c member => hexDigit_lt (List.all_eq_true.mp wellFormed.1.2 c member)) 0
      calc
        _ < (0 + 1) * 16 ^ text.length := below
        _ ≤ 16 ^ 4 := by
          rw [Nat.zero_add, Nat.one_mul]
          exact Nat.pow_le_pow_right (by decide) (by omega)

theorem hextets_of_mapM {parts : List Part} {hextets : List Nat}
    (inRange : ∀ part ∈ parts, part.InRange) (parsed : parts.mapM parseHextet = some hextets) :
    hextets.length = parts.length ∧ ∀ hextet ∈ hextets, hextet < 65536 := by
  induction parts generalizing hextets with
  | nil =>
    cases parsed
    simp
  | cons part parts ih =>
    obtain ⟨partInRange, restInRange⟩ := List.forall_mem_cons.mp inRange
    rw [List.mapM_cons] at parsed
    obtain ⟨first, parsedFirst, parsed⟩ := Option.bind_eq_some_iff.mp parsed
    obtain ⟨rest, parsedRest, parsed⟩ := Option.bind_eq_some_iff.mp parsed
    cases parsed
    obtain ⟨length, below⟩ := ih restInRange parsedRest
    exact ⟨by rw [List.length_cons, List.length_cons, length],
      List.forall_mem_cons.mpr ⟨parseHextet_lt partInRange parsedFirst, below⟩⟩

theorem joinHextets_lt {hextets : List Nat} (count : hextets.length ≤ 8)
    (below : ∀ hextet ∈ hextets, hextet < 65536) : joinHextets hextets < 2 ^ 128 := by
  calc
    _ < (0 + 1) * 65536 ^ hextets.length := foldl_digits_lt 65536 id hextets below 0
    _ ≤ 65536 ^ 8 := by
      rw [Nat.zero_add, Nat.one_mul]
      exact Nat.pow_le_pow_right (by decide) count

theorem splitParts_inRange {text : List Char} {parts : List Part}
    (split : splitParts text = some parts) : ∀ part ∈ parts, part.InRange := by
  have plain (texts : List (List Char)) : ∀ part ∈ texts.map Part.text, part.InRange := by
    intro part member
    obtain ⟨text, -, rfl⟩ := List.mem_map.mp member
    trivial
  simp only [splitParts] at split
  split at split
  · cases split
  · split at split
    · split at split
      · obtain ⟨tail, parsed, same⟩ := Option.bind_eq_some_iff.mp split
        have below := parseV4_lt parsed
        cases same
        intro part member
        simp only [List.mem_append, List.mem_cons, List.not_mem_nil, or_false] at member
        rcases member with front | rfl | rfl
        · exact plain _ part front
        · exact (by omega : tail / 65536 < 65536)
        · exact (by omega : tail % 65536 < 65536)
      · cases split
        exact plain _
    · cases split

theorem parseV6Parts_lt {parts : List Part} {value : Nat}
    (inRange : ∀ part ∈ parts, part.InRange) (parsed : parseV6Parts parts = some value) :
    value < 2 ^ 128 := by
  simp only [parseV6Parts] at parsed
  split at parsed
  · cases parsed
  · split at parsed
    · split at parsed
      · cases parsed
      · rename_i eight
        simp only [Bool.or_eq_true, bne_iff_ne, ne_eq, not_or, not_not] at eight
        obtain ⟨hextets, read, rfl⟩ := Option.map_eq_some_iff.mp parsed
        obtain ⟨length, below⟩ := hextets_of_mapM inRange read
        exact joinHextets_lt (by omega) below
    · rename_i skip _
      generalize (if parts.head?.any Part.isBlank = true then skip - 1 else skip) = high at parsed
      generalize (if parts.getLast?.any Part.isBlank = true then parts.length - skip - 2
        else parts.length - skip - 1) = low at parsed
      split at parsed
      · cases parsed
      · rename_i few
        simp only [Bool.or_eq_true, decide_eq_true_eq, not_or] at few
        obtain ⟨above, readAbove, parsed⟩ := Option.bind_eq_some_iff.mp parsed
        obtain ⟨below, readBelow, parsed⟩ := Option.bind_eq_some_iff.mp parsed
        obtain ⟨countAbove, smallAbove⟩ :=
          hextets_of_mapM (fun part member => inRange part (List.mem_of_mem_take member)) readAbove
        obtain ⟨countBelow, smallBelow⟩ :=
          hextets_of_mapM (fun part member => inRange part (List.mem_of_mem_drop member)) readBelow
        rw [List.length_take] at countAbove
        rw [List.length_drop] at countBelow
        cases parsed
        refine joinHextets_lt ?_ ?_
        · have shorter (lastBlank : Bool) :
              (if lastBlank = true then [] else below).length ≤ below.length := by
            cases lastBlank <;> simp
          have := shorter (parts.getLast?.any Part.isBlank)
          simp only [List.length_append, List.length_replicate]
          omega
        · intro hextet member
          simp only [List.mem_append, List.mem_replicate] at member
          rcases member with (inAbove | ⟨-, rfl⟩) | inBelow
          · exact smallAbove hextet inAbove
          · decide
          · split at inBelow
            · cases inBelow
            · exact smallBelow hextet inBelow
    · cases parsed

theorem ofText_inRange {text : List Char} {address : IpAddress}
    (parsed : ofText text = some address) : address.InRange := by
  simp only [ofText] at parsed
  split at parsed
  · cases parsed
  · split at parsed
    · rename_i value asV4
      cases parsed
      exact parseV4_lt asV4
    · obtain ⟨⟨value, scopeId⟩, asV6, rfl⟩ := Option.map_eq_some_iff.mp parsed
      obtain ⟨⟨address, scope⟩, -, asV6⟩ := Option.bind_eq_some_iff.mp asV6
      obtain ⟨parts, split, asV6⟩ := Option.bind_eq_some_iff.mp asV6
      obtain ⟨result, read, same⟩ := Option.bind_eq_some_iff.mp asV6
      cases same
      exact parseV6Parts_lt (splitParts_inRange split) read

end IpAddress

end Python
