import MysticAuth.Python.FloatText
import MysticAuth.Python.Json
import Mathlib.Data.List.Dedup

/-!
# The text of a JSON document

`json.dumps` and `json.loads` with their defaults: separators `", "` and
`": "`, everything outside printable ASCII escaped, the last value of a repeated
key.  Of what `loads` reads, `NaN`, the infinities, lone surrogates and the sign
of a zero have no value here.
-/

set_option autoImplicit false

namespace Python

open JavaScript (toDouble)

/-- The longest decimal text of an `int`, `sys.get_int_max_str_digits()`. -/
def maxStrDigits : Nat := 4300

/-! ## Dumping -/

def hexDigit (n : Nat) : Char :=
  Nat.digitChar n

/-- `\\u{0:04x}` -/
def unicodeEscape (n : Nat) : List Char :=
  ['\\', 'u', hexDigit (n / 4096 % 16), hexDigit (n / 256 % 16), hexDigit (n / 16 % 16),
    hexDigit (n % 16)]

def escapeChar (c : Char) : List Char :=
  if c = '"' then ['\\', '"']
  else if c = '\\' then ['\\', '\\']
  else if c = '\n' then ['\\', 'n']
  else if c = '\r' then ['\\', 'r']
  else if c = '\t' then ['\\', 't']
  else if c.toNat = 8 then ['\\', 'b']
  else if c.toNat = 12 then ['\\', 'f']
  else if 32 ≤ c.toNat ∧ c.toNat ≤ 126 then [c]
  else if c.toNat < 0x10000 then unicodeEscape c.toNat
  else
    unicodeEscape (0xd800 + (c.toNat - 0x10000) / 0x400) ++
      unicodeEscape (0xdc00 + (c.toNat - 0x10000) % 0x400)

def quote (text : String) : List Char :=
  '"' :: (text.toList.flatMap escapeChar ++ ['"'])

/-- `int.__repr__`. -/
def reprInt (n : Int) : List Char :=
  if n < 0 then '-' :: Nat.toDigits 10 n.natAbs else Nat.toDigits 10 n.natAbs

namespace Json

mutual

def dumpsValue : Json → List Char
  | null => ['n', 'u', 'l', 'l']
  | bool true => ['t', 'r', 'u', 'e']
  | bool false => ['f', 'a', 'l', 's', 'e']
  | int value => reprInt value
  | float value => reprFloat value
  | str value => quote value
  | arr [] => ['[', ']']
  | arr (item :: items) => '[' :: (dumpsValue item ++ dumpsItems items)
  | obj keys values =>
      match keys.val with
      | [] => ['{', '}']
      | key :: keys => '{' :: dumpsMembers key keys values

/-- The items after the first one, and the closing bracket. -/
def dumpsItems : List Json → List Char
  | [] => [']']
  | item :: items => ',' :: ' ' :: (dumpsValue item ++ dumpsItems items)

/-- The members, and the closing brace. -/
def dumpsMembers (key : String) (keys : List String) : List Json → List Char
  | [] => ['}']
  | value :: values =>
      quote key ++ ':' :: ' ' :: (dumpsValue value ++
        match keys with
        | [] => ['}']
        | key :: keys => ',' :: ' ' :: dumpsMembers key keys values)

end

/-- `str` of a longer `int` raises. -/
def hasText : Json → Bool
  | int value => decide ((Nat.toDigits 10 value.natAbs).length ≤ maxStrDigits)
  | arr items => textItems items
  | obj _ values => textItems values
  | _ => true
where
  textItems : List Json → Bool
    | [] => true
    | item :: items => item.hasText && textItems items

/-- `json.dumps`. -/
def dumps (value : Json) : Option String :=
  if value.hasText then some (String.ofList value.dumpsValue) else none

end Json

/-! ## Loading -/

def isBlank (c : Char) : Bool :=
  c == ' ' || c == '\t' || c == '\n' || c == '\r'

def skipBlanks (text : List Char) : List Char :=
  text.dropWhile isBlank

def hexValue (c : Char) : Option Nat :=
  if '0' ≤ c ∧ c ≤ '9' then some (c.toNat - 48)
  else if 'a' ≤ c ∧ c ≤ 'f' then some (c.toNat - 87)
  else if 'A' ≤ c ∧ c ≤ 'F' then some (c.toNat - 55)
  else none

/-- Four hexadecimal digits. -/
def scanUnit : List Char → Option (Nat × List Char)
  | a :: b :: c :: d :: rest => do
      let a ← hexValue a
      let b ← hexValue b
      let c ← hexValue c
      let d ← hexValue d
      some (((a * 16 + b) * 16 + c) * 16 + d, rest)
  | _ => none

/-- What follows `\u`: one code unit, or a pair of surrogates. -/
def scanCodePoint (text : List Char) : Option (Char × List Char) := do
  let (unit, rest) ← scanUnit text
  if 0xd800 ≤ unit ∧ unit < 0xdc00 then
    match rest with
    | '\\' :: 'u' :: rest => do
        let (low, rest) ← scanUnit rest
        if 0xdc00 ≤ low ∧ low < 0xe000 then
          some (Char.ofNat (0x10000 + (unit - 0xd800) * 0x400 + (low - 0xdc00)), rest)
        else none
    | _ => none
  else if 0xdc00 ≤ unit ∧ unit < 0xe000 then none
  else some (Char.ofNat unit, rest)

def simpleEscape (c : Char) : Option Char :=
  if c = '"' ∨ c = '\\' ∨ c = '/' then some c
  else if c = 'b' then some (Char.ofNat 8)
  else if c = 'f' then some (Char.ofNat 12)
  else if c = 'n' then some '\n'
  else if c = 'r' then some '\r'
  else if c = 't' then some '\t'
  else none

/-- The next character of a string; `none` is its closing quote. -/
def scanChar : List Char → Option (Option Char × List Char)
  | [] => none
  | '"' :: rest => some (none, rest)
  | '\\' :: 'u' :: rest => (scanCodePoint rest).map fun (c, rest) => (some c, rest)
  | '\\' :: c :: rest => (simpleEscape c).map fun c => (some c, rest)
  | c :: rest => if c.toNat < 32 ∨ c = '\\' then none else some (some c, rest)

/-- A string after its opening quote. -/
def scanString : Nat → List Char → Option (List Char × List Char)
  | 0, _ => none
  | fuel + 1, text =>
      match scanChar text with
      | none => none
      | some (none, rest) => some ([], rest)
      | some (some c, rest) => (scanString fuel rest).map fun (chars, rest) => (c :: chars, rest)

def quotedText (text : List Char) : Option (String × List Char) :=
  (scanString text.length text).map fun (chars, rest) => (String.ofList chars, rest)

def parseNumber (text : List Char) : Option (Json × List Char) := do
  let (negative, text) := splitSign text
  let (number, rest) ← scanNumber text
  if number.isFloat then
    let magnitude ← toDouble number.value
    some (.float (signed negative magnitude), rest)
  else if number.whole.length ≤ maxStrDigits then
    let magnitude : Int := Nat.ofDigitChars 10 number.whole 0
    some (.int (if negative then -magnitude else magnitude), rest)
  else none

def expectWord (word : List Char) (value : Json) (text : List Char) :
    Option (Json × List Char) :=
  if word.isPrefixOf text then some (value, text.drop word.length) else none

/-- `dict(pairs)`: a key keeps its first place and its last value. -/
def dictOfPairs (pairs : List (String × Json)) : Json :=
  let keys := (pairs.map Prod.fst).reverse.dedup.reverse
  .obj ⟨keys, List.nodup_reverse.mpr (List.nodup_dedup _)⟩
    (keys.map fun key => (pairs.reverse.lookup key).getD .null)

mutual

def parseValue : Nat → List Char → Option (Json × List Char)
  | 0, _ => none
  | _ + 1, [] => none
  | fuel + 1, c :: rest =>
      if c = '"' then (quotedText rest).map fun (text, rest) => (.str text, rest)
      else if c = '{' then
        match skipBlanks rest with
        | '}' :: rest => some (dictOfPairs [], rest)
        | rest => (parseMembers fuel rest).map fun (pairs, rest) => (dictOfPairs pairs, rest)
      else if c = '[' then
        match skipBlanks rest with
        | ']' :: rest => some (.arr [], rest)
        | rest => (parseItems fuel rest).map fun (items, rest) => (.arr items, rest)
      else if c = 'n' then expectWord ['u', 'l', 'l'] .null rest
      else if c = 't' then expectWord ['r', 'u', 'e'] (.bool true) rest
      else if c = 'f' then expectWord ['a', 'l', 's', 'e'] (.bool false) rest
      else parseNumber (c :: rest)

def parseItems : Nat → List Char → Option (List Json × List Char)
  | 0, _ => none
  | fuel + 1, text =>
      match parseValue fuel text with
      | none => none
      | some (item, rest) =>
          match skipBlanks rest with
          | ',' :: rest =>
              (parseItems fuel (skipBlanks rest)).map fun (items, rest) => (item :: items, rest)
          | ']' :: rest => some ([item], rest)
          | _ => none

def parseMembers : Nat → List Char → Option (List (String × Json) × List Char)
  | 0, _ => none
  | fuel + 1, text =>
      match text with
      | '"' :: rest =>
          match quotedText rest with
          | none => none
          | some (key, rest) =>
              match skipBlanks rest with
              | ':' :: rest =>
                  match parseValue fuel (skipBlanks rest) with
                  | none => none
                  | some (value, rest) =>
                      match skipBlanks rest with
                      | ',' :: rest =>
                          (parseMembers fuel (skipBlanks rest)).map fun (pairs, rest) =>
                            ((key, value) :: pairs, rest)
                      | '}' :: rest => some ([(key, value)], rest)
                      | _ => none
              | _ => none
      | _ => none

end

/-- `json.loads`; `none` is a `JSONDecodeError`. -/
def Json.loads (text : String) : Option Json :=
  match parseValue (2 * text.toList.length) (skipBlanks text.toList) with
  | some (value, rest) => if skipBlanks rest = [] then some value else none
  | none => none

/-! ## Strings are read back -/

theorem hexValue_hexDigit : ∀ n, n < 16 → hexValue (hexDigit n) = some n := by
  decide

theorem scanUnit_unicodeEscape (n : Nat) (small : n < 0x10000) (rest : List Char) :
    ∃ text, unicodeEscape n ++ rest = '\\' :: 'u' :: text ∧ scanUnit text = some (n, rest) := by
  have digit (k : Nat) : hexValue (hexDigit (k % 16)) = some (k % 16) :=
    hexValue_hexDigit _ (Nat.mod_lt _ (by decide))
  refine ⟨hexDigit (n / 4096 % 16) :: hexDigit (n / 256 % 16) :: hexDigit (n / 16 % 16) ::
    hexDigit (n % 16) :: rest, rfl, ?_⟩
  simp only [scanUnit, digit, Option.bind_eq_bind, Option.bind_some]
  congr 2
  omega

theorem scanChar_plain (c : Char) (rest : List Char) (notQuote : c ≠ '"')
    (notBackslash : c ≠ '\\') (visible : 32 ≤ c.toNat) :
    scanChar (c :: rest) = some (some c, rest) := by
  unfold scanChar
  split
  · rename_i isNil
    cases isNil
  · rename_i isQuote
    exact absurd (List.cons.inj isQuote).1 notQuote
  · rename_i isBackslash
    exact absurd (List.cons.inj isBackslash).1 notBackslash
  · rename_i isBackslash
    exact absurd (List.cons.inj isBackslash).1 notBackslash
  · rename_i same
    obtain ⟨rfl, rfl⟩ := List.cons.inj same
    rw [if_neg (by simp only [notBackslash, or_false]; omega)]

theorem scanChar_escapeChar (c : Char) (rest : List Char) :
    scanChar (escapeChar c ++ rest) = some (some c, rest) := by
  unfold escapeChar
  by_cases quote : c = '"'
  · rw [if_pos quote, quote]
    rfl
  rw [if_neg quote]
  by_cases backslash : c = '\\'
  · rw [if_pos backslash, backslash]
    rfl
  rw [if_neg backslash]
  by_cases newline : c = '\n'
  · rw [if_pos newline, newline]
    rfl
  rw [if_neg newline]
  by_cases carriageReturn : c = '\r'
  · rw [if_pos carriageReturn, carriageReturn]
    rfl
  rw [if_neg carriageReturn]
  by_cases tab : c = '\t'
  · rw [if_pos tab, tab]
    rfl
  rw [if_neg tab]
  by_cases backspace : c.toNat = 8
  · rw [if_pos backspace]
    obtain rfl : c = Char.ofNat 8 := by rw [← backspace, Char.ofNat_toNat]
    rfl
  rw [if_neg backspace]
  by_cases formFeed : c.toNat = 12
  · rw [if_pos formFeed]
    obtain rfl : c = Char.ofNat 12 := by rw [← formFeed, Char.ofNat_toNat]
    rfl
  rw [if_neg formFeed]
  by_cases printable : 32 ≤ c.toNat ∧ c.toNat ≤ 126
  · rw [if_pos printable]
    exact scanChar_plain c rest quote backslash printable.1
  rw [if_neg printable]
  have scalar : c.toNat < 0xd800 ∨ 0xdfff < c.toNat ∧ c.toNat < 0x110000 := c.valid
  split
  · rename_i small
    obtain ⟨text, escaped, unit⟩ := scanUnit_unicodeEscape c.toNat small rest
    have low : ¬ (0xd800 ≤ c.toNat ∧ c.toNat < 0xdc00) := by omega
    have high : ¬ (0xdc00 ≤ c.toNat ∧ c.toNat < 0xe000) := by omega
    rw [escaped]
    simp only [scanChar, scanCodePoint, unit, Option.bind_eq_bind, Option.bind_some, if_neg low,
      if_neg high, Char.ofNat_toNat, Option.map_some]
  · obtain ⟨high, highEq⟩ : ∃ high, high = 0xd800 + (c.toNat - 0x10000) / 0x400 := ⟨_, rfl⟩
    obtain ⟨low, lowEq⟩ : ∃ low, low = 0xdc00 + (c.toNat - 0x10000) % 0x400 := ⟨_, rfl⟩
    rw [← highEq, ← lowEq, List.append_assoc]
    obtain ⟨afterLow, escapedLow, unitLow⟩ := scanUnit_unicodeEscape low (by omega) rest
    obtain ⟨afterHigh, escapedHigh, unitHigh⟩ := scanUnit_unicodeEscape high (by omega)
      (unicodeEscape low ++ rest)
    have leads : 0xd800 ≤ high ∧ high < 0xdc00 := by omega
    have trails : 0xdc00 ≤ low ∧ low < 0xe000 := by omega
    have combined : 0x10000 + (high - 0xd800) * 0x400 + (low - 0xdc00) = c.toNat := by omega
    rw [escapedHigh]
    simp only [scanChar, scanCodePoint, unitHigh, escapedLow, unitLow, Option.bind_eq_bind,
      Option.bind_some, if_pos leads, if_pos trails, combined, Char.ofNat_toNat, Option.map_some]

theorem escapeChar_ne_nil (c : Char) : escapeChar c ≠ [] := by
  intro isNil
  have scanned := scanChar_escapeChar c []
  rw [isNil] at scanned
  cases scanned

theorem length_le_escaped (chars : List Char) :
    chars.length ≤ (chars.flatMap escapeChar).length := by
  induction chars with
  | nil => simp
  | cons c chars ih =>
      have positive := List.length_pos_iff.mpr (escapeChar_ne_nil c)
      simp only [List.flatMap_cons, List.length_append, List.length_cons]
      omega

theorem scanString_escaped (chars rest : List Char) (fuel : Nat) (enough : chars.length < fuel) :
    scanString fuel (chars.flatMap escapeChar ++ '"' :: rest) = some (chars, rest) := by
  induction chars generalizing fuel with
  | nil =>
      obtain ⟨fuel, rfl⟩ := Nat.exists_eq_succ_of_ne_zero (Nat.ne_of_gt enough)
      rfl
  | cons c chars ih =>
      obtain ⟨fuel, rfl⟩ := Nat.exists_eq_succ_of_ne_zero (Nat.ne_of_gt (Nat.zero_lt_of_lt enough))
      have tail := ih fuel (by simpa using enough)
      simp only [scanString, List.flatMap_cons, List.append_assoc, scanChar_escapeChar, tail,
        Option.map_some]

theorem quotedText_quote (text : String) (rest : List Char) :
    quotedText (text.toList.flatMap escapeChar ++ '"' :: rest) = some (text, rest) := by
  have enough : text.toList.length <
      (text.toList.flatMap escapeChar ++ '"' :: rest).length := by
    have := length_le_escaped text.toList
    rw [List.length_append, List.length_cons]
    omega
  rw [quotedText, scanString_escaped _ _ _ enough]
  simp

/-! ## Numbers are read back -/

theorem scanNumber_digits (n : Nat) (rest : List Char) (ends : EndsNumber rest) :
    scanNumber (Nat.toDigits 10 n ++ rest) = some (⟨Nat.toDigits 10 n, none, none⟩, rest) := by
  have whole : scanWhole (Nat.toDigits 10 n ++ rest) = some (Nat.toDigits 10 n, rest) := by
    rcases Nat.eq_zero_or_pos n with rfl | positive
    · rfl
    · exact scanWhole_digits _ rest ⟨isDigit_of_mem_toDigits n, toDigits_leading n positive⟩
        (fun c head => (ends c head).1)
  have noFraction := scanFraction_ends rest fun c head => (ends c head).2.1
  have noExponent := scanExponent_ends rest fun c head =>
    ⟨(ends c head).2.2.1, (ends c head).2.2.2⟩
  simp only [scanNumber, whole, Option.map_some, noFraction, noExponent]

theorem parseNumber_reprInt (n : Int) (short : (Nat.toDigits 10 n.natAbs).length ≤ maxStrDigits)
    (rest : List Char) (ends : EndsNumber rest) :
    parseNumber (reprInt n ++ rest) = some (.int n, rest) := by
  have scanned := scanNumber_digits n.natAbs rest ends
  have value : Nat.ofDigitChars 10 (Nat.toDigits 10 n.natAbs) 0 = n.natAbs :=
    Nat.ofDigitChars_ten_toDigits
  by_cases negative : n < 0
  · have sign : splitSign (reprInt n ++ rest) = (true, Nat.toDigits 10 n.natAbs ++ rest) := by
      simp only [reprInt, if_pos negative]
      rfl
    have back : -(n.natAbs : Int) = n := by omega
    simp only [parseNumber, sign, scanned, Option.bind_eq_bind, Option.bind_some,
      NumberText.isFloat, Option.isSome_none, Bool.or_self, Bool.false_eq_true, if_false, short,
      if_true, value, back]
  · have sign : splitSign (reprInt n ++ rest) = (false, Nat.toDigits 10 n.natAbs ++ rest) := by
      simp only [reprInt, if_neg negative]
      exact splitSign_of_scanned _ rest _ scanned
    have back : (n.natAbs : Int) = n := by omega
    simp only [parseNumber, sign, scanned, Option.bind_eq_bind, Option.bind_some,
      NumberText.isFloat, Option.isSome_none, Bool.or_self, Bool.false_eq_true, if_false, short,
      if_true, value, back]

theorem parseNumber_reprFloat (q : Rat) (double : IsDouble q) (rest : List Char)
    (ends : EndsNumber rest) : parseNumber (reprFloat q ++ rest) = some (.float q, rest) := by
  obtain ⟨negative, text, number, value, sign, reads, rounds⟩ :=
    scan_reprFloat q double rest ends
  obtain ⟨magnitude, rounded, same⟩ := Option.map_eq_some_iff.mp rounds
  simp only [parseNumber, sign, reads.scanned, Option.bind_eq_bind, Option.bind_some,
    reads.isFloat, if_true, reads.value, rounded, same]

/-! ## Documents are read back -/

namespace Json

/-- What `loads` can return: an `int` that has a text, a `float` that is a double, a dictionary
with a value for each key. -/
def isLoaded : Json → Bool
  | int value => decide ((Nat.toDigits 10 value.natAbs).length ≤ maxStrDigits)
  | float value => decide (IsDouble value)
  | arr items => loadedItems items
  | obj keys values => keys.val.length == values.length && loadedItems values
  | _ => true
where
  loadedItems : List Json → Bool
    | [] => true
    | item :: items => item.isLoaded && loadedItems items

theorem loadedItems_iff (items : List Json) :
    isLoaded.loadedItems items = true ↔ ∀ item ∈ items, item.isLoaded = true := by
  induction items with
  | nil => simp [isLoaded.loadedItems]
  | cons item items ih => simp [isLoaded.loadedItems, ih]

theorem textItems_iff (items : List Json) :
    hasText.textItems items = true ↔ ∀ item ∈ items, item.hasText = true := by
  induction items with
  | nil => simp [hasText.textItems]
  | cons item items ih => simp [hasText.textItems, ih]

theorem hasText_of_isLoaded (value : Json) (loaded : value.isLoaded = true) :
    value.hasText = true := by
  induction value with
  | null | bool | float | str => rfl
  | int value => exact loaded
  | arr items ih =>
      rw [isLoaded, loadedItems_iff] at loaded
      rw [hasText, textItems_iff]
      exact fun item member => ih item member (loaded item member)
  | obj keys values ih =>
      rw [isLoaded, Bool.and_eq_true, loadedItems_iff] at loaded
      rw [hasText, textItems_iff]
      exact fun item member => ih item member (loaded.2 item member)

end Json

/-- No number begins with the character. -/
theorem parseNumber_none (c : Char) (rest : List Char) (sign : c ≠ '-') (digit : c.isDigit = false) :
    parseNumber (c :: rest) = none := by
  have unsigned : splitSign (c :: rest) = (false, c :: rest) := by
    unfold splitSign
    split
    · rename_i negative
      exact absurd (List.cons.inj negative).1 sign
    · rfl
  have notWhole : scanWhole (c :: rest) = none := by
    unfold scanWhole
    split
    · rfl
    · rename_i zero
      obtain ⟨rfl, _⟩ := List.cons.inj zero
      exact absurd digit (by decide)
    · rename_i other
      obtain ⟨rfl, rfl⟩ := List.cons.inj other
      simp [digit]
  simp [parseNumber, unsigned, scanNumber, notWhole]

theorem head_of_parseNumber (text : List Char) (result : Json × List Char)
    (parsed : parseNumber text = some result) :
    ∃ c rest, text = c :: rest ∧ (c = '-' ∨ c.isDigit = true) := by
  cases text with
  | nil => simp [parseNumber, splitSign, scanNumber, scanWhole] at parsed
  | cons c rest =>
      refine ⟨c, rest, rfl, ?_⟩
      by_contra neither
      obtain ⟨sign, digit⟩ := not_or.mp neither
      rw [parseNumber_none c rest sign (by simpa using digit)] at parsed
      simp at parsed

theorem parseValue_number (fuel : Nat) (text : List Char) (result : Json × List Char)
    (parsed : parseNumber text = some result) : parseValue (fuel + 1) text = some result := by
  obtain ⟨c, rest, rfl, leads⟩ := head_of_parseNumber text result parsed
  have other (letter : Char) (sign : letter ≠ '-') (digit : letter.isDigit = false) :
      c ≠ letter := by
    rintro rfl
    rcases leads with minus | isDigit
    · exact sign minus
    · simp [digit] at isDigit
  simp only [parseValue, other '"' (by decide) (by decide), other '{' (by decide) (by decide),
    other '[' (by decide) (by decide), other 'n' (by decide) (by decide),
    other 't' (by decide) (by decide), other 'f' (by decide) (by decide), if_false]
  exact parsed

/-- A value begins with a character that is neither blank nor a closing bracket. -/
theorem head_of_parseValue (fuel : Nat) (text : List Char) (result : Json × List Char)
    (parsed : parseValue fuel text = some result) :
    ∃ c rest, text = c :: rest ∧ isBlank c = false ∧ c ≠ ']' ∧ c ≠ '}' := by
  cases fuel with
  | zero => simp [parseValue] at parsed
  | succ fuel =>
      cases text with
      | nil => simp [parseValue] at parsed
      | cons c rest =>
          have other (letter : Char) (sign : letter ≠ '-') (digit : letter.isDigit = false)
              (opens : letter ∉ ['"', '{', '[', 'n', 't', 'f']) : c ≠ letter := by
            rintro rfl
            simp only [List.mem_cons, List.not_mem_nil, or_false, not_or] at opens
            simp only [parseValue, opens, if_false, parseNumber_none c rest sign digit] at parsed
            simp at parsed
          refine ⟨c, rest, rfl, ?_, other ']' (by decide) (by decide) (by decide),
            other '}' (by decide) (by decide) (by decide)⟩
          have space := other ' ' (by decide) (by decide) (by decide)
          have tab := other '\t' (by decide) (by decide) (by decide)
          have newline := other '\n' (by decide) (by decide) (by decide)
          have return' := other '\r' (by decide) (by decide) (by decide)
          simp [isBlank, space, tab, newline, return']

theorem skipBlanks_of_parseValue (fuel : Nat) (text : List Char) (result : Json × List Char)
    (parsed : parseValue fuel text = some result) : skipBlanks text = text := by
  obtain ⟨c, rest, rfl, visible, _⟩ := head_of_parseValue fuel text result parsed
  simp [skipBlanks, visible]

/-- A dictionary whose keys are distinct is its own list of pairs. -/
theorem dictOfPairs_zip (keys : UniqueKeys) (values : List Json)
    (lengths : keys.val.length = values.length) :
    dictOfPairs (keys.val.zip values) = .obj keys values := by
  have fst : (keys.val.zip values).map Prod.fst = keys.val := List.map_fst_zip lengths.le
  have snd : (keys.val.zip values).map Prod.snd = values := List.map_snd_zip lengths.ge
  have kept : ((keys.val.zip values).map Prod.fst).reverse.dedup.reverse = keys.val := by
    rw [fst, List.Nodup.dedup (List.nodup_reverse.mpr keys.property), List.reverse_reverse]
  have looked : keys.val.map (fun key => ((keys.val.zip values).reverse.lookup key).getD .null) =
      values := by
    have distinct : ((keys.val.zip values).reverse.map Prod.fst).Nodup := by
      rw [List.map_reverse, fst]
      exact List.nodup_reverse.mpr keys.property
    calc keys.val.map (fun key => ((keys.val.zip values).reverse.lookup key).getD .null)
        = ((keys.val.zip values).map Prod.fst).map
            (fun key => ((keys.val.zip values).reverse.lookup key).getD .null) := by rw [fst]
      _ = (keys.val.zip values).map Prod.snd := by
        rw [List.map_map]
        apply List.map_congr_left
        intro pair member
        simp only [Function.comp]
        rw [(Dict.lookup_eq_some_iff_mem distinct pair.1 pair.2).mpr (List.mem_reverse.mpr member)]
        rfl
      _ = values := snd
  simp only [dictOfPairs]
  congr 1
  · exact Subtype.ext kept
  · rw [kept, looked]

namespace Json

/-- The text of a value is parsed as the value, whatever follows that is no part of a number. -/
def ReadBack (value : Json) : Prop :=
  ∀ (fuel : Nat) (rest : List Char), value.dumpsValue.length ≤ fuel → EndsNumber rest →
    parseValue fuel (value.dumpsValue ++ rest) = some (value, rest)

theorem dumpsItems_pos (items : List Json) : 0 < (dumpsItems items).length := by
  cases items <;> simp [dumpsItems]

theorem endsNumber_cons (c : Char) (rest : List Char)
    (ends : c.isDigit = false ∧ c ≠ '.' ∧ c ≠ 'e' ∧ c ≠ 'E') : EndsNumber (c :: rest) := by
  intro head first
  obtain rfl : c = head := by simpa using first
  exact ends

theorem endsNumber_items (items : List Json) (rest : List Char) :
    EndsNumber (dumpsItems items ++ rest) := by
  cases items with
  | nil => exact endsNumber_cons _ _ (by decide)
  | cons item items => exact endsNumber_cons _ _ (by decide)

/-- The blank after a separator is skipped, and nothing of the value. -/
theorem skipBlanks_separated (value : Json) (back : ReadBack value) (rest : List Char)
    (ends : EndsNumber rest) :
    skipBlanks (' ' :: (value.dumpsValue ++ rest)) = value.dumpsValue ++ rest := by
  have visible := skipBlanks_of_parseValue _ _ _ (back _ rest le_rfl ends)
  simpa [skipBlanks, isBlank] using visible

theorem parseItems_dumped (item : Json) (items : List Json) (head : ReadBack item)
    (tail : ∀ other ∈ items, ReadBack other) (fuel : Nat) (rest : List Char)
    (enough : item.dumpsValue.length + (dumpsItems items).length ≤ fuel) :
    parseItems fuel (item.dumpsValue ++ (dumpsItems items ++ rest)) = some (item :: items, rest) := by
  have some_fuel : ∃ less, fuel = less + 1 := by
    have := dumpsItems_pos items
    exact ⟨fuel - 1, by omega⟩
  obtain ⟨fuel, rfl⟩ := some_fuel
  have parsed := head fuel (dumpsItems items ++ rest)
    (by have := dumpsItems_pos items; omega) (endsNumber_items items rest)
  simp only [parseItems, parsed]
  induction items generalizing item fuel with
  | nil => rfl
  | cons next items ih =>
      have nextBack := tail next List.mem_cons_self
      have tailBack : ∀ other ∈ items, ReadBack other := fun other member =>
        tail other (List.mem_cons_of_mem _ member)
      simp only [dumpsItems, List.length_cons, List.length_append] at enough
      have positive := dumpsItems_pos items
      obtain ⟨less, rfl⟩ : ∃ less, fuel = less + 1 := ⟨fuel - 1, by omega⟩
      have nextParsed := nextBack less (dumpsItems items ++ rest) (by omega)
        (endsNumber_items items rest)
      have later := ih next nextBack tailBack less (by omega) nextParsed
      have separated := skipBlanks_separated next nextBack (dumpsItems items ++ rest)
        (endsNumber_items items rest)
      have comma (text : List Char) : skipBlanks (',' :: text) = ',' :: text := rfl
      simp only [dumpsItems, List.cons_append, List.append_assoc, comma, separated, parseItems,
        nextParsed, later, Option.map_some]

theorem quote_append (text : String) (rest : List Char) :
    quote text ++ rest = '"' :: (text.toList.flatMap escapeChar ++ '"' :: rest) := by
  simp [quote]

/-- What follows the value of a member. -/
def dumpsRest (keys : List String) (values : List Json) : List Char :=
  match keys with
  | [] => ['}']
  | key :: keys => ',' :: ' ' :: dumpsMembers key keys values

theorem dumpsMembers_cons (key : String) (keys : List String) (value : Json)
    (values : List Json) (rest : List Char) :
    dumpsMembers key keys (value :: values) ++ rest = '"' :: (key.toList.flatMap escapeChar ++
      '"' :: ':' :: ' ' :: (value.dumpsValue ++ (dumpsRest keys values ++ rest))) := by
  have split : dumpsMembers key keys (value :: values) =
      quote key ++ ':' :: ' ' :: (value.dumpsValue ++ dumpsRest keys values) := by
    cases keys <;> simp only [dumpsMembers, dumpsRest]
  rw [split, List.append_assoc, quote_append]
  simp

theorem endsNumber_members (keys : List String) (values : List Json) (rest : List Char) :
    EndsNumber (dumpsRest keys values ++ rest) := by
  cases keys with
  | nil => exact endsNumber_cons _ _ (by decide)
  | cons key keys => exact endsNumber_cons _ _ (by decide)

theorem dumpsMembers_length (key : String) (keys : List String) (value : Json)
    (values : List Json) : value.dumpsValue.length + (dumpsRest keys values).length + 4 ≤
      (dumpsMembers key keys (value :: values)).length := by
  have split := congrArg List.length (dumpsMembers_cons key keys value values [])
  simp only [List.append_nil, List.length_cons, List.length_append] at split
  omega

/-- One member is read, and what follows its value decides how to go on. -/
theorem parseMembers_member (key : String) (keys : List String) (value : Json)
    (values : List Json) (back : ReadBack value) (fuel : Nat) (rest : List Char)
    (enough : value.dumpsValue.length ≤ fuel) :
    parseMembers (fuel + 1) (dumpsMembers key keys (value :: values) ++ rest) =
      match keys, values with
      | [], _ => some ([(key, value)], rest)
      | next :: keys, values =>
          (parseMembers fuel (skipBlanks (' ' :: (dumpsMembers next keys values ++ rest)))).map
            fun (pairs, rest) => ((key, value) :: pairs, rest) := by
  have parsed := back fuel (dumpsRest keys values ++ rest) enough
    (endsNumber_members keys values rest)
  have separated := skipBlanks_separated value back (dumpsRest keys values ++ rest)
    (endsNumber_members keys values rest)
  have colon (text : List Char) : skipBlanks (':' :: text) = ':' :: text := rfl
  rw [dumpsMembers_cons]
  simp only [parseMembers, quotedText_quote, colon, separated, parsed]
  cases keys with
  | nil => rfl
  | cons next keys => rfl

theorem parseMembers_dumped (key : String) (keys : List String) (value : Json)
    (values : List Json) (lengths : keys.length = values.length)
    (back : ∀ other ∈ value :: values, ReadBack other) (fuel : Nat) (rest : List Char)
    (enough : (dumpsMembers key keys (value :: values)).length ≤ fuel) :
    parseMembers fuel (dumpsMembers key keys (value :: values) ++ rest) =
      some ((key, value) :: keys.zip values, rest) := by
  induction values generalizing key keys value fuel with
  | nil =>
      obtain rfl : keys = [] := List.length_eq_zero_iff.mp lengths
      have size := dumpsMembers_length key [] value []
      obtain ⟨fuel, rfl⟩ : ∃ less, fuel = less + 1 := ⟨fuel - 1, by omega⟩
      exact parseMembers_member key [] value [] (back value List.mem_cons_self) fuel rest (by omega)
  | cons next values ih =>
      obtain ⟨following, keys, rfl⟩ := List.exists_cons_of_length_eq_add_one lengths
      have size := dumpsMembers_length key (following :: keys) value (next :: values)
      have tailSize : (dumpsRest (following :: keys) (next :: values)).length =
          (dumpsMembers following keys (next :: values)).length + 2 := rfl
      obtain ⟨fuel, rfl⟩ : ∃ less, fuel = less + 1 := ⟨fuel - 1, by omega⟩
      have later := ih following keys next (by simpa using lengths)
        (fun other member => back other (List.mem_cons_of_mem _ member)) fuel (by omega)
      have blank : skipBlanks (' ' :: (dumpsMembers following keys (next :: values) ++ rest)) =
          dumpsMembers following keys (next :: values) ++ rest := by
        rw [dumpsMembers_cons]
        rfl
      rw [parseMembers_member key (following :: keys) value (next :: values)
        (back value List.mem_cons_self) fuel rest (by omega)]
      simp only [blank, later, Option.map_some]
      rfl

/-! ## The round trip -/

theorem readBack_of_number (value : Json)
    (parsed : ∀ rest, EndsNumber rest →
      parseNumber (value.dumpsValue ++ rest) = some (value, rest)) : ReadBack value := by
  intro fuel rest enough ends
  obtain ⟨c, text, nonempty, _⟩ := head_of_parseNumber _ _ (parsed [] (by simp [EndsNumber]))
  rw [List.append_nil] at nonempty
  rw [nonempty, List.length_cons] at enough
  obtain ⟨fuel, rfl⟩ : ∃ less, fuel = less + 1 := ⟨fuel - 1, by omega⟩
  exact parseValue_number fuel _ _ (parsed rest ends)

theorem readBack_arr (items : List Json) (back : ∀ item ∈ items, ReadBack item) :
    ReadBack (.arr items) := by
  intro fuel rest enough _
  cases items with
  | nil =>
      obtain ⟨fuel, rfl⟩ : ∃ less, fuel = less + 1 := ⟨fuel - 1, by simp [dumpsValue] at enough; omega⟩
      rfl
  | cons item items =>
      simp only [dumpsValue, List.length_cons, List.length_append] at enough
      obtain ⟨fuel, rfl⟩ : ∃ less, fuel = less + 1 := ⟨fuel - 1, by omega⟩
      have itemBack := back item List.mem_cons_self
      have parsed := parseItems_dumped item items itemBack
        (fun other member => back other (List.mem_cons_of_mem _ member)) fuel rest (by omega)
      obtain ⟨c, text, head, visible, notClosing, _⟩ := head_of_parseValue _ _ _
        (itemBack _ (dumpsItems items ++ rest) le_rfl (endsNumber_items items rest))
      rw [head] at parsed
      have blanks : skipBlanks (c :: text) = c :: text := by simp [skipBlanks, visible]
      simp only [dumpsValue, List.cons_append, List.append_assoc, head]
      simp only [parseValue, blanks, Char.reduceEq, if_false, if_true]
      split
      · rename_i closing
        exact absurd (List.cons.inj closing).1 notClosing
      · rw [parsed]
        rfl

theorem readBack_obj (keys : UniqueKeys) (values : List Json)
    (lengths : keys.val.length = values.length) (back : ∀ value ∈ values, ReadBack value) :
    ReadBack (.obj keys values) := by
  intro fuel rest enough _
  have whole := dictOfPairs_zip keys values lengths
  obtain ⟨keyList, distinct⟩ := keys
  cases keyList with
  | nil =>
      obtain rfl : values = [] := List.length_eq_zero_iff.mp lengths.symm
      obtain ⟨fuel, rfl⟩ : ∃ less, fuel = less + 1 := ⟨fuel - 1, by simp [dumpsValue] at enough; omega⟩
      rfl
  | cons key keys =>
      obtain ⟨value, values, rfl⟩ := List.exists_cons_of_length_eq_add_one lengths.symm
      simp only [dumpsValue, List.length_cons] at enough
      obtain ⟨fuel, rfl⟩ : ∃ less, fuel = less + 1 := ⟨fuel - 1, by omega⟩
      have parsed := parseMembers_dumped key keys value values (by simpa using lengths) back fuel
        rest (by omega)
      have opens (text : List Char) : skipBlanks ('"' :: text) = '"' :: text := rfl
      simp only [dumpsValue, List.cons_append]
      rw [dumpsMembers_cons] at parsed ⊢
      simp only [parseValue, opens, Char.reduceEq, if_false, if_true]
      split
      · rename_i closing
        exact absurd (List.cons.inj closing).1 (by decide)
      · rw [parsed, ← whole]
        rfl

theorem readBack_of_isLoaded (value : Json) (loaded : value.isLoaded = true) : ReadBack value := by
  induction value with
  | null =>
      intro fuel rest enough _
      obtain ⟨fuel, rfl⟩ : ∃ less, fuel = less + 1 := ⟨fuel - 1, by simp [dumpsValue] at enough; omega⟩
      rfl
  | bool value =>
      intro fuel rest enough _
      cases value <;>
      · obtain ⟨fuel, rfl⟩ : ∃ less, fuel = less + 1 :=
          ⟨fuel - 1, by simp [dumpsValue] at enough; omega⟩
        rfl
  | int value =>
      apply readBack_of_number
      exact parseNumber_reprInt value (of_decide_eq_true loaded)
  | float value =>
      apply readBack_of_number
      exact parseNumber_reprFloat value (of_decide_eq_true loaded)
  | str value =>
      intro fuel rest enough _
      obtain ⟨fuel, rfl⟩ : ∃ less, fuel = less + 1 :=
        ⟨fuel - 1, by simp [dumpsValue, quote] at enough; omega⟩
      simp only [dumpsValue, quote_append, parseValue, if_true, quotedText_quote, Option.map_some]
  | arr items ih =>
      rw [isLoaded, loadedItems_iff] at loaded
      exact readBack_arr items fun item member => ih item member (loaded item member)
  | obj keys values ih =>
      rw [isLoaded, Bool.and_eq_true, beq_iff_eq, loadedItems_iff] at loaded
      exact readBack_obj keys values loaded.1 fun value member => ih value member
        (loaded.2 value member)

/-- Whatever `loads` can return is dumped, and `loads` of the text returns it again. -/
theorem loads_dumps (value : Json) (loaded : value.isLoaded = true) :
    ∃ text, value.dumps = some text ∧ loads text = some value := by
  have back := readBack_of_isLoaded value loaded
  refine ⟨String.ofList value.dumpsValue, by rw [dumps, if_pos (hasText_of_isLoaded value loaded)],
    ?_⟩
  have parsed := back (2 * value.dumpsValue.length) [] (by omega) (by simp [EndsNumber])
  have blanks := skipBlanks_of_parseValue _ _ _ parsed
  rw [List.append_nil] at parsed blanks
  simp only [loads, String.toList_ofList, blanks, parsed]
  rfl

end Json

/-! ## What is loaded -/

theorem isDouble_signed (negative : Bool) (magnitude : Rat) (nonneg : 0 ≤ magnitude)
    (double : toDouble magnitude = some magnitude) : IsDouble (signed negative magnitude) := by
  cases negative <;> simpa [signed, IsDouble, abs_of_nonneg nonneg] using double

theorem ofDigitChars_lt (digits : List Char) (all : ∀ c ∈ digits, c.isDigit = true) :
    Nat.ofDigitChars 10 digits 0 < 10 ^ digits.length := by
  induction digits with
  | nil => simp
  | cons c digits ih =>
      have tail := ih fun other member => all other (List.mem_cons_of_mem _ member)
      have digit := all c List.mem_cons_self
      have small : c.toNat - '0'.toNat ≤ 9 := by
        simp only [Char.isDigit, Bool.and_eq_true, decide_eq_true_eq] at digit
        have : c.toNat ≤ 57 := by exact_mod_cast digit.2
        have zero : '0'.toNat = 48 := rfl
        omega
      have product := Nat.mul_le_mul_left (10 ^ digits.length) small
      rw [Nat.ofDigitChars_cons, Nat.ofDigitChars_eq_ofDigitChars_zero, List.length_cons, pow_succ,
        mul_zero, zero_add]
      omega

theorem digits_of_scanWhole (text rest digits : List Char)
    (scanned : scanWhole text = some (digits, rest)) :
    digits ≠ [] ∧ ∀ c ∈ digits, c.isDigit = true := by
  unfold scanWhole at scanned
  split at scanned
  · simp at scanned
  · obtain ⟨rfl, rfl⟩ := Prod.mk.inj (Option.some.inj scanned)
    refine ⟨by simp, fun c member => ?_⟩
    rw [List.mem_singleton.mp member]
    rfl
  · rename_i c rest' _
    split at scanned
    · rename_i digit
      rw [List.span_eq_takeWhile_dropWhile] at scanned
      obtain ⟨rfl, rfl⟩ := Prod.mk.inj (Option.some.inj scanned)
      constructor
      · simp [digit]
      · exact fun other member => List.mem_takeWhile_imp member
    · simp at scanned

theorem digits_of_scanNumber (text rest : List Char) (number : NumberText)
    (scanned : scanNumber text = some (number, rest)) :
    number.whole ≠ [] ∧ ∀ c ∈ number.whole, c.isDigit = true := by
  obtain ⟨⟨whole, after⟩, wholeScanned, same⟩ := Option.map_eq_some_iff.mp scanned
  obtain ⟨rfl, _⟩ := Prod.mk.inj same
  exact digits_of_scanWhole text after whole wholeScanned

theorem NumberText.value_nonneg (number : NumberText) : 0 ≤ number.value := by
  unfold NumberText.value
  positivity

namespace Json

theorem isLoaded_of_parseNumber (text rest : List Char) (value : Json)
    (parsed : parseNumber text = some (value, rest)) : value.isLoaded = true := by
  simp only [parseNumber] at parsed
  obtain ⟨⟨number, after⟩, scanned, parsed⟩ := Option.bind_eq_some_iff.mp parsed
  simp only at parsed
  split at parsed
  · obtain ⟨magnitude, rounded, same⟩ := Option.bind_eq_some_iff.mp parsed
    obtain ⟨rfl, _⟩ := Prod.mk.inj (Option.some.inj same)
    obtain ⟨nonneg, double⟩ := toDouble_rounded _ _ number.value_nonneg rounded
    exact decide_eq_true (isDouble_signed _ magnitude nonneg double)
  · split at parsed
    · rename_i short
      obtain ⟨rfl, _⟩ := Prod.mk.inj (Option.some.inj parsed)
      obtain ⟨nonempty, digits⟩ := digits_of_scanNumber _ _ _ scanned
      have magnitude := ofDigitChars_lt number.whole digits
      have fits : (Nat.toDigits 10 (Nat.ofDigitChars 10 number.whole 0)).length ≤
          number.whole.length :=
        (Nat.length_toDigits_le_iff (by decide) (List.length_pos_iff.mpr nonempty)).mpr magnitude
      apply decide_eq_true
      split <;> simpa using fits.trans short
    · simp at parsed

theorem isLoaded_dictOfPairs (pairs : List (String × Json))
    (loaded : ∀ pair ∈ pairs, pair.2.isLoaded = true) : (dictOfPairs pairs).isLoaded = true := by
  simp only [dictOfPairs, isLoaded, List.length_map, beq_self_eq_true, Bool.true_and,
    loadedItems_iff]
  intro value member
  obtain ⟨key, _, rfl⟩ := List.mem_map.mp member
  cases found : pairs.reverse.lookup key with
  | none => rfl
  | some value =>
      obtain ⟨before, after, split, _⟩ := List.lookup_eq_some_iff.mp found
      have member : (key, value) ∈ pairs.reverse := by
        rw [split]
        exact List.mem_append_right before List.mem_cons_self
      exact loaded (key, value) (List.mem_reverse.mp member)

/-- What the three parsers return with a given fuel. -/
structure LoadedWith (fuel : Nat) : Prop where
  value : ∀ text value rest, parseValue fuel text = some (value, rest) → value.isLoaded = true
  items : ∀ text items rest, parseItems fuel text = some (items, rest) →
    ∀ item ∈ items, item.isLoaded = true
  members : ∀ text pairs rest, parseMembers fuel text = some (pairs, rest) →
    ∀ pair ∈ pairs, pair.2.isLoaded = true

theorem isLoaded_of_expectWord (word text rest : List Char) (expected value : Json)
    (loaded : expected.isLoaded = true)
    (parsed : expectWord word expected text = some (value, rest)) : value.isLoaded = true := by
  unfold expectWord at parsed
  split at parsed
  · obtain ⟨rfl, _⟩ := Prod.mk.inj (Option.some.inj parsed)
    exact loaded
  · simp at parsed

theorem value_step (fuel : Nat) (before : LoadedWith fuel) (text rest : List Char) (value : Json)
    (parsed : parseValue (fuel + 1) text = some (value, rest)) : value.isLoaded = true := by
  cases text with
  | nil => simp [parseValue] at parsed
  | cons c text =>
      rw [parseValue] at parsed
      split at parsed
      · obtain ⟨⟨text, after⟩, _, same⟩ := Option.map_eq_some_iff.mp parsed
        obtain ⟨rfl, _⟩ := Prod.mk.inj same
        rfl
      split at parsed
      · split at parsed
        · obtain ⟨rfl, _⟩ := Prod.mk.inj (Option.some.inj parsed)
          rfl
        · obtain ⟨⟨pairs, after⟩, members, same⟩ := Option.map_eq_some_iff.mp parsed
          obtain ⟨rfl, _⟩ := Prod.mk.inj same
          exact isLoaded_dictOfPairs pairs (before.members _ pairs after members)
      split at parsed
      · split at parsed
        · obtain ⟨rfl, _⟩ := Prod.mk.inj (Option.some.inj parsed)
          rfl
        · obtain ⟨⟨items, after⟩, scanned, same⟩ := Option.map_eq_some_iff.mp parsed
          obtain ⟨rfl, _⟩ := Prod.mk.inj same
          rw [isLoaded, loadedItems_iff]
          exact before.items _ items after scanned
      split at parsed
      · exact isLoaded_of_expectWord _ _ _ _ _ rfl parsed
      split at parsed
      · exact isLoaded_of_expectWord _ _ _ _ _ rfl parsed
      split at parsed
      · exact isLoaded_of_expectWord _ _ _ _ _ rfl parsed
      · exact isLoaded_of_parseNumber _ _ _ parsed

theorem items_step (fuel : Nat) (before : LoadedWith fuel) (text rest : List Char)
    (items : List Json) (parsed : parseItems (fuel + 1) text = some (items, rest)) :
    ∀ item ∈ items, item.isLoaded = true := by
  rw [parseItems] at parsed
  cases first : parseValue fuel text with
  | none => simp [first] at parsed
  | some result =>
      obtain ⟨item, after⟩ := result
      have loaded := before.value _ _ _ first
      simp only [first] at parsed
      split at parsed
      · obtain ⟨⟨others, after'⟩, tail, same⟩ := Option.map_eq_some_iff.mp parsed
        obtain ⟨rfl, _⟩ := Prod.mk.inj same
        exact List.forall_mem_cons.mpr ⟨loaded, before.items _ others after' tail⟩
      · obtain ⟨rfl, _⟩ := Prod.mk.inj (Option.some.inj parsed)
        simpa using loaded
      · simp at parsed

theorem members_step (fuel : Nat) (before : LoadedWith fuel) (text rest : List Char)
    (pairs : List (String × Json)) (parsed : parseMembers (fuel + 1) text = some (pairs, rest)) :
    ∀ pair ∈ pairs, pair.2.isLoaded = true := by
  unfold parseMembers at parsed
  split at parsed
  · split at parsed
    · simp at parsed
    · split at parsed
      · split at parsed
        · simp at parsed
        · rename_i value after first
          have loaded := before.value _ _ _ first
          split at parsed
          · obtain ⟨⟨others, after'⟩, tail, same⟩ := Option.map_eq_some_iff.mp parsed
            obtain ⟨rfl, _⟩ := Prod.mk.inj same
            exact List.forall_mem_cons.mpr ⟨loaded, before.members _ others after' tail⟩
          · obtain ⟨rfl, _⟩ := Prod.mk.inj (Option.some.inj parsed)
            simpa using loaded
          · simp at parsed
      · simp at parsed
  · simp at parsed

theorem loadedWith (fuel : Nat) : LoadedWith fuel := by
  induction fuel with
  | zero =>
      constructor
      · intro text value rest parsed
        simp [parseValue] at parsed
      · intro text items rest parsed
        simp [parseItems] at parsed
      · intro text pairs rest parsed
        simp [parseMembers] at parsed
  | succ fuel before =>
      exact ⟨fun text value rest => value_step fuel before text rest value,
        fun text items rest => items_step fuel before text rest items,
        fun text pairs rest => members_step fuel before text rest pairs⟩

theorem isLoaded_of_loads (text : String) (value : Json) (parsed : loads text = some value) :
    value.isLoaded = true := by
  unfold loads at parsed
  split at parsed
  · rename_i result rest first
    split at parsed
    · obtain rfl := Option.some.inj parsed
      exact (loadedWith _).value _ _ _ first
    · simp at parsed
  · simp at parsed

/-- A value is what some text is read as just when `loads` could return it. -/
theorem isLoaded_iff (value : Json) : value.isLoaded = true ↔ ∃ text, loads text = some value := by
  constructor
  · intro loaded
    obtain ⟨text, _, read⟩ := loads_dumps value loaded
    exact ⟨text, read⟩
  · intro ⟨text, read⟩
    exact isLoaded_of_loads text value read

end Json

end Python
