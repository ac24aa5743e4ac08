import MysticAuth.Accounts.EmailKeys
import MysticAuth.Logging.EmailScan

/-!
# Email addresses in log records

What a message tells of an address in it, after the filter at the handlers:
nothing where the pattern takes all of it, and otherwise what the pattern
leaves.
-/

set_option autoImplicit false

namespace MysticAuth.Logging

open Regex

/-- A record and the arguments of its message, if there are any. -/
structure LogRecord (Args : Type) where
  msg : String
  args : Option Args

section Filter

variable {Args : Type}
-- The operator `%` on strings; it can raise.
variable (format : String → Args → Option String)
variable (words : WordTable) (tables : KeyTables)

def LogRecord.getMessage (record : LogRecord Args) : Option String :=
  match record.args with
  | none => some record.msg
  | some args => format record.msg args

def digest (found : List Char) : List Char :=
  let normalized := tables.lower (tables.strip (String.ofList found))
  (tables.hmacHex normalized).toList.take 16

/-- `_fingerprint` -/
def fingerprint (found : List Char) : List Char :=
  "<email:".toList ++ (digest tables found ++ ">".toList)

def rendered : List Token → List Char
  | [] => []
  | .kept c :: rest => c :: rendered rest
  | .matched found :: rest => fingerprint tables found ++ rendered rest

def redact (message : String) : String :=
  String.ofList (rendered tables (emailTokens words none message.toList))

def filter (record : LogRecord Args) : Option (LogRecord Args) :=
  (record.getMessage format).map fun message =>
    let redacted := redact words tables message
    if redacted ≠ message then { msg := redacted, args := none } else record

/-- The record that the filter leaves reads as `text`. -/
def Leaves (record : LogRecord Args) (text : List Char) : Prop :=
  ∃ left, filter format words tables record = some left ∧
    left.getMessage format = some (String.ofList text)

end Filter

/-- An address has one `@`, and no angle bracket. -/
structure Address where
  localPart : List Char
  domain : List Char
  noAt : '@' ∉ localPart ∧ '@' ∉ domain
  plain : ∀ c ∈ localPart ++ domain, c ≠ '<' ∧ c ≠ '>'

def Address.text (address : Address) : List Char :=
  address.localPart ++ '@' :: address.domain

/-- An address in a message. -/
structure Mention where
  before : List Char
  address : Address
  after : List Char

namespace Mention

variable (words : WordTable) (tables : KeyTables) (mention : Mention)

def text : List Char :=
  mention.before ++ (mention.address.text ++ mention.after)

def tokens : List Token :=
  emailTokens words none mention.text

/-- What the filter leaves of the address. -/
def remains : List Char :=
  remaining (mention.tokens words) mention.before.length mention.address.text.length

/-- `print` stands in for the address, in the place of it and of nothing else. -/
def Stands (print : List Char) : Prop :=
  ∃ left right, mention.tokens words = left ++ .matched mention.address.text :: right ∧
    source left = mention.before ∧ source right = mention.after ∧
      print = fingerprint tables mention.address.text

/-- Where the search is when only the local part is left in front of the `@`. -/
def arrival : Place :=
  let found := pieces (mention.before ++ mention.address.localPart)
  arrive words none found.1 found.2

/-- The pattern reaches from the start of the address, or from an earlier address, to its end. -/
structure Covered : Prop where
  start : ∃ found, localPart words (mention.arrival words).before (mention.arrival words).rest =
      some found ∧
    (mention.address.localPart.length ≤ found.length ∨ found = (mention.arrival words).rest)
  stop : ∃ stop, addressEnd words (mention.address.domain ++ mention.after) = some stop ∧
    (stop.rest.length ≤ mention.after.length ∨ Taken words stop)

/-- The pattern reaches from the start of the address to its end, and no further. -/
structure Separate : Prop where
  start : localPart words (mention.arrival words).before (mention.arrival words).rest =
    some mention.address.localPart
  stop : ∃ stop, addressEnd words (mention.address.domain ++ mention.after) = some stop ∧
    stop.rest = mention.after

/-! ## The cut at an address -/

section Cut

/-- What the search makes of a message when it finds an address around the `@` of the mentioned
one. -/
structure Cut (front : List Token) (skipped found used : List Char) (stop : Place) : Prop where
  arrived : Arrived (mention.before ++ mention.address.localPart) (mention.arrival words) front
  start_eq : (mention.arrival words).rest = skipped ++ found
  stop_eq : mention.address.domain ++ mention.after = used ++ stop.rest
  tokens_eq : mention.tokens words =
    front ++ (skipped.map .kept ++ .matched (found ++ '@' :: used) ::
      emailTokens words stop.before stop.rest)

theorem exists_arrived :
    ∃ front,
      Arrived (mention.before ++ mention.address.localPart) (mention.arrival words) front ∧
        mention.tokens words = front ++
          emailTokens words (mention.arrival words).before
            ((mention.arrival words).rest ++
              '@' :: (mention.address.domain ++ mention.after)) := by
  have noAts := pieces_noAt (mention.before ++ mention.address.localPart)
  obtain ⟨front, arrived, split⟩ := emailTokens_arrive words noAts.1 noAts.2 none
    (mention.address.domain ++ mention.after)
  rw [joined_pieces] at arrived split
  refine ⟨front, arrived, ?_⟩
  rw [tokens, text, Address.text]
  simpa [arrival] using split

variable {words mention}

theorem exists_cut {found : List Char} {stop : Place}
    (start : localPart words (mention.arrival words).before (mention.arrival words).rest =
      some found)
    (ended : addressEnd words (mention.address.domain ++ mention.after) = some stop) :
    ∃ front skipped used, mention.Cut words front skipped found used stop := by
  obtain ⟨front, arrived, split⟩ := exists_arrived words mention
  obtain ⟨skipped, start_eq⟩ := localPart_suffix start
  obtain ⟨used, stop_eq, -⟩ := addressEnd_suffix ended
  refine ⟨front, skipped, used, arrived, start_eq, stop_eq, ?_⟩
  have noAt := arrived.noAt
  rw [start_eq] at start noAt
  rw [stop_eq] at ended
  rw [split, start_eq, stop_eq, emailTokens_address noAt start ended]

theorem shown_of_plain
    (plain : localPart words (mention.arrival words).before (mention.arrival words).rest = none ∨
      addressEnd words (mention.address.domain ++ mention.after) = none) :
    (marks (mention.tokens words))[mention.before.length + mention.address.localPart.length]? =
      some true := by
  obtain ⟨front, arrived, split⟩ := exists_arrived words mention
  have length := congrArg List.length arrived.text_eq
  simp only [List.length_append] at length
  rw [split, emailTokens_plain arrived.noAt plain, length, ← length_marks]
  simp [Token.marks]

theorem Cut.marks_eq {front : List Token} {skipped found used : List Char} {stop : Place}
    (cut : mention.Cut words front skipped found used stop) :
    marks (mention.tokens words) =
      marks front ++ (List.replicate skipped.length true ++
        (List.replicate (found.length + (used.length + 1)) false ++
          marks (emailTokens words stop.before stop.rest))) := by
  rw [cut.tokens_eq]
  simp [Token.marks]

theorem Cut.lengths {front : List Token} {skipped found used : List Char} {stop : Place}
    (cut : mention.Cut words front skipped found used stop) :
    mention.before.length + mention.address.localPart.length =
        (marks front).length + (skipped.length + found.length) ∧
      mention.address.domain.length + mention.after.length =
        used.length + stop.rest.length := by
  have start := congrArg List.length cut.arrived.text_eq
  have stop := congrArg List.length cut.stop_eq
  rw [cut.start_eq] at start
  simp only [List.length_append] at start stop
  exact ⟨by rw [length_marks, start], stop⟩

theorem length_text (address : Address) :
    address.text.length = address.localPart.length + (address.domain.length + 1) := by
  simp [Address.text]

/-- The next `@` is behind the domain. -/
theorem domain_ends_before {domain after used piece more : List Char} (noAt : '@' ∉ domain)
    (split : domain ++ after = used ++ (piece ++ '@' :: more)) :
    domain.length ≤ used.length + piece.length := by
  by_contra inside
  have at_ : (domain ++ after)[used.length + piece.length]? = some '@' := by
    rw [split, ← List.append_assoc, List.getElem?_append_right (by simp)]
    simp
  rw [List.getElem?_append_left (Nat.lt_of_not_le inside)] at at_
  exact noAt (List.mem_of_getElem? at_)

theorem hidden_of_covered (covered : mention.Covered words) : mention.remains words = [] := by
  obtain ⟨found, start, whole⟩ := covered.start
  obtain ⟨stop, ended, last⟩ := covered.stop
  obtain ⟨front, skipped, used, cut⟩ := exists_cut start ended
  obtain ⟨startLength, stopLength⟩ := cut.lengths
  rw [remains, remaining_nil_iff, length_text, cut.marks_eq]
  intro i low high
  by_cases inFront : i < (marks front).length
  · rw [List.getElem?_append_left inFront]
    intro shown
    have at_ := cut.arrived.shown i shown
    rw [List.drop_append, List.drop_eq_nil_of_le low, List.nil_append] at at_
    exact mention.address.noAt.1 (List.mem_of_mem_drop at_)
  · rw [List.getElem?_append_right (Nat.le_of_not_lt inFront)]
    have none_ : skipped.length ≤ i - (marks front).length := by
      rcases whole with long | all
      · omega
      · have length := congrArg List.length (cut.start_eq.symm.trans all.symm)
        simp only [List.length_append] at length
        omega
    rw [List.getElem?_append_right (by simpa using none_), List.length_replicate]
    by_cases inside : i - (marks front).length - skipped.length <
        found.length + (used.length + 1)
    · rw [List.getElem?_append_left (by simpa using inside), List.getElem?_replicate]
      split <;> simp
    · rw [List.getElem?_append_right (by simpa using Nat.le_of_not_lt inside),
        List.length_replicate]
      rcases last with short | ⟨piece, more, split, noAt, begins, goesOn⟩
      · omega
      · have stop_eq := cut.stop_eq
        rw [split] at stop_eq
        have far := domain_ends_before mention.address.noAt.2 stop_eq
        exact hidden_of_taken split noAt begins goesOn (by omega)

theorem found_of_not_plain
    (found : ¬(localPart words (mention.arrival words).before (mention.arrival words).rest = none ∨
      addressEnd words (mention.address.domain ++ mention.after) = none)) :
    ∃ found stop,
      localPart words (mention.arrival words).before (mention.arrival words).rest = some found ∧
        addressEnd words (mention.address.domain ++ mention.after) = some stop := by
  obtain ⟨start, ended⟩ := not_or.mp found
  obtain ⟨found, start⟩ := Option.ne_none_iff_exists'.mp start
  obtain ⟨stop, ended⟩ := Option.ne_none_iff_exists'.mp ended
  exact ⟨found, stop, start, ended⟩

theorem covered_of_hidden (hidden : mention.remains words = []) : mention.Covered words := by
  rw [remains, remaining_nil_iff, length_text] at hidden
  obtain ⟨found, stop, start, ended⟩ := found_of_not_plain fun plain =>
    hidden _ (Nat.le_add_right ..) (by omega) (shown_of_plain plain)
  obtain ⟨front, skipped, used, cut⟩ := exists_cut start ended
  obtain ⟨startLength, stopLength⟩ := cut.lengths
  rw [cut.marks_eq] at hidden
  constructor
  · refine ⟨found, start, ?_⟩
    by_contra left
    obtain ⟨short, part⟩ := not_or.mp left
    have kept : 0 < skipped.length := by
      refine List.length_pos_iff.mpr ?_
      rintro rfl
      exact part cut.start_eq.symm
    refine hidden ((marks front).length + (skipped.length - 1)) (by omega) (by omega) ?_
    rw [List.getElem?_append_right (by omega), Nat.add_sub_cancel_left,
      List.getElem?_append_left (by simp; omega), List.getElem?_replicate, if_pos (by omega)]
  · refine ⟨stop, ended, ?_⟩
    by_contra left
    obtain ⟨long, notTaken⟩ := not_or.mp left
    have some_ : stop.rest ≠ [] := by
      intro none_
      rw [none_] at long
      exact long (Nat.zero_le _)
    refine notTaken ((first_hidden_iff some_).mp fun shown => ?_)
    refine hidden ((marks front).length +
      (skipped.length + (found.length + (used.length + 1)))) (by omega) (by omega) ?_
    rw [List.getElem?_append_right (by omega), Nat.add_sub_cancel_left,
      List.getElem?_append_right (by simp), List.length_replicate, Nat.add_sub_cancel_left,
      List.getElem?_append_right (by simp), List.length_replicate, Nat.sub_self]
    exact shown

/-- The filter leaves nothing of an address exactly if the pattern covers it. -/
theorem remains_nil_iff : mention.remains words = [] ↔ mention.Covered words :=
  ⟨covered_of_hidden, hidden_of_covered⟩

variable {tables : KeyTables}

theorem stands_of_separate (separate : mention.Separate words) :
    mention.Stands words tables (fingerprint tables mention.address.text) := by
  obtain ⟨stop, ended, last⟩ := separate.stop
  obtain ⟨front, skipped, used, cut⟩ := exists_cut separate.start ended
  have domain : mention.address.domain = used := by
    have split := cut.stop_eq
    rw [last] at split
    exact List.append_cancel_right split
  have before : source front ++ skipped = mention.before := by
    have split := cut.arrived.text_eq
    rw [cut.start_eq, ← List.append_assoc] at split
    exact (List.append_cancel_right split).symm
  refine ⟨front ++ skipped.map .kept, emailTokens words stop.before stop.rest, ?_, ?_, ?_, rfl⟩
  · rw [cut.tokens_eq, Address.text, domain, List.append_assoc]
  · rw [source_append, source_map_kept, before]
  · rw [source_emailTokens, last]

theorem separate_of_stands {print : List Char} (stands : mention.Stands words tables print) :
    mention.Separate words := by
  obtain ⟨left, right, tokens_eq, left_eq, right_eq, -⟩ := stands
  have address := length_text mention.address
  have leftLength := congrArg List.length left_eq
  obtain ⟨found, stop, start, ended⟩ := found_of_not_plain fun plain => by
    have shown := shown_of_plain plain
    have leftMarks := length_marks left
    rw [tokens_eq, marks_append, List.getElem?_append_right (by omega), marks_cons,
      List.getElem?_append_left (by simp [Token.marks]; omega)] at shown
    simp [Token.marks, List.getElem?_replicate] at shown
  obtain ⟨front, skipped, used, cut⟩ := exists_cut start ended
  obtain ⟨startLength, stopLength⟩ := cut.lengths
  have frontLength := length_marks front
  have same := tokens_eq.symm.trans (cut.tokens_eq.trans (List.append_assoc ..).symm)
  obtain ⟨-, covering, -⟩ := covering_unique
    (i := mention.before.length + mention.address.localPart.length) same (by omega)
    (by simp only [Token.source]; omega)
    (by simp only [source_append, source_map_kept, List.length_append]; omega)
    (by simp only [source_append, source_map_kept, Token.source, List.length_append,
          List.length_cons]; omega)
  obtain ⟨localPart_eq, -, domain_eq⟩ :=
    (List.append_cons_inj_of_notMem mention.address.noAt.1 mention.address.noAt.2).mp
      (Token.matched.inj covering)
  refine ⟨localPart_eq ▸ start, stop, ended, ?_⟩
  have split := cut.stop_eq
  rw [domain_eq] at split
  exact (List.append_cancel_left split).symm

end Cut

end Mention

/-! ## The text of the record -/

section Text

variable {tables : KeyTables}

theorem rendered_kept_append (text : List Char) (rest : List Token) :
    rendered tables (text.map .kept ++ rest) = text ++ rendered tables rest := by
  induction text with
  | nil => rfl
  | cons c text ih => exact congrArg (c :: ·) ih

variable (tables) in
theorem fingerprint_brackets (found : List Char) :
    ∃ inner, fingerprint tables found = '<' :: (inner ++ ['>']) := by
  have opening : "<email:".toList = '<' :: "email:".toList := by decide
  have closing : ">".toList = ['>'] := by decide
  refine ⟨"email:".toList ++ digest tables found, ?_⟩
  unfold fingerprint
  rw [opening, closing, List.cons_append, List.append_assoc]

/-- A text without an opening bracket at the start of a rendering is kept. -/
theorem kept_of_prefix {text more : List Char} (plain : '<' ∉ text) {tokens : List Token}
    (split : rendered tables tokens = text ++ more) :
    ∃ right, tokens = text.map .kept ++ right := by
  induction text generalizing tokens with
  | nil => exact ⟨tokens, rfl⟩
  | cons c text ih =>
    obtain ⟨notHere, notLater⟩ := List.ne_and_not_mem_of_not_mem_cons plain
    match tokens, split with
    | .kept d :: rest, split =>
      obtain ⟨first, later⟩ := List.cons.inj split
      obtain ⟨right, same⟩ := ih notLater later
      exact ⟨right, by rw [first, same]; rfl⟩
    | .matched found :: rest, split =>
      obtain ⟨inner, brackets⟩ := fingerprint_brackets tables found
      rw [rendered, brackets] at split
      exact absurd (List.cons.inj split).1.symm (Ne.symm notHere)

variable (noAtSign : ∀ message, '@' ∉ (tables.hmacHex message).toList)
include noAtSign

theorem fingerprint_noAt (found : List Char) : '@' ∉ fingerprint tables found := by
  unfold fingerprint
  rw [List.mem_append, List.mem_append, not_or, not_or]
  exact ⟨by decide, fun member => noAtSign _ (List.mem_of_mem_take member), by decide⟩

/-- An address in a rendering is kept as it was. -/
theorem kept_of_infix
    {text left right : List Char} (at_ : '@' ∈ text) (plain : ∀ c ∈ text, c ≠ '<' ∧ c ≠ '>')
    {tokens : List Token} (split : rendered tables tokens = left ++ (text ++ right)) :
    ∃ front rest, tokens = front ++ (text.map .kept ++ rest) := by
  have noOpening : '<' ∉ text := fun member => (plain _ member).1 rfl
  induction tokens generalizing left with
  | nil =>
    have none_ : text = [] := (List.append_eq_nil_iff.mp (List.append_eq_nil_iff.mp split.symm).2).1
    rw [none_] at at_
    cases at_
  | cons token tokens ih =>
    cases token with
    | kept c =>
      cases left with
      | nil =>
        obtain ⟨rest, same⟩ := kept_of_prefix noOpening split
        exact ⟨[], rest, same⟩
      | cons d left =>
        obtain ⟨front, rest, same⟩ := ih (List.cons.inj split).2
        exact ⟨.kept c :: front, rest, by rw [same]; rfl⟩
    | matched found =>
      rcases List.append_eq_append_iff.mp split with ⟨more, passed, later⟩ | ⟨more, inside, later⟩
      · obtain ⟨front, rest, same⟩ := ih later
        exact ⟨.matched found :: front, rest, by rw [same]; rfl⟩
      · cases last : more.getLast? with
        | none =>
          rw [List.getLast?_eq_none_iff.mp last] at later
          have behind : rendered tables tokens = [] ++ (text ++ right) := later.symm
          obtain ⟨front, rest, same⟩ := ih behind
          exact ⟨.matched found :: front, rest, by rw [same]; rfl⟩
        | some c =>
          obtain ⟨inner, brackets⟩ := fingerprint_brackets tables found
          have closing := congrArg List.getLast? brackets
          rw [inside, List.getLast?_append, last, ← List.cons_append, List.getLast?_concat]
            at closing
          cases closing
          rcases List.append_eq_append_iff.mp later with ⟨w, within, -⟩ | ⟨w, beyond, -⟩
          · refine absurd ?_ (fingerprint_noAt noAtSign found)
            rw [inside, within]
            exact List.mem_append_right _ (List.mem_append_left _ at_)
          · refine absurd rfl (plain '>' ?_).2
            rw [beyond]
            exact List.mem_append_left _ (List.mem_of_getLast? last)

/-- Where no mention of an address leaves anything of it, the text does not contain it. -/
theorem absent_of_hidden {words : WordTable} {address : Address} {message : List Char}
    (hidden : ∀ mention : Mention, mention.address = address → mention.text = message →
      mention.remains words = []) :
    ¬address.text <:+: rendered tables (emailTokens words none message) := by
  rintro ⟨left, right, split⟩
  have at_ : '@' ∈ address.text := List.mem_append_right _ List.mem_cons_self
  have plain : ∀ c ∈ address.text, c ≠ '<' ∧ c ≠ '>' := by
    intro c member
    rcases List.mem_append.mp member with inLocal | inDomain
    · exact address.plain c (List.mem_append_left _ inLocal)
    · rcases List.mem_cons.mp inDomain with rfl | inDomain
      · decide
      · exact address.plain c (List.mem_append_right _ inDomain)
  rw [List.append_assoc] at split
  obtain ⟨front, rest, same⟩ := kept_of_infix noAtSign at_ plain split.symm
  have whole : source front ++ (address.text ++ source rest) = message := by
    rw [← source_emailTokens words none message, same, source_append, source_append,
      source_map_kept]
  have text_eq : Mention.text ⟨source front, address, source rest⟩ = message := whole
  have none_ := hidden ⟨source front, address, source rest⟩ rfl whole
  rw [Mention.remains, remaining_nil_iff, Mention.tokens, text_eq, same] at none_
  have length := length_marks front
  have long := Mention.length_text address
  refine none_ (source front).length (Nat.le_refl _) (by simp only; omega) ?_
  rw [marks_append, marks_append, marks_map_kept, List.getElem?_append_right (by omega), length,
    Nat.sub_self, List.getElem?_append_left (by simp; omega), List.getElem?_replicate,
    if_pos (by omega)]

end Text

section Records

variable {Args : Type} {format : String → Args → Option String}
variable {words : WordTable} {tables : KeyTables}

variable (words tables) in
theorem filter_getMessage {record : LogRecord Args} {message : String}
    (logged : record.getMessage format = some message) :
    ∃ left, filter format words tables record = some left ∧
      left.getMessage format = some (redact words tables message) := by
  rw [filter, logged]
  refine ⟨_, rfl, ?_⟩
  by_cases same : redact words tables message = message
  · simp only [ne_eq, same, not_true_eq_false, if_false]
    exact logged
  · simp only [ne_eq, same, not_false_eq_true, if_true]
    rfl

theorem filter_kept {record : LogRecord Args} {message : List Char}
    (logged : record.getMessage format = some (String.ofList message))
    (kept : emailTokens words none message = message.map .kept) :
    filter format words tables record = some record := by
  have same : redact words tables (String.ofList message) = String.ofList message := by
    rw [redact, String.toList_ofList, kept, ← List.append_nil (message.map Token.kept),
      rendered_kept_append, rendered, List.append_nil]
  rw [filter, logged]
  simp [same]

theorem fingerprint_same {found found' : List Char}
    (same : tables.normalizeEmail (String.ofList found) =
      tables.normalizeEmail (String.ofList found')) :
    fingerprint tables found = fingerprint tables found' := by
  unfold fingerprint digest
  unfold KeyTables.normalizeEmail at same
  rw [same]

/-- A filtered record shows nothing of a mentioned address exactly if the pattern covers the
mention, and one print stands for an address in two spellings exactly if both mentions are
separate. -/
theorem emails_redacted_iff (format : String → Args → Option String) (words : WordTable)
    (noAtSign : ∀ message, '@' ∉ (tables.hmacHex message).toList)
    (record : LogRecord Args) (mention : Mention)
    (logged : record.getMessage format = some (String.ofList mention.text)) :
    Leaves format words tables record (rendered tables (mention.tokens words)) ∧
      (mention.remains words = [] ↔ mention.Covered words) ∧
        ((∀ other : Mention, other.address = mention.address → other.text = mention.text →
            other.Covered words) →
          ¬mention.address.text <:+: rendered tables (mention.tokens words)) ∧
          ∀ other : Mention,
            tables.normalizeEmail (String.ofList mention.address.text) =
                tables.normalizeEmail (String.ofList other.address.text) →
              ((∃ print, mention.Stands words tables print ∧ other.Stands words tables print) ↔
                mention.Separate words ∧ other.Separate words) := by
  refine ⟨?_, Mention.remains_nil_iff, ?_, ?_⟩
  · obtain ⟨left, filtered, reads⟩ := filter_getMessage words tables logged
    refine ⟨left, filtered, ?_⟩
    rw [reads, redact, String.toList_ofList, Mention.tokens]
  · intro covered
    exact absent_of_hidden noAtSign fun other address text =>
      Mention.hidden_of_covered (covered other address text)
  · intro other same
    constructor
    · rintro ⟨print, stands, stands'⟩
      exact ⟨Mention.separate_of_stands stands, Mention.separate_of_stands stands'⟩
    · rintro ⟨separate, separate'⟩
      refine ⟨fingerprint tables mention.address.text, Mention.stands_of_separate separate, ?_⟩
      rw [fingerprint_same same]
      exact Mention.stands_of_separate separate'

end Records

/-! ## Addresses inside and outside the pattern -/

/-- Letters outside ASCII are those used here. -/
def logWords : WordTable where
  isWord c := c.isAlphanum || c == '_' || decide (c ∈ 'é' :: caseVariants)
  ascii := by
    intro c below
    have plain : c ∉ 'é' :: caseVariants := by
      intro member
      have beyond : ∀ d ∈ 'é' :: caseVariants, 128 ≤ d.toNat := by
        simp [caseVariants]
      exact Nat.not_lt_of_le (beyond c member) below
    simp [plain]
  variants := by simp [caseVariants]

/-- Two hexadecimal digits of a character, in place of the keyed hash. -/
def hexPair (c : Char) : List Char :=
  [Nat.digitChar (c.toNat / 16 % 16), Nat.digitChar (c.toNat % 16)]

def logTables : KeyTables where
  strip text := String.ofList
    ((text.toList.dropWhile Char.isWhitespace).reverse.dropWhile Char.isWhitespace).reverse
  lower text := String.ofList (text.toList.map Char.toLower)
  casefold text := String.ofList (text.toList.map Char.toLower)
  hmacHex message := String.ofList (message.toList.flatMap hexPair)

theorem logTables_noAt (message : String) : '@' ∉ (logTables.hmacHex message).toList := by
  have digits : ∀ n < 16, Nat.digitChar n ≠ '@' := by decide
  intro member
  simp only [logTables, String.toList_ofList, List.mem_flatMap, hexPair, List.mem_cons,
    List.not_mem_nil, or_false] at member
  obtain ⟨c, -, high | low⟩ := member
  · exact digits _ (Nat.mod_lt _ (by decide)) high.symm
  · exact digits _ (Nat.mod_lt _ (by decide)) low.symm

def john : Address where
  localPart := "John".toList
  domain := "Example.com".toList
  noAt := by decide
  plain := by simp

def johnLower : Address where
  localPart := "john".toList
  domain := "example.com".toList
  noAt := by decide
  plain := by simp

def loginMention : Mention := ⟨"Login: ".toList, john, ".".toList⟩

def resetMention : Mention := ⟨"Reset for <".toList, johnLower, ">".toList⟩

def noArguments (text : String) : LogRecord Unit := ⟨text, none⟩

/-- Two spellings of an address, one in front of a full stop and one in brackets. -/
theorem emails_redacted_spellings :
    Leaves (fun text _ => some text) logWords logTables (noArguments "Login: John@Example.com.")
        (rendered logTables (loginMention.tokens logWords)) ∧
      loginMention.remains logWords = [] ∧
        ∃ print, loginMention.Stands logWords logTables print ∧
          resetMention.Stands logWords logTables print := by
  obtain ⟨left, remains_iff, -, prints⟩ :=
    emails_redacted_iff (fun text _ => some text) logWords logTables_noAt
      (noArguments "Login: John@Example.com.") loginMention (by decide)
  have same : logTables.normalizeEmail (String.ofList loginMention.address.text) =
      logTables.normalizeEmail (String.ofList resetMention.address.text) := by
    decide +kernel
  refine ⟨left, remains_iff.mpr ⟨?_, ?_⟩, (prints resetMention same).mpr ⟨⟨?_, ?_⟩, ⟨?_, ?_⟩⟩⟩
  · exact ⟨"John".toList, by decide +kernel, .inl (by decide)⟩
  · exact ⟨⟨some 'm', ['.']⟩, by decide +kernel, .inl (by decide)⟩
  · decide +kernel
  · exact ⟨⟨some 'm', ['.']⟩, by decide +kernel, rfl⟩
  · decide +kernel
  · exact ⟨⟨some 'm', ['>']⟩, by decide +kernel, rfl⟩

def jose : Address where
  localPart := "josé".toList
  domain := "example.com".toList
  noAt := by decide
  plain := by simp

def joseMention : Mention := ⟨"Login: ".toList, jose, []⟩

/-- An address with a letter that is not in ASCII stays in the record. -/
theorem accented_address_shown :
    (noArguments "Login: josé@example.com").getMessage (fun text _ => some text) =
        some (String.ofList joseMention.text) ∧
      filter (fun text _ => some text) logWords logTables (noArguments "Login: josé@example.com") =
          some (noArguments "Login: josé@example.com") ∧
        joseMention.remains logWords = jose.text := by
  have split : joseMention.text = "Login: josé".toList ++ '@' :: "example.com".toList := by
    decide
  have kept : emailTokens logWords none joseMention.text = joseMention.text.map .kept := by
    rw [split, emailTokens_plain (by decide) (.inl (by decide +kernel)),
      emailTokens_none (by decide), List.map_append, List.map_cons]
  have logged : (noArguments "Login: josé@example.com").getMessage
      (fun text _ => some text) = some (String.ofList joseMention.text) := by
    decide
  refine ⟨logged, filter_kept logged kept, ?_⟩
  rw [Mention.remains, Mention.tokens, kept]
  decide +kernel

end MysticAuth.Logging
