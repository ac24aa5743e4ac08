import MysticAuth.Python.IpText

/-!
# Buckets of IP addresses

A source is counted under its IPv4 address or under its IPv6 network.  A text
that is no address is its own bucket.
-/

set_option autoImplicit false

namespace MysticAuth.ClientIp

open Python IpAddress

/-- `ip_bucket`; `none` is an exception. -/
def ipBucket (ip : Option String) : Option String :=
  match ip with
  | none => some "unknown"
  | some text =>
      if text = "" then some "unknown"
      else
        match ofText text.toList with
        | none => some text
        | some (.v6 value scopeId) =>
            match ipv4Mapped value with
            | some mapped => some (String.ofList (dotted mapped))
            | none => (exploded value scopeId).map fun text =>
                "v6-" ++ String.ofList (List.intercalate ['-'] ((text.splitOn ':').take 4))
        | some (.v4 value) => some (String.ofList (dotted value))

/-! ## What is wanted -/

/-- The IPv4 address that is denoted, directly or as a mapped one. -/
def ipv4Of : IpAddress → Option Nat
  | .v4 value => some value
  | .v6 value _ => ipv4Mapped value

/-- One IPv4 address, or two addresses of one /64 network. -/
inductive SameSource : IpAddress → IpAddress → Prop where
  | v4 {a b : IpAddress} (value : Nat) (left : ipv4Of a = some value)
      (right : ipv4Of b = some value) : SameSource a b
  | v6 {value value' : Nat} {scopeId scopeId' : Option String}
      (left : ipv4Mapped value = none) (right : ipv4Mapped value' = none)
      (network : value / 2 ^ 64 = value' / 2 ^ 64) :
      SameSource (.v6 value scopeId) (.v6 value' scopeId')

def SameBucket (a b : String) : Prop :=
  ∃ bucket, ipBucket (some a) = some bucket ∧ ipBucket (some b) = some bucket

/-- Among the texts the buckets tell the sources apart and have no separator. -/
structure BucketsExact (texts : Set String) : Prop where
  separated : ∀ a ∈ texts, ∀ b ∈ texts, ∀ x y, ofText a.toList = some x → ofText b.toList = some y →
    (SameBucket a b ↔ SameSource x y)
  plain : ∀ text ∈ texts, ∃ bucket, ipBucket (some text) = some bucket ∧ ':' ∉ bucket.toList

/-- An address that has a bucket has no scope id, unless it is a mapped one. -/
def HasBucket : IpAddress → Prop
  | .v4 _ => True
  | .v6 value scopeId => ipv4Mapped value = none → scopeId = none

/-- What is no address has no separator. -/
def Bucketable (text : String) : Prop :=
  match ofText text.toList with
  | some address => HasBucket address
  | none => ':' ∉ text.toList

/-! ## Buckets of addresses -/

def networkText (value : Nat) : List Char :=
  "v6-".toList ++ List.intercalate ['-'] (networkGroups value)

def bucketOf : IpAddress → Option (List Char)
  | .v4 value => some (dotted value)
  | .v6 value scopeId =>
      match ipv4Mapped value, scopeId with
      | some mapped, _ => some (dotted mapped)
      | none, none => some (networkText value)
      | none, some _ => none

theorem ipBucket_of_address {text : String} {address : IpAddress}
    (parsed : ofText text.toList = some address) :
    ipBucket (some text) = (bucketOf address).map String.ofList := by
  have nonempty : text ≠ "" := by
    rintro rfl
    have unread : ofText "".toList = none := ofText_nil
    rw [unread] at parsed
    cases parsed
  simp only [ipBucket, nonempty, if_false, parsed]
  cases address with
  | v4 value => rfl
  | v6 value scopeId =>
    simp only [bucketOf]
    cases ipv4Mapped value with
    | some mapped => rfl
    | none =>
      cases scopeId with
      | some scope => rfl
      | none =>
        simp only [exploded, Option.map_some, groups_of_exploded, networkText, networkGroups,
          String.ofList_append, String.ofList_toList]

theorem bucketOf_of_ipv4Of {address : IpAddress} {value : Nat} (denoted : ipv4Of address = some value) :
    bucketOf address = some (dotted value) := by
  cases address with
  | v4 value' =>
    cases denoted
    rfl
  | v6 value' scopeId =>
    simp only [ipv4Of] at denoted
    simp only [bucketOf, denoted]

theorem bucketOf_unmapped {value : Nat} (unmapped : ipv4Mapped value = none) :
    bucketOf (.v6 value none) = some (networkText value) := by
  simp only [bucketOf, unmapped]

/-- An address with a bucket denotes an IPv4 address or lies in an IPv6 network. -/
theorem HasBucket.cases {address : IpAddress} (has : HasBucket address) :
    (∃ value, ipv4Of address = some value) ∨
      ∃ value, address = .v6 value none ∧ ipv4Mapped value = none := by
  cases address with
  | v4 value => exact .inl ⟨value, rfl⟩
  | v6 value scopeId =>
    cases mapped : ipv4Mapped value with
    | some address => exact .inl ⟨address, mapped⟩
    | none =>
      obtain rfl := has mapped
      exact .inr ⟨value, rfl, mapped⟩

theorem hasBucket_iff (address : IpAddress) : HasBucket address ↔ ∃ text, bucketOf address = some text := by
  constructor
  · intro has
    rcases has.cases with ⟨value, denoted⟩ | ⟨value, rfl, unmapped⟩
    · exact ⟨_, bucketOf_of_ipv4Of denoted⟩
    · exact ⟨_, bucketOf_unmapped unmapped⟩
  · rintro ⟨text, bucket⟩
    cases address with
    | v4 value => trivial
    | v6 value scopeId =>
      intro unmapped
      cases scopeId with
      | none => rfl
      | some scope => simp [bucketOf, unmapped] at bucket

theorem mem_networkText {value : Nat} {c : Char} (member : c ∈ networkText value) :
    c ∈ "v6-0123456789abcdef".toList := by
  rcases List.mem_append.mp member with front | digits
  · have prefixed : ∀ c ∈ "v6-".toList, c ∈ "v6-0123456789abcdef".toList := by
      simp
    exact prefixed c front
  · by_cases dash : c = '-'
    · rw [dash]
      decide
    · obtain ⟨group, groupMember, found⟩ := mem_splitOn_of_mem _ '-' c digits dash
      rw [splitOn_networkGroups] at groupMember
      have digit := mem_groups (List.mem_of_mem_take groupMember) c found
      have hexadecimal : ∀ c ∈ "0123456789abcdef".toList, c ∈ "v6-0123456789abcdef".toList := by
        simp
      exact hexadecimal c digit

theorem dotted_ne_networkText (value value' : Nat) : dotted value ≠ networkText value' := by
  intro same
  have letter : 'v' ∈ dotted value := by
    rw [same]
    exact List.mem_cons_self
  exact absurd (mem_dotted letter) (by decide)

theorem networkText_inj {value value' : Nat} (below : value < 2 ^ 128) (below' : value' < 2 ^ 128) :
    networkText value = networkText value' ↔ value / 2 ^ 64 = value' / 2 ^ 64 := by
  rw [← networkGroups_inj below below', networkText, networkText, List.append_cancel_left_eq]
  constructor
  · intro same
    rw [← splitOn_networkGroups value, same, splitOn_networkGroups]
  · exact congrArg _

theorem no_colon_of_bucketOf {address : IpAddress} {text : List Char}
    (bucket : bucketOf address = some text) : ':' ∉ text := by
  intro colon
  rcases ((hasBucket_iff address).mpr ⟨text, bucket⟩).cases with
    ⟨value, denoted⟩ | ⟨value, rfl, unmapped⟩
  · cases (bucketOf_of_ipv4Of denoted).symm.trans bucket
    exact absurd (mem_dotted colon) (by decide)
  · cases (bucketOf_unmapped unmapped).symm.trans bucket
    exact absurd (mem_networkText colon) (by decide)

/-! ## One bucket and one source -/

theorem sameBucket_iff {a b : String} {x y : IpAddress} (left : ofText a.toList = some x)
    (right : ofText b.toList = some y) :
    SameBucket a b ↔ ∃ text, bucketOf x = some text ∧ bucketOf y = some text := by
  rw [SameBucket, ipBucket_of_address left, ipBucket_of_address right]
  constructor
  · rintro ⟨_, bucketLeft, bucketRight⟩
    obtain ⟨text, found, rfl⟩ := Option.map_eq_some_iff.mp bucketLeft
    obtain ⟨text', found', same⟩ := Option.map_eq_some_iff.mp bucketRight
    exact ⟨text, found, String.ofList_inj.mp same ▸ found'⟩
  · rintro ⟨text, found, found'⟩
    exact ⟨String.ofList text, by rw [found, Option.map_some], by rw [found', Option.map_some]⟩

theorem sameSource_v4_iff {x y : IpAddress} {value value' : Nat} (left : ipv4Of x = some value)
    (right : ipv4Of y = some value') : SameSource x y ↔ value = value' := by
  constructor
  · intro same
    cases same with
    | v4 common denoted denoted' =>
      rw [left, Option.some.injEq] at denoted
      rw [right, Option.some.injEq] at denoted'
      rw [denoted, denoted']
    | v6 unmapped _ _ => cases left.symm.trans unmapped
  · rintro rfl
    exact .v4 value left right

theorem not_sameSource_v4_v6 {x : IpAddress} {value value' : Nat} (left : ipv4Of x = some value)
    (right : ipv4Mapped value' = none) :
    ¬SameSource x (.v6 value' none) ∧ ¬SameSource (.v6 value' none) x := by
  constructor
  · intro same
    cases same with
    | v4 _ _ denoted => cases denoted.symm.trans right
    | v6 unmapped _ _ => cases left.symm.trans unmapped
  · intro same
    cases same with
    | v4 _ denoted _ => cases denoted.symm.trans right
    | v6 _ unmapped _ => cases left.symm.trans unmapped

theorem sameSource_v6_iff {value value' : Nat} (left : ipv4Mapped value = none)
    (right : ipv4Mapped value' = none) :
    SameSource (.v6 value none) (.v6 value' none) ↔ value / 2 ^ 64 = value' / 2 ^ 64 := by
  constructor
  · intro same
    cases same with
    | v4 _ denoted _ => cases denoted.symm.trans left
    | v6 _ _ network => exact network
  · exact .v6 left right

theorem same_bucketOf_iff {x y : IpAddress} (inRange : x.InRange) (inRange' : y.InRange)
    (has : HasBucket x) (has' : HasBucket y) :
    (∃ text, bucketOf x = some text ∧ bucketOf y = some text) ↔ SameSource x y := by
  have shared {left right : List Char} (first : bucketOf x = some left)
      (second : bucketOf y = some right) :
      (∃ text, bucketOf x = some text ∧ bucketOf y = some text) ↔ left = right := by
    simp [first, second, eq_comm]
  rcases has.cases with ⟨value, denoted⟩ | ⟨value, rfl, unmapped⟩
  · rcases has'.cases with ⟨value', denoted'⟩ | ⟨value', rfl, unmapped'⟩
    · rw [shared (bucketOf_of_ipv4Of denoted) (bucketOf_of_ipv4Of denoted'),
        sameSource_v4_iff denoted denoted']
      exact ⟨dotted_injective, congrArg _⟩
    · rw [shared (bucketOf_of_ipv4Of denoted) (bucketOf_unmapped unmapped')]
      exact iff_of_false (dotted_ne_networkText value value')
        (not_sameSource_v4_v6 denoted unmapped').1
  · rcases has'.cases with ⟨value', denoted'⟩ | ⟨value', rfl, unmapped'⟩
    · rw [shared (bucketOf_unmapped unmapped) (bucketOf_of_ipv4Of denoted')]
      exact iff_of_false (dotted_ne_networkText value' value).symm
        (not_sameSource_v4_v6 denoted' unmapped).2
    · rw [shared (bucketOf_unmapped unmapped) (bucketOf_unmapped unmapped'),
        sameSource_v6_iff unmapped unmapped']
      exact networkText_inj inRange inRange'

theorem plain_iff (text : String) :
    (∃ bucket, ipBucket (some text) = some bucket ∧ ':' ∉ bucket.toList) ↔ Bucketable text := by
  unfold Bucketable
  cases parsed : ofText text.toList with
  | some address =>
    simp only [ipBucket_of_address parsed, hasBucket_iff]
    constructor
    · rintro ⟨_, bucket, -⟩
      obtain ⟨text, found, -⟩ := Option.map_eq_some_iff.mp bucket
      exact ⟨text, found⟩
    · rintro ⟨text, found⟩
      refine ⟨String.ofList text, by rw [found, Option.map_some], ?_⟩
      rw [String.toList_ofList]
      exact no_colon_of_bucketOf found
  | none =>
    by_cases isEmpty : text = ""
    · subst isEmpty
      exact iff_of_true ⟨"unknown", rfl, by decide⟩ (by decide)
    · simp [ipBucket, isEmpty, parsed]

/-- Buckets are exact on the texts that are addresses without a scope id, or mapped ones, or contain
no separator. -/
theorem buckets_exact_iff (texts : Set String) :
    BucketsExact texts ↔ ∀ text ∈ texts, Bucketable text := by
  constructor
  · intro exact text member
    exact (plain_iff text).mp (exact.plain text member)
  · intro bucketable
    refine ⟨fun a memberA b memberB x y left right => ?_,
      fun text member => (plain_iff text).mpr (bucketable text member)⟩
    have has := bucketable a memberA
    have has' := bucketable b memberB
    simp only [Bucketable, left] at has
    simp only [Bucketable, right] at has'
    rw [sameBucket_iff left right]
    exact same_bucketOf_iff (ofText_inRange left) (ofText_inRange right) has has'

theorem address_with_port_shown :
    ¬BucketsExact {"1.2.3.4:5678"} ∧ ¬BucketsExact {"fe80::1%eth0"} := by
  have withPort : ofText "1.2.3.4:5678".toList = none := by decide +kernel
  have withScope : ofText "fe80::1%eth0".toList = some (.v6 (0xfe80 * 2 ^ 112 + 1) (some "eth0")) := by
    decide +kernel
  constructor
  · intro exact
    have bucketable := (plain_iff _).mp (exact.plain _ rfl)
    simp only [Bucketable, withPort] at bucketable
    exact absurd bucketable (by decide)
  · intro exact
    have bucketable := (plain_iff _).mp (exact.plain _ rfl)
    simp only [Bucketable, withScope] at bucketable
    cases bucketable (by decide)

end MysticAuth.ClientIp
