import Mathlib.Data.Finset.Basic
import MysticAuth.Python.Text

/-!
# The address of the client

A request that comes from one of the trusted proxies names its client in
`X-Forwarded-For`, to which every proxy appends the address that it has seen.
The header is read from the right, so that what a client writes itself is
never reached.
-/

set_option autoImplicit false

namespace MysticAuth.ClientIp

open Python

def entries (text : String) : List String :=
  (commaEntries text.toList).map String.ofList

/-- `_TRUSTED_PROXY_IPS`, from the setting. -/
def trustedProxyIps (setting : String) : Finset String :=
  (entries setting).toFinset

section Walk

variable (trusted : Finset String)

def isTrusted (peerIp : Option String) : Bool :=
  peerIp.any fun ip => decide (ip ∈ trusted)

/-- The first of the entries that is not a proxy; the peer if there is none. -/
def firstUntrusted (peerIp : Option String) : List String → Option String
  | [] => peerIp
  | entry :: rest => if entry ∉ trusted then some entry else firstUntrusted peerIp rest

def getClientIp (peerIp forwardedFor : Option String) : Option String :=
  if trusted = ∅ ∨ isTrusted trusted peerIp = false then peerIp
  else
    match forwardedFor with
    | none => peerIp
    | some header =>
        if header = "" then peerIp
        else if entries header = [] then peerIp
        else firstUntrusted trusted peerIp (entries header).reverse

end Walk

section Entries

variable {trusted : Finset String} {peerIp : Option String}

theorem entries_append_comma (left right : String) :
    entries (left ++ "," ++ right) = entries left ++ entries right := by
  have texts : (left ++ "," ++ right).toList = left.toList ++ ',' :: right.toList := by
    rw [String.toList_append, String.toList_append, List.append_assoc]
    rfl
  rw [entries, texts, commaEntries_append_comma, List.map_append, entries, entries]

theorem firstUntrusted_append {front : List String} (back : List String)
    (found : ∃ entry ∈ front, entry ∉ trusted) :
    firstUntrusted trusted peerIp (front ++ back) = firstUntrusted trusted peerIp front := by
  induction front with
  | nil =>
    obtain ⟨entry, member, -⟩ := found
    cases member
  | cons entry rest ih =>
    simp only [List.cons_append, firstUntrusted]
    split
    · rfl
    · rename_i isProxy
      apply ih
      obtain ⟨other, member, untrusted⟩ := found
      rcases List.mem_cons.mp member with rfl | later
      · exact absurd untrusted isProxy
      · exact ⟨other, later, untrusted⟩

theorem firstUntrusted_of_trusted {front : List String} (back : List String)
    (proxies : ∀ entry ∈ front, entry ∈ trusted) :
    firstUntrusted trusted peerIp (front ++ back) = firstUntrusted trusted peerIp back := by
  induction front with
  | nil => rfl
  | cons entry rest ih =>
    rw [List.cons_append, firstUntrusted, if_neg (not_not_intro (proxies entry List.mem_cons_self))]
    exact ih fun other member => proxies other (List.mem_cons_of_mem _ member)

theorem ne_empty_of_isTrusted (peerTrusted : isTrusted trusted peerIp = true) : trusted ≠ ∅ := by
  rintro rfl
  cases peerIp <;> cases peerTrusted

/-- Behind a trusted peer the header decides. -/
theorem getClientIp_of_isTrusted (peerTrusted : isTrusted trusted peerIp = true) (header : String) :
    getClientIp trusted peerIp (some header) =
      firstUntrusted trusted peerIp (entries header).reverse := by
  rw [getClientIp, if_neg (by simp [ne_empty_of_isTrusted peerTrusted, peerTrusted])]
  split
  · rename_i isEmpty
    subst isEmpty
    rfl
  · split
    · rename_i noEntries
      rw [noEntries]
      rfl
    · rfl

theorem getClientIp_of_untrusted (peerUntrusted : isTrusted trusted peerIp = false)
    (forwardedFor : Option String) : getClientIp trusted peerIp forwardedFor = peerIp :=
  if_pos (Or.inr peerUntrusted)

end Entries

/-- Behind an untrusted peer the header is not looked at.  Behind a trusted one the last entry
decides that is not a proxy, and nothing that is written before it. -/
theorem client_ip_unforged (trusted : Finset String) (peerIp : Option String) :
    (isTrusted trusted peerIp = false →
        ∀ forwardedFor, getClientIp trusted peerIp forwardedFor = peerIp) ∧
      (isTrusted trusted peerIp = true → ∀ header earlier entry later,
        entries header = earlier ++ entry :: later → entry ∉ trusted →
          (∀ proxy ∈ later, proxy ∈ trusted) →
            getClientIp trusted peerIp (some header) = some entry) ∧
      ∀ forged header, (∃ entry ∈ entries header, entry ∉ trusted) →
        getClientIp trusted peerIp (some (forged ++ "," ++ header)) =
          getClientIp trusted peerIp (some header) := by
  refine ⟨getClientIp_of_untrusted, ?_, ?_⟩
  · intro peerTrusted header earlier entry later split untrusted proxies
    rw [getClientIp_of_isTrusted peerTrusted, split, List.reverse_append, List.reverse_cons,
      List.append_assoc, firstUntrusted_of_trusted]
    · exact if_pos untrusted
    · exact fun proxy member => proxies proxy (List.mem_reverse.mp member)
  · intro forged header found
    cases peerTrusted : isTrusted trusted peerIp with
    | false => rw [getClientIp_of_untrusted peerTrusted, getClientIp_of_untrusted peerTrusted]
    | true =>
      rw [getClientIp_of_isTrusted peerTrusted, getClientIp_of_isTrusted peerTrusted,
        entries_append_comma, List.reverse_append, firstUntrusted_append]
      obtain ⟨entry, member, untrusted⟩ := found
      exact ⟨entry, List.mem_reverse.mpr member, untrusted⟩

def twoProxies : Finset String :=
  trustedProxyIps "10.0.0.2, 10.0.0.3"

/-- A header with a forged entry before the client's own. -/
theorem client_ip_unforged_forged :
    getClientIp twoProxies (some "10.0.0.3") (some "198.51.100.7, 10.0.0.2") =
        some "198.51.100.7" ∧
      getClientIp twoProxies (some "10.0.0.3")
        (some ("10.0.0.2, 203.0.113.1" ++ "," ++ "198.51.100.7, 10.0.0.2")) =
          some "198.51.100.7" ∧
      getClientIp twoProxies (some "203.0.113.9") (some "198.51.100.7") = some "203.0.113.9" := by
  have proxies := client_ip_unforged twoProxies (some "10.0.0.3")
  have direct := client_ip_unforged twoProxies (some "203.0.113.9")
  have named : getClientIp twoProxies (some "10.0.0.3") (some "198.51.100.7, 10.0.0.2") =
      some "198.51.100.7" :=
    proxies.2.1 (by decide +kernel) _ [] "198.51.100.7" ["10.0.0.2"] (by decide +kernel)
      (by decide +kernel) (by decide +kernel)
  refine ⟨named, ?_, direct.1 (by decide +kernel) _⟩
  rw [proxies.2.2 "10.0.0.2, 203.0.113.1" "198.51.100.7, 10.0.0.2"
    ⟨"198.51.100.7", by decide +kernel, by decide +kernel⟩]
  exact named

/-! ## A chain of proxies -/

/-- What a proxy sends on: it appends the address that it has seen. -/
def appendHop (forwardedFor : Option String) (seen : String) : String :=
  match forwardedFor with
  | none => seen
  | some header => header ++ ", " ++ seen

/-- The first proxy has seen the client, and each other one the proxy before it. -/
def throughProxies (forged : Option String) (client : String) (hops : List String) : String :=
  hops.foldl (fun header hop => appendHop (some header) hop) (appendHop forged client)

/-- An address has no comma in it and nothing that `strip` takes away. -/
structure Plain (address : String) : Prop where
  noComma : ',' ∉ address.toList
  solid : ∀ c ∈ address.toList, isSpace c = false
  nonempty : address ≠ ""

theorem commaEntries_plain {address : String} (plain : Plain address) :
    commaEntries address.toList = [address.toList] ∧
      commaEntries (' ' :: address.toList) = [address.toList] := by
  have stripped := strip_of_solid plain.solid
  have visible : address.toList ≠ [] := fun isEmpty => plain.nonempty (String.toList_eq_nil_iff.mp isEmpty)
  constructor
  · rw [commaEntries_of_no_comma plain.noComma (by rwa [stripped]), stripped]
  · rw [commaEntries_of_no_comma, strip_cons_of_isSpace rfl, stripped]
    · intro member
      rcases List.mem_cons.mp member with isSpace | inside
      · cases isSpace
      · exact plain.noComma inside
    · rwa [strip_cons_of_isSpace rfl, stripped]

theorem entries_appendHop {seen : String} (plain : Plain seen) (forwardedFor : Option String) :
    entries (appendHop forwardedFor seen) = forwardedFor.elim [] entries ++ [seen] := by
  cases forwardedFor with
  | none =>
    rw [appendHop, entries, (commaEntries_plain plain).1, List.map_singleton, String.ofList_toList]
    rfl
  | some header =>
    have texts : (header ++ ", " ++ seen).toList = header.toList ++ ',' :: ' ' :: seen.toList := by
      rw [String.toList_append, String.toList_append, List.append_assoc]
      rfl
    rw [appendHop, entries, texts, commaEntries_append_comma, (commaEntries_plain plain).2,
      List.map_append, List.map_singleton, String.ofList_toList]
    rfl

theorem entries_throughProxies {client : String} {hops : List String} (forged : Option String)
    (plainClient : Plain client) (plainHops : ∀ hop ∈ hops, Plain hop) :
    entries (throughProxies forged client hops) = forged.elim [] entries ++ client :: hops := by
  have appended (header : String) :
      entries (hops.foldl (fun header hop => appendHop (some header) hop) header) =
        entries header ++ hops := by
    induction hops generalizing header with
    | nil => exact (List.append_nil _).symm
    | cons hop rest ih =>
      rw [List.foldl_cons, ih fun other member => plainHops other (List.mem_cons_of_mem _ member),
        entries_appendHop (plainHops hop List.mem_cons_self), List.append_assoc]
      rfl
  rw [throughProxies, appended, entries_appendHop plainClient, List.append_assoc]
  rfl

/-- Whatever a client writes into the header, the address is the one that the first trusted proxy has
seen. -/
theorem getClientIp_throughProxies {trusted : Finset String} {client : String} {hops : List String}
    {peerIp : Option String} (forged : Option String) (plainClient : Plain client)
    (plainHops : ∀ hop ∈ hops, Plain hop) (untrusted : client ∉ trusted)
    (proxies : ∀ hop ∈ hops, hop ∈ trusted) (peerTrusted : isTrusted trusted peerIp = true) :
    getClientIp trusted peerIp (some (throughProxies forged client hops)) = some client := by
  rw [getClientIp_of_isTrusted peerTrusted, entries_throughProxies forged plainClient plainHops,
    List.reverse_append, List.reverse_cons, List.append_assoc, firstUntrusted_of_trusted]
  · exact if_pos untrusted
  · exact fun proxy member => proxies proxy (List.mem_reverse.mp member)

end MysticAuth.ClientIp
