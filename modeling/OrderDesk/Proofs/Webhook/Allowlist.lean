import OrderDesk.Proofs.Net.Network
import OrderDesk.Webhook.Verifier

/-!
Which peers may deliver callbacks. A list with any entry that can be read admits exactly the peers
that one of its readable entries allows. A list in which no entry can be read counts as no list.
-/

namespace OrderDesk.Webhook

def Readable (entry : String) : Prop :=
  ∃ base length, IpNetwork.Names (Text.trimChars entry.toList) base length

/-- An entry allows the addresses that have the first bits of the one that it names. -/
def Allows (entry : String) (address : IpAddress) : Prop :=
  ∃ base length, IpNetwork.Names (Text.trimChars entry.toList) base length ∧
    IpNetwork.Agree length base address

/-- A peer of some list: an address, blanks around it aside, that one of the entries allows. -/
def Listed (entries : List String) (peer : Option String) : Prop :=
  ∃ address, IpAddress.parse? (Text.trim? peer).toList = some address ∧
    ∃ entry ∈ entries, Allows entry address

variable {entries : List String} {entry token secret : String} {tolerance : Int}
  {address : IpAddress} {peer : Option String}

theorem readable_iff :
    Readable entry ↔ ∃ network, IpNetwork.parse? (Text.trimChars entry.toList) = some network := by
  simp only [IpNetwork.parse?_eq_some]
  constructor
  · rintro ⟨base, length, names⟩
    exact ⟨_, base, length, names, rfl⟩
  · rintro ⟨network, base, length, names, -⟩
    exact ⟨base, length, names⟩

theorem allows_iff : Allows entry address ↔
    ∃ network, IpNetwork.parse? (Text.trimChars entry.toList) = some network ∧
      network.contains address = true := by
  simp only [IpNetwork.parse?_eq_some]
  constructor
  · rintro ⟨base, length, names, agree⟩
    exact ⟨_, ⟨base, length, names, rfl⟩, IpNetwork.contains_around.mpr agree⟩
  · rintro ⟨_, ⟨base, length, names, rfl⟩, inside⟩
    exact ⟨base, length, names, IpNetwork.contains_around.mp inside⟩

namespace Verifier

theorem networksOf_eq_nil : networksOf entries = [] ↔ ∀ entry ∈ entries, ¬Readable entry := by
  simp only [networksOf, List.filterMap_eq_nil_iff, readable_iff, not_exists,
    Option.eq_none_iff_forall_ne_some, ne_eq]

theorem any_networksOf : (networksOf entries).any (·.contains address) = true ↔
    ∃ entry ∈ entries, Allows entry address := by
  simp only [networksOf, List.any_eq_true, List.mem_filterMap, allows_iff]
  constructor
  · rintro ⟨network, ⟨entry, member, read⟩, inside⟩
    exact ⟨entry, member, network, read, inside⟩
  · rintro ⟨entry, member, network, read, inside⟩
    exact ⟨network, ⟨entry, member, read⟩, inside⟩

theorem checkPeer_of_readable (readable : ∃ entry ∈ entries, Readable entry) :
    (make entries token secret tolerance).checkPeer peer = .ok () ↔ Listed entries peer := by
  have some_network : ¬(networksOf entries).isEmpty = true := by
    rw [List.isEmpty_iff, networksOf_eq_nil]
    simpa using readable
  rw [checkPeer, Listed]
  change (if (networksOf entries).isEmpty = true then _ else _) = _ ↔ _
  rw [if_neg some_network]
  cases IpAddress.parse? (Text.trim? peer).toList with
  | none => exact iff_of_false nofun fun ⟨_, read, _⟩ => nomatch read
  | some address =>
    simp only [Option.some.injEq, exists_eq_left']
    rw [← any_networksOf]
    change (if (networksOf entries).any (·.contains address) = true then _ else _) = _ ↔ _
    split
    · next found => exact iff_of_true rfl found
    · next missing => exact iff_of_false nofun missing

theorem checkPeer_of_unreadable (unreadable : ∀ entry ∈ entries, ¬Readable entry) :
    (make entries token secret tolerance).checkPeer peer = .ok () := by
  have no_network : (make entries token secret tolerance).networks.isEmpty = true :=
    List.isEmpty_iff.mpr (networksOf_eq_nil.mpr unreadable)
  rw [checkPeer, if_pos no_network]

theorem checkPeer_ok_or_denied (verifier : Verifier) (peer : Option String) :
    verifier.checkPeer peer = .ok () ∨ verifier.checkPeer peer = .error .peerDenied := by
  rw [checkPeer]
  split
  · exact Or.inl rfl
  · split
    · exact Or.inr rfl
    · split
      · exact Or.inl rfl
      · exact Or.inr rfl

/-- Where some entry can be read, the peers that an entry allows pass and all others are denied,
whatever else is in the list. Where none can be read, everyone passes. -/
theorem allowlist_decides (entries : List String) (token secret : String) (tolerance : Int)
    (peer : Option String) :
    let outcome := (make entries token secret tolerance).checkPeer peer
    ((∃ entry ∈ entries, Readable entry) →
      (Listed entries peer → outcome = .ok ()) ∧
      (¬Listed entries peer → outcome = .error .peerDenied)) ∧
    ((∀ entry ∈ entries, ¬Readable entry) → outcome = .ok ()) := by
  intro outcome
  refine ⟨fun readable => ⟨(checkPeer_of_readable readable).mpr, fun unlisted => ?_⟩,
    checkPeer_of_unreadable⟩
  exact (checkPeer_ok_or_denied _ peer).resolve_left
    fun passed => unlisted ((checkPeer_of_readable readable).mp passed)

def sampleEntries : List String := [" 10.1.2.3/8", "10.0.0.0/33", "2001:db8::/32"]

theorem sampleEntries_readable : ∃ entry ∈ sampleEntries, Readable entry :=
  ⟨_, List.mem_cons_self, readable_iff.mpr ⟨⟨⟨.v4, 0x0a000000, none⟩, 8⟩, by decide +kernel⟩⟩

theorem sampleEntries_listed : Listed sampleEntries (some "2001:DB8::ffff\n") := by
  refine ⟨⟨.v6, 0x20010db800000000000000000000ffff, none⟩, by decide +kernel, "2001:db8::/32",
    by decide, allows_iff.mpr ⟨⟨⟨.v6, 0x20010db8 * 2 ^ 96, none⟩, 32⟩, ?_, ?_⟩⟩ <;> decide +kernel

theorem sampleEntries_unlisted : ¬Listed sampleEntries (some "203.0.113.5") := by
  rintro ⟨address, read, listed⟩
  have known : IpAddress.parse? (Text.trim? (some "203.0.113.5")).toList =
      some ⟨.v4, 0xcb007105, none⟩ := by decide +kernel
  cases known.symm.trans read
  have missing : ¬(networksOf sampleEntries).any (·.contains ⟨.v4, 0xcb007105, none⟩) = true := by
    decide +kernel
  exact missing (any_networksOf.mpr listed)

theorem sample_allowlist_decides :
    (∃ entry ∈ sampleEntries, Readable entry) ∧
    (Listed sampleEntries (some "2001:DB8::ffff\n") ∧
      (make sampleEntries "" "" 300).checkPeer (some "2001:DB8::ffff\n") = .ok ()) ∧
    (¬Listed sampleEntries (some "203.0.113.5") ∧
      (make sampleEntries "" "" 300).checkPeer (some "203.0.113.5") = .error .peerDenied) ∧
    ((∀ entry ∈ ([] : List String), ¬Readable entry) ∧
      (make [] "" "" 300).checkPeer none = .ok ()) := by
  have readable := sampleEntries_readable
  have listed := sampleEntries_listed
  have unlisted := sampleEntries_unlisted
  have empty : ∀ entry ∈ ([] : List String), ¬Readable entry := by simp
  refine ⟨readable, ⟨listed, ?_⟩, ⟨unlisted, ?_⟩, ⟨empty, ?_⟩⟩
  · exact ((allowlist_decides sampleEntries "" "" 300 _).1 readable).1 listed
  · exact ((allowlist_decides sampleEntries "" "" 300 _).1 readable).2 unlisted
  · exact (allowlist_decides [] "" "" 300 none).2 empty

theorem sample_list_ignored :
    ¬((make ["10.0.0.0/33"] "" "" 300).checkPeer (some "203.0.113.5") = .ok () ↔
      Listed ["10.0.0.0/33"] (some "203.0.113.5")) := by
  have unread : networksOf ["10.0.0.0/33"] = [] := by decide +kernel
  intro listing
  rcases listing.mp (checkPeer_of_unreadable (networksOf_eq_nil.mp unread))
    with ⟨_, -, entry, member, base, length, names, -⟩
  exact networksOf_eq_nil.mp unread entry member ⟨base, length, names⟩

end Verifier

end OrderDesk.Webhook
