import Mathlib.Data.Nat.Bitwise
import OrderDesk.Net.Network
import OrderDesk.Proofs.Text.Parts

/-!
What a network is written as and which addresses lie in it: those that share the first bits of an
address in it, however many of its bits a length fixes.
-/

namespace OrderDesk

namespace IpAddress

variable {text : List Char} {value : Nat}

theorem isAsciiDigit_of_octet? (read : octet? text = some value) :
    ∀ character ∈ text, isAsciiDigit character = true := by
  rw [octet?] at read
  split at read
  · exact nomatch read
  · next plain =>
    simp only [Bool.or_eq_true, not_or, Bool.not_eq_true', Bool.not_eq_false] at plain
    exact List.all_eq_true.mp plain.1.2

theorem mem_of_parseV4? (read : parseV4? text = some value) {character : Char}
    (member : character ∈ text) : character = '.' ∨ isAsciiDigit character = true := by
  rw [parseV4?] at read
  split at read
  · next first second third fourth parts =>
    rw [Text.splitOn_eq_iff (List.cons_ne_nil _ _)] at parts
    simp only [Option.bind_eq_bind, Option.bind_eq_some_iff] at read
    rcases read with ⟨_, a, _, b, _, c, _, d, -⟩
    rw [parts.1] at member
    simp only [List.intercalate, List.intersperse, List.flatten_cons, List.mem_append,
      List.mem_singleton, List.flatten_nil, List.append_nil] at member
    rcases member with inside | rfl | inside | rfl | inside | rfl | inside
    · exact Or.inr (isAsciiDigit_of_octet? a _ inside)
    · exact Or.inl rfl
    · exact Or.inr (isAsciiDigit_of_octet? b _ inside)
    · exact Or.inl rfl
    · exact Or.inr (isAsciiDigit_of_octet? c _ inside)
    · exact Or.inl rfl
    · exact Or.inr (isAsciiDigit_of_octet? d _ inside)
  · exact nomatch read

theorem colon_mem_of_parseV6? (read : parseV6? text = some value) : ':' ∈ text := by
  by_contra missing
  rw [parseV6?, List.splitOn_eq_singleton missing] at read
  exact nomatch read

theorem mem_of_splitZone? {address : List Char} {zone : Option String}
    (split : splitZone? text = some (address, zone)) {character : Char}
    (member : character ∈ address) : character ∈ text := by
  rw [splitZone?] at split
  split at split
  · next front parts =>
    rw [Text.splitOn_eq_iff (List.cons_ne_nil _ _)] at parts
    cases split
    rw [parts.1]
    simpa [List.intercalate] using member
  · next front back parts =>
    rw [Text.splitOn_eq_iff (List.cons_ne_nil _ _)] at parts
    split at split
    · exact nomatch split
    · cases split
      rw [parts.1]
      simp [List.intercalate, List.intersperse, member]
  · exact nomatch split

end IpAddress

namespace IpNetwork

variable {text front : List Char} {back : Option (List Char)} {address : IpAddress}
  {network : IpNetwork} {length : Nat}

/-- A text names an address and how many of its first bits count: all of them, or as many as a
length after a slash says. -/
inductive Names : List Char → IpAddress → Nat → Prop
  | alone {text : List Char} {address : IpAddress} : '/' ∉ text →
      IpAddress.parse? text = some address → Names text address address.version.bits
  | sized {front back : List Char} {address : IpAddress} {length : Nat} : '/' ∉ front →
      '/' ∉ back → IpAddress.parse? front = some address →
      length? address.version (some back) = some length →
      Names (front ++ '/' :: back) address length

theorem parseAs?_v6_of_parseV4? {value : Nat} (read : IpAddress.parseV4? front = some value) :
    parseAs? .v6 front back = none := by
  have mark : ¬(':' = '.' ∨ IpAddress.isAsciiDigit ':' = true) := by decide
  rw [parseAs?]
  cases split : IpAddress.splitZone? front with
  | none => rfl
  | some parts =>
    rcases parts with ⟨address, zone⟩
    cases found : IpAddress.parseV6? address with
    | none => simp [found]
    | some value =>
      have colon := IpAddress.mem_of_splitZone? split (IpAddress.colon_mem_of_parseV6? found)
      exact absurd (IpAddress.mem_of_parseV4? read colon) mark

theorem parseAs?_eq_some :
    (parseAs? .v4 front back).or (parseAs? .v6 front back) = some network ↔
      ∃ address length, IpAddress.parse? front = some address ∧
        length? address.version back = some length ∧ network = around address length := by
  rw [IpAddress.parse?]
  cases read : IpAddress.parseV4? front with
  | some value =>
    rw [parseAs?_v6_of_parseV4? read, Option.or_none, parseAs?]
    simp [read, Option.bind_eq_some_iff, eq_comm (b := network)]
  | none =>
    have other : parseAs? .v4 front back = none := by
      rw [parseAs?, read]
      rfl
    rw [other, Option.none_or, parseAs?]
    cases split : IpAddress.splitZone? front with
    | none => simp
    | some parts =>
      cases found : IpAddress.parseV6? parts.1 with
      | none => simp [found]
      | some value => simp [found, Option.bind_eq_some_iff, eq_comm (b := network)]

/-- What is read as a network is written as an address in it, with the bits that count. -/
theorem parse?_eq_some : parse? text = some network ↔
    ∃ address length, Names text address length ∧ network = around address length := by
  rw [parse?]
  constructor
  · intro read
    split at read
    · next front parts =>
      rw [Text.splitOn_eq_iff (List.cons_ne_nil _ _)] at parts
      rcases parseAs?_eq_some.mp read with ⟨address, length, found, sized, rfl⟩
      have same : text = front := by rw [parts.1]; simp [List.intercalate]
      cases same
      cases sized
      exact ⟨address, _, .alone (parts.2 text (by simp)) found, rfl⟩
    · next front back parts =>
      rw [Text.splitOn_eq_iff (List.cons_ne_nil _ _)] at parts
      rcases parseAs?_eq_some.mp read with ⟨address, length, found, sized, rfl⟩
      have same : text = front ++ '/' :: back := by
        rw [parts.1]
        simp [List.intercalate, List.intersperse]
      cases same
      exact ⟨address, length, .sized (parts.2 front (by simp)) (parts.2 back (by simp)) found sized,
        rfl⟩
    · exact nomatch read
  · rintro ⟨address, length, names, rfl⟩
    cases names with
    | alone whole found =>
      rw [List.splitOn_eq_singleton whole]
      exact parseAs?_eq_some.mpr ⟨address, _, found, rfl, rfl⟩
    | @sized front back _ _ early late found sized =>
      have parts : (front ++ '/' :: back).splitOn '/' = [front, back] := by
        rw [Text.splitOn_eq_iff (List.cons_ne_nil _ _)]
        simp [List.intercalate, List.intersperse, early, late]
      rw [parts]
      exact parseAs?_eq_some.mpr ⟨address, length, found, sized, rfl⟩

def Agree (length : Nat) (base address : IpAddress) : Prop :=
  base.version = address.version ∧
    ∀ bit, base.version.bits - length ≤ bit → base.value.testBit bit = address.value.testBit bit

theorem div_hostSize_eq_iff {size first second : Nat} :
    first / Nat.pow 2 size = second / Nat.pow 2 size ↔
      ∀ bit, size ≤ bit → first.testBit bit = second.testBit bit := by
  constructor
  · intro same bit above
    have moved := congrArg (Nat.testBit · (bit - size)) same
    simp only [Nat.pow_eq, Nat.testBit_div_two_pow, Nat.sub_add_cancel above] at moved
    exact moved
  · intro agree
    refine Nat.eq_of_testBit_eq fun bit => ?_
    simp only [Nat.pow_eq, Nat.testBit_div_two_pow]
    exact agree _ (Nat.le_add_left _ _)

theorem version_around : (around address length).base.version = address.version := by
  rw [around]
  split <;> rfl

theorem value_around : (around address length).base.value / hostSize address.version length =
    address.value / hostSize address.version length := by
  have positive : 0 < hostSize address.version length := Nat.pow_pos (by decide)
  rw [around]
  split
  · rfl
  · exact Nat.mul_div_cancel _ positive

theorem length_around : (around address length).length = length := by
  rw [around]
  split <;> rfl

theorem contains_around {base : IpAddress} :
    (around base length).contains address = true ↔ Agree length base address := by
  rw [contains, version_around, length_around, Agree, ← div_hostSize_eq_iff]
  simp only [Bool.and_eq_true, beq_iff_eq]
  rw [value_around, @eq_comm _ address.version, @eq_comm _ (address.value / _)]
  rfl

end IpNetwork

end OrderDesk
