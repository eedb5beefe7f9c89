import Mathlib.Data.String.Basic
import Powerline.Address

/-!
# Reading addresses

Without its separators an address consists of three pairs of hexadecimal digits. What is read are
those texts, and in addition texts with a plus sign in place of the first digit of a pair, which are
no addresses. The text is cut behind every second octet, which need not be a place between two
characters; where it is not, reading gets stuck (`Severed`).
-/

namespace Powerline

namespace Hex

/-- The character is the digit of this value, in either case. -/
def IsDigit (char : Char) (value : UInt8) : Prop :=
  value < 16 ∧ (char = digit value ∨ char = (digit value).toUpper)

instance (char : Char) (value : UInt8) : Decidable (IsDigit char value) :=
  inferInstanceAs (Decidable (_ ∧ _))

/-- The two characters are the digits of the octet, the higher one first. -/
def Denotes (first second : Char) (octet : UInt8) : Prop :=
  ∃ high low, IsDigit first high ∧ IsDigit second low ∧ octet = high * 16 + low

theorem value?_eq_some_iff {char : Char} {value : UInt8} :
    value? char = some value ↔ IsDigit char value := by
  constructor
  · intro found
    have ascii : char.toNat < 128 := by
      unfold value? at found
      split at found
      · next decimal => exact Nat.lt_of_le_of_lt decimal.2 (by decide)
      · split at found
        · next lower => exact Nat.lt_of_le_of_lt lower.2 (by decide)
        · split at found
          · next upper => exact Nat.lt_of_le_of_lt upper.2 (by decide)
          · contradiction
    have every : ∀ code : Fin 128, ∀ value ∈ value? (Char.ofNat code.val),
        IsDigit (Char.ofNat code.val) value := by
      decide +kernel
    have digit := every ⟨char.toNat, ascii⟩ value
    rw [Char.ofNat_toNat] at digit
    exact digit found
  · rintro ⟨small, written⟩
    have every : ∀ number : Fin 16,
        value? (digit (UInt8.ofNat number.val)) = some (UInt8.ofNat number.val) ∧
          value? (digit (UInt8.ofNat number.val)).toUpper = some (UInt8.ofNat number.val) := by
      decide +kernel
    have reads := every ⟨value.toNat, UInt8.lt_iff_toNat_lt.mp small⟩
    rw [UInt8.ofNat_toNat] at reads
    rcases written with rfl | rfl
    · exact reads.1
    · exact reads.2

theorem utf8Size_of_isDigit {char : Char} {value : UInt8} (digit : IsDigit char value) :
    char.utf8Size = 1 := by
  have every : ∀ number : Fin 16, (Hex.digit (UInt8.ofNat number.val)).utf8Size = 1 ∧
      (Hex.digit (UInt8.ofNat number.val)).toUpper.utf8Size = 1 := by
    decide +kernel
  have sizes := every ⟨value.toNat, UInt8.lt_iff_toNat_lt.mp digit.1⟩
  rw [UInt8.ofNat_toNat] at sizes
  rcases digit.2 with rfl | rfl
  · exact sizes.1
  · exact sizes.2

theorem not_isDigit_plus (value : UInt8) : ¬ IsDigit '+' value := by
  rw [← value?_eq_some_iff]
  have unread : value? '+' = none := by decide
  simp [unread]

theorem pair?_eq_some_iff {first second : Char} {octet : UInt8} :
    pair? first second = some octet ↔ Denotes first second octet := by
  simp only [pair?, Denotes, ← value?_eq_some_iff]
  cases value? first with
  | none => simp
  | some high =>
      cases value? second with
      | none => simp
      | some low => simp [eq_comm]

theorem not_denotes_plus (second : Char) (octet : UInt8) : ¬ Denotes '+' second octet := by
  rintro ⟨high, low, digit, _⟩
  exact not_isDigit_plus high digit

end Hex

namespace Address

open String (utf8Len utf8Len_cons utf8Len_append utf8Len_nil)

/-- What is read as an octet: its two digits, or a plus sign and one digit. -/
def Number (first second : Char) (octet : UInt8) : Prop :=
  Hex.Denotes first second octet ∨ first = '+' ∧ Hex.IsDigit second octet

/-- The characters are pairs that stand for the octets. -/
inductive Pairs (pair : Char → Char → UInt8 → Prop) : List Char → Bytes → Prop where
  | nil : Pairs pair [] []
  | cons {first second : Char} {octet : UInt8} {rest : List Char} {octets : Bytes}
      (head : pair first second octet) (tail : Pairs pair rest octets) :
      Pairs pair (first :: second :: rest) (octet :: octets)

/-- There is a place between characters behind this many octets. -/
def HasCut (octets : Nat) (chars : List Char) : Prop :=
  ∃ front back, chars = front ++ back ∧ utf8Len front = octets

/-- Behind some pairs that are read as octets, the end of the next pair falls inside a character. -/
def Severed (chars : List Char) : Prop :=
  ∃ front octets back, chars = front ++ back ∧ Pairs Number front octets ∧ back ≠ [] ∧
    ¬ HasCut 2 back

/-- The characters of a text without the separators. -/
def significant (text : String) : List Char :=
  text.toList.filter fun char => !isSeparator char

variable {first second : Char} {octet : UInt8} {chars front back pair rest : List Char}
  {octets : Bytes} {count : Nat}

theorem octet?_eq_some_iff : octet? pair = some octet ↔
    ∃ first second, pair = [first, second] ∧ Number first second octet := by
  unfold octet? Number
  split
  · next first second =>
      split
      · next plus => simp [plus, Hex.not_denotes_plus, Hex.value?_eq_some_iff]
      · next other => simp [other, Hex.pair?_eq_some_iff]
  · next other =>
      simp only [reduceCtorEq, false_iff]
      rintro ⟨first, second, same, _⟩
      exact other first second same

theorem utf8Size_of_number (number : Number first second octet) :
    first.utf8Size = 1 ∧ second.utf8Size = 1 := by
  rcases number with ⟨high, low, highDigit, lowDigit, _⟩ | ⟨rfl, digit⟩
  · exact ⟨Hex.utf8Size_of_isDigit highDigit, Hex.utf8Size_of_isDigit lowDigit⟩
  · exact ⟨rfl, Hex.utf8Size_of_isDigit digit⟩

/-! ### Cuts -/

theorem cut?_eq_some_iff {octets : Nat} : cut? octets chars = some (front, back) ↔
    chars = front ++ back ∧ utf8Len front = octets := by
  induction chars generalizing octets front back with
  | nil => cases octets <;> cases front <;> simp [cut?, eq_comm]
  | cons char rest ih =>
      have positive := char.utf8Size_pos
      cases octets with
      | zero => cases front <;> simp [cut?, eq_comm, Nat.ne_of_gt (Char.utf8Size_pos _)]
      | succ octets =>
          unfold cut?
          split
          · next fits =>
              simp only [Option.bind_eq_bind, Option.bind_eq_some_iff, Prod.exists, ih,
                Option.pure_def, Option.some.injEq, Prod.mk.injEq]
              constructor
              · rintro ⟨begin, later, ⟨rfl, length⟩, rfl, rfl⟩
                refine ⟨rfl, ?_⟩
                rw [utf8Len_cons]
                omega
              · rintro ⟨whole, length⟩
                cases front with
                | nil => contradiction
                | cons first begin =>
                    rw [List.cons_append, List.cons.injEq] at whole
                    rcases whole with ⟨rfl, rfl⟩
                    rw [utf8Len_cons] at length
                    exact ⟨begin, back, ⟨rfl, by omega⟩, rfl, rfl⟩
          · next wide =>
              simp only [reduceCtorEq, false_iff]
              rintro ⟨whole, length⟩
              cases front with
              | nil => contradiction
              | cons first begin =>
                  rw [List.cons_append, List.cons.injEq] at whole
                  rcases whole with ⟨rfl, rfl⟩
                  rw [utf8Len_cons] at length
                  omega
/-- There is a cut exactly if the text is not in the middle of a character there. -/
theorem cut?_eq_none_iff {octets : Nat} : cut? octets chars = none ↔ ¬ HasCut octets chars := by
  simp only [Option.eq_none_iff_forall_ne_some, Prod.forall, ne_eq, cut?_eq_some_iff, HasCut,
    not_exists]

theorem cut?_of_number (number : Number first second octet) :
    cut? 2 (first :: second :: rest) = some ([first, second], rest) := by
  rcases utf8Size_of_number number with ⟨single, secondSingle⟩
  exact cut?_eq_some_iff.mpr ⟨rfl, by simp [single, secondSingle]⟩

theorem hasCut_of_number (number : Number first second octet) :
    HasCut 2 (first :: second :: rest) :=
  ⟨[first, second], rest, cut?_eq_some_iff.mp (cut?_of_number number)⟩

/-- Where the first pair is no octet, the text does not start with one. -/
theorem not_number_of_cut? (cut : cut? 2 chars = some (pair, rest)) (unread : octet? pair = none) :
    ∀ first second more octet, chars = first :: second :: more →
      ¬ Number first second octet := by
  rintro first second more octet rfl number
  rw [cut?_of_number number, Option.some.injEq, Prod.mk.injEq] at cut
  rw [← cut.1, octet?_eq_some_iff.mpr ⟨first, second, rfl, number⟩] at unread
  contradiction

/-! ### One pair -/

theorem readPairs_of_number (number : Number first second octet) :
    readPairs (count + 1) (first :: second :: rest)
      = (readPairs count rest).bind fun octets => .value (octet :: octets) := by
  simp only [readPairs, cut?_of_number number,
    octet?_eq_some_iff.mpr ⟨first, second, rfl, number⟩]
  rfl

theorem readPairs_of_no_octet (cut : cut? 2 chars = some (pair, rest))
    (unread : octet? pair = none) : readPairs (count + 1) chars = .refused .digit := by
  simp only [readPairs, cut, unread]

theorem readPairs_of_uncut (uncut : cut? 2 chars = none) :
    readPairs (count + 1) chars = .stuck := by
  simp only [readPairs, uncut]

/-! ### All pairs -/

theorem pairs_cons_iff (number : Number first second octet) :
    Pairs Number (first :: second :: rest) octets ↔
      ∃ more, Pairs Number rest more ∧ octet :: more = octets := by
  have read := octet?_eq_some_iff.mpr ⟨first, second, rfl, number⟩
  constructor
  · intro pairs
    cases pairs with
    | cons head tail =>
        rw [octet?_eq_some_iff.mpr ⟨first, second, rfl, head⟩, Option.some.injEq] at read
        rw [read]
        exact ⟨_, tail, rfl⟩
  · rintro ⟨more, tail, rfl⟩
    exact .cons number tail

theorem severed_cons_iff (number : Number first second octet) :
    Severed (first :: second :: rest) ↔ Severed rest := by
  constructor
  · rintro ⟨front, octets, back, whole, pairs, rest, uncut⟩
    cases pairs with
    | nil =>
        rw [List.nil_append] at whole
        rw [← whole] at uncut
        exact absurd (hasCut_of_number number) uncut
    | cons head tail =>
        rw [List.cons_append, List.cons_append, List.cons.injEq, List.cons.injEq] at whole
        exact ⟨_, _, back, whole.2.2, tail, rest, uncut⟩
  · rintro ⟨front, octets, back, rfl, pairs, rest, uncut⟩
    exact ⟨first :: second :: front, octet :: octets, back, rfl, .cons number pairs, rest, uncut⟩

theorem not_severed_nil : ¬ Severed [] := by
  rintro ⟨front, octets, back, empty, _, rest, _⟩
  exact rest (List.append_eq_nil_iff.mp empty.symm).2

/-- A first pair that is no octet ends the reading, and nothing is severed. -/
theorem not_pairs_and_not_severed (cut : cut? 2 chars = some (pair, rest))
    (unread : octet? pair = none) : (∀ octets, ¬ Pairs Number chars octets) ∧ ¬ Severed chars := by
  have noNumber := not_number_of_cut? cut unread
  constructor
  · intro octets pairs
    cases pairs with
    | nil => contradiction
    | cons head tail => exact noNumber _ _ _ _ rfl head
  · rintro ⟨front, octets, back, rfl, pairs, _, uncut⟩
    cases pairs with
    | nil => exact uncut ⟨pair, rest, cut?_eq_some_iff.mp cut⟩
    | cons head tail => exact noNumber _ _ _ _ rfl head

/-- A first pair that cannot be cut off severs the text. -/
theorem not_pairs_and_severed (inhabited : chars ≠ []) (uncut : cut? 2 chars = none) :
    (∀ octets, ¬ Pairs Number chars octets) ∧ Severed chars := by
  constructor
  · intro octets pairs
    cases pairs with
    | nil => contradiction
    | cons head tail =>
        rw [cut?_of_number head] at uncut
        contradiction
  · exact ⟨[], [], chars, rfl, .nil, inhabited, cut?_eq_none_iff.mp uncut⟩

/-- The octets that are asked for are read if all pairs are octets. Otherwise a pair is none, or the
text is severed behind pairs that are octets. -/
theorem readPairs_eq (whole : utf8Len chars = 2 * count) :
    (∀ octets, readPairs count chars = .value octets ↔ Pairs Number chars octets) ∧
      (readPairs count chars = .stuck ↔ Severed chars) ∧
      readPairs count chars ≠ .refused .length := by
  induction count generalizing chars with
  | zero =>
      have empty : chars = [] := String.utf8Len_eq_zero.mp whole
      subst empty
      refine ⟨?_, by simp [readPairs, not_severed_nil], by simp [readPairs]⟩
      intro octets
      constructor
      · intro read
        rw [readPairs, Reading.value.injEq] at read
        exact read ▸ .nil
      · intro pairs
        cases pairs
        rfl
  | succ count ih =>
      cases cut : cut? 2 chars with
      | none =>
          have inhabited : chars ≠ [] := by
            rintro rfl
            simp at whole
          rcases not_pairs_and_severed inhabited cut with ⟨unread, severed⟩
          simp [readPairs_of_uncut cut, unread, severed]
      | some parts =>
          rcases parts with ⟨pair, rest⟩
          cases read : octet? pair with
          | none =>
              rcases not_pairs_and_not_severed cut read with ⟨unread, whole⟩
              simp [readPairs_of_no_octet cut read, unread, whole]
          | some octet =>
              rcases octet?_eq_some_iff.mp read with ⟨first, second, rfl, number⟩
              rcases cut?_eq_some_iff.mp cut with ⟨rfl, length⟩
              have remains : utf8Len rest = 2 * count := by
                rw [utf8Len_append, length] at whole
                omega
              rcases ih remains with ⟨reads, severed, long⟩
              simp only [List.cons_append, List.nil_append, readPairs_of_number number,
                severed_cons_iff number, pairs_cons_iff number, ← severed, ← reads]
              cases found : readPairs count rest with
              | value more => simp [Reading.bind]
              | refused fault => simpa [Reading.bind, found] using long
              | stuck => simp [Reading.bind]

/-! ### The whole text -/

theorem utf8Len_of_pairs (pairs : Pairs Number chars octets) :
    utf8Len chars = 2 * octets.length := by
  induction pairs with
  | nil => rfl
  | cons head tail ih =>
      rcases utf8Size_of_number head with ⟨single, secondSingle⟩
      simp only [utf8Len_cons, single, secondSingle, ih, List.length_cons]
      omega

/-- Pairs are digits if nothing is a plus sign. -/
theorem pairs_denotes_iff :
    Pairs Hex.Denotes chars octets ↔ Pairs Number chars octets ∧ '+' ∉ chars := by
  constructor
  · intro pairs
    induction pairs with
    | nil => exact ⟨.nil, List.not_mem_nil⟩
    | cons head tail ih =>
        refine ⟨.cons (.inl head) ih.1, ?_⟩
        rcases head with ⟨high, low, highDigit, lowDigit, _⟩
        rw [List.mem_cons, List.mem_cons]
        rintro (rfl | rfl | later)
        · exact Hex.not_isDigit_plus high highDigit
        · exact Hex.not_isDigit_plus low lowDigit
        · exact ih.2 later
  · rintro ⟨pairs, unsigned⟩
    induction pairs with
    | nil => exact .nil
    | cons head tail ih =>
        rw [List.mem_cons, List.mem_cons, not_or, not_or] at unsigned
        rcases head with digits | ⟨plus, _⟩
        · exact .cons digits (ih unsigned.2.2)
        · exact absurd plus.symm unsigned.1

/-- Why the characters are refused: they have not six octets, or a pair is no octet before any cut
goes through a character. -/
def Flawed (chars : List Char) : AddressFault → Prop
  | .length => utf8Len chars ≠ 6
  | .digit => utf8Len chars = 6 ∧ ¬ Severed chars ∧ ∀ octets, ¬ Pairs Number chars octets

variable {text : String} {address : Address}

theorem toBytes_inj {other : Address} : address.toBytes = other.toBytes ↔ address = other := by
  rcases address with ⟨high, middle, low⟩
  rcases other with ⟨otherHigh, otherMiddle, otherLow⟩
  simp [toBytes]

theorem readChars_of_length_ne (other : utf8Len (significant text) ≠ 6) :
    readChars text.toList = .refused .length := by
  have size : (String.ofList (significant text)).utf8ByteSize ≠ 6 := by
    rwa [String.utf8ByteSize_ofList]
  exact if_neg size

/-- Six octets of text are read as their pairs are. -/
theorem readChars_of_length (six : utf8Len (significant text) = 2 * 3) :
    readPairs 3 (significant text)
      = (readChars text.toList).bind fun address => .value address.toBytes := by
  have size : (String.ofList (significant text)).utf8ByteSize = 6 := by
    rw [String.utf8ByteSize_ofList, six]
  -- The length has been tested for, and three pairs give three octets.
  change _ = Reading.bind (ite ((String.ofList (significant text)).utf8ByteSize = 6)
    (readPairs 3 (significant text) >>= _) _) _
  rw [if_pos size]
  cases found : readPairs 3 (significant text) with
  | refused | stuck => rfl
  | value octets =>
      have pairs : Pairs Number (significant text) octets := ((readPairs_eq six).1 octets).mp found
      have three : octets.length = 3 := by
        have length := utf8Len_of_pairs pairs
        omega
      rcases List.length_eq_three.mp three with ⟨high, middle, low, rfl⟩
      rfl

/-- What comes of the characters, in all three cases. -/
theorem readChars_eq (text : String) :
    (∀ address, readChars text.toList = .value address
      ↔ Pairs Number (significant text) address.toBytes) ∧
    (∀ fault, readChars text.toList = .refused fault ↔ Flawed (significant text) fault) ∧
    (readChars text.toList = .stuck
      ↔ utf8Len (significant text) = 6 ∧ Severed (significant text)) := by
  by_cases six : utf8Len (significant text) = 2 * 3
  · rcases readPairs_eq six with ⟨reads, severed, long⟩
    rw [readChars_of_length six] at reads severed long
    cases read : readChars text.toList with
    | value found =>
        simp only [read, Reading.bind, Reading.value.injEq, reduceCtorEq, false_iff]
          at reads severed
        have paired : Pairs Number (significant text) found.toBytes := (reads _).mp rfl
        refine ⟨?_, ?_, by simp [severed]⟩
        · intro address
          rw [← reads, Reading.value.injEq, toBytes_inj]
        · intro fault
          cases fault with
          | length => simp [Flawed, six]
          | digit =>
              simp only [Flawed, reduceCtorEq, false_iff]
              rintro ⟨_, _, unpaired⟩
              exact unpaired _ paired
    | refused found =>
        simp only [read, Reading.bind, reduceCtorEq, false_iff, ne_eq, Reading.refused.injEq]
          at reads severed long
        refine ⟨by simp [reads], ?_, by simp [severed]⟩
        intro fault
        cases found with
        | length => contradiction
        | digit => cases fault <;> simp [Flawed, six, severed, reads]
    | stuck =>
        simp only [read, Reading.bind, reduceCtorEq, false_iff, true_iff] at reads severed
        refine ⟨by simp [reads], ?_, by simp [six, severed]⟩
        intro fault
        cases fault <;> simp [Flawed, six, severed]
  · rw [readChars_of_length_ne six]
    refine ⟨?_, ?_, by simp [six]⟩
    · intro address
      simp only [reduceCtorEq, false_iff]
      intro pairs
      exact six (utf8Len_of_pairs pairs)
    · intro fault
      cases fault <;> simp [Flawed, six]

/-- A text is read as an address exactly if without separators it consists of three pairs of
characters that are octets, or a plus sign and a digit; without plus signs these are the texts of
six hexadecimal digits, of either case. It is refused exactly if it has not six octets or a pair is
no octet, with an error that names the text and which of the two it was. And reading gets stuck,
with no result, exactly if six octets are left of the text and, behind pairs that are octets, the
end of a pair falls inside a character. -/
theorem parse_reads_pairs (text : String) :
    let chars := significant text
    (∀ address, parse text = .value address ↔ Pairs Number chars address.toBytes) ∧
    (∀ address, Pairs Hex.Denotes chars address.toBytes ↔
      parse text = .value address ∧ '+' ∉ chars) ∧
    (∀ error, parse text = .refused error ↔
      ∃ fault, Flawed chars fault ∧ error = .protocol (.invalidAddress text fault)) ∧
    (parse text = .stuck ↔ utf8Len chars = 6 ∧ Severed chars) := by
  intro chars
  rcases readChars_eq text with ⟨reads, refuses, sticks⟩
  have parses (address : Address) :
      parse text = .value address ↔ Pairs Number chars address.toBytes := by
    rw [← reads]
    unfold parse
    cases readChars text.toList <;> simp
  refine ⟨parses, ?_, ?_, ?_⟩
  · intro address
    rw [parses, pairs_denotes_iff]
  · intro error
    simp only [chars, ← refuses]
    unfold parse
    cases readChars text.toList <;> simp [eq_comm]
  · rw [← sticks]
    unfold parse
    cases readChars text.toList <;> simp

/-- A plus sign is taken for a digit, though it is none. And a text of six octets that would be cut
inside a character is no address, but it is not refused either. -/
theorem sign_is_no_digit :
    (parse "+1+2+3" = .value ⟨1, 2, 3⟩ ∧
      ∀ octets, ¬ Pairs Hex.Denotes (significant "+1+2+3") octets) ∧
    (parse "1é234" = .stuck ∧
      ∀ octets, ¬ Pairs Hex.Denotes (significant "1é234") octets) ∧
    ¬ ∃ error, parse "1é234" = .refused error := by
  have stuck : parse "1é234" = .stuck := by decide +kernel
  refine ⟨⟨by decide +kernel, ?_⟩, ⟨stuck, ?_⟩, ?_⟩
  · intro octets pairs
    have chars : significant "+1+2+3" = ['+', '1', '+', '2', '+', '3'] := by decide +kernel
    rw [chars] at pairs
    cases pairs with
    | cons head tail => exact Hex.not_denotes_plus _ _ head
  · intro octets pairs
    have chars : significant "1é234" = ['1', 'é', '2', '3', '4'] := by decide +kernel
    rw [chars] at pairs
    cases pairs with
    | cons head tail =>
        rcases head with ⟨_, low, _, digit, _⟩
        exact absurd (Hex.utf8Size_of_isDigit digit) (by decide)
  · rintro ⟨error, refused⟩
    rw [stuck] at refused
    contradiction

end Address

end Powerline
