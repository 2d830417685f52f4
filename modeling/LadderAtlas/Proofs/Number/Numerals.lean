import LadderAtlas.Number.Numeral
import Mathlib.Data.List.Basic
import Mathlib.Data.Nat.Digits.Defs

/-! # Numerals say which number they are

Two integers with the same numeral are the same, and a numeral has no characters but digits and a
sign. An integer is read off its numeral, also with a plus sign or with zeros before it, and off
nothing else.
-/

namespace LadderAtlas

theorem Decimal.isDigit_of_mem_digits {n : Nat} {c : Char} (member : c ∈ digits n) :
    c.isDigit = true :=
  Nat.isDigit_of_mem_toDigits (by decide) (by decide) member

theorem Decimal.digits_injective : Function.Injective digits := by
  intro m n same
  have read := congrArg (fun ds => Nat.ofDigitChars 10 ds 0) same
  simpa [digits, Nat.ofDigitChars_toDigits] using read

/-- Only zero is written with a zero first. -/
theorem Decimal.eq_zero_of_head?_digits {n : Nat} (zero : (digits n).head? = some '0') : n = 0 := by
  induction n using Nat.strong_induction_on with
  | _ n ih =>
      rcases Nat.lt_or_ge n 10 with small | large
      · rw [digits, Nat.toDigits_of_lt_base small, List.head?_cons, Option.some_inj] at zero
        exact Nat.digitChar_eq_zero.mp zero
      · have filled : Nat.toDigits 10 (n / 10) ≠ [] := Nat.toDigits_ne_nil
        rw [digits, Nat.toDigits_of_base_le (by decide) large,
          List.head?_append_of_ne_nil _ filled] at zero
        have tenth : n / 10 = 0 := ih (n / 10) (by omega) zero
        omega

theorem Decimal.mem_sign {negative : Bool} {c : Char} (member : c ∈ sign negative) : c = '-' := by
  cases negative with
  | false => cases member
  | true => exact List.mem_singleton.mp member

theorem Decimal.isDigit_of_mem_padded {width n : Nat} {c : Char} (member : c ∈ padded width n) :
    c.isDigit = true := by
  rcases List.mem_append.mp member with zero | digit
  · rw [(List.mem_replicate.mp zero).2]
    rfl
  · exact isDigit_of_mem_digits digit

theorem Decimal.mem_positional {coefficient : Nat} {power : Int} {c : Char}
    (member : c ∈ positional coefficient power) : c = '.' ∨ c.isDigit = true := by
  unfold positional withPoint at member
  split at member
  · exact .inr (isDigit_of_mem_digits member)
  split at member
  · exact .inr (isDigit_of_mem_digits member)
  rcases List.mem_append.mp member with whole | fraction
  · exact .inr (isDigit_of_mem_digits whole)
  · rcases List.mem_cons.mp fraction with point | digit
    · exact .inl point
    · exact .inr (isDigit_of_mem_padded digit)

/-- A double is written with digits, a point and a sign, or as one of the words for what is no
    number. -/
theorem Decimal.mem_shortestText {x : Float} {c : Char} (member : c ∈ (shortestText x).toList) :
    c = '-' ∨ c = '.' ∨ c.isAlphanum = true := by
  have digit (h : c.isDigit = true) : c.isAlphanum = true := by simp [Char.isAlphanum, h]
  unfold shortestText at member
  split at member
  · have letters : ∀ d ∈ "NaN".toList, d.isAlphanum = true := List.all_eq_true.mp (by decide)
    exact .inr (.inr (letters c member))
  · split at member
    · have word : "-inf".toList.all (fun d => d == '-' || d.isAlphanum) = true := by decide
      have letter : c = '-' ∨ c.isAlphanum = true := by
        simpa using List.all_eq_true.mp word c member
      exact letter.imp_right .inr
    · have letters : ∀ d ∈ "inf".toList, d.isAlphanum = true := List.all_eq_true.mp (by decide)
      exact .inr (.inr (letters c member))
  · split at member
    · rw [String.toList_ofList] at member
      rcases List.mem_append.mp member with sign | zero
      · exact .inl (mem_sign sign)
      · rw [List.mem_singleton.mp zero]
        exact .inr (.inr rfl)
    · rw [String.toList_ofList] at member
      rcases List.mem_append.mp member with sign | written
      · exact .inl (mem_sign sign)
      · exact .inr ((mem_positional written).imp_right digit)

namespace Numeral

theorem mem_chars {n : Int} {c : Char} (member : c ∈ chars n) : c = '-' ∨ c.isDigit = true := by
  rcases List.mem_append.mp member with sign | digit
  · exact .inl (Decimal.mem_sign sign)
  · exact .inr (Decimal.isDigit_of_mem_digits digit)

theorem head?_chars_eq_minus_iff {n : Int} : (chars n).head? = some '-' ↔ n < 0 := by
  rcases lt_or_ge n 0 with negative | nonneg
  · rw [chars, decide_eq_true negative]
    exact iff_of_true rfl negative
  · rw [chars, decide_eq_false (Int.not_lt.mpr nonneg)]
    refine iff_of_false (fun head => ?_) (Int.not_lt.mpr nonneg)
    have digit : '-'.isDigit = true := Decimal.isDigit_of_mem_digits (List.mem_of_mem_head? head)
    cases digit

/-- A minus sign is no digit, so it cannot be taken for the first one of a natural number. -/
theorem chars_injective : Function.Injective chars := by
  have noDigit {k : Nat} {ds : List Char} : Decimal.digits k ≠ '-' :: ds := by
    intro same
    have digit : Char.isDigit '-' = true :=
      Decimal.isDigit_of_mem_digits (n := k) (by rw [same]; exact List.mem_cons_self)
    cases digit
  intro m n same
  by_cases negM : m < 0 <;> by_cases negN : n < 0 <;>
    simp only [chars, negM, negN, decide_true, decide_false, Decimal.sign,
      Bool.false_eq_true, if_true, if_false, List.cons_append, List.nil_append] at same
  · have abs := Decimal.digits_injective (List.cons.inj same).2
    omega
  · exact absurd same.symm noDigit
  · exact absurd same noDigit
  · have abs := Decimal.digits_injective same
    omega

theorem text_injective : Function.Injective text := by
  intro m n same
  apply chars_injective
  simpa [text] using congrArg String.toList same

/-- The numeral is the one that integers have anyway. -/
theorem chars_eq_toString (n : Int) : chars n = (toString n).toList := by
  cases n with
  | ofNat n =>
      have written : (toString (Int.ofNat n)).toList = Nat.toDigits 10 n := Nat.toList_repr
      have sign : ¬Int.ofNat n < 0 := Int.not_lt.mpr (Int.natCast_nonneg n)
      rw [written, chars, decide_eq_false sign]
      rfl
  | negSucc n =>
      have written : (toString (Int.negSucc n)).toList = '-' :: Nat.toDigits 10 (n + 1) := by
        change ("-" ++ (n + 1).repr).toList = _
        rw [String.toList_append, Nat.toList_repr]
        rfl
      rw [written, chars, decide_eq_true (Int.negSucc_lt_zero n)]
      rfl

/-! ## Reading back -/

theorem digit?_of_isDigit {c : Char} (digit : c.isDigit = true) :
    digit? 10 c = some (c.toNat - 48) := by
  have bounds : c.toNat ≤ 57 := by
    simp only [Char.isDigit, Bool.and_eq_true, decide_eq_true_eq] at digit
    exact digit.2
  have small : c.toNat - 48 < 10 := by omega
  simp [digit?, digit, small]

theorem readFrom_of_digits {cs : List Char} (digits : ∀ c ∈ cs, c.isDigit = true) (acc : Nat) :
    readFrom 10 cs acc = some (Nat.ofDigitChars 10 cs acc) := by
  induction cs generalizing acc with
  | nil => rfl
  | cons c cs ih =>
      rw [readFrom, digit?_of_isDigit (digits c List.mem_cons_self)]
      exact ih (fun d member => digits d (List.mem_cons_of_mem c member)) _

theorem natural?_of_digits {cs : List Char} (filled : cs ≠ [])
    (digits : ∀ c ∈ cs, c.isDigit = true) :
    natural? 10 cs = some (Nat.ofDigitChars 10 cs 0) := by
  rw [natural?, if_neg (by rwa [List.isEmpty_iff]), readFrom_of_digits digits]

theorem natural?_padded (width n : Nat) : natural? 10 (Decimal.padded width n) = some n := by
  have filled : Decimal.padded width n ≠ [] := by
    intro none
    exact Nat.toDigits_ne_nil (List.append_eq_nil_iff.mp none).2
  rw [natural?_of_digits filled fun c member => Decimal.isDigit_of_mem_padded member,
    Decimal.padded, Nat.ofDigitChars_append, Nat.ofDigitChars_replicate_zero, Nat.mul_zero,
    Decimal.digits,
    Nat.ofDigitChars_ten_toDigits]

/-- Digits have no sign before them. -/
theorem integer?_of_digits {cs : List Char} (digits : ∀ c ∈ cs, c.isDigit = true) :
    integer? cs = (natural? 10 cs).map fun n => (n : Int) := by
  unfold integer?
  split
  · cases digits '-' List.mem_cons_self
  · cases digits '+' List.mem_cons_self
  · rfl

/-! ## What is read as an integer -/

/-- Letters stand for ten and more. -/
theorem isDigit_of_digit? {c : Char} {d : Nat} (read : digit? 10 c = some d) :
    c.isDigit = true := by
  obtain ⟨value, small⟩ := Option.filter_eq_some_iff.mp read
  have less : d < 10 := of_decide_eq_true small
  by_contra letter
  rw [if_neg letter] at value
  split at value
  · next lower =>
      rw [Bool.and_eq_true, decide_eq_true_eq] at lower
      have least : 97 ≤ c.toNat := lower.1
      cases value
      omega
  · split at value
    · next upper =>
        rw [Bool.and_eq_true, decide_eq_true_eq] at upper
        have least : 65 ≤ c.toNat := upper.1
        cases value
        omega
    · cases value

theorem digits_of_readFrom {cs : List Char} {acc n : Nat} (read : readFrom 10 cs acc = some n) :
    ∀ c ∈ cs, c.isDigit = true := by
  induction cs generalizing acc with
  | nil => exact nofun
  | cons c cs ih =>
      obtain ⟨d, digit, rest⟩ := Option.bind_eq_some_iff.mp read
      exact List.forall_mem_cons.mpr ⟨isDigit_of_digit? digit, ih rest⟩

/-- A natural number is read off one digit or more, and off nothing else. -/
theorem natural?_eq_some_iff {cs : List Char} {n : Nat} : natural? 10 cs = some n ↔
    (cs ≠ [] ∧ ∀ c ∈ cs, c.isDigit = true) ∧ Nat.ofDigitChars 10 cs 0 = n := by
  constructor
  · intro read
    obtain ⟨filled, value⟩ := Option.ite_none_left_eq_some.mp read
    have digits := digits_of_readFrom value
    rw [readFrom_of_digits digits, Option.some_inj] at value
    exact ⟨⟨fun empty => filled (List.isEmpty_iff.mpr empty), digits⟩, value⟩
  · rintro ⟨⟨filled, digits⟩, rfl⟩
    exact natural?_of_digits filled digits

/-- A decimal numeral of an integer: digits, after a sign or without one. -/
inductive IsDecimal : List Char → Int → Prop where
  | plain {ds : List Char} (filled : ds ≠ []) (digits : ∀ c ∈ ds, c.isDigit = true) :
      IsDecimal ds (Nat.ofDigitChars 10 ds 0)
  | plus {ds : List Char} (filled : ds ≠ []) (digits : ∀ c ∈ ds, c.isDigit = true) :
      IsDecimal ('+' :: ds) (Nat.ofDigitChars 10 ds 0)
  | minus {ds : List Char} (filled : ds ≠ []) (digits : ∀ c ∈ ds, c.isDigit = true) :
      IsDecimal ('-' :: ds) (-(Nat.ofDigitChars 10 ds 0 : Nat))

theorem IsDecimal.mem {cs : List Char} {n : Int} (decimal : IsDecimal cs n) {c : Char}
    (member : c ∈ cs) :
    c = '+' ∨ c = '-' ∨ c.isDigit = true := by
  cases decimal with
  | plain _ digits => exact .inr (.inr (digits c member))
  | plus _ digits => exact (List.mem_cons.mp member).imp_right fun digit => .inr (digits c digit)
  | minus _ digits => exact .inr ((List.mem_cons.mp member).imp_right (digits c))

theorem digits_of_map_natural? {cs : List Char} {f : Int → Int} {n : Int}
    (read : ((natural? 10 cs).bind fun k => some (k : Int)).map f = some n) :
    (cs ≠ [] ∧ ∀ c ∈ cs, c.isDigit = true) ∧ f (Nat.ofDigitChars 10 cs 0) = n := by
  obtain ⟨_, lifted, value⟩ := Option.map_eq_some_iff.mp read
  obtain ⟨k, natural, same⟩ := Option.bind_eq_some_iff.mp lifted
  cases same
  obtain ⟨digits, rfl⟩ := natural?_eq_some_iff.mp natural
  exact ⟨digits, value⟩

theorem integer?_eq_some_iff {cs : List Char} {n : Int} :
    integer? cs = some n ↔ IsDecimal cs n := by
  constructor
  · intro read
    unfold integer? at read
    split at read
    · obtain ⟨⟨filled, digits⟩, rfl⟩ := digits_of_map_natural? read
      exact .minus filled digits
    · obtain ⟨⟨filled, digits⟩, rfl⟩ := digits_of_map_natural? read
      exact .plus filled digits
    · obtain ⟨⟨filled, digits⟩, rfl⟩ := digits_of_map_natural? read
      exact .plain filled digits
  · rintro (⟨filled, digits⟩ | ⟨filled, digits⟩ | ⟨filled, digits⟩)
    · rw [integer?_of_digits digits, natural?_of_digits filled digits]
      rfl
    · rw [integer?, natural?_of_digits filled digits]
      rfl
    · rw [integer?, natural?_of_digits filled digits]
      rfl

theorem isDecimal_chars (n : Int) : IsDecimal (chars n) n := by
  have filled : Decimal.digits n.natAbs ≠ [] := Nat.toDigits_ne_nil
  have digits : ∀ c ∈ Decimal.digits n.natAbs, c.isDigit = true :=
    fun c => Decimal.isDigit_of_mem_digits
  have value : Nat.ofDigitChars 10 (Decimal.digits n.natAbs) 0 = n.natAbs :=
    Nat.ofDigitChars_ten_toDigits
  rcases lt_or_ge n 0 with negative | nonneg
  · have decimal := IsDecimal.minus filled digits
    rw [value, show -(n.natAbs : Int) = n by omega] at decimal
    rwa [chars, decide_eq_true negative]
  · have decimal := IsDecimal.plain filled digits
    rw [value, show (n.natAbs : Int) = n by omega] at decimal
    rwa [chars, decide_eq_false (Int.not_lt.mpr nonneg)]

theorem toInt32?_eq_some_iff {n : Int} {x : Int32} : toInt32? n = some x ↔ x.toInt = n := by
  unfold toInt32?
  rw [Option.ite_none_right_eq_some, Option.some_inj]
  constructor
  · rintro ⟨⟨low, high⟩, rfl⟩
    exact Int32.toInt_ofInt_of_le low high
  · rintro rfl
    exact ⟨⟨x.le_toInt, x.toInt_lt⟩, Int32.ofInt_toInt x⟩

theorem int32?_eq_some_iff {cs : List Char} {x : Int32} :
    int32? cs = some x ↔ IsDecimal cs x.toInt := by
  rw [int32?, Option.bind_eq_bind, Option.bind_eq_some_iff]
  simp only [integer?_eq_some_iff, toInt32?_eq_some_iff, exists_eq_right']

end Numeral

theorem Decimal.le_length_padded (width n : Nat) : width ≤ (padded width n).length := by
  simp only [padded, List.length_append, List.length_replicate]
  omega

theorem Decimal.length_padded {width n : Nat} (positive : 0 < width) (fits : n < 10 ^ width) :
    (padded width n).length = width := by
  have short : (digits n).length ≤ width :=
    (Nat.length_toDigits_le_iff (by decide) positive).mpr fits
  simp only [padded, List.length_append, List.length_replicate]
  omega

end LadderAtlas
