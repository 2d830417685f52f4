import LadderAtlas.Json.Decode
import LadderAtlas.Proofs.Number.Numerals

/-! # Numbers in JSON texts

A number whose parts are digits is read back from the characters that it is written as. Integers are
such numbers, and an integer is what they stand for.
-/

namespace LadderAtlas.Json

/-- One digit or more. -/
structure Digits (ds : List Char) : Prop where
  some : ds ≠ []
  all : ∀ c ∈ ds, c.isDigit = true

namespace Number

/-- The parts of a number are digits, the first of several before the point not being zero. -/
structure WellFormed (n : Number) : Prop where
  whole : Digits n.whole
  leading : n.whole.head? = some '0' → n.whole.length = 1
  fraction : ∀ ds, n.fraction = some ds → Digits ds
  exponent : ∀ negative ds, n.exponent = some (negative, ds) → Digits ds

/-- Digits end where something else starts. -/
theorem spanDigits_append {ds rest : List Char} (digits : ∀ c ∈ ds, c.isDigit = true)
    (ends : ∀ c ∈ rest.head?, c.isDigit = false) : spanDigits (ds ++ rest) = (ds, rest) := by
  have next : rest.takeWhile (·.isDigit) = [] ∧ rest.dropWhile (·.isDigit) = rest := by
    cases rest with
    | nil => exact ⟨rfl, rfl⟩
    | cons c rest => simp [ends c rfl]
  unfold spanDigits
  rw [List.takeWhile_append_of_pos digits, List.dropWhile_append_of_pos digits, next.1, next.2,
    List.append_nil]

/-- The characters of an exponent. -/
def exponentChars : Option (Bool × List Char) → List Char
  | some (negative, ds) => 'e' :: (if negative then '-' else '+') :: ds
  | none => []

theorem exponent?_exponentChars {exponent : Option (Bool × List Char)}
    (digits : ∀ negative ds, exponent = some (negative, ds) → Digits ds) :
    exponent? (exponentChars exponent) = some exponent := by
  cases exponent with
  | none => rfl
  | some parts =>
      obtain ⟨negative, ds⟩ := parts
      obtain ⟨filled, all⟩ := digits negative ds rfl
      have known : (!ds.isEmpty && ds.all (·.isDigit)) = true := by
        simp only [Bool.and_eq_true, Bool.not_eq_true', List.isEmpty_eq_false_iff, List.all_eq_true]
        exact ⟨filled, all⟩
      cases negative <;> simp [exponentChars, exponent?, known]

/-- What follows the digits of a number does not start with one. -/
theorem head?_exponentChars (exponent : Option (Bool × List Char)) :
    ∀ c ∈ (exponentChars exponent).head?, c.isDigit = false := by
  cases exponent with
  | none => nofun
  | some parts =>
      rintro c start
      cases start
      rfl

/-- The characters of a number after its sign. -/
def unsignedChars (n : Number) : List Char :=
  n.whole ++ ((match n.fraction with
    | some ds => '.' :: ds
    | none => []) ++ exponentChars n.exponent)

theorem chars_eq (n : Number) : n.chars = Decimal.sign n.negative ++ n.unsignedChars := by
  obtain ⟨negative, whole, fraction, exponent⟩ := n
  cases fraction <;> cases exponent <;> simp [chars, unsignedChars, exponentChars]

/-- The number that the characters after the sign are. -/
def ofUnsigned? (negative : Bool) (cs : List Char) : Option Number := do
  let (whole, rest) := spanDigits cs
  if whole.isEmpty || (whole.head? == some '0' && whole.length != 1) then none
  match rest with
  | '.' :: rest =>
    let (fraction, rest) := spanDigits rest
    if fraction.isEmpty then none
    return ⟨negative, whole, some fraction, ← exponent? rest⟩
  | rest => return ⟨negative, whole, none, ← exponent? rest⟩

theorem ofChars?_sign (negative : Bool) {cs : List Char} (unsigned : cs.head? ≠ some '-') :
    ofChars? (Decimal.sign negative ++ cs) = ofUnsigned? negative cs := by
  cases negative with
  | true => rfl
  | false =>
      unfold ofChars?
      split
      next negative cs' h =>
      split at h
      next rest same =>
        change cs = _ at same
        rw [same] at unsigned
        exact absurd rfl unsigned
      next =>
        cases h
        rfl

theorem ofUnsigned?_unsignedChars {n : Number} (h : n.WellFormed) :
    ofUnsigned? n.negative n.unsignedChars = some n := by
  obtain ⟨negative, whole, fraction, exponent⟩ := n
  obtain ⟨⟨filled, digits⟩, leading, hfraction, hexponent⟩ := h
  dsimp only at *
  have accepted : (whole.isEmpty || (whole.head? == some '0' && whole.length != 1)) = false := by
    rw [List.isEmpty_eq_false_iff.mpr filled, Bool.false_or, Bool.and_eq_false_imp]
    intro zero
    simpa using leading (by simpa using zero)
  cases fraction with
  | none =>
      have span : spanDigits (unsignedChars ⟨negative, whole, none, exponent⟩) =
          (whole, exponentChars exponent) :=
        spanDigits_append digits (head?_exponentChars exponent)
      unfold ofUnsigned?
      simp only [span, accepted]
      -- an exponent does not start with a point
      cases exponent with
      | none => rfl
      | some parts =>
          have read := exponent?_exponentChars hexponent
          simp only [exponentChars] at read ⊢
          simp [read]
  | some ds =>
      have span : spanDigits (unsignedChars ⟨negative, whole, some ds, exponent⟩) =
          (whole, '.' :: (ds ++ exponentChars exponent)) :=
        spanDigits_append digits (by rintro c ⟨⟩; rfl)
      have next : spanDigits (ds ++ exponentChars exponent) = (ds, exponentChars exponent) :=
        spanDigits_append (hfraction ds rfl).all (head?_exponentChars exponent)
      unfold ofUnsigned?
      simp only [span, accepted, next, List.isEmpty_eq_false_iff.mpr (hfraction ds rfl).some,
        exponent?_exponentChars hexponent]
      rfl

/-- A number is read back from its characters. -/
theorem ofChars?_chars {n : Number} (h : n.WellFormed) : ofChars? n.chars = some n := by
  have unsigned : n.unsignedChars.head? ≠ some '-' := by
    obtain ⟨first, others, whole⟩ := List.exists_cons_of_ne_nil h.whole.some
    have digit : first.isDigit = true := h.whole.all first (by rw [whole]; exact List.mem_cons_self)
    rintro start
    rw [unsignedChars, whole] at start
    cases start
    cases digit
  rw [chars_eq, ofChars?_sign n.negative unsigned, ofUnsigned?_unsignedChars h]

theorem mem_exponentChars {exponent : Option (Bool × List Char)}
    (digits : ∀ negative ds, exponent = some (negative, ds) → Digits ds) {c : Char}
    (member : c ∈ exponentChars exponent) : c.isDigit = true ∨ c ∈ ['e', '+', '-'] := by
  cases exponent with
  | none => cases member
  | some parts =>
      obtain ⟨negative, ds⟩ := parts
      rcases List.mem_cons.mp member with rfl | rest
      · exact .inr (by decide)
      · rcases List.mem_cons.mp rest with rfl | digit
        · cases negative <;> exact .inr (by decide)
        · exact .inl ((digits negative ds rfl).all c digit)

theorem mem_chars {n : Number} (h : n.WellFormed) {c : Char} (member : c ∈ n.chars) :
    c.isDigit = true ∨ c ∈ ['e', '+', '-', '.'] := by
  rw [chars_eq, unsignedChars] at member
  rcases List.mem_append.mp member with sign | unsigned
  · rw [Decimal.mem_sign sign]
    exact .inr (by decide)
  rcases List.mem_append.mp unsigned with whole | rest
  · exact .inl (h.whole.all c whole)
  rcases List.mem_append.mp rest with fraction | exponent
  · split at fraction
    next ds given =>
      rcases List.mem_cons.mp fraction with rfl | digit
      · exact .inr (by decide)
      · exact .inl ((h.fraction ds given).all c digit)
    next => cases fraction
  · exact (mem_exponentChars h.exponent exponent).imp_right fun mark =>
      List.mem_append_left ['.'] mark

/-! ## Integers -/

theorem wellFormed_ofInt (n : Int) : (ofInt n).WellFormed where
  whole := ⟨Nat.toDigits_ne_nil, fun _ member => Decimal.isDigit_of_mem_digits member⟩
  leading := by
    intro zero
    change (Decimal.digits n.natAbs).length = 1
    rw [Decimal.eq_zero_of_head?_digits zero]
    rfl
  fraction := nofun
  exponent := nofun

/-- As a number, an integer has the characters of its numeral. -/
theorem chars_ofInt (n : Int) : (ofInt n).chars = Numeral.chars n := by
  simp [chars, ofInt, Numeral.chars]

theorem integer?_ofInt (n : Int) : (ofInt n).integer? = some n := by
  have filled : Decimal.digits n.natAbs ≠ [] := Nat.toDigits_ne_nil
  have read : Numeral.natural? 10 (Decimal.digits n.natAbs) = some n.natAbs := by
    rw [Numeral.natural?_of_digits filled fun _ member => Decimal.isDigit_of_mem_digits member,
      Decimal.digits, Nat.ofDigitChars_ten_toDigits]
  unfold integer? ofInt
  dsimp only
  rw [read]
  rcases Nat.eq_zero_or_pos n.natAbs with zero | positive
  · rw [Int.natAbs_eq_zero.mp zero]
    rfl
  · obtain ⟨k, magnitude⟩ := Nat.exists_eq_succ_of_ne_zero positive.ne'
    rw [magnitude]
    simp only [decide_eq_true_eq, Option.some_inj]
    split
    · omega
    · omega

end Number

/-- A 32-bit integer is read back from the number it is written as. -/
theorem int32?_ofInt (x : Int32) : int32? (ofInt x.toInt) = some x := by
  have read : (ofInt x.toInt).int? = some x.toInt := Number.integer?_ofInt x.toInt
  rw [int32?, read]
  exact Numeral.toInt32?_eq_some_iff.mpr rfl

end LadderAtlas.Json
