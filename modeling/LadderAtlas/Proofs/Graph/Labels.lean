import LadderAtlas.Number.Reading
import LadderAtlas.Proofs.Json.Numbers
import LadderAtlas.Proofs.Number.Exact

/-! # What labels show

A label is read as those who look at the chart read it: a number with or without decimal places, a
percent sign behind it saying nothing about its size and a `k` that it is thousands. What was
rounded to some places is read as the whole number of units that it was rounded to, the unit being
what one is worth in the last place.
-/

namespace LadderAtlas

/-- A number, and what one is worth in the last place that is shown of it. -/
structure Figure where
  number : Rat
  unit : Rat
  deriving Repr, DecidableEq

namespace Figure

/-- The digits of a decimal as one number, how many of them are places, and what comes behind
    them. -/
def decimal? (cs : List Char) : Option (Nat × Nat × List Char) :=
  let (whole, rest) := Json.Number.spanDigits cs
  match rest with
  | '.' :: rest =>
    let (fraction, rest) := Json.Number.spanDigits rest
    (Numeral.natural? 10 (whole ++ fraction)).map fun n => (n, fraction.length, rest)
  | rest => (Numeral.natural? 10 whole).map fun n => (n, 0, rest)

/-- What one is worth for what comes behind the digits. -/
def worth? : List Char → Option Rat
  | [] => some 1
  | ['%'] => some 1
  | ['k'] => some 1000
  | _ => none

def ofLabel? (label : String) : Option Figure := do
  let (negative, cs) := Numeral.splitSign label.toList
  let (n, places, mark) ← decimal? cs
  let unit := (← worth? mark) / 10 ^ places
  let signed : Int := if negative then -n else n
  return ⟨signed * unit, unit⟩

/-! ## Decimals -/

theorem decimal?_whole {ds rest : List Char} (filled : ds ≠ [])
    (digits : ∀ c ∈ ds, c.isDigit = true) (ends : ∀ c ∈ rest.head?, c.isDigit = false ∧ c ≠ '.') :
    decimal? (ds ++ rest) = some (Nat.ofDigitChars 10 ds 0, 0, rest) := by
  have span := Json.Number.spanDigits_append digits fun c start => (ends c start).1
  unfold decimal?
  simp only [span]
  split
  · exact absurd rfl (ends '.' rfl).2
  · rw [Numeral.natural?_of_digits filled digits]
    rfl

theorem decimal?_point {whole fraction rest : List Char} (filled : whole ≠ [])
    (digits : ∀ c ∈ whole, c.isDigit = true) (places : ∀ c ∈ fraction, c.isDigit = true)
    (ends : ∀ c ∈ rest.head?, c.isDigit = false) :
    decimal? (whole ++ '.' :: (fraction ++ rest)) =
      some (Nat.ofDigitChars 10 (whole ++ fraction) 0, fraction.length, rest) := by
  have point : ∀ c ∈ ('.' :: (fraction ++ rest)).head?, c.isDigit = false := by
    rintro c start
    cases start
    rfl
  have all : ∀ c ∈ whole ++ fraction, c.isDigit = true := fun c member =>
    (List.mem_append.mp member).elim (digits c) (places c)
  have read := Numeral.natural?_of_digits (List.append_ne_nil_of_left_ne_nil filled fraction) all
  simp only [decimal?, Json.Number.spanDigits_append digits point,
    Json.Number.spanDigits_append places ends, read,
    Option.map_some]

/-- The places hold the remainder, filled up with zeros. -/
theorem ofDigitChars_point {places : Nat} (positive : 0 < places) (n : Nat) :
    Nat.ofDigitChars 10
      (Decimal.digits (n / 10 ^ places) ++ Decimal.padded places (n % 10 ^ places)) 0 = n := by
  have fits : n % 10 ^ places < 10 ^ places := Nat.mod_lt n (by positivity)
  have fraction : Nat.ofDigitChars 10 (Decimal.padded places (n % 10 ^ places)) 0 =
      n % 10 ^ places := by
    rw [Decimal.padded, Nat.ofDigitChars_append, Nat.ofDigitChars_replicate_zero, Nat.mul_zero,
      Decimal.digits, Nat.ofDigitChars_ten_toDigits]
  rw [Nat.ofDigitChars_append, Nat.ofDigitChars_eq_ofDigitChars_zero, fraction,
    Decimal.length_padded positive fits, Decimal.digits, Nat.ofDigitChars_ten_toDigits]
  exact Nat.div_add_mod n (10 ^ places)

theorem decimal?_withPoint (places n : Nat) {rest : List Char}
    (ends : ∀ c ∈ rest.head?, c.isDigit = false ∧ c ≠ '.') :
    decimal? (Decimal.withPoint places n ++ rest) = some (n, places, rest) := by
  have filled (k : Nat) : Decimal.digits k ≠ [] := Nat.toDigits_ne_nil
  have digits (k : Nat) : ∀ c ∈ Decimal.digits k, c.isDigit = true :=
    fun c => Decimal.isDigit_of_mem_digits
  rcases Nat.eq_zero_or_pos places with rfl | positive
  · have read := decimal?_whole (filled n) (digits n) ends
    rwa [Decimal.digits, Nat.ofDigitChars_ten_toDigits] at read
  · have fits : n % 10 ^ places < 10 ^ places := Nat.mod_lt n (by positivity)
    have padded : ∀ c ∈ Decimal.padded places (n % 10 ^ places), c.isDigit = true := fun c =>
      Decimal.isDigit_of_mem_padded
    have read := decimal?_point (filled (n / 10 ^ places)) (digits _) padded fun c start =>
      (ends c start).1
    rw [ofDigitChars_point positive, Decimal.length_padded positive fits] at read
    rw [Decimal.withPoint, if_neg positive.ne', List.append_assoc]
    exact read

/-! ## Labels of rounded numbers -/

theorem ends_of_worth? {mark : List Char} {worth : Rat} (marked : worth? mark = some worth) :
    ∀ c ∈ mark.head?, c.isDigit = false ∧ c ≠ '.' := by
  unfold worth? at marked
  split at marked
  · nofun
  · rintro c start
    cases start
    decide
  · rintro c start
    cases start
    decide
  · cases marked

theorem isDigit_of_mem_head?_withPoint (places n : Nat) (rest : List Char) :
    ∀ c ∈ (Decimal.withPoint places n ++ rest).head?, c.isDigit = true := by
  obtain ⟨behind, same⟩ : ∃ behind,
      Decimal.withPoint places n ++ rest = Decimal.digits (n / 10 ^ places) ++ behind := by
    unfold Decimal.withPoint
    split
    · next none => exact ⟨rest, by rw [none, pow_zero, Nat.div_one]⟩
    · exact ⟨_, List.append_assoc _ _ _⟩
  have filled : Decimal.digits (n / 10 ^ places) ≠ [] := Nat.toDigits_ne_nil
  rw [same, List.head?_append_of_ne_nil _ filled]
  exact fun c start => Decimal.isDigit_of_mem_digits (List.mem_of_mem_head? start)

theorem splitSign_sign (negative : Bool) {cs : List Char}
    (digit : ∀ c ∈ cs.head?, c.isDigit = true) :
    Numeral.splitSign (Decimal.sign negative ++ cs) = (negative, cs) := by
  cases negative with
  | true => rfl
  | false =>
      change Numeral.splitSign cs = (false, cs)
      unfold Numeral.splitSign
      split
      · cases digit '-' rfl
      · cases digit '+' rfl
      · rfl

theorem ofLabel?_eq (negative : Bool) (places n : Nat) {mark : List Char} {worth : Rat}
    (marked : worth? mark = some worth) :
    ofLabel? (String.ofList (Decimal.sign negative ++ (Decimal.withPoint places n ++ mark))) =
      some ⟨(if negative then -n else n : Int) * (worth / 10 ^ places), worth / 10 ^ places⟩ := by
  rw [ofLabel?, String.toList_ofList,
    splitSign_sign negative (isDigit_of_mem_head?_withPoint places n mark)]
  dsimp only
  rw [decimal?_withPoint places n (ends_of_worth? marked)]
  simp only [Option.bind_eq_bind, Option.bind_some, marked]
  rfl

/-- An integer is shown in units of what its last place is worth. -/
theorem ofLabel?_text (n : Int) {mark : List Char} {worth : Rat}
    (marked : worth? mark = some worth) :
    ofLabel? (Numeral.text n ++ String.ofList mark) = some ⟨n * worth, worth⟩ := by
  have written : Numeral.text n ++ String.ofList mark =
      String.ofList (Decimal.sign (decide (n < 0)) ++ (Decimal.withPoint 0 n.natAbs ++ mark)) := by
    rw [Numeral.text, Numeral.chars, ← String.ofList_append, List.append_assoc]
    rfl
  have signed : (if decide (n < 0) then -(n.natAbs : Int) else n.natAbs) = n := by
    simp only [decide_eq_true_eq]
    omega
  rw [written, ofLabel?_eq _ _ _ marked, pow_zero, div_one, signed]

/-- What is written of a number with places is the nearest whole number of units, on both sides of
    zero. -/
theorem abs_signed_sub_le (places : Nat) (r : Rat) :
    let magnitude := Decimal.nearestEven (r.num.natAbs * 10 ^ places) r.den
    |((if decide (r < 0) then -magnitude else magnitude : Int) : Rat) - r * 10 ^ places| ≤
      1 / 2 := by
  intro magnitude
  have near := Decimal.abs_nearestEven_sub_le (r.num.natAbs * 10 ^ places) r.den_pos
  have absolute : |r| = (r.num.natAbs : Rat) / r.den := by
    rw [Rat.abs_def, Rat.divInt_eq_div]
    rfl
  rw [Nat.cast_mul, Nat.cast_pow, Nat.cast_ofNat, mul_div_right_comm, ← absolute] at near
  by_cases negative : r < 0
  · rw [abs_of_neg negative] at near
    have mirrored : ((-magnitude : Int) : Rat) - r * 10 ^ places =
        -(magnitude - -r * 10 ^ places) := by
      push_cast
      ring
    rw [decide_eq_true negative, if_pos rfl, mirrored, abs_neg]
    exact near
  · rw [abs_of_nonneg (not_lt.mp negative)] at near
    rw [decide_eq_false negative]
    exact_mod_cast near

theorem exists_ofLabel?_fixedText (places : Nat) (r : Rat) : ∃ n : Int,
    ofLabel? (Exact.fixedText places r ++ "%") = some ⟨n * (1 / 10 ^ places), 1 / 10 ^ places⟩ ∧
      Exact.Rounded n (r / (1 / 10 ^ places)) := by
  have percent : worth? ['%'] = some 1 := rfl
  have mark : "%" = String.ofList ['%'] := rfl
  rw [Exact.fixedText, Decimal.fixed, mark, ← String.ofList_append, List.append_assoc,
    ofLabel?_eq _ _ _ percent, div_div_eq_mul_div, div_one]
  exact ⟨_, rfl, .of_near (abs_signed_sub_le places r)⟩

end Figure

end LadderAtlas
