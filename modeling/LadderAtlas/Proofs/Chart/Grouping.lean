import LadderAtlas.Chart.Format
import LadderAtlas.Proofs.Number.Numerals
import LadderAtlas.Proofs.Number.WholeNumbers

/-! # Counts in groups of three digits

The blanks in a written count are no part of its numeral: without them the numeral of the whole
number is left, so a text says which number it stands for. They cut the digits into threes from the
right and stand between two digits each.
-/

namespace LadderAtlas.Format

/-- Digits cut from the right into groups of three, of which the first may be shorter. -/
structure InThrees (digits first : List Char) (others : List (List Char)) : Prop where
  whole : first ++ others.flatten = digits
  filled : first ≠ []
  short : first.length ≤ 3
  three : ∀ group ∈ others, group.length = 3

namespace InThrees

variable {ds first : List Char} {others : List (List Char)}

theorem length_eq (cut : InThrees ds first others) :
    ds.length = first.length + 3 * others.length := by
  have lengths : others.map List.length = List.replicate others.length 3 :=
    List.eq_replicate_iff.mpr ⟨List.length_map _, by simpa using cut.three⟩
  rw [← cut.whole, List.length_append, List.length_flatten, lengths, List.sum_replicate,
    smul_eq_mul, Nat.mul_comm]

theorem single (c : Char) : InThrees [c] [c] [] := ⟨rfl, List.cons_ne_nil c [], by simp, nofun⟩

/-- Groups that are all full leave the next digit to a group of its own. -/
theorem cons_of_full (cut : InThrees ds first others) (full : ds.length % 3 = 0) (c : Char) :
    InThrees (c :: ds) [c] (first :: others) where
  whole := congrArg (c :: ·) cut.whole
  filled := List.cons_ne_nil c []
  short := by simp
  three := by
    have length := cut.length_eq
    have some := List.length_pos_iff.mpr cut.filled
    have short := cut.short
    exact List.forall_mem_cons.mpr ⟨by omega, cut.three⟩

/-- A first group that is not full takes the next digit. -/
theorem cons_of_not_full (cut : InThrees ds first others) (room : ds.length % 3 ≠ 0) (c : Char) :
    InThrees (c :: ds) (c :: first) others where
  whole := congrArg (c :: ·) cut.whole
  filled := List.cons_ne_nil c first
  short := by
    have length := cut.length_eq
    have short := cut.short
    rw [List.length_cons]
    omega
  three := cut.three

end InThrees

variable {ds : List Char}

theorem grouped_cons_of_full {c : Char} (some : ds ≠ []) (full : ds.length % 3 = 0) :
    grouped (c :: ds) = c :: ' ' :: grouped ds := by
  simp [grouped, some, full]

theorem grouped_cons_of_not_full {c : Char} (room : ds.length % 3 ≠ 0) :
    grouped (c :: ds) = c :: grouped ds := by
  simp [grouped, room]

theorem cons_intercalate (separator : List Char) (c : Char) (first : List Char)
    (others : List (List Char)) :
    separator.intercalate ((c :: first) :: others) =
      c :: separator.intercalate (first :: others) := by
  cases others with
  | nil => simp only [List.intercalate_singleton]
  | cons second others => simp only [List.intercalate_cons_cons, List.cons_append]

/-- The induction is on the digits from the left, so the first group is the one that grows. -/
theorem exists_inThrees (some : ds ≠ []) : ∃ first others,
    InThrees ds first others ∧ grouped ds = [' '].intercalate (first :: others) := by
  induction ds with
  | nil => exact absurd rfl some
  | cons c ds ih =>
      by_cases last : ds = []
      · subst last
        exact ⟨[c], [], .single c, List.intercalate_singleton.symm⟩
      obtain ⟨first, others, cut, written⟩ := ih last
      by_cases full : ds.length % 3 = 0
      · refine ⟨[c], first :: others, cut.cons_of_full full c, ?_⟩
        rw [grouped_cons_of_full last full, List.intercalate_cons_cons, written]
        rfl
      · refine ⟨c :: first, others, cut.cons_of_not_full full c, ?_⟩
        rw [grouped_cons_of_not_full full, cons_intercalate, written]

theorem blank_no_digit {c : Char} (digit : c.isDigit = true) : c ≠ ' ' := by
  rintro rfl
  cases digit

theorem filter_grouped (digits : ∀ c ∈ ds, c.isDigit = true) :
    (grouped ds).filter (· != ' ') = ds := by
  induction ds with
  | nil => rfl
  | cons c ds ih =>
      obtain ⟨digit, digits⟩ := List.forall_mem_cons.mp digits
      have kept : c ≠ ' ' := blank_no_digit digit
      rw [grouped]
      split <;> simp [kept, ih digits]

theorem head?_grouped (ds : List Char) : (grouped ds).head? = ds.head? := by
  cases ds with
  | nil => rfl
  | cons c ds =>
      rw [grouped]
      split <;> rfl

theorem getLast?_grouped (ds : List Char) : (grouped ds).getLast? = ds.getLast? := by
  induction ds with
  | nil => rfl
  | cons c ds ih =>
      by_cases last : ds = []
      · rw [last]
        rfl
      by_cases full : ds.length % 3 = 0
      · rw [grouped_cons_of_full last full]
        simp [List.getLast?_cons, ih, List.getLast?_eq_some_getLast last]
      · rw [grouped_cons_of_not_full full]
        simp [List.getLast?_cons, ih]

/-- What comes after a blank is no blank. -/
theorem isChain_grouped (digits : ∀ c ∈ ds, c.isDigit = true) :
    (grouped ds).IsChain fun c d => c = ' ' → d ≠ ' ' := by
  induction ds with
  | nil => exact .nil
  | cons c ds ih =>
      obtain ⟨digit, digits⟩ := List.forall_mem_cons.mp digits
      have noBlank : ∀ d ∈ (grouped ds).head?, d ≠ ' ' := fun d head =>
        blank_no_digit (digits d (List.mem_of_mem_head? (head?_grouped ds ▸ head)))
      rw [grouped]
      split
      · refine (List.IsChain.cons (ih digits) fun d head _ => noBlank d head).cons
          fun d _ blank => ?_
        exact absurd blank (blank_no_digit digit)
      · exact (ih digits).cons fun d _ blank => absurd blank (blank_no_digit digit)

/-! ## Written integers -/

theorem filter_groupedInt (n : Int) : (groupedInt n).filter (· != ' ') = Numeral.chars n := by
  have sign : (Decimal.sign (decide (n < 0))).filter (· != ' ') = Decimal.sign (decide (n < 0)) :=
    List.filter_eq_self.mpr fun c member => by rw [Decimal.mem_sign member]; decide
  rw [groupedInt, List.filter_append, sign, filter_grouped fun c => Decimal.isDigit_of_mem_digits,
    Numeral.chars]

theorem head?_groupedInt (n : Int) : (groupedInt n).head? = (Numeral.chars n).head? := by
  rw [groupedInt, Numeral.chars, List.head?_append, List.head?_append, head?_grouped]

theorem getLast?_groupedInt (n : Int) : (groupedInt n).getLast? = (Numeral.chars n).getLast? := by
  rw [groupedInt, Numeral.chars, List.getLast?_append, List.getLast?_append, getLast?_grouped]

theorem groupedInt_injective : Function.Injective groupedInt := by
  intro m n same
  apply Numeral.chars_injective
  rw [← filter_groupedInt, same, filter_groupedInt]

theorem not_blanks_groupedInt (n : Int) : ¬[' ', ' '] <:+: groupedInt n := by
  intro doubled
  have digits : ∀ c ∈ Decimal.digits n.natAbs, c.isDigit = true :=
    fun c => Decimal.isDigit_of_mem_digits
  have chain : (groupedInt n).IsChain fun c d => c = ' ' → d ≠ ' ' := by
    rw [groupedInt, List.isChain_append]
    refine ⟨?_, isChain_grouped digits, ?_⟩
    · cases decide (n < 0) with
      | false => exact .nil
      | true => exact .singleton '-'
    · intro c last d _ blank
      have minus : c = '-' := Decimal.mem_sign (List.mem_of_mem_getLast? last)
      cases minus.symm.trans blank
  exact List.isChain_pair.mp ( List.IsChain.infix chain doubled) rfl rfl

/-- A text is the numeral of an integer with its digits in groups of three. -/
structure Spells (text : String) (n : Int) : Prop where
  numeral : text.toList.filter (· != ' ') = (toString n).toList
  minus : text.toList.head? = some '-' ↔ n < 0
  groups : ∃ first others, InThrees (Nat.toDigits 10 n.natAbs) first others ∧
    text = (if n < 0 then "-" else "") ++ " ".intercalate ((first :: others).map String.ofList)
  leading : text.toList.head? ≠ some ' '
  trailing : text.toList.getLast? ≠ some ' '
  doubled : ¬[' ', ' '] <:+: text.toList

theorem blank_notMem_chars (n : Int) : ' ' ∉ Numeral.chars n := by
  intro member
  rcases Numeral.mem_chars member with minus | digit
  · cases minus
  · exact blank_no_digit digit rfl

theorem spells_groupedInt (n : Int) : Spells (String.ofList (groupedInt n)) n where
  numeral := by rw [String.toList_ofList, filter_groupedInt, Numeral.chars_eq_toString]
  minus := by
    rw [String.toList_ofList, head?_groupedInt]
    exact Numeral.head?_chars_eq_minus_iff
  groups := by
    have some : Decimal.digits n.natAbs ≠ [] := Nat.toDigits_ne_nil
    obtain ⟨first, others, cut, written⟩ := exists_inThrees some
    have sign : Decimal.sign (decide (n < 0)) = (if n < 0 then "-" else "").toList := by
      by_cases negative : n < 0 <;> simp [Decimal.sign, negative]
    refine ⟨first, others, cut, String.toList_injective ?_⟩
    rw [String.toList_ofList, groupedInt, written, sign, String.toList_append,
      String.toList_intercalate, List.map_map]
    simp [Function.comp_def]
  leading := by
    rw [String.toList_ofList, head?_groupedInt]
    exact fun head => blank_notMem_chars n (List.mem_of_mem_head? head)
  trailing := by
    rw [String.toList_ofList, getLast?_groupedInt]
    exact fun last => blank_notMem_chars n (List.mem_of_mem_getLast? last)
  doubled := by
    rw [String.toList_ofList]
    exact not_blanks_groupedInt n

/-- The text of a count spells the whole number that is nearest to it, as far as 64 bits go. -/
theorem count_exact (x : Float) :
    Spells (count x) (Scalar.nearestInt64 x) ∧
    (x.isFinite = true → Scalar.nearestInt64 x =
      max (-0x8000_0000_0000_0000)
        (min 0x7FFF_FFFF_FFFF_FFFF (Exact.nearest (Binary64.rational x)))) ∧
    (x.isFinite = false → Scalar.nearestInt64 x =
      if 0 < x then 0x7FFF_FFFF_FFFF_FFFF else if x < 0 then -0x8000_0000_0000_0000 else 0) ∧
    ∀ y : Float, count x = count y ↔ Scalar.nearestInt64 x = Scalar.nearestInt64 y := by
  refine ⟨spells_groupedInt _, Binary64.nearestInt64_of_finite,
    Binary64.nearestInt64_of_not_finite, fun y => ?_⟩
  refine ⟨fun same => groupedInt_injective ?_, fun same =>
    congrArg (String.ofList ∘ groupedInt) same⟩
  exact String.ofList_injective same

/-- A half goes away from zero, and what is below all integers of 64 bits is written as the least of
    them. -/
theorem count_exact_below_zero :
    let half : Float := -12345.5
    let far : Float := -1 / 0
    half.isFinite = true ∧ Exact.nearest (Binary64.rational half) = -12346 ∧
      (count half).toList.filter (· != ' ') = "-12346".toList ∧ count half = "-12 346" ∧
      far.isFinite = false ∧ far < 0 ∧
      (count far).toList.filter (· != ' ') = "-9223372036854775808".toList ∧
      count far = "-9 223 372 036 854 775 808" ∧ count half ≠ count far := by
  intro half far
  obtain ⟨spells, finite, -, alike⟩ := count_exact half
  obtain ⟨farSpells, -, infinite, -⟩ := count_exact far
  have isFinite : half.isFinite = true := by decide +kernel
  have isFar : far.isFinite = false := by decide +kernel
  have nearest : Exact.nearest (Binary64.rational half) = -12346 := by decide +kernel
  have below : ¬0 < far ∧ far < 0 := by decide +kernel
  have n := finite isFinite
  rw [nearest] at n
  have least := infinite isFar
  rw [if_neg below.1, if_pos below.2] at least
  refine ⟨isFinite, nearest, ?_, by decide +kernel, isFar, below.2, ?_, by decide +kernel, ?_⟩
  · rw [spells.numeral, n]
    decide
  · rw [farSpells.numeral, least]
    decide
  · rw [ne_eq, alike far, n, least]
    decide

end LadderAtlas.Format
