import LadderAtlas.Config
import LadderAtlas.Proofs.Number.Specials
import LadderAtlas.Proofs.Results

/-! # The height of a canvas

A configuration is checked with comparisons only, and a configured size may be any double. The
height that is made of it is never below the least height where that is a number, so it is above
zero. It may be infinite: the checks let infinities pass, and the product of a width and an aspect
may overflow.
-/

namespace LadderAtlas

open Binary64

/-- What a configuration that reads has passed. -/
theorem Config.sizes_of_parse {text : String} {c : Config} (parsed : parse text = .ok c) :
    ¬ c.graph.aspect ≤ 0 ∧ ¬ c.graph.minHeight ≤ 0 := by
  unfold parse at parsed
  cases read : Toml.parse? text >>= ofValue? with
  | none =>
      rw [read] at parsed
      cases parsed
  | some d =>
      rw [read] at parsed
      dsimp only at parsed
      cases checked : d.validate with
      | error fault =>
          rw [checked] at parsed
          cases parsed
      | ok done =>
          rw [checked] at parsed
          cases parsed
          obtain ⟨_, _, checked⟩ := exists_of_bind_eq_ok checked
          obtain ⟨_, _, checked⟩ := exists_of_bind_eq_ok checked
          split at checked
          · cases checked
          · split at checked
            · cases checked
            · next tall =>
                split at checked
                · cases checked
                · next high => exact ⟨tall, high⟩

namespace Graph

variable {options : GraphOptions Float} {width : Float}

/-- A least height that is a number gives way only to more. -/
theorem canvasHeight_cases (known : options.minHeight.isNaN = false) (width : Float) :
    (options.minHeight < round (width * options.aspect) ∧
        canvasHeight options width = round (width * options.aspect)) ∨
      (¬ options.minHeight < round (width * options.aspect) ∧
        canvasHeight options width = options.minHeight) := by
  have known' : ¬ Scalar.isNaN options.minHeight = true := by
    change ¬ options.minHeight.isNaN = true
    rw [known]
    exact Bool.false_ne_true
  unfold canvasHeight Scalar.max
  rw [if_neg known']
  by_cases more : options.minHeight < round (width * options.aspect)
  · exact .inl ⟨more, if_pos more⟩
  · exact .inr ⟨more, if_neg more⟩

theorem minHeight_le_canvasHeight (known : options.minHeight.isNaN = false) :
    options.minHeight ≤ canvasHeight options width := by
  obtain ⟨more, height⟩ | ⟨-, height⟩ := canvasHeight_cases known width
  · rw [height]
    exact le_of_lt more
  · rw [height]
    exact le_self known

theorem zero_lt_canvasHeight (known : options.minHeight.isNaN = false)
    (high : ¬ options.minHeight ≤ 0) :
    0 < canvasHeight options width := by
  have positive : 0 < options.minHeight := zero_lt_of_not_le known high
  obtain ⟨more, height⟩ | ⟨-, height⟩ := canvasHeight_cases known width
  · rw [height]
    exact zero_lt_of_lt positive more
  · rwa [height]

/-- A canvas is infinitely high where the least height is, or else where its width times the aspect
    is infinite. -/
theorem isFinite_canvasHeight_iff (known : options.minHeight.isNaN = false)
    (high : ¬ options.minHeight ≤ 0) (tall : ¬ options.aspect ≤ 0) (finite : width.isFinite = true)
    (nonneg : 0 ≤ width) :
    (canvasHeight options width).isFinite = true ↔ options.minHeight.isFinite = true ∧
      ((width * options.aspect).isFinite = true ∨ (width * options.aspect).isNaN = true) := by
  have positive : 0 < options.minHeight := zero_lt_of_not_le known high
  -- What is not finite is not rounded.
  have same (infinite : (width * options.aspect).isFinite = false) :
      round (width * options.aspect) = width * options.aspect := toWhole_of_not_finite infinite _
  obtain ⟨more, height⟩ | ⟨less, height⟩ := canvasHeight_cases known width
  · rw [height, isFinite_round]
    constructor
    · intro product
      exact ⟨isFinite_of_lt (isFinite_round.trans product) positive more, .inl product⟩
    · rintro ⟨-, product | nan⟩
      · exact product
      · by_contra infinite
        rw [Bool.not_eq_true] at infinite
        rw [same infinite] at more
        exact not_lt_of_isNaN nan more
  · rw [height]
    refine ⟨fun least => ⟨least, ?_⟩, And.left⟩
    rcases mul_cases finite nonneg tall with product | nan | infinite
    · exact .inl product
    · exact .inr nan
    · have unbounded : (width * options.aspect).isFinite = false := by
        change (width * options.aspect).toModel.unpack.isFinite = false
        rw [infinite]
        rfl
      rw [same unbounded] at less
      exact absurd (lt_of_infinity least infinite) less

/-- With a configuration that reads, and a least height that is a number, the canvas of a graph is
    higher than nothing and not lower than the least height. It is finite unless the least height is
    infinite or the width times the aspect is, and that product does not overflow below half a last
    place past the largest double. -/
theorem height_of_parsed {κ : Type} {text : String} {c : Config}
    (parsed : Config.parse text = .ok c) (known : c.graph.minHeight.isNaN = false)
    (page : Page Float) (settings : Settings) (finite : page.width.isFinite = true)
    (nonneg : 0 ≤ page.width) :
    let height := (new c.graph page settings : Graph κ Float).plot.height
    0 < height ∧ c.graph.minHeight ≤ height ∧
      (height.isFinite = true ↔ c.graph.minHeight.isFinite = true ∧
        ((page.width * c.graph.aspect).isFinite = true ∨
          (page.width * c.graph.aspect).isNaN = true)) ∧
      (c.graph.minHeight.isFinite = true → c.graph.aspect.isFinite = true →
        rational page.width * rational c.graph.aspect < overflow → height.isFinite = true) := by
  obtain ⟨tall, high⟩ := Config.sizes_of_parse parsed
  intro height
  have set : height = canvasHeight c.graph page.width := by
    change canvasHeight c.graph (page.tell .wait).width = _
    rfl
  rw [set]
  have finite_iff := isFinite_canvasHeight_iff known high tall finite nonneg
  refine ⟨zero_lt_canvasHeight known high, minHeight_le_canvasHeight known, finite_iff, ?_⟩
  intro least aspect small
  have product : 0 ≤ rational page.width * rational c.graph.aspect :=
    mul_nonneg (zero_le_rational finite nonneg)
      (zero_le_rational aspect (le_of_lt (zero_lt_of_not_le (isNaN_of_isFinite aspect) tall)))
  rw [← abs_of_nonneg product] at small
  exact finite_iff.mpr ⟨least, .inl (isFinite_mul_of_abs_lt finite aspect small)⟩

/-- No aspect at all, and the least size there is: a canvas of any width is still higher than
    nothing. -/
theorem height_of_parsed_least :
    ∃ c, Config.parse "[graph]\naspect = nan\nmin_height = 5e-324\n" = .ok c ∧
      let height := (new c.graph (.ofWidth 1000) .empty : Graph Unit Float).plot.height
      0 < height ∧ c.graph.minHeight ≤ height ∧ height.isFinite = true := by
  have computed : ((Config.parse "[graph]\naspect = nan\nmin_height = 5e-324\n").map fun c =>
      (c.graph.minHeight.isNaN, c.graph.minHeight.isFinite,
        ((Page.ofWidth 1000).width * c.graph.aspect).isNaN)).toOption =
          some (false, true, true) := by
    decide +kernel
  obtain ⟨c, parsed, sizes⟩ := exists_of_toOption_map_eq_some computed
  simp only [Prod.mk.injEq] at sizes
  obtain ⟨known, least, nan⟩ := sizes
  obtain ⟨positive, above, finite, -⟩ :=
    height_of_parsed (κ := Unit) parsed known (.ofWidth 1000) .empty
      (by decide +kernel) (by decide +kernel)
  exact ⟨c, parsed, positive, above, finite.mpr ⟨least, .inr nan⟩⟩

/-- An infinite aspect passes the checks, and no canvas is as high. Nor is a least height refused
    that is no number, and then a page without room has a canvas without height. -/
theorem infinite_or_no_height_of_parsed :
    (∃ c, Config.parse "[graph]\naspect = inf\n" = .ok c ∧
      (new c.graph (.ofWidth 1000) .empty : Graph Unit Float).plot.height.isFinite = false) ∧
    ∃ c, Config.parse "[graph]\nmin_height = nan\n" = .ok c ∧
      ¬ 0 < (new c.graph (.ofWidth 0) .empty : Graph Unit Float).plot.height := by
  have infinite : ((Config.parse "[graph]\naspect = inf\n").map fun c =>
      (new c.graph (.ofWidth 1000) .empty : Graph Unit Float).plot.height.isFinite).toOption =
        some false := by
    decide +kernel
  have flat : ((Config.parse "[graph]\nmin_height = nan\n").map fun c =>
      decide (0 < (new c.graph (.ofWidth 0) .empty : Graph Unit Float).plot.height)).toOption =
        some false := by
    decide +kernel
  obtain ⟨c, parsed, height⟩ := exists_of_toOption_map_eq_some infinite
  obtain ⟨d, parsed', height'⟩ := exists_of_toOption_map_eq_some flat
  exact ⟨⟨c, parsed, height⟩, d, parsed', of_decide_eq_false height'⟩

end Graph

end LadderAtlas
