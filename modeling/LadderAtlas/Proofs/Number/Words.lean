import LadderAtlas.Number.Word
import Mathlib.Data.Int.Order.Basic
import Mathlib.Data.Nat.ModEq

/-! # Sums and products of words

Whatever the build, a result that is had is the exact one modulo the number of words, and it is had
where no step on the way leaves the words. A build that checks its arithmetic gives nothing but
exact results, and a release always gives one.
-/

namespace LadderAtlas.Word

variable {n m p : Nat} {rest : List Nat} {op : Nat → Nat → Nat}

theorem foldl_modEq (keeps : ∀ k k' t, k ≡ k' [MOD limit] → op k t ≡ op k' t [MOD limit])
    (same : n ≡ m [MOD limit]) (rest : List Nat) :
    rest.foldl op n ≡ rest.foldl op m [MOD limit] := by
  induction rest generalizing n m with
  | nil => exact same
  | cons t rest ih => exact ih (keeps n m t same)

theorem le_foldl (grows : ∀ t ∈ rest, ∀ k, k ≤ op k t) (n : Nat) : n ≤ rest.foldl op n := by
  induction rest generalizing n with
  | nil => exact Nat.le_refl n
  | cons t rest ih =>
      obtain ⟨here, later⟩ := List.forall_mem_cons.mp grows
      exact (here n).trans (ih later _)

variable [Build]

/-! ## Single results -/

theorem fit?_of_lt (below : n < limit) : fit? n = some n := if_pos below

theorem fit?_of_release (release : Build.overflow = .wraps) (n : Nat) :
    fit? n = some (n % limit) := by
  unfold fit?
  split
  · next below => rw [Nat.mod_eq_of_lt below]
  · rw [release]

/-- A release gives something in any case. -/
theorem exists_fit? (fits : Build.overflow = .stops → n < limit) : ∃ m, fit? n = some m := by
  cases build : Build.overflow with
  | stops => exact ⟨n, fit?_of_lt (fits build)⟩
  | wraps => exact ⟨_, fit?_of_release build n⟩

theorem fit?_eq_some_iff (checked : Build.overflow = .stops) :
    fit? n = some m ↔ n < limit ∧ n = m := by
  unfold fit?
  split
  · next below => simp [below]
  · next above => simp [checked, above]

theorem modEq_of_fit? (had : fit? n = some m) : m ≡ n [MOD limit] := by
  unfold fit? at had
  split at had
  · cases had
    rfl
  · split at had
    · cases had
    · cases had
      exact Nat.mod_modEq n limit

theorem lt_of_fit? (had : fit? n = some m) : m < limit := by
  unfold fit? at had
  split at had
  · next below =>
      cases had
      exact below
  · split at had
    · cases had
    · cases had
      exact Nat.mod_lt n (by decide)

/-! ## Steps in a row

A result is had step by step, and each step has to fit. What the steps are does not matter: they
keep what is the same modulo the number of words, or they do not go down. -/

theorem modEq_of_steps (keeps : ∀ k k' t, k ≡ k' [MOD limit] → op k t ≡ op k' t [MOD limit])
    (had : rest.foldlM (fun k t => fit? (op k t)) n = some p) :
    p ≡ rest.foldl op n [MOD limit] := by
  induction rest generalizing n with
  | nil =>
      cases had
      rfl
  | cons t rest ih =>
      obtain ⟨m, first, had⟩ := Option.bind_eq_some_iff.mp had
      exact (ih had).trans (foldl_modEq keeps (modEq_of_fit? first) rest)

theorem lt_of_steps {t : Nat} (had : (t :: rest).foldlM (fun k t => fit? (op k t)) n = some p) :
    p < limit := by
  induction rest generalizing n t with
  | nil =>
      obtain ⟨m, first, had⟩ := Option.bind_eq_some_iff.mp had
      cases had
      exact lt_of_fit? first
  | cons u rest ih =>
      obtain ⟨m, -, had⟩ := Option.bind_eq_some_iff.mp had
      exact ih had

theorem steps_eq_of_checked (checked : Build.overflow = .stops)
    (had : rest.foldlM (fun k t => fit? (op k t)) n = some p) : p = rest.foldl op n := by
  induction rest generalizing n with
  | nil =>
      cases had
      rfl
  | cons t rest ih =>
      obtain ⟨m, first, had⟩ := Option.bind_eq_some_iff.mp had
      obtain ⟨-, rfl⟩ := (fit?_eq_some_iff checked).mp first
      exact ih had

/-- Where no step goes down, all results on the way lie below the last one, so that it is enough if
    this one is a word. -/
theorem steps_of_lt (grows : ∀ t ∈ rest, ∀ k, k ≤ op k t) (below : rest.foldl op n < limit) :
    rest.foldlM (fun k t => fit? (op k t)) n = some (rest.foldl op n) := by
  induction rest generalizing n with
  | nil => rfl
  | cons t rest ih =>
      have later := (List.forall_mem_cons.mp grows).2
      have first : fit? (op n t) = some (op n t) := fit?_of_lt ((le_foldl later _).trans_lt below)
      rw [List.foldlM_cons, first]
      exact ih later below

theorem exists_steps (fits : Build.overflow = .stops →
      (∀ t ∈ rest, ∀ k, k ≤ op k t) ∧ rest.foldl op n < limit) :
    ∃ p, rest.foldlM (fun k t => fit? (op k t)) n = some p := by
  cases build : Build.overflow with
  | stops => exact ⟨_, steps_of_lt (fits build).1 (fits build).2⟩
  | wraps =>
      clear fits
      induction rest generalizing n with
      | nil => exact ⟨n, rfl⟩
      | cons t rest ih =>
          rw [List.foldlM_cons, fit?_of_release build]
          exact ih

/-! ## Products -/

theorem modEq_of_product? (had : product? n rest = some p) :
    p ≡ rest.foldl (· * ·) n [MOD limit] :=
  modEq_of_steps (fun _ _ f same => same.mul_right f) had

theorem lt_of_product? {f : Nat} (had : product? n (f :: rest) = some p) : p < limit :=
  lt_of_steps had

theorem product?_eq_of_checked (checked : Build.overflow = .stops)
    (had : product? n rest = some p) : p = rest.foldl (· * ·) n :=
  steps_eq_of_checked checked had

theorem exists_product? (fits : Build.overflow = .stops →
      (∀ f ∈ rest, 0 < f) ∧ rest.foldl (· * ·) n < limit) :
    ∃ p, product? n rest = some p :=
  exists_steps fun checked =>
    ⟨fun f member k => Nat.le_mul_of_pos_right k ((fits checked).1 f member), (fits checked).2⟩

theorem product?_singleton (n f : Nat) : product? n [f] = fit? (n * f) := by
  simp [product?]

/-! ## Sums -/

theorem modEq_of_sum? (had : sum? n rest = some p) : p ≡ rest.foldl (· + ·) n [MOD limit] :=
  modEq_of_steps (fun _ _ t same => same.add_right t) had

theorem lt_of_sum? {t : Nat} (had : sum? n (t :: rest) = some p) : p < limit :=
  lt_of_steps had

theorem exists_sum? (fits : Build.overflow = .stops → rest.foldl (· + ·) n < limit) :
    ∃ p, sum? n rest = some p :=
  exists_steps fun checked => ⟨fun t _ k => Nat.le_add_right k t, fits checked⟩

theorem sum?_singleton (n t : Nat) : sum? n [t] = fit? (n + t) := by
  simp [sum?]

/-! ## Differences -/

theorem minus?_of_release (release : Build.overflow = .wraps) (a b : Int64) :
    minus? a b = some (a - b) := by
  rw [minus?, release]

theorem toInt_of_minus? (checked : Build.overflow = .stops) {a b d : Int64}
    (had : minus? a b = some d) :
    d.toInt = a.toInt - b.toInt := by
  unfold minus? at had
  rw [checked] at had
  dsimp only at had
  split at had
  · next exact' =>
      cases had
      exact exact'
  · cases had

end LadderAtlas.Word
