import LadderAtlas.Proofs.Fetch.Orderly

/-! # What lasts while calls go on

A move changes no cell but the one of its own call, and a settled cell never. A call keeps its mode
and its cell, and stays as it is once it has returned. The current cell of a mode changes only with
a replacement of the mode, so that without one all calls come to the same cell.
-/

namespace LadderAtlas

namespace Traffic

variable {catalog : Catalog} {owners : List Id} {t t' : Traffic} {μ : Move}

/-- Cells stay as they are, but for the cell of the call that makes the move, and that one only
    until it is settled. -/
theorem Orderly.cells_move (h : Orderly owners t) (effect : Effect catalog t μ t') {c : Nat}
    {state : Cell} (was : t.store.cells[c]? = some state) :
    t'.store.cells[c]? = some state ∨ μ.mode? t = owners[c]? ∧ ∀ result,
      state ≠ .settled result := by
  have there : c < t.store.cells.length := (List.getElem?_eq_some_iff.mp was).1
  have added (mode : Id) (new : Cell) : (t.store.add mode new).1.cells[c]? = some state := by
    rw [Store.cells_add, if_neg (Nat.ne_of_lt there), was]
  cases effect with
  | come | share | read | refuse | look => exact .inl was
  | found | replace => exact .inl (added _ _)
  | @ask call mode cell holding idle =>
      by_cases same : cell = c
      · subst same
        rw [idle] at was
        cases was
        have owner := (h.calls call _ holding).owner cell rfl
        exact .inr ⟨by simp [Move.mode?, holding, owner, Call.mode], nofun⟩
      · left
        change (t.store.put cell .loading).cells[c]? = some state
        rw [Store.cells_put_other same, was]
  | @answer call mode cell asking answer =>
      by_cases same : cell = c
      · subst same
        rw [(h.calls call _ asking).loading mode cell rfl] at was
        cases was
        have owner := (h.calls call _ asking).owner cell rfl
        exact .inr ⟨by simp [Move.mode?, asking, owner, Call.mode], nofun⟩
      · left
        change (t.store.settle cell _).cells[c]? = some state
        rw [Store.settle, Store.cells_put_other same, was]

/-- The current cell of a mode changes only by a move about the mode: it gets its first one, or it
    is replaced. -/
theorem current_move (effect : Effect catalog t μ t') (m : Id) :
    t'.store.current.get? m = t.store.current.get? m ∨
      μ.mode? t = some m ∧ (t.store.current.get? m = none ∨ μ.Replaces catalog m) := by
  have added (mode : Id) (new : Cell) :
      (t.store.add mode new).1.current.get? m = t.store.current.get? m ∨ mode = m := by
    rw [Store.current_add]
    split
    · next same => exact .inr same
    · exact .inl rfl
  cases effect with
  | come | share | ask | answer | read | refuse | look => exact .inl rfl
  | @found call mode wanting vacant =>
      rcases added mode .idle with same | rfl
      · exact .inl same
      · exact .inr ⟨by simp [Move.mode?, wanting, Call.mode], .inl vacant⟩
  | @replace mode snapshots loaded fits =>
      rcases added mode (.settled (.ok loaded)) with same | rfl
      · exact .inl same
      · exact .inr ⟨rfl, .inr ⟨rfl, loaded, fits⟩⟩

section Runs

variable {moves : List Move}

/-- `run?_induction` for orderly traffic. -/
theorem Orderly.run_induction {P : Traffic → Prop} (h : Orderly owners t)
    (run : t.run? catalog moves = some t') (start : P t)
    (step : ∀ u μ u' now, μ ∈ moves → Orderly now u → P u → Effect catalog u μ u' → P u') :
    P t' := by
  have both : P t' ∧ ∃ now, Orderly now t' := by
    refine run?_induction (P := fun u => P u ∧ ∃ now, Orderly now u) run ⟨start, owners, h⟩ ?_
    rintro u μ u' member ⟨hu, now, orderly⟩ effect
    obtain ⟨more, next⟩ := orderly.move effect
    exact ⟨step u μ u' now member orderly hu effect, now ++ more, next⟩
  exact both.1

end Runs

end Traffic

end LadderAtlas
