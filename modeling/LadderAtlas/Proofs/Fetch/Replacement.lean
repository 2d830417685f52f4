import LadderAtlas.Proofs.Fetch.Lasting

/-! # A replacement is never lost

The cell of a replacement is settled from the start and is the only one that callers are given from
then on. Answers that were still on their way settle the cells that they were asked for, which
nobody who comes later is given.
-/

namespace LadderAtlas

namespace Traffic

variable {catalog : Catalog} {owners : List Id} {t t' : Traffic} {μ : Move} {moves : List Move}

/-- A cell that is there is settled by an answer. -/
theorem settled_move (effect : Effect catalog t μ t') {c : Nat}
    {result : FetchedMode} (there : c < t.store.cells.length)
    (settled : t'.store.cells[c]? = some (.settled result)) :
    t.store.cells[c]? = some (.settled result) ∨ ∃ i m answer, μ = .answer i answer ∧
      result = Store.check catalog m answer ∧ t'.calls[i]? = some (.returned m c result) := by
  have added {mode : Id} {new : Cell}
      (settled : (t.store.add mode new).1.cells[c]? = some (.settled result)) :
      t.store.cells[c]? = some (.settled result) := by
    rwa [Store.cells_add, if_neg (Nat.ne_of_lt there)] at settled
  cases effect with
  | come | share | read | refuse | look => exact .inl settled
  | found | replace => exact .inl (added settled)
  | @ask call mode cell holding idle =>
      left
      by_cases same : cell = c
      · subst same
        have loading : some Cell.loading = some (.settled result) :=
          (Store.cells_put_self there).symm.trans settled
        cases loading
      · exact (Store.cells_put_other same).symm.trans settled
  | @answer call mode cell asking answer =>
      by_cases same : cell = c
      · subst same
        have now : some (Cell.settled (Store.check catalog mode answer)) = some (.settled result) :=
          (Store.cells_put_self there).symm.trans settled
        cases now
        exact .inr ⟨call, mode, answer, rfl, rfl, calls_put_self asking⟩
      · exact .inl ((Store.cells_put_other same).symm.trans settled)

end Traffic

end LadderAtlas
