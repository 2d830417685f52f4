import LadderAtlas.Fetch.Schedule

/-! # What moves do

`Effect` lists all that a move can do to a store and its calls, with the conditions under which it
can be made. What holds of runs is proved by going through this list once, and by induction over the
moves.
-/

namespace LadderAtlas

namespace Store

theorem start?_eq_some_iff {s s' : Store} {cell : Nat} :
    s.start? cell = some s' ↔ s.cells[cell]? = some .idle ∧ s' = s.put cell .loading := by
  unfold start?
  split
  · next idle => simp [idle, eq_comm]
  · next other =>
      constructor
      · intro h
        cases h
      · rintro ⟨idle, -⟩
        exact absurd idle other

theorem result?_eq_some_iff {s : Store} {cell : Nat} {result : FetchedMode} :
    s.result? cell = some result ↔ s.cells[cell]? = some (.settled result) := by
  unfold result?
  split
  · next settled => simp [settled]
  · next other =>
      constructor
      · intro h
        cases h
      · intro settled
        exact absurd settled (other result)

theorem loaded?_eq_some_iff {s : Store} {mode : Id} {cell : Nat} {loaded : Mode Float} :
    s.loaded? mode = some (cell, loaded) ↔
      s.current.get? mode = some cell ∧ s.cells[cell]? = some (.settled (.ok loaded)) := by
  constructor
  · intro h
    simp only [loaded?, Option.bind_eq_bind, Option.bind_eq_some_iff] at h
    obtain ⟨c, hc, r, hr, found⟩ := h
    cases r with
    | error e => cases found
    | ok m =>
        cases found
        exact ⟨hc, result?_eq_some_iff.mp hr⟩
  · rintro ⟨hc, settled⟩
    simp [loaded?, hc, result?_eq_some_iff.mpr settled]

theorem cells_put_self {s : Store} {cell : Nat} {state : Cell} (there : cell < s.cells.length) :
    (s.put cell state).cells[cell]? = some state := by
  simp [put, there]

theorem cells_put_other {s : Store} {cell c : Nat} {state : Cell} (other : cell ≠ c) :
    (s.put cell state).cells[c]? = s.cells[c]? := by
  simp [put, other]

theorem cells_add (s : Store) (mode : Id) (state : Cell) (c : Nat) :
    (s.add mode state).1.cells[c]? = if c = s.cells.length then some state else s.cells[c]? := by
  simp only [add, List.getElem?_append, List.getElem?_singleton]
  grind

theorem current_add (s : Store) (mode m : Id) (state : Cell) :
    (s.add mode state).1.current.get? m =
      if mode = m then some s.cells.length else s.current.get? m :=
  Keyed.get?_insert s.current mode m s.cells.length

theorem take_of_current {s : Store} {mode : Id} {cell : Nat} (h : s.current.get? mode = some cell) :
    s.take mode = (s, cell) := by
  simp [take, h]

theorem take_of_vacant {s : Store} {mode : Id} (h : s.current.get? mode = none) :
    s.take mode = s.add mode .idle := by
  simp [take, h]

end Store

/-- The cell that a call has to do with. -/
def Call.cell? : Call → Option Nat
  | .holding _ cell | .asking _ cell | .returned _ cell _ | .replaced _ (.ok (cell, _))
  | .looked _ (some (cell, _)) => some cell
  | .wanting _ | .replaced _ (.error _) | .looked _ none => none

/-- What a call has returned, with the cell that it comes from. -/
def Call.gave? : Call → Option (Nat × FetchedMode)
  | .returned _ cell result => some (cell, result)
  | .replaced _ (.ok (cell, loaded)) | .looked _ (some (cell, loaded)) => some (cell, .ok loaded)
  | .wanting _ | .holding .. | .asking .. | .replaced _ (.error _) | .looked _ none => none

/-- Whether a call has returned. -/
def Call.isDone : Call → Bool
  | .returned .. | .replaced .. | .looked .. => true
  | .wanting _ | .holding .. | .asking .. => false

/-- The mode that a call is about. -/
def Call.mode : Call → Id
  | .wanting mode | .holding mode _ | .asking mode _ | .returned mode _ _ | .replaced mode _
  | .looked mode _ => mode

namespace Traffic

/-- The move replaces the mode by snapshots that fit the catalog. -/
def Move.Replaces (catalog : Catalog) (mode : Id) : Move → Prop
  | .replace m snapshots =>
    m = mode ∧ ∃ loaded, Store.check catalog mode (.ok snapshots) = .ok loaded
  | _ => False

/-- The mode that a move is about: its call's, where it is a step of a call. -/
def Move.mode? (t : Traffic) : Move → Option Id
  | .come mode | .replace mode _ | .look mode => some mode
  | .take call | .ask call | .answer call _ | .read call => (t.calls[call]?).map Call.mode

/-- What a move can do, by the state that it finds. -/
inductive Effect (catalog : Catalog) (t : Traffic) : Move → Traffic → Prop where
  | come (mode : Id) : Effect catalog t (.come mode) { t with calls := t.calls ++ [.wanting mode] }
  /-- The mode has a cell, which is shared. -/
  | share {call : Nat} {mode : Id} {cell : Nat} (wanting : t.calls[call]? = some (.wanting mode))
      (current : t.store.current.get? mode = some cell) :
      Effect catalog t (.take call) (t.put call (.holding mode cell))
  /-- The mode has no cell and is given an idle one. -/
  | found {call : Nat} {mode : Id} (wanting : t.calls[call]? = some (.wanting mode))
      (vacant : t.store.current.get? mode = none) :
      Effect catalog t (.take call)
        ({ t with store := (t.store.add mode .idle).1 }.put call
          (.holding mode t.store.cells.length))
  | ask {call : Nat} {mode : Id} {cell : Nat} (holding : t.calls[call]? = some (.holding mode cell))
      (idle : t.store.cells[cell]? = some .idle) :
      Effect catalog t (.ask call)
        ({ t with store := t.store.put cell .loading, asked := mode :: t.asked }.put call
          (.asking mode cell))
  | answer {call : Nat} {mode : Id} {cell : Nat}
      (asking : t.calls[call]? = some (.asking mode cell))
      {answer : Except FetchError (List (Snapshot Float))}
      (survived : Store.panics (Store.check catalog mode answer) = false) :
      Effect catalog t (.answer call answer)
        ({ t with store := t.store.settle cell (Store.check catalog mode answer) }.put call
          (.returned mode cell (Store.check catalog mode answer)))
  | read {call : Nat} {mode : Id} {cell : Nat} {result : FetchedMode}
      (holding : t.calls[call]? = some (.holding mode cell))
      (settled : t.store.cells[cell]? = some (.settled result)) :
      Effect catalog t (.read call) (t.put call (.returned mode cell result))
  | replace {mode : Id} {snapshots : List (Snapshot Float)} {loaded : Mode Float}
      (fits : Store.check catalog mode (.ok snapshots) = .ok loaded) :
      Effect catalog t (.replace mode snapshots)
        { t with
          store := (t.store.add mode (.settled (.ok loaded))).1
          calls := t.calls ++ [.replaced mode (.ok (t.store.cells.length, loaded))] }
  | refuse {mode : Id} {snapshots : List (Snapshot Float)} {e : StoreError}
      (refused : Store.check catalog mode (.ok snapshots) = .error e) :
      Effect catalog t (.replace mode snapshots)
        { t with calls := t.calls ++ [.replaced mode (.error e)] }
  | look (mode : Id) :
      Effect catalog t (.look mode)
        { t with calls := t.calls ++ [.looked mode (t.store.loaded? mode)] }

/-- A move that can be made has one of the listed effects. -/
theorem effect_of_move? {catalog : Catalog} {t t' : Traffic} {μ : Move}
    (h : t.move? catalog μ = some t') : Effect catalog t μ t' := by
  cases μ with
  | come mode =>
      cases h
      exact .come mode
  | take call =>
      simp only [move?] at h
      split at h
      · next mode wanting =>
          cases hc : t.store.current.get? mode with
          | some cell =>
              rw [Store.take_of_current hc] at h
              cases h
              exact .share wanting hc
          | none =>
              rw [Store.take_of_vacant hc] at h
              cases h
              exact .found wanting hc
      · cases h
  | ask call =>
      simp only [move?] at h
      split at h
      · next mode cell holding =>
          split at h
          · next store started =>
              obtain ⟨idle, rfl⟩ := Store.start?_eq_some_iff.mp started
              cases h
              exact .ask holding idle
          · cases h
      · cases h
  | answer call answer =>
      simp only [move?] at h
      split at h
      · next mode cell asking =>
          split at h
          · cases h
          · next survived =>
              cases h
              exact .answer asking (Bool.eq_false_iff.mpr survived)
      · cases h
  | read call =>
      simp only [move?] at h
      split at h
      · next mode cell holding =>
          obtain ⟨result, settled, rfl⟩ := Option.map_eq_some_iff.mp h
          exact .read holding (Store.result?_eq_some_iff.mp settled)
      · cases h
  | replace mode snapshots =>
      cases hc : Store.check catalog mode (.ok snapshots) with
      | error e =>
          simp only [move?, Store.replace, hc, Option.some.injEq] at h
          subst h
          exact .refuse hc
      | ok loaded =>
          simp only [move?, Store.replace, hc, Option.some.injEq] at h
          subst h
          exact .replace hc
  | look mode =>
      cases h
      exact .look mode

section Runs

variable {catalog : Catalog} {t t' : Traffic}

theorem run?_cons (t : Traffic) (μ : Move) (moves : List Move) :
    t.run? catalog (μ :: moves) = (t.move? catalog μ).bind fun u => u.run? catalog moves :=
  List.foldlM_cons

/-- What holds at the start of a run and is kept by each of its moves holds at its end. -/
theorem run?_induction {P : Traffic → Prop} {moves : List Move}
    (run : t.run? catalog moves = some t') (start : P t)
    (step : ∀ u μ u', μ ∈ moves → P u → Effect catalog u μ u' → P u') : P t' := by
  induction moves generalizing t with
  | nil =>
      cases run
      exact start
  | cons μ moves ih =>
      rw [run?_cons, Option.bind_eq_some_iff] at run
      obtain ⟨u, made, rest⟩ := run
      have next : P u := step t μ u List.mem_cons_self start (effect_of_move? made)
      exact ih rest next fun v ν v' member => step v ν v' (List.mem_cons_of_mem μ member)

end Runs

section Alone

variable {m : Type → Type} [Monad m] (source : SnapshotSource m) {catalog : Catalog} {t : Traffic}
  {s : Store} {mode : Id} {cell : Nat} {result : FetchedMode}

/-- A fetch of a mode that is there is the run of a call that reads the cell. -/
theorem fetch_settled (taken : t.store.take mode = (s, cell))
    (settled : s.result? cell = some result) :
    Store.fetch source catalog t.store mode = pure (s, Store.modeOf cell result) ∧
      t.run? catalog [.come mode, .take t.calls.length, .read t.calls.length] =
        some ⟨s, t.calls ++ [.returned mode cell result], t.asked⟩ := by
  constructor
  · simp [Store.fetch, taken, settled]
  · simp [run?, move?, taken, put, settled]

/-- A fetch of a mode that nobody has asked for is the run of a call that asks the source. -/
theorem fetch_idle (taken : t.store.take mode = (s, cell)) (idle : s.cells[cell]? = some .idle) :
    Store.fetch source catalog t.store mode = (do
        let answer ← source.fetchMode mode
        let result := Store.check catalog mode answer
        return (s.afterFetch cell result, Store.modeOf cell result)) ∧
      ∀ answer, Store.panics (Store.check catalog mode answer) = false →
        t.run? catalog [.come mode, .take t.calls.length, .ask t.calls.length,
          .answer t.calls.length answer] =
        some ⟨s.settle cell (Store.check catalog mode answer),
          t.calls ++ [.returned mode cell (Store.check catalog mode answer)], mode :: t.asked⟩ := by
  have noResult : s.result? cell = none := by simp [Store.result?, idle]
  have started : s.start? cell = some (s.put cell .loading) :=
    Store.start?_eq_some_iff.mpr ⟨idle, rfl⟩
  constructor
  · simp [Store.fetch, taken, noResult]
  · intro answer survived
    simp [run?, move?, taken, put, started, survived, Store.settle, Store.put]

end Alone

end Traffic

end LadderAtlas
