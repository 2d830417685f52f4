import LadderAtlas.Proofs.Fetch.Moves

/-! # The order that traffic keeps

Each cell is made for one mode; `owners` lists these modes by the numbers of the cells. Of all the
cells of a mode at most one is ever open, that is not settled yet: the one that the first caller was
given, and it is there before any replacement. The source is asked on behalf of open cells only, so
it is asked once for a mode. Replacements come with settled cells, so they change nothing about
this.
-/

namespace LadderAtlas

namespace Store

/-- A cell that is not settled yet. -/
def Open (s : Store) (cell : Nat) : Prop :=
  s.cells[cell]? = some .idle ∨ s.cells[cell]? = some .loading

theorem Open.congr {s s' : Store} {cell : Nat} (same : s'.cells[cell]? = s.cells[cell]?)
    (h : s'.Open cell) : s.Open cell := by
  simpa only [Open, same] using h

theorem Open.not_settled {s : Store} {cell : Nat} {result : FetchedMode} (h : s.Open cell) :
    s.cells[cell]? ≠ some (.settled result) := by
  intro settled
  rcases h with h | h <;> simp [settled] at h

/-- What a store keeps of the modes that its cells were made for and that the source was asked
    for. -/
structure Orderly (owners asked : List Id) (s : Store) : Prop where
  owned : owners.length = s.cells.length
  current : ∀ (mode : Id) (cell : Nat), s.current.get? mode = some cell → owners[cell]? = some mode
  vacant : ∀ mode : Id, s.current.get? mode = none → mode ∉ owners ∧ mode ∉ asked
  idle : ∀ (mode : Id) (cell : Nat),
    owners[cell]? = some mode → s.cells[cell]? = some .idle → mode ∉ asked
  onlyOpen : ∀ (mode : Id) (c d : Nat),
    owners[c]? = some mode → owners[d]? = some mode → s.Open c → s.Open d → c = d
  once : asked.Nodup

namespace Orderly

variable {owners asked : List Id} {s : Store}

theorem empty : Orderly [] [] Store.empty where
  owned := rfl
  current mode cell h := by simp [Store.empty] at h
  vacant mode _ := by simp
  idle mode cell owner := by simp at owner
  onlyOpen mode c d owner := by simp at owner
  once := List.nodup_nil

theorem lt_of_owner (h : Orderly owners asked s) {cell : Nat} {mode : Id}
    (owner : owners[cell]? = some mode) : cell < s.cells.length := by
  rw [← h.owned]
  exact (List.getElem?_eq_some_iff.mp owner).1

theorem mem_of_owner {cell : Nat} {mode : Id} (owner : owners[cell]? = some mode) : mode ∈ owners :=
  List.mem_of_getElem? owner

/-- Behind the owners so far stands the mode of an added cell. -/
theorem owner_append (h : Orderly owners asked s) {mode m : Id} {cell : Nat} :
    (owners ++ [m])[cell]? = some mode ↔
      owners[cell]? = some mode ∨ cell = s.cells.length ∧ m = mode := by
  rw [← h.owned]
  constructor
  · intro owner
    rw [List.getElem?_append] at owner
    split at owner
    · exact .inl owner
    · right
      obtain ⟨last, same⟩ := List.getElem?_eq_some_iff.mp owner
      simp only [List.length_singleton] at last
      exact ⟨by omega, by simpa using same⟩
  · rintro (owner | ⟨rfl, rfl⟩)
    · rw [List.getElem?_append_left (List.getElem?_eq_some_iff.mp owner).1]
      exact owner
    · simp

/-- A cell is added for a mode and becomes its current one: settled from the start, or idle where
    the mode has no cell so far. -/
theorem add (h : Orderly owners asked s) {m : Id} {state : Cell}
    (kind : (∃ result, state = .settled result) ∨ (state = .idle ∧ s.current.get? m = none)) :
    Orderly (owners ++ [m]) asked (s.add m state).1 := by
  have old {c : Nat} {mode : Id} (owner : owners[c]? = some mode) :
      (s.add m state).1.cells[c]? = s.cells[c]? := by
    rw [cells_add, if_neg (Nat.ne_of_lt (h.lt_of_owner owner))]
  have new : (s.add m state).1.cells[s.cells.length]? = some state := by
    rw [cells_add, if_pos rfl]
  have vacantOfOpen (o : (s.add m state).1.Open s.cells.length) : s.current.get? m = none := by
    rcases kind with ⟨result, rfl⟩ | ⟨-, vacant⟩
    · exact absurd new o.not_settled
    · exact vacant
  -- A mode that has an open cell has a current one, so no second open cell comes up beside it.
  have notBoth {c : Nat} (owner : owners[c]? = some m) :
      ¬ (s.add m state).1.Open s.cells.length := fun o =>
    (h.vacant m (vacantOfOpen o)).1 (mem_of_owner owner)
  refine ⟨?_, ?_, ?_, ?_, ?_, h.once⟩
  · simp [Store.add, h.owned]
  · intro mode cell hc
    rw [current_add] at hc
    split at hc
    · next same =>
        cases hc
        exact h.owner_append.mpr (.inr ⟨rfl, same⟩)
    · exact h.owner_append.mpr (.inl (h.current mode cell hc))
  · intro mode hc
    rw [current_add] at hc
    split at hc
    · cases hc
    · next other =>
        obtain ⟨noCell, notAsked⟩ := h.vacant mode hc
        exact ⟨by simp [noCell, Ne.symm other], notAsked⟩
  · intro mode cell owner hc
    rcases h.owner_append.mp owner with owner | ⟨rfl, rfl⟩
    · rw [old owner] at hc
      exact h.idle mode cell owner hc
    · exact (h.vacant m (vacantOfOpen (.inl hc))).2
  · intro mode c d ownerC ownerD openC openD
    rcases h.owner_append.mp ownerC with ownerC | ⟨rfl, rfl⟩ <;>
      rcases h.owner_append.mp ownerD with ownerD | ⟨rfl, sameD⟩
    · exact h.onlyOpen mode c d ownerC ownerD (openC.congr (old ownerC)) (openD.congr (old ownerD))
    · subst sameD
      exact absurd openD (notBoth ownerC)
    · exact absurd openC (notBoth ownerD)
    · rfl

/-- The source is asked on behalf of an idle cell. -/
theorem start (h : Orderly owners asked s) {mode : Id} {cell : Nat}
    (owner : owners[cell]? = some mode) (idle : s.cells[cell]? = some .idle) :
    Orderly owners (mode :: asked) (s.put cell .loading) := by
  have there := h.lt_of_owner owner
  have wasOpen {c : Nat} (o : (s.put cell .loading).Open c) : s.Open c := by
    by_cases same : cell = c
    · subst same
      exact .inl idle
    · exact o.congr (cells_put_other same)
  refine ⟨by simp [put, h.owned], h.current, ?_, ?_, ?_, ?_⟩
  · intro m hc
    obtain ⟨noCell, notAsked⟩ := h.vacant m hc
    have other : m ≠ mode := fun e => noCell (e ▸ mem_of_owner owner)
    exact ⟨noCell, by simp [other, notAsked]⟩
  · intro m c ownerC hc
    by_cases same : cell = c
    · subst same
      rw [cells_put_self there] at hc
      cases hc
    · rw [cells_put_other same] at hc
      -- Were the other cell the same mode's, it would be a second open cell of the mode.
      have otherMode : m ≠ mode := by
        rintro rfl
        exact same (h.onlyOpen m cell c owner ownerC (.inl idle) (.inl hc))
      simp [otherMode, h.idle m c ownerC hc]
  · intro m c d ownerC ownerD openC openD
    exact h.onlyOpen m c d ownerC ownerD (wasOpen openC) (wasOpen openD)
  · exact List.nodup_cons.mpr ⟨h.idle mode cell owner idle, h.once⟩

/-- A cell is settled. -/
theorem settle (h : Orderly owners asked s) {cell : Nat} (there : cell < s.cells.length)
    (result : FetchedMode) : Orderly owners asked (s.settle cell result) := by
  have still {c : Nat} (o : (s.settle cell result).Open c) :
      (s.settle cell result).cells[c]? = s.cells[c]? := by
    by_cases same : cell = c
    · subst same
      exact absurd (cells_put_self there) o.not_settled
    · exact cells_put_other same
  refine ⟨by simp [Store.settle, put, h.owned], h.current, h.vacant, ?_, ?_, h.once⟩
  · intro mode c owner hc
    rw [still (.inl hc)] at hc
    exact h.idle mode c owner hc
  · intro mode c d ownerC ownerD openC openD
    exact h.onlyOpen mode c d ownerC ownerD (openC.congr (still openC)) (openD.congr (still openD))

end Orderly

end Store

/-- A call and the store agree on the call's cell: it was made for the call's mode, it is loading
    while the call asks for it, and it is settled to what the call has returned. -/
structure Call.Fits (owners : List Id) (s : Store) (state : Call) : Prop where
  owner : ∀ cell : Nat, state.cell? = some cell → owners[cell]? = some state.mode
  loading : ∀ (mode : Id) (cell : Nat), state = .asking mode cell → s.cells[cell]? = some .loading
  settled : ∀ (cell : Nat) (result : FetchedMode),
    state.gave? = some (cell, result) → s.cells[cell]? = some (.settled result)

namespace Call.Fits

variable {owners owners' : List Id} {s s' : Store} {state : Call}

/-- Owners and settled cells stay; loading cells have to stay only where the call asks for them. -/
theorem mono (h : state.Fits owners s)
    (owned : ∀ (c : Nat) (m : Id), owners[c]? = some m → owners'[c]? = some m)
    (settled : ∀ (c : Nat) (r : FetchedMode),
      s.cells[c]? = some (.settled r) → s'.cells[c]? = some (.settled r))
    (loading : ∀ (m : Id) (c : Nat), state = .asking m c → s.cells[c]? = some .loading →
      s'.cells[c]? = some .loading) : state.Fits owners' s' where
  owner cell hc := owned cell state.mode (h.owner cell hc)
  loading mode cell asking := loading mode cell asking (h.loading mode cell asking)
  settled cell result gave := settled cell result (h.settled cell result gave)

theorem wanting (mode : Id) : (Call.wanting mode).Fits owners s := ⟨nofun, nofun, nofun⟩

theorem holding {mode : Id} {cell : Nat} (owner : owners[cell]? = some mode) :
    (Call.holding mode cell).Fits owners s where
  owner c hc := by
    cases hc
    exact owner
  loading := nofun
  settled := nofun

theorem asking {mode : Id} {cell : Nat} (owner : owners[cell]? = some mode)
    (loading : s.cells[cell]? = some .loading) : (Call.asking mode cell).Fits owners s where
  owner c hc := by
    cases hc
    exact owner
  loading m c hc := by
    cases hc
    exact loading
  settled := nofun

/-- What is returned comes from a cell that was made for the mode and is settled to it. -/
theorem gave {mode : Id} {cell : Nat} {result : FetchedMode} (owner : owners[cell]? = some mode)
    (settled : s.cells[cell]? = some (.settled result)) (about : state.mode = mode)
    (same : state.cell? = some cell) (gave : state.gave? = some (cell, result)) :
    state.Fits owners s where
  owner c hc := by
    rw [same] at hc
    cases hc
    rw [about, owner]
  loading m c hc := by
    subst hc
    cases gave
  settled c r hc := by
    rw [gave] at hc
    cases hc
    exact settled

/-- A call that has come to no cell fits. -/
theorem failed (noCell : state.cell? = none) (noGift : state.gave? = none)
    (done : state.isDone = true) : state.Fits owners s where
  owner c hc := by simp [noCell] at hc
  loading m c hc := by
    subst hc
    cases done
  settled c r hc := by simp [noGift] at hc

end Call.Fits

namespace Traffic

/-- The order of a store, and its calls in keeping with it. For each loading cell there is one call
    that asks for it, and no other. -/
structure Orderly (owners : List Id) (t : Traffic) : Prop where
  store : t.store.Orderly owners t.asked
  calls : ∀ (i : Nat) (state : Call), t.calls[i]? = some state → state.Fits owners t.store
  oneAsker : ∀ (i j : Nat) (m m' : Id) (c : Nat),
    t.calls[i]? = some (.asking m c) → t.calls[j]? = some (.asking m' c) → i = j
  asker : ∀ c : Nat, t.store.cells[c]? = some .loading →
    ∃ (i : Nat) (m : Id), t.calls[i]? = some (.asking m c)

/-- A call that changes is the only one that does. -/
theorem calls_put {t : Traffic} {i j : Nat} {state new : Call}
    (h : (t.put i new).calls[j]? = some state) :
    i = j ∧ state = new ∨ i ≠ j ∧ t.calls[j]? = some state := by
  simp only [put, List.getElem?_set] at h
  split at h
  · next same =>
      split at h
      · exact .inl ⟨same, by simpa using h.symm⟩
      · cases h
  · next other => exact .inr ⟨other, h⟩

theorem calls_put_self {t : Traffic} {i : Nat} {old new : Call} (h : t.calls[i]? = some old) :
    (t.put i new).calls[i]? = some new := by
  have there : i < t.calls.length := (List.getElem?_eq_some_iff.mp h).1
  simp [put, there]

theorem calls_put_other {t : Traffic} {i j : Nat} {new : Call} (other : i ≠ j) :
    (t.put i new).calls[j]? = t.calls[j]? := by
  simp [put, other]

theorem calls_push {calls : List Call} {j : Nat} {state new : Call}
    (h : (calls ++ [new])[j]? = some state) :
    calls[j]? = some state ∨ j = calls.length ∧ state = new := by
  rw [List.getElem?_append] at h
  split at h
  · exact .inl h
  · obtain ⟨last, same⟩ := List.getElem?_eq_some_iff.mp h
    simp only [List.length_singleton] at last
    exact .inr ⟨by omega, by simpa using same.symm⟩

theorem calls_push_old {calls : List Call} {j : Nat} {state new : Call}
    (h : calls[j]? = some state) : (calls ++ [new])[j]? = some state := by
  rw [List.getElem?_append_left (List.getElem?_eq_some_iff.mp h).1]
  exact h

namespace Orderly

variable {catalog : Catalog} {owners : List Id} {t t' : Traffic}

theorem quiet : Orderly [] Traffic.quiet where
  store := .empty
  calls i state h := by simp [Traffic.quiet] at h
  oneAsker i j m m' c h := by simp [Traffic.quiet] at h
  asker c h := by simp [Traffic.quiet, Store.empty] at h

/-- Traffic stays orderly when the store does, settled and loading cells stay, and every call that
    changes or comes fits and does not ask, nor has it asked before. -/
theorem next (h : Orderly owners t) {owners' : List Id} (store : t'.store.Orderly owners' t'.asked)
    (owned : ∀ (c : Nat) (m : Id), owners[c]? = some m → owners'[c]? = some m)
    (settled : ∀ (c : Nat) (r : FetchedMode),
      t.store.cells[c]? = some (.settled r) → t'.store.cells[c]? = some (.settled r))
    (loading : ∀ c : Nat, t'.store.cells[c]? = some .loading ↔ t.store.cells[c]? = some .loading)
    (calls : ∀ (j : Nat) (state : Call), t'.calls[j]? = some state →
      t.calls[j]? = some state ∨
        (state.Fits owners' t'.store ∧ ∀ (m : Id) (c : Nat), state ≠ .asking m c))
    (asking : ∀ (j : Nat) (m : Id) (c : Nat), t.calls[j]? = some (.asking m c) →
      t'.calls[j]? = some (.asking m c)) : Orderly owners' t' where
  store := store
  calls j state hj := by
    rcases calls j state hj with old | ⟨fits, -⟩
    · exact (h.calls j state old).mono owned settled fun _ c _ was => (loading c).mpr was
    · exact fits
  oneAsker i j m m' c hi hj := by
    rcases calls i _ hi with oldI | ⟨-, quietI⟩
    · rcases calls j _ hj with oldJ | ⟨-, quietJ⟩
      · exact h.oneAsker i j m m' c oldI oldJ
      · exact absurd rfl (quietJ m' c)
    · exact absurd rfl (quietI m c)
  asker c hc := by
    obtain ⟨i, m, old⟩ := h.asker c ((loading c).mp hc)
    exact ⟨i, m, asking i m c old⟩

/-- A single call changes that does not ask, and nothing else does. -/
theorem putCall (h : Orderly owners t) {i : Nat} {old : Call} (was : t.calls[i]? = some old)
    (new : Call) (fits : new.Fits owners t.store)
    (quietBefore : ∀ (m : Id) (c : Nat), old ≠ .asking m c)
    (quiet : ∀ (m : Id) (c : Nat), new ≠ .asking m c) : Orderly owners (t.put i new) := by
  refine h.next h.store (fun _ _ owner => owner) (fun _ _ settled => settled)
    (fun _ => Iff.rfl) ?_ ?_
  · intro j state hj
    rcases calls_put hj with ⟨-, rfl⟩ | ⟨-, old⟩
    · exact .inr ⟨fits, quiet⟩
    · exact .inl old
  · intro j m c hj
    rw [calls_put_other, hj]
    rintro rfl
    rw [was] at hj
    exact quietBefore m c (Option.some.inj hj)

/-- A call comes, and nothing else happens. -/
theorem pushCall (h : Orderly owners t) (new : Call) (fits : new.Fits owners t.store)
    (quiet : ∀ (m : Id) (c : Nat), new ≠ .asking m c) :
    Orderly owners { t with calls := t.calls ++ [new] } := by
  refine h.next h.store (fun _ _ owner => owner) (fun _ _ settled => settled)
    (fun _ => Iff.rfl) ?_ ?_
  · intro j state hj
    rcases calls_push hj with old | ⟨-, rfl⟩
    · exact .inl old
    · exact .inr ⟨fits, quiet⟩
  · intro j m c hj
    exact calls_push_old hj

/-- A cell is added, and nothing else happens. -/
theorem addCell (h : Orderly owners t) (mode : Id) {state : Cell}
    (kind : (∃ result, state = .settled result) ∨
      (state = .idle ∧ t.store.current.get? mode = none)) :
    Orderly (owners ++ [mode]) { t with store := (t.store.add mode state).1 } := by
  have old {c : Nat} {x : Cell} (hc : t.store.cells[c]? = some x) :
      (t.store.add mode state).1.cells[c]? = some x := by
    have there : c < t.store.cells.length := (List.getElem?_eq_some_iff.mp hc).1
    rw [Store.cells_add, if_neg (Nat.ne_of_lt there), hc]
  refine h.next (h.store.add kind) ?_ (fun _ _ settled => old settled) ?_ (fun _ _ hj => .inl hj)
    (fun _ _ _ hj => hj)
  · intro c m owner
    exact h.store.owner_append.mpr (.inl owner)
  · intro c
    refine ⟨?_, old⟩
    intro hc
    rw [Store.cells_add] at hc
    split at hc
    · rcases kind with ⟨result, rfl⟩ | ⟨rfl, -⟩ <;> cases hc
    · exact hc

/-- A call asks the source on behalf of its idle cell. -/
theorem ask (h : Orderly owners t) {i : Nat} {mode : Id} {cell : Nat}
    (holding : t.calls[i]? = some (.holding mode cell)) (idle : t.store.cells[cell]? = some .idle) :
    Orderly owners ({ t with store := t.store.put cell .loading, asked := mode :: t.asked }.put i
      (.asking mode cell)) := by
  have owner : owners[cell]? = some mode := (h.calls i _ holding).owner cell rfl
  have there := h.store.lt_of_owner owner
  have now : (t.store.put cell .loading).cells[cell]? = some .loading := by
    exact Store.cells_put_self there
  have kept {c : Nat} {x : Cell} (other : x ≠ .idle) (hc : t.store.cells[c]? = some x) :
      (t.store.put cell .loading).cells[c]? = some x := by
    rw [Store.cells_put_other, hc]
    rintro rfl
    rw [idle] at hc
    exact other (Option.some.inj hc).symm
  have noOther {j : Nat} {m : Id} : t.calls[j]? ≠ some (.asking m cell) := by
    intro asking
    have loading := (h.calls j _ asking).loading m cell rfl
    simp [idle] at loading
  refine ⟨h.store.start owner idle, ?_, ?_, ?_⟩
  · intro j state hj
    rcases calls_put hj with ⟨-, rfl⟩ | ⟨-, old⟩
    · exact .asking owner now
    · exact (h.calls j state old).mono (fun _ _ owner => owner)
        (fun _ _ settled => kept nofun settled) (fun _ _ _ loading => kept nofun loading)
  · intro j k m m' c hj hk
    rcases calls_put hj with ⟨rfl, newJ⟩ | ⟨-, oldJ⟩ <;>
      rcases calls_put hk with ⟨rfl, newK⟩ | ⟨-, oldK⟩
    · rfl
    · cases newJ
      exact absurd oldK noOther
    · cases newK
      exact absurd oldJ noOther
    · exact h.oneAsker j k m m' c oldJ oldK
  · intro c hc
    by_cases same : cell = c
    · subst same
      exact ⟨i, mode, calls_put_self holding⟩
    · have was : t.store.cells[c]? = some .loading := by
        change (t.store.put cell .loading).cells[c]? = some .loading at hc
        rwa [Store.cells_put_other same] at hc
      obtain ⟨j, m, asking⟩ := h.asker c was
      refine ⟨j, m, ?_⟩
      rw [calls_put_other, asking]
      rintro rfl
      simp [holding] at asking

/-- The source answers a call, which settles the cell. -/
theorem answer (h : Orderly owners t) {i : Nat} {mode : Id} {cell : Nat}
    (asking : t.calls[i]? = some (.asking mode cell)) (result : FetchedMode) :
    Orderly owners ({ t with store := t.store.settle cell result }.put i
      (.returned mode cell result)) := by
  have owner : owners[cell]? = some mode := (h.calls i _ asking).owner cell rfl
  have loading := (h.calls i _ asking).loading mode cell rfl
  have there := h.store.lt_of_owner owner
  have now : (t.store.settle cell result).cells[cell]? = some (.settled result) := by
    exact Store.cells_put_self there
  have others {c : Nat} (other : cell ≠ c) :
      (t.store.settle cell result).cells[c]? = t.store.cells[c]? := by
    exact Store.cells_put_other other
  -- No other call asks for the cell, so no other call's cell stops loading.
  have otherCell {j : Nat} {m : Id} {c : Nat} (otherCall : i ≠ j)
      (hj : t.calls[j]? = some (.asking m c)) : cell ≠ c := by
    rintro rfl
    exact otherCall (h.oneAsker i j mode m cell asking hj)
  have settledElsewhere {c : Nat} {r : FetchedMode} (hc : t.store.cells[c]? = some (.settled r)) :
      cell ≠ c := by
    rintro rfl
    simp [loading] at hc
  refine ⟨h.store.settle there result, ?_, ?_, ?_⟩
  · intro j state hj
    rcases calls_put hj with ⟨-, rfl⟩ | ⟨otherCall, old⟩
    · exact .gave owner now rfl rfl rfl
    · refine (h.calls j state old).mono (fun _ _ owner => owner) ?_ ?_
      · intro c r hc
        exact (others (settledElsewhere hc)).trans hc
      · rintro m c rfl hc
        exact (others (otherCell otherCall old)).trans hc
  · intro j k m m' c hj hk
    rcases calls_put hj with ⟨-, newJ⟩ | ⟨-, oldJ⟩
    · cases newJ
    · rcases calls_put hk with ⟨-, newK⟩ | ⟨-, oldK⟩
      · cases newK
      · exact h.oneAsker j k m m' c oldJ oldK
  · intro c hc
    have other : cell ≠ c := by
      rintro rfl
      have both : some (Cell.settled result) = some .loading := now.symm.trans hc
      cases both
    obtain ⟨j, m, old⟩ := h.asker c ((others other).symm.trans hc)
    refine ⟨j, m, ?_⟩
    rw [calls_put_other, old]
    rintro rfl
    rw [asking] at old
    cases old
    exact other rfl

/-- Every move keeps traffic orderly. The owners of cells never change; new cells come behind. -/
theorem move (h : Orderly owners t) {μ : Move} (effect : Effect catalog t μ t') :
    ∃ more, Orderly (owners ++ more) t' := by
  cases effect with
  | come mode =>
      have came := h.pushCall (.wanting mode) (.wanting mode) nofun
      exact ⟨[], by simpa using came⟩
  | @share call mode cell wanting current =>
      have owner := h.store.current mode cell current
      have took := h.putCall wanting (.holding mode cell) (.holding owner) nofun nofun
      exact ⟨[], by simpa using took⟩
  | @found call mode wanting vacant =>
      have added := h.addCell mode (.inr ⟨rfl, vacant⟩)
      have owner : (owners ++ [mode])[t.store.cells.length]? = some mode :=
        h.store.owner_append.mpr (.inr ⟨rfl, rfl⟩)
      exact ⟨[mode], added.putCall wanting (.holding mode t.store.cells.length) (.holding owner)
        nofun nofun⟩
  | ask holding idle => exact ⟨[], by simpa using h.ask holding idle⟩
  | answer asking answer => exact ⟨[], by simpa using h.answer asking _⟩
  | @read call mode cell result holding settled =>
      have owner : owners[cell]? = some mode := (h.calls call _ holding).owner cell rfl
      have read := h.putCall holding (.returned mode cell result) (.gave owner settled rfl rfl rfl)
        nofun nofun
      exact ⟨[], by simpa using read⟩
  | @replace mode snapshots loaded fits =>
      have added := h.addCell mode (.inl ⟨.ok loaded, rfl⟩)
      have owner : (owners ++ [mode])[t.store.cells.length]? = some mode :=
        h.store.owner_append.mpr (.inr ⟨rfl, rfl⟩)
      have settled : (t.store.add mode (.settled (.ok loaded))).1.cells[t.store.cells.length]? =
          some (.settled (.ok loaded)) := by
        rw [Store.cells_add, if_pos rfl]
      exact ⟨[mode], added.pushCall (.replaced mode (.ok (t.store.cells.length, loaded)))
        (.gave owner settled rfl rfl rfl) nofun⟩
  | @refuse mode snapshots e refused =>
      have failed := h.pushCall (.replaced mode (.error e)) (.failed rfl rfl rfl) nofun
      exact ⟨[], by simpa using failed⟩
  | look mode =>
      have fits : (Call.looked mode (t.store.loaded? mode)).Fits owners t.store := by
        cases found : t.store.loaded? mode with
        | none => exact .failed rfl rfl rfl
        | some gift =>
            obtain ⟨cell, loaded⟩ := gift
            obtain ⟨current, settled⟩ := Store.loaded?_eq_some_iff.mp found
            exact .gave (h.store.current mode cell current) settled rfl rfl rfl
      exact ⟨[], by simpa using h.pushCall _ fits nofun⟩

theorem run {moves : List Move} (h : Orderly owners t) (run : t.run? catalog moves = some t') :
    ∃ more, Orderly (owners ++ more) t' := by
  refine run?_induction (P := fun u => ∃ more, Orderly (owners ++ more) u) run
    ⟨[], by simpa using h⟩ ?_
  rintro u μ u' - ⟨more, h⟩ effect
  obtain ⟨evenMore, h'⟩ := h.move effect
  exact ⟨more ++ evenMore, by simpa using h'⟩

end Orderly

/-- Whatever calls do, traffic on a store is orderly. -/
theorem exists_orderly {catalog : Catalog} {moves : List Move} {t : Traffic}
    (run : quiet.run? catalog moves = some t) : ∃ owners, Orderly owners t := by
  obtain ⟨owners, h⟩ := Orderly.quiet.run run
  exact ⟨[] ++ owners, h⟩

end Traffic

end LadderAtlas
