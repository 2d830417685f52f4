import LadderAtlas.Fetch.Wire
import LadderAtlas.Proofs.Fetch.Lasting
import LadderAtlas.Proofs.Stats.Modes

/-! # What a response comes to

A response is judged in stages, and the first stage that it does not pass decides what the error is.
What passes them all is a mode of exactly the snapshots that were read. The first fetch of a mode
asks the server once, and what its response comes to stays: an error is given again to all who ask
for the mode, and the server is not asked again. Only where a snapshot is of a layout without a
length there is neither a mode nor an error, and nothing stays.
-/

namespace LadderAtlas

namespace Response

variable {β : Type} {options : FetchOptions} {request : Request} {read? : ByteArray → Option β}
  {r : Response}

/-- A response is a success of a size that is accepted, and its body is read as a value. -/
structure Gives (options : FetchOptions) (read? : ByteArray → Option β) (r : Response)
    (value : β) : Prop where
  success : 200 ≤ r.status ∧ r.status < 300
  fits : r.content.size ≤ options.maxSize
  read : read? r.content = some value

/-- What is wrong with a response, in the order in which it is looked for. -/
inductive Fails (options : FetchOptions) (request : Request) (read? : ByteArray → Option β)
    (r : Response) : FetchError → Prop where
  | rateLimited (limited : r.status = 429) :
      Fails options request read? r (.rateLimited request.host r.wait)
  | status (other : r.status ≠ 429) (failed : ¬ (200 ≤ r.status ∧ r.status < 300)) :
      Fails options request read? r (.status r.status (Status.reason r.status))
  | tooLarge (success : 200 ≤ r.status ∧ r.status < 300)
      (large : options.maxSize < r.content.size) :
      Fails options request read? r (.tooLarge r.content.size options.maxSize)
  | notJson (success : 200 ≤ r.status ∧ r.status < 300) (fits : r.content.size ≤ options.maxSize)
      (unread : read? r.content = none) : Fails options request read? r .notJson

theorem isSuccess_iff {status : Nat} :
    Status.isSuccess status = true ↔ 200 ≤ status ∧ status < 300 := by
  simp [Status.isSuccess]

theorem Gives.decode_eq {value : β} (h : r.Gives options read? value) :
    r.decode options request read? = .ok value := by
  have other : ¬ r.status = Status.tooManyRequests := by
    rintro same
    have limited : r.status = 429 := same
    have := h.success
    omega
  have success : (!Status.isSuccess r.status) ≠ true := by
    rw [isSuccess_iff.mpr h.success]
    exact Bool.false_ne_true
  unfold decode
  rw [if_neg other, if_neg success, if_neg (Nat.not_lt.mpr h.fits), h.read]

theorem Fails.decode_eq {e : FetchError} (h : r.Fails options request read? e) :
    r.decode options request read? = .error e := by
  have noLimit (success : 200 ≤ r.status ∧ r.status < 300) :
      ¬ r.status = Status.tooManyRequests := by
    rintro same
    have limited : r.status = 429 := same
    omega
  have noFailure (success : 200 ≤ r.status ∧ r.status < 300) :
      ¬ (!Status.isSuccess r.status) = true := by
    rw [isSuccess_iff.mpr success]
    exact Bool.false_ne_true
  unfold decode
  cases h with
  | rateLimited limited => exact if_pos limited
  | status other failed =>
      have failed : (!Status.isSuccess r.status) = true := by
        rw [Bool.not_eq_true', ← Bool.not_eq_true, isSuccess_iff]
        exact failed
      exact (if_neg other).trans (if_pos failed)
  | tooLarge success large =>
      rw [if_neg (noLimit success), if_neg (noFailure success), if_pos large]
  | notJson success fits unread =>
      rw [if_neg (noLimit success), if_neg (noFailure success),
        if_neg (Nat.not_lt.mpr fits), unread]

/-- A response gives a value, or something is wrong with it. -/
theorem gives_or_fails (options : FetchOptions) (request : Request) (read? : ByteArray → Option β)
    (r : Response) :
    (∃ value, r.Gives options read? value) ∨ ∃ e, r.Fails options request read? e := by
  by_cases limited : r.status = 429
  · exact .inr ⟨_, .rateLimited limited⟩
  by_cases success : 200 ≤ r.status ∧ r.status < 300
  · by_cases fits : r.content.size ≤ options.maxSize
    · cases read : read? r.content with
      | none => exact .inr ⟨_, .notJson success fits read⟩
      | some value => exact .inl ⟨value, success, fits, read⟩
    · exact .inr ⟨_, .tooLarge success (Nat.not_le.mp fits)⟩
  · exact .inr ⟨_, .status limited success⟩

theorem decode_eq_ok_iff {value : β} :
    r.decode options request read? = .ok value ↔ r.Gives options read? value := by
  refine ⟨fun decoded => ?_, Gives.decode_eq⟩
  obtain ⟨other, gives⟩ | ⟨e, fails⟩ := gives_or_fails options request read? r
  · rw [gives.decode_eq] at decoded
    cases decoded
    exact gives
  · rw [fails.decode_eq] at decoded
    cases decoded

theorem decode_eq_error_iff {e : FetchError} :
    r.decode options request read? = .error e ↔ r.Fails options request read? e := by
  refine ⟨fun decoded => ?_, Fails.decode_eq⟩
  obtain ⟨value, gives⟩ | ⟨other, fails⟩ := gives_or_fails options request read? r
  · rw [gives.decode_eq] at decoded
    cases decoded
  · rw [fails.decode_eq] at decoded
    cases decoded
    exact fails

end Response

/-! ## Responses about a mode -/

namespace Store

variable {catalog : Catalog} {options : FetchOptions} {request : Request} {r : Response} {mode : Id}

/-- A response gives snapshots that all fit the catalog. -/
def Accepts (catalog : Catalog) (options : FetchOptions) (r : Response)
    (snapshots : List (Snapshot Float)) : Prop :=
  r.Gives options Snapshot.parseList? snapshots ∧ ∀ s ∈ snapshots, catalog.Fits s

/-- Why a response does not give a mode: something is wrong with it, or with the first of its
    snapshots that does not fit the catalog. -/
inductive Refuses (catalog : Catalog) (options : FetchOptions) (request : Request) (r : Response) :
    FetchError → Prop where
  | response {e : FetchError} (fails : r.Fails options request Snapshot.parseList? e) :
      Refuses catalog options request r e
  | stats {before after : List (Snapshot Float)} {s : Snapshot Float} {e : StatsError}
      (gives : r.Gives options Snapshot.parseList? (before ++ s :: after))
      (earlier : ∀ t ∈ before, catalog.Fits t) (unfit : catalog.Refuses s e) :
      Refuses catalog options request r (.stats e)

/-- All that a fetch panics by is a layout without a length. -/
theorem Refuses.cause_of_isPanic {e : FetchError} (h : Refuses catalog options request r e)
    (ends : e.isPanic = true) : e = .stats .overflow := by
  cases h with
  | response fails => cases fails <;> cases ends
  | stats gives earlier unfit =>
      cases unfit with
      | overflow known stops => rfl
      | unknownStatVersion | dataLength => cases ends

theorem check_eq_ok_iff {snapshots : List (Snapshot Float)} {loaded : Mode Float} :
    check catalog mode (.ok snapshots) = .ok loaded ↔
      Mode.ofSnapshots catalog mode snapshots = .ok loaded := by
  unfold check
  dsimp only
  cases Mode.ofSnapshots catalog mode snapshots <;> simp

theorem check_eq_error_iff {snapshots : List (Snapshot Float)} {e : StoreError} :
    check catalog mode (.ok snapshots) = .error e ↔
      ∃ problem, Mode.ofSnapshots catalog mode snapshots = .error problem ∧
        e = ⟨mode, .stats problem⟩ := by
  unfold check
  dsimp only
  cases Mode.ofSnapshots catalog mode snapshots <;> simp [eq_comm]

theorem holds_of_check {loaded : Mode Float}
    (checked : check catalog mode (r.decode options request Snapshot.parseList?) = .ok loaded) :
    ∃ snapshots, Accepts catalog options r snapshots ∧ loaded.Holds catalog mode snapshots := by
  cases decoded : r.decode options request Snapshot.parseList? with
  | error e =>
      rw [decoded] at checked
      cases checked
  | ok snapshots =>
      rw [decoded, check_eq_ok_iff, Mode.ofSnapshots_eq_ok_iff] at checked
      obtain ⟨stats, found, rfl⟩ := checked
      refine ⟨snapshots, ⟨Response.decode_eq_ok_iff.mp decoded, fun s member => ?_⟩,
        Mode.holds_of_checked found mode⟩
      obtain ⟨stat, -, each⟩ := exists_mem_of_forall₂ (forall₂_of_mapM_eq_ok found).flip member
      exact Catalog.exists_stat_iff.mp ⟨stat, each⟩

/-- A response that is checked comes to a mode exactly where it gives snapshots that all fit. -/
theorem exists_check_iff :
    (∃ loaded, check catalog mode (r.decode options request Snapshot.parseList?) = .ok loaded) ↔
      ∃ snapshots, Accepts catalog options r snapshots := by
  constructor
  · rintro ⟨loaded, checked⟩
    obtain ⟨snapshots, accepts, -⟩ := holds_of_check checked
    exact ⟨snapshots, accepts⟩
  · rintro ⟨snapshots, gives, fits⟩
    obtain ⟨stats, found⟩ :=
      exists_mapM_eq_ok fun s member => Catalog.exists_stat_iff.mpr (fits s member)
    refine ⟨⟨mode, ⟨stats⟩⟩, ?_⟩
    rw [gives.decode_eq, check_eq_ok_iff, Mode.ofSnapshots_eq_ok_iff]
    exact ⟨stats, found, rfl⟩

theorem check_decode_eq_error_iff {e : StoreError} :
    check catalog mode (r.decode options request Snapshot.parseList?) = .error e ↔
      e.mode = mode ∧ Refuses catalog options request r e.cause := by
  obtain ⟨about, cause⟩ := e
  cases decoded : r.decode options request Snapshot.parseList? with
  | error problem =>
      have fails := Response.decode_eq_error_iff.mp decoded
      have same : check catalog mode (.error problem) = .error ⟨mode, problem⟩ := rfl
      rw [same, Except.error.injEq, StoreError.mk.injEq]
      constructor
      · rintro ⟨rfl, rfl⟩
        exact ⟨rfl, .response fails⟩
      · rintro ⟨rfl, refuses⟩
        cases refuses with
        | response other =>
            rw [other.decode_eq] at decoded
            exact ⟨rfl, (Except.error.inj decoded).symm⟩
        | stats gives =>
            rw [gives.decode_eq] at decoded
            cases decoded
  | ok snapshots =>
      have gives := Response.decode_eq_ok_iff.mp decoded
      rw [check_eq_error_iff]
      constructor
      · rintro ⟨problem, refused, same⟩
        cases same
        rw [Mode.ofSnapshots_eq_error_iff, mapM_eq_error_iff] at refused
        obtain ⟨before, s, after, rfl, earlier, unfit⟩ := refused
        exact ⟨rfl, .stats gives (fun t member => Catalog.exists_stat_iff.mp (earlier t member))
          (Catalog.stat_eq_error_iff.mp unfit)⟩
      · rintro ⟨rfl, refuses⟩
        cases refuses with
        | response fails =>
            rw [fails.decode_eq] at decoded
            cases decoded
        | @stats before after s problem gives earlier unfit =>
            rw [gives.decode_eq] at decoded
            cases decoded
            refine ⟨problem, ?_, rfl⟩
            rw [Mode.ofSnapshots_eq_error_iff, mapM_eq_error_iff]
            exact ⟨before, s, after, rfl, fun t member =>
              Catalog.exists_stat_iff.mpr (earlier t member),
              Catalog.stat_eq_error_iff.mpr unfit⟩

end Store

/-! ## Servers -/

/-- A server that answers each request, in view of those before it. -/
abbrev Server := List Request → Request → Response

/-- Requests go to the server one after another, and each is put on record. -/
def Server.transport (server : Server) : Transport (StateM (List Request)) := fun request => do
  let before ← get
  set (before ++ [request])
  return .ok (server before request)

namespace Traffic

variable {catalog : Catalog} {owners : List Id} {t t' : Traffic} {μ : Move}
  {moves : List Move} {mode : Id}

/-- What is said of the first fetch of a mode, and of all that come after it: `t` is what there was
    before, and `t'` after it, and `asked` are the requests that the server had answered before. -/
structure FirstFetch (server : Server) (options : FetchOptions) (base : Url)
    (catalog : Catalog) (mode : Id) (asked : List Request) (t t' : Traffic) (request : Request)
    (cell : Nat) (result : FetchedMode) : Prop where
  reached : ∃ moves, t.run? catalog moves = some t'
  /-- The server is asked once. -/
  fetched : (t.store.fetch (.http server.transport options base) catalog mode).run asked =
    ((t'.store, Store.modeOf cell result), asked ++ [request])
  accepted : (∃ loaded, result = .ok loaded) ↔
    ∃ snapshots, Store.Accepts catalog options (server asked request) snapshots
  /-- What is loaded is made of all snapshots of the response, and of nothing else. -/
  holds : ∀ loaded, result = .ok loaded → t'.store.loaded? mode = some (cell, loaded) ∧
    ∃ snapshots, Store.Accepts catalog options (server asked request) snapshots ∧
      loaded.Holds catalog mode snapshots
  refused : ∀ e, result = .error e ↔
    e.mode = mode ∧ Store.Refuses catalog options request (server asked request) e.cause
  /-- A panic comes from a layout without a length, and leaves the mode as if nobody had asked for
      it. -/
  panicked : ∀ e, result = .error e → e.isPanic = true →
    e.cause = .stats .overflow ∧ t'.store.cells[cell]? = some .idle ∧ t'.store.loaded? mode = none
  /-- The server is not asked for the mode again, whatever calls there are in the meantime. -/
  once : Store.panics result = false → ∀ later t₂, t'.run? catalog later = some t₂ →
    ∀ asked, ∃ again,
      (t₂.store.fetch (.http server.transport options base) catalog mode).run asked =
        ((t₂.store, again), asked)
  /-- An error stays until the mode is replaced. -/
  stays : ∀ e, result = .error e → e.isPanic = false → ∀ later t₂, t'.run? catalog later = some t₂ →
    (∀ μ ∈ later, ¬ μ.Replaces catalog mode) → t₂.store.loaded? mode = none ∧ ∀ asked,
      (t₂.store.fetch (.http server.transport options base) catalog mode).run asked =
        ((t₂.store, .error e), asked)

/-- The mode has a current cell, and that is settled. -/
def Settled (t : Traffic) (mode : Id) : Prop :=
  ∃ cell result,
    t.store.current.get? mode = some cell ∧ t.store.cells[cell]? = some (.settled result)

/-- Once the current cell of a mode is settled, it always is: a replacement comes with a settled
    cell. -/
theorem Orderly.settled_move (h : Orderly owners t) (effect : Effect catalog t μ t')
    (settled : t.Settled mode) :
    t'.Settled mode := by
  obtain ⟨cell, result, current, state⟩ := settled
  have kept : t'.store.cells[cell]? = some (.settled result) := by
    rcases h.cells_move effect state with same | ⟨-, open'⟩
    · exact same
    · exact absurd rfl (open' result)
  rcases current_move effect mode with same | ⟨-, vacant | replaces⟩
  · exact ⟨cell, result, same.trans current, kept⟩
  · rw [current] at vacant
    cases vacant
  · cases effect with
    | @replace m snapshots loaded fits =>
        obtain ⟨rfl, -⟩ := replaces
        refine ⟨t.store.cells.length, .ok loaded, ?_, ?_⟩
        · exact (Store.current_add t.store m m _).trans (if_pos rfl)
        · exact (Store.cells_add t.store m _ _).trans (if_pos rfl)
    | refuse refused =>
        obtain ⟨rfl, loaded, fits⟩ := replaces
        rw [refused] at fits
        cases fits
    | come | share | found | ask | answer | read | look => cases replaces

/-- A settled cell that is current stays so until the mode is replaced. -/
theorem Orderly.kept_move (h : Orderly owners t) (effect : Effect catalog t μ t') {cell : Nat}
    {result : FetchedMode} (noReplacement : ¬ μ.Replaces catalog mode)
    (current : t.store.current.get? mode = some cell)
    (settled : t.store.cells[cell]? = some (.settled result)) :
    t'.store.current.get? mode = some cell ∧ t'.store.cells[cell]? = some (.settled result) := by
  constructor
  · rcases current_move effect mode with same | ⟨-, vacant | replaces⟩
    · exact same.trans current
    · rw [current] at vacant
      cases vacant
    · exact absurd replaces noReplacement
  · rcases h.cells_move effect settled with same | ⟨-, open'⟩
    · exact same
    · exact absurd rfl (open' result)

theorem Orderly.settled_run {later : List Move} (h : Orderly owners t)
    (went : t.run? catalog later = some t') (settled : t.Settled mode) : t'.Settled mode :=
  h.run_induction went settled fun _ _ _ _ _ orderly settled effect =>
    orderly.settled_move effect settled

theorem Orderly.kept_run {later : List Move} (h : Orderly owners t)
    (went : t.run? catalog later = some t') {cell : Nat} {result : FetchedMode}
    (noReplacement : ∀ μ ∈ later, ¬ μ.Replaces catalog mode)
    (current : t.store.current.get? mode = some cell)
    (settled : t.store.cells[cell]? = some (.settled result)) :
    t'.store.current.get? mode = some cell ∧ t'.store.cells[cell]? = some (.settled result) :=
  h.run_induction
    (P := fun u => u.store.current.get? mode = some cell ∧
      u.store.cells[cell]? = some (.settled result))
    went ⟨current, settled⟩ fun _ μ _ _ member orderly kept effect =>
      orderly.kept_move effect (noReplacement μ member) kept.1 kept.2

/-- A mode whose cell is settled is had without the server. -/
theorem run_fetch_of_settled (server : Server) (options : FetchOptions) (base : Url) {cell : Nat}
    {result : FetchedMode} (current : t.store.current.get? mode = some cell)
    (settled : t.store.cells[cell]? = some (.settled result)) (asked : List Request) :
    (t.store.fetch (.http server.transport options base) catalog mode).run asked =
      ((t.store, Store.modeOf cell result), asked) := by
  have alone : Store.fetch (.http server.transport options base) catalog t.store mode =
      pure (t.store, Store.modeOf cell result) :=
    (fetch_settled _ (Store.take_of_current current) (Store.result?_eq_some_iff.mpr settled)).1
  rw [alone]
  rfl

/-- The traffic after the first fetch of a mode, by a caller who was alone. -/
def answered (t : Traffic) (mode : Id) (result : FetchedMode) : Traffic :=
  ⟨(t.store.add mode .idle).1.settle t.store.cells.length result,
    t.calls ++ [.returned mode t.store.cells.length result], mode :: t.asked⟩

/-- The traffic after a first fetch that panicked: a cell that nobody asks for. -/
def abandoned (t : Traffic) (mode : Id) : Traffic :=
  ⟨(t.store.add mode .idle).1, t.calls ++ [.holding mode t.store.cells.length], t.asked⟩

theorem loaded?_of_no_mode {cell : Nat} (current : t.store.current.get? mode = some cell)
    (noMode : ∀ loaded, t.store.cells[cell]? ≠ some (.settled (.ok loaded))) :
    t.store.loaded? mode = none := by
  rw [Option.eq_none_iff_forall_ne_some]
  rintro ⟨other, loaded⟩ found
  obtain ⟨current', settled⟩ := Store.loaded?_eq_some_iff.mp found
  rw [current] at current'
  cases current'
  exact noMode loaded settled

theorem idle_of_vacant : (t.store.add mode .idle).1.cells[t.store.cells.length]? = some .idle :=
  (Store.cells_add t.store mode _ _).trans (if_pos rfl)

theorem current_answered (result : FetchedMode) :
    (t.answered mode result).store.current.get? mode = some t.store.cells.length :=
  (Store.current_add t.store mode mode .idle).trans (if_pos rfl)

theorem cells_answered (result : FetchedMode) :
    (t.answered mode result).store.cells[t.store.cells.length]? = some (.settled result) :=
  Store.cells_put_self (List.getElem?_eq_some_iff.mp idle_of_vacant).1

theorem loaded?_abandoned : (t.abandoned mode).store.loaded? mode = none := by
  have current : (t.abandoned mode).store.current.get? mode = some t.store.cells.length :=
    (Store.current_add t.store mode mode .idle).trans (if_pos rfl)
  refine loaded?_of_no_mode current fun loaded settled => ?_
  rw [abandoned, idle_of_vacant] at settled
  cases settled

theorem run_abandoned (first : t.store.current.get? mode = none) :
    t.run? catalog [.come mode, .take t.calls.length] = some (t.abandoned mode) := by
  simp [run?, move?, put, Store.take_of_vacant first, abandoned, Store.add]

section FirstFetch

variable {base url : Url} {result : FetchedMode} (first : t.store.current.get? mode = none)
  (address : (Endpoint.mode mode).url base = .ok url) (server : Server) (options : FetchOptions)
  (asked : List Request)
  (checked : Store.check catalog mode
    ((server asked (.get options url)).decode options (.get options url)
      Snapshot.parseList?) = result)
include first address checked

/-- The first fetch of a mode asks the server, and what its response comes to is what the caller
    gets. -/
theorem run_fetch_of_vacant :
    (t.store.fetch (.http server.transport options base) catalog mode).run asked =
      (((t.store.add mode .idle).1.afterFetch t.store.cells.length result,
        Store.modeOf t.store.cells.length result), asked ++ [.get options url]) := by
  subst checked
  have alone : Store.fetch (.http server.transport options base) catalog t.store mode = _ :=
    (fetch_idle _ (Store.take_of_vacant first) idle_of_vacant).1
  rw [alone]
  simp only [SnapshotSource.http, SnapshotSource.ask, address]
  rfl

/-- Whatever is no panic settles the cell. -/
theorem fetch_answers (survived : Store.panics result = false) :
    (t.store.fetch (.http server.transport options base) catalog mode).run asked =
        (((t.answered mode result).store, Store.modeOf t.store.cells.length result),
          asked ++ [.get options url]) ∧
      ∃ moves, t.run? catalog moves = some (t.answered mode result) := by
  have ran := (fetch_idle (SnapshotSource.http server.transport options base)
    (Store.take_of_vacant first) idle_of_vacant).2 ((server asked (.get options url)).decode options
      (.get options url) Snapshot.parseList?) (by rwa [checked])
  rw [checked] at ran
  refine ⟨?_, _, ran⟩
  rw [run_fetch_of_vacant first address server options asked checked, Store.afterFetch, survived]
  rfl

theorem fetch_panics (panicked : Store.panics result = true) :
    (t.store.fetch (.http server.transport options base) catalog mode).run asked =
      (((t.abandoned mode).store, Store.modeOf t.store.cells.length result),
        asked ++ [.get options url]) := by
  rw [run_fetch_of_vacant first address server options asked checked, Store.afterFetch,
    if_pos panicked]
  rfl

theorem firstFetch_of_panic (panicked : Store.panics result = true) :
    FirstFetch server options base catalog mode asked t (t.abandoned mode) (.get options url)
      t.store.cells.length result where
  reached := ⟨_, run_abandoned first⟩
  fetched := fetch_panics first address server options asked checked panicked
  accepted := by
    rw [← checked]
    exact Store.exists_check_iff
  holds := by
    rintro loaded rfl
    cases panicked
  refused e := by
    rw [← checked]
    exact Store.check_decode_eq_error_iff
  panicked := by
    rintro e rfl ends
    exact ⟨(Store.check_decode_eq_error_iff.mp checked).2.cause_of_isPanic ends, idle_of_vacant,
      loaded?_abandoned⟩
  once survived := by
    cases panicked.symm.trans survived
  stays := by
    rintro e rfl survived
    cases panicked.symm.trans survived

theorem firstFetch_of_answer (h : Orderly owners t) (survived : Store.panics result = false) :
    FirstFetch server options base catalog mode asked t (t.answered mode result)
      (.get options url) t.store.cells.length result := by
  obtain ⟨fetched, reached, ran⟩ :=
    fetch_answers first address server options asked checked survived
  obtain ⟨more, orderly⟩ := h.run ran
  exact {
    reached := ⟨reached, ran⟩
    fetched := fetched
    accepted := by
      rw [← checked]
      exact Store.exists_check_iff
    holds := by
      rintro loaded rfl
      exact ⟨Store.loaded?_eq_some_iff.mpr ⟨current_answered _, cells_answered _⟩,
        Store.holds_of_check checked⟩
    refused := fun e => by
      rw [← checked]
      exact Store.check_decode_eq_error_iff
    panicked := by
      rintro e rfl ends
      cases survived.symm.trans ends
    once := by
      intro _ later t₂ went asked
      obtain ⟨cell, result, current, settled⟩ :=
        orderly.settled_run went ⟨_, result, current_answered _, cells_answered _⟩
      exact ⟨_, run_fetch_of_settled server options base current settled asked⟩
    stays := by
      rintro e rfl _ later t₂ went noReplacement
      obtain ⟨current, settled⟩ :=
        orderly.kept_run went noReplacement (current_answered _) (cells_answered _)
      refine ⟨loaded?_of_no_mode current fun loaded other => ?_,
        run_fetch_of_settled server options base current settled⟩
      rw [settled] at other
      cases other }

end FirstFetch

/-- Whatever calls there have been on a store, and whatever the server answers to the first fetch of
    a mode: it comes to a mode or to an error as the response does, and unless it panics, the server
    is not asked for the mode again. -/
theorem first_fetch (run : quiet.run? catalog moves = some t)
    (first : t.store.current.get? mode = none) {base url : Url}
    (address : (Endpoint.mode mode).url base = .ok url) (server : Server) (options : FetchOptions)
    (asked : List Request) :
    ∃ t' cell result,
      FirstFetch server options base catalog mode asked t t' (.get options url) cell result := by
  obtain ⟨owners, h⟩ := exists_orderly run
  generalize checked : Store.check catalog mode
    ((server asked (.get options url)).decode options (.get options url)
      Snapshot.parseList?) = result
  cases outcome : Store.panics result with
  | true => exact ⟨_, _, _, firstFetch_of_panic first address server options asked checked outcome⟩
  | false =>
      exact ⟨_, _, _, firstFetch_of_answer first address server options asked checked h outcome⟩

/-- A response of two snapshots, the second of a stat version without a layout: that is what the
    fetch fails by. It does not matter that there is a name in both which is no text, as nobody uses
    it. -/
theorem first_fetch_unfit :
    let small := Layout.ofIds 1 ⟨[0], [0], [0], [0]⟩
    let catalog := { Catalog.empty with layouts := .ofList [(1, small)] }
    let base : Url :=
      ⟨"http".toList, some ⟨[], [], some (.domain ['s']), none⟩, .rooted [[]], none, none⟩
    let snapshot (version : String) : ByteArray :=
      ("\x7b\"id\":1,\"mode_id\":11,\"season_id\":28,\"season_version\":0,\"stat_version\":" ++
        version ++
        ",\"data_time\":0,\"data\":[0.5],\"name\":\"").toUTF8 ++ ⟨#[0xFF]⟩ ++ "\"\x7d".toUTF8
    let response : Response :=
      ⟨200, none, "[".toUTF8 ++ snapshot "1" ++ ",".toUTF8 ++ snapshot "3" ++ "]".toUTF8⟩
    ∃ t' request cell,
      FirstFetch (fun _ _ => response) .standard base catalog 11 [] quiet t' request cell
      (.error ⟨11, .stats (.unknownStatVersion 3)⟩) := by
  intro small catalog base snapshot response
  have address : (Endpoint.mode 11).url base = .ok _ := rfl
  have start : quiet.run? catalog [] = some quiet := rfl
  obtain ⟨t', cell, result, found⟩ :=
    first_fetch start rfl address (fun _ _ => response) .standard []
  have read : (Snapshot.parseList? response.content).map
      (·.map fun s => (s.statVersion, s.data.size)) = some [(1, 1), (3, 1)] := by
    decide +kernel +zetaReduce
  obtain ⟨snapshots, parsed, shape⟩ := Option.map_eq_some_iff.mp read
  obtain ⟨first, rest, rfl, fits, shape⟩ := List.map_eq_cons_iff.mp shape
  obtain ⟨second, rest, rfl, unfit, shape⟩ := List.map_eq_cons_iff.mp shape
  obtain rfl := List.map_eq_nil_iff.mp shape
  rw [Prod.mk.injEq] at fits unfit
  have gives : response.Gives .standard Snapshot.parseList? ([first] ++ second :: []) :=
    ⟨by decide, by decide +kernel +zetaReduce, parsed⟩
  have same : result = .error ⟨11, .stats (.unknownStatVersion 3)⟩ := by
    refine (found.refused _).mpr ⟨rfl, .stats gives ?_ ?_⟩
    · refine List.forall_mem_singleton.mpr ⟨small, ?_, ?_⟩
      · rw [fits.1]
        rfl
      · rw [fits.2]
        decide
    · rw [← unfit.1]
      refine .unknownStatVersion ?_
      rw [unfit.1]
      rfl
  exact ⟨t', _, cell, same ▸ found⟩

/-- A response of one snapshot of a layout without a length is neither a mode nor an error that is
    kept. -/
theorem fetch_without_length :
    let large := Layout.ofIds 0x4000000000000000 ⟨[0, 1, 2, 3], [0], [0], [0]⟩
    let catalog := { Catalog.empty with layouts := .ofList [(1, large)] }
    let base : Url :=
      ⟨"http".toList, some ⟨[], [], some (.domain ['s']), none⟩, .rooted [[]], none, none⟩
    let response : Response := ⟨200, none, ("[\x7b\"id\":1,\"mode_id\":11,\"season_id\":28," ++
      "\"season_version\":0,\"stat_version\":1,\"data_time\":0,\"data\":[]\x7d]").toUTF8⟩
    let source : SnapshotSource (StateM (List Request)) :=
      .http (Server.transport fun _ _ => response) .standard base
    (∃ s, response.Gives .standard Snapshot.parseList? [s] ∧
      catalog.layout? s.statVersion = some large) ∧
      ∃ e request store, e.isPanic ∧ store.loaded? 11 = none ∧
        (Store.empty.fetch source catalog 11).run [] = ((store, .error e), [request]) := by
  intro large catalog base response source
  obtain ⟨url, address⟩ : ∃ url, (Endpoint.mode 11).url base = .ok url := ⟨_, rfl⟩
  have read : (Snapshot.parseList? response.content).map
      (·.map fun s => (s.statVersion, s.data.size)) = some [(1, 0)] := by
    decide +kernel +zetaReduce
  obtain ⟨snapshots, parsed, shape⟩ := Option.map_eq_some_iff.mp read
  obtain ⟨s, rest, rfl, version, shape⟩ := List.map_eq_cons_iff.mp shape
  obtain rfl := List.map_eq_nil_iff.mp shape
  have known : catalog.layout? s.statVersion = some large := by
    rw [(Prod.mk.inj version).1]
    rfl
  have gives : response.Gives .standard Snapshot.parseList? ([] ++ s :: []) :=
    ⟨by decide, by decide +kernel +zetaReduce, parsed⟩
  have checked : Store.check catalog 11
      (response.decode .standard (.get .standard url) Snapshot.parseList?) =
        .error ⟨11, .stats .overflow⟩ :=
    Store.check_decode_eq_error_iff.mpr ⟨rfl, .stats gives (by simp) (.overflow known (by decide))⟩
  exact ⟨⟨s, gives, known⟩, _, _, _, rfl, loaded?_abandoned,
    fetch_panics (t := quiet) rfl address (fun _ _ => response) .standard [] checked rfl⟩

end Traffic

end LadderAtlas
