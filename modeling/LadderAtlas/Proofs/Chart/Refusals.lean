import LadderAtlas.Proofs.Chart.Points
import LadderAtlas.Proofs.Stats.Modes
import LadderAtlas.Proofs.Stats.Paths

/-! # Refused settings

A chart refuses its settings because of a snapshot, and only because of one that offers the selected
version. What it demands of such a snapshot follows from the controls and the rankings alone. The
demands are gone through in a fixed order, snapshot by snapshot in the order in which the chart
visits them, and the first one that is not met says how the settings are refused. Once the filter
has been checked, nothing else can go wrong with a cell: over sound layouts every selected cell has
its place. How long a season has lasted is always had in a release.
-/

namespace LadderAtlas

/-! ## Demands -/

/-- What a chart demands of a snapshot. -/
inductive Demand where
  /-- An id that is filtered by has a slot. -/
  | known (d : Dimension) (id : Id)
  /-- A ranked id is listed, so that there is a count for it. -/
  | listed (d : Dimension) (id : Id)
  /-- The season of the snapshot is one of these. -/
  | seasonIn (seasons : Seasons)

namespace Demand

variable {α : Type}

def Met (stat : Stat α) : Demand → Prop
  | .known d id => stat.layout.contains d id = true
  | .listed d id => id ∈ stat.layout.ids d
  | .seasonIn seasons => (seasons.get? stat.season).isSome = true

instance (stat : Stat α) : (demand : Demand) → Decidable (demand.Met stat)
  | .known d id => inferInstanceAs (Decidable (stat.layout.contains d id = true))
  | .listed d id => inferInstanceAs (Decidable (id ∈ stat.layout.ids d))
  | .seasonIn seasons => inferInstanceAs (Decidable ((seasons.get? stat.season).isSome = true))

/-- What is said where the demand is not met. -/
def complaint (stat : Stat α) : Demand → GraphError
  | .known d id | .listed d id => .stats (.unknownId d id)
  | .seasonIn _ => .unknownSeason stat.season

def fault? (stat : Stat α) (demand : Demand) : Option GraphError :=
  if demand.Met stat then none else some (demand.complaint stat)

/-- The demand that a control makes, which makes none where it selects all. -/
def ofControl (d : Dimension) (id : Id) : List Demand := if id = Id.all then [] else [.known d id]

/-- The demands of the version and the region that are selected. -/
def ofControls (s : Settings) (defaultVersion : Id) : List Demand :=
  .known .version (s.version defaultVersion) :: ofControl .region (s.idOrAll Control.region)

end Demand

/-- The first complaint about a snapshot, demands in order. -/
def Stat.fault? {α : Type} (stat : Stat α) (demands : List Demand) : Option GraphError :=
  demands.findSome? (Demand.fault? stat)

def Filter.demands (f : Filter) : List Demand :=
  Dimension.inOrder.flatMap fun d => ((f.get? d).getD []).map (.known d)

/-- The demands of the race chart. The league is not asked for where grandmaster is selected in the
    first version. -/
def RaceChart.demands {α : Type} (c : RaceChart α) (s : Settings) : List Demand :=
  let league := s.idOrAll Control.league
  let version := s.version c.source.defaultVersion
  Demand.ofControls s c.source.defaultVersion
    ++ (if league = grandmaster ∧ version = firstVersion then []
      else Demand.ofControl .league league)
    ++ c.races.map (.listed .race)

def LeagueChart.demands {α : Type} (c : LeagueChart α) (s : Settings) : List Demand :=
  Demand.ofControls s c.source.defaultVersion ++ c.leagues.map (.listed .league)

def PopulationChart.demands {α : Type} (c : PopulationChart α) (s : Settings) : List Demand :=
  Demand.ofControls s c.source.defaultVersion ++ [.seasonIn c.source.seasons]

namespace Stat

variable {α : Type} {stat : Stat α} {demands : List Demand} {e : GraphError}

theorem fault?_append (demands' : List Demand) :
    stat.fault? (demands ++ demands') = (stat.fault? demands).or (stat.fault? demands') :=
  List.findSome?_append

theorem fault?_eq_none_iff : stat.fault? demands = none ↔ ∀ demand ∈ demands, demand.Met stat := by
  simp [fault?, Demand.fault?]

/-- There is a complaint exactly about what is not met. -/
theorem exists_fault_iff :
    (∃ e, stat.fault? demands = some e) ↔ ∃ demand ∈ demands, ¬ demand.Met stat := by
  rw [← Option.ne_none_iff_exists', Ne, fault?_eq_none_iff]
  simp

/-- No complaint is the end of the program. -/
theorem isPanic_of_fault? (fault : stat.fault? demands = some e) : e.isPanic = false := by
  obtain ⟨demand, -, here⟩ := List.exists_of_findSome?_eq_some fault
  unfold Demand.fault? at here
  split at here
  · cases here
  · cases demand <;> cases here <;> rfl

end Stat

/-! ## Filters -/

section Filters

variable {α : Type} {stat : Stat α} {f : Filter} {e : GraphError}

/-- The demands of a filter are what it is checked for. -/
theorem Filter.fault?_demands (f : Filter) (stat : Stat α) :
    stat.fault? f.demands = (f.unknown? stat.layout).map fun x => .stats (.unknownId x.1 x.2) := by
  have inDimension (d : Dimension) (ids : List Id) :
      (ids.map (Demand.known d)).findSome? (Demand.fault? stat) =
      ((ids.find? fun id => !stat.layout.contains d id).map fun id => (d, id)).map fun x =>
        .stats (.unknownId x.1 x.2) := by
    induction ids with
    | nil => rfl
    | cons id ids ih =>
        cases known : stat.layout.contains d id <;>
          simp [Demand.fault?, Demand.Met, Demand.complaint, known, ih]
  unfold Stat.fault? demands unknown?
  induction Dimension.inOrder with
  | nil => rfl
  | cons d rest ih =>
      rw [List.flatMap_cons, List.findSome?_append, List.findSome?_cons, inDimension, ih]
      cases ((f.get? d).getD []).find? fun id => !stat.layout.contains d id <;> rfl

theorem Filter.ofStats_check_eq_error_iff :
    GraphError.ofStats (f.check stat.layout) = .error e ↔ stat.fault? f.demands = some e := by
  rw [fault?_demands, check]
  cases f.unknown? stat.layout <;> simp [GraphError.ofStats]

theorem Filter.check_eq_ok_iff_fault? :
    f.check stat.layout = .ok () ↔ stat.fault? f.demands = none := by
  rw [fault?_demands, check]
  cases f.unknown? stat.layout <;> simp

theorem Filter.demands_ofControls (s : Settings) (defaultVersion : Id) :
    (ofControls s defaultVersion).demands = Demand.ofControls s defaultVersion := by
  unfold ofControls choose Demand.ofControls Demand.ofControl
  split <;> rfl

theorem RaceChart.demands_filter (s : Settings) (defaultVersion : Id) :
    (filter s defaultVersion).demands = Demand.ofControls s defaultVersion ++
      if s.idOrAll Control.league = grandmaster ∧ s.version defaultVersion = firstVersion then []
      else Demand.ofControl .league (s.idOrAll Control.league) := by
  simp only [filter, Filter.ofControls, Filter.choose, Demand.ofControls, Demand.ofControl]
  split <;> split <;> first | rfl | split <;> rfl

end Filters

/-! ## Points -/

theorem GraphError.ofStats_bind {β γ : Type} (x : Except StatsError β)
    (f : β → Except StatsError γ) :
    ofStats (x >>= f) = ofStats x >>= fun b => ofStats (f b) := by
  cases x <;> rfl

theorem GraphError.ofStats_mapM {β γ : Type} (f : β → Except StatsError γ) (xs : List β) :
    ofStats (xs.mapM f) = xs.mapM fun x => ofStats (f x) := by
  induction xs with
  | nil => rfl
  | cons x xs ih => simp only [List.mapM_cons, ofStats_bind, ih]; rfl

section Points

variable [Build] {α : Type} [Scalar α] {stat : Stat α} {f : Filter} {d : Dimension} {e : GraphError}
  {groupBy : List Dimension} {a : Aggregate α}

/-- A snapshot that was checked against a sound layout. -/
structure Stat.Checked (stat : Stat α) : Prop where
  sound : stat.layout.Sound
  valid : stat.layout.validate stat.snapshot = .ok ()

/-- A checked filter is broken out of a checked snapshot without any cell missing. -/
theorem Stat.Checked.exists_aggregate (h : stat.Checked) (checked : f.check stat.layout = .ok ())
    (groupBy : List Dimension) : ∃ a, stat.aggregate f groupBy = .ok a := by
  refine Stat.exists_aggregate (fun c selected => ?_) groupBy
  obtain ⟨start, numbers, -, -, there, -⟩ := h.sound.decode (Layout.validate_eq_ok_iff.mp h.valid)
    fun d => Filter.contains_of_mem_resolve h.sound checked
      (Selection.mem_coordinates.mp selected d)
  exact Option.isSome_of_eq_some there

theorem Stat.ofStats_count_eq_error_iff (aggregated : stat.aggregate f [d] = .ok a)
    (free : f.get? d = none) {id : Id} :
    GraphError.ofStats (a.count [id]) = .error e ↔ Demand.fault? stat (.listed d id) = some e := by
  cases read : a.count [id] with
  | error e' =>
      obtain ⟨unlisted, rfl⟩ := (get_below_eq_error_iff aggregated free).mp read
      simp [GraphError.ofStats, Demand.fault?, Demand.Met, Demand.complaint, unlisted]
  | ok count =>
      have listed := listed_of_get_below aggregated free read
      simp [GraphError.ofStats, Demand.fault?, Demand.Met, listed]

theorem SharePoint.ofStat_eq_error_iff (h : stat.Checked) (free : f.get? d = none)
    (ranking : List Id) :
    GraphError.ofStats (ofStat stat f d ranking) = .error e ↔
      stat.fault? (f.demands ++ ranking.map (.listed d)) = some e := by
  rw [Stat.fault?_append, ofStat, GraphError.ofStats_bind]
  cases checked : f.check stat.layout with
  | error e' =>
      have fault := Filter.ofStats_check_eq_error_iff.mp (congrArg GraphError.ofStats checked)
      rw [fault]
      simp [GraphError.ofStats, bind, Except.bind]
  | ok u =>
      obtain ⟨a, aggregated⟩ := h.exists_aggregate checked [d]
      rw [Filter.check_eq_ok_iff_fault?.mp checked, Option.none_or, Stat.fault?, List.findSome?_map,
        bind_of_eq_ok aggregated, Aggregate.count, bind_of_eq_ok (a.get_nil .count)]
      simp only [GraphError.ofStats_bind, GraphError.ofStats_mapM]
      exact bind_pure_eq_error_iff.trans
        (mapM_eq_error_iff_findSome? fun id _ e => Stat.ofStats_count_eq_error_iff aggregated free)

theorem PopulationChart.point_eq_error_iff (release : Build.overflow = .wraps) (h : stat.Checked)
    (seasons : Seasons) (measure : PopulationMeasure) :
    point seasons f measure stat = .error e ↔
      stat.fault? (f.demands ++ [.seasonIn seasons]) = some e := by
  rw [Stat.fault?_append, point]
  cases checked : f.check stat.layout with
  | error e' =>
      have fault := Filter.ofStats_check_eq_error_iff.mp (congrArg GraphError.ofStats checked)
      rw [fault]
      simp [GraphError.ofStats, bind, Except.bind]
  | ok u =>
      obtain ⟨a, aggregated⟩ := h.exists_aggregate checked []
      rw [Filter.check_eq_ok_iff_fault?.mp checked, Option.none_or]
      cases known : seasons.get? stat.season with
      | none =>
          simp [GraphError.ofStats, bind, Except.bind, Stat.fault?, Demand.fault?, Demand.Met,
            Demand.complaint, known]
      | some season =>
          simp [GraphError.ofStats, bind, Except.bind, pure, Except.pure, Stat.fault?,
            Demand.fault?, Demand.Met, known, aggregated, ageAt?, Word.minus?_of_release release,
            Aggregate.count, Aggregate.wins,
            Aggregate.losses, Aggregate.get_nil]

end Points

/-! ## Charts -/

theorem Mode.mem_oldestFirst_iff {α : Type} {m : Mode α} {version : Id} {stat : Stat α} :
    stat ∈ m.oldestFirst (some version) ↔ stat ∈ m.stats.records ∧
      version ≤ stat.snapshot.seasonVersion :=
  Collection.mem_oldestFirst_iff.trans (and_congr_right fun _ => Collection.offers_some)

theorem Mode.mem_newestFirst_iff {α : Type} {m : Mode α} {version : Id} {stat : Stat α} :
    stat ∈ m.newestFirst (some version) ↔ stat ∈ m.stats.records ∧
      version ≤ stat.snapshot.seasonVersion :=
  List.mem_reverse.trans mem_oldestFirst_iff

/-- Every stat of a mode was checked, and against a sound layout if the catalog has no other. -/
theorem Mode.checked_of_built [Build] {α : Type} {c : Catalog} {id : Id}
    {snapshots : List (Snapshot α)} {m : Mode α}
    (sound : ∀ version l, c.layout? version = some l → l.Sound)
    (built : ofSnapshots c id snapshots = .ok m) {stat : Stat α} (member : stat ∈ m.stats.records) :
    stat.Checked := by
  obtain ⟨stats, checked, rfl⟩ := ofSnapshots_eq_ok_iff.mp built
  have listed : stat ∈ oldestFirst ⟨id, ⟨stats⟩⟩ none := member
  obtain ⟨-, describes⟩ := (holds_of_checked checked id).given stat (.oldestFirst listed)
  exact ⟨sound _ _ describes.layout, describes.valid⟩

/-- How settings are refused: for a snapshot that offers the selected version and does not meet a
    demand, with the first complaint about the first such snapshot in the order of the visit, and
    never for anything else, nor by the end of the program. -/
structure RefusedBy {α γ : Type} (mode : Mode α) (version : Id) (visited : List (Stat α))
    (demands : List Demand) (outcome : Except GraphError γ) : Prop where
  answered : ∀ e, outcome = .error e → e.isPanic = false
  refused : (∃ e, outcome = .error e) ↔ ∃ stat ∈ mode.stats.records,
    version ≤ stat.snapshot.seasonVersion ∧ ∃ demand ∈ demands, ¬ demand.Met stat
  complaint : ∀ e, outcome = .error e ↔ ∃ before stat after, visited = before ++ stat :: after ∧
    (∀ earlier ∈ before, ∀ demand ∈ demands, demand.Met earlier) ∧ stat.fault? demands = some e

section Charts

variable {α γ : Type} {mode : Mode α} {version : Id} {visited : List (Stat α)}
  {demands : List Demand}

theorem refusedBy_of_fault {outcome : Except GraphError γ}
    (visits : ∀ stat, stat ∈ visited ↔ stat ∈ mode.stats.records ∧
      version ≤ stat.snapshot.seasonVersion)
    (fails : ∀ e, outcome = .error e ↔
      visited.findSome? (fun stat => stat.fault? demands) = some e) :
    RefusedBy mode version visited demands outcome := by
  refine ⟨fun e refused => ?_, ?_, fun e => ?_⟩
  · obtain ⟨stat, -, fault⟩ := List.exists_of_findSome?_eq_some ((fails e).mp refused)
    exact Stat.isPanic_of_fault? fault
  · simp only [fails, ← Option.isSome_iff_exists, List.findSome?_isSome_iff]
    simp only [Option.isSome_iff_exists, Stat.exists_fault_iff, visits, and_assoc]
  · rw [fails, List.findSome?_eq_some_iff]
    simp only [Stat.fault?_eq_none_iff, and_comm]

variable [Build] [Scalar α] {s : Settings}

theorem RaceChart.refusedBy (c : RaceChart α)
    (checked : ∀ stat ∈ c.source.mode.stats.records, stat.Checked) :
    let version := s.version c.source.defaultVersion
    RefusedBy c.source.mode version (c.source.mode.oldestFirst (some version)) (c.demands s)
      (c.withSettings s) := by
  intro version
  refine refusedBy_of_fault (fun stat => Mode.mem_oldestFirst_iff) fun e => ?_
  rw [withSettings_eq, map_eq_error_iff]
  have free : (filter s c.source.defaultVersion).get? .race = none := by
    simp only [filter]
    split
    · rw [Filter.get?_set_of_ne _ (by decide), Filter.get?_ofControls _ _ (by decide) (by decide)]
    · rw [Filter.get?_choose_of_ne _ (by decide),
        Filter.get?_ofControls _ _ (by decide) (by decide)]
  refine mapM_eq_error_iff_findSome? fun stat member e => ?_
  rw [SharePoint.ofStat_eq_error_iff (checked stat (Mode.mem_oldestFirst_iff.mp member).1) free,
    demands_filter]
  rfl

theorem LeagueChart.refusedBy (c : LeagueChart α)
    (checked : ∀ stat ∈ c.source.mode.stats.records, stat.Checked) :
    let version := s.version c.source.defaultVersion
    RefusedBy c.source.mode version (c.source.mode.newestFirst (some version)) (c.demands s)
      (c.withSettings s) := by
  intro version
  refine refusedBy_of_fault (fun stat => Mode.mem_newestFirst_iff) fun e => ?_
  rw [withSettings_eq, map_eq_error_iff]
  have free : (Filter.ofControls s c.source.defaultVersion).get? .league = none :=
    Filter.get?_ofControls _ _ (by decide) (by decide)
  refine mapM_eq_error_iff_findSome? fun stat member e => ?_
  rw [SharePoint.ofStat_eq_error_iff (checked stat (Mode.mem_newestFirst_iff.mp member).1) free,
    Filter.demands_ofControls]
  rfl

theorem PopulationChart.refusedBy (release : Build.overflow = .wraps) (c : PopulationChart α)
    (checked : ∀ stat ∈ c.source.mode.stats.records, stat.Checked) :
    let version := s.version c.source.defaultVersion
    RefusedBy c.source.mode version (c.source.mode.newestFirst (some version)) (c.demands s)
      (c.withSettings s) := by
  intro version
  refine refusedBy_of_fault (fun stat => Mode.mem_newestFirst_iff) fun e => ?_
  rw [withSettings_eq, map_eq_error_iff]
  refine mapM_eq_error_iff_findSome? fun stat member e => ?_
  rw [point_eq_error_iff release (checked stat (Mode.mem_newestFirst_iff.mp member).1),
    Filter.demands_ofControls]
  rfl

end Charts

/-- Over a mode that was built with sound layouts, each of the three charts refuses its settings
    exactly for the demands that it makes of the snapshots that it visits, oldest first for races
    and newest first for leagues and for the population. The population chart also takes the
    difference of two times, which ends the program where it is no word, except in a release. -/
theorem settings_refused_by_demands [Build] {α : Type} [Scalar α] (catalog : Catalog) (id : Id)
    (snapshots : List (Snapshot α)) (source : ChartSource α) (s : Settings)
    (sound : ∀ version l, catalog.layout? version = some l → l.Sound)
    (built : Mode.ofSnapshots catalog id snapshots = .ok source.mode) :
    let version := s.version source.defaultVersion
    (∀ c : RaceChart α, c.source = source → RefusedBy source.mode version
      (source.mode.oldestFirst (some version)) (c.demands s) (c.withSettings s)) ∧
    (∀ c : LeagueChart α, c.source = source → RefusedBy source.mode version
      (source.mode.newestFirst (some version)) (c.demands s) (c.withSettings s)) ∧
    (Build.overflow = .wraps → ∀ c : PopulationChart α, c.source = source →
      RefusedBy source.mode version (source.mode.newestFirst (some version)) (c.demands s)
        (c.withSettings s)) := by
  have checked : ∀ stat ∈ source.mode.stats.records, stat.Checked :=
    fun stat member => Mode.checked_of_built sound built member
  refine ⟨?_, ?_, fun release => ?_⟩
  · rintro c rfl
    exact c.refusedBy checked
  · rintro c rfl
    exact c.refusedBy checked
  · rintro c rfl
    exact c.refusedBy release checked

/-- A second stat version has one region and one race more than the first. Visited oldest first, it
    is the first snapshot that lists no ranked race; visited newest first, it is the last one that
    does not know the selected region, or whose season is unknown. The version that only the second
    snapshot offers is not refused. -/
theorem settings_refused_by_demands_second_region :
    let release : Build := ⟨.wraps⟩
    let narrow := Layout.ofIds 1 ⟨[0, 3], [1], [0], [0]⟩
    let wide := Layout.ofIds 1 ⟨[0, 3], [1, 2], [0], [0, 1]⟩
    let catalog := { Catalog.empty with
      layouts := ⟨[(1, narrow), (2, wide)]⟩
      ranked := ⟨[], [], [0], [1]⟩ }
    let oldest : Snapshot Rat := ⟨1, 201, 28, 0, 1, 0, #[5, 6]⟩
    let offering : Snapshot Rat := ⟨2, 201, 29, 3, 2, 1, #[1, 2, 3, 4, 5, 6, 7, 8]⟩
    let newest : Snapshot Rat := ⟨3, 201, 30, 0, 1, 2, #[7, 8]⟩
    let mode : Mode Rat := ⟨201, ⟨[⟨narrow, oldest⟩, ⟨wide, offering⟩, ⟨narrow, newest⟩]⟩⟩
    let source : ChartSource Rat := ⟨mode, catalog, .ofList [⟨29, 1, 2015, 0, 9, "#000"⟩], 0⟩
    let all := Settings.empty
    let region := all.set Control.region "2"
    let both := region.set Control.version "3"
    release.overflow = .wraps ∧ (∀ version l, catalog.layout? version = some l → l.Sound) ∧
      Mode.ofSnapshots catalog 201 [oldest, offering, newest] = .ok mode ∧
      (RaceChart.new source).withSettings all = .error (.stats (.unknownId .race 1)) ∧
      (LeagueChart.new source).withSettings region = .error (.stats (.unknownId .region 2)) ∧
      (PopulationChart.new source).withSettings all = .error (.unknownSeason 30) ∧
      ¬ ∃ e, (PopulationChart.new source).withSettings both = .error e := by
  intro release narrow wide catalog oldest offering newest mode source all region both
  have wraps : release.overflow ≠ .stops := by decide
  have sound : ∀ version l, catalog.layout? version = some l → l.Sound := by
    intro version l found
    simp only [catalog, Catalog.layout?, Keyed.get?, Keyed.find] at found
    split at found
    · cases found
      exact (Layout.indexes_ofIds _).sound (by decide) fun stops => absurd stops wraps
    · split at found
      · cases found
        exact (Layout.indexes_ofIds _).sound (by decide) fun stops => absurd stops wraps
      · cases found
  have built : Mode.ofSnapshots catalog 201 [oldest, offering, newest] = .ok mode := rfl
  have refusals (s : Settings) :=
    settings_refused_by_demands catalog 201 [oldest, offering, newest] source s sound built
  refine ⟨rfl, sound, built, ?_, ?_, ?_, ?_⟩
  · exact (((refusals all).1 (.new source) rfl).complaint _).mpr
      ⟨[], ⟨narrow, oldest⟩, [⟨wide, offering⟩, ⟨narrow, newest⟩], rfl, by simp, rfl⟩
  · exact (((refusals region).2.1 (.new source) rfl).complaint _).mpr
      ⟨[], ⟨narrow, newest⟩, [⟨wide, offering⟩, ⟨narrow, oldest⟩], rfl, by simp, rfl⟩
  · exact (((refusals all).2.2 rfl (.new source) rfl).complaint _).mpr
      ⟨[], ⟨narrow, newest⟩, [⟨wide, offering⟩, ⟨narrow, oldest⟩], rfl, by simp, by decide +kernel⟩
  · rw [((refusals both).2.2 rfl (.new source) rfl).refused]
    decide +kernel

/-- An id that is not listed may have a slot beyond those that are counted, unless this is ruled
    out. A filter for it is let through, and then its cell has no place. -/
theorem settings_refused_for_unlisted_slot :
    let release : Build := ⟨.wraps⟩
    let l : Layout := ⟨4, 1, ⟨⟨1, [0], ⟨[(0, 0), (5, 1)]⟩⟩, .ofIds [0], .ofIds [0], .ofIds [0]⟩⟩
    let catalog := { Catalog.empty with
      layouts := ⟨[(1, l)]⟩
      ranked := ⟨[], [], [], [0]⟩ }
    let snapshot : Snapshot Rat := ⟨1, 201, 28, 5, 1, 86400, #[10, 6, 4, 0]⟩
    let mode : Mode Rat := ⟨201, ⟨[⟨l, snapshot⟩]⟩⟩
    let c : RaceChart Rat := .new ⟨mode, catalog, .ofList [], 0⟩
    let s := Settings.empty.set Control.version "5"
    release.overflow = .wraps ∧
      (∀ d, ∀ id ∈ l.ids d, ∃ slot, l.index? d id = some slot ∧ slot < l.count d) ∧
      l.extent < Word.limit ∧ Mode.ofSnapshots catalog 201 [snapshot] = .ok mode ∧
      (∀ stat ∈ mode.stats.records, ∀ demand ∈ c.demands s, demand.Met stat) ∧
      c.withSettings s = .error (.stats .unplacedCell) := by
  intro release l catalog snapshot mode c s
  refine ⟨rfl, fun d id listed => ?_, by decide, rfl, by decide +kernel, rfl⟩
  cases d <;>
  · obtain rfl := List.mem_singleton.mp listed
    exact ⟨0, by decide, by decide⟩

end LadderAtlas
