import LadderAtlas.Proofs.Chart.Computing
import LadderAtlas.Proofs.Results
import LadderAtlas.Proofs.Stats.Collections
import LadderAtlas.Proofs.Stats.Reading

/-! # Points of charts

Each chart computes one point for each snapshot that offers the selected version, and then shows
some of the points in the order of the snapshots. What is selected may leave out older points but
never the newest one.
-/

namespace LadderAtlas

theorem Filter.get?_set_of_ne (f : Filter) {d e : Dimension} (other : d ≠ e) (ids : List Id) :
    (f.set d ids).get? e = f.get? e := by
  rw [set, get?, get?, ByDimension.get_set, if_neg other]

theorem Filter.get?_choose_of_ne (f : Filter) {d e : Dimension} (other : d ≠ e) (id : Id) :
    (f.choose d id).get? e = f.get? e := by
  unfold choose
  split
  · rfl
  · exact get?_set_of_ne f other [id]

/-- The controls that all charts share leave leagues and races open. -/
theorem Filter.get?_ofControls (s : Settings) (defaultVersion : Id) {d : Dimension}
    (version : Dimension.version ≠ d) (region : Dimension.region ≠ d) :
    (ofControls s defaultVersion).get? d = none := by
  rw [ofControls, get?_choose_of_ne _ region, ofVersion, get?_set_of_ne _ version]
  cases d <;> rfl

theorem GraphError.ofStats_eq_ok {β : Type} {x : Except StatsError β} {b : β}
    (h : GraphError.ofStats x = .ok b) : x = .ok b := by
  cases x with
  | error e => cases h
  | ok b' => exact congrArg Except.ok (Except.ok.inj h)

section Points

variable [Build] {α β : Type} [Scalar α]

/-! ## Points of snapshots -/

theorem SharePoint.ofStat_eq_ok {stat : Stat α} {filter : Filter} {d : Dimension}
    {ranking : List Id} {p : SharePoint α} (h : ofStat stat filter d ranking = .ok p) :
    p.season = stat.season ∧ p.time = stat.time ∧
      ∃ a, stat.aggregate filter [d] = .ok a ∧ Reads a [] ranking p.total p.counts := by
  obtain ⟨-, -, h⟩ := exists_of_bind_eq_ok h
  obtain ⟨a, aggregated, h⟩ := exists_of_bind_eq_ok h
  obtain ⟨total, readTotal, h⟩ := exists_of_bind_eq_ok h
  obtain ⟨counts, readCounts, h⟩ := exists_of_bind_eq_ok h
  cases h
  exact ⟨rfl, rfl, a, aggregated, readTotal, forall₂_of_mapM_eq_ok readCounts⟩

/-- What a point of the population chart has of its snapshot, with the season and the aggregate that
    it is read from. -/
structure PopulationChart.IsPoint (seasons : Seasons) (filter : Filter)
    (measure : PopulationMeasure) (stat : Stat α) (season : Season) (a : Aggregate α)
    (p : PopulationPoint α) : Prop where
  known : seasons.get? stat.season = some season
  aggregated : stat.aggregate filter [] = .ok a
  seasonId : p.season = season.id
  time : p.time = stat.time
  age : ageAt? season stat.time = some p.age
  count : a.count [] = .ok p.count
  games : ∃ wins losses, a.wins [] = .ok wins ∧ a.losses [] = .ok losses ∧ p.games = wins + losses
  gamesPerDay : p.gamesPerDay = if 0 < p.age then p.games / p.age else 0
  value : p.value = match measure with
    | .teams => p.count
    | .gamesPerDay => p.gamesPerDay

theorem PopulationChart.exists_isPoint {seasons : Seasons} {filter : Filter}
    {measure : PopulationMeasure} {stat : Stat α} {p : PopulationPoint α}
    (h : point seasons filter measure stat = .ok p) :
    ∃ season a, IsPoint seasons filter measure stat season a p := by
  obtain ⟨-, -, h⟩ := exists_of_bind_eq_ok h
  split at h
  · cases h
  · next season known =>
      obtain ⟨a, aggregated, h⟩ := exists_of_bind_eq_ok h
      split at h
      · next age old =>
          obtain ⟨wins, readWins, h⟩ := exists_of_bind_eq_ok h
          obtain ⟨losses, readLosses, h⟩ := exists_of_bind_eq_ok h
          obtain ⟨count, readCount, h⟩ := exists_of_bind_eq_ok h
          cases h
          exact ⟨season, a, {
            known := known
            aggregated := GraphError.ofStats_eq_ok aggregated
            seasonId := rfl
            time := rfl
            age := old
            count := GraphError.ofStats_eq_ok readCount
            games := ⟨wins, losses, GraphError.ofStats_eq_ok readWins,
              GraphError.ofStats_eq_ok readLosses, rfl⟩
            gamesPerDay := rfl
            value := rfl }⟩
      · cases h

theorem PopulationChart.point_eq_ok {seasons : Seasons} {filter : Filter}
    {measure : PopulationMeasure} {stat : Stat α} {p : PopulationPoint α}
    (h : point seasons filter measure stat = .ok p) :
    p.time = stat.time ∧ ∃ a, stat.aggregate filter [] = .ok a ∧ a.count [] = .ok p.count := by
  obtain ⟨_, a, is⟩ := exists_isPoint h
  exact ⟨is.time, a, is.aggregated, is.count⟩

theorem RaceChart.withSettings_eq_ok {c ready : RaceChart α} {s : Settings}
    (h : c.withSettings s = .ok ready) :
    ∃ points : List (SharePoint α),
      List.Forall₂ (fun stat p =>
          SharePoint.ofStat stat (filter s c.source.defaultVersion) .race c.races = .ok p)
        (c.source.mode.oldestFirst (some (s.version c.source.defaultVersion))) points ∧
      ready = { c with points := points, top := Scalar.max (points.foldl highest 0) 0.001 } := by
  rw [withSettings_eq] at h
  obtain ⟨points, computed, rfl⟩ := exists_of_map_eq_ok h
  exact ⟨points, (forall₂_of_mapM_eq_ok computed).imp fun _ _ => GraphError.ofStats_eq_ok, rfl⟩

theorem LeagueChart.withSettings_eq_ok {c ready : LeagueChart α} {s : Settings}
    (h : c.withSettings s = .ok ready) :
    ∃ newestFirst : List (SharePoint α),
      List.Forall₂ (fun stat p =>
          SharePoint.ofStat stat (Filter.ofControls s c.source.defaultVersion) .league c.leagues =
            .ok p)
        (c.source.mode.newestFirst (some (s.version c.source.defaultVersion))) newestFirst ∧
      ready = { c with
        points := (TimeSelection.ofControls s).apply SharePoint.season newestFirst } := by
  rw [withSettings_eq] at h
  obtain ⟨points, computed, rfl⟩ := exists_of_map_eq_ok h
  exact ⟨points, (forall₂_of_mapM_eq_ok computed).imp fun _ _ => GraphError.ofStats_eq_ok, rfl⟩

theorem PopulationChart.withSettings_eq_ok {c ready : PopulationChart α} {s : Settings}
    (h : c.withSettings s = .ok ready) :
    ∃ newestFirst : List (PopulationPoint α),
      List.Forall₂ (fun stat p =>
          point c.source.seasons (Filter.ofControls s c.source.defaultVersion)
            (PopulationMeasure.ofControls s) stat = .ok p)
        (c.source.mode.newestFirst (some (s.version c.source.defaultVersion))) newestFirst ∧
      let points := (TimeSelection.ofControls s).apply PopulationPoint.season newestFirst
      ready = { c with
        points := points
        top := points.foldl (fun top p => Scalar.max top p.value) 0.001 } := by
  rw [withSettings_eq] at h
  obtain ⟨points, computed, rfl⟩ := exists_of_map_eq_ok h
  exact ⟨points, forall₂_of_mapM_eq_ok computed, rfl⟩

/-! ## Selected points -/

omit [Build] in
theorem firstOfRuns_sublist (season : β → Int32) (before : Option Int32) (points : List β) :
    (TimeSelection.firstOfRuns season before points).Sublist points := by
  induction points generalizing before with
  | nil => exact .slnil
  | cons p rest ih =>
      rw [TimeSelection.firstOfRuns]
      split
      · exact .cons p (ih before)
      · exact .cons_cons p (ih _)

omit [Build] in
theorem apply_sublist (selection : TimeSelection) (season : β → Int32) (newestFirst : List β) :
    (selection.apply season newestFirst).Sublist newestFirst.reverse := by
  cases selection with
  | all => exact .refl _
  | seasonLast => exact (firstOfRuns_sublist season none newestFirst).reverse

omit [Build] in
/-- The newest point is selected. -/
theorem getLast?_apply (selection : TimeSelection) (season : β → Int32) (newestFirst : List β) :
    (selection.apply season newestFirst).getLast? = newestFirst[0]? := by
  rw [← List.head?_eq_getElem?]
  cases selection with
  | all => exact List.getLast?_reverse
  | seasonLast =>
      rw [TimeSelection.apply, List.getLast?_reverse]
      cases newestFirst <;> rfl

omit [Build] [Scalar α] in
/-- The last snapshot is the newest one of those that offer a version, if it offers the version. -/
theorem getElem?_zero_newestFirst {m : Mode α} {stat : Stat α} (last : m.last? = some stat)
    {version : Id} (offered : version ≤ stat.snapshot.seasonVersion) :
    (m.newestFirst (some version))[0]? = some stat := by
  obtain ⟨before, records⟩ := List.getLast?_eq_some_iff.mp last
  have kept : [stat].filter (fun r => decide (version ≤ Record.seasonVersion r)) = [stat] := by
    refine List.filter_eq_self.mpr fun r only => ?_
    rw [List.mem_singleton.mp only]
    exact decide_eq_true offered
  rw [← List.head?_eq_getElem?, Mode.newestFirst, Collection.newestFirst, List.head?_reverse,
    Collection.oldestFirst, records, List.filter_append, kept, List.getLast?_concat]

omit [Build] [Scalar α] in
/-- Points that are computed newest first are selected in the order of the records. -/
theorem times_apply_sublist (selection : TimeSelection) (season : β → Int32) {time : β → Int64}
    {m : Mode α} {least : Option Id} {newestFirst : List β}
    (times : newestFirst.map time = (m.newestFirst least).map Stat.time) :
    ((selection.apply season newestFirst).map time).Sublist (m.stats.records.map Stat.time) := by
  have selected := (apply_sublist selection season newestFirst).map time
  have order : newestFirst.reverse.map time = (m.oldestFirst least).map Stat.time := by
    rw [List.map_reverse, times, Mode.newestFirst, Collection.newestFirst, List.map_reverse,
      List.reverse_reverse]
    rfl
  rw [order] at selected
  exact selected.trans ((m.stats.oldestFirst_sublist least).map _)

theorem RaceChart.times_sublist {c ready : RaceChart α} {s : Settings}
    (h : c.withSettings s = .ok ready) :
    (ready.points.map SharePoint.time).Sublist (c.source.mode.stats.records.map Stat.time) := by
  obtain ⟨points, computed, rfl⟩ := withSettings_eq_ok h
  have times := map_eq_of_forall₂ computed Stat.time SharePoint.time fun _ _ point =>
    (SharePoint.ofStat_eq_ok point).2.1
  rw [times]
  exact (Collection.oldestFirst_sublist _ _).map _

theorem LeagueChart.times_sublist {c ready : LeagueChart α} {s : Settings}
    (h : c.withSettings s = .ok ready) :
    (ready.points.map SharePoint.time).Sublist (c.source.mode.stats.records.map Stat.time) := by
  obtain ⟨points, computed, rfl⟩ := withSettings_eq_ok h
  have times := map_eq_of_forall₂ computed Stat.time SharePoint.time fun _ _ point =>
    (SharePoint.ofStat_eq_ok point).2.1
  exact times_apply_sublist _ _ times

theorem PopulationChart.times_sublist {c ready : PopulationChart α} {s : Settings}
    (h : c.withSettings s = .ok ready) :
    (ready.points.map PopulationPoint.time).Sublist
      (c.source.mode.stats.records.map Stat.time) := by
  obtain ⟨points, computed, rfl⟩ := withSettings_eq_ok h
  have times := map_eq_of_forall₂ computed Stat.time PopulationPoint.time fun _ _ point =>
    (point_eq_ok point).1
  exact times_apply_sublist _ _ times

/-! ## Snapshots of points -/

theorem RaceChart.exists_snapshot {c ready : RaceChart α} {s : Settings}
    (h : c.withSettings s = .ok ready) {p : SharePoint α} (listed : p ∈ ready.points) :
    ∃ stat ∈ c.source.mode.stats.records,
      SharePoint.ofStat stat (filter s c.source.defaultVersion) .race c.races = .ok p := by
  obtain ⟨points, computed, rfl⟩ := withSettings_eq_ok h
  obtain ⟨stat, visited, ofStat⟩ := exists_mem_of_forall₂ computed listed
  exact ⟨stat, (Collection.oldestFirst_sublist _ _).mem visited, ofStat⟩

theorem LeagueChart.exists_snapshot {c ready : LeagueChart α} {s : Settings}
    (h : c.withSettings s = .ok ready) {p : SharePoint α} (listed : p ∈ ready.points) :
    ∃ stat ∈ c.source.mode.stats.records,
      SharePoint.ofStat stat (Filter.ofControls s c.source.defaultVersion) .league c.leagues =
        .ok p := by
  obtain ⟨newestFirst, computed, rfl⟩ := withSettings_eq_ok h
  have selected := List.mem_reverse.mp ((apply_sublist _ _ _).mem listed)
  obtain ⟨stat, visited, ofStat⟩ := exists_mem_of_forall₂ computed selected
  exact ⟨stat, (Collection.oldestFirst_sublist _ _).mem (List.mem_reverse.mp visited), ofStat⟩

theorem PopulationChart.exists_snapshot {c ready : PopulationChart α} {s : Settings}
    (h : c.withSettings s = .ok ready) {p : PopulationPoint α} (listed : p ∈ ready.points) :
    ∃ stat ∈ c.source.mode.stats.records, ∃ season a,
      IsPoint c.source.seasons (Filter.ofControls s c.source.defaultVersion)
        (PopulationMeasure.ofControls s) stat
        season a p := by
  obtain ⟨newestFirst, computed, rfl⟩ := withSettings_eq_ok h
  have selected := List.mem_reverse.mp ((apply_sublist _ _ _).mem listed)
  obtain ⟨stat, visited, point⟩ := exists_mem_of_forall₂ computed selected
  exact ⟨stat, (Collection.oldestFirst_sublist _ _).mem (List.mem_reverse.mp visited),
    exists_isPoint point⟩

/-! ## The newest point -/

variable {s : Settings} {stat : Stat α}

theorem RaceChart.newest {c ready : RaceChart α} (h : c.withSettings s = .ok ready)
    (last : c.source.mode.last? = some stat)
    (offered : s.version c.source.defaultVersion ≤ stat.snapshot.seasonVersion) :
    ∃ p, ready.points.getLast? = some p ∧
      SharePoint.ofStat stat (filter s c.source.defaultVersion) .race c.races = .ok p := by
  obtain ⟨points, computed, rfl⟩ := withSettings_eq_ok h
  obtain ⟨p, newest, ofLast⟩ := exists_getElem?_of_forall₂ (List.forall₂_reverse_iff.mpr computed)
    (getElem?_zero_newestFirst last offered)
  rw [← List.head?_eq_getElem?, List.head?_reverse] at newest
  exact ⟨p, newest, ofLast⟩

theorem LeagueChart.newest {c ready : LeagueChart α} (h : c.withSettings s = .ok ready)
    (last : c.source.mode.last? = some stat)
    (offered : s.version c.source.defaultVersion ≤ stat.snapshot.seasonVersion) :
    ∃ p, ready.points.getLast? = some p ∧
      SharePoint.ofStat stat (Filter.ofControls s c.source.defaultVersion) .league c.leagues =
        .ok p := by
  obtain ⟨points, computed, rfl⟩ := withSettings_eq_ok h
  obtain ⟨p, newest, ofLast⟩ :=
    exists_getElem?_of_forall₂ computed (getElem?_zero_newestFirst last offered)
  exact ⟨p, (getLast?_apply _ _ _).trans newest, ofLast⟩

theorem PopulationChart.newest {c ready : PopulationChart α} (h : c.withSettings s = .ok ready)
    (last : c.source.mode.last? = some stat)
    (offered : s.version c.source.defaultVersion ≤ stat.snapshot.seasonVersion) :
    ∃ p, ready.points.getLast? = some p ∧
      point c.source.seasons (Filter.ofControls s c.source.defaultVersion)
        (PopulationMeasure.ofControls s) stat = .ok p := by
  obtain ⟨points, computed, rfl⟩ := withSettings_eq_ok h
  obtain ⟨p, newest, ofLast⟩ :=
    exists_getElem?_of_forall₂ computed (getElem?_zero_newestFirst last offered)
  exact ⟨p, (getLast?_apply _ _ _).trans newest, ofLast⟩

end Points

end LadderAtlas
