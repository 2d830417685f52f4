import LadderAtlas.Proofs.Chart.Points
import LadderAtlas.Proofs.Table.Rows

/-! # What charts and tables agree on

The newest point of a chart is that of the snapshot which the tables are made of, and it is read
from the same aggregate as the row of what is selected. Nothing is said of numbers here: whatever
the additions do, they are the same additions in the same order. Over exact numbers charts and
tables also agree on how many teams there are, which no grouping changes.
-/

namespace LadderAtlas

/-- The tables of what a chart is made from. -/
def ChartSource.tables {α : Type} (source : ChartSource α) : LatestTables α :=
  ⟨source.mode, source.catalog, source.defaultVersion⟩

/-- The controls select a version and a region, or all regions. -/
structure Settings.Selects (s : Settings) (defaultVersion version region : Id) : Prop where
  version : s.version defaultVersion = version
  region : s.idOrAll Control.region = region

/-- The filter for a version and a region. -/
def Filter.ofRegion (version region : Id) : Filter := (ofVersion version).choose .region region

theorem Settings.Selects.filter_eq {s : Settings} {defaultVersion version region : Id}
    (h : s.Selects defaultVersion version region) :
    Filter.ofControls s defaultVersion = Filter.ofRegion version region := by
  rw [Filter.ofControls, h.version, h.region]
  rfl

/-! ## Texts -/

section Texts

variable {α : Type} [Scalar α]

/-- Wherever an id is both ranked and listed, the row of a tooltip for the id and the cell of a
    table in the column of the id show the same text. -/
def SameTexts (label : Id → String) (ranked listed : List Id) (tooltip : Tooltip α) (front : Nat)
    (header cells : List String) : Prop :=
  ∀ (k j : Nat) (id : Id), ranked[k]? = some id → listed[j]? = some id →
    ∃ text, tooltip.rows[k + 2]? = some (label id, text) ∧
      header[front + j]? = some (label id) ∧ cells[front + j]? = some text

theorem ChartSource.shareTooltip_row (source : ChartSource α) (d : Dimension) {ranked : List Id}
    {p : SharePoint α} {k : Nat} {id : Id} {count : α} (here : ranked[k]? = some id)
    (counted : p.counts[k]? = some count) :
    (source.shareTooltip d ranked (some p)).rows[k + 2]? =
      some (source.catalog.label d id, Format.countOf count p.total) := by
  have pair : (p.counts.zip ranked)[k]? = some (count, id) :=
    List.getElem?_zip_eq_some.mpr ⟨counted, here⟩
  have inside : k < (p.counts.zip ranked).length := (List.getElem?_eq_some_iff.mp pair).1
  rw [shareTooltip, timeRows, List.append_assoc, List.cons_append, List.cons_append,
    List.nil_append, List.getElem?_cons_succ, List.getElem?_cons_succ,
    List.getElem?_append_left (by rwa [List.length_map]), List.getElem?_map, pair]
  rfl

theorem ChartSource.getLast?_shareTooltip (source : ChartSource α) (d : Dimension)
    (ranked : List Id) (p : SharePoint α) :
    (source.shareTooltip d ranked (some p)).rows.getLast? =
      some ("Population", Format.count p.total) :=
  List.getLast?_concat

/-- What is read from one aggregate is shown alike beside a point and in a row. -/
theorem Reads.sameTexts {a : Aggregate α} {p : SharePoint α} {ranked listed : List Id} {total : α}
    {counts : List α} (ofPoint : Reads a [] ranked p.total p.counts)
    (ofRow : Reads a [] listed total counts) (source : ChartSource α) (d : Dimension)
    (headings first : List String) (front : headings.length = first.length) :
    SameTexts (source.catalog.label d) ranked listed
      (source.shareTooltip d ranked (some p)) first.length
      (headings ++ listed.map (source.catalog.label d))
      (first ++ counts.map fun count => Format.countOf count total) := by
  intro k j id here there
  obtain ⟨sameTotal, sameCounts⟩ := ofPoint.agree ofRow
  obtain ⟨count, counted, counted'⟩ := sameCounts k j id here there
  refine ⟨_, source.shareTooltip_row d here counted, ?_, ?_⟩
  · rw [← front, List.getElem?_append_right (Nat.le_add_right _ _), Nat.add_sub_cancel_left,
      List.getElem?_map, there]
    rfl
  · rw [List.getElem?_append_right (Nat.le_add_right _ _), Nat.add_sub_cancel_left,
      List.getElem?_map, counted', sameTotal]
    rfl

/-- The newest point is shown with what is read from an aggregate of the last snapshot. -/
theorem LeagueChart.newest_tooltip {c ready : LeagueChart α} {stat : Stat α} {s : Settings}
    (accepted : c.withSettings s = .ok ready) (last : c.source.mode.last? = some stat)
    (offered : s.version c.source.defaultVersion ≤ stat.snapshot.seasonVersion) :
    ∃ p a, Chart.tooltip ready (ready.points.length - 1) =
        c.source.shareTooltip .league c.leagues (some p) ∧
      stat.aggregate (Filter.ofControls s c.source.defaultVersion) [.league] = .ok a ∧
      Reads a [] c.leagues p.total p.counts := by
  obtain ⟨p, newest, ofLast⟩ := newest accepted last offered
  obtain ⟨-, -, a, aggregated, reads⟩ := SharePoint.ofStat_eq_ok ofLast
  obtain ⟨_, -, rfl⟩ := withSettings_eq_ok accepted
  refine ⟨p, a, ?_, aggregated, reads⟩
  rw [← newest, List.getLast?_eq_getElem?]
  rfl

theorem RaceChart.newest_tooltip {c ready : RaceChart α} {stat : Stat α} {s : Settings}
    (accepted : c.withSettings s = .ok ready) (last : c.source.mode.last? = some stat)
    (offered : s.version c.source.defaultVersion ≤ stat.snapshot.seasonVersion) :
    ∃ p a, Chart.tooltip ready (ready.points.length - 1) =
        c.source.shareTooltip .race c.races (some p) ∧
      stat.aggregate (filter s c.source.defaultVersion) [.race] = .ok a ∧
      Reads a [] c.races p.total p.counts := by
  obtain ⟨p, newest, ofLast⟩ := newest accepted last offered
  obtain ⟨-, -, a, aggregated, reads⟩ := SharePoint.ofStat_eq_ok ofLast
  obtain ⟨_, -, rfl⟩ := withSettings_eq_ok accepted
  refine ⟨p, a, ?_, aggregated, reads⟩
  rw [← newest, List.getLast?_eq_getElem?]
  rfl

theorem RaceChart.filter_of_league {s : Settings} {defaultVersion version region league : Id}
    (selects : s.Selects defaultVersion version region) (chosen : s.idOrAll Control.league = league)
    (sound : ¬ (league = grandmaster ∧ version = firstVersion)) :
    filter s defaultVersion = (Filter.ofRegion version region).choose .league league := by
  rw [filter, chosen, selects.version, if_neg sound, selects.filter_eq]

/-- The tooltips of the newest points of the charts and the tables show the same texts: by league
    for the selected region, and by race for a selected league. -/
theorem tooltips_match_tables {source : ChartSource α} {stat : Stat α}
    (last : source.mode.last? = some stat) {version region : Id}
    (offered : version ≤ stat.snapshot.seasonVersion) {s t : Settings}
    (ofChart : s.Selects source.defaultVersion version region)
    (ofTable : t.version source.defaultVersion = version) :
    (∀ (c ready : LeagueChart α) (table : Table) (i : Nat), c.source = source →
      c.withSettings s = .ok ready → source.tables.league t = .ok table →
      RowOf (stat.layout.ids .region) region i →
      let tooltip := Chart.tooltip ready (ready.points.length - 1)
      ∃ cells population, table.rows[i]? = some cells ∧
        cells[0]? = some (source.catalog.label .region region) ∧
        tooltip.rows.getLast? = some ("Population", population) ∧
        table.header[1]? = some "Population" ∧ cells[1]? = some population ∧
        SameTexts (source.catalog.label .league) source.catalog.ranked.league
          (stat.layout.ids .league)
          tooltip 2 table.header cells) ∧
    (∀ (c ready : RaceChart α) (table : Table) (i : Nat) (league : Id), c.source = source →
      c.withSettings s = .ok ready → source.tables.race t = .ok table →
      t.idOrAll Control.region = region → s.idOrAll Control.league = league → league ≠ Id.all →
      ¬ (league = RaceChart.grandmaster ∧ version = RaceChart.firstVersion) →
      (stat.layout.ids .league)[i]? = some league →
      let tooltip := Chart.tooltip ready (ready.points.length - 1)
      ∃ cells, table.rows[i]? = some cells ∧
        cells[0]? = some (source.catalog.label .league league) ∧
        SameTexts (source.catalog.label .race) source.catalog.ranked.race (stat.layout.ids .race)
          tooltip 1 table.header cells) := by
  have recent := ofChart.version ▸ offered
  constructor
  · rintro c ready table i rfl accepted filled row tooltip
    obtain ⟨p, a, shown, aggregated, ofPoint⟩ := LeagueChart.newest_tooltip accepted last recent
    obtain ⟨b, total, counts, aggregated', ofRow, header, here⟩ :=
      LatestTables.league_row filled last row
    rw [ofChart.filter_eq, Filter.ofRegion, ← ofTable] at aggregated
    cases aggregated.symm.trans aggregated'
    change tooltip = _ at shown
    refine ⟨_, _, here, rfl, ?_, by rw [header]; rfl, rfl, ?_⟩
    · rw [shown, ChartSource.getLast?_shareTooltip, (ofPoint.agree ofRow).1]
    · rw [shown, header]
      exact ofPoint.sameTexts ofRow c.source .league ["Region", "Population"] [_, _] rfl
  · rintro c ready table i league rfl accepted filled selected chosen single sound row tooltip
    obtain ⟨p, a, shown, aggregated, ofPoint⟩ := RaceChart.newest_tooltip accepted last recent
    obtain ⟨b, total, counts, aggregated', ofRow, header, here⟩ :=
      LatestTables.race_row filled last row
    have sameFilter : Filter.ofControls t c.source.tables.defaultVersion =
        .ofRegion version region :=
      Settings.Selects.filter_eq ⟨ofTable, selected⟩
    rw [RaceChart.filter_of_league ofChart chosen sound, Filter.choose, if_neg single] at aggregated
    rw [sameFilter] at aggregated'
    cases aggregated.symm.trans aggregated'
    change tooltip = _ at shown
    refine ⟨_, here, rfl, ?_⟩
    rw [shown, header]
    exact ofPoint.sameTexts ofRow c.source .race ["League"] [_] rfl

/-- A snapshot of two regions, two leagues and two races, one number for each cell. -/
def Stat.ofNumbers (numbers : List α) : Stat α :=
  ⟨.ofIds 1 ⟨[0], [1, 2], [0, 6], [0, 1]⟩, ⟨1, 201, 28, 0, 1, 86400, numbers.toArray⟩⟩

/-- A mode of one snapshot. The leagues are ranked in another order than the snapshot has them. -/
def ChartSource.ofNumbers (numbers : List α) : ChartSource α :=
  ⟨⟨201, ⟨[.ofNumbers numbers]⟩⟩, { Catalog.empty with ranked := ⟨[0], [1, 2], [6, 0], [0, 1]⟩ },
    .ofList [⟨28, 1, 2017, 0, 172800, "#ffffff"⟩], 0⟩

/-- The second region and its first league. -/
theorem tooltips_match_tables_second_region :
    let source : ChartSource Float := .ofNumbers [10.5, 20, 30, 40, 50, 60, 70, 80.25]
    let s := (Settings.empty.set Control.region "2").set Control.league "0"
    (∃ ready table cells, (LeagueChart.new source).withSettings s = .ok ready ∧
      source.tables.league s = .ok table ∧ table.rows[1]? = some cells ∧
      SameTexts (source.catalog.label .league) [6, 0] [0, 6]
        (Chart.tooltip ready (ready.points.length - 1)) 2
        table.header cells) ∧
    (∃ ready table cells, (RaceChart.new source).withSettings s = .ok ready ∧
      source.tables.race s = .ok table ∧ table.rows[0]? = some cells ∧
      SameTexts (source.catalog.label .race) [0, 1] [0, 1]
        (Chart.tooltip ready (ready.points.length - 1)) 1
        table.header cells) := by
  intro source s
  have selects : s.Selects source.defaultVersion 0 2 := ⟨by decide +kernel, by decide +kernel⟩
  have last : source.mode.last? = some (.ofNumbers [10.5, 20, 30, 40, 50, 60, 70, 80.25]) := rfl
  obtain ⟨byLeague, byRace⟩ := tooltips_match_tables last (by decide) selects selects.version
  constructor
  · obtain ⟨ready, accepted⟩ :=
      exists_of_isOk ((LeagueChart.new source).withSettings s) (by decide +kernel)
    obtain ⟨table, filled⟩ := exists_of_isOk (source.tables.league s) (by decide +kernel)
    obtain ⟨cells, _, here, -, -, -, -, same⟩ := byLeague _ ready table 1 rfl accepted filled rfl
    exact ⟨ready, table, cells, accepted, filled, here, same⟩
  · obtain ⟨ready, accepted⟩ :=
      exists_of_isOk ((RaceChart.new source).withSettings s) (by decide +kernel)
    obtain ⟨table, filled⟩ := exists_of_isOk (source.tables.race s) (by decide +kernel)
    have league : s.idOrAll Control.league = 0 := by decide +kernel
    obtain ⟨cells, here, -, same⟩ :=
      byRace _ ready table 0 0 rfl accepted filled selects.region league (by decide) (by decide) rfl
    exact ⟨ready, table, cells, accepted, filled, here, same⟩

end Texts

/-! ## Populations -/

/-- Charts and tables show how many teams there are of a version in a region, or in all of them. -/
theorem populations_agree {source : ChartSource Rat} {stat : Stat Rat}
    (last : source.mode.last? = some stat) (version region : Id)
    (offered : version ≤ stat.snapshot.seasonVersion) :
    (∀ (c ready : PopulationChart Rat) (s : Settings), c.source = source →
      s.Selects source.defaultVersion version region → c.withSettings s = .ok ready →
      ∃ p, ready.points.getLast? = some p ∧ stat.Counts (.ofRegion version region) p.count) ∧
    (∀ (c ready : LeagueChart Rat) (s : Settings), c.source = source →
      s.Selects source.defaultVersion version region → c.withSettings s = .ok ready →
      ∃ p, ready.points.getLast? = some p ∧ stat.Counts (.ofRegion version region) p.total) ∧
    (∀ (c ready : RaceChart Rat) (s : Settings), c.source = source →
      s.Selects source.defaultVersion version region → s.idOrAll Control.league = Id.all →
      c.withSettings s = .ok ready →
      ∃ p, ready.points.getLast? = some p ∧ stat.Counts (.ofRegion version region) p.total) ∧
    (∀ (table : Table) (s : Settings) (i : Nat), s.version source.defaultVersion = version →
      source.tables.population s = .ok table → RowOf (stat.layout.ids .region) region i →
      ∃ n, stat.Counts (.ofRegion version region) n ∧
        table.rows[i]? = some [source.catalog.label .region region, Format.count n]) ∧
    (∀ (table : Table) (s : Settings) (i : Nat), s.version source.defaultVersion = version →
      source.tables.league s = .ok table → RowOf (stat.layout.ids .region) region i →
      ∃ n shares, stat.Counts (.ofRegion version region) n ∧ table.header[1]? = some "Population" ∧
        table.rows[i]? = some (source.catalog.label .region region :: Format.count n ::
          shares)) := by
  refine ⟨?_, ?_, ?_, ?_, ?_⟩
  · rintro c ready s rfl selects accepted
    obtain ⟨p, newest, ofLast⟩ := PopulationChart.newest accepted last (selects.version ▸ offered)
    obtain ⟨-, a, aggregated, read⟩ := PopulationChart.point_eq_ok ofLast
    exact ⟨p, newest, Stat.counts_of_aggregate (selects.filter_eq ▸ aggregated) read⟩
  · rintro c ready s rfl selects accepted
    obtain ⟨p, newest, ofLast⟩ := LeagueChart.newest accepted last (selects.version ▸ offered)
    obtain ⟨-, -, a, aggregated, reads⟩ := SharePoint.ofStat_eq_ok ofLast
    exact ⟨p, newest, Stat.counts_of_aggregate (selects.filter_eq ▸ aggregated) reads.total⟩
  · rintro c ready s rfl selects allLeagues accepted
    obtain ⟨p, newest, ofLast⟩ := RaceChart.newest accepted last (selects.version ▸ offered)
    obtain ⟨-, -, a, aggregated, reads⟩ := SharePoint.ofStat_eq_ok ofLast
    have filters : RaceChart.filter s c.source.defaultVersion = .ofRegion version region := by
      rw [RaceChart.filter_of_league selects allLeagues fun h => absurd h.1 (by decide),
        Filter.choose, if_pos rfl]
    exact ⟨p, newest, Stat.counts_of_aggregate (filters ▸ aggregated) reads.total⟩
  · rintro table s i rfl filled row
    obtain ⟨_, b, n, aggregated, read, here⟩ := LatestTables.population_row filled last row
    exact ⟨n, Stat.counts_of_aggregate aggregated read, here⟩
  · rintro table s i rfl filled row
    obtain ⟨b, n, counts, aggregated, reads, header, here⟩ :=
      LatestTables.league_row filled last row
    exact ⟨n, _, Stat.counts_of_aggregate aggregated reads.total, by rw [header]; rfl, here⟩

/-- Twelve teams in the second region. -/
theorem populations_agree_second_region :
    let source : ChartSource Rat := .ofNumbers [1, 2, 3, 4, 5, 4, 2, 1]
    let s := Settings.empty.set Control.region "2"
    (∃ ready p, (PopulationChart.new source).withSettings s = .ok ready ∧
      ready.points.getLast? = some p ∧
      p.count = 12) ∧
    (∃ ready p, (LeagueChart.new source).withSettings s = .ok ready ∧
      ready.points.getLast? = some p ∧
      p.total = 12) ∧
    (∃ ready p, (RaceChart.new source).withSettings s = .ok ready ∧ ready.points.getLast? = some p ∧
      p.total = 12) ∧
    (∃ table, source.tables.population s = .ok table ∧ table.rows[1]? = some ["2", "12"]) ∧
    (∃ table shares,
      source.tables.league s = .ok table ∧ table.rows[1]? = some ("2" :: "12" :: shares)) := by
  intro source s
  have selects : s.Selects source.defaultVersion 0 2 := ⟨by decide +kernel, by decide +kernel⟩
  have last : source.mode.last? = some (.ofNumbers [1, 2, 3, 4, 5, 4, 2, 1]) := rfl
  obtain ⟨ofPopulation, ofLeague, ofRace, populationTable, leagueTable⟩ :=
    populations_agree last 0 2 (by decide)
  have twelve (n : Rat)
      (counted : (Stat.ofNumbers [1, 2, 3, 4, 5, 4, 2, 1]).Counts (.ofRegion 0 2) n) : n = 12 :=
    Except.ok.inj (counted.symm.trans (by decide +kernel))
  have label : source.catalog.label .region 2 = "2" := by decide +kernel
  have text : Format.count (12 : Rat) = "12" := by decide +kernel
  refine ⟨?_, ?_, ?_, ?_, ?_⟩
  · obtain ⟨ready, accepted⟩ :=
      exists_of_isOk ((PopulationChart.new source).withSettings s) (by decide +kernel)
    obtain ⟨p, newest, counted⟩ := ofPopulation _ ready s rfl selects accepted
    exact ⟨ready, p, accepted, newest, twelve _ counted⟩
  · obtain ⟨ready, accepted⟩ :=
      exists_of_isOk ((LeagueChart.new source).withSettings s) (by decide +kernel)
    obtain ⟨p, newest, counted⟩ := ofLeague _ ready s rfl selects accepted
    exact ⟨ready, p, accepted, newest, twelve _ counted⟩
  · obtain ⟨ready, accepted⟩ :=
      exists_of_isOk ((RaceChart.new source).withSettings s) (by decide +kernel)
    obtain ⟨p, newest, counted⟩ := ofRace _ ready s rfl selects (by decide +kernel) accepted
    exact ⟨ready, p, accepted, newest, twelve _ counted⟩
  · obtain ⟨table, filled⟩ := exists_of_isOk (source.tables.population s) (by decide +kernel)
    obtain ⟨n, counted, here⟩ := populationTable table s 1 selects.version filled rfl
    rw [twelve n counted, label, text] at here
    exact ⟨table, filled, here⟩
  · obtain ⟨table, filled⟩ := exists_of_isOk (source.tables.league s) (by decide +kernel)
    obtain ⟨n, shares, counted, -, here⟩ := leagueTable table s 1 selects.version filled rfl
    rw [twelve n counted, label, text] at here
    exact ⟨table, shares, filled, here⟩

end LadderAtlas
