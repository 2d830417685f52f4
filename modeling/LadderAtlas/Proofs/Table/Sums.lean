import LadderAtlas.Proofs.Stats.Counts
import LadderAtlas.Proofs.Table.Rows

/-! # Sums of rows and columns

The tables of the latest snapshot are filled from several aggregates, and yet their numbers add up,
because each number counts the cells that one filter lets through. Breaking a filter out by a
dimension that it leaves open counts the same cells part by part: along a row by league or race,
down a column by region. Nothing depends on the ids being distinct, since an id that is listed twice
is counted twice on both sides.
-/

namespace LadderAtlas

/-! ## Counts of filters -/

theorem Filter.set_comm (f : Filter) {d e : Dimension} (other : d ≠ e) (ids ids' : List Id) :
    (f.set d ids).set e ids' = (f.set e ids').set d ids := by
  cases d <;> cases e <;> first | rfl | exact absurd rfl other

/-! ## Rows of counts -/

/-- The numbers of a row before they are written: how many teams there are in all, and under each
    heading. -/
structure CountRow where
  label : String
  total : Rat
  counts : List Rat

namespace CountRow

/-- The counts as they are written, each with its share of all. -/
def shares (row : CountRow) : List String :=
  row.counts.map fun count => Format.countOf count row.total

/-- The written row, with how many teams there are in all in front of the counts. -/
def withTotal (row : CountRow) : List String := row.label :: Format.count row.total :: row.shares

/-- The written row without that number. -/
def cells (row : CountRow) : List String := row.label :: row.shares

/-- The row counts what a filter lets through, in all and for each id of a dimension. -/
structure Of (stat : Stat Rat) (f : Filter) (d : Dimension) (row : CountRow) : Prop where
  total : stat.Counts f row.total
  counts : List.Forall₂ (fun id count => stat.Counts (f.set d [id]) count)
    (stat.layout.ids d) row.counts

variable {stat : Stat Rat} {f : Filter} {d e : Dimension} {row world : CountRow}
  {rows : List CountRow}

theorem Of.sum_eq (h : row.Of stat f d) (free : f.get? d = none) : row.counts.sum = row.total :=
  (h.total.eq_sum free h.counts).symm

theorem Of.length_shares (h : row.Of stat f d) :
    row.shares.length = (stat.layout.ids d).length := by
  rw [shares, List.length_map, h.counts.length_eq]

theorem Of.length_withTotal (h : row.Of stat f d) :
    row.withTotal.length = (stat.layout.ids d).length + 2 :=
  congrArg (· + 2) h.length_shares

theorem Of.length_cells (h : row.Of stat f d) : row.cells.length = (stat.layout.ids d).length + 1 :=
  congrArg (· + 1) h.length_shares

theorem Of.column (h : row.Of stat f d) {j : Nat} {id : Id}
    (here : (stat.layout.ids d)[j]? = some id) :
    stat.Counts (f.set d [id]) (row.counts.getD j 0) := by
  obtain ⟨count, found, counted⟩ := exists_getElem?_of_forall₂ h.counts here
  rwa [List.getD_eq_getElem?_getD, found]

theorem Of.beyond (h : row.Of stat f d) {j : Nat} (none : (stat.layout.ids d)[j]? = none) :
    row.counts.getD j 0 = 0 := by
  rw [List.getElem?_eq_none_iff, h.counts.length_eq] at none
  simp [none]

theorem of_reads {a : Aggregate Rat} {total : Rat} {counts : List Rat} (label : String)
    (aggregated : stat.aggregate f [d] = .ok a) (free : f.get? d = none)
    (reads : Reads a [] (stat.layout.ids d) total counts) : Of stat f d ⟨label, total, counts⟩ := by
  obtain ⟨ofTotal, ofCounts⟩ := Stat.counts_of_reads aggregated free (fun id listed => listed) reads
  exact ⟨ofTotal, ofCounts⟩

/-- The rows of a table by region and the row of the world: the world has in every column what the
    regions have together, and along every row the counts add up to how many teams there are in
    all. -/
structure AddUp (regions : List CountRow) (world : CountRow) : Prop where
  totals : world.total = (regions.map (·.total)).sum
  columns : ∀ j, world.counts.getD j 0 = (regions.map fun row => row.counts.getD j 0).sum
  rows : ∀ row ∈ regions ++ [world], row.counts.sum = row.total

/-- The rows of the parts by one dimension and the row of the whole add up. -/
theorem addUp (ofRows : List.Forall₂ (fun id row => Of stat (f.set d [id]) e row)
    (stat.layout.ids d) rows)
    (ofWorld : world.Of stat f e) (other : d ≠ e) (free : f.get? d = none)
    (free' : f.get? e = none) :
    AddUp rows world := by
  have freePart (id : Id) : (f.set d [id]).get? e = none := by
    rw [Filter.get?_set_of_ne f other, free']
  refine ⟨?_, fun j => ?_, fun row member => ?_⟩
  · have totals := List.forall₂_map_right_iff.mpr (ofRows.imp fun id row ofRow => ofRow.total)
    exact ofWorld.total.eq_sum free totals
  · cases column : (stat.layout.ids e)[j]? with
    | none =>
        rw [ofWorld.beyond column]
        refine (List.sum_eq_zero fun count listed => ?_).symm
        obtain ⟨row, member, rfl⟩ := List.mem_map.mp listed
        obtain ⟨id, -, ofRow⟩ := exists_mem_of_forall₂ ofRows member
        exact ofRow.beyond column
    | some id =>
        have parts := List.forall₂_map_right_iff.mpr (ofRows.imp fun part row ofRow => by
          have counted := ofRow.column column
          rwa [Filter.set_comm f other] at counted)
        refine (ofWorld.column column).eq_sum ?_ parts
        rw [Filter.get?_set_of_ne f (Ne.symm other), free]
  · rcases List.mem_append.mp member with ofRegion | ofAll
    · obtain ⟨id, -, ofRow⟩ := exists_mem_of_forall₂ ofRows ofRegion
      exact ofRow.sum_eq (freePart id)
    · rw [List.mem_singleton.mp ofAll]
      exact ofWorld.sum_eq free'

end CountRow

/-! ## Tables -/

namespace LatestTables

section Last

variable {α : Type} [Scalar α] {t : LatestTables α} {filter : Filter} {groupBy : List Dimension}
  {a : Aggregate α}

/-- Tables are filled from the last snapshot. -/
theorem exists_last (h : t.aggregate filter groupBy = .ok a) :
    ∃ stat, t.mode.last? = some stat ∧ stat.aggregate filter groupBy = .ok a := by
  obtain ⟨stat, found, -⟩ := exists_of_bind_eq_ok h
  have last : t.mode.last? = some stat := by
    rw [Mode.last] at found
    split at found
    · next last => rw [last, Except.ok.inj found]
    · cases found
  exact ⟨stat, last, aggregate_eq_ok last h⟩

end Last

variable {t : LatestTables Rat} {stat : Stat Rat} {s : Settings} {table : Table}

/-- How the league table of a snapshot is made of counts. -/
structure LeagueRows (t : LatestTables Rat) (stat : Stat Rat) (f : Filter) (table : Table)
    (regions : List CountRow) (world : CountRow) : Prop where
  written : table.rows = (regions ++ [world]).map CountRow.withTotal
  wide : ∀ cells ∈ table.rows, cells.length = table.header.length
  ofRegions : List.Forall₂ (fun region row => row.label = t.catalog.label .region region ∧
    row.Of stat (f.set .region [region]) .league) (stat.layout.ids .region) regions
  ofWorld : world.label = t.catalog.label .region Id.all ∧ world.Of stat f .league
  sums : CountRow.AddUp regions world

/-- How the race table of a snapshot is made of counts. -/
structure RaceRows (t : LatestTables Rat) (stat : Stat Rat) (f : Filter) (table : Table)
    (leagues : List CountRow) : Prop where
  written : table.rows = leagues.map CountRow.cells
  wide : ∀ cells ∈ table.rows, cells.length = table.header.length
  ofLeagues : List.Forall₂ (fun league row => row.label = t.catalog.label .league league ∧
    row.Of stat (f.set .league [league]) .race) (stat.layout.ids .league) leagues
  sums : ∀ row ∈ leagues, row.counts.sum = row.total

/-- How the population table of a snapshot is made of counts. -/
structure PopulationRows (t : LatestTables Rat) (stat : Stat Rat) (f : Filter) (table : Table)
    (regions : List (String × Rat)) (world : Rat) : Prop where
  written : table.rows = (regions ++ [(t.catalog.label .region Id.all, world)]).map fun row =>
    [row.1, Format.count row.2]
  ofRegions : List.Forall₂ (fun region row => row.1 = t.catalog.label .region region ∧
    stat.Counts (f.set .region [region]) row.2) (stat.layout.ids .region) regions
  ofWorld : stat.Counts f world
  sums : world = (regions.map (·.2)).sum

theorem exists_leagueRows (h : t.league s = .ok table) :
    ∃ stat regions world, t.mode.last? = some stat ∧
      LeagueRows t stat (t.versionFilter s) table regions world := by
  obtain ⟨byRegion, grouped, h⟩ := exists_of_bind_eq_ok (GraphError.ofStats_eq_ok h)
  obtain ⟨all, alone, h⟩ := exists_of_bind_eq_ok h
  obtain ⟨rows, written, h⟩ := exists_of_bind_eq_ok h
  obtain ⟨worldCells, writtenWorld, h⟩ := exists_of_bind_eq_ok h
  cases h
  obtain ⟨stat, last, grouped⟩ := exists_last grouped
  replace alone := aggregate_eq_ok last alone
  have listed : byRegion.ids .region = stat.layout.ids .region := Stat.ids_of_aggregate grouped rfl
  have leagues : byRegion.ids .league = stat.layout.ids .league := Stat.ids_of_aggregate grouped rfl
  rw [leagues, listed] at written
  rw [leagues] at writtenWorld
  obtain ⟨regions, ofRegions, rfl⟩ := exists_map_of_forall₂
    (fun region row => row.label = t.catalog.label .region region ∧
      row.Of stat ((t.versionFilter s).set .region [region]) .league)
    CountRow.withTotal (forall₂_of_mapM_eq_ok written) fun region member cells computed => by
      obtain ⟨total, counts, reads, rfl⟩ := leagueRow_eq_ok computed
      obtain ⟨b, part, same⟩ := Stat.exists_part grouped (listed.symm ▸ member)
      exact ⟨⟨_, total, counts⟩, ⟨rfl, CountRow.of_reads _ part rfl (reads.imp same)⟩, rfl⟩
  obtain ⟨total, counts, reads, rfl⟩ := leagueRow_eq_ok writtenWorld
  have ofWorld := CountRow.of_reads (t.catalog.label .region Id.all) alone rfl reads
  have ofRows := ofRegions.imp fun _ _ ofRegion => ofRegion.2
  have other : Dimension.region ≠ .league := by decide
  refine ⟨stat, regions, ⟨_, total, counts⟩, last, ?_, fun cells member => ?_, ofRegions,
    ⟨rfl, ofWorld⟩, CountRow.addUp ofRows ofWorld other rfl rfl⟩
  · rw [List.map_append]
    rfl
  · have wide : cells.length = (stat.layout.ids .league).length + 2 := by
      rcases List.mem_append.mp member with ofRegion | ofAll
      · obtain ⟨row, listedRow, rfl⟩ := List.mem_map.mp ofRegion
        obtain ⟨region, -, counted⟩ := exists_mem_of_forall₂ ofRows listedRow
        exact counted.length_withTotal
      · rw [List.mem_singleton.mp ofAll]
        exact ofWorld.length_withTotal
    simp [wide, leagues]

theorem exists_raceRows (h : t.race s = .ok table) :
    ∃ stat leagues, t.mode.last? = some stat ∧
      RaceRows t stat (Filter.ofControls s t.defaultVersion) table leagues := by
  obtain ⟨byLeague, grouped, h⟩ := exists_of_bind_eq_ok (GraphError.ofStats_eq_ok h)
  obtain ⟨rows, written, h⟩ := exists_of_bind_eq_ok h
  cases h
  obtain ⟨stat, last, grouped⟩ := exists_last grouped
  have freeLeague : (Filter.ofControls s t.defaultVersion).get? .league = none :=
    Filter.get?_ofControls s _ (by decide) (by decide)
  have freeRace : (Filter.ofControls s t.defaultVersion).get? .race = none :=
    Filter.get?_ofControls s _ (by decide) (by decide)
  have free (league : Id) :
      ((Filter.ofControls s t.defaultVersion).set .league [league]).get? .race = none := by
    rw [Filter.get?_set_of_ne _ (by decide), freeRace]
  have listed : byLeague.ids .league = stat.layout.ids .league :=
    Stat.ids_of_aggregate grouped freeLeague
  have races : byLeague.ids .race = stat.layout.ids .race := Stat.ids_of_aggregate grouped freeRace
  rw [listed, races] at written
  obtain ⟨leagues, ofLeagues, rfl⟩ := exists_map_of_forall₂
    (fun league row => row.label = t.catalog.label .league league ∧
      row.Of stat ((Filter.ofControls s t.defaultVersion).set .league [league]) .race)
    CountRow.cells (forall₂_of_mapM_eq_ok written) fun league member cells computed => by
      obtain ⟨total, read, computed⟩ := exists_of_bind_eq_ok computed
      obtain ⟨_, counted, computed⟩ := exists_of_bind_eq_ok computed
      obtain ⟨counts, reads, rfl⟩ := countCells_eq_ok read counted
      cases computed
      obtain ⟨b, part, same⟩ := Stat.exists_part grouped (listed.symm ▸ member)
      exact ⟨⟨_, total, counts⟩, ⟨rfl, CountRow.of_reads _ part (free league) (reads.imp same)⟩,
        rfl⟩
  refine ⟨stat, leagues, last, rfl, fun cells member => ?_, ofLeagues, fun row member => ?_⟩
  · obtain ⟨row, listedRow, rfl⟩ := List.mem_map.mp member
    obtain ⟨league, -, -, counted⟩ := exists_mem_of_forall₂ ofLeagues listedRow
    simp [counted.length_cells, races]
  · obtain ⟨league, -, -, counted⟩ := exists_mem_of_forall₂ ofLeagues member
    exact counted.sum_eq (free league)

theorem exists_populationRows (h : t.population s = .ok table) :
    ∃ stat regions world, t.mode.last? = some stat ∧
      PopulationRows t stat (t.versionFilter s) table regions world := by
  obtain ⟨byRegion, grouped, h⟩ := exists_of_bind_eq_ok (GraphError.ofStats_eq_ok h)
  obtain ⟨rows, written, h⟩ := exists_of_bind_eq_ok h
  obtain ⟨worldCells, writtenWorld, h⟩ := exists_of_bind_eq_ok h
  cases h
  obtain ⟨stat, last, grouped⟩ := exists_last grouped
  have listed : byRegion.ids .region = stat.layout.ids .region := Stat.ids_of_aggregate grouped rfl
  rw [listed] at written
  obtain ⟨regions, ofRegions, rfl⟩ := exists_map_of_forall₂
    (fun region (row : String × Rat) => row.1 = t.catalog.label .region region ∧
      stat.Counts ((t.versionFilter s).set .region [region]) row.2)
    (fun row => [row.1, Format.count row.2]) (forall₂_of_mapM_eq_ok written)
      fun region member cells computed => by
      obtain ⟨count, read, computed⟩ := exists_of_bind_eq_ok computed
      cases computed
      obtain ⟨b, part, same⟩ := Stat.exists_part grouped (listed.symm ▸ member)
      have counted := Stat.counts_of_aggregate part ((same [] (Nat.zero_le _)).symm.trans read)
      exact ⟨(_, count), ⟨rfl, counted⟩, rfl⟩
  obtain ⟨world, read, writtenWorld⟩ := exists_of_bind_eq_ok writtenWorld
  cases writtenWorld
  have ofWorld := Stat.counts_of_aggregate grouped read
  have parts := List.forall₂_map_right_iff.mpr (ofRegions.imp fun _ _ ofRegion => ofRegion.2)
  refine ⟨stat, regions, world, last, ?_, ofRegions, ofWorld, ofWorld.eq_sum rfl parts⟩
  rw [List.map_append]
  rfl

/-- The numbers of the tables add up. In the league table and in the population table the row of the
    world has in every column what the regions have together; in the league table and in the race
    table the counts along a row add up to the number that their percentages are taken of, and no
    row is shorter or longer than the header. -/
theorem tables_add_up (t : LatestTables Rat) (s : Settings) :
    (∀ table, t.league s = .ok table → ∃ stat regions world, t.mode.last? = some stat ∧
      LeagueRows t stat (t.versionFilter s) table regions world) ∧
    (∀ table, t.population s = .ok table → ∃ stat regions world, t.mode.last? = some stat ∧
      PopulationRows t stat (t.versionFilter s) table regions world) ∧
    ∀ table, t.race s = .ok table → ∃ stat leagues, t.mode.last? = some stat ∧
      RaceRows t stat (Filter.ofControls s t.defaultVersion) table leagues :=
  ⟨fun _ => exists_leagueRows, fun _ => exists_populationRows, fun _ => exists_raceRows⟩

/-- A region and a league listed twice: so are their rows and their columns, and the world has them
    twice as well. -/
theorem tables_add_up_listed_twice :
    let stat : Stat Rat := ⟨.ofIds 1 ⟨[0], [1, 1, 2], [6, 0, 6], [0, 1]⟩,
      ⟨1, 201, 28, 0, 1, 86400, #[0, 1, 2, 3, 4, 5, 6, 7, 8, 9, 10, 11, 12, 13, 14, 15, 16, 17]⟩⟩
    let t : LatestTables Rat := ⟨⟨201, ⟨[stat]⟩⟩, .empty, 0⟩
    let f := t.versionFilter .empty
    let leagues := [["1", "59", "21 (35.59%)", "17 (28.81%)", "21 (35.59%)"],
      ["1", "59", "21 (35.59%)", "17 (28.81%)", "21 (35.59%)"],
      ["2", "95", "33 (34.74%)", "29 (30.53%)", "33 (34.74%)"],
      ["-2", "213", "75 (35.21%)", "63 (29.58%)", "75 (35.21%)"]]
    let populations := [["1", "59"], ["1", "59"], ["2", "95"], ["-2", "213"]]
    let races := [["6", "36 (48.00%)", "39 (52.00%)"], ["0", "30 (47.62%)", "33 (52.38%)"],
      ["6", "36 (48.00%)", "39 (52.00%)"]]
    (∃ table regions world, t.league .empty = .ok table ∧ LeagueRows t stat f table regions world ∧
      table.rows = leagues) ∧
    (∃ table regions world,
      t.population .empty = .ok table ∧ PopulationRows t stat f table regions world ∧
      table.rows = populations) ∧
    ∃ table rows, t.race .empty = .ok table ∧ RaceRows t stat f table rows ∧
      table.rows = races := by
  intro stat t f leagues populations races
  have last : t.mode.last? = some stat := rfl
  obtain ⟨league, population, race⟩ := tables_add_up t .empty
  refine ⟨?_, ?_, ?_⟩
  · have computed : (t.league .empty).map Table.rows = .ok leagues := by decide +kernel
    obtain ⟨table, filled, written⟩ := exists_of_map_eq_ok computed
    obtain ⟨same, regions, world, found, rows⟩ := league table filled
    cases found.symm.trans last
    exact ⟨table, regions, world, filled, rows, written⟩
  · have computed : (t.population .empty).map Table.rows = .ok populations := by decide +kernel
    obtain ⟨table, filled, written⟩ := exists_of_map_eq_ok computed
    obtain ⟨same, regions, world, found, rows⟩ := population table filled
    cases found.symm.trans last
    exact ⟨table, regions, world, filled, rows, written⟩
  · have computed : (t.race .empty).map Table.rows = .ok races := by decide +kernel
    obtain ⟨table, filled, written⟩ := exists_of_map_eq_ok computed
    obtain ⟨same, ranks, found, rows⟩ := race table filled
    cases found.symm.trans last
    exact ⟨table, ranks, filled, rows, written⟩

end LatestTables

end LadderAtlas
