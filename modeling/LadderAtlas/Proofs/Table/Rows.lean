import LadderAtlas.Proofs.Chart.Points
import LadderAtlas.Table.Latest

/-! # Rows of tables

The tables of the latest snapshot are made of counts that are read from its aggregates. A row by
region is that of the aggregate of the region alone, a row by league that of the league alone; the
last row by region is that of the world, which is no region but all of them.
-/

namespace LadderAtlas

/-- Row `i` of a table by region is that of a region, and the last one that of the world. -/
def RowOf (regions : List Id) (region : Id) (i : Nat) : Prop :=
  if region = Id.all then i = regions.length else regions[i]? = some region

theorem exists_row_of_rowOf {regions : List Id} {rows : List (List String)}
    {R : Id → List String → Prop} (h : List.Forall₂ R regions rows) (worldRow : List String)
    {region : Id} {i : Nat} (row : RowOf regions region i) :
    (region = Id.all ∧ (rows ++ [worldRow])[i]? = some worldRow) ∨
      (region ≠ Id.all ∧ region ∈ regions ∧ ∃ cells, (rows ++ [worldRow])[i]? = some cells ∧
        R region cells) := by
  unfold RowOf at row
  split at row
  · next world =>
      subst row
      rw [h.length_eq]
      exact .inl ⟨world, List.getElem?_concat_length⟩
  · next single =>
      obtain ⟨cells, there, related⟩ := exists_getElem?_of_forall₂ h row
      refine .inr ⟨single, List.mem_of_getElem? row, cells, ?_, related⟩
      rw [List.getElem?_append_left (List.getElem?_eq_some_iff.mp there).1, there]

namespace LatestTables

variable {α : Type} [Scalar α] {t : LatestTables α} {stat : Stat α} {filter : Filter}
  {groupBy : List Dimension} {a : Aggregate α} {s : Settings} {table : Table}

theorem aggregate_eq_ok (last : t.mode.last? = some stat) (h : t.aggregate filter groupBy = .ok a) :
    stat.aggregate filter groupBy = .ok a := by
  have found : t.mode.last = .ok stat := by rw [Mode.last, last]
  rw [aggregate, bind_of_eq_ok found] at h
  obtain ⟨-, -, h⟩ := exists_of_bind_eq_ok h
  exact h

theorem countCells_eq_ok {path ids : List Id} {total : α} {cells : List String}
    (read : a.count path = .ok total) (h : countCells a path ids total = .ok cells) :
    ∃ counts, Reads a path ids total counts ∧
      cells = counts.map fun count => Format.countOf count total := by
  obtain ⟨counts, reads, rfl⟩ :=
    exists_map_of_forall₂ (fun id count => a.count (path ++ [id]) = .ok count)
    (fun count => Format.countOf count total) (forall₂_of_mapM_eq_ok h) fun id _ cell computed => by
      obtain ⟨count, readHere, written⟩ := exists_of_bind_eq_ok computed
      cases written
      exact ⟨count, readHere, rfl⟩
  exact ⟨counts, ⟨read, reads⟩, rfl⟩

theorem leagueRow_eq_ok {leagues path : List Id} {region : Id} {cells : List String}
    (h : t.leagueRow a leagues region path = .ok cells) :
    ∃ total counts, Reads a path leagues total counts ∧
      cells = t.catalog.label .region region :: Format.count total ::
        counts.map fun count => Format.countOf count total := by
  obtain ⟨total, read, h⟩ := exists_of_bind_eq_ok h
  obtain ⟨_, written, h⟩ := exists_of_bind_eq_ok h
  obtain ⟨counts, reads, rfl⟩ := countCells_eq_ok read written
  cases h
  exact ⟨total, counts, reads, rfl⟩

/-- A row by region is read from the aggregate of the region alone. -/
theorem league_row (h : t.league s = .ok table) (last : t.mode.last? = some stat)
    {region : Id} {i : Nat} (row : RowOf (stat.layout.ids .region) region i) :
    ∃ b total counts, stat.aggregate ((t.versionFilter s).choose .region region) [.league] = .ok b ∧
      Reads b [] (stat.layout.ids .league) total counts ∧
      table.header =
        "Region" :: "Population" :: (stat.layout.ids .league).map (t.catalog.label .league) ∧
      table.rows[i]? = some (t.catalog.label .region region :: Format.count total ::
        counts.map fun count => Format.countOf count total) := by
  obtain ⟨byRegion, grouped, h⟩ := exists_of_bind_eq_ok (GraphError.ofStats_eq_ok h)
  obtain ⟨world, alone, h⟩ := exists_of_bind_eq_ok h
  obtain ⟨rows, written, h⟩ := exists_of_bind_eq_ok h
  obtain ⟨worldRow, writtenWorld, h⟩ := exists_of_bind_eq_ok h
  cases h
  replace grouped := aggregate_eq_ok last grouped
  have regions : byRegion.ids .region = stat.layout.ids .region := Stat.ids_of_aggregate grouped rfl
  have leagues : byRegion.ids .league = stat.layout.ids .league := Stat.ids_of_aggregate grouped rfl
  rw [leagues, regions] at written
  rw [leagues] at writtenWorld ⊢
  rcases exists_row_of_rowOf (forall₂_of_mapM_eq_ok written) worldRow row with
    ⟨rfl, here⟩ | ⟨single, listed, cells, here, computed⟩
  · obtain ⟨total, counts, reads, rfl⟩ := leagueRow_eq_ok writtenWorld
    exact ⟨world, total, counts, aggregate_eq_ok last alone, reads, rfl, here⟩
  · obtain ⟨total, counts, reads, rfl⟩ := leagueRow_eq_ok computed
    obtain ⟨b, part, same⟩ := Stat.exists_part grouped (regions.symm ▸ listed)
    refine ⟨b, total, counts, ?_, reads.imp same, rfl, here⟩
    rw [Filter.choose, if_neg single]
    exact part

/-- A row by league is read from the aggregate of the league alone. -/
theorem race_row (h : t.race s = .ok table) (last : t.mode.last? = some stat)
    {league : Id} {i : Nat} (row : (stat.layout.ids .league)[i]? = some league) :
    ∃ b total counts,
      stat.aggregate ((Filter.ofControls s t.defaultVersion).set .league [league]) [.race] = .ok b ∧
      Reads b [] (stat.layout.ids .race) total counts ∧
      table.header = "League" :: (stat.layout.ids .race).map (t.catalog.label .race) ∧
      table.rows[i]? = some (t.catalog.label .league league ::
        counts.map fun count => Format.countOf count total) := by
  obtain ⟨byLeague, grouped, h⟩ := exists_of_bind_eq_ok (GraphError.ofStats_eq_ok h)
  obtain ⟨rows, written, h⟩ := exists_of_bind_eq_ok h
  cases h
  replace grouped := aggregate_eq_ok last grouped
  have leagues : byLeague.ids .league = stat.layout.ids .league :=
    Stat.ids_of_aggregate grouped (Filter.get?_choose_of_ne _ (by decide) _)
  have races : byLeague.ids .race = stat.layout.ids .race :=
    Stat.ids_of_aggregate grouped (Filter.get?_choose_of_ne _ (by decide) _)
  rw [leagues, races] at written
  rw [races]
  obtain ⟨cells, here, computed⟩ := exists_getElem?_of_forall₂ (forall₂_of_mapM_eq_ok written) row
  obtain ⟨total, read, computed⟩ := exists_of_bind_eq_ok computed
  obtain ⟨_, counted, computed⟩ := exists_of_bind_eq_ok computed
  obtain ⟨counts, reads, rfl⟩ := countCells_eq_ok read counted
  cases computed
  obtain ⟨b, part, same⟩ := Stat.exists_part grouped (leagues.symm ▸ List.mem_of_getElem? row)
  exact ⟨b, total, counts, part, reads.imp same, rfl, here⟩

theorem population_row (h : t.population s = .ok table) (last : t.mode.last? = some stat)
    {region : Id} {i : Nat} (row : RowOf (stat.layout.ids .region) region i) :
    ∃ groupBy b total, stat.aggregate ((t.versionFilter s).choose .region region) groupBy = .ok b ∧
      b.count [] = .ok total ∧
      table.rows[i]? = some [t.catalog.label .region region, Format.count total] := by
  obtain ⟨byRegion, grouped, h⟩ := exists_of_bind_eq_ok (GraphError.ofStats_eq_ok h)
  obtain ⟨rows, written, h⟩ := exists_of_bind_eq_ok h
  obtain ⟨worldRow, writtenWorld, h⟩ := exists_of_bind_eq_ok h
  cases h
  replace grouped := aggregate_eq_ok last grouped
  have regions : byRegion.ids .region = stat.layout.ids .region := Stat.ids_of_aggregate grouped rfl
  rw [regions] at written
  rcases exists_row_of_rowOf (forall₂_of_mapM_eq_ok written) worldRow row with
    ⟨rfl, here⟩ | ⟨single, listed, cells, here, computed⟩
  · obtain ⟨total, read, writtenWorld⟩ := exists_of_bind_eq_ok writtenWorld
    cases writtenWorld
    exact ⟨[.region], byRegion, total, grouped, read, here⟩
  · obtain ⟨total, read, computed⟩ := exists_of_bind_eq_ok computed
    cases computed
    obtain ⟨b, part, same⟩ := Stat.exists_part grouped (regions.symm ▸ listed)
    refine ⟨[], b, total, ?_, (same [] (Nat.zero_le _)).symm.trans read, here⟩
    rw [Filter.choose, if_neg single]
    exact part

end LatestTables

end LadderAtlas
