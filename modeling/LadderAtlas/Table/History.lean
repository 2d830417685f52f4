import LadderAtlas.Chart.Format
import LadderAtlas.Record
import LadderAtlas.Stats.Collection
import LadderAtlas.Table.Basic

/-! # The ranking history of a team -/

namespace LadderAtlas.Table

def rankText (rank : Rank) : String :=
  Format.count (Binary64.ofNat rank.rank.toNat) ++ " / "
    ++ Format.count (Binary64.ofNat rank.count.toNat)

def historyRow (r : Ranking) : List String :=
  [Format.date r.time,
    Numeral.text r.season.toInt,
    rankText r.world,
    Scalar.fixedText 2 r.worldPercent ++ "%",
    rankText r.region,
    rankText r.league,
    Format.count r.points,
    Numeral.text r.wins.toNat,
    Numeral.text r.losses.toNat,
    match r.mmr with
    | some mmr => Numeral.text mmr.toInt
    | none => ""]

/-- One row for each ranking of a team, oldest first. -/
def ofHistory (history : Collection Ranking) : Table where
  title := "Ranking history"
  header :=
    ["Date", "Season", "World", "Top", "Region", "League", "Points", "Wins", "Losses", "MMR"]
  rows := history.records.map historyRow

end LadderAtlas.Table
