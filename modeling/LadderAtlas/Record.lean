import LadderAtlas.Dimension
import LadderAtlas.Number.Scalar
import LadderAtlas.Json.Decode

/-! # Records

The two kinds of time-stamped records: the snapshot of all statistics of a mode at one time, and the
rank of a team at one time. Both have what a `Record` needs to live in a collection.
-/

namespace LadderAtlas

class Record (ρ : Type) where
  id : ρ → Int64
  /-- The highest game version that the record's season offers. -/
  seasonVersion : ρ → Id
  /-- Seconds from 1 January 1970. -/
  time : ρ → Int64

/-- All statistics of a mode at one time, as one flat array of cells. -/
structure Snapshot (α : Type) where
  id : Int64
  mode : Id
  season : Int32
  seasonVersion : Id
  statVersion : UInt32
  time : Int64
  data : Array α
  deriving Repr

namespace Snapshot

instance {α : Type} : Record (Snapshot α) where
  id := (·.id)
  seasonVersion := (·.seasonVersion)
  time := (·.time)

def fieldNames : List String :=
  ["id", "mode_id", "season_id", "season_version", "stat_version", "data_time", "data"]

def ofJson? (j : Json) : Option (Snapshot Float) := do
  let fields ← j.fields? fieldNames
  return {
    id := ← fields.required "id" Json.int64?
    mode := ← fields.required "mode_id" Json.int32?
    season := ← fields.required "season_id" Json.int32?
    seasonVersion := ← fields.required "season_version" Json.int32?
    statVersion := ← fields.required "stat_version" Json.uint32?
    time := ← fields.required "data_time" Json.int64?
    data := (← fields.required "data" (Json.list? Json.double?)).toArray }

def toJson (s : Snapshot Float) : Json :=
  Json.record [
    ("id", .ofInt s.id.toInt),
    ("mode_id", .ofInt s.mode.toInt),
    ("season_id", .ofInt s.season.toInt),
    ("season_version", .ofInt s.seasonVersion.toInt),
    ("stat_version", .ofInt s.statVersion.toNat),
    ("data_time", .ofInt s.time.toInt),
    ("data", .array (s.data.toList.map .ofDouble))]

def parseList? (bytes : ByteArray) : Option (List (Snapshot Float)) :=
  Json.parseBytes? bytes >>= Json.list? ofJson?

end Snapshot

structure Rank where
  rank : UInt32
  count : UInt32
  deriving Repr, DecidableEq

structure Ranking where
  id : Int64
  time : Int64
  season : Int32
  seasonVersion : Id
  version : Id
  world : Rank
  region : Rank
  league : Rank
  ladder : Rank
  points : Float
  wins : UInt32
  losses : UInt32
  mmr : Option Int32
  deriving Repr

namespace Ranking

instance : Record Ranking where
  id := (·.id)
  seasonVersion := (·.seasonVersion)
  time := (·.time)

def fieldNames : List String :=
  ["id", "data_time", "season_id", "season_version", "version", "world_rank", "world_count",
    "region_rank", "region_count", "league_rank", "league_count", "ladder_rank", "ladder_count",
    "points", "wins", "losses", "mmr"]

/-- The ranking that a JSON value is. The season version, the ladder and the rating may be
    missing. -/
def ofJson? (j : Json) : Option Ranking := do
  let fields ← j.fields? fieldNames
  let word (name : String) := fields.required name Json.uint32?
  let wordOrZero (name : String) := fields.optional name Json.uint32? 0
  return {
    id := ← fields.required "id" Json.int64?
    time := ← fields.required "data_time" Json.int64?
    season := ← fields.required "season_id" Json.int32?
    seasonVersion := ← fields.optional "season_version" Json.int32? 0
    version := ← fields.required "version" Json.int32?
    world := ⟨← word "world_rank", ← word "world_count"⟩
    region := ⟨← word "region_rank", ← word "region_count"⟩
    league := ⟨← word "league_rank", ← word "league_count"⟩
    ladder := ⟨← wordOrZero "ladder_rank", ← wordOrZero "ladder_count"⟩
    points := ← fields.required "points" Json.double?
    wins := ← word "wins"
    losses := ← word "losses"
    mmr := ← fields.optional "mmr" (Json.nullable? Json.int32?) none }

def parseList? (bytes : ByteArray) : Option (List Ranking) :=
  Json.parseBytes? bytes >>= Json.list? ofJson?

/-- The percentage of the world's teams down to this one, zero in an empty world. -/
def worldPercent (r : Ranking) : Float :=
  if r.world.count = 0 then 0
  else Binary64.ofNat r.world.rank.toNat * 100 / Binary64.ofNat r.world.count.toNat

end Ranking

end LadderAtlas
