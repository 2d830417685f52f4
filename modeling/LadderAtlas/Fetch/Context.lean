import LadderAtlas.Fetch.Store
import LadderAtlas.Season

/-! # What a page is made from

All charts and tables of a page share the catalog, the seasons and one store of modes.
-/

namespace LadderAtlas

/-- What is known before anything is fetched, and where the rest comes from. -/
structure PageContext (m : Type → Type) where
  catalog : Catalog
  seasons : Seasons
  source : SnapshotSource m

namespace PageContext

variable {m : Type → Type} [Monad m]

/-- The mode, fetched once per page; the cell that it is from tells modes apart. -/
def mode (c : PageContext m) (id : Id) : StateT Store m (Except StoreError (Nat × Mode Float)) :=
  fun store => do
    let (store, result) ← store.fetch c.source c.catalog id
    return (result, store)

/-- The history of a team, fetched anew each time. -/
def history (c : PageContext m) (team : Int64) : m (Except FetchError (Collection Ranking)) := do
  return (← c.source.fetchHistory team).map fun records => ⟨records⟩

end PageContext

end LadderAtlas
