import LadderAtlas.Stats.Error

/-! # What can go wrong with fetching -/

namespace LadderAtlas

/-- Why nothing was fetched. Whatever goes wrong is an error; nothing is put in place of what could
    not be fetched. -/
inductive FetchError where
  /-- There was no answer at all. -/
  | noAnswer (description : String)
  | invalidUrl (description : String)
  /-- The server asks to wait. -/
  | rateLimited (host : String) (seconds : Nat)
  | status (code : Nat) (reason : String)
  /-- The answer has more bytes than are accepted. -/
  | tooLarge (size limit : Nat)
  | notJson
  | stats (error : StatsError)
  deriving Repr, DecidableEq

namespace FetchError

def message : FetchError → String
  | .noAnswer description => "HTTP error: " ++ description
  | .invalidUrl description => "Invalid URL: " ++ description
  | .rateLimited host seconds =>
    "Rate limited by " ++ host ++ ", retry after " ++ Numeral.text seconds ++ "s"
  | .status code reason => "HTTP " ++ Numeral.text code ++ ": " ++ reason
  | .tooLarge size limit =>
    "Content too large: " ++ Numeral.text size ++ " bytes (max " ++ Numeral.text limit ++ ")"
  | .notJson => "JSON error: not of the form that is expected"
  | .stats error => "Invalid stats payload: " ++ error.message

/-- Whether it is no answer but the end of the program. -/
def isPanic : FetchError → Bool
  | .stats error => error.isPanic
  | _ => false

end FetchError

end LadderAtlas
