/-!
# QueryOptions.Notice

Messages for whoever watches the program at work. They change nothing.
-/

namespace QueryOptions

inductive Logger where
  | query
  | sort
  | documents
deriving DecidableEq, Repr

def Logger.name : Logger → String
  | .query => "mongofilter.query"
  | .sort => "mongofilter.handlers.sort"
  | .documents => "mongofilter.docquery"

/-- A message. -/
structure Notice where
  logger : Logger
  text : String
deriving DecidableEq, Repr

end QueryOptions
