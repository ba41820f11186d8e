import ChainFeed.Polling
import ChainFeed.Text.Percent
import ChainFeed.Text.Pieces

/-!
# Queries of a request

The query of a request is a list of names with values, joined by `&`. In names and values a plus
sign stands for a blank and bytes may be escaped. A client gives the bound of its question as
`timestamp`.
-/

namespace ChainFeed.Service

/-- A name or a value of a query as it is meant. -/
def formText (cs : List Char) : String :=
  Text.Percent.decode (String.ofList (cs.map fun c => if c = '+' then ' ' else c))

/-- The names and values of a query. -/
def formFields (query : String) : List (String × String) :=
  ((Text.pieces (· = '&') query.toList).filter (!·.isEmpty)).map fun piece =>
    let (name, value) := Text.cut '=' piece
    (formText name, formText (value.getD []))

/-- The question that a query asks, if it gives at most one bound and that bound is a number. -/
def pollingQuery? (query : String) : Option PollingQuery :=
  match (formFields query).filter (·.1 == "timestamp") with
  | [] => some ⟨0⟩
  | [(_, value)] => (Text.numeral? Text.word64 value).map PollingQuery.mk
  | _ => none

end ChainFeed.Service
