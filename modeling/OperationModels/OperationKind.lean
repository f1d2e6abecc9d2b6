-- The three kinds of operation, and what an operation without a name is called.
namespace OperationModels

/-- What an operation does: ask, change, or listen. -/
inductive OperationKind
  | query
  | mutation
  | subscription
deriving DecidableEq, Repr

def OperationKind.keyword : OperationKind → String
  | .query => "query"
  | .mutation => "mutation"
  | .subscription => "subscription"

/-- How an operation without a name is called. -/
def anonymous : String := "<anonymous>"

end OperationModels
