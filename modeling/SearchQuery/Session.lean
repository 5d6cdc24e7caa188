import SearchQuery.Context
import SearchQuery.Store.View

/-!
# Sessions

A `Session` is what passes work on: a query in its store, and the context that they share.
-/

namespace SearchQuery

/-- A query and its context. -/
structure Session where
  store : Store
  context : Context

end SearchQuery
