import RequestQuery.Filter.Encoding
import RequestQuery.Http.Target
import RequestQuery.Include.Tree

/-! Filters and includes of an HTTP request.

Both are taken from the query of the request's target. Shared settings win over the request's own,
and without either the defaults hold. Includes never fail; filters that cannot be used are answered
with a status and a JSON body. -/
namespace RequestQuery.Http
open RequestQuery.Filter

structure Request where
  query : String
  settings : Option Settings
  sharedSettings : Option Settings

namespace Request

def effectiveSettings (r : Request) : Settings :=
  (r.sharedSettings.or r.settings).getD {}

def params (r : Request) : Params := .ofQuery r.query

def filters (r : Request) : Except Rejection FilterSet := compile r.effectiveSettings r.params

def includes (r : Request) : Include.Tree := Include.resolve r.effectiveSettings r.params

end Request

/-! ### Refusals -/

/-- What clients see in place of results. -/
def rejectionBody (r : Rejection) : Json :=
  .object [("error", .string "invalid_filter"), ("message", .string r.message),
    ("issues", .array (r.issues.map fun i =>
      .object [("code", .string i.code), ("message", .string i.message)]))]

end RequestQuery.Http
