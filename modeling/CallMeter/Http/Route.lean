import CallMeter.Text.Percent
import CallMeter.Text.Utf8

/-!
# Routes

A request target is a path and, after a question mark, a query; a fragment does not count, and
neither do a scheme and an authority in front of the path. The path is matched segment by segment
while it is still encoded, so that an encoded slash stays within its segment. The tenant is
percent-decoded and must be well-formed UTF-8.

## Main definitions

* `Target`, `Target.ofUri`: path and query of a request
* `Endpoint`, `Endpoint.ofPath?`: what a path leads to
* `tenantOf?`, `daysFields`: the parameters of a usage request
* `usageUri`: the request target for a tenant and a text of days
-/

namespace CallMeter.Http

/-- **Request target**: path and query as they were sent. -/
structure Target where
  path : List Char
  query : Option (List Char)
  deriving DecidableEq

/-- The rest of a URI after its scheme and authority, if it has them. -/
def dropAuthority (cs : List Char) : List Char :=
  match cs.head? == some '/', cs.dropWhile (· != ':') with
  | false, ':' :: '/' :: '/' :: r => r.dropWhile fun c => c != '/' && c != '?' && c != '#'
  | _, _ => cs

/-- The parts of a URI. -/
def Target.ofUri (uri : String) : Target :=
  let (path, query) := Text.cut '?' (Text.cut '#' (dropAuthority uri.toList)).1
  ⟨path, query⟩

/-- **Endpoint**. The segment of the tenant is still encoded. -/
inductive Endpoint
  | health
  | metrics
  | usage (tenant : List Char)
  deriving DecidableEq

/-- The endpoint of a path, segments compared exactly. -/
def Endpoint.ofPath? (path : List Char) : Option Endpoint :=
  match (Text.splitOn '/' path).map String.ofList with
  | ["", "health"] => some .health
  | ["", "metrics"] => some .metrics
  | ["", "api", "tenants", tenant, "usage"] => some (.usage tenant.toList)
  | _ => none

/-- The tenant of a path segment, if its bytes are well-formed. -/
def tenantOf? (segment : List Char) : Option String :=
  Text.Utf8.decode? (Text.Percent.decode segment)

/-- The fields named `days` of a query. -/
def daysFields (query : Option (List Char)) : List String :=
  ((Text.Percent.formFields (query.getD [])).filter fun f => f.1 == "days").map Prod.snd

/-- The request target for the usage of a tenant, every byte of the parameters escaped. -/
def usageUri (tenant days : String) : String :=
  String.ofList ("/api/tenants/".toList ++ Text.Percent.encode tenant ++ "/usage?days=".toList ++
    Text.Percent.encode days)

end CallMeter.Http
