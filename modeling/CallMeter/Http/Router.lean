import CallMeter.Http.Response
import CallMeter.Http.Route
import CallMeter.Usage.Service
import CallMeter.Usage.SummaryJson

/-!
# The router

Three endpoints answer GET and HEAD: health, metrics, and the usage of a tenant. The text of
days is never refused; a tenant that is not well-formed and a repeated `days` are. A HEAD
request does the work of a GET and leaves out the body.

## Main definitions

* `Request`: method and URI
* `Portal.usageResponse`: the answer to a usage request
* `Portal.respond`: the answer to a request
-/

namespace CallMeter

open Pricing (RateCard)
open Http (Response Endpoint Target)

variable {σ : Type} [CallStore σ]

/-- **Request**. -/
structure Http.Request where
  method : String
  uri : String
  deriving DecidableEq

/-- The health of the service. -/
def healthResponse : Response :=
  .json 200 (.object [("status", .string "ok"), ("version", .string version)])

namespace Portal

variable (p : Portal σ)

/-- The answer to a usage request when the clock shows `now`, none when it cannot. -/
def usageResponse (card : RateCard) (now : Time.Instant) (segment : List Char)
    (query : Option (List Char)) : Option (Response × Portal σ) :=
  match Http.tenantOf? segment, Http.daysFields query with
  -- a tenant that is not well formed is refused first
  | none, _ => some (.plain 400 "Invalid URL: Invalid UTF-8 in \x60tenant_id\x60", p)
  | some _, _ :: _ :: _ =>
    some (.plain 400 "Failed to deserialize query string: duplicate field \x60days\x60", p)
  | some tenant, days =>
    (Window.endingNow now (clampDaysText days.head?)).map fun window =>
      match p.summarize card tenant window with
      | (.ok summary, p) => (.json 200 summary.toJson, p)
      | (.error fault, p) => (fault.toResponse, p)

/-- The answer of an endpoint to a GET request. -/
def answer (card : RateCard) (now : Time.Instant) (described : Bool)
    (query : Option (List Char)) : Endpoint → Option (Response × Portal σ)
  | .health => some (healthResponse, p)
  | .metrics => some (.exposition (p.metrics.render described), p)
  | .usage segment => p.usageResponse card now segment query

/-- **The answer to a request**, none when it needs the time and no clock can show it. -/
def respond (card : RateCard) (now : Time.Instant) (described : Bool) (r : Http.Request) :
    Option (Response × Portal σ) :=
  let target := Target.ofUri r.uri
  match Endpoint.ofPath? target.path with
  | none => some (.notFound, p)
  | some endpoint =>
    if r.method == "GET" then p.answer card now described target.query endpoint
    else if r.method == "HEAD" then
      (p.answer card now described target.query endpoint).map fun (response, p) =>
        (response.headOnly, p)
    else some (.notAllowed, p)

end Portal

end CallMeter
