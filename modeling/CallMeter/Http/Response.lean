import CallMeter.Fault
import CallMeter.Json.Printer

/-!
# Responses

## Main definitions

* `Response`: status, headers and body
* `Response.json`, `Response.plain`, `Response.notFound`, `Response.notAllowed`: the kinds of
  response
* `ServiceFault.toResponse`: the response to a fault
-/

namespace CallMeter.Http

/-- **Response**, with the two headers that matter to callers. -/
structure Response where
  status : Nat
  contentType : Option String
  allow : Option String
  body : String
  deriving DecidableEq

namespace Response

/-- A JSON document. -/
def json (status : Nat) (v : Json) : Response :=
  ⟨status, some "application/json", none, v.compact⟩

/-- A plain text. -/
def plain (status : Nat) (text : String) : Response :=
  ⟨status, some "text/plain; charset=utf-8", none, text⟩

/-- A metrics exposition. -/
def exposition (text : String) : Response :=
  ⟨200, some "text/plain; version=0.0.4", none, text⟩

/-- No such path. -/
def notFound : Response :=
  ⟨404, none, none, ""⟩

/-- The path takes other methods. -/
def notAllowed : Response :=
  ⟨405, none, some "GET,HEAD", ""⟩

/-- The response without its body. -/
def headOnly (r : Response) : Response :=
  { r with body := "" }

end Response

end CallMeter.Http

namespace CallMeter.ServiceFault

/-- The status code of a fault: a store that cannot be read may come back. -/
def status : ServiceFault → Nat
  | config _ => 500
  | store _ => 503
  | internal _ => 500

/-- **The response** to a fault: its words and its kind. -/
def toResponse (fault : ServiceFault) : Http.Response :=
  .json fault.status (.object [
    ("error", .object [("message", .string fault.message), ("type", .string fault.kind)])])

end CallMeter.ServiceFault
