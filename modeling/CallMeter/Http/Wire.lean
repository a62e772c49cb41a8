import CallMeter.Http.Router

/-!
# Requests and responses as text

## Main definitions

* `Request.ofLine?`: the request of a request line
* `Response.toText`: status line, headers and body of a response
-/

namespace CallMeter.Http

/-- **The request of a line**: a method, a target, and the version if it is given. -/
def Request.ofLine? (line : List Char) : Option Request :=
  let words := (Text.splitOn ' ' line).filter fun word => !word.isEmpty
  match words.map String.ofList with
  | [method, uri] => some ⟨method, uri⟩
  | [method, uri, _] => some ⟨method, uri⟩
  | _ => none

/-- The words for a status. -/
def reason : Nat → String
  | 200 => "OK"
  | 400 => "Bad Request"
  | 404 => "Not Found"
  | 405 => "Method Not Allowed"
  | 500 => "Internal Server Error"
  | 503 => "Service Unavailable"
  | _ => ""

/-- A header line, where the header has a value. -/
def headerLine (name : String) : Option String → List String
  | some value => [name ++ ": " ++ value]
  | none => []

/-- **The text of a response.** -/
def Response.toText (r : Response) : String :=
  let head := ["HTTP/1.1 " ++ toString r.status ++ " " ++ reason r.status] ++
    headerLine "content-type" r.contentType ++ headerLine "allow" r.allow ++
    headerLine "content-length" (some (toString r.body.utf8ByteSize))
  String.join (head.map fun line => line ++ "\r\n") ++ "\r\n" ++ r.body

end CallMeter.Http
