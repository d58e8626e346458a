/-
# Asking for series

A query is sent to the store as a request for a URL: the path `render` below the base URL of the
store, with the target, the format and the window in its query string. The window is sent
in seconds; an open beginning is left out. User name and password go with the request.

The base URL may end in any number of slashes. A base that makes no URL at all, a URL
without a host, and a URL of another kind than a web page are refused before anything is
sent.
-/

import MetricBridge.Fault
import MetricBridge.Read.Query
import MetricBridge.Text.Base64
import MetricBridge.Url.Read

namespace MetricBridge.Render

/-- Where series are asked for. -/
structure Endpoint where
  /-- The base URL as it was given. -/
  base : String
  /-- User name and password. -/
  credentials : Option (String × String)
  deriving DecidableEq

/-- What goes out. -/
structure Request where
  url : Url
  authorization : Option String
  deriving DecidableEq

/-- A second in a query string. -/
def secondText (time : Time.Instant) : String :=
  String.ofList (Decimal.integer time.second)

/-- The parameters of a query, in order. -/
def params (query : Query) : List (String × String) :=
  [("target", query.target), ("format", "json")] ++
    (query.window.start.map fun start => ("from", secondText start)).toList ++
    [("until", secondText query.window.stop)]

namespace Endpoint

/-- The base without the slashes at its end. -/
def trimmedBase (endpoint : Endpoint) : List Char :=
  (endpoint.base.toList.reverse.dropWhile (· = '/')).reverse

/-- The address of all requests, without their query string. -/
def address (endpoint : Endpoint) : String :=
  String.ofList (endpoint.trimmedBase ++ "/render".toList)

/-- The header that goes with user name and password. -/
def authorization? (endpoint : Endpoint) : Option String :=
  endpoint.credentials.map fun (username, password) =>
    let secret := Utf8.encode (username.toList ++ ':' :: password.toList)
    String.ofList ("Basic ".toList ++ Base64.encode secret)

/-- The complaint about a URL to which nothing can be sent. -/
def unusable (url : Url) : Fault :=
  .transport ("builder error for url (" ++ String.ofList url.text ++ ")")

/-- The request for a query. -/
def request (endpoint : Endpoint) (naming : Url.Naming) (query : Query) : Except Fault Request :=
  match Url.read? naming endpoint.address with
  | none => .error (.transport "builder error")
  | some url =>
    if url.hasHost then
      let asked := url.addQuery (params query)
      if url.scheme = "http" ∨ url.scheme = "https" then
        .ok ⟨asked, endpoint.authorization?⟩
      else .error (unusable asked)
    else .error (unusable url)

end Endpoint

namespace Request

/-- The first line of a request. -/
def line (request : Request) : String :=
  "GET " ++ String.ofList request.url.resource ++ " HTTP/1.1"

end Request

end MetricBridge.Render
