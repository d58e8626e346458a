/-
# URLs

A URL is kept in the pieces of which its text consists, each already in the spelling in which
it is shown. A user name and a password that stand in a URL are not kept, since they
are never shown.
-/

import MetricBridge.Decimal.Digits
import MetricBridge.Text.Percent

namespace MetricBridge

/-- A URL by its parts. -/
structure Url where
  scheme : String
  /-- The host, which may be empty; none where a path follows the scheme at once. -/
  host : Option (List Char)
  /-- The port, unless it is the one that belongs to the scheme. -/
  port : Option Nat
  path : List Char
  query : Option (List Char)
  fragment : Option (List Char)
  deriving DecidableEq

namespace Url

/-- Schemes whose URLs always have a host and may be written with backslashes. -/
def isSpecialScheme (scheme : String) : Bool :=
  scheme ∈ ["http", "https", "ws", "wss", "ftp", "file"]

/-- The port that belongs to a scheme. -/
def defaultPort? (scheme : String) : Option Nat :=
  if scheme = "http" ∨ scheme = "ws" then some 80
  else if scheme = "https" ∨ scheme = "wss" then some 443
  else if scheme = "ftp" then some 21
  else none

/-- The URL says where it leads to. -/
def hasHost (url : Url) : Bool :=
  url.host.any fun host => !host.isEmpty

/-- Two slashes with host and port, where there is a host. -/
def authorityText (url : Url) : List Char :=
  match url.host with
  | some host =>
    '/' :: '/' :: host ++ (url.port.map fun port => ':' :: Decimal.digits port).getD []
  | none => []

/-- A part after its mark, where there is such a part. -/
def markedText (mark : Char) (part : Option (List Char)) : List Char :=
  (part.map fun text => mark :: text).getD []

/-- What is asked for at the host: path and query. -/
def resource (url : Url) : List Char :=
  url.path ++ markedText '?' url.query

/-- The text of a URL. -/
def text (url : Url) : List Char :=
  url.scheme.toList ++ ':' :: url.authorityText ++ url.resource ++ markedText '#' url.fragment

/-- The URL with further names and values in its query. -/
def addQuery (url : Url) (params : List (String × String)) : Url :=
  let added := Percent.query params
  match url.query with
  | none | some [] => { url with query := some added }
  | some query => { url with query := some (query ++ '&' :: added) }

end Url

end MetricBridge
