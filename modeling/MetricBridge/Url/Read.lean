/-
# Reading URLs

The text of a URL begins with a scheme and a colon. For a special scheme the host follows after
any number of slashes, and there has to be one (`file` apart); for another scheme a host
follows after two slashes, and without them there is only a path. A path is kept
without the segments `.` and `..`. A text without a scheme is no URL, since there is
nothing that it could be relative to.
-/

import MetricBridge.Url.Basic
import MetricBridge.Url.Host

namespace MetricBridge.Url

/-- Characters of a scheme after its first letter. -/
def isSchemeChar (c : Char) : Bool :=
  c.isAlphanum || c = '+' || c = '-' || c = '.'

/-- The scheme in small letters and the text after its colon. -/
def scheme? (text : List Char) : Option (String × List Char) :=
  match text with
  | [] => none
  | c :: _ =>
    if c.isAlpha then
      match text.dropWhile isSchemeChar with
      | ':' :: rest =>
        some (String.ofList ((text.takeWhile isSchemeChar).map Char.toLower), rest)
      | _ => none
    else none

/-- Blanks and controls around a URL do not belong to it, and tabs and line ends inside it do
not count. -/
def cleaned (text : List Char) : List Char :=
  let outer (c : Char) : Bool := c.toNat ≤ 0x20
  let trimmed := ((text.dropWhile outer).reverse.dropWhile outer).reverse
  trimmed.filter fun c => c ≠ '\t' ∧ c ≠ '\n' ∧ c ≠ '\r'

/-- The text before a character and the text after it, if it occurs. -/
def cut (mark : Char) (text : List Char) : List Char × Option (List Char) :=
  match text.dropWhile (· ≠ mark) with
  | _ :: rest => (text.takeWhile (· ≠ mark), some rest)
  | [] => (text, none)

/-- The text after its last `@`. -/
def afterUser (authority : List Char) : List Char :=
  (authority.reverse.takeWhile (· ≠ '@')).reverse

/-- The host and what follows it, a colon in brackets being part of the host. -/
def splitPort (isInside : Bool) : List Char → List Char × Option (List Char)
  | [] => ([], none)
  | c :: rest =>
    if c = ':' ∧ !isInside then ([], some rest)
    else
      let isInside := if c = '[' then true else if c = ']' then false else isInside
      let (host, port) := splitPort isInside rest
      (c :: host, port)

/-- The port of a URL; none if it is left out or belongs to the scheme. -/
def port? (scheme : String) : Option (List Char) → Option (Option Nat)
  | none | some [] => some none
  | some digits => do
    let port ← Decimal.natural? digits
    if 65536 ≤ port then none
    else if defaultPort? scheme = some port then some none
    else some (some port)

/-- The characters that a path writes with a percent sign. -/
def isWrittenInPath (c : Char) : Bool :=
  isControl c || c ∈ [' ', '"', '#', '<', '>', '?', '^', '\x60', '\x7b', '\x7d']

/-- The characters that a query writes with a percent sign. -/
def isWrittenInQuery (isSpecial : Bool) (c : Char) : Bool :=
  isControl c || c ∈ [' ', '"', '#', '<', '>'] || (isSpecial && c = '\x27')

/-- The characters that a fragment writes with a percent sign. -/
def isWrittenInFragment (c : Char) : Bool :=
  isControl c || c ∈ [' ', '"', '<', '>', '\x60']

/-- A segment in which points may be written with percent signs, with plain points. -/
def plainPoints : List Char → List Char
  | '%' :: '2' :: e :: rest =>
    if e.toLower = 'e' then '.' :: plainPoints rest else '%' :: '2' :: plainPoints (e :: rest)
  | c :: rest => c :: plainPoints rest
  | [] => []

/-- The segments of a path, the last one first, `.` and `..` carried out. -/
def resolved (kept : List (List Char)) : List (List Char) → List (List Char)
  | [] => kept
  | segment :: rest =>
    let isLast := rest.isEmpty
    let points := plainPoints segment
    if points = ['.', '.'] then
      resolved (if isLast then [] :: kept.drop 1 else kept.drop 1) rest
    else if points = ['.'] then resolved (if isLast then [] :: kept else kept) rest
    else resolved (Percent.url isWrittenInPath segment :: kept) rest

/-- The path of a URL after its first slash. -/
def pathText (isSpecial : Bool) (text : List Char) : List Char :=
  let slashed := text.map fun c => if isSpecial && c = '\\' then '/' else c
  let segments := (resolved [] (Text.pieces '/' slashed)).reverse
  segments.flatMap fun segment => '/' :: segment

/-- The end of the part of a URL in which its host stands. -/
def endsAuthority (isSpecial : Bool) (c : Char) : Bool :=
  c = '/' || (isSpecial && c = '\\')

/-- What follows the host: nothing, or a slash and a path. -/
def pathAfterHost (isSpecial : Bool) (text : List Char) : List Char :=
  match text with
  | [] => if isSpecial then ['/'] else []
  | _ :: rest => pathText isSpecial rest

/-- Host, port and path of a URL after its slashes. -/
def located? (naming : Naming) (scheme : String) (isSpecial : Bool) (text : List Char) :
    Option (Option (List Char) × Option Nat × List Char) := do
  let authority := text.takeWhile fun c => !endsAuthority isSpecial c
  let path := pathAfterHost isSpecial (text.dropWhile fun c => !endsAuthority isSpecial c)
  let (hostText, portText) := splitPort false (afterUser authority)
  if hostText = [] then
    if isSpecial ∨ authority ≠ [] then none else some (some [], none, path)
  else
    let host ← if isSpecial then host? naming hostText else opaqueHost? hostText
    let port ← port? scheme portText
    some (some host, port, path)

/-- Host and path of a URL of a file, which may do without a host. -/
def fileLocated? (naming : Naming) (text : List Char) :
    Option (Option (List Char) × Option Nat × List Char) :=
  match text.map fun c => if c = '\\' then '/' else c with
  | '/' :: '/' :: rest =>
    let authority := rest.takeWhile (· ≠ '/')
    let path := pathAfterHost true (rest.dropWhile (· ≠ '/'))
    if authority = [] then some (some [], none, path)
    else (host? naming authority).map fun host =>
      (some (if host = "localhost".toList then [] else host), none, path)
  | '/' :: rest => some (some [], none, pathText true rest)
  | rest => some (some [], none, pathText true rest)

/-- Host, port and path of a URL after the colon of its scheme. -/
def place? (naming : Naming) (scheme : String) (text : List Char) :
    Option (Option (List Char) × Option Nat × List Char) :=
  if scheme = "file" then fileLocated? naming text
  else if isSpecialScheme scheme then
    located? naming scheme true (text.dropWhile fun c => c = '/' ∨ c = '\\')
  else
    match text with
    | '/' :: '/' :: rest => located? naming scheme false rest
    | '/' :: rest => some (none, none, pathText false rest)
    | rest => some (none, none, Percent.url isControl rest)

/-- Reads a URL. -/
def read? (naming : Naming) (text : String) : Option Url := do
  let (scheme, rest) ← scheme? (cleaned text.toList)
  let (beforeFragment, fragment) := cut '#' rest
  let (beforeQuery, query) := cut '?' beforeFragment
  let (host, port, path) ← place? naming scheme beforeQuery
  some {
    scheme, host, port, path
    query := query.map (Percent.url (isWrittenInQuery (isSpecialScheme scheme)))
    fragment := fragment.map (Percent.url isWrittenInFragment) }

end MetricBridge.Url
