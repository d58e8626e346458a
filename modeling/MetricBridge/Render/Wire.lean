/-
# Requests and answers on the wire

A request goes out as a head of lines and an empty line. An answer comes in as a head, whose first
line has the status, and a body. The body is cut into chunks, or has a length that the
head tells, or goes on to the end.
-/

import MetricBridge.Render.Answer
import MetricBridge.Text.Blank
import MetricBridge.Text.Lines

namespace MetricBridge.Render

/-- The end of a line in a head. -/
def lineEnd : String := "\r\n"

namespace Request

/-- The host and, where it has to be said, the port. -/
def hostText (request : Request) : String :=
  String.ofList (request.url.authorityText.drop 2)

/-- The head of a request. The connection is to be closed after the answer. -/
def head (request : Request) : String :=
  let authorization :=
    match request.authorization with
    | some secret => "authorization: " ++ secret ++ lineEnd
    | none => ""
  request.line ++ lineEnd ++ authorization ++ "accept: */*" ++ lineEnd ++
    "host: " ++ request.hostText ++ lineEnd ++ "connection: close" ++ lineEnd ++ lineEnd

end Request

namespace Answer

/-- The bytes before the first empty line and the bytes after it. -/
def splitHead? : List UInt8 → Option (List UInt8 × List UInt8)
  | 13 :: 10 :: 13 :: 10 :: rest => some ([], rest)
  | byte :: rest => (splitHead? rest).map fun (head, body) => (byte :: head, body)
  | [] => none

/-- The lines of a head. -/
def headLines (head : List UInt8) : List (List Char) :=
  (Text.pieces '\n' (Utf8.decode head)).map Text.trim

/-- The status in the first line of a head. -/
def status? (lines : List (List Char)) : Option Nat := do
  let first ← lines.head?
  match Text.pieces ' ' first with
  | _ :: status :: _ => Decimal.natural? status
  | _ => none

/-- The value of a field of a head; its name is given in small letters. -/
def field? (name : String) (lines : List (List Char)) : Option String :=
  lines.findSome? fun line =>
    let found := (line.takeWhile (· ≠ ':')).map Char.toLower
    if found = name.toList then
      some (String.ofList ((Text.trim ((line.dropWhile (· ≠ ':')).drop 1)).map Char.toLower))
    else none

/-- The number at the beginning of a chunk. -/
def chunkLength (line : List UInt8) : Nat :=
  let digits := (Utf8.decode line).takeWhile fun c => (Percent.digitValue? c).isSome
  digits.foldl (fun value c => value * 16 + (Percent.digitValue? c).getD 0) 0

/-- The bytes in some chunks, `count` of them at most. -/
def unchunked : Nat → List UInt8 → List UInt8
  | 0, _ => []
  | count + 1, bytes =>
    let length := chunkLength (bytes.takeWhile (· ≠ 10))
    let rest := (bytes.dropWhile (· ≠ 10)).drop 1
    if length = 0 then [] else rest.take length ++ unchunked count (rest.drop (length + 2))

/-- The body of an answer. -/
def bodyOf (lines : List (List Char)) (bytes : List UInt8) : List UInt8 :=
  if field? "transfer-encoding" lines = some "chunked" then unchunked bytes.length bytes
  else
    match (field? "content-length" lines).bind fun length => Decimal.natural? length.toList with
    | some length => bytes.take length
    | none => bytes

/-- The answer that some bytes are. -/
def ofWire? (bytes : List UInt8) : Option Answer := do
  let (head, rest) ← splitHead? bytes
  let lines := headLines head
  let status ← status? lines
  some ⟨status, ⟨field? "content-type" lines, bodyOf lines rest⟩⟩

end Answer

end MetricBridge.Render
