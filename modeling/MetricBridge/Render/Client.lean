/-
# A client for a network

A network becomes a client with the plain naming of hosts, and with texts in the encoding that the
bytes of an answer or its type say. An answer without a body has the empty text, and there
is no answer without a text.
-/

import MetricBridge.Render.Answer
import MetricBridge.Text.Blank
import MetricBridge.Text.Encoding
import MetricBridge.Text.Lines
import MetricBridge.Url.Naming

namespace MetricBridge.Render

namespace Content

/-- The value of a parameter of a type, in small letters and without quotes. -/
def parameter? (name : String) (parameter : List Char) : Option String :=
  let key := (Text.trim (parameter.takeWhile (· ≠ '='))).map Char.toLower
  let value := Text.trim ((parameter.dropWhile (· ≠ '=')).drop 1)
  if key = name.toList then
    some (String.ofList ((value.filter (· ≠ '"')).map Char.toLower))
  else none

/-- The label of the encoding that the type tells. -/
def charset? (content : Content) : Option String :=
  content.type?.bind fun type =>
    ((Text.pieces ';' type.toList).drop 1).findSome? (parameter? "charset")

/-- The content as text. -/
def text (content : Content) : String :=
  String.ofList (Charset.decode content.charset? content.bytes)

end Content

/-- The client of a network. -/
def Client.ofNetwork (network : Network) : Client where
  naming := Url.plainNaming
  network := network
  text answer := .ok (if isBodiless answer.status then "" else answer.content.text)

instance : Coe Network Client := ⟨Client.ofNetwork⟩

end MetricBridge.Render
