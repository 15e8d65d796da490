import ChainFlow.Http.Url
import ChainFlow.Json.Printer

/-!
# Requests over HTTP

A request to a gateway and what comes back. A `Transport` carries requests; it has a state of its
own and takes time.
-/

namespace ChainFlow.Http

inductive Verb where
  | get
  | post
  deriving DecidableEq

def Verb.word : Verb → String
  | get => "GET"
  | post => "POST"

structure Request where
  verb : Verb
  url : Url
  body : Option Json
  session : Option String
  apiKey : Option String

def Request.address (request : Request) : String := String.ofList request.url.text

def contentType : String := "application/json"

def userAgent : String := "IntentCompass/0.1"

inductive Response where
  | answered (status : Int) (body : String)
  | unreachable (reason : String)

structure Exchange where
  response : Response
  elapsed : Int

abbrev Transport (σ : Type) := Request → σ → Exchange × σ

end ChainFlow.Http
