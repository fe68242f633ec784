import TrackedComments.Json.Basic
import TrackedComments.Url.Basic

/-!
# Requests and their transport

A tracker on a server is asked by way of a transport, which takes a request and brings an answer or
finds that the server cannot be reached.
-/

namespace TrackedComments

/-- A request that sends a value to a server. -/
structure HttpRequest where
  url : Url
  /-- The fields in front of the body, with their values. -/
  headers : List (String × String)
  body : Json
  deriving Inhabited

/-- The answer of a server. -/
structure HttpResponse where
  status : Nat
  body : ByteArray
  deriving Inhabited

/-- Why a request brought no answer. -/
inductive RequestFault where
  /-- The address or a field cannot be sent at all. -/
  | malformed
  /-- The address is none of a web server. -/
  | unsupported (url : Url)
  /-- The server cannot be reached. -/
  | unreachable (url : Url)
  deriving DecidableEq, Repr, Inhabited

/-- The fault in words. -/
def RequestFault.message : RequestFault → String
  | malformed => "builder error"
  | unsupported url => "builder error for url (" ++ url.toString ++ ")"
  | unreachable url => "error sending request for url (" ++ url.toString ++ ")"

/-- A way to send requests, with states of a type. -/
class Transport (σ : Type) where
  /-- Sends a request. There is no answer if the server cannot be reached. -/
  send : σ → HttpRequest → Option HttpResponse × σ

/-- A transport without a network. -/
inductive NoNetwork where
  | noNetwork
  deriving DecidableEq, Repr, Inhabited

instance : Transport NoNetwork where
  send t _ := (none, t)

/-- A transport that answers one request after the other, and keeps the requests. -/
structure PreparedAnswers where
  answers : List HttpResponse
  /-- The requests that have been sent, the last one first. -/
  sent : List HttpRequest := []
  deriving Inhabited

instance : Transport PreparedAnswers where
  send t request :=
    (t.answers.head?, { answers := t.answers.tail, sent := request :: t.sent })

end TrackedComments
