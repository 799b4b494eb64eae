import ApiGateway.Access.Service
import ApiGateway.Handler
import ApiGateway.Http.Message

/-!
# Completions

A handler answers a request by calling a completion with a response.  A completion is a list of
layers around a receiver, outermost first.  The gateway's own completions have three:

    once, timed, reported

so that a request is answered once, and the measured time is in the response before it is
reported.  A completion is data; `Answering` says what a call of it does.
-/

namespace ApiGateway

abbrev CompletionId := Nat

/-- What is fixed about a request when its handler has been chosen. -/
structure Dispatch where
  request : Request
  host : String := ""
  /-- The context path of the chosen handler, empty for the fallback. -/
  contextPath : String := ""
deriving DecidableEq, Repr, Inhabited

namespace Dispatch

def record (d : Dispatch) (r : Response) : AccessRecord where
  requestId := d.request.id
  method := d.request.method
  path := d.request.path
  host := d.host
  contextPath := d.contextPath
  status := r.status
  timestamp := d.request.timestamp
  responseTime := r.responseTime

end Dispatch

inductive Layer
  /-- Lets the first call through and puts a server error in place of no response. -/
  | once (request : String)
  /-- Writes the elapsed time into the response, and into a header field if asked to. -/
  | timed (request : Request) (header : Bool)
  | reported (reporter : Option Reporter) (dispatch : Dispatch)
deriving DecidableEq, Repr, Inhabited

structure Completion where
  layers : List Layer
  /-- Who receives the response; a completion may end in nobody. -/
  receiver : Option Nat
  /-- A call has passed the layer that lets one through. -/
  fired : Bool := false
deriving DecidableEq, Repr, Inhabited

namespace Completion

def ofDispatch (d : Dispatch) (reporter : Option Reporter) (header : Bool)
    (receiver : Option Nat) : Completion where
  layers := [.once d.request.id, .timed d.request header, .reported reporter d]
  receiver := receiver

end Completion

/-- What a handler is given to answer with: a completion, or a receiver itself. -/
inductive Callback
  | receiver (receiver : Option Nat)
  | completion (completion : CompletionId)
deriving DecidableEq, Repr, Inhabited

inductive Target
  | fallback
  | handler (handler : HandlerId)
deriving DecidableEq, Repr, Inhabited

namespace Response

def timeField : String := "X-Gatehouse-Response-Time"

def stamped (r : Response) (elapsed : Int) (header : Bool) : Response :=
  { r with
    responseTime := elapsed
    headers :=
      if header then r.headers.insert timeField (toString (elapsed.tdiv 1000000)) else r.headers }

end Response
end ApiGateway
