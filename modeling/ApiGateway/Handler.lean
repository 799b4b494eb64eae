import ApiGateway.Fault
import ApiGateway.Text.Ascii
import ApiGateway.Http.ContextPath

/-!
# Handlers and their lifecycle

A handler serves the requests of one API.  It is created, may be started once and after that
stopped once; one whose start fails stays failed.  Each move runs a hook of the handler:
`Move.hookState?` says whether a move is allowed and in which state its hook runs, `Move.settle`
what a finished hook leaves behind.  A stop whose hook fails is a stop all the same.
-/

namespace ApiGateway

abbrev HandlerId := Nat

inductive LifecycleState
  | created
  | started
  | stopped
  | failedToStart
deriving DecidableEq, Repr, Inhabited

namespace LifecycleState

def name : LifecycleState → String
  | created => "created"
  | started => "started"
  | stopped => "stopped"
  | failedToStart => "failed_to_start"

/-- The name of the state with a code, which for a code of no state is `unknown`. -/
def nameOfCode : Nat → String
  | 0 => created.name
  | 1 => started.name
  | 2 => stopped.name
  | 3 => failedToStart.name
  | _ => "unknown"

end LifecycleState

inductive Move
  | start
  | stop
deriving DecidableEq, Repr, Inhabited

inductive LifecycleError
  /-- The state does not allow the move; its hook was not run. -/
  | invalidTransition (move : Move) (state : LifecycleState)
  | startFailed (fault : Fault)
  | stopFailed (fault : Fault)
deriving DecidableEq, Repr, Inhabited

namespace Move

def name : Move → String
  | start => "start"
  | stop => "stop"

/-- The state in which the hook of a move runs, if the present state allows the move.  A handler
is no longer started when its stop hook runs. -/
def hookState? : Move → LifecycleState → Option LifecycleState
  | start, .created => some .created
  | stop, .started => some .stopped
  | _, _ => none

def settle : Move → Except Fault Unit → LifecycleState × Except LifecycleError Unit
  | start, .ok _ => (.started, .ok ())
  | start, .error f => (.failedToStart, .error (.startFailed f))
  | stop, .ok _ => (.stopped, .ok ())
  | stop, .error f => (.stopped, .error (.stopFailed f))

end Move

namespace LifecycleError

def message : LifecycleError → String
  | invalidTransition m s => "cannot " ++ m.name ++ " handler in state " ++ s.name
  | startFailed f => f.reason
  | stopFailed f => f.reason

end LifecycleError

inductive Responder
  /-- Every request is answered with status 404. -/
  | notFound
  | fixed (text : String)
  | outside
deriving DecidableEq, Repr, Inhabited

structure Handler where
  contextPath : String
  virtualHost : Option String
  responder : Responder
  state : LifecycleState := .created
deriving DecidableEq, Repr, Inhabited

namespace Handler

/-- A new handler: its context path is normalized, its virtual host written small, and an empty
virtual host is none. -/
def create (path : String) (virtualHost : Option String) (responder : Responder) : Handler where
  contextPath := ContextPath.normalize path
  virtualHost := (virtualHost.filter (!·.isEmpty)).map Ascii.lowerCase
  responder := responder

def isStarted (h : Handler) : Bool :=
  h.state == .started

end Handler
end ApiGateway
