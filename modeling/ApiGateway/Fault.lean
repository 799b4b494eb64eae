/-!
# Faults

A collaborator of the gateway (a handler, a hook, a factory, a reporter, a listener, the receiver
of a response) may end a call early.  A fault says how, and whether it has a message to show.
-/

namespace ApiGateway

inductive Fault
  | failed (message : String)
  /-- A callback was called that nobody had supplied. -/
  | emptyCallback
  /-- The collaborator failed in a way that carries no message. -/
  | foreign
deriving DecidableEq, Repr, Inhabited

namespace Fault

def message? : Fault → Option String
  | failed m => some m
  | emptyCallback => some "bad_function_call"
  | foreign => none

def reason (f : Fault) : String :=
  f.message?.getD "unknown error"

end Fault
end ApiGateway
