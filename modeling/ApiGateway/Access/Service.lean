import ApiGateway.Access.Record

/-!
# Reporters

A reporter receives access records.  A reporting service is a reporter that counts the records and
passes each on to reporters of its own, its sinks.
-/

namespace ApiGateway

inductive Reporter
  | log
  | service (service : Nat)
  | outside (reporter : Nat)
deriving DecidableEq, Repr, Inhabited

structure Service where
  records : Nat := 0
  notFound : Nat := 0
  serverErrors : Nat := 0
  sinks : List Reporter := []
deriving DecidableEq, Repr, Inhabited

namespace Service

def count (s : Service) (r : AccessRecord) : Service :=
  { s with
    records := s.records + 1
    notFound := s.notFound + r.isNotFound.toNat
    serverErrors := s.serverErrors + r.isServerError.toNat }

/-- Adds a sink behind the others; to add none changes nothing. -/
def add (s : Service) : Option Reporter → Service
  | some r => { s with sinks := s.sinks ++ [r] }
  | none => s

end Service
end ApiGateway
