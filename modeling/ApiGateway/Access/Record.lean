import ApiGateway.Text.Milliseconds

/-!
# Access records

What is reported about one served request, and the line that the access log shows of it.
-/

namespace ApiGateway

structure AccessRecord where
  requestId : String
  method : String
  path : String
  host : String
  /-- The context path that served the request; empty if none did. -/
  contextPath : String := ""
  status : Int := 0
  timestamp : Int := 0
  responseTime : Int := 0
deriving DecidableEq, Repr, Inhabited

namespace AccessRecord

def logName : String := "access"

/-- The access line of a record.  The texts stand between quotes as they are; the timestamp is cut
to whole milliseconds. -/
def line (r : AccessRecord) : String :=
  "\x7b\"id\":\"" ++ r.requestId ++ "\",\"ts\":" ++ toString (r.timestamp.tdiv 1000000) ++
  ",\"method\":\"" ++ r.method ++ "\",\"host\":\"" ++ r.host ++ "\",\"path\":\"" ++ r.path ++
  "\",\"context\":\"" ++ r.contextPath ++ "\",\"status\":" ++ toString r.status ++
  ",\"response_time_ms\":" ++ Milliseconds.format r.responseTime ++ "\x7d"

def isNotFound (r : AccessRecord) : Bool :=
  r.status == 404 && r.contextPath.isEmpty

def isServerError (r : AccessRecord) : Bool :=
  500 ≤ r.status

end AccessRecord
end ApiGateway
