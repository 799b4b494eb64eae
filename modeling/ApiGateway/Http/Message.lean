import ApiGateway.Http.Headers

/-!
# Requests and responses

What a transport hands to the gateway and gets back from it.  Times are nanoseconds: `receivedAt`
and `responseTime` on the monotonic clock, `timestamp` since the epoch.
-/

namespace ApiGateway

structure Request where
  id : String := ""
  method : String := "GET"
  /-- The decoded path, without a query. -/
  path : String := "/"
  /-- The request target as it was received; it may be absolute. -/
  uri : String := ""
  headers : Headers := {}
  receivedAt : Int := 0
  timestamp : Int := 0
deriving DecidableEq, Repr, Inhabited

structure Response where
  status : Int := 200
  headers : Headers := {}
  body : String := ""
  responseTime : Int := 0
deriving DecidableEq, Repr, Inhabited

namespace Response

def serverError : Response := { status := 500 }

def asNotFound (r : Response) : Response :=
  { r with
    status := 404
    headers := r.headers.insert "Content-Type" "text/plain"
    body := "No context-path matches the request URI." }

def asText (r : Response) (text : String) : Response :=
  { r with
    status := 200
    headers := r.headers.insert "Content-Type" "text/plain"
    body := text }

end Response
end ApiGateway
