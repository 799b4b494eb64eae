import ApiGateway.Route.Table

/-!
# Selecting the route of a request

Among the started routes that cover the path, one bound to the request's host is taken before one
bound to no host, and one bound to another host never.
-/

namespace ApiGateway
namespace Routes

def hosted? (r : Routes) (pool : HandlerId → Handler) (path host : String) : Option Route :=
  (r.candidates pool path).find? fun e => (pool e.handler).virtualHost == some host

def hostless? (r : Routes) (pool : HandlerId → Handler) (path : String) : Option Route :=
  (r.candidates pool path).find? fun e => (pool e.handler).virtualHost == none

def select? (r : Routes) (pool : HandlerId → Handler) (path host : String) : Option Route :=
  (r.hosted? pool path host).or (r.hostless? pool path)

end Routes
end ApiGateway
