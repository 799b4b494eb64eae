import ApiGateway.Api
import ApiGateway.Handler
import ApiGateway.Log.Level
import ApiGateway.Route.Table
import ApiGateway.Stats

/-!
# Notices

Everything the gateway has to say in its log, one constructor for each occasion.  `Notice.level`
and `Notice.text` give the log line.
-/

namespace ApiGateway

inductive Notice
  -- dispatch
  | requestMissing
  | receiving (request path : String)
  | hostMatched (path host contextPath : String)
  | candidates (count : Nat) (path : String)
  | unclaimed (request path : String)
  | handlerFailed (fault : Fault)
  -- completion
  | repeated (request : String)
  | unanswered (request : String)
  | completed (request : String) (micros : Int)
  | reportFailed (request : String) (fault : Fault)
  | sinkFailed (request : String) (fault : Fault)
  -- events
  | publishing (event : ApiEvent) (listeners : Nat)
  | listenerFailed (id : Nat) (event : ApiEvent) (fault : Fault)
  -- deployment
  | gatewayStarted
  | gatewayStopped
  | disabled (api : String)
  | notBuilt (api : String) (fault : Fault)
  | nothingBuilt (api : String)
  | notStarted (api : String) (error : LifecycleError)
  | notPublished (api contextPath : String) (rejection : Rejection)
  | deployed (api virtualHost contextPath : String)
  | notYetDeployed (api : String)
  | nothingToRemove (api : String)
  | removed (api : String)
  | removedAll (count : Nat)
  | notStopped (api : String) (error : LifecycleError)
  | staleIndex (api path : String)
  -- fixed handlers
  | fixedStarted (contextPath : String)
  | fixedStopped (contextPath : String)
  -- the process
  | levelUnknown (word : String)
  | dispatchSummary (stats : DispatchStats)
  | accessSummary (records notFound serverErrors : Nat)
deriving DecidableEq, Repr, Inhabited

namespace Notice

def level : Notice → Level
  | requestMissing => .err
  | receiving .. => .debug
  | hostMatched .. => .debug
  | candidates .. => .debug
  | unclaimed .. => .debug
  | handlerFailed .. => .err
  | repeated .. => .warn
  | unanswered .. => .err
  | completed .. => .debug
  | reportFailed .. => .err
  | sinkFailed .. => .err
  | publishing .. => .debug
  | listenerFailed .. => .err
  | gatewayStarted => .info
  | gatewayStopped => .info
  | disabled .. => .warn
  | notBuilt .. => .err
  | nothingBuilt .. => .err
  | notStarted .. => .err
  | notPublished .. => .warn
  | deployed .. => .info
  | notYetDeployed .. => .debug
  | nothingToRemove .. => .debug
  | removed .. => .info
  | removedAll .. => .info
  | notStopped .. => .err
  | staleIndex .. => .warn
  | fixedStarted .. => .debug
  | fixedStopped .. => .debug
  | levelUnknown .. => .warn
  | dispatchSummary .. => .info
  | accessSummary .. => .info

/-- The line in the log.  How many candidates were seen before a host matched depends on where the
match stood among them, so that line shows a star for the number. -/
def text : Notice → String
  | requestMissing => "Rejecting dispatch without a request"
  | receiving id path => "Receiving a request " ++ id ++ " for path " ++ path
  | hostMatched path host ctx =>
    "Found * handlers for path " ++ path ++ ", returning virtual host " ++ host ++ " on " ++ ctx
  | candidates n path => "Found " ++ toString n ++ " handlers for path " ++ path
  | unclaimed id path => "No handler for request " ++ id ++ " on path " ++ path
  | handlerFailed f => "Handler failed to dispatch request: " ++ f.reason
  | repeated id =>
    "Response callback for request " ++ id ++ " invoked more than once, ignoring"
  | unanswered id => "Handler completed request " ++ id ++ " without a response"
  | completed id us => "Request " ++ id ++ " completed in " ++ toString us ++ "us"
  | reportFailed id f => "Unable to report request " ++ id ++ ": " ++ f.reason
  | sinkFailed id f => "Reporter failed for request " ++ id ++ ": " ++ f.reason
  | publishing e n =>
    "Publishing " ++ e.kind.name ++ " event for API " ++ e.api.id ++ " to " ++ toString n ++
      " listeners"
  | listenerFailed id e f =>
    "Listener " ++ toString id ++ " failed on " ++ e.kind.name ++ " event for API " ++ e.api.id ++
      ": " ++ f.reason
  | gatewayStarted => "Reactor started"
  | gatewayStopped => "Reactor stopped"
  | disabled api => "API " ++ api ++ " is disabled, not deploying"
  | notBuilt api f => "Unable to create handler for API " ++ api ++ ": " ++ f.reason
  | nothingBuilt api => "Handler factory returned no handler for API " ++ api
  | notStarted api e => "Unable to deploy handler for API " ++ api ++ ": " ++ e.message
  | notPublished api ctx r =>
    "API " ++ api ++ " not published on " ++ ctx ++ " (" ++ r.name ++ "), discarding handler"
  | deployed api host ctx => "API " ++ api ++ " has been deployed in reactor on " ++ host ++ ctx
  | notYetDeployed api => "API " ++ api ++ " is not deployed yet, deploying"
  | nothingToRemove api => "API " ++ api ++ " is not deployed, nothing to remove"
  | removed api => "API " ++ api ++ " has been removed from reactor"
  | removedAll n => "Removed " ++ toString n ++ " handlers from reactor"
  | notStopped api e => "Unable to stop handler for API " ++ api ++ ": " ++ e.message
  | staleIndex api path =>
    "Dropping stale route index for API " ++ api ++ " (path " ++ path ++ ")"
  | fixedStarted ctx => "Static handler on " ++ ctx ++ " started"
  | fixedStopped ctx => "Static handler on " ++ ctx ++ " stopped"
  | levelUnknown w => "Unknown log level '" ++ w ++ "', using info"
  | dispatchSummary s =>
    "Dispatched " ++ toString s.dispatched ++ " requests (" ++ toString s.notFound ++
      " not found), " ++ toString s.deployed ++ " APIs deployed, " ++ toString s.deployFailures ++
      " failed"
  | accessSummary records notFound serverErrors =>
    "Access log: " ++ toString records ++ " records, " ++ toString notFound ++ " not found, " ++
      toString serverErrors ++ " server errors"

end Notice
end ApiGateway
