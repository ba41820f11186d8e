import ChainFeed.Gateway.Wire

/-!
# A server in memory

A **scripted server** is what an access node may be at the other end of a wire, with its replies
laid down beforehand. Each of its routes takes the requests with one method and one path, and
replies in the order in which its replies are laid down; the last one is repeated for ever. A
request that no route takes finds nothing.
-/

namespace ChainFeed

/-- What a server does with the requests for one path. -/
structure ScriptedRoute where
  /-- The method of the requests. -/
  method : String
  /-- The path of the requests. -/
  path : String
  /-- The query of the requests, if it matters. -/
  query : Option String
  /-- How the exchanges for the requests end, one after the other. -/
  endings : List Exchange
  deriving Repr

namespace ScriptedRoute

/-- Whether a route takes a request. -/
def takes (request : WireRequest) (route : ScriptedRoute) : Bool :=
  route.method == request.method && route.path == request.path &&
    (route.query.map (· == request.query.getD "")).getD true

/-- The end of an exchange for a request that finds nothing. -/
def nothing : Exchange := .reply 404 []

/-- How the next exchange of a route ends. -/
def next (route : ScriptedRoute) : Exchange := route.endings.head?.getD nothing

/-- A route after its next exchange: all that is left of its replies, but at least the last one. -/
def rest (route : ScriptedRoute) : ScriptedRoute :=
  match route.endings with
  | _ :: ending :: endings => { route with endings := ending :: endings }
  | _ => route

end ScriptedRoute

/-- A server in memory. -/
structure ScriptedServer where
  /-- The routes; the first one that takes a request counts. -/
  routes : List ScriptedRoute
  /-- The requests that reached the server, the newest first. -/
  requests : List WireRequest
  deriving Repr

namespace ScriptedServer

/-- A server that no request has reached yet. -/
def ofRoutes (routes : List ScriptedRoute) : ScriptedServer := ⟨routes, []⟩

/-- The end of the exchange for a request, and the routes afterwards. -/
def respond (request : WireRequest) : List ScriptedRoute → Exchange × List ScriptedRoute
  | [] => (ScriptedRoute.nothing, [])
  | route :: routes =>
    if route.takes request then (route.next, route.rest :: routes)
    else
      let (ending, routes) := respond request routes
      (ending, route :: routes)

/-- The wire that leads to a server in memory. -/
def wire : Wire ScriptedServer where
  send request server :=
    let (ending, routes) := respond request server.routes
    (ending, ⟨routes, request :: server.requests⟩)

end ScriptedServer

end ChainFeed
