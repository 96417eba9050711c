import ControlSurface.Service.Routing
import ControlSurface.Service.Settings

/-!
# The service

A request passes the rate limiter first, then the rules for other origins, and then it is answered
by its route.
-/

namespace ControlSurface.Service

/-! ### Other origins -/

/-- The addresses of the machine that a page may run on while it is developed. -/
def localHosts : List (List Char) :=
  ["http://localhost", "https://localhost", "http://127.0.0.1", "https://127.0.0.1"].map
    String.toList

/-- Whether a text is nothing, or a number of any size behind a colon. -/
def isNumbering : List Char → Bool
  | [] => true
  | ':' :: digits => !digits.isEmpty && digits.all Ascii.isDigit
  | _ => false

/-- Whether an origin is on the local machine, whatever number follows its host. -/
def isLocalOrigin (origin : String) : Bool :=
  localHosts.any fun host =>
    host.isPrefixOf origin.toList && isNumbering (origin.toList.drop host.length)

/-- Whether a page of an origin is allowed to use the service. A frontend that is set to a star
allows every origin. -/
def allows (settings : Settings) (origin : String) : Bool :=
  settings.frontend? = some "*" || settings.frontend? = some origin || isLocalOrigin origin

/-- Adds what a page of another origin has to be told. -/
def withOrigin (settings : Settings) (r : Request) (response : Response) : Response :=
  match r.header? "origin" with
  | none => response
  | some origin =>
    let allowed :=
      if allows settings origin then [("access-control-allow-origin", origin)] else []
    { response with
      headers := response.headers ++ allowed ++ [("access-control-allow-credentials", "true")] }

/-! ### The service as a whole -/

/-- How the limiter sees a request at a time. -/
def arrival (settings : Settings) (r : Request) (now : Seconds) : Limiter.Arrival where
  client := Limiter.clientOf settings.limits (r.header? "x-forwarded-for") r.client?
  path := Url.pathOf r.path
  time := now

/-- The response to a request that the limiter refuses. -/
def refused (detail : String) : Response := Response.of 429 (.detail detail) []

/-- Answers a request at a time. The limiter starts with the first request. -/
def serve (settings : Settings) (limiter : Option Limiter.State) (r : Request) (now : Seconds) :
    Except Breakdown Response × Limiter.State :=
  let (verdict, limiter) := Limiter.step settings.limits (limiter.getD (.start now))
    (arrival settings r now)
  match verdict.detail? with
  | some detail => (.ok (refused detail), limiter)
  | none => ((answer r).map (withOrigin settings r), limiter)

end ControlSurface.Service
