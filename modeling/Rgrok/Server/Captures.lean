/-
# The capture queues

`store_capture` in `crates/rgrok-server/src/tunnel_manager.rs`, and the update
of a capture in `proxy_request_to_tunnel` when its response is there.  Both find
the queue by the subdomain.
-/

import Rgrok.Server.TunnelManager

namespace Rgrok

/-- The response part of a capture. -/
structure Completion where
  durationMs : ℕ
  respStatus : UInt16
  respHeaders : List (String × String)
  respBody : Option (List UInt8)
  respBodyTruncated : Bool
deriving DecidableEq

/-- The update of a capture when the response is there. -/
def CapturedRequest.complete (capture : CapturedRequest) (completion : Completion) :
    CapturedRequest :=
  { capture with
    durationMs := some completion.durationMs
    respStatus := some completion.respStatus
    respHeaders := some completion.respHeaders
    respBody := completion.respBody
    respBodyTruncated := completion.respBodyTruncated }

/-- The newest capture with this id is completed. -/
def completeNewest (id : String) (completion : Completion) (queue : List CapturedRequest) :
    List CapturedRequest :=
  match queue with
  | [] => []
  | capture :: queue =>
      if queue.any fun capture => capture.id == id then
        capture :: completeNewest id completion queue
      else if capture.id == id then capture.complete completion :: queue
      else capture :: queue

namespace ServerState

/-- `store_capture`, and the event it sends. -/
def storeCapture (s : ServerState) (subdomain : String) (capture : CapturedRequest) :
    ServerState × List InspectEvent :=
  match s.captures.lookup subdomain with
  | none => (s, [])
  | some queue =>
      let queue := if s.config.inspect.bufferSize ≤ queue.length then queue.tail else queue
      ({ s with captures := s.captures.insert subdomain (queue ++ [capture.sanitize]) },
        [.newRequest capture.sanitize])

/-- The update of the capture `id` in the queue of `subdomain`. -/
def completeCapture (s : ServerState) (subdomain id : String) (completion : Completion) :
    ServerState :=
  match s.captures.lookup subdomain with
  | none => s
  | some queue =>
      { s with captures := s.captures.insert subdomain (completeNewest id completion queue) }

end ServerState

end Rgrok
