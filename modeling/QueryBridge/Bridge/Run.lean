import QueryBridge.Bridge.Adapter

/-!
# Runs

A host works with one adapter over time: it fills in properties, connects, and makes
requests, in any order.  Every action comes with the service's replies to it, leaves the
adapter in a new state and returns something to the host.
-/

namespace QueryBridge.Bridge

open QueryBridge.Service (Call)

/-- The operations on requests. -/
inductive Operation where
  | count
  | retrieve
  | search
deriving Repr, DecidableEq

/-- What a host does with an adapter. -/
inductive Action where
  | setProperties (values : List (String × Option CodeString))
  | listProperties
  | connect (replies : List Http.Reply)
  | verify (replies : List Http.Reply)
  | operate (operation : Operation) (request : Request) (replies : List Http.Reply)
deriving Repr

/-- What an action returns. -/
inductive Returned where
  | nothing
  | listings (listings : List Listing)
  | verification (verification : Adapter.Verification)
  | count (count : Count)
  | record (record : Record)
  | page (page : RecordList)
deriving Repr

namespace Adapter

variable [Runtime]

/-- Runs the operation of the given kind. -/
def run (adapter : Adapter) (operation : Operation) (request : Request)
    (replies : List Http.Reply) : Call Returned :=
  match operation with
  | .count => (adapter.count request replies).andThen fun count => .ok (.count count)
  | .retrieve => (adapter.retrieve request replies).andThen fun record => .ok (.record record)
  | .search => (adapter.search request replies).andThen fun page => .ok (.page page)

/-- The state that an action leaves, and what it does. -/
def perform (adapter : Adapter) : Action → Adapter × Call Returned
  | .setProperties values =>
      (adapter.setProperties values, Call.silent (.ok .nothing) [])
  | .listProperties =>
      (adapter, Call.silent (.ok (.listings adapter.properties.listings)) [])
  | .connect replies =>
      let connected := adapter.connect replies
      (connected.1, connected.2.andThen fun _ => .ok .nothing)
  | .verify replies =>
      let verified := adapter.verify replies
      (verified.1, verified.2.andThen fun verification => .ok (.verification verification))
  | .operate operation request replies => (adapter, adapter.run operation request replies)

/-- The state after the actions in order. -/
def after (adapter : Adapter) (actions : List Action) : Adapter :=
  actions.foldl (fun adapter action => (adapter.perform action).1) adapter

/-- Whether an action is a connection that succeeds. -/
def accepts (adapter : Adapter) : Action → Bool
  | .connect replies => (adapter.connect replies).2.outcome.isOk
  | .verify replies =>
      match (adapter.verify replies).2.outcome with
      | .ok verification => verification.success
      | .error _ => false
  | .setProperties _ | .listProperties | .operate .. => false

end Adapter

end QueryBridge.Bridge
