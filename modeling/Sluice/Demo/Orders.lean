import Sluice.Demo.Basic

/-! # The orders of the demo

A batch of orders goes through the router while a customer takes a message from the queue every
quarter of a second, so that the router has to hold orders back. The customer leaves when the queue
has stayed empty for a while. Time is that of a schedule: a run is a list of lines.
-/

namespace Sluice.Demo

def orderCount : Nat := 20

/-- For how long the customer rests between two messages. -/
def customerPace : Nat := 250

/-- How often in a row the customer finds the queue empty before leaving. -/
def customerPatience : Nat := 10

def order (id : Nat) : Context :=
  Keyed.ofList [("order", .ofEntries [("id", .long (Int64.ofNat id)),
    ("sku", .string ("SKU-" ++ toString (id % 3))),
    ("quantity", .int (Int32.ofNat (id % 5 + 1)))])]

/-- Publish orders, until the queue stays full. -/
def publishAll (r : Router) : List Nat → Work Unit
  | [] => return ()
  | id :: rest => do
      match ← r.visit .after (order id) with
      | .ok _ =>
          Work.ask (.record ("Order " ++ toString id ++ " is published"))
          publishAll r rest
      | .error e =>
          Work.ask (.record ("Order " ++ toString id ++ " is not published: " ++ e.message))
          if e.isBackpressure then return () else publishAll r rest

/-- Start the router, publish all orders, and close the router. -/
def publisher (r : Router) (files : Files) : Work Unit := do
  match ← r.start files Keyed.empty with
  | .error _ => return ()
  | .ok _ =>
      publishAll r ((List.range orderCount).map (· + 1))
      Router.close

/-- Take the oldest message from the queue. -/
def consumeOne (queue : String) (s : Schedule Unit) : Option Parcel × Schedule Unit :=
  let (parcel, broker) := s.world.broker.receive s.now queue
  (parcel, s.onWorld fun w => { w with broker })

/-- Let the customer come `visits` times at most. -/
def consume (queue : String) : (visits misses : Nat) → Schedule Unit → Schedule Unit
  | 0, _, s => s
  | visits + 1, misses, s =>
      let s := (s.perform patience 0 (Work.rest customerPace) none).2
      match consumeOne queue s with
      | (none, s) =>
          if misses + 1 < customerPatience then consume queue visits (misses + 1) s else s
      | (some parcel, s) =>
          let line := "A message is taken: " ++ (parcel.message.correlationId.getD "no id")
          consume queue visits 0 (s.onWorld fun w => { w with record := line :: w.record })

/-- The lines of a run in memory. Of the visits of the customer, every `customerPatience` in a row
take a message, so their number is bounded by that of the orders. -/
def run (r : Router) (files : Files) : List LogLine :=
  let s : Schedule Unit := { world := world r.config }
  let (task, s) := s.spawn 0 (publisher r files)
  let s := consume (queueName r.config) ((orderCount + 1) * customerPatience) 0 s
  ((s.join patience task).world.record.reverse).map fun text => ⟨.info, text⟩

end Sluice.Demo
