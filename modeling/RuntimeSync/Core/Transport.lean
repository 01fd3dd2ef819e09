import RuntimeSync.Core.TransportKeys
import RuntimeSync.Library.Buckets
import RuntimeSync.Library.Machine

/-!
# The in-memory transport

Subscriptions are filed under their key in the order in which they were made.
A publish copies the callbacks of its key under the lock and invokes them one
by one after that, so that a callback may call the transport again.
-/

namespace RuntimeSync

structure TransportMessage where
  key : Str
  cycleId : UInt64 := 0
  participantId : Str := []
  payload : SampleEnvelope := {}
  deriving DecidableEq

/-- The handle that a subscriber holds; its destructor unsubscribes. -/
@[ext] structure Subscription where
  key : Str
  id : ℕ
  deriving DecidableEq

namespace InMemoryTransport

/-- A callback of the caller's, which the transport only copies and invokes. -/
structure Subscriber (C : Type) where
  id : ℕ
  callback : C
  deriving DecidableEq

/-- The ids are a 64-bit count that no run exhausts. -/
structure Impl (C : Type) where
  subscribers : Buckets Str (Subscriber C) compare := ∅
  nextId : ℕ := 1

namespace Impl

variable {C : Type}

/-- An empty `std::function` is `none`. -/
def subscribe (t : Impl C) (key : Str) (callback : Option C) : Impl C × Except Str Subscription :=
  match TransportKeys.validateTaskSampleKey key with
  | .error reason => (t, .error reason)
  | .ok () =>
      match callback with
      | none => (t, .error (text "callback is required"))
      | some callback =>
          ({ subscribers := Buckets.push t.subscribers key ⟨t.nextId, callback⟩
             nextId := t.nextId + 1 },
            .ok ⟨key, t.nextId⟩)

/-- The callbacks that a publish copies before it invokes the first. -/
def publish (t : Impl C) (message : TransportMessage) : Except Str (List C) :=
  match TransportKeys.validateTaskSampleKey message.key with
  | .error reason => .error reason
  | .ok () => .ok ((Buckets.bucket t.subscribers message.key).map Subscriber.callback)

def isActive (t : Impl C) (subscription : Subscription) : Bool :=
  match t.subscribers[subscription.key]? with
  | none => false
  | some subscribers => subscribers.any fun subscriber ↦ subscriber.id == subscription.id

def remove (t : Impl C) (subscription : Subscription) : Impl C :=
  { t with
    subscribers := Buckets.removeIf t.subscribers subscription.key fun subscriber ↦
      subscriber.id == subscription.id }

end Impl

/-! ## Publishes in progress

A publish that has copied its callbacks goes on when the callback that it has
invoked returns.  What comes before that, from inside the callback or from
another thread, are calls like any others. -/

/-- What is left of a publish. -/
structure Delivery (C : Type) where
  message : TransportMessage
  callbacks : List C

structure Run (C : Type) where
  impl : Impl C := {}
  deliveries : Std.ExtTreeMap ℕ (Delivery C) compare := ∅
  published : ℕ := 0

inductive Call (C : Type) where
  | subscribe (key : Str) (callback : Option C)
  /-- By a call or by the destructor. -/
  | unsubscribe (subscription : Subscription)
  | publish (message : TransportMessage)
  /-- The loop of the publish with this number goes on. -/
  | proceed (number : ℕ)

inductive Answer (C : Type) where
  | subscribed (subscription : Subscription)
  | unsubscribed
  /-- A call that fails, with its error. -/
  | refused (reason : Str)
  | started (number : ℕ)
  | invoked (number : ℕ) (callback : C) (message : TransportMessage)
  /-- The publish with this number returns true. -/
  | returned (number : ℕ)
  | idle

variable {C : Type}

def step (r : Run C) : Call C → Run C × Answer C
  | .subscribe key callback =>
      let subscribed := r.impl.subscribe key callback
      match subscribed.2 with
      | .error reason => (r, .refused reason)
      | .ok subscription => ({ r with impl := subscribed.1 }, .subscribed subscription)
  | .unsubscribe subscription => ({ r with impl := r.impl.remove subscription }, .unsubscribed)
  | .publish message =>
      match r.impl.publish message with
      | .error reason => (r, .refused reason)
      | .ok callbacks =>
          ({ r with
              deliveries := r.deliveries.insert r.published ⟨message, callbacks⟩
              published := r.published + 1 },
            .started r.published)
  | .proceed number =>
      match r.deliveries[number]? with
      | none => (r, .idle)
      | some ⟨_, []⟩ => ({ r with deliveries := r.deliveries.erase number }, .returned number)
      | some ⟨message, callback :: callbacks⟩ =>
          ({ r with deliveries := r.deliveries.insert number ⟨message, callbacks⟩ },
            .invoked number callback message)

def after (calls : List (Call C)) : Run C := Machine.run step {} calls

abbrev Record (C : Type) := List (Machine.Entry (Run C) (Call C) (Answer C))

def record (calls : List (Call C)) : Record C := Machine.trace step {} calls

end InMemoryTransport

end RuntimeSync
