import ProxyFleet.Event.Queue
import ProxyFleet.NameMap

/-!
# Waiting together

Those who wait for events of one session queue up: only the first one sees events, and passes over
those that it does not want, until it gets the one that it wants or its time is over. Meanwhile the
time of the others runs too. Time stands still except while somebody outside waits.
-/

namespace ProxyFleet

/-- Somebody who waits for an event. -/
structure Waiter where
  /-- Who waits. -/
  id : String
  /-- The event that is wanted; any if there is none. -/
  want : Option Event
  /-- How long it waits in all, in milliseconds. -/
  millis : Nat
  /-- When its time is over, in milliseconds. -/
  deadline : Nat
deriving DecidableEq

/-- Those who wait, and what became of those who no longer do. -/
structure WaitingRoom where
  /-- Those who wait, the first one first. -/
  waiters : List Waiter := []
  /-- The time, in milliseconds. -/
  now : Nat := 0
  /-- What those got who are done, and whom nobody asked yet. -/
  finished : List (String × Except Failure Event) := []

namespace WaitingRoom

/-- Lets those in front take events as long as there are any for them. -/
def serve : List Waiter → EventQueue → List (String × Except Failure Event) × List Waiter × EventQueue
  | [], q => ([], [], q)
  | w :: rest, q =>
    match q.poll w.want with
    | (none, q) => ([], w :: rest, q)
    | (some result, q) =>
      let (done, waiting, q) := serve rest q
      ((w.id, result) :: done, waiting, q)

/-- The room and the queue after everybody took what there is. -/
def settle (room : WaitingRoom) (q : EventQueue) : WaitingRoom × EventQueue :=
  let (done, waiting, q) := serve room.waiters q
  ({ room with waiters := waiting, finished := room.finished ++ done }, q)

/-- The longest time that a clock counts ahead, thirty years in milliseconds. -/
def farFuture : Nat := 86400 * 365 * 30 * 1000

/-- Queues somebody up who will wait for so many nanoseconds. -/
def enter (room : WaitingRoom) (id : String) (want : Option Event) (nanos : Nat) : WaitingRoom :=
  let ahead := if UInt64.size / 2 * 1000000000 ≤ nanos then farFuture else (nanos + 999999) / 1000000
  let waiter : Waiter :=
    { id := id, want := want, millis := nanos / 1000000, deadline := room.now + ahead }
  { room with waiters := room.waiters ++ [waiter] }

/-- The earliest time at which the time of somebody is over. -/
def nextDeadline? : List Waiter → Option Nat
  | [] => none
  | w :: rest =>
    match nextDeadline? rest with
    | none => some w.deadline
    | some d => some (min w.deadline d)

/-- Moves the clock forward to a time, at which those leave whose time is over. -/
def expire (room : WaitingRoom) (time : Nat) : WaitingRoom :=
  let (gone, waiting) := room.waiters.partition (·.deadline ≤ time)
  { waiters := waiting, now := max room.now time,
    finished := room.finished ++
      gone.map fun w ↦ (w.id, .error (EventQueue.timeout w.want w.millis)) }

/-- What somebody got who is done. -/
def result? (room : WaitingRoom) (id : String) : Option (Except Failure Event) :=
  room.finished.lookup id

/-- Strikes somebody off the list of those who are done. -/
def forget (room : WaitingRoom) (id : String) : WaitingRoom :=
  { room with finished := room.finished.filter (·.1 ≠ id) }

/-- Lets time pass from deadline to deadline, for at most so many of them, until somebody is done.
-/
def awaitFor : Nat → String → WaitingRoom → EventQueue → WaitingRoom × EventQueue
  | 0, _, room, q => (room, q)
  | steps + 1, id, room, q =>
    if (room.result? id).isSome then (room, q)
    else
      match nextDeadline? room.waiters with
      | none => (room, q)
      | some time =>
        let (room, q) := (room.expire time).settle q
        awaitFor steps id room q

/-- Waits for somebody to be done: what that one got, if it is one who waits or waited. -/
def join (room : WaitingRoom) (q : EventQueue) (id : String) :
    Option (Except Failure Event) × WaitingRoom × EventQueue :=
  let (room, q) := room.settle q
  let (room, q) := awaitFor (room.waiters.length + 1) id room q
  (room.result? id, room.forget id, q)

/-- Lets so many milliseconds pass. -/
def elapse (room : WaitingRoom) (q : EventQueue) (millis : Nat) : WaitingRoom × EventQueue :=
  let time := room.now + millis
  passUntil (room.waiters.length + 1) time room q
where
  /-- Lets time pass from deadline to deadline up to a time. -/
  passUntil : Nat → Nat → WaitingRoom → EventQueue → WaitingRoom × EventQueue
    | 0, time, room, q => ({ room with now := time }, q)
    | steps + 1, time, room, q =>
      match nextDeadline? room.waiters with
      | none => ({ room with now := time }, q)
      | some deadline =>
        if time < deadline then ({ room with now := time }, q)
        else
          let (room, q) := (room.expire deadline).settle q
          passUntil steps time room q

/-- Waits until nobody else does, and then drops all updates and counts them. -/
def clear (room : WaitingRoom) (q : EventQueue) : Nat × WaitingRoom × EventQueue :=
  let (room, q) := room.settle q
  let (room, q) := drainRoom (room.waiters.length + 1) room q
  let (count, q) := q.clear
  (count, room, q)
where
  /-- Lets time pass from deadline to deadline until nobody waits. -/
  drainRoom : Nat → WaitingRoom → EventQueue → WaitingRoom × EventQueue
    | 0, room, q => (room, q)
    | steps + 1, room, q =>
      match nextDeadline? room.waiters with
      | none => (room, q)
      | some deadline =>
        let (room, q) := (room.expire deadline).settle q
        drainRoom steps room q

end WaitingRoom

end ProxyFleet
