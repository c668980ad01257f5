import Crosstab.Log.Entry

/-!
# The log channel

Entries are broadcast: every receiver gets each entry sent since it subscribed, in order, at its
own pace. The channel keeps only the newest 256 entries. A receiver that falls further behind is
told once how many it has lost, and goes on with the oldest entry kept.

    send ──▶ sent so far ──receive──▶ the entry at the receiver's place, or how many it lost

Receivers do not see each other, and a channel without receivers takes entries all the same.
-/

namespace Crosstab.Log

/-- A broadcast channel. -/
structure Channel where
  /-- All entries sent, in order. -/
  sent : Array Entry
  /-- For each receiver, how many of the entries are behind it. -/
  places : List (String × Nat)
  /-- Entries are shown on the terminal when they are sent. -/
  echo : Bool

/-- What a receiver gets. -/
inductive Received where
  | entry (entry : Entry)
  /-- So many entries were lost. -/
  | lagged (count : Nat)
  /-- Nothing is pending. -/
  | empty
deriving DecidableEq, Repr

namespace Channel

/-- How many entries are kept for a receiver that is behind. -/
def capacity : Nat := 256

/-- Nothing sent, nobody listening. -/
def fresh : Channel := ⟨#[], [], true⟩

/-- The place of a receiver. -/
def place? (channel : Channel) (receiver : String) : Option Nat := channel.places.lookup receiver

/-- Puts a receiver at a place. -/
def setPlace (channel : Channel) (receiver : String) (place : Nat) : Channel :=
  { channel with places := (receiver, place) :: channel.places.filter (·.1 != receiver) }

/-- A receiver starts to listen: it gets what is sent from now on. -/
def subscribe (channel : Channel) (receiver : String) : Channel :=
  channel.setPlace receiver channel.sent.size

/-- A receiver stops to listen. -/
def unsubscribe (channel : Channel) (receiver : String) : Channel :=
  { channel with places := channel.places.filter (·.1 != receiver) }

/-- Turns the echo on the terminal on or off. -/
def setEcho (channel : Channel) (echo : Bool) : Channel := { channel with echo }

/-- Sends an entry to all receivers. -/
def send (channel : Channel) (entry : Entry) : Channel :=
  { channel with sent := channel.sent.push entry }

/-- A receiver takes the next entry; if more are pending than the channel keeps, it learns how
many it has lost and stands at the oldest one kept. Who is no receiver gets nothing. -/
def receive (channel : Channel) (receiver : String) : Received × Channel :=
  match channel.place? receiver with
  | none => (.empty, channel)
  | some place =>
    if place + capacity < channel.sent.size then
      let kept := channel.sent.size - capacity
      (.lagged (kept - place), channel.setPlace receiver kept)
    else
      match channel.sent[place]? with
      | some entry => (.entry entry, channel.setPlace receiver (place + 1))
      | none => (.empty, channel)

/-- Everything a receiver can take at once, as many times as `count` allows. -/
def drain (receiver : String) : Nat → Channel → List Received
  | 0, _ => []
  | count + 1, channel =>
    match channel.receive receiver with
    | (.empty, _) => []
    | (received, channel) => received :: drain receiver count channel

end Channel

end Crosstab.Log
