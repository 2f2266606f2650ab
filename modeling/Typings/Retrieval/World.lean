import Typings.Files.Store
import Typings.Number.Binary64
import Typings.Warning

/-!
# What retrieval works on

A world holds the files, the connection to the server, a clock to wait by and a record of what a
run did.

* `Connection`: whether requests go through a borrowed client, an own one, or none so far;
* `Clock`: how long a pause may be;
* `World.connect`, `World.disconnect`: an own client is made at the first request and closed at
  the end.
-/

namespace Typings

inductive Connection where
  /-- A client that belongs to someone else. -/
  | borrowed
  /-- No client so far; one is made when it is needed. -/
  | absent
  /-- A client that was made here. -/
  | own
deriving DecidableEq, Repr

/-- A clock counts the nanoseconds of a pause. -/
structure Clock where
  /-- The greatest count, if there is one. -/
  greatest : Option Nat := none
deriving DecidableEq, Repr

namespace Clock

/-- A clock whose counts are words of 64 bits with a sign. -/
def ofWords : Clock := ⟨some (Nat.pow 2 63 - 1)⟩

/-- Whether the clock can count a pause of some seconds. -/
def measures (clock : Clock) (seconds : Binary64) : Bool :=
  clock.greatest.all fun greatest => (seconds.times 1000000000).atMost greatest

end Clock

structure World where
  store : FileStore := {}
  connection : Connection := .absent
  clock : Clock := {}
  /-- Addresses of the requests, in order. -/
  requests : List String := []
  /-- Waiting times between attempts, in seconds. -/
  pauses : List Binary64 := []
  /-- Timeouts of the clients that were made. -/
  timeouts : List Binary64 := []
  /-- How many clients were closed. -/
  closings : Nat := 0
  warnings : List Warning := []
deriving DecidableEq

namespace World

/-- The world with a client to send requests through. -/
def connect (timeout : Binary64) (world : World) : World :=
  match world.connection with
  | .absent => { world with connection := .own, timeouts := world.timeouts ++ [timeout] }
  | _ => world

/-- The world with its own client closed, if there is one. -/
def disconnect (world : World) : World :=
  match world.connection with
  | .own => { world with connection := .absent, closings := world.closings + 1 }
  | _ => world

def logRequest (url : String) (world : World) : World :=
  { world with requests := world.requests ++ [url] }

def logPause (seconds : Binary64) (world : World) : World :=
  { world with pauses := world.pauses ++ [seconds] }

def warn (warning : Warning) (world : World) : World :=
  { world with warnings := world.warnings ++ [warning] }

end World
end Typings
