/-
The tasks of the device, as data.

A task never ends. What it remembers between two rounds of its work is a
value, its job, and a round is a program that ends with the job for the
next one. So a task can be started, kept while it waits and looked at,
and no loop is unbounded inside of a program.
-/
import Uplink.Gsm.Manager
import Uplink.Time.Clock

namespace Uplink.Board

/-- The IP stacks: one over WiFi, one over PPP. -/
inductive Stack where
  | wifi
  | ppp
deriving DecidableEq, Repr

def Stack.name : Stack → String
  | wifi => "wifi"
  | ppp => "ppp"

/-- The stack that carries the traffic of a transport. -/
def Stack.ofTransport : Network.Transport → Stack
  | .wifi => wifi
  | .gsm => ppp

/-- What is settled when the device is built. -/
structure Build where
  credentials : Option (String × String) := none
  apnOverride : Option Config.Override := none

/-- The configuration of a build. -/
def Build.settings (b : Build) : Config.Settings :=
  { Config.Settings.standard with apnOverride := b.apnOverride }

/-- What the cellular link holds besides its manager: how the line is
wired, whether the PPP interface is created, and the mode that the channel
remembers. -/
structure Parts where
  wiring : Config.Uart
  created : Bool := false
  mode : Modem.Mode := .command
deriving DecidableEq, Repr

/-- The two links of the device, and what they hold. -/
structure Connectivity where
  credentials : Option (String × String)
  manager : Gsm.Manager
  parts : Parts

/-- What the device cannot start without. -/
inductive BootStage where
  | radio
  | wifi
  | line
deriving DecidableEq, Repr

/-- What a task does next. -/
inductive Job where
  | boot (build : Build)
  | report
  | halted (stage : BootStage)
  | drive (stack : Stack)
  | ppp
  | select (links : Connectivity)
  | watch (links : Connectivity)
  | setClock (clock : Option Time.SyncedClock)
  | rest

end Uplink.Board
