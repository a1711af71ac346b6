/-
How long the cellular link waits, and how often it tries.

All times are in milliseconds.
-/

namespace Uplink.Gsm.Timing

-- hardware reset

/-- The supply stays off for this long. -/
def powerOffPulse : Nat := 100

/-- The supply settles for this long after it is back on. -/
def powerOnSettle : Nat := 1000

/-- The reset line is held for this long. -/
def resetPulse : Nat := 200

/-- The modem boots for this long before it answers. -/
def bootWait : Nat := 5000

/-- How often a reset is tried. -/
def hardwareResetAttempts : Nat := 3

-- waking up

/-- The modem may take this long to acknowledge an escape. -/
def escapeTimeout : Nat := 1500

/-- How often the modem is probed. -/
def wakeAttempts : Nat := 5

/-- From one probe to the next. -/
def wakeInterval : Nat := 1000

/-- The modem may take this long to answer a probe. -/
def probeTimeout : Nat := 1000

/-- For queries that have no time of their own. -/
def queryTimeout : Nat := 3000

-- signal strength

/-- The strength that means there is no signal. -/
def rssiNoSignal : Int := 99

/-- Below this the signal is weak. -/
def rssiWeakThreshold : Int := 10

/-- The strength that is reported when none is known. -/
def signalUnknown : Int := -1

-- SIM and registration

/-- A SIM that is not ready gets this long. -/
def simNotReadyDelay : Nat := 5000

/-- From one poll for registration to the next. -/
def registrationPollInterval : Nat := 2000

/-- How often registration is polled for. -/
def registrationAttempts : Nat := 30

/-- From one poll for the packet domain to the next. -/
def gprsPollInterval : Nat := 2000

/-- How often registration with the packet domain is polled for. -/
def gprsAttempts : Nat := 20

-- packet domain

/-- The modem may take this long to attach. -/
def attachTimeout : Nat := 10000

/-- The network settles for this long after that. -/
def attachSettle : Nat := 2000

/-- The modem may take this long to define a context. -/
def contextTimeout : Nat := 5000

/-- The modem may take this long to drop a context. -/
def contextDeactivateTimeout : Nat := 10000

-- data mode

/-- How often data mode is tried. -/
def dataModeAttempts : Nat := 3

/-- The pause before it is tried again. -/
def dataModeBackoff : Nat := 5000

/-- PPP may negotiate an address for this long. -/
def pppConnectTimeout : Nat := 90000

/-- The resolvers settle for this long before they are tried. -/
def dnsStabilizeDelay : Nat := 2000

/-- The trial of the resolvers may take this long. -/
def dnsSelfTestTimeout : Nat := 10000

/-- The modem may take this long to report its last error. -/
def errorReportTimeout : Nat := 2000

end Uplink.Gsm.Timing
