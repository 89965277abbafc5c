import Mathlib.Data.UInt

/-!
# The network monitor

A model of the timer handler of `networkMonitorSpeed:`. Each time the timer fires, the handler walks
the list that `getifaddrs` returns, adds up the byte counters of the interfaces that are up and not
loopbacks, and reports by how much the sums have grown since the last time. The counters, the sums
and the differences are all unsigned numbers of 32 bits.
-/

namespace Component.NetworkMonitor

/-- The address family `AF_LINK`. -/
def afLink : UInt8 := 18

/-- The flag `IFF_UP`. -/
def iffUp : UInt32 := 0x1

/-- The flag `IFF_RUNNING`. -/
def iffRunning : UInt32 := 0x40

/-- The counters of `struct if_data`. -/
structure IfData where
  ifiIbytes : UInt32
  ifiObytes : UInt32
  deriving DecidableEq, Repr

/-- An element of the list of `getifaddrs`. Names are C strings without the final zero. -/
structure Ifaddrs where
  ifaName : List Char
  saFamily : UInt8
  ifaFlags : UInt32
  ifaData : Option IfData
  deriving DecidableEq, Repr

/-- The comparison `strncmp(name, "lo", 2) == 0`. -/
def isLoopback (name : List Char) : Bool := name.take 2 = ['l', 'o']

/-- The local variables `iBytes` and `oBytes`. -/
structure Bytes where
  iBytes : UInt32
  oBytes : UInt32
  deriving DecidableEq, Repr

/-- One turn of the loop. -/
def addInterface (bytes : Bytes) (ifa : Ifaddrs) : Bytes :=
  if ifa.saFamily ≠ afLink then bytes
  else if ifa.ifaFlags &&& iffUp = 0 ∧ ifa.ifaFlags &&& iffRunning = 0 then bytes
  else
    match ifa.ifaData with
    | none => bytes
    | some ifData =>
        -- `strncmp` is zero, which is false, for the loopback
        if isLoopback ifa.ifaName then bytes
        else ⟨bytes.iBytes + ifData.ifiIbytes, bytes.oBytes + ifData.ifiObytes⟩

/-- The loop over all interfaces. -/
def sumInterfaces (ifList : List Ifaddrs) : Bytes := ifList.foldl addInterface ⟨0, 0⟩

/-- The static variables `i_vel` and `o_vel`, which keep the sums of the last time. -/
structure Velocity where
  iVel : UInt32
  oVel : UInt32
  deriving DecidableEq, Repr

/-- The static variables before the timer fires for the first time. -/
def Velocity.initial : Velocity := ⟨0, 0⟩

/-- What the handler passes to the block as `inStream` and `outStream`. -/
structure Streams where
  inStream : UInt32
  outStream : UInt32
  deriving DecidableEq, Repr

/-- The timer handler. -/
def networkMonitorSpeed (vel : Velocity) (ifList : List Ifaddrs) : Streams × Velocity :=
  let bytes := sumInterfaces ifList
  (⟨bytes.iBytes - vel.iVel, bytes.oBytes - vel.oVel⟩, ⟨bytes.iBytes, bytes.oBytes⟩)

end Component.NetworkMonitor
