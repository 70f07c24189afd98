import HarvesterCSI.Guest
import HarvesterCSI.Text.Mac
import HarvesterCSI.Text.Semver

/-!
# The manager

What the driver finds out when it starts: which hot-plug protocol the server
understands, and under which name the host knows the machine it runs in.
-/

namespace HarvesterCSI

open Calls Calls.Prog
open Net (HardwareAddr parseMAC)

-- ---------------------------------------------------------------------------
-- The version of the server
-- ---------------------------------------------------------------------------

/-- A version that is not valid is taken for the latest. -/
def isVersionAtLeast (version : String) (major minor : Nat) : Bool :=
  if !Semver.isValid version then true
  else
    let target := "v" ++ toString major ++ "." ++ toString minor ++ ".0-0"
    0 ≤ Semver.compare version target

/-- From the `server-version` setting. Without it the driver does not start. -/
def useDeclarativeHotplug (serverVersion : Except ApiError String) : Except ApiError Bool :=
  match serverVersion with
  | .error e => .error e
  | .ok value => .ok (isVersionAtLeast value 1 8)

-- ---------------------------------------------------------------------------
-- The interfaces of the node
-- ---------------------------------------------------------------------------

structure Interface where
  hardwareAddr : HardwareAddr
  deriving DecidableEq, Repr

/-- An entry of `/sys/class/net`: whether it is a directory, and the first line of
the file `address` in it. -/
structure NetEntry where
  isDir : Except OsError Bool
  address : Except OsError String

/-- `unicode.IsSpace`. -/
def isSpace (c : Char) : Bool :=
  c ∈ ['\t', '\n', '\x0B', '\x0C', '\r', ' ', '\u0085', '\u00A0', '\u1680', '\u2028', '\u2029',
    '\u202F', '\u205F', '\u3000'] || '\u2000' ≤ c && c ≤ '\u200A'

def trimSpace (s : String) : String :=
  String.ofList ((s.toList.dropWhile isSpace).reverse.dropWhile isSpace).reverse

/-- A file that is not there reads as empty. -/
def readMACFromFile (entry : NetEntry) : Except OsError String :=
  match entry.address with
  | .ok line => .ok line
  | .error e => if e.notExist then .ok "" else .error e

/-- `sysfsnet.Interfaces`. Entries without a MAC are passed over. -/
def interfaces (dents : Except OsError (List NetEntry)) : Except OsError (List Interface) := do
  (← dents).filterMapM fun entry =>
    match entry.isDir with
    | .error _ => pure none
    | .ok false => pure none
    | .ok true => do
      let hwText ← readMACFromFile entry
      pure ((parseMAC (trimSpace hwText)).map Interface.mk)

-- ---------------------------------------------------------------------------
-- The machine of the node
-- ---------------------------------------------------------------------------

def calicoMacAddress : String := "ee:ee:ee:ee:ee:ee"
def loopBackMacAddress : String := "00:00:00:00:00:00"

def errVMINotFound : Err := .text "not found"

def nodeMacs (ifaces : List Interface) : List String :=
  (ifaces.map (·.hardwareAddr.text)).filter fun mac =>
  !(mac = calicoMacAddress || mac = loopBackMacAddress)

def matchesMacs (macs : List String) (ifaces : List String) : Bool :=
  ifaces.any fun iface => match parseMAC iface with
    | some mac => macs.contains mac.text
    | none => false

def discoverVMIName (ns nodeID : String) (ifaces : List Interface) : Api String := do
  if ifaces = [] then .error errVMINotFound
  else
    let macs := nodeMacs ifaces
    match ← ask (.getVMI ns nodeID) with
    | .ok vmi => if matchesMacs macs vmi.interfaces then pure vmi.name else search macs
    | .error _ => search macs
where
  search (macs : List String) : Api String := do
    match ← ask (.listVMIs ns) with
    | .error e => .error (.api e)
    | .ok vmis =>
      match vmis.find? fun vmi => matchesMacs macs vmi.interfaces with
      | some vmi => pure vmi.name
      | none => .error errVMINotFound

/-- The name the servers work under: the configured one when no machine is found. -/
def resolveNodeID (ns nodeID : String) (dents : Except OsError (List NetEntry)) : Api String :=
  (discoverVMIName ns nodeID ((interfaces dents).toOption.getD [])).orElse fun e =>
    if e = errVMINotFound then .ok nodeID else .error e

end HarvesterCSI
