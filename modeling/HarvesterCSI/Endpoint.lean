import HarvesterCSI.Guest

/-!
# The endpoint of the driver

The gRPC server listens where its endpoint says. `serve` is followed up to the
listener; the services behind it are the other modules.
-/

namespace HarvesterCSI

open Calls Calls.Prog

-- ---------------------------------------------------------------------------
-- Texts
-- ---------------------------------------------------------------------------

/-- `unicode.ToLower`. Of the letters outside ASCII only the dotted capital I and
the Kelvin sign have a lower-case letter in ASCII. The others go to letters outside
ASCII, and stand for these here: nothing but ASCII is looked for in the result. -/
def unicodeToLower (c : Char) : Char :=
  if c = '\u0130' then 'i' else if c = '\u212A' then 'k' else c.toLower

def toLower (s : String) : String := String.ofList (s.toList.map unicodeToLower)

def hasPrefix (s start : String) : Bool := start.toList.isPrefixOf s.toList

/-- `strings.SplitN(s, sep, 2)` when it has two parts, for a separator that is not
empty. -/
def splitN (sep : List Char) : List Char → Option (List Char × List Char)
  | [] => none
  | c :: cs =>
    if sep.isPrefixOf (c :: cs) then some ([], (c :: cs).drop sep.length)
    else (splitN sep cs).map fun parts => (c :: parts.1, parts.2)

def parseEndpoint (ep : String) : Outcome Err (String × String) :=
  if hasPrefix (toLower ep) "unix://" || hasPrefix (toLower ep) "tcp://" then
    match splitN "://".toList ep.toList with
    | some (proto, addr) =>
      if addr ≠ [] then .ok (String.ofList proto, String.ofList addr) else invalid
    -- `s[1]` of a split that has one part
    | none => .panic
  else invalid
where
  invalid := .error (.text ("invalid endpoint: " ++ ep))

-- ---------------------------------------------------------------------------
-- The server
-- ---------------------------------------------------------------------------

inductive SocketOp
  | remove (path : String)
  | listen (network address : String)

/-- Programs over these calls. An error is what the driver logs when it exits. -/
abbrev Sockets := Prog SocketOp (fun _ => Except OsError Unit) String

abbrev SocketOp.send (op : SocketOp) : Sockets (Except OsError Unit) := Prog.request op

/-- The networks that `net.Listen` knows. -/
def streamNetworks : List String := ["tcp", "tcp4", "tcp6", "unix", "unixpacket"]

def NonBlockingGRPCServer.serve (endpoint : String) : Sockets Unit :=
  match parseEndpoint endpoint with
  | .panic => .panic
  | .error err => .error err.message
  | .ok (proto, addr) =>
    if proto = "unix" then do
      let addr := "/" ++ addr
      match ← SocketOp.send (.remove addr) with
      | .ok () => listen proto addr
      | .error e =>
        if e.notExist then listen proto addr
        else .error ("Failed to remove " ++ addr ++ ", error: " ++ e.message)
    else listen proto addr
where
  listen (proto addr : String) : Sockets Unit := do
    match ← SocketOp.send (.listen proto addr) with
    | .ok () => pure ()
    | .error e => .error ("Failed to listen: " ++ e.message)

end HarvesterCSI
