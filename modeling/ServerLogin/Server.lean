import ServerLogin.Outcome
import ServerLogin.Text.View
import ServerLogin.Url.Basic

/-!
Server addresses.  A host is a bare name or, when it contains `://`, a URL; a
URL gives the host name and the protocol, and a port when it carries one that is
not the usual port of its scheme.
-/

namespace ServerLogin

open ServerLogin.Text

/-- Where to connect. -/
structure Server where
  /-- The host as it was given. -/
  host : String := ""
  /-- The host name behind it. -/
  hostname : String := ""
  port : Option UInt16 := none
  /-- The scheme, when the host was given as a URL. -/
  protocol : Option String := none
deriving DecidableEq

namespace Server

/-- Whether a list of characters contains `://`. -/
def hasSchemeMark : List Char → Bool
  | [] => false
  | c :: rest => [':', '/', '/'].isPrefixOf (c :: rest) || hasSchemeMark rest

def isUrlText (host : String) : Bool := hasSchemeMark host.toList

def isUrl (server : Server) : Bool := server.protocol.isSome

def portText (port : UInt16) : String := Number.naturalText port.toNat

/-- The address for people: the host and, when it is known, the port. -/
def connectionString (server : Server) : String :=
  match server.port with
  | none => server.host
  | some port =>
    if server.isUrl then server.host ++ " (port " ++ portText port ++ ")"
    else server.host ++ ":" ++ portText port

/-- Replace the host.  The port stays, unless the new host is a URL with a port
of its own. -/
def withHost? (server : Server) (host : String) : Except LoginError Server :=
  if isUrlText host then
    match Url.read host with
    | .error fault => .error (.invalidArgument (.badUrl host fault))
    | .ok url => .ok
      { host := host
        hostname := url.hostText
        port := url.port.or server.port
        protocol := some url.scheme }
  else .ok { server with host := host, hostname := host, protocol := none }

def hostMessage (server : Server) : String :=
  "Server host set to " ++ quote server.host ++ " (url=" ++ viewBool server.isUrl ++
    ", port=" ++ viewOption portText server.port ++ ")"

/-- Replace the host and log the new address. -/
def setHost (server : Server) (host : String) : Outcome Server := do
  let server ← .ofResult (server.withHost? host)
  Outcome.log .debug .server server.hostMessage
  return server

def ofHost (host : String) : Outcome Server := setHost {} host

def setPort (server : Server) (port : UInt16) : Server := { server with port := some port }

def view (server : Server) : String :=
  viewRecord "ServerInformation"
    [("host", quote server.host), ("hostname", quote server.hostname),
      ("port", viewOption portText server.port), ("protocol", viewOption quote server.protocol)]

end Server

end ServerLogin
