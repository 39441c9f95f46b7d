import ServerLogin.Text.Digit

/-!
Protocols a server address may name, each with the port that is used when the
address gives none.
-/

namespace ServerLogin

open ServerLogin.Text

inductive Protocol
  | ws
  | wss
  | http
  | https
deriving DecidableEq, Repr

namespace Protocol

def all : List Protocol := [.ws, .wss, .http, .https]

def name : Protocol → String
  | .ws => "ws"
  | .wss => "wss"
  | .http => "http"
  | .https => "https"

def view : Protocol → String
  | .ws => "Ws"
  | .wss => "Wss"
  | .http => "Http"
  | .https => "Https"

def port : Protocol → UInt16
  | .ws => 80
  | .http => 80
  | .wss => 443
  | .https => 443

/-- The protocol of a given name, in any case. -/
def ofName? (name : String) : Option Protocol :=
  all.find? fun p => sameIgnoringCase p.name.toList name.toList

/-- The port of the protocol of a given name. -/
def portOf? (name : String) : Option UInt16 := (ofName? name).map port

def names : String := String.intercalate ", " (all.map name)

end Protocol

end ServerLogin
