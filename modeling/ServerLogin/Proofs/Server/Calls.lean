import ServerLogin.Proofs.Credentials

/-!
Addresses that are changed in place.  A call assigns the fields of an address one
after another, and what has been assigned stays when the call fails later on.
`run_assignHost` says that replacing the host in this way is `Server.setHost`, with
the address left alone by a host that is refused; `Reachable.consistent` says that no
history of calls separates an address from its host.
-/

namespace ServerLogin

open ServerLogin.Text

namespace Server

/-- A change of an address that stands in a variable.  It may fail; what it has
assigned before stays assigned. -/
abbrev Change := ExceptT LoginError (StateM Server)

/-- What a change comes to, and the address that it leaves. -/
def Change.on (change : Change Unit) (server : Server) : Except LoginError Unit × Server :=
  StateT.run (ExceptT.run change) server

/-- Replace the host, field by field.  A URL is read before anything is assigned, and
assigns the port only when it has one. -/
def assignHost (host : String) : Change Unit := do
  if isUrlText host then
    match Url.read host with
    | .error fault => throw (.invalidArgument (.badUrl host fault))
    | .ok url =>
      modify fun server => { server with hostname := url.hostText }
      modify fun server => { server with protocol := some url.scheme }
      match url.port with
      | some port => modify fun server => { server with port := some port }
      | none => pure ()
  else
    modify fun server => { server with hostname := host }
    modify fun server => { server with protocol := none }
  modify fun server => { server with host := host }

inductive Call
  | setHost (host : String)
  | setPort (port : UInt16)
deriving DecidableEq, Repr

def Call.run (call : Call) (server : Server) : Except LoginError Unit × Server :=
  match call with
  | setHost host => (assignHost host).on server
  | setPort port => Change.on (modify fun server => { server with port := some port }) server

/-- Addresses that calls lead to, whether these succeed or fail, from the empty address
or from the one of a host. -/
inductive Reachable : Server → Prop
  | empty : Reachable {}
  | ofHost {host : String} {server : Server} (h : (ofHost host).result = .ok server) :
      Reachable server
  | call {server : Server} (call : Call) (h : Reachable server) : Reachable (call.run server).2

/-- An address whose host name and protocol are those of its host. -/
structure Consistent (server : Server) : Prop where
  bare : ¬NamesUrl server.host → server.hostname = server.host ∧ server.protocol = none
  url : NamesUrl server.host → ∃ url, Url.read server.host = .ok url ∧
    server.hostname = url.hostText ∧ server.protocol = some url.scheme

/-- Assigning field by field replaces the host, and assigns nothing when the host is
refused. -/
theorem run_assignHost (host : String) (server : Server) :
    (assignHost host).on server =
      match server.withHost? host with
      | .ok changed => (.ok (), changed)
      | .error e => (.error e, server) := by
  by_cases hurl : NamesUrl host
  · have htext : isUrlText host = true := isUrlText_iff.mpr hurl
    cases hread : Url.read host with
    | error fault =>
      rw [withHost?_of_malformed hurl hread, assignHost, htext, hread]
      rfl
    | ok url =>
      rw [withHost?_of_url hurl hread, assignHost, htext, hread]
      cases hport : url.port with
      | none => simp only [hport]; rfl
      | some port => simp only [hport]; rfl
  · have htext : isUrlText host = false := by
      rw [← Bool.not_eq_true, isUrlText_iff]
      exact hurl
    rw [withHost?_of_bare hurl, assignHost, htext]
    rfl

@[simp] theorem run_setPort (port : UInt16) (server : Server) :
    (Call.setPort port).run server = (.ok (), server.setPort port) := rfl

theorem run_setHost_of_ok {host : String} {server changed : Server}
    (h : server.withHost? host = .ok changed) :
    (Call.setHost host).run server = (.ok (), changed) := by
  rw [Call.run, run_assignHost, h]

theorem run_setHost_of_error {host : String} {server : Server} {e : LoginError}
    (h : server.withHost? host = .error e) :
    (Call.setHost host).run server = (.error e, server) := by
  rw [Call.run, run_assignHost, h]

theorem run_of_error {call : Call} {server : Server} {e : LoginError}
    (h : (call.run server).1 = .error e) : (call.run server).2 = server := by
  cases call with
  | setPort port => cases h
  | setHost host =>
    cases hhost : server.withHost? host with
    | error e => rw [run_setHost_of_error hhost]
    | ok changed =>
      rw [run_setHost_of_ok hhost] at h
      cases h

theorem consistent_empty : Consistent {} := by
  constructor
  · intro _
    exact ⟨rfl, rfl⟩
  · intro hurl
    exact absurd (isUrlText_iff.mpr hurl) (by decide)

/-- Replacing the host makes any address consistent. -/
theorem consistent_of_withHost? {host : String} {server changed : Server}
    (h : server.withHost? host = .ok changed) : changed.Consistent := by
  by_cases hurl : NamesUrl host
  · cases hread : Url.read host with
    | error fault =>
      rw [withHost?_of_malformed hurl hread] at h
      cases h
    | ok url =>
      rw [withHost?_of_url hurl hread] at h
      cases h
      exact ⟨fun hbare => absurd hurl hbare, fun _ => ⟨url, hread, rfl, rfl⟩⟩
  · rw [withHost?_of_bare hurl] at h
    cases h
    exact ⟨fun _ => ⟨rfl, rfl⟩, fun hhost => absurd hhost hurl⟩

theorem Consistent.setPort {server : Server} (h : server.Consistent) (port : UInt16) :
    (server.setPort port).Consistent := ⟨h.bare, h.url⟩

theorem Consistent.run {server : Server} (h : server.Consistent) (call : Call) :
    (call.run server).2.Consistent := by
  cases call with
  | setPort port =>
    rw [run_setPort]
    exact h.setPort port
  | setHost host =>
    cases hhost : server.withHost? host with
    | error e =>
      rw [run_setHost_of_error hhost]
      exact h
    | ok changed =>
      rw [run_setHost_of_ok hhost]
      exact consistent_of_withHost? hhost

/-- The address of a host, with whatever port it is given. -/
theorem Reachable.of_withHost? {host : String} {server : Server}
    (h : Server.withHost? {} host = .ok server) (port : UInt16) :
    (server.setPort port).Reachable := by
  have hhost : server.Reachable := by
    apply Reachable.ofHost
    rw [Server.ofHost, result_setHost, h]
  exact hhost.call (.setPort port)

theorem Reachable.consistent {server : Server} (h : server.Reachable) : server.Consistent := by
  induction h with
  | empty => exact consistent_empty
  | ofHost hhost =>
    rw [Server.ofHost, result_setHost] at hhost
    exact consistent_of_withHost? hhost
  | call call _ ih => exact ih.run call

namespace Consistent

variable {server other : Server}

/-- The host of a consistent address gives its host name and its protocol again. -/
theorem withHost? (h : server.Consistent) (other : Server) :
    ∃ port, other.withHost? server.host = .ok { server with port := port } := by
  by_cases hurl : NamesUrl server.host
  · obtain ⟨url, hread, hname, hprotocol⟩ := h.url hurl
    refine ⟨url.port.or other.port, ?_⟩
    rw [withHost?_of_url hurl hread, ← hname, ← hprotocol]
  · obtain ⟨hname, hprotocol⟩ := h.bare hurl
    refine ⟨other.port, ?_⟩
    rw [withHost?_of_bare hurl, hname, hprotocol]

theorem isUrl_iff (h : server.Consistent) : server.isUrl = true ↔ NamesUrl server.host := by
  constructor
  · intro hprotocol
    by_contra hurl
    rw [isUrl, (h.bare hurl).2] at hprotocol
    cases hprotocol
  · intro hurl
    obtain ⟨url, _, _, hprotocol⟩ := h.url hurl
    rw [isUrl, hprotocol]
    rfl

/-- Host and port determine a consistent address. -/
theorem eq_iff (h : server.Consistent) (h' : other.Consistent) :
    server = other ↔ server.host = other.host ∧ server.port = other.port := by
  constructor
  · rintro rfl
    exact ⟨rfl, rfl⟩
  · rintro ⟨hhost, hport⟩
    obtain ⟨port, hserver⟩ := h.withHost? {}
    obtain ⟨port', hother⟩ := h'.withHost? {}
    rw [hhost, hother] at hserver
    obtain ⟨_, hname, _, hprotocol⟩ := Server.mk.inj (Except.ok.inj hserver)
    calc server = ⟨server.host, server.hostname, server.port, server.protocol⟩ := rfl
      _ = ⟨other.host, other.hostname, other.port, other.protocol⟩ := by
        rw [hhost, hname, hport, hprotocol]

end Consistent

end Server
end ServerLogin
