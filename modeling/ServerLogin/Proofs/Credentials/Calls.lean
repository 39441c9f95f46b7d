import ServerLogin.Proofs.Profile.Credentials
import ServerLogin.Proofs.RawArguments.Credentials
import ServerLogin.Proofs.Server.Calls

/-!
Credentials that are changed in place, and all credentials that operations lead to.
However credentials came about, their address is one that calls on addresses lead to,
so that its host name and its protocol are always those of its host.
-/

namespace ServerLogin

open ServerLogin.Text ServerLogin.Number

namespace Credentials

/-- A call on credentials.  User and address can also be changed where they stand. -/
inductive Call
  | setUser (user : User)
  | setUsername (username : String)
  | setPassword (password : String)
  | setServer (server : Server)
  | changeServer (call : Server.Call)
  | setApplicationName (name : Option String)
  | setEncryption (on : Bool)
  | setCheckNetwork (on : Bool)
  | setCheckVersion (on : Bool)
  | setCompression (level : Single)
  | setGroupId (id : Int64)

/-- What a call comes to, and the credentials that it leaves. -/
def Call.run (call : Call) (c : Credentials) : Except LoginError Unit × Credentials :=
  match call with
  | setUser user => (.ok (), { c with user := user })
  | setUsername username => (.ok (), { c with user := { c.user with username := username } })
  | setPassword password => (.ok (), { c with user := { c.user with password := password } })
  | setServer server => (.ok (), { c with server := server })
  | changeServer call => ((call.run c.server).1, { c with server := (call.run c.server).2 })
  | setApplicationName name => (.ok (), { c with applicationName := name })
  | setEncryption on => (.ok (), { c with encryption := on })
  | setCheckNetwork on => (.ok (), { c with checkNetwork := on })
  | setCheckVersion on => (.ok (), { c with checkVersion := on })
  | setCompression level => (.ok (), { c with compression := level })
  | setGroupId id => (.ok (), { c with groupId := id })

/-- Whether the address that a call puts in, if any, is one that can be had. -/
def Call.Available : Call → Prop
  | setServer server => server.Reachable
  | _ => True

/-- Credentials that the operations lead to: every way to make them, every call on them,
whether it succeeds or fails, and sealing followed by giving up the seal. -/
inductive Reachable : Credentials → Prop
  | empty : Reachable {}
  | ofArguments {arguments : Option (List String)} {c : Credentials}
      (h : (ofArguments arguments).result = .ok c) : Reachable c
  | build {username password host : String} {port : Option UInt16} {c : Credentials}
      (h : (build username password host port).result = .ok c) : Reachable c
  | interpret {arguments : List String} {c : Credentials}
      (h : (RawArguments.interpret arguments).result = .ok c) : Reachable c
  | resolveArguments {c d : Credentials} (hc : Reachable c)
      (h : c.resolveArguments.result = .ok d) : Reachable d
  | ofProfile {p : Profile} {c : Credentials} (h : p.toCredentials.result = .ok c) : Reachable c
  | call {c : Credentials} (call : Call) (available : call.Available) (h : Reachable c) :
      Reachable (call.run c).2
  | intoInner {c : Credentials} {sealed : SealedCredentials} (hc : Reachable c)
      (h : c.seal.result = .ok sealed) : Reachable sealed.credentials

/-- The address of credentials that are built: the one of the host, with its port. -/
theorem reachable_server_of_build {username password host : String} {port : Option UInt16}
    {c : Credentials} (h : (build username password host port).result = .ok c) :
    c.server.Reachable := by
  obtain ⟨server, resolved, hserver, _, rfl⟩ := build_eq_ok_iff.mp h
  exact .of_withHost? hserver resolved

theorem reachable_server_of_interpret {arguments : List String} {c : Credentials}
    (h : (RawArguments.interpret arguments).result = .ok c) : c.server.Reachable := by
  obtain ⟨_, hcredentials⟩ := RawArguments.interpret_eq_ok_iff.mp h
  obtain ⟨_, built, hbuilt, rfl⟩ := RawArguments.Settings.credentials_eq_ok_iff.mp hcredentials
  have hserver : built.server.Reachable := reachable_server_of_build hbuilt
  exact hserver

theorem reachable_server_of_toCredentials {p : Profile} {c : Credentials}
    (h : p.toCredentials.result = .ok c) : c.server.Reachable := by
  obtain ⟨_, server, port, hserver, _, rfl⟩ := Profile.toCredentials_eq_ok_iff.mp h
  exact .of_withHost? hserver port

/-- A call on credentials does to their address what a call on an address does, or puts
in another one. -/
theorem reachable_server_of_run {c : Credentials} {call : Call} (available : call.Available)
    (h : c.server.Reachable) : (call.run c).2.server.Reachable := by
  cases call with
  | setServer server => exact available
  | changeServer call => exact h.call call
  | _ => exact h

/-- Credentials lead to no other addresses than calls on addresses do. -/
theorem Reachable.server {c : Credentials} (h : c.Reachable) : c.server.Reachable := by
  induction h with
  | empty => exact .empty
  | @ofArguments arguments c h =>
    cases arguments with
    | none => cases h
    | some arguments =>
      cases h
      exact .empty
  | build h => exact reachable_server_of_build h
  | interpret h => exact reachable_server_of_interpret h
  | @resolveArguments c d _ h _ =>
    cases harguments : c.arguments with
    | none =>
      rw [Credentials.resolveArguments, harguments] at h
      cases h
    | some arguments =>
      rw [Credentials.resolveArguments, harguments] at h
      exact reachable_server_of_interpret h
  | ofProfile h => exact reachable_server_of_toCredentials h
  | call call available _ ih => exact reachable_server_of_run available ih
  | intoInner _ h ih =>
    rw [credentials_of_seal h]
    exact ih

theorem run_of_error {c : Credentials} {call : Call} {e : LoginError}
    (h : (call.run c).1 = .error e) : (call.run c).2 = c := by
  cases call with
  | changeServer call =>
    have hserver : (call.run c.server).2 = c.server := Server.run_of_error h
    rw [Call.run, hserver]
  | _ => cases h

end Credentials

namespace Server

/-- An address follows its host.  Whatever calls lead to it, by themselves or on
credentials, it is a URL exactly when its host is one, and its host name and protocol are
those of the host; a host that is refused changes nothing.  So host and port tell two
addresses apart. -/
theorem address_follows_host {server other : Server} (h : server.Reachable)
    (hother : other.Reachable) :
    (∀ c : Credentials, c.Reachable → c.server.Reachable) ∧
    (server.isUrl = true ↔ NamesUrl server.host) ∧
    (¬NamesUrl server.host → server.hostname = server.host ∧ server.protocol = none) ∧
    (NamesUrl server.host → ∃ url, Url.read server.host = .ok url ∧
      server.hostname = url.hostText ∧ server.protocol = some url.scheme) ∧
    (∀ host e, ((Call.setHost host).run server).1 = .error e →
      ((Call.setHost host).run server).2 = server) ∧
    (server = other ↔ server.host = other.host ∧ server.port = other.port) := by
  have hserver := h.consistent
  refine ⟨fun _ hc => hc.server, hserver.isUrl_iff, hserver.bare, hserver.url, ?_,
    hserver.eq_iff hother.consistent⟩
  intro host e herror
  exact run_of_error herror

/-- A URL, a malformed one that is refused, and a bare host, one after the other: the
port of the URL stays, its host name and its protocol do not. -/
theorem address_follows_host_switched :
    let url : Server := ⟨"wss://a:4065/x", "a", some 4065, some "wss"⟩
    let bare : Server := ⟨"b", "b", some 4065, none⟩
    url.Reachable ∧ ((Call.setHost "http://").run url).2 = url ∧
      ((Call.setHost "b").run url).2 = bare ∧ bare.Reachable ∧
      (bare.isUrl = true ↔ NamesUrl "b") ∧ (url = bare ↔ url.host = "b" ∧ url.port = some 4065) := by
  intro url bare
  have hurl : url.Reachable := @Reachable.ofHost "wss://a:4065/x" url (by decide +kernel)
  have hswitch : ((Call.setHost "b").run url).2 = bare := by decide +kernel
  have hbare : bare.Reachable := hswitch ▸ hurl.call (.setHost "b")
  have hrefused : ((Call.setHost "http://").run url).1 =
      .error (.invalidArgument (.badUrl "http://" .emptyHost)) := by decide +kernel
  have hu := address_follows_host hurl hbare
  have hb := address_follows_host hbare hurl
  exact ⟨hurl, hu.2.2.2.2.1 _ _ hrefused, hswitch, hbare, hb.2.1, hu.2.2.2.2.2⟩

end Server
end ServerLogin
