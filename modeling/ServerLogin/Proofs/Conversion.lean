import ServerLogin.Proofs.Credentials.Calls
import ServerLogin.Proofs.Login

/-!
Credentials that pass through a profile.  A profile keeps the host and the port of an
address and leaves the rest of it to be found again; since an address follows its host,
nothing is lost once the port is set.  Raw arguments that stand alone on a command line
pass through a profile, too.
-/

namespace ServerLogin

open ServerLogin.Text

/-- Credentials that are ready for use: they have a host and a port, and no arguments are
left to be interpreted. -/
structure Credentials.Resolved (c : Credentials) : Prop where
  host : (trimChars c.server.host.toList).isEmpty = false
  port : ∃ port, c.server.port = some port
  arguments : c.arguments = none

namespace Profile

/-- Credentials come back from their profile, but for the arguments that they carried. -/
theorem toCredentials_ofCredentials_of_reachable {c : Credentials} {port : UInt16}
    (hc : c.Reachable) (hblank : (trimChars c.server.host.toList).isEmpty = false)
    (hport : c.server.port = some port) :
    (ofCredentials c).toCredentials.result = .ok { c with arguments := none } := by
  obtain ⟨found, hhost⟩ := hc.server.consistent.withHost? {}
  have hresolved : Credentials.resolvePort (ofCredentials c).port
      { c.server with port := found } = .ok port := by
    change Credentials.resolvePort c.server.port _ = _
    rw [hport]
    rfl
  apply toCredentials_eq_ok_iff.mpr
  refine ⟨hblank, _, port, hhost, hresolved, ?_⟩
  have hserver : { c.server with port := found }.setPort port = c.server := by
    rw [Server.setPort, ← hport]
  rw [hserver]
  rfl

/-- Resolved credentials come back as they are. -/
theorem toCredentials_ofCredentials_of_resolved {c : Credentials} (hc : c.Reachable)
    (h : c.Resolved) : (ofCredentials c).toCredentials.result = .ok c := by
  obtain ⟨port, hport⟩ := h.port
  have hnone : { c with arguments := none } = c := by rw [← h.arguments]
  rw [toCredentials_ofCredentials_of_reachable hc h.host hport, hnone]

theorem resolved_of_toCredentials {p : Profile} {c : Credentials}
    (h : p.toCredentials.result = .ok c) : c.Resolved := by
  have hhost := (eq_of_toCredentials h).1
  obtain ⟨hblank, server, port, _, _, rfl⟩ := toCredentials_eq_ok_iff.mp h
  rw [← hhost] at hblank
  exact ⟨hblank, ⟨port, rfl⟩, rfl⟩

end Profile

theorem RawArguments.resolved_of_interpret {arguments : List String} {c : Credentials}
    (h : (interpret arguments).result = .ok c) : c.Resolved := by
  obtain ⟨hhost, hne, hport, hnone⟩ := fields_of_interpret h
  refine ⟨?_, hport, hnone⟩
  rw [hhost, ← Bool.not_eq_true, lastHost_blank_iff]
  exact hne

namespace Login

/-- Raw arguments without options are interpreted and nothing else: the way through a
profile, where the port is resolved once more, changes nothing. -/
theorem credentials_of_rawArguments {raw : List String} (hraw : raw ≠ []) (s : Session) :
    (credentials { rawArguments := raw } s).2 =
      during (some "Failed to interpret raw connection arguments")
        (RawArguments.interpret raw).result := by
  rw [result_credentials, base_of_arguments { rawArguments := raw } hraw]
  change (during _ (argumentSettings raw).result).bind _ = _
  rw [result_argumentSettings]
  cases hinterpret : (RawArguments.interpret raw).result with
  | error e => rfl
  | ok c =>
    have hagain := Profile.toCredentials_ofCredentials_of_resolved (.interpret hinterpret)
      (RawArguments.resolved_of_interpret hinterpret)
    change during none (override _ (Profile.ofCredentials c)).toCredentials.result = .ok c
    rw [override_of_source, hagain]
    rfl

end Login

/-- Conversion through a profile loses nothing.  Credentials that have a host and a port,
however they came about, come back from their profile, without the arguments that they
carried.  So a second conversion of what a profile gives changes nothing, and a command
line with raw arguments and no option gives what these are interpreted as. -/
theorem conversion_loses_nothing {c : Credentials} (hc : c.Reachable)
    (hblank : (trimChars c.server.host.toList).isEmpty = false) {port : UInt16}
    (hport : c.server.port = some port) :
    (Profile.ofCredentials c).toCredentials.result = .ok { c with arguments := none } ∧
    (∀ (p : Profile) (d : Credentials), p.toCredentials.result = .ok d →
      (Profile.ofCredentials d).toCredentials.result = .ok d) ∧
    ∀ (raw : List String) (s : Session), raw ≠ [] →
      (Login.credentials { rawArguments := raw } s).2 =
        Login.during (some "Failed to interpret raw connection arguments")
          (RawArguments.interpret raw).result := by
  refine ⟨Profile.toCredentials_ofCredentials_of_reachable hc hblank hport, ?_, ?_⟩
  · intro p d hd
    exact Profile.toCredentials_ofCredentials_of_resolved (.ofProfile hd)
      (Profile.resolved_of_toCredentials hd)
  · intro raw s hraw
    exact Login.credentials_of_rawArguments hraw s

/-- Credentials that once carried an argument: the host is a URL whose port was replaced,
and the compression is no number. -/
theorem conversion_loses_nothing_changed :
    let c : Credentials :=
      { server := ⟨"wss://h:4065", "h", some 1, some "wss"⟩, compression := .nan,
        arguments := some ["-v"] }
    c.Reachable ∧
      (Profile.ofCredentials c).toCredentials.result = .ok { c with arguments := none } := by
  intro c
  have hmade : Credentials.Reachable { arguments := some ["-v"] } :=
    @Credentials.Reachable.ofArguments (some ["-v"]) _ rfl
  have hhost := hmade.call (.changeServer (.setHost "wss://h:4065")) trivial
  have hchanged := (hhost.call (.changeServer (.setPort 1)) trivial).call (.setCompression .nan)
    trivial
  have hreached : c.Reachable := by
    convert hchanged using 1
    decide +kernel
  exact ⟨hreached, (conversion_loses_nothing hreached (by decide) rfl).1⟩

end ServerLogin
