import ServerLogin.Proofs.Credentials.WrittenPort
import ServerLogin.Proofs.Server.Calls

/-!
Ports that an address keeps while its host is replaced.  A host brings a port when it is
a URL with a port of its own, and a URL does not show the port that is usual for its
scheme: such a port replaces nothing, and the port from before stays.
-/

namespace ServerLogin

namespace Server

/-- A host carries a port: it is a URL, and its text spells the port. -/
def CarriesPort (host : String) (port : UInt16) : Prop :=
  NamesUrl host ∧ Url.SpellsPort host port

/-- A port is the usual one for the protocol of an address. -/
def UsualPort (server : Server) (port : UInt16) : Prop :=
  ∃ scheme, server.protocol = some scheme ∧ Url.usualPort? scheme = some port

/-- The port that a host brings: the one that a URL shows. -/
def shownPort? (host : String) : Option UInt16 :=
  if isUrlText host then (Url.read host).toOption.bind Url.port else none

theorem shownPort?_of_bare {host : String} (h : ¬NamesUrl host) : shownPort? host = none := by
  rw [← isUrlText_iff] at h
  rw [shownPort?, if_neg h]

theorem shownPort?_of_url {host : String} {url : Url} (h : NamesUrl host)
    (hread : Url.read host = .ok url) : shownPort? host = url.port := by
  rw [shownPort?, if_pos (isUrlText_iff.mpr h), hread]
  rfl

theorem shownPort?_of_malformed {host : String} {fault : UrlFault} (h : NamesUrl host)
    (hread : Url.read host = .error fault) : shownPort? host = none := by
  rw [shownPort?, if_pos (isUrlText_iff.mpr h), hread]
  rfl

/-- Replacing the host leaves the port that the host brings, or the one from before. -/
theorem port_of_withHost? {host : String} {server changed : Server}
    (h : server.withHost? host = .ok changed) :
    changed.port = (shownPort? host).or server.port := by
  by_cases hurl : NamesUrl host
  · cases hread : Url.read host with
    | error fault =>
      rw [withHost?_of_malformed hurl hread] at h
      cases h
    | ok url =>
      rw [withHost?_of_url hurl hread] at h
      cases h
      rw [shownPort?_of_url hurl hread]
  · rw [withHost?_of_bare hurl] at h
    cases h
    rw [shownPort?_of_bare hurl, Option.none_or]

/-- A host that an address has taken shows the ports that it carries, but not the usual one
of its protocol. -/
theorem shownPort?_eq_some_iff {host : String} {server changed : Server}
    (h : server.withHost? host = .ok changed) (port : UInt16) :
    shownPort? host = some port ↔ CarriesPort host port ∧ ¬changed.UsualPort port := by
  by_cases hurl : NamesUrl host
  · cases hread : Url.read host with
    | error fault =>
      rw [withHost?_of_malformed hurl hread] at h
      cases h
    | ok url =>
      rw [withHost?_of_url hurl hread] at h
      cases h
      have hspells := Url.writtenPort_eq_some_iff hread port
      have husual : UsualPort ⟨host, url.hostText, url.port.or server.port, some url.scheme⟩ port ↔
          Url.usualPort? url.scheme = some port := by
        simp [UsualPort]
      rw [shownPort?_of_url hurl hread, CarriesPort, ← hspells, husual]
      constructor
      · intro hshown
        have hwritten : url.writtenPort ≠ Url.usualPort? url.scheme := by
          intro hsame
          rw [Url.port, if_pos hsame] at hshown
          cases hshown
        rw [Url.port, if_neg hwritten] at hshown
        exact ⟨⟨hurl, hshown⟩, fun hport => hwritten (hshown.trans hport.symm)⟩
      · rintro ⟨⟨-, hwritten⟩, hother⟩
        exact Url.port_eq_some hwritten hother
  · rw [shownPort?_of_bare hurl]
    simp [CarriesPort, hurl]

/-- No port is shown when each that is carried is usual. -/
theorem shownPort?_eq_none_iff {host : String} {server changed : Server}
    (h : server.withHost? host = .ok changed) :
    shownPort? host = none ↔ ∀ port, CarriesPort host port → changed.UsualPort port := by
  simp only [Option.eq_none_iff_forall_ne_some, ne_eq, shownPort?_eq_some_iff h, not_and, not_not]

theorem CarriesPort.unique {host : String} {server changed : Server}
    (h : server.withHost? host = .ok changed) {port other : UInt16}
    (hport : CarriesPort host port) (hother : CarriesPort host other) : port = other := by
  cases hread : Url.read host with
  | error fault =>
    rw [withHost?_of_malformed hport.1 hread] at h
    cases h
  | ok url =>
    have hwritten := (Url.writtenPort_eq_some_iff hread port).mpr hport.2
    have hsame := (Url.writtenPort_eq_some_iff hread other).mpr hother.2
    exact Option.some.inj (hwritten.symm.trans hsame)

/-- The port that a call gives to an address. -/
def Call.port? : Call → Option UInt16
  | .setHost host => shownPort? host
  | .setPort port => some port

/-- A call leaves the port that it gives, or the one from before.  A host that is refused
gives none. -/
theorem Call.port_run (call : Call) (server : Server) :
    (call.run server).2.port = call.port?.or server.port := by
  cases call with
  | setPort port => rfl
  | setHost host =>
    cases hhost : server.withHost? host with
    | ok changed =>
      rw [run_setHost_of_ok hhost]
      exact port_of_withHost? hhost
    | error e =>
      have hnone : shownPort? host = none := by
        by_cases hurl : NamesUrl host
        · cases hread : Url.read host with
          | error fault => exact shownPort?_of_malformed hurl hread
          | ok url =>
            rw [withHost?_of_url hurl hread] at hhost
            cases hhost
        · exact shownPort?_of_bare hurl
      rw [run_setHost_of_error hhost, port?, hnone, Option.none_or]

theorem withHost?_of_run {host : String} {server changed : Server}
    (h : (Call.setHost host).run server = (.ok (), changed)) :
    server.withHost? host = .ok changed := by
  cases hhost : server.withHost? host with
  | error e =>
    rw [run_setHost_of_error hhost] at h
    cases h
  | ok other =>
    rw [run_setHost_of_ok hhost] at h
    rw [(Prod.mk.inj h).2]

/-- After any number of calls an address has the last port that one of them gave. -/
theorem port_after (calls : List Call) (server : Server) :
    (calls.foldl (fun server call => (call.run server).2) server).port =
      (calls.reverse.findSome? Call.port?).or server.port := by
  induction calls generalizing server with
  | nil => rfl
  | cons call rest ih =>
    rw [List.foldl_cons, ih, Call.port_run, List.reverse_cons, List.findSome?_append,
      Option.or_assoc]
    cases hport : call.port? <;> simp [hport]

end Server

open Server in
/-- Replacing the host replaces the port by the one that the new host carries, whatever it
was, unless it is the usual one of the new protocol.  In that case, and when the new host
carries none, the port stays. -/
theorem host_replaces_port_iff {host : String} {server changed : Server}
    (h : (Call.setHost host).run server = (.ok (), changed)) :
    (∀ port, CarriesPort host port →
      (changed.port = some port ↔ ¬changed.UsualPort port ∨ server.port = some port)) ∧
    ((∀ port, CarriesPort host port → changed.UsualPort port) → changed.port = server.port) := by
  have hhost := withHost?_of_run h
  have hport := port_of_withHost? hhost
  constructor
  · intro port hcarries
    by_cases husual : changed.UsualPort port
    · have hnone : shownPort? host = none := by
        apply (shownPort?_eq_none_iff hhost).mpr
        intro other hother
        obtain rfl := CarriesPort.unique hhost hcarries hother
        exact husual
      rw [hport, hnone, Option.none_or]
      simp [husual]
    · rw [hport, (shownPort?_eq_some_iff hhost port).mpr ⟨hcarries, husual⟩]
      simp [husual]
  · intro husual
    rw [hport, (shownPort?_eq_none_iff hhost).mpr husual, Option.none_or]

open Server in
/-- After port 1, port 444 of `https` replaces it, and port 443 does not. -/
theorem host_replaces_port_iff_https :
    (CarriesPort "https://h:444" 444 ∧ ∃ changed, (Call.setHost "https://h:444").run
      { port := some 1 } = (.ok (), changed) ∧ changed.port = some 444) ∧
    (CarriesPort "https://h:443" 443 ∧ ∃ changed, (Call.setHost "https://h:443").run
      { port := some 1 } = (.ok (), changed) ∧ changed.port = some 1) := by
  have hurl : NamesUrl "https://h:444" := ⟨"https".toList, "h:444".toList, by decide⟩
  have husual : NamesUrl "https://h:443" := ⟨"https".toList, "h:443".toList, by decide⟩
  have hread : Url.read "https://h:444" = .ok ⟨"https", some (.domain "h"), some 444⟩ := by
    decide +kernel
  have hreadUsual : Url.read "https://h:443" = .ok ⟨"https", some (.domain "h"), some 443⟩ := by
    decide +kernel
  have hcarries : CarriesPort "https://h:444" 444 :=
    ⟨hurl, (Url.writtenPort_eq_some_iff hread 444).mp rfl⟩
  have hcarriesUsual : CarriesPort "https://h:443" 443 :=
    ⟨husual, (Url.writtenPort_eq_some_iff hreadUsual 443).mp rfl⟩
  have hhost : ({ port := some 1 } : Server).withHost? "https://h:444" = .ok _ :=
    withHost?_of_url hurl hread
  have hhostUsual : ({ port := some 1 } : Server).withHost? "https://h:443" = .ok _ :=
    withHost?_of_url husual hreadUsual
  have hrun := run_setHost_of_ok hhost
  have hrunUsual := run_setHost_of_ok hhostUsual
  refine ⟨⟨hcarries, _, hrun, ?_⟩, hcarriesUsual, _, hrunUsual, ?_⟩
  · apply ((host_replaces_port_iff hrun).1 444 hcarries).mpr
    left
    rintro ⟨scheme, hscheme, hport⟩
    obtain rfl := Option.some.inj hscheme
    exact absurd hport (by decide)
  · apply (host_replaces_port_iff hrunUsual).2
    intro port hport
    obtain rfl := CarriesPort.unique hhostUsual hcarriesUsual hport
    exact ⟨"https", rfl, by decide⟩

end ServerLogin
