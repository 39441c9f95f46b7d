import ServerLogin.Proofs.PortResolution
import ServerLogin.Proofs.Url.WrittenPort

/-!
Ports that are written in the URL of a host.  A URL does not show the port that is usual
for its scheme, so such a port is found again only where the table of protocols has the
scheme with the same port.  It has all schemes with a usual port but `ftp`.
-/

namespace ServerLogin

open Server

namespace Url

/-- The usual ports are those of the protocols, and that of `ftp`. -/
theorem usualPort?_eq_some_iff {scheme : String} {port : UInt16} :
    usualPort? scheme = some port ↔
      (scheme, port) ∈ knownPorts ∨ scheme = "ftp" ∧ port = 21 := by
  simp only [usualPort?, knownPorts, List.mem_cons, Prod.mk.injEq, List.not_mem_nil, or_false]
  split
  · next hweb => rcases hweb with rfl | rfl <;> simp [eq_comm]
  · next hweb =>
    split
    · next hsecure => rcases hsecure with rfl | rfl <;> simp [eq_comm]
    · next hsecure =>
      rw [not_or] at hweb hsecure
      split
      · next hftp => simp [hftp, eq_comm]
      · next hftp => simp [hweb, hsecure, hftp]

theorem port_eq_none_iff {url : Url} :
    url.port = none ↔ ∀ port, url.writtenPort = some port → usualPort? url.scheme = some port := by
  unfold port
  split
  · next husual => simp [← husual]
  · next husual =>
    constructor
    · intro hnone
      simp [hnone]
    · intro hall
      cases hwritten : url.writtenPort with
      | none => rfl
      | some port => exact absurd (hwritten.trans (hall port hwritten).symm) husual

theorem port_eq_some {url : Url} {port : UInt16} (hwritten : url.writtenPort = some port)
    (husual : usualPort? url.scheme ≠ some port) : url.port = some port := by
  rw [Url.port, hwritten, if_neg (Ne.symm husual)]

end Url

namespace Credentials

/-- The port for a host depends on the ports of the protocols. -/
def ConsultsProtocols (given : Option UInt16) (host : String) : Prop :=
  ∃ server, Server.withHost? {} host = .ok server ∧ ∃ portOf? other : String → Option UInt16,
    resolvePortBy portOf? given server ≠ resolvePortBy other given server

theorem consultsProtocols_iff {given : Option UInt16} {host : String} {url : Url}
    (hurl : NamesUrl host) (hread : Url.read host = .ok url) :
    ConsultsProtocols given host ↔ given = none ∧ url.port = none := by
  have hserver : Server.withHost? {} host = .ok _ := withHost?_of_url hurl hread
  constructor
  · rintro ⟨server, hok, portOf?, other, hdiffer⟩
    obtain rfl := Except.ok.inj (hserver.symm.trans hok)
    constructor
    · cases given with
      | none => rfl
      | some port => exact absurd rfl hdiffer
    · cases hport : url.port with
      | none => rfl
      | some port =>
        exfalso
        apply hdiffer
        cases given <;> simp [resolvePortBy, hport]
  · rintro ⟨rfl, hnone⟩
    refine ⟨_, hserver, fun _ => none, fun _ => some 0, ?_⟩
    simp [resolvePortBy, hnone]

/-- A written port is kept unless it is hidden as the usual one and the protocols do not
bring it back. -/
theorem build_of_writtenPort {username password host : String} {url : Url} {port : UInt16}
    (hurl : NamesUrl host) (hread : Url.read host = .ok url)
    (hwritten : url.writtenPort = some port) (hftp : ¬(url.scheme = "ftp" ∧ port = 21)) :
    ∃ c, (build username password host none).result = .ok c ∧ c.server.port = some port := by
  have hrule : PortRule none host port := by
    by_cases husual : Url.usualPort? url.scheme = some port
    · have hnone : url.port = none := by
        apply Url.port_eq_none_iff.mpr
        intro other hother
        obtain rfl := Option.some.inj (hwritten.symm.trans hother)
        exact husual
      have hknown := (Url.usualPort?_eq_some_iff.mp husual).resolve_right hftp
      exact .protocol rfl hurl hread hnone hknown
    · exact .written rfl hurl hread (Url.port_eq_some hwritten husual)
  obtain ⟨hostname, protocol, hok⟩ := build_of_rule username password
    (not_malformed_of_read hread) hrule
  exact ⟨_, hok, rfl⟩

theorem build_of_ftp {username password host : String} {url : Url}
    (hurl : NamesUrl host) (hread : Url.read host = .ok url) (hscheme : url.scheme = "ftp")
    (hwritten : url.writtenPort = some 21) :
    (build username password host none).result = .error (.unsupportedProtocol "ftp") := by
  have hnone : url.port = none := by
    rw [Url.port, hwritten, hscheme]
    rfl
  have hname : Protocol.ofName? "ftp" = none := by decide
  rw [result_build, withHost?_of_url hurl hread, hnone, hscheme]
  simp only [Except.bind, resolvePort, resolvePortBy, Protocol.portOf?, Option.or_none, hname]
  rfl

end Credentials

open Credentials in
/-- A port that is written in the URL of a host is the port of its credentials, whoever
logs in, except for port 21 of `ftp`: as the usual port it is not shown, and protocols do
not bring it back.  They are looked up when no port is given and none is written but the
usual one. -/
theorem written_port_kept_iff (username password : String) {host : String} {url : Url}
    (hurl : NamesUrl host) (hread : Url.read host = .ok url) :
    (∀ port, Url.SpellsPort host port →
      ((∃ c, (build username password host none).result = .ok c ∧ c.server.port = some port) ↔
        ¬(url.scheme = "ftp" ∧ port = 21)) ∧
      (url.scheme = "ftp" → port = 21 →
        (build username password host none).result = .error (.unsupportedProtocol "ftp"))) ∧
    ∀ given, ConsultsProtocols given host ↔
      given = none ∧ ∀ port, Url.SpellsPort host port → Url.usualPort? url.scheme = some port := by
  refine ⟨?_, ?_⟩
  · intro port hspells
    have hwritten := (Url.writtenPort_eq_some_iff hread port).mpr hspells
    refine ⟨⟨?_, build_of_writtenPort hurl hread hwritten⟩, ?_⟩
    · rintro ⟨c, hc, -⟩ ⟨hscheme, rfl⟩
      rw [build_of_ftp hurl hread hscheme hwritten] at hc
      cases hc
    · rintro hscheme rfl
      exact build_of_ftp hurl hread hscheme hwritten
  · intro given
    rw [consultsProtocols_iff hurl hread, Url.port_eq_none_iff]
    simp only [Url.writtenPort_eq_some_iff hread]

/-- Port 80 of `http` is kept, port 21 of `ftp` is not. -/
theorem written_port_kept_iff_usual :
    (Url.SpellsPort "http://h:80" 80 ∧
      ∃ c, (Credentials.build "u" "p" "http://h:80" none).result = .ok c ∧
        c.server.port = some 80) ∧
    (Url.SpellsPort "ftp://h:21" 21 ∧
      (Credentials.build "u" "p" "ftp://h:21" none).result =
        .error (.unsupportedProtocol "ftp")) := by
  have hweb : NamesUrl "http://h:80" := ⟨"http".toList, "h:80".toList, by decide⟩
  have hftp : NamesUrl "ftp://h:21" := ⟨"ftp".toList, "h:21".toList, by decide⟩
  have hreadWeb : Url.read "http://h:80" = .ok ⟨"http", some (.domain "h"), some 80⟩ := by
    decide +kernel
  have hreadFtp : Url.read "ftp://h:21" = .ok ⟨"ftp", some (.domain "h"), some 21⟩ := by
    decide +kernel
  have hspellsWeb := (Url.writtenPort_eq_some_iff hreadWeb 80).mp rfl
  have hspellsFtp := (Url.writtenPort_eq_some_iff hreadFtp 21).mp rfl
  have hkept := (written_port_kept_iff "u" "p" hweb hreadWeb).1 80 hspellsWeb
  have hlost := (written_port_kept_iff "u" "p" hftp hreadFtp).1 21 hspellsFtp
  exact ⟨⟨hspellsWeb, hkept.1.mpr (by simp)⟩, hspellsFtp, hlost.2 rfl rfl⟩

end ServerLogin
