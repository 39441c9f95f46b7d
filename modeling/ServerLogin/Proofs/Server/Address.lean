import ServerLogin.Server
import ServerLogin.Proofs.Url.SchemeCase

/-!
What a host comes to.  A host in which `://` stands is a URL and is refused when
it is malformed; any other host stands for itself.
-/

namespace ServerLogin

open ServerLogin.Text

namespace Server

/-- A host is a URL when `://` stands somewhere in it. -/
def NamesUrl (host : String) : Prop := "://".toList <:+: host.toList

theorem hasSchemeMark_iff {cs : List Char} :
    hasSchemeMark cs = true ↔ [':', '/', '/'] <:+: cs := by
  induction cs with
  | nil => simp [hasSchemeMark]
  | cons c rest ih =>
    rw [hasSchemeMark, Bool.or_eq_true, ih, List.isPrefixOf_iff_prefix, List.infix_cons_iff]

theorem isUrlText_iff {host : String} : isUrlText host = true ↔ NamesUrl host :=
  hasSchemeMark_iff

/-- The mark of a URL cannot begin before its first colon. -/
theorem hasSchemeMark_append {name : List Char} (colon : ':' ∉ name) (rest : List Char) :
    hasSchemeMark (name ++ ':' :: rest) = hasSchemeMark (':' :: rest) := by
  induction name with
  | nil => rfl
  | cons c more ih =>
    rw [List.mem_cons, not_or] at colon
    have hc : (':' == c) = false := by simpa using colon.1
    rw [List.cons_append, hasSchemeMark, ih colon.2]
    simp only [List.isPrefixOf, hc, Bool.false_and, Bool.false_or]

theorem isUrlText_eq_of_schemeCase {host other : String} (h : Url.SchemeCase host other) :
    isUrlText host = isUrlText other := by
  obtain ⟨rest, colon, same⟩ := h
  have hother := Url.colon_notMem_of_same colon same
  simp only [isUrlText, String.toList_ofList, hasSchemeMark_append colon,
    hasSchemeMark_append hother]

theorem withHost?_of_bare {server : Server} {host : String} (h : ¬NamesUrl host) :
    server.withHost? host =
      .ok { server with host := host, hostname := host, protocol := none } := by
  rw [← isUrlText_iff] at h
  simp only [withHost?, h, Bool.false_eq_true, if_false]

theorem withHost?_of_malformed {server : Server} {host : String} {fault : UrlFault}
    (h : NamesUrl host) (hread : Url.read host = .error fault) :
    server.withHost? host = .error (.invalidArgument (.badUrl host fault)) := by
  simp only [withHost?, isUrlText_iff.mpr h, if_true, hread]

theorem withHost?_of_url {server : Server} {host : String} {url : Url}
    (h : NamesUrl host) (hread : Url.read host = .ok url) :
    server.withHost? host =
      .ok ⟨host, url.hostText, url.port.or server.port, some url.scheme⟩ := by
  simp only [withHost?, isUrlText_iff.mpr h, if_true, hread]

@[simp] theorem result_setHost (server : Server) (host : String) :
    (server.setHost host).result = server.withHost? host := by
  simp only [setHost, Outcome.result_bind, Outcome.result_ofResult]
  cases server.withHost? host <;> rfl

end Server
end ServerLogin
