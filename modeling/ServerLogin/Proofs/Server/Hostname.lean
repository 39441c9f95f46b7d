import ServerLogin.Proofs.Server.Calls
import ServerLogin.Proofs.Url.HostText

/-!
The host name of an address.  A host name stands alone when neither a scheme nor a path nor a
port is written with it.  The host of a URL is taken out of its text and stands alone
(`standsAlone_of_isWritten`).  Any other host is its own host name, as it was given, and stands
alone only if it was given so.
-/

namespace ServerLogin

namespace Server

/-- A place in a text lies between the brackets of an IPv6 address, when `front` stands before
the colon there and `back` behind it. -/
def InBrackets (front back : List Char) : Prop :=
  ∃ before left right after pieces,
    front = before ++ '[' :: left ∧ back = right ++ ']' :: after ∧
      Url.ipv6? (left ++ ':' :: right) = .ok pieces

/-- A host name without scheme, path or port.  Its only colons are those of an IPv6 address in
brackets. -/
structure StandsAlone (name : String) : Prop where
  noScheme : ¬NamesUrl name
  noPath : '/' ∉ name.toList
  noPort : ∀ front back, name.toList = front ++ ':' :: back → InBrackets front back

/-- The colons of an address in brackets stand between these. -/
theorem inBrackets_of_address {pieces : List Nat} (h : Url.IsAddress pieces)
    {front back : List Char} (hsplit : '[' :: Url.ipv6Text pieces ++ [']'] = front ++ ':' :: back) :
    InBrackets front back := by
  cases front with
  | nil => exact absurd (List.cons.inj hsplit).1 (by decide)
  | cons first left =>
    obtain ⟨rfl, -⟩ := List.cons.inj hsplit
    have hinner : Url.ipv6Text pieces ++ [']'] = left ++ ':' :: back := (List.cons.inj hsplit).2
    -- the bracket at the end is no colon, so it stands behind the colon
    rcases List.eq_nil_or_concat back with rfl | ⟨right, last, rfl⟩
    · exact absurd (List.append_inj_right' hinner rfl) (by decide)
    · rw [List.concat_eq_append, ← List.cons_append, ← List.append_assoc] at hinner
      obtain ⟨htext, hlast⟩ := List.append_inj' hinner rfl
      obtain rfl := List.head_eq_of_cons_eq hlast
      refine ⟨[], left, right, [], pieces, rfl, List.concat_eq_append, ?_⟩
      rw [← htext]
      exact Url.ipv6?_ipv6Text h

/-- The host of a URL stands alone as it is written. -/
theorem standsAlone_of_isWritten {name : String} (h : Url.IsWritten name.toList) :
    StandsAlone name := by
  have hslash : '/' ∉ name.toList := fun hmem => (h.isHostChar '/' hmem).2 rfl
  refine ⟨?_, hslash, ?_⟩
  · intro hscheme
    exact hslash (hscheme.subset (by decide))
  · intro front back hsplit
    rw [hsplit] at h
    generalize hcs : front ++ ':' :: back = cs at h
    cases h with
    | address haddress => exact inBrackets_of_address haddress hcs.symm
    | name hname =>
      have hcolon : ':' ∈ cs := hcs ▸ List.mem_append_right front List.mem_cons_self
      exact absurd rfl (hname ':' hcolon).2

theorem not_standsAlone_of_port {name : String} (front back : List Char)
    (hname : name.toList = front ++ ':' :: back) (hfront : '[' ∉ front) : ¬StandsAlone name := by
  intro h
  obtain ⟨before, left, -, -, -, rfl, -⟩ := h.noPort front back hname
  exact hfront (List.mem_append_right before List.mem_cons_self)

end Server

open Server in
/-- Whatever calls have led to an address, no scheme stands in its host name.  The host name
stands alone when the host was given as a URL; any other host is its own host name, and stands
alone only if no path and no port was given with it. -/
theorem hostname_standsAlone_iff {server : Server} (h : server.Reachable) :
    ¬NamesUrl server.hostname ∧
    (¬NamesUrl server.host → server.hostname = server.host) ∧
    (StandsAlone server.hostname ↔ NamesUrl server.host ∨ StandsAlone server.host) := by
  by_cases hurl : NamesUrl server.host
  · obtain ⟨url, hread, hname, -⟩ := h.consistent.url hurl
    have halone : StandsAlone server.hostname := by
      rw [hname]
      exact standsAlone_of_isWritten (Url.isWritten_of_read hread)
    exact ⟨halone.noScheme, fun hbare => absurd hurl hbare, fun _ => .inl hurl, fun _ => halone⟩
  · have hname := (h.consistent.bare hurl).1
    rw [hname]
    exact ⟨hurl, fun _ => rfl, .inr, fun hhost => hhost.resolve_left hurl⟩

open Server in
/-- The host name of `wss://[::1]:4064/ws` is `[::1]`, and that of `localhost:4064` keeps the
port. -/
theorem hostname_standsAlone_iff_port :
    (∃ server : Server, server.Reachable ∧ server.host = "wss://[::1]:4064/ws" ∧
      server.hostname = "[::1]" ∧ StandsAlone server.hostname) ∧
    (∃ server : Server, server.Reachable ∧ server.host = "localhost:4064" ∧
      server.hostname = "localhost:4064" ∧ ¬StandsAlone server.hostname) := by
  have hurl : NamesUrl "wss://[::1]:4064/ws" := ⟨"wss".toList, "[::1]:4064/ws".toList, by decide⟩
  have hread : Url.read "wss://[::1]:4064/ws" =
      .ok ⟨"wss", some (.ipv6 [0, 0, 0, 0, 0, 0, 0, 1]), some 4064⟩ := by
    decide +kernel
  have hbare : ¬NamesUrl "localhost:4064" := by
    rw [← isUrlText_iff]
    decide
  have hreached := Reachable.of_withHost? (withHost?_of_url hurl hread) 4064
  have hreachedBare := Reachable.of_withHost? (withHost?_of_bare hbare) 4064
  constructor
  · refine ⟨_, hreached, rfl, by decide +kernel, ?_⟩
    exact (hostname_standsAlone_iff hreached).2.2.mpr (.inl hurl)
  · refine ⟨_, hreachedBare, rfl, rfl, ?_⟩
    rw [(hostname_standsAlone_iff hreachedBare).2.2]
    rintro (hhost | hhost)
    · exact hbare hhost
    · exact not_standsAlone_of_port "localhost".toList "4064".toList (by decide) (by decide) hhost

end ServerLogin
