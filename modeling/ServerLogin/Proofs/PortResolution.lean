import ServerLogin.Proofs.Credentials

/-!
The port of login credentials.  `PortRule` lists the rules of precedence, and
`build_follows_precedence` says that building credentials obeys them: which hosts
are refused, which port the others get, and that the case of a scheme is of no
importance.
-/

namespace ServerLogin

open ServerLogin.Text Server

/-- The protocols with a known port. -/
def knownPorts : List (String × UInt16) :=
  [("ws", 80), ("wss", 443), ("http", 80), ("https", 443)]

namespace Protocol

/-- A scheme in lower case is looked up by its very name. -/
theorem ofName?_eq_find? {scheme : String}
    (hlower : scheme.toList.map lowerAscii = scheme.toList) :
    ofName? scheme = all.find? fun p => p.name == scheme := by
  have hname : ∀ p : Protocol, p.name.toList.map lowerAscii = p.name.toList := by
    intro p
    cases p <;> decide
  have htest : ∀ p : Protocol, sameIgnoringCase p.name.toList scheme.toList
      = (p.name == scheme) := by
    intro p
    rw [sameIgnoringCase, hname p, hlower, Bool.eq_iff_iff, beq_iff_eq, beq_iff_eq,
      String.toList_inj]
  simp only [ofName?, htest]

theorem knownPorts_eq : knownPorts = all.map fun p => (p.name, p.port) := rfl

theorem mem_knownPorts_of_ofName? {scheme : String} {p : Protocol}
    (hlower : scheme.toList.map lowerAscii = scheme.toList) (h : ofName? scheme = some p) :
    (scheme, p.port) ∈ knownPorts := by
  rw [ofName?_eq_find? hlower] at h
  have hname : p.name = scheme := by simpa using List.find?_some h
  rw [knownPorts_eq, ← hname]
  exact List.mem_map_of_mem (List.mem_of_find?_eq_some h)

theorem ofName?_of_mem_knownPorts {scheme : String} {port : UInt16}
    (h : (scheme, port) ∈ knownPorts) : ∃ p, ofName? scheme = some p ∧ p.port = port := by
  simp only [knownPorts, List.mem_cons, Prod.mk.injEq, List.not_mem_nil, or_false] at h
  rcases h with ⟨rfl, rfl⟩ | ⟨rfl, rfl⟩ | ⟨rfl, rfl⟩ | ⟨rfl, rfl⟩
  · exact ⟨.ws, by decide, rfl⟩
  · exact ⟨.wss, by decide, rfl⟩
  · exact ⟨.http, by decide, rfl⟩
  · exact ⟨.https, by decide, rfl⟩

end Protocol

/-- The port for a host, from the strongest rule to the weakest: the port that is
given, the port of the URL, the default port of a bare host, and the port of the
protocol. -/
inductive PortRule (given : Option UInt16) (host : String) : UInt16 → Prop
  | given {port : UInt16} : given = some port → PortRule given host port
  | written {url : Url} {port : UInt16} : given = none → NamesUrl host →
      Url.read host = .ok url → url.port = some port → PortRule given host port
  | bare : given = none → ¬NamesUrl host → PortRule given host 4064
  | protocol {url : Url} {port : UInt16} : given = none → NamesUrl host →
      Url.read host = .ok url → url.port = none → (url.scheme, port) ∈ knownPorts →
      PortRule given host port

/-- A host that is to be a URL and is none. -/
def Malformed (host : String) : Prop :=
  NamesUrl host ∧ ∃ fault, Url.read host = .error fault

theorem not_malformed_of_read {host : String} {url : Url} (h : Url.read host = .ok url) :
    ¬Malformed host := by
  rintro ⟨_, fault, hfault⟩
  rw [h] at hfault
  cases hfault

/-- A host for which no rule gives a port. -/
def Unsupported (given : Option UInt16) (host : String) : Prop :=
  given = none ∧ NamesUrl host ∧ ∃ url, Url.read host = .ok url ∧ url.port = none ∧
    url.scheme ∉ knownPorts.map Prod.fst

namespace Credentials

theorem build_of_malformed {username password host : String} {given : Option UInt16}
    (h : Malformed host) :
    ∃ fault, (build username password host given).result =
      .error (.invalidArgument (.badUrl host fault)) := by
  obtain ⟨hurl, fault, hread⟩ := h
  exact ⟨fault, by rw [result_build, withHost?_of_malformed hurl hread]; rfl⟩

theorem build_of_unsupported {username password host : String} {given : Option UInt16}
    (h : Unsupported given host) :
    ∃ scheme, (build username password host given).result =
      .error (.unsupportedProtocol scheme) := by
  obtain ⟨rfl, hurl, url, hread, hport, hscheme⟩ := h
  refine ⟨url.scheme, ?_⟩
  have hlower := Url.scheme_lower_of_read hread
  have hnone : Protocol.ofName? url.scheme = none := by
    cases hname : Protocol.ofName? url.scheme with
    | none => rfl
    | some p =>
      exact absurd (List.mem_map_of_mem (Protocol.mem_knownPorts_of_ofName? hlower hname))
        hscheme
  rw [result_build, withHost?_of_url hurl hread, hport]
  simp only [Except.bind, resolvePort, resolvePortBy, Protocol.portOf?, Option.or_none, hnone]
  rfl

/-- A host that is not malformed is a bare host or a URL. -/
theorem bare_or_url {host : String} (h : ¬Malformed host) :
    ¬NamesUrl host ∨ ∃ url, NamesUrl host ∧ Url.read host = .ok url := by
  by_cases hurl : NamesUrl host
  · cases hread : Url.read host with
    | error fault => exact absurd ⟨hurl, fault, hread⟩ h
    | ok url => exact Or.inr ⟨url, hurl, rfl⟩
  · exact Or.inl hurl

/-- A port that a rule gives is the port of the credentials, which keep the rest
as it was given. -/
theorem build_of_rule (username password : String) {host : String} {given : Option UInt16}
    {port : UInt16} (hform : ¬Malformed host) (h : PortRule given host port) :
    ∃ hostname protocol, (build username password host given).result =
      .ok { user := ⟨username, password⟩, server := ⟨host, hostname, some port, protocol⟩ } := by
  rw [result_build]
  cases h with
  | given hgiven =>
    subst hgiven
    rcases bare_or_url hform with hbare | ⟨url, hurl, hread⟩
    · rw [withHost?_of_bare hbare]
      exact ⟨host, none, rfl⟩
    · rw [withHost?_of_url hurl hread]
      exact ⟨url.hostText, some url.scheme, rfl⟩
  | @written url _ hgiven hurl hread hport =>
    subst hgiven
    rw [withHost?_of_url hurl hread, hport]
    exact ⟨url.hostText, some url.scheme, rfl⟩
  | bare hgiven hbare =>
    subst hgiven
    rw [withHost?_of_bare hbare]
    exact ⟨host, none, rfl⟩
  | @protocol url port hgiven hurl hread hport hmem =>
    subst hgiven
    have hname := Protocol.ofName?_of_mem_knownPorts hmem
    obtain ⟨p, hname, rfl⟩ := hname
    rw [withHost?_of_url hurl hread, hport]
    refine ⟨url.hostText, some url.scheme, ?_⟩
    simp only [Except.bind, resolvePort, resolvePortBy, Protocol.portOf?, Option.or_none, hname]
    rfl

/-- When no rule gives a port, the host is malformed or its protocol is not
supported. -/
theorem exists_rule {given : Option UInt16} {host : String} (hform : ¬Malformed host)
    (hsupp : ¬Unsupported given host) : ∃ port, PortRule given host port := by
  cases given with
  | some port => exact ⟨port, .given rfl⟩
  | none =>
    rcases bare_or_url hform with hbare | ⟨url, hurl, hread⟩
    · exact ⟨4064, .bare rfl hbare⟩
    · cases hport : url.port with
      | some port => exact ⟨port, .written rfl hurl hread hport⟩
      | none =>
        by_cases hscheme : url.scheme ∈ knownPorts.map Prod.fst
        · obtain ⟨⟨scheme, port⟩, hmem, rfl⟩ := List.mem_map.mp hscheme
          exact ⟨port, .protocol rfl hurl hread hport hmem⟩
        · exact absurd ⟨rfl, hurl, url, hread, hport, hscheme⟩ hsupp

/-- No two rules give different ports. -/
theorem portRule_unique {given : Option UInt16} {host : String} {port other : UInt16}
    (hform : ¬Malformed host) (h : PortRule given host port)
    (h' : PortRule given host other) : port = other := by
  obtain ⟨_, _, hport⟩ := build_of_rule "" "" hform h
  obtain ⟨_, _, hother⟩ := build_of_rule "" "" hform h'
  rw [hport] at hother
  simp only [Except.ok.injEq, Credentials.mk.injEq, Server.mk.injEq, Option.some.injEq] at hother
  exact hother.2.1.2.2.1

/-- What building comes to: the host is malformed, its protocol is not supported,
or a rule gives the port. -/
theorem build_cases (username password host : String) (given : Option UInt16) :
    (Malformed host ∧ ∃ fault, (build username password host given).result =
      .error (.invalidArgument (.badUrl host fault))) ∨
    (¬Malformed host ∧ Unsupported given host ∧
      ∃ scheme, (build username password host given).result =
        .error (.unsupportedProtocol scheme)) ∨
    (¬Malformed host ∧ ¬Unsupported given host ∧
      ∃ port hostname protocol, PortRule given host port ∧
        (build username password host given).result =
          .ok { user := ⟨username, password⟩,
                server := ⟨host, hostname, some port, protocol⟩ }) := by
  by_cases hform : Malformed host
  · exact Or.inl ⟨hform, build_of_malformed hform⟩
  · by_cases hsupp : Unsupported given host
    · exact Or.inr (Or.inl ⟨hform, hsupp, build_of_unsupported hsupp⟩)
    · obtain ⟨port, hport⟩ := exists_rule hform hsupp
      obtain ⟨hostname, protocol, hok⟩ := build_of_rule username password hform hport
      exact Or.inr (Or.inr ⟨hform, hsupp, port, hostname, protocol, hport, hok⟩)

theorem malformed_outcome_iff {username password host : String} {given : Option UInt16} :
    (∃ fault, (build username password host given).result = .error (.invalidArgument fault)) ↔
      Malformed host := by
  rcases build_cases username password host given with
    ⟨hform, fault, h⟩ | ⟨hform, _, scheme, h⟩ | ⟨hform, _, port, hostname, protocol, _, h⟩
  · exact ⟨fun _ => hform, fun _ => ⟨_, h⟩⟩
  · simp [h, hform]
  · simp [h, hform]

theorem unsupported_outcome_iff {username password host : String} {given : Option UInt16} :
    (∃ scheme, (build username password host given).result =
      .error (.unsupportedProtocol scheme)) ↔ Unsupported given host := by
  rcases build_cases username password host given with
    ⟨hform, fault, h⟩ | ⟨_, hsupp, scheme, h⟩ | ⟨_, hsupp, port, hostname, protocol, _, h⟩
  · have hsupp : ¬Unsupported given host := by
      rintro ⟨_, _, url, hread, _⟩
      exact not_malformed_of_read hread hform
    simp [h, hsupp]
  · exact ⟨fun _ => hsupp, fun _ => ⟨_, h⟩⟩
  · simp [h, hsupp]

theorem unsupported_iff_of_schemeCase {given : Option UInt16} {host other : String}
    (h : Url.SchemeCase host other) : Unsupported given host ↔ Unsupported given other := by
  rw [Unsupported, Unsupported, ← isUrlText_iff, ← isUrlText_iff, isUrlText_eq_of_schemeCase h,
    Url.read_eq_of_schemeCase h]

/-- The port depends on the address only through its port and its protocol. -/
theorem resolvePort_congr {given : Option UInt16} {s t : Server} (hport : s.port = t.port)
    (hprotocol : s.protocol = t.protocol) : resolvePort given s = resolvePort given t := by
  simp only [resolvePort, resolvePortBy, hport, hprotocol]

theorem withHost?_of_schemeCase {host other : String} {s : Server}
    (h : Url.SchemeCase host other) (hs : Server.withHost? {} host = .ok s) :
    ∃ t, Server.withHost? {} other = .ok t ∧ t.port = s.port ∧ t.protocol = s.protocol := by
  have hread := Url.read_eq_of_schemeCase h
  have hurl : NamesUrl host ↔ NamesUrl other := by
    rw [← isUrlText_iff, ← isUrlText_iff, isUrlText_eq_of_schemeCase h]
  have hform : ¬Malformed host := by
    rintro ⟨hhost, fault, hfault⟩
    rw [withHost?_of_malformed hhost hfault] at hs
    cases hs
  rcases bare_or_url hform with hbare | ⟨url, hhost, hok⟩
  · rw [withHost?_of_bare hbare] at hs
    cases hs
    exact ⟨_, withHost?_of_bare (mt hurl.mpr hbare), rfl, rfl⟩
  · rw [withHost?_of_url hhost hok] at hs
    cases hs
    exact ⟨_, withHost?_of_url (hurl.mp hhost) (hread ▸ hok), rfl, rfl⟩

/-- Two hosts that differ in the case of the scheme get the same port and the
same protocol. -/
theorem build_of_schemeCase {username password host other : String} {given : Option UInt16}
    {c : Credentials} (h : Url.SchemeCase host other)
    (hc : (build username password host given).result = .ok c) :
    ∃ d, (build username password other given).result = .ok d ∧
      d.server.port = c.server.port ∧ d.server.protocol = c.server.protocol := by
  rw [result_build] at hc ⊢
  cases hs : Server.withHost? {} host with
  | error e =>
    rw [hs] at hc
    cases hc
  | ok s =>
    obtain ⟨t, ht, hport, hprotocol⟩ := withHost?_of_schemeCase h hs
    rw [hs, Except.bind] at hc
    rw [ht, Except.bind, resolvePort_congr hport hprotocol]
    cases hresolve : resolvePort given s with
    | error e =>
      rw [hresolve] at hc
      cases hc
    | ok port =>
      rw [hresolve] at hc
      cases hc
      exact ⟨_, rfl, rfl, hprotocol⟩

end Credentials

open Credentials in
/-- Building credentials follows the rules of precedence.  A malformed URL is an
invalid argument, whatever port is given; a URL for which no rule gives a port
names an unsupported protocol; and every other host gets the one port that the
rules give, the rest being as it was given or at its default.  The case of the
scheme changes neither the port nor the protocol nor whether that is supported. -/
theorem build_follows_precedence (username password host : String) (given : Option UInt16) :
    ((∃ fault, (build username password host given).result = .error (.invalidArgument fault)) ↔
      Malformed host) ∧
    ((∃ scheme, (build username password host given).result =
      .error (.unsupportedProtocol scheme)) ↔ Unsupported given host) ∧
    (¬Malformed host → ¬Unsupported given host →
      ∃ port hostname protocol, PortRule given host port ∧
        (∀ other, PortRule given host other → other = port) ∧
        (build username password host given).result =
          .ok { user := ⟨username, password⟩,
                server := ⟨host, hostname, some port, protocol⟩ }) ∧
    ∀ other, Url.SchemeCase host other →
      ((∃ scheme, (build username password host given).result =
          .error (.unsupportedProtocol scheme)) ↔
        ∃ scheme, (build username password other given).result =
          .error (.unsupportedProtocol scheme)) ∧
      ∀ c, (build username password host given).result = .ok c →
        ∃ d, (build username password other given).result = .ok d ∧
          d.server.port = c.server.port ∧ d.server.protocol = c.server.protocol := by
  refine ⟨malformed_outcome_iff, unsupported_outcome_iff, fun hform hsupp => ?_,
    fun other h => ⟨?_, fun c hc => build_of_schemeCase h hc⟩⟩
  · obtain ⟨port, hport⟩ := exists_rule hform hsupp
    obtain ⟨hostname, protocol, hok⟩ := build_of_rule username password hform hport
    exact ⟨port, hostname, protocol, hport, fun _ h => portRule_unique hform h hport, hok⟩
  · rw [unsupported_outcome_iff, unsupported_outcome_iff, unsupported_iff_of_schemeCase h]

end ServerLogin
