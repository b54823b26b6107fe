import Vastora.Agent.CaddyDriver
import Vastora.Library.FirstMatch

/-!
# CaddyRouting — which requests reach the routes of a gateway

The routes of a hostname are sorted by their paths, the one without a path last, so the first HTTPS route that
accepts a request is the most specific one.  The HTTP server also has the redirects.  A redirect accepts every
path of its hostname, and it stands before every plain route that is sorted after the first TLS route of the
hostname: those plain routes are never reached (`PlainFirst` excludes them).
-/

namespace Vastora
namespace Agent

open Library Library.Guard Library.Pattern Gateway

/-! ## What is promised -/

/-- A request with an exact path and no `application/grpc` content type. -/
structure HTTPRequest.Exact (request : HTTPRequest) : Prop where
  path : '*' ∉ request.path.toList
  contentType : hasPrefix request.contentType "application/grpc" = false

/-- `r` is the route of the listener, the hostname and the path. -/
structure IsRoute (state : DesiredState) (tls : Bool) (kind hostname path : String) (r : Route) : Prop where
  mem : r ∈ state.routes
  tls : r.tlsEnabled = tls
  kind : r.listenerKind = kind
  hostname : r.hostname = hostname
  path : r.path = path

/-- The route for a request: the one of its path or, without such a route, the one of the whole hostname. -/
def Chosen (state : DesiredState) (tls : Bool) (kind : String) (request : HTTPRequest) (r : Route) : Prop :=
  IsRoute state tls kind request.host request.path r ∨
    (∀ r', ¬ IsRoute state tls kind request.host request.path r') ∧ IsRoute state tls kind request.host "" r

/-- The text that dials an upstream; an address with colons stands in brackets. -/
def Dials (u : Upstream) (dial : String) : Prop :=
  dial = (if ':' ∈ u.address.toList then "[" ++ u.address ++ "]" else u.address) ++ ":" ++ toString u.port

/-- The request is proxied to the upstreams of `r`, in some order, and over TLS if these speak HTTPS. -/
def Proxied (r : Route) (ran : List Handler) : Prop :=
  ∃ upstreams dials, upstreams.Perm r.upstreams ∧ List.Forall₂ Dials upstreams dials ∧
    ran = [.reverseProxy dials (if r.protocol = "https" then some .tls else none)]

/-- The request is redirected for good to the same address under HTTPS. -/
def Redirected (ran : List Handler) : Prop :=
  ran = [.staticResponse 308 [("Location", ["https://\x7bhttp.request.host\x7d\x7bhttp.request.uri\x7d"])]]

def serverOf (r : Route) : String :=
  if r.tlsEnabled then httpsServer r.listenerKind else httpServer r.listenerKind

/-- The configuration does with every request what the routes of the state say. -/
structure Realised (state : DesiredState) (config : CaddyConfig) : Prop where
  https : ∀ kind request r, request.Exact → Chosen state true kind request r →
    Proxied r (config.answer (httpsServer kind) request)
  httpsNone : ∀ kind request, request.Exact → (∀ r, ¬ Chosen state true kind request r) →
    config.answer (httpsServer kind) request = []
  http : ∀ kind request r, request.Exact → Chosen state false kind request r →
    Proxied r (config.answer (httpServer kind) request)
  httpRedirect : ∀ kind request t path, request.Exact → (∀ r, ¬ Chosen state false kind request r) →
    IsRoute state true kind request.host path t → Redirected (config.answer (httpServer kind) request)
  httpNone : ∀ kind request, request.Exact → (∀ r, ¬ Chosen state false kind request r) →
    (∀ t path, ¬ IsRoute state true kind request.host path t) → config.answer (httpServer kind) request = []
  reachable : ∀ r ∈ state.routes, ∃ request, request.Exact ∧ hasPrefix request.path "/" ∧
    Proxied r (config.answer (serverOf r) request)

/-- The plain routes of a hostname are sorted before its TLS routes. -/
def PlainFirst (state : DesiredState) : Prop :=
  ∀ t ∈ state.routes, ∀ r ∈ state.routes, t.tlsEnabled = true → r.tlsEnabled = false →
    t.listenerKind = r.listenerKind → t.hostname = r.hostname →
    r.path ≠ "" ∧ (t.path = "" ∨ r.path < t.path)

/-! ## The two lists of a listener -/

/-- What a route adds to the HTTPS server. -/
def httpsRoutes (r : Route) : List CaddyRoute :=
  if r.tlsEnabled then (if servesGRPC r then [grpcCandidate r] else []) ++ [candidate r] else []

/-- What the routes add to the HTTP server when `seen` are redirected already. -/
def httpRoutes (seen : List String) : List Route → List CaddyRoute
  | [] => []
  | r :: routes =>
      if r.tlsEnabled then
        if r.hostname ∈ seen then httpRoutes seen routes
        else redirect r.hostname :: httpRoutes (r.hostname :: seen) routes
      else candidate r :: httpRoutes seen routes

theorem foldl_add (routes : List Route) (acc : ListenerRoutes) :
    (routes.foldl ListenerRoutes.add acc).https = acc.https ++ routes.flatMap httpsRoutes ∧
      (routes.foldl ListenerRoutes.add acc).http = acc.http ++ httpRoutes acc.redirectHosts routes := by
  induction routes generalizing acc with
  | nil => simp [httpRoutes]
  | cons r routes ih =>
      obtain ⟨hhttps, hhttp⟩ := ih (acc.add r)
      rw [List.foldl_cons, hhttps, hhttp, List.flatMap_cons, httpRoutes]
      unfold ListenerRoutes.add httpsRoutes
      by_cases htls : r.tlsEnabled = true
      · by_cases hseen : r.hostname ∈ acc.redirectHosts
        · simp [htls, hseen]
        · simp [htls, hseen]
      · simp [htls]

theorem listenerRoutes_https (desired : DesiredState) (kind : String) :
    (listenerRoutes desired kind).https = (routesOfKind desired kind).flatMap httpsRoutes := by
  simpa [listenerRoutes] using (foldl_add (routesOfKind desired kind) ⟨[], [], []⟩).1

theorem listenerRoutes_http (desired : DesiredState) (kind : String) :
    (listenerRoutes desired kind).http = httpRoutes [] (routesOfKind desired kind) := by
  simpa [listenerRoutes] using (foldl_add (routesOfKind desired kind) ⟨[], [], []⟩).2

/-! ## The first route that accepts a request -/

section FirstRoute

variable {request : HTTPRequest}

/-- The matcher of a route accepts the request. -/
def hits (request : HTTPRequest) (r : Route) : Bool :=
  r.hostname == request.host && (r.path == "" || r.path == request.path)

/-- A TLS route accepts the request. -/
def tlsHits (request : HTTPRequest) (r : Route) : Bool := r.tlsEnabled && hits request r

/-- The route or the redirect of its hostname accepts the request. -/
def httpHits (request : HTTPRequest) (r : Route) : Bool :=
  (r.tlsEnabled && r.hostname == request.host) || hits request r

theorem httpHits_of_tls {r : Route} (htls : r.tlsEnabled = true) (hhost : r.hostname = request.host) :
    httpHits request r = true := by simp [httpHits, htls, hhost]

theorem hostname_of_httpHits {r : Route} (h : httpHits request r = true) : r.hostname = request.host := by
  rcases Bool.or_eq_true_iff.1 h with h | h
  · exact beq_iff_eq.1 (Bool.and_eq_true_iff.1 h).2
  · exact beq_iff_eq.1 (Bool.and_eq_true_iff.1 h).1

theorem hits_of_httpHits {r : Route} (h : httpHits request r = true) (hplain : r.tlsEnabled = false) :
    hits request r = true := by
  rwa [httpHits, hplain, Bool.false_and, Bool.false_or] at h

theorem accepts_candidate (request : HTTPRequest) (r : Route) :
    (candidate r).accepts request = hits request r := by
  rw [Bool.eq_iff_iff]
  by_cases hpath : r.path = ""
  · simp [candidate, CaddyRoute.accepts, Matcher.accepts, matcher, hits, hpath, eq_comm (a := request.host)]
  · simp [candidate, CaddyRoute.accepts, Matcher.accepts, matcher, hits, hpath, eq_comm (a := request.host),
      eq_comm (a := request.path)]

theorem accepts_redirect (request : HTTPRequest) (hostname : String) :
    (redirect hostname).accepts request = (hostname == request.host) := by
  rw [Bool.eq_iff_iff]
  simp [redirect, CaddyRoute.accepts, Matcher.accepts, eq_comm (a := request.host)]

/-- A request without the content type is not taken by the HTTP/2 upstream. -/
theorem accepts_grpcCandidate (h : request.Exact) (r : Route) :
    (grpcCandidate r).accepts request = false := by
  have hsuffix : hasSuffix "application/grpc*" "*" = true := by decide +kernel
  have htrim : Text.trimSuffix "application/grpc*" "*" = "application/grpc" := by decide +kernel
  simp [grpcCandidate, CaddyRoute.accepts, Matcher.accepts, headerValueMatches, hsuffix, htrim, h.contentType]

theorem handlers_append_of_not_accepts {routes routes' : List CaddyRoute}
    (h : ∀ r ∈ routes, r.accepts request = false) :
    handlers request (routes ++ routes') = handlers request routes' := by
  induction routes with
  | nil => rfl
  | cons r routes ih =>
      rw [List.forall_mem_cons] at h
      rw [List.cons_append, handlers, h.1, if_neg Bool.false_ne_true, ih h.2]

/-- The HTTPS server proxies to the first TLS route that accepts the request. -/
theorem handlers_https (h : request.Exact) (routes : List Route) :
    handlers request (routes.flatMap httpsRoutes) =
      ((routes.find? (tlsHits request)).map proxy).toList := by
  induction routes with
  | nil => rfl
  | cons r routes ih =>
      have hgrpc : ∀ c ∈ (if servesGRPC r then [grpcCandidate r] else []), c.accepts request = false := by
        intro c hc
        split at hc
        · rw [List.mem_singleton.1 hc, accepts_grpcCandidate h]
        · cases hc
      rw [List.flatMap_cons, List.find?_cons, httpsRoutes, tlsHits]
      cases htls : r.tlsEnabled with
      | false => simpa using ih
      | true =>
          rw [if_pos rfl, List.append_assoc, handlers_append_of_not_accepts hgrpc, List.singleton_append, handlers,
            accepts_candidate, ih, Bool.true_and]
          cases hhits : hits request r with
          | true => simp [candidate]
          | false => simp

/-- What the HTTP server does for a route: a TLS route redirects. -/
def httpHandler (r : Route) : Handler := if r.tlsEnabled then redirectHandler else proxy r

/-- The HTTP server takes the first route that accepts the request, or the first TLS route of the hostname. -/
theorem handlers_http {seen : List String} (hseen : request.host ∉ seen) (routes : List Route) :
    handlers request (httpRoutes seen routes) =
      ((routes.find? (httpHits request)).map httpHandler).toList := by
  induction routes generalizing seen with
  | nil => rfl
  | cons r routes ih =>
      rw [List.find?_cons, httpRoutes, httpHits]
      cases htls : r.tlsEnabled with
      | true =>
          rw [if_pos rfl]
          by_cases hhost : r.hostname = request.host
          · have hnot : r.hostname ∉ seen := hhost ▸ hseen
            rw [if_neg hnot, handlers, accepts_redirect]
            simp [hhost, redirect, httpHandler, htls]
          · have hne : (r.hostname == request.host) = false := beq_eq_false_iff_ne.2 hhost
            have hhits : hits request r = false := by rw [hits, hne, Bool.false_and]
            rw [hne, hhits, Bool.and_false, Bool.or_false]
            by_cases hmem : r.hostname ∈ seen
            · rw [if_pos hmem, ih hseen]
            · have hseen' : request.host ∉ r.hostname :: seen := by
                rw [List.mem_cons, not_or]
                exact ⟨fun heq => hhost heq.symm, hseen⟩
              rw [if_neg hmem, handlers, accepts_redirect, hne, if_neg Bool.false_ne_true, ih hseen']
      | false =>
          rw [if_neg Bool.false_ne_true, handlers, accepts_candidate, ih hseen]
          cases hhits : hits request r with
          | true => simp [candidate, httpHandler, htls]
          | false => simp

end FirstRoute

/-! ## The sorted routes -/

section Order

variable {sorter : Sorter} {state : DesiredState} {kind : String}

/-- Of two routes of a hostname, a path sorts before a later path and before no path. -/
theorem key_lt_of_path {a b : Route} (hkind : a.listenerKind = b.listenerKind) (hhost : a.hostname = b.hostname)
    (ha : a.path ≠ "") (hb : b.path = "" ∨ a.path < b.path) : a.key < b.key := by
  rw [← Route.less_iff]
  rcases hb with hb | hb
  · simp [Route.less, hkind, hhost, ha, hb]
  · have hne : a.path ≠ b.path := ne_of_lt hb
    simp [Route.less, hkind, hhost, ha, hne, hb]

theorem mem_routesOfKind_sorted {r : Route} :
    r ∈ routesOfKind (state.sorted sorter) kind ↔
      ∃ r₀ ∈ state.routes, r₀.listenerKind = kind ∧ r = r₀.sortUpstreams sorter := by
  unfold routesOfKind DesiredState.sorted
  rw [List.mem_filter, Sorter.mem_sort, List.mem_map]
  constructor
  · rintro ⟨⟨r₀, hr₀, rfl⟩, hkind⟩
    exact ⟨r₀, hr₀, beq_iff_eq.1 hkind, rfl⟩
  · rintro ⟨r₀, hr₀, hkind, rfl⟩
    exact ⟨⟨r₀, hr₀, rfl⟩, beq_iff_eq.2 hkind⟩

theorem pairwise_routesOfKind (state : DesiredState) (kind : String) :
    (routesOfKind (state.sorted sorter) kind).Pairwise fun a b => a.key ≤ b.key :=
  (sorter.sorted Route.key Route.less _ Route.less_iff).filter _

theorem dials_joinHostPort (u : Upstream) : Dials u (joinHostPort u.address (toString u.port)) := by
  by_cases hcolon : ':' ∈ u.address.toList
  · have hbracket : ("]:" : String) = "]" ++ ":" := rfl
    simp [Dials, joinHostPort, hcolon, hbracket, String.append_assoc]
  · simp [Dials, joinHostPort, hcolon]

theorem proxied_sortUpstreams (r : Route) : Proxied r [proxy (r.sortUpstreams sorter)] :=
  ⟨_, _, sorter.perm _ _,
    List.forall₂_map_right_iff.2 (List.forall₂_same.2 fun u _ => dials_joinHostPort u), rfl⟩

end Order

/-! ## The servers of a configuration -/

section Servers

variable {quote : String → String} {desired : DesiredState} {l : Listener}

theorem httpServer_injective {kind kind' : String} (h : httpServer kind = httpServer kind') : kind = kind' := by
  simpa [httpServer] using h

theorem httpsServer_injective {kind kind' : String} (h : httpsServer kind = httpsServer kind') :
    kind = kind' := by
  simpa [httpsServer] using h

-- The names of the servers end in different letters.
theorem getLast?_httpServer (kind : String) : (httpServer kind).toList.getLast? = some 'p' := by
  rw [httpServer, String.toList_append, List.getLast?_append_of_ne_nil _ (by decide)]
  rfl

theorem getLast?_httpsServer (kind : String) : (httpsServer kind).toList.getLast? = some 's' := by
  rw [httpsServer, String.toList_append, List.getLast?_append_of_ne_nil _ (by decide)]
  rfl

theorem httpServer_ne_httpsServer (kind kind' : String) : httpServer kind ≠ httpsServer kind' := by
  intro h
  have hlast := getLast?_httpServer kind
  rw [h, getLast?_httpsServer] at hlast
  cases hlast

theorem serverRoutes_append (servers servers' : List (String × CaddyServer)) (name : String) :
    serverRoutes (servers ++ servers') name =
      if (servers.lookup name).isSome then serverRoutes servers name else serverRoutes servers' name := by
  unfold serverRoutes
  rw [List.lookup_append]
  cases servers.lookup name <;> simp

theorem serverRoutes_local (desired : DesiredState) {name : String} (h : name.toList.getLast? ≠ some 'n') :
    serverRoutes (localServers desired) name = [] := by
  have hne : name ≠ "vastora-local-tls-origin" := by
    rintro rfl
    exact h (by decide)
  unfold serverRoutes localServers
  dsimp only
  split
  · rfl
  · simp [List.lookup_cons, beq_eq_false_iff_ne.2 hne]

theorem caddyListenerPorts_isSome (h : l.knownKind) : (caddyListenerPorts l.kind).isSome := by
  simp only [Listener.knownKind, Bool.or_eq_true, beq_iff_eq] at h
  rcases h with ((h | h) | h) | h <;> simp [h, caddyListenerPorts]

/-- A server of a listener has the routes of the listener, or there is none and they are empty. -/
theorem lookup_listenerServers {servers : List (String × CaddyServer)}
    (h : listenerServers quote desired l = .ok servers) :
    serverRoutes servers (httpServer l.kind) = (listenerRoutes desired l.kind).http ∧
      serverRoutes servers (httpsServer l.kind) = (listenerRoutes desired l.kind).https ∧
      ∀ name, (servers.lookup name).isSome → name = httpServer l.kind ∨ name = httpsServer l.kind := by
  obtain ⟨ports, -, h⟩ := fetch_bind_eq_ok_iff.1 h
  obtain rfl := pure_eq_ok_iff.1 h
  have hne := httpServer_ne_httpsServer l.kind l.kind
  refine ⟨?_, ?_, ?_⟩
  · cases hhttp : (listenerRoutes desired l.kind).http <;>
      cases hhttps : (listenerRoutes desired l.kind).https <;>
      simp [serverRoutes, List.lookup_cons, beq_eq_false_iff_ne.2 hne]
  · cases hhttp : (listenerRoutes desired l.kind).http <;>
      cases hhttps : (listenerRoutes desired l.kind).https <;>
      simp [serverRoutes, List.lookup_cons, beq_eq_false_iff_ne.2 hne.symm]
  · intro name hname
    by_contra hother
    rw [not_or] at hother
    cases hhttp : (listenerRoutes desired l.kind).http <;>
      cases hhttps : (listenerRoutes desired l.kind).https <;>
      simp [hhttp, hhttps, List.lookup_cons, beq_eq_false_iff_ne.2 hother.1,
        beq_eq_false_iff_ne.2 hother.2] at hname

/-- What a family of names, one for each kind, finds among the servers of the listeners. -/
theorem serverRoutes_flatten (serverName : String → String) (routes : String → List CaddyRoute) (kind : String)
    {listeners : List Listener} {blocks : List (List (String × CaddyServer))}
    {rest : List (String × CaddyServer)}
    (hblocks : List.Forall₂ (fun l servers => serverRoutes servers (serverName l.kind) = routes l.kind ∧
      ∀ kind, (servers.lookup (serverName kind)).isSome → kind = l.kind) listeners blocks)
    (hrest : serverRoutes rest (serverName kind) = []) :
    serverRoutes (blocks.flatten ++ rest) (serverName kind) =
      if kind ∈ listeners.map Listener.kind then routes kind else [] := by
  induction hblocks with
  | nil => simpa using hrest
  | @cons l servers listeners blocks hl _ ih =>
      rw [List.flatten_cons, List.append_assoc, serverRoutes_append, ih]
      by_cases hkind : kind = l.kind
      · subst hkind
        cases hfound : servers.lookup (serverName l.kind) with
        | some s => simpa using hl.1
        | none =>
            -- The server was left out, because it has no routes.
            have hempty : routes l.kind = [] := by
              rw [← hl.1, serverRoutes, hfound]
              rfl
            simp [hempty]
      · have hnone : ¬ (servers.lookup (serverName kind)).isSome := fun h => hkind (hl.2 kind h)
        rw [if_neg hnone]
        simp [hkind]

end Servers

section Configuration

variable {quote : String → String} {env : X509} {desired : DesiredState} {certificates : List Certificate}

/-- The configuration is written, and its servers have the routes of their listeners. -/
theorem exists_caddyConfig (adminListen : String) (hlisteners : ∀ l ∈ desired.listeners, l.knownKind)
    (hroutes : ∀ r ∈ desired.routes, r.listenerKind ∈ desired.listeners.map Listener.kind)
    (hcertificates : validateCertificatesForState quote env desired certificates = .ok ()) :
    ∃ config, caddyConfig quote env desired certificates adminListen = .ok config ∧ ∀ kind,
      serverRoutes config.servers (httpServer kind) = httpRoutes [] (routesOfKind desired kind) ∧
      serverRoutes config.servers (httpsServer kind) = (routesOfKind desired kind).flatMap httpsRoutes := by
  have hservers : ∀ l ∈ desired.listeners, ∃ servers, listenerServers quote desired l = .ok servers := by
    intro l hl
    obtain ⟨ports, hports⟩ := Option.isSome_iff_exists.1 (caddyListenerPorts_isSome (hlisteners l hl))
    exact ⟨_, fetch_bind_eq_ok_iff.2 ⟨ports, hports, rfl⟩⟩
  obtain ⟨blocks, hblocks⟩ : ∃ blocks, List.Forall₂ (fun l servers => listenerServers quote desired l = .ok servers)
      desired.listeners blocks := by
    choose! f hf using hservers
    exact ⟨desired.listeners.map f, List.forall₂_map_right_iff.2 (List.forall₂_same.2 hf)⟩
  refine ⟨_, bind_eq_ok_iff.2 ⟨(), hcertificates, bind_eq_ok_iff.2 ⟨blocks, mapM_eq_ok_iff.2 hblocks, rfl⟩⟩, ?_⟩
  intro kind
  have hempty : kind ∉ desired.listeners.map Listener.kind → routesOfKind desired kind = [] := by
    intro hkind
    refine List.filter_eq_nil_iff.2 fun r hr heq => hkind ?_
    rw [← beq_iff_eq.1 heq]
    exact hroutes r hr
  have hlast := getLast?_httpServer kind
  have hlast' := getLast?_httpsServer kind
  constructor
  · have hfound := serverRoutes_flatten httpServer (fun kind => (listenerRoutes desired kind).http) kind
      (hblocks.imp fun l servers hl => ?_)
      (serverRoutes_local desired (by simp [hlast]))
    · rw [hfound, listenerRoutes_http]
      split
      · rfl
      · rw [hempty ‹_›, httpRoutes]
    · obtain ⟨hhttp, -, hnames⟩ := lookup_listenerServers hl
      refine ⟨hhttp, fun kind hkind => ?_⟩
      rcases hnames _ hkind with h | h
      · exact httpServer_injective h
      · exact absurd h (httpServer_ne_httpsServer _ _)
  · have hfound := serverRoutes_flatten httpsServer (fun kind => (listenerRoutes desired kind).https) kind
      (hblocks.imp fun l servers hl => ?_)
      (serverRoutes_local desired (by simp [hlast']))
    · rw [hfound, listenerRoutes_https]
      split
      · rfl
      · rw [hempty ‹_›, List.flatMap_nil]
    · obtain ⟨-, hhttps, hnames⟩ := lookup_listenerServers hl
      refine ⟨hhttps, fun kind hkind => ?_⟩
      rcases hnames _ hkind with h | h
      · exact absurd h.symm (httpServer_ne_httpsServer _ _)
      · exact httpsServer_injective h

end Configuration

/-! ## Requests and routes -/

section Requests

variable {parseIP : String → Option Bool} {sorter : Sorter} {state : DesiredState} {kind : String}
  {request : HTTPRequest} {tls : Bool} {r r' : Route}

/-- The listener, the hostname and the path tell the routes of a valid state apart. -/
theorem eq_of_match (hvalid : state.Valid parseIP) (hr : r ∈ state.routes) (hr' : r' ∈ state.routes)
    (hkind : r.listenerKind = r'.listenerKind) (hhost : r.hostname = r'.hostname) (hpath : r.path = r'.path) :
    r = r' := by
  refine Table.eq_of_key hvalid.matchKeys hr hr' ?_
  rw [Route.matchKey, Route.matchKey, hkind, hhost, hpath]

theorem Chosen.isRoute (h : Chosen state tls kind request r) : ∃ path, IsRoute state tls kind request.host path r ∧
    (path = "" ∨ path = request.path) := by
  rcases h with h | ⟨-, h⟩
  · exact ⟨_, h, Or.inr rfl⟩
  · exact ⟨_, h, Or.inl rfl⟩

theorem Chosen.hits (h : Chosen state tls kind request r) : hits request r = true := by
  obtain ⟨path, hr, hpath⟩ := h.isRoute
  simpa [Agent.hits, hr.hostname, hr.path] using hpath

/-- A route that accepts the request is the chosen one, or the chosen one is sorted before it. -/
theorem Chosen.eq_or_key_lt (hvalid : state.Valid parseIP) (h : Chosen state tls kind request r)
    (hr' : r' ∈ state.routes) (hkind : r'.listenerKind = kind) (htls : r'.tlsEnabled = tls)
    (hhits : Agent.hits request r' = true) : r' = r ∨ r.key < r'.key := by
  simp only [Agent.hits, Bool.and_eq_true, Bool.or_eq_true, beq_iff_eq] at hhits
  rcases h with h | ⟨hnone, h⟩
  · rcases hhits.2 with hpath | hpath
    · by_cases hempty : r.path = ""
      · exact Or.inl (eq_of_match hvalid hr' h.mem (hkind.trans h.kind.symm) (hhits.1.trans h.hostname.symm)
          (hpath.trans hempty.symm))
      · exact Or.inr (key_lt_of_path (h.kind.trans hkind.symm) (h.hostname.trans hhits.1.symm) hempty
          (Or.inl hpath))
    · exact Or.inl (eq_of_match hvalid hr' h.mem (hkind.trans h.kind.symm) (hhits.1.trans h.hostname.symm)
        (hpath.trans h.path.symm))
  · rcases hhits.2 with hpath | hpath
    · exact Or.inl (eq_of_match hvalid hr' h.mem (hkind.trans h.kind.symm) (hhits.1.trans h.hostname.symm)
        (hpath.trans h.path.symm))
    · exact absurd ⟨hr', htls, hkind, hhits.1, hpath⟩ (hnone r')

/-- A request that a route accepts has a chosen route. -/
theorem exists_chosen (hr : r ∈ state.routes) (hkind : r.listenerKind = kind) (htls : r.tlsEnabled = tls)
    (hhits : Agent.hits request r = true) : ∃ r', Chosen state tls kind request r' := by
  simp only [Agent.hits, Bool.and_eq_true, Bool.or_eq_true, beq_iff_eq] at hhits
  by_cases hpath : ∃ r', IsRoute state tls kind request.host request.path r'
  · obtain ⟨r', hr'⟩ := hpath
    exact ⟨r', Or.inl hr'⟩
  · have hempty : r.path = "" := by
      refine hhits.2.resolve_right fun heq => hpath ⟨r, hr, htls, hkind, hhits.1, heq⟩
    exact ⟨r, Or.inr ⟨fun r' hr' => hpath ⟨r', hr'⟩, hr, htls, hkind, hhits.1, hempty⟩⟩

end Requests

/-! ## Which routes are realised -/

section Answers

variable {parseIP : String → Option Bool} {sorter : Sorter} {state : DesiredState} {config : CaddyConfig}
  {kind : String} {request : HTTPRequest} {r : Route}

/-- The servers of the configuration have the routes of the sorted state. -/
def Serves (sorter : Sorter) (state : DesiredState) (config : CaddyConfig) : Prop :=
  ∀ kind, serverRoutes config.servers (httpServer kind) =
      httpRoutes [] (routesOfKind (state.sorted sorter) kind) ∧
    serverRoutes config.servers (httpsServer kind) =
      (routesOfKind (state.sorted sorter) kind).flatMap httpsRoutes

theorem httpHits_sortUpstreams (request : HTTPRequest) (r : Route) :
    httpHits request (r.sortUpstreams sorter) = httpHits request r := rfl

theorem https_answer (hserves : Serves sorter state config) (hexact : request.Exact) :
    config.answer (httpsServer kind) request = (((routesOfKind (state.sorted sorter) kind).find?
      (tlsHits request)).map proxy).toList := by
  rw [CaddyConfig.answer, (hserves kind).2, handlers_https hexact]

theorem http_answer (hserves : Serves sorter state config) :
    config.answer (httpServer kind) request = (((routesOfKind (state.sorted sorter) kind).find?
      (httpHits request)).map httpHandler).toList := by
  rw [CaddyConfig.answer, (hserves kind).1, handlers_http List.not_mem_nil]

theorem https_proxied (hserves : Serves sorter state config) (hvalid : state.Valid parseIP)
    (hexact : request.Exact) (h : Chosen state true kind request r) :
    Proxied r (config.answer (httpsServer kind) request) := by
  obtain ⟨path, hr, -⟩ := h.isRoute
  have hmem : r.sortUpstreams sorter ∈ routesOfKind (state.sorted sorter) kind :=
    mem_routesOfKind_sorted.2 ⟨r, hr.mem, hr.kind, rfl⟩
  have hhits : tlsHits request (r.sortUpstreams sorter) = true := Bool.and_eq_true_iff.2 ⟨hr.tls, h.hits⟩
  have hfirst := FirstMatch.find?_eq_some_of_pairwise (pairwise_routesOfKind state kind) hmem hhits ?_
  · rw [https_answer hserves hexact, hfirst]
    exact proxied_sortUpstreams r
  · intro b hb hpb
    obtain ⟨b₀, hb₀, hkind, rfl⟩ := mem_routesOfKind_sorted.1 hb
    obtain ⟨htls, hhits⟩ := Bool.and_eq_true_iff.1 hpb
    rcases h.eq_or_key_lt hvalid hb₀ hkind htls hhits with rfl | hlt
    · exact Or.inl rfl
    · exact Or.inr (not_le_of_gt hlt)

theorem https_none (hserves : Serves sorter state config) (hexact : request.Exact)
    (h : ∀ r, ¬ Chosen state true kind request r) : config.answer (httpsServer kind) request = [] := by
  rw [https_answer hserves hexact, List.find?_eq_none.2]
  · rfl
  · intro b hb hpb
    obtain ⟨b₀, hb₀, hkind, rfl⟩ := mem_routesOfKind_sorted.1 hb
    obtain ⟨htls, hhits⟩ := Bool.and_eq_true_iff.1 hpb
    obtain ⟨r, hr⟩ := exists_chosen hb₀ hkind htls hhits
    exact h r hr

/-- Where the plain routes of a hostname are sorted first, no redirect stands before them. -/
theorem http_proxied (hserves : Serves sorter state config) (hvalid : state.Valid parseIP)
    (hfirst : PlainFirst state) (h : Chosen state false kind request r) :
    Proxied r (config.answer (httpServer kind) request) := by
  obtain ⟨path, hr, -⟩ := h.isRoute
  have hmem : r.sortUpstreams sorter ∈ routesOfKind (state.sorted sorter) kind :=
    mem_routesOfKind_sorted.2 ⟨r, hr.mem, hr.kind, rfl⟩
  have hhits : httpHits request (r.sortUpstreams sorter) = true := Bool.or_eq_true_iff.2 (Or.inr h.hits)
  have hfind := FirstMatch.find?_eq_some_of_pairwise (pairwise_routesOfKind state kind) hmem hhits ?_
  · have hplain : httpHandler (r.sortUpstreams sorter) = proxy (r.sortUpstreams sorter) :=
      if_neg (Bool.eq_false_iff.1 hr.tls)
    rw [http_answer hserves, hfind, Option.map_some, hplain]
    exact proxied_sortUpstreams r
  · intro b hb hpb
    obtain ⟨b₀, hb₀, hkind, rfl⟩ := mem_routesOfKind_sorted.1 hb
    cases htls : b₀.tlsEnabled with
    | false =>
        have hhits : hits request b₀ = true := hits_of_httpHits hpb htls
        rcases h.eq_or_key_lt hvalid hb₀ hkind htls hhits with rfl | hlt
        · exact Or.inl rfl
        · exact Or.inr (not_le_of_gt hlt)
    | true =>
        have hhost : b₀.hostname = r.hostname := (hostname_of_httpHits hpb).trans hr.hostname.symm
        obtain ⟨hpath, hlt⟩ := hfirst b₀ hb₀ r hr.mem htls hr.tls (hkind.trans hr.kind.symm) hhost
        exact Or.inr (not_le_of_gt (key_lt_of_path (hr.kind.trans hkind.symm) hhost.symm hpath hlt))

/-- A route that the HTTP server takes without a chosen route is a TLS route. -/
theorem tls_of_not_chosen {b : Route} (h : ∀ r, ¬ Chosen state false kind request r) (hb : b ∈ state.routes)
    (hkind : b.listenerKind = kind) (hpb : httpHits request b = true) :
    IsRoute state true kind request.host b.path b := by
  have htls : b.tlsEnabled = true := by
    by_contra hplain
    rw [Bool.not_eq_true] at hplain
    obtain ⟨r, hr⟩ := exists_chosen hb hkind hplain (hits_of_httpHits hpb hplain)
    exact h r hr
  exact ⟨hb, htls, hkind, hostname_of_httpHits hpb, rfl⟩

theorem http_redirect {t : Route} {path : String} (hserves : Serves sorter state config)
    (h : ∀ r, ¬ Chosen state false kind request r) (ht : IsRoute state true kind request.host path t) :
    Redirected (config.answer (httpServer kind) request) := by
  rw [http_answer hserves]
  cases hfind : (routesOfKind (state.sorted sorter) kind).find? (httpHits request) with
  | none =>
      have hmem : t.sortUpstreams sorter ∈ routesOfKind (state.sorted sorter) kind :=
        mem_routesOfKind_sorted.2 ⟨t, ht.mem, ht.kind, rfl⟩
      have hnot := List.find?_eq_none.1 hfind _ hmem
      rw [httpHits_sortUpstreams] at hnot
      exact absurd (httpHits_of_tls ht.tls ht.hostname) hnot
  | some b =>
      obtain ⟨b₀, hb₀, hkind, rfl⟩ := mem_routesOfKind_sorted.1 (List.mem_of_find?_eq_some hfind)
      have hhits := List.find?_some hfind
      rw [httpHits_sortUpstreams] at hhits
      have htls := (tls_of_not_chosen h hb₀ hkind hhits).tls
      have hhandler : httpHandler (b₀.sortUpstreams sorter) = redirectHandler := if_pos htls
      rw [Option.map_some, hhandler, Option.toList_some]
      rfl

theorem http_none (hserves : Serves sorter state config) (h : ∀ r, ¬ Chosen state false kind request r)
    (htls : ∀ t path, ¬ IsRoute state true kind request.host path t) :
    config.answer (httpServer kind) request = [] := by
  rw [http_answer hserves, List.find?_eq_none.2]
  · rfl
  · intro b hb hpb
    obtain ⟨b₀, hb₀, hkind, rfl⟩ := mem_routesOfKind_sorted.1 hb
    exact htls b₀ b₀.path (tls_of_not_chosen h hb₀ hkind hpb)

/-- A path that no route has. -/
theorem exists_fresh_path (routes : List Route) :
    ∃ path : String, hasPrefix path "/" = true ∧ '*' ∉ path.toList ∧ ∀ r ∈ routes, r.path ≠ path := by
  let n := (routes.map fun r => r.path.toList.length).sum
  refine ⟨String.ofList ('/' :: List.replicate n 'a'), ?_, ?_, ?_⟩
  · simp [hasPrefix]
  · simp
  · intro r hr heq
    have hle : r.path.toList.length ≤ n := List.le_sum_of_mem (List.mem_map_of_mem hr)
    rw [heq] at hle
    simp at hle

/-- Every route has a request that it is the chosen one for. -/
theorem exists_request (hvalid : state.Valid parseIP) (hstar : ∀ r ∈ state.routes, '*' ∉ r.path.toList)
    (hr : r ∈ state.routes) : ∃ request : HTTPRequest, request.Exact ∧ hasPrefix request.path "/" = true ∧
      Chosen state r.tlsEnabled r.listenerKind request r := by
  have hcontent : hasPrefix "" "application/grpc" = false := by decide +kernel
  by_cases hpath : r.path = ""
  · obtain ⟨path, hslash, hplain, hfresh⟩ := exists_fresh_path state.routes
    refine ⟨⟨r.hostname, path, ""⟩, ⟨hplain, hcontent⟩, hslash, Or.inr ⟨?_, hr, rfl, rfl, rfl, hpath⟩⟩
    exact fun r' hr' => hfresh r' hr'.mem hr'.path
  · refine ⟨⟨r.hostname, r.path, ""⟩, ⟨hstar r hr, hcontent⟩, ?_, Or.inl ⟨hr, rfl, rfl, rfl, rfl⟩⟩
    have haccepted := hvalid.routes r hr
    simp only [Route.accepted, validPath, Bool.and_eq_true, Bool.or_eq_true, beq_iff_eq, hpath, false_or] at haccepted
    exact haccepted.1.1.1.1.2.1.1

theorem realised_of_plainFirst (hserves : Serves sorter state config) (hvalid : state.Valid parseIP)
    (hstar : ∀ r ∈ state.routes, '*' ∉ r.path.toList) (hfirst : PlainFirst state) : Realised state config where
  https := fun _ _ _ hexact h => https_proxied hserves hvalid hexact h
  httpsNone := fun _ _ hexact h => https_none hserves hexact h
  http := fun _ _ _ _ h => http_proxied hserves hvalid hfirst h
  httpRedirect := fun _ _ _ _ _ h ht => http_redirect hserves h ht
  httpNone := fun _ _ _ h htls => http_none hserves h htls
  reachable := by
    intro r hr
    obtain ⟨request, hexact, hslash, hchosen⟩ := exists_request hvalid hstar hr
    refine ⟨request, hexact, hslash, ?_⟩
    rw [serverOf]
    cases htls : r.tlsEnabled with
    | true =>
        rw [htls] at hchosen
        exact https_proxied hserves hvalid hexact hchosen
    | false =>
        rw [htls] at hchosen
        exact http_proxied hserves hvalid hfirst hchosen

/-- A plain route that is sorted after a TLS route of its hostname is hidden by the redirect. -/
theorem plainFirst_of_realised (hserves : Serves sorter state config) (hvalid : state.Valid parseIP)
    (hstar : ∀ r ∈ state.routes, '*' ∉ r.path.toList) (h : Realised state config) : PlainFirst state := by
  intro t ht r hr htls hplain hkind hhost
  by_contra hnot
  have hne : t.path ≠ r.path := by
    intro hpath
    rw [eq_of_match hvalid ht hr hkind hhost hpath, hplain] at htls
    cases htls
  have hlt : t.key < r.key := by
    by_cases hempty : r.path = ""
    · exact key_lt_of_path hkind hhost (fun htpath => hne (htpath.trans hempty.symm)) (Or.inl hempty)
    · rw [not_and_or, not_or] at hnot
      have hafter := hnot.resolve_left fun h => h hempty
      exact key_lt_of_path hkind hhost hafter.1 (Or.inr (lt_of_le_of_ne (not_lt.1 hafter.2) hne))
  obtain ⟨request, hexact, -, hchosen⟩ := exists_request hvalid hstar hr
  rw [hplain] at hchosen
  obtain ⟨path, hroute, -⟩ := hchosen.isRoute
  obtain ⟨upstreams, dials, -, -, hproxied⟩ := h.http _ _ _ hexact hchosen
  rw [http_answer hserves] at hproxied
  have hmem : t.sortUpstreams sorter ∈ routesOfKind (state.sorted sorter) r.listenerKind :=
    mem_routesOfKind_sorted.2 ⟨t, ht, hkind, rfl⟩
  have hhits : httpHits request (t.sortUpstreams sorter) = true :=
    httpHits_of_tls htls (hhost.trans hroute.hostname)
  cases hfind : (routesOfKind (state.sorted sorter) r.listenerKind).find? (httpHits request) with
  | none => exact absurd hhits (List.find?_eq_none.1 hfind _ hmem)
  | some b =>
      obtain ⟨b₀, hb₀, hbkind, rfl⟩ := mem_routesOfKind_sorted.1 (List.mem_of_find?_eq_some hfind)
      have hbefore : b₀.key ≤ t.key := by
        rcases FirstMatch.rel_of_find? (pairwise_routesOfKind state _) hfind hmem hhits with heq | hle
        · exact le_of_eq (show (b₀.sortUpstreams sorter).key = (t.sortUpstreams sorter).key by rw [heq])
        · exact hle
      rw [hfind, Option.map_some, Option.toList_some] at hproxied
      cases hbtls : b₀.tlsEnabled with
      | true =>
          have hhandler : httpHandler (b₀.sortUpstreams sorter) = redirectHandler := if_pos hbtls
          rw [hhandler] at hproxied
          cases hproxied
      | false =>
          have hpb := List.find?_some hfind
          rw [httpHits_sortUpstreams] at hpb
          have hbhits := hits_of_httpHits hpb hbtls
          rcases hchosen.eq_or_key_lt hvalid hb₀ hbkind hbtls hbhits with rfl | hlt'
          · exact absurd hlt (not_lt_of_ge hbefore)
          · exact absurd hlt (not_lt_of_ge (hlt'.le.trans hbefore))

end Answers

/-- The configuration realises an accepted state exactly when the plain routes of each hostname are sorted before
its TLS routes. -/
theorem routes_realised_iff_plain_first {quote : String → String} {parseIP : String → Option Bool} {env : X509}
    {sorter : Sorter} {state : DesiredState} {certificates : List Certificate} (adminListen : String)
    (hvalid : state.validate quote parseIP = .ok ())
    (hcertificates : validateCertificatesForState quote env state certificates = .ok ())
    (hstar : ∀ r ∈ state.routes, '*' ∉ r.path.toList) :
    ∃ config, caddyConfig quote env (state.sorted sorter) certificates adminListen = .ok config ∧
      caddyConfiguration quote env (state.sorted sorter) certificates adminListen = .ok config.json.encode ∧
      (Realised state config ↔ PlainFirst state) := by
  have hstate := DesiredState.validate_eq_ok_iff.1 hvalid
  have hsorted : (state.sorted sorter).Valid parseIP := state.reordered_sorted.valid hstate
  have hkinds : ∀ r ∈ (state.sorted sorter).routes,
      r.listenerKind ∈ (state.sorted sorter).listeners.map Listener.kind := by
    intro r hr
    have haccepted := hsorted.routes r hr
    simp only [Route.accepted, Bool.and_eq_true, List.contains_iff_mem] at haccepted
    exact haccepted.1.1.1.2
  obtain ⟨config, hconfig, hserves⟩ := exists_caddyConfig adminListen (fun l hl => (hsorted.listeners l hl).1)
    hkinds (state.reordered_sorted.validateCertificates hcertificates)
  refine ⟨config, hconfig, bind_eq_ok_iff.2 ⟨config, hconfig, rfl⟩, ?_, ?_⟩
  · exact plainFirst_of_realised hserves hstate hstar
  · exact realised_of_plainFirst hserves hstate hstar

/-! ## A plain route behind a redirect -/

namespace HiddenRoute

def parseIP (value : String) : Option Bool := if value = "10.0.0.1" then some true else none

/-- Public routes need no certificates. -/
def env : X509 where
  Parsed := Unit
  PrivateKey := Unit
  decode _ := none
  parseCertificate _ := none
  parsePKCS8PrivateKey _ := none
  isSigner _ := false
  dnsNames _ := []
  verifyHostname _ _ := false
  isCurrent _ := false
  publicKey _ := none
  signerPublicKey _ := none

def route (id path : String) (tls : Bool) : Route :=
  ⟨id, "www.example", path, "http", [⟨"backend", 8080⟩], tls, "public", false⟩

def gateway (routes : List Route) : DesiredState := ⟨1, [⟨"public", "10.0.0.1", 80, 443⟩], routes, none⟩

/-- The TLS route sorts before the plain one. -/
def hidden : DesiredState := gateway [route "secure" "/a" true, route "plain" "/b" false]

def served : DesiredState := gateway [route "plain" "/a" false, route "secure" "/b" true, route "site" "" true]

def config : CaddyConfig :=
  (caddyConfig id env (hidden.sorted insertionSorter) [] "unix//run/caddy.sock").toOption.getD ⟨"", [], []⟩

/-- An accepted plain route that no request reaches: its requests are redirected. -/
theorem plain_route_redirected :
    (hidden.validate id parseIP).isOk ∧ (validateCertificatesForState id env hidden []).isOk ∧
      caddyConfig id env (hidden.sorted insertionSorter) [] "unix//run/caddy.sock" = .ok config ∧
      Redirected (config.answer (httpServer "public") ⟨"www.example", "/b", ""⟩) ∧ ¬ Realised hidden config := by
  have hanswer : Redirected (config.answer (httpServer "public") ⟨"www.example", "/b", ""⟩) := by
    unfold Redirected
    decide +kernel
  refine ⟨by decide +kernel, by decide +kernel, by decide +kernel, hanswer, fun h => ?_⟩
  have hexact : HTTPRequest.Exact ⟨"www.example", "/b", ""⟩ := ⟨by decide +kernel, by decide +kernel⟩
  have hchosen : Chosen hidden false "public" ⟨"www.example", "/b", ""⟩ (route "plain" "/b" false) :=
    Or.inl ⟨by decide +kernel, rfl, rfl, rfl, rfl⟩
  obtain ⟨upstreams, dials, -, -, hproxied⟩ := h.http _ _ _ hexact hchosen
  cases hanswer.symm.trans hproxied

theorem plain_routes_first_realised :
    ∃ config, caddyConfig id env (served.sorted insertionSorter) [] "unix//run/caddy.sock" = .ok config ∧
      Realised served config := by
  have hvalid : served.validate id parseIP = .ok () := by decide +kernel
  obtain ⟨config, hconfig, -, hrealised⟩ := @routes_realised_iff_plain_first id parseIP env insertionSorter served []
    "unix//run/caddy.sock" hvalid rfl (by decide +kernel)
  refine ⟨config, hconfig, hrealised.2 ?_⟩
  unfold PlainFirst
  decide +kernel

end HiddenRoute

end Agent
end Vastora
