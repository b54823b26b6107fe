import Vastora.Agent.HaproxyReading

/-!
# HaproxyMeaning — where a HAProxy text means its listener

An accepted listener is written as a text that is read back as the same listener exactly where no address has
white space around it: an address is checked trimmed and written untrimmed, and what is read back is a word.
-/

namespace Vastora
namespace Agent

open Library Library.Guard Library.Netip Library.Pattern Library.Text Gateway

/-! ## Lines by their first words -/

section FirstWords

/-- Only lines with a first word are read. -/
structure Keyed {β : Type} (read? : List String → Option β) (key : String) : Prop where
  blank : read? [] = none
  other : ∀ word rest, word ≠ key → read? (word :: rest) = none

theorem keyed_useBackend? : Keyed useBackend? "use_backend" := by
  refine ⟨rfl, fun word rest hword => ?_⟩
  unfold useBackend?
  split
  · next heq => exact absurd (List.cons.inj heq).1 hword
  · rfl

theorem keyed_defaultBackend? : Keyed defaultBackend? "default_backend" := by
  refine ⟨rfl, fun word rest hword => ?_⟩
  unfold defaultBackend?
  split
  · next heq => exact absurd (List.cons.inj heq).1 hword
  · rfl

theorem keyed_server? : Keyed server? "server" := by
  refine ⟨rfl, fun word rest hword => ?_⟩
  unfold server?
  split
  · next heq => exact absurd (List.cons.inj heq).1 hword
  · rfl

theorem Keyed.filterMap_eq_nil {β : Type} {read? : List String → Option β} {key : String} (h : Keyed read? key)
    {text : List (List String)} (hheads : ∀ line ∈ text, line.head? ≠ some key) : text.filterMap read? = [] := by
  rw [List.filterMap_eq_nil_iff]
  intro line hline
  cases line with
  | nil => exact h.blank
  | cons word rest => exact h.other word rest fun heq => hheads _ hline (heq ▸ rfl)

end FirstWords

/-! ## The text by its words -/

section Words

def preambleWords : List (List String) := preambleLines.map lineWords

def frontendHeader : List String := ["frontend", "vastora-shared-https"]

def frontendWords (desired : SharedHTTPS) : List (List String) :=
  [["bind", socket "0.0.0.0" desired.port], ["tcp-request", "inspect-delay", "5s"],
    ["tcp-request", "content", "accept", "if", "\x7b", "req_ssl_hello_type", "1", "\x7d"]]

def rawName (index : Nat) : String := "vastora-raw-" ++ toString index

def useWords (p : Layer4Route × Nat) : List String :=
  ["use_backend", rawName p.2, "if", "\x7b", "req.ssl_sni", "-i", p.1.hostname, "\x7d"]

def defaultName (desired : SharedHTTPS) : String :=
  if desired.rejectUnmatched then "vastora-reject" else "vastora-caddy"

def defaultServer (desired : SharedHTTPS) : HaproxyServer :=
  if desired.rejectUnmatched then ⟨"reject", "127.0.0.1:1", []⟩
  else ⟨"caddy", socket desired.caddyAddress desired.caddyPort, "check" :: resolveOptions⟩

def rawServer (route : Layer4Route) (q : Upstream × Nat) : HaproxyServer :=
  ⟨"upstream-" ++ toString q.2, socket q.1.address q.1.port,
    serverOptions (route.proxyProtocol == "v2") (parseNetIP q.1.address).isNone⟩

def serverWords (s : HaproxyServer) : List String := "server" :: s.name :: s.address :: s.options

/-- A blank line and a backend. -/
def backendWords (name : String) (settings : List (List String)) (servers : List HaproxyServer) :
    List (List String) :=
  [] :: ["backend", name] :: (settings ++ servers.map serverWords)

def rawSettings : List (List String) := [["timeout", "tunnel", "1h"], ["timeout", "server-fin", "30s"]]

def rawWords (p : Layer4Route × Nat) : List (List String) :=
  backendWords (rawName p.2) rawSettings (p.1.upstreams.zipIdx.map (rawServer p.1))

variable {desired : SharedHTTPS}

theorem words_frontendLines (h : Worded desired) :
    (frontendLines desired).map lineWords = frontendHeader :: frontendWords desired := by
  have hheader : lineWords "frontend vastora-shared-https" = frontendHeader := by decide
  have hrest : ["  tcp-request inspect-delay 5s",
      "  tcp-request content accept if \x7b req_ssl_hello_type 1 \x7d"].map lineWords =
      [["tcp-request", "inspect-delay", "5s"],
        ["tcp-request", "content", "accept", "if", "\x7b", "req_ssl_hello_type", "1", "\x7d"]] := by decide
  rw [frontendLines, List.map_cons, List.map_cons, lineWords_bindLine h.frontend, hheader, hrest, frontendWords]

theorem words_defaultLines (h : Worded desired) : (defaultLines desired).map lineWords =
    ["default_backend", defaultName desired] :: backendWords (defaultName desired) [] [defaultServer desired] := by
  unfold defaultLines defaultName defaultServer
  cases hreject : desired.rejectUnmatched with
  | true =>
      rw [if_pos rfl, if_pos rfl, if_pos rfl]
      decide
  | false =>
      have hstart : ["  default_backend vastora-caddy", "", "backend vastora-caddy"].map lineWords =
          [["default_backend", "vastora-caddy"], [], ["backend", "vastora-caddy"]] := by decide
      rw [if_neg Bool.false_ne_true, if_neg Bool.false_ne_true, if_neg Bool.false_ne_true]
      change ["  default_backend vastora-caddy", "", "backend vastora-caddy"].map lineWords ++
        [lineWords (caddyLine (socket desired.caddyAddress desired.caddyPort))] = _
      rw [hstart, lineWords_caddyLine (h.caddy hreject)]
      rfl

theorem words_rawLines (h : Worded desired) {p : Layer4Route × Nat} (hp : p ∈ desired.routes.zipIdx) :
    (rawLines p).map lineWords = rawWords p := by
  have hblank : lineWords "" = [] := by decide
  have hsettings : ["  timeout tunnel 1h", "  timeout server-fin 30s"].map lineWords = rawSettings := by
    decide
  have hservers : (p.1.upstreams.zipIdx.flatMap (serverLines p.1)).map lineWords =
      (p.1.upstreams.zipIdx.map (rawServer p.1)).map serverWords := by
    rw [List.map_flatMap, List.map_map, List.map_eq_flatMap]
    refine List.flatMap_congr fun q hq => ?_
    have hvalue := h.upstreams _ (mem_of_mem_zipIdx hp) _ (mem_of_mem_zipIdx hq)
    rw [serverLines, List.map_singleton, lineWords_upstreamLine _ _ (isToken_index q.2) hvalue]
    rfl
  rw [rawLines, List.map_append, hservers, List.map_cons, List.map_cons, hblank,
    lineWords_rawBackendLine (isToken_index p.2), hsettings]
  rfl

theorem words_haproxyText (h : Worded desired) : words (haproxyText desired) =
    preambleWords ++ (frontendHeader :: (frontendWords desired ++ desired.routes.zipIdx.map useWords ++
      [["default_backend", defaultName desired]])) ++
      backendWords (defaultName desired) [] [defaultServer desired] ++ desired.routes.zipIdx.flatMap rawWords := by
  have huse : (desired.routes.zipIdx.flatMap useBackendLines).map lineWords = desired.routes.zipIdx.map useWords := by
    rw [List.map_flatMap, List.map_eq_flatMap]
    refine List.flatMap_congr fun p hp => ?_
    rw [useBackendLines, List.map_singleton,
      lineWords_useBackendLine (isToken_index p.2) (h.hostnames _ (mem_of_mem_zipIdx hp))]
    rfl
  have hraw : (desired.routes.zipIdx.flatMap rawLines).map lineWords = desired.routes.zipIdx.flatMap rawWords := by
    rw [List.map_flatMap]
    exact List.flatMap_congr fun p hp => words_rawLines h hp
  rw [words_of_worded h, haproxyLines]
  simp only [List.map_append, words_frontendLines h, huse, words_defaultLines h, hraw, preambleWords,
    List.append_assoc, List.cons_append, List.nil_append]

end Words

/-! ## What is read back -/

section Reading

variable {desired : SharedHTTPS}

theorem head_rawWords {p : Layer4Route × Nat} {line : List String} (hline : line ∈ rawWords p) :
    line.head? ∈ [none, some "backend", some "timeout", some "server"] := by
  simp only [rawWords, backendWords, rawSettings, List.mem_cons, List.mem_append, List.mem_map,
    List.not_mem_nil, or_false] at hline
  rcases hline with rfl | rfl | (rfl | rfl) | ⟨s, -, rfl⟩ <;> simp [serverWords]

/-- Each route has one line. -/
theorem useBackends_haproxyText (h : Worded desired) :
    useBackends (haproxyText desired) = desired.routes.zipIdx.map fun p => (rawName p.2, p.1.hostname) := by
  have hpreamble : preambleWords.filterMap useBackend? = [] := by decide
  have huse : (desired.routes.zipIdx.map useWords).filterMap useBackend? =
      desired.routes.zipIdx.map fun p => (rawName p.2, p.1.hostname) := by
    rw [List.filterMap_map, ← List.filterMap_eq_map]
    rfl
  have hraw : (desired.routes.zipIdx.flatMap rawWords).filterMap useBackend? = [] := by
    refine keyed_useBackend?.filterMap_eq_nil fun line hline hhead => ?_
    obtain ⟨p, -, hp⟩ := List.mem_flatMap.1 hline
    exact absurd (hhead ▸ head_rawWords hp) (by decide)
  rw [useBackends, words_haproxyText h]
  simp only [List.filterMap_append, List.filterMap_cons, hpreamble, huse, hraw]
  simp [frontendHeader, frontendWords, backendWords, serverWords, useBackend?]

theorem defaultBackends_haproxyText (h : Worded desired) :
    defaultBackends (haproxyText desired) = [defaultName desired] := by
  have hpreamble : preambleWords.filterMap defaultBackend? = [] := by decide
  have huse : (desired.routes.zipIdx.map useWords).filterMap defaultBackend? = [] := by
    refine keyed_defaultBackend?.filterMap_eq_nil fun line hline hhead => ?_
    obtain ⟨p, -, rfl⟩ := List.mem_map.1 hline
    exact absurd hhead (by simp [useWords])
  have hraw : (desired.routes.zipIdx.flatMap rawWords).filterMap defaultBackend? = [] := by
    refine keyed_defaultBackend?.filterMap_eq_nil fun line hline hhead => ?_
    obtain ⟨p, -, hp⟩ := List.mem_flatMap.1 hline
    exact absurd (hhead ▸ head_rawWords hp) (by decide)
  rw [defaultBackends, words_haproxyText h]
  simp only [List.filterMap_append, List.filterMap_cons, hpreamble, huse, hraw]
  simp [frontendHeader, frontendWords, backendWords, serverWords, defaultBackend?]

theorem isSection_serverWords (s : HaproxyServer) : isSection (serverWords s) = false := rfl

theorem serverBlocks_backendWords {name : String} {settings : List (List String)} {servers : List HaproxyServer}
    (hsettings : ∀ line ∈ settings, isSection line = false ∧ server? line = none) :
    serverBlocks (backendWords name settings servers) = [(["backend", name], servers)] := by
  have hbody : ∀ line ∈ settings ++ servers.map serverWords, isSection line = false := by
    intro line hline
    rcases List.mem_append.1 hline with hline | hline
    · exact (hsettings line hline).1
    · obtain ⟨s, -, rfl⟩ := List.mem_map.1 hline
      exact isSection_serverWords s
  have hservers : (settings ++ servers.map serverWords).filterMap server? = servers := by
    have hread : server? ∘ serverWords = some := rfl
    rw [List.filterMap_append, List.filterMap_eq_nil_iff.2 fun line hline => (hsettings line hline).2,
      List.filterMap_map, hread, List.filterMap_some, List.nil_append]
  rw [backendWords, serverBlocks_cons_of_not_section rfl, serverBlocks_block rfl hbody, hservers]

theorem opens_flatMap_rawWords (routes : List (Layer4Route × Nat)) : opens (routes.flatMap rawWords) = true := by
  cases routes with
  | nil => rfl
  | cons p ps => rfl

def rawBlock (p : Layer4Route × Nat) : List String × List HaproxyServer :=
  (["backend", rawName p.2], p.1.upstreams.zipIdx.map (rawServer p.1))

theorem serverBlocks_rawWords (routes : List (Layer4Route × Nat)) :
    serverBlocks (routes.flatMap rawWords) = routes.map rawBlock := by
  induction routes with
  | nil => rfl
  | cons p ps ih =>
      rw [List.flatMap_cons, serverBlocks_append (opens_flatMap_rawWords ps), ih, rawWords,
        serverBlocks_backendWords (by decide)]
      rfl

/-- The sections that the generator wrote, and no other. -/
theorem serverBlocks_haproxyText (h : Worded desired) : serverBlocks (words (haproxyText desired)) =
    serverBlocks preambleWords ++ [(frontendHeader, [])] ++
      [(["backend", defaultName desired], [defaultServer desired])] ++ desired.routes.zipIdx.map rawBlock := by
  have hheads : ∀ line ∈ frontendWords desired ++ desired.routes.zipIdx.map useWords ++
      [["default_backend", defaultName desired]],
      line.head? ∈ [some "bind", some "tcp-request", some "use_backend", some "default_backend"] := by
    intro line hline
    simp only [frontendWords, List.mem_append, List.mem_cons, List.mem_map, List.not_mem_nil, or_false] at hline
    rcases hline with ((rfl | rfl | rfl) | ⟨p, -, rfl⟩) | rfl <;> simp [useWords]
  have hbody : ∀ line ∈ frontendWords desired ++ desired.routes.zipIdx.map useWords ++
      [["default_backend", defaultName desired]], isSection line = false := by
    intro line hline
    have hhead := hheads line hline
    cases line with
    | nil => rfl
    | cons word rest =>
        simp only [List.head?_cons, List.mem_cons, Option.some.injEq, List.not_mem_nil, or_false] at hhead
        rcases hhead with rfl | rfl | rfl | rfl <;> rfl
  have hservers : (frontendWords desired ++ desired.routes.zipIdx.map useWords ++
      [["default_backend", defaultName desired]]).filterMap server? = [] :=
    keyed_server?.filterMap_eq_nil fun line hline hhead => absurd (hhead ▸ hheads line hline) (by decide)
  rw [words_haproxyText h, serverBlocks_append (opens_flatMap_rawWords _), serverBlocks_append rfl,
    serverBlocks_append rfl, serverBlocks_block rfl hbody, hservers, serverBlocks_rawWords,
    serverBlocks_backendWords (by simp)]

theorem rawName_injective {i j : Nat} (h : rawName i = rawName j) : i = j := by
  have hchars : "vastora-raw-".toList ++ (Nat.repr i).toList = "vastora-raw-".toList ++ (Nat.repr j).toList := by
    rw [← String.toList_append, ← String.toList_append]
    exact congrArg String.toList h
  exact Nat.repr_inj.1 (String.toList_inj.1 (List.append_cancel_left hchars))

theorem rawName_ne_defaultName (index : Nat) : rawName index ≠ defaultName desired := by
  intro h
  have hchar : (rawName index).toList[10]? = some 'w' := by
    rw [rawName, String.toList_append]
    rfl
  rw [h, defaultName] at hchar
  split at hchar <;> exact absurd hchar (by decide)

theorem backends_haproxyText (h : Worded desired) (name : String) : backends (haproxyText desired) name =
    (if name = defaultName desired then [[defaultServer desired]] else []) ++
      (desired.routes.zipIdx.filter fun p => rawName p.2 == name).map fun p => p.1.upstreams.zipIdx.map (rawServer p.1) := by
  have hpreamble : (serverBlocks preambleWords).filter (·.1 == ["backend", name]) = [] := by
    have hblocks : serverBlocks preambleWords =
        [(["global"], []), (["defaults"], []), (["resolvers", "vastora-docker"], [])] := by decide
    rw [hblocks]
    simp
  have hraw : (desired.routes.zipIdx.map rawBlock).filter (·.1 == ["backend", name]) =
      (desired.routes.zipIdx.filter fun p => rawName p.2 == name).map rawBlock := by
    rw [List.filter_map]
    congr 2
    funext p
    simp [rawBlock]
  rw [backends_eq, serverBlocks_haproxyText h]
  simp only [List.filter_append, hpreamble, hraw, List.nil_append, List.map_append, List.map_map]
  have hdefault : ([(["backend", defaultName desired], [defaultServer desired])].filter
      fun x => x.1 == ["backend", name]).map Prod.snd =
      if name = defaultName desired then [[defaultServer desired]] else [] := by
    by_cases hname : name = defaultName desired
    · rw [if_pos hname, hname, List.filter_cons_of_pos (by simp)]
      rfl
    · rw [if_neg hname, List.filter_cons_of_neg (by simpa using Ne.symm hname)]
      rfl
  have hfrontend : [(frontendHeader, ([] : List HaproxyServer))].filter (fun x => x.1 == ["backend", name]) = [] :=
    List.filter_cons_of_neg (by simp [frontendHeader])
  rw [hdefault, hfrontend]
  rfl

theorem backends_rawName (h : Worded desired) {r : Layer4Route} {index : Nat}
    (hp : (r, index) ∈ desired.routes.zipIdx) :
    backends (haproxyText desired) (rawName index) = [r.upstreams.zipIdx.map (rawServer r)] := by
  have hkeys : (desired.routes.zipIdx.map fun q => rawName q.2).Nodup := by
    have hindices : (desired.routes.zipIdx.map Prod.snd).Nodup := by
      rw [List.zipIdx_map_snd]
      exact List.nodup_range'
    rw [← Function.comp_def rawName Prod.snd, ← List.map_map]
    exact hindices.map fun i j hij => rawName_injective hij
  rw [backends_haproxyText h, if_neg (rawName_ne_defaultName index), List.nil_append, Table.filter_key hkeys hp,
    List.map_singleton]

theorem backends_defaultName (h : Worded desired) :
    backends (haproxyText desired) (defaultName desired) = [[defaultServer desired]] := by
  have hnone : (desired.routes.zipIdx.filter fun p => rawName p.2 == defaultName desired) = [] :=
    List.filter_eq_nil_iff.2 fun p _ => by simpa using rawName_ne_defaultName p.2
  rw [backends_haproxyText h, if_pos rfl, hnone, List.map_nil, List.append_nil]

end Reading

/-! ## Accepted listeners -/

section Accepted

variable {quote : String → String} {sorter : Sorter} {desired s s' : SharedHTTPS} {text : String}

theorem haproxyConfiguration_eq_ok_iff : haproxyConfiguration quote sorter desired = .ok text ↔
    (haproxyState desired).Valid parseNetIP ∧ haproxyText (desired.sorted sorter) = text := by
  rw [haproxyConfiguration, bind_eq_ok_iff]
  constructor
  · rintro ⟨u, hvalid, htext⟩
    exact ⟨DesiredState.validate_eq_ok_iff.1 hvalid, pure_eq_ok_iff.1 htext⟩
  · rintro ⟨hvalid, htext⟩
    exact ⟨(), DesiredState.validate_eq_ok_iff.2 hvalid, pure_eq_ok_iff.2 htext⟩

theorem trimSpace_eq_self {value : String} (h : ∀ c ∈ value.toList, isSpace c = false) : trimSpace value = value := by
  have hleft : value.toList.dropWhile isSpace = value.toList :=
    List.dropWhile_eq_self_iff.2 fun hne => by simpa using h _ (List.getElem_mem _)
  have hright : value.toList.rdropWhile isSpace = value.toList :=
    List.rdropWhile_eq_self_iff.2 fun hne => by simpa using h _ (List.getLast_mem hne)
  rw [trimSpace, hleft, hright, String.ofList_toList]

theorem isToken_socket {address : String} {port : Int} (haddress : IsToken address) (hport : validPort port = true) :
    IsToken (socket address port) := by
  have hnum : IsToken (toString port) := by
    simp only [validPort, Bool.and_eq_true, decide_eq_true_eq] at hport
    exact isToken_toString (by omega)
  have hcolon : IsToken ":" := (isToken_iff _).1 (by decide)
  have hopen : IsToken "[" := (isToken_iff _).1 (by decide)
  have hclose : IsToken "]:" := (isToken_iff _).1 (by decide)
  unfold socket joinHostPort
  split
  · exact isToken_append (isToken_append (isToken_append hopen haddress) hclose) hnum
  · exact isToken_append (isToken_append haddress hcolon) hnum

/-- An address that is written within a word has no white space. -/
theorem trimmed_of_socket {address : String} {port : Int} (h : IsToken (socket address port)) :
    trimSpace address = address := by
  refine trimSpace_eq_self fun c hc => h.2 c ?_
  unfold socket joinHostPort
  split <;> simp [String.toList_append, hc]

theorem worded_of_trimmed (hvalid : (haproxyState desired).Valid parseNetIP) (htrim : Trimmed desired) :
    Worded desired := by
  have hshared := hvalid.sharedHTTPS desired rfl
  have haccepted := hshared.accepted
  simp only [SharedHTTPS.accepted, Bool.and_eq_true, Bool.or_eq_true] at haccepted
  refine ⟨isToken_socket ((isToken_iff _).1 (by decide)) haccepted.1.1.2, fun r hr => ?_, fun r hr u hu => ?_,
    fun hreject => ?_⟩
  · have hr := hshared.routes r hr
    simp only [Layer4Route.accepted, Bool.and_eq_true] at hr
    exact isToken_of_hostname hr.1.1.1.1.2
  · have hroute := hshared.routes r hr
    simp only [Layer4Route.accepted, Bool.and_eq_true, List.all_eq_true] at hroute
    have hvalid := hroute.2 u hu
    simp only [Upstream.valid, Bool.and_eq_true] at hvalid
    exact isToken_socket (isToken_address hvalid.1 (htrim.upstreams r hr u hu)) hvalid.2
  · have hcaddy := haccepted.1.2.resolve_left (by simp [hreject])
    exact isToken_socket (isToken_address hcaddy.1 (htrim.caddy hreject)) hcaddy.2

/-- The words of a listener do not depend on its order. -/
theorem Worded.reordered (h : Worded s) (hs : s.Reordered s') : Worded s' := by
  have hsame := hs.same
  refine ⟨?_, ?_, ?_, ?_⟩
  · rw [hsame]
    exact h.frontend
  · refine hs.routes.forall_mem (fun a b hab ha => ?_) h.hostnames
    rwa [hab.same]
  · exact hs.routes.forall_mem (fun a b hab ha u hu => ha u (hab.upstreams.mem_iff.2 hu)) h.upstreams
  · rw [hsame]
    exact h.caddy

theorem isToken_of_mem_backends {name : String} {servers : List HaproxyServer} {server : HaproxyServer}
    (hservers : servers ∈ backends text name) (hserver : server ∈ servers) : IsToken server.address := by
  have hword : ∀ line ∈ words text, ∀ word ∈ line, IsToken word := by
    intro line hline word hmem
    obtain ⟨cs, -, rfl⟩ := List.mem_map.1 hline
    obtain ⟨piece, hpiece, rfl⟩ := List.mem_map.1 hmem
    exact isToken_of_mem_fields hpiece
  have hsection : ∀ w : List (List String), ∀ b ∈ sections w, ∀ line ∈ b.2, line ∈ w := by
    intro w
    induction w with
    | nil => simp [sections]
    | cons line rest ih =>
        intro b hb l hl
        rw [sections] at hb
        split at hb
        · rcases List.mem_cons.1 hb with rfl | hb
          · exact List.mem_cons_of_mem _ ((List.takeWhile_sublist _).subset hl)
          · exact List.mem_cons_of_mem _ (ih b hb l hl)
        · exact List.mem_cons_of_mem _ (ih b hb l hl)
  obtain ⟨block, hblock, rfl⟩ := List.mem_map.1 hservers
  obtain ⟨line, hline, hread⟩ := List.mem_filterMap.1 hserver
  refine hword line (hsection _ block (List.mem_filter.1 hblock).1 line hline) _ ?_
  unfold server? at hread
  split at hread
  · obtain rfl := Option.some.inj hread
    simp
  · cases hread

/-- What is read back is a word, so it can only be a trimmed address. -/
theorem Means.trimmed (h : Means desired text) : Trimmed desired := by
  refine ⟨fun r hr u hu => ?_, fun hreject => ?_⟩
  · obtain ⟨name, -, servers, hservers, haddresses, -⟩ := h.backends r hr
    have hmem := haddresses.mem_iff.2 (List.mem_map_of_mem (f := fun u => socket u.address u.port) hu)
    obtain ⟨server, hserver, haddress⟩ := List.mem_map.1 hmem
    refine @trimmed_of_socket u.address u.port ?_
    rw [← haddress]
    exact isToken_of_mem_backends (hservers ▸ List.mem_singleton_self servers) hserver
  · obtain ⟨-, server, hservers, haddress⟩ := h.caddy hreject
    refine @trimmed_of_socket desired.caddyAddress desired.caddyPort ?_
    rw [← haddress]
    exact isToken_of_mem_backends (hservers ▸ List.mem_singleton_self _) (List.mem_singleton_self server)

theorem mem_serverOptions {sendProxy resolve : Bool} :
    "send-proxy-v2" ∈ serverOptions sendProxy resolve ↔ sendProxy = true := by
  cases sendProxy <;> cases resolve <;> decide

theorem map_zipIdx {α β : Type} (f : α → β) (l : List α) : (l.zipIdx.map fun p => f p.1) = l.map f := by
  rw [← Function.comp_def f Prod.fst, ← List.map_map, List.zipIdx_map_fst]

theorem Worded.templates (h : Worded s) :
    ∀ line ∈ lines (haproxyText s).toList, IsTemplate (String.ofList line) := by
  rw [lines_of_worded h]
  intro line hline
  obtain ⟨text, htext, rfl⟩ := List.mem_map.1 hline
  rw [String.ofList_toList]
  exact isTemplate_of_mem h htext

theorem Worded.hostnames_eq (h : Worded s) :
    (useBackends (haproxyText s)).map Prod.snd = s.routes.map Layer4Route.hostname := by
  rw [useBackends_haproxyText h, List.map_map]
  exact map_zipIdx Layer4Route.hostname s.routes

theorem Worded.distinct (h : Worded s) (hhostnames : ∀ r ∈ s.routes, hostnamePattern r.hostname = true)
    (hnodup : (s.routes.map Layer4Route.hostname).Nodup) :
    ((useBackends (haproxyText s)).map fun use => use.2.toList.map toLower).Nodup := by
  have hmap : ((useBackends (haproxyText s)).map fun use => use.2.toList.map toLower) =
      (s.routes.map Layer4Route.hostname).map String.toList := by
    rw [useBackends_haproxyText h, List.map_map, List.map_map]
    refine (map_zipIdx (fun r : Layer4Route => r.hostname.toList.map toLower) s.routes).trans ?_
    exact List.map_congr_left fun r hr => toLower_hostname (hhostnames r hr)
  rw [hmap]
  exact hnodup.map fun a b hab => String.toList_inj.1 hab

theorem mem_useBackends (h : Worded s) {r : Layer4Route} {index : Nat} (hp : (r, index) ∈ s.routes.zipIdx) :
    (rawName index, r.hostname) ∈ useBackends (haproxyText s) := by
  rw [useBackends_haproxyText h]
  exact List.mem_map.2 ⟨(r, index), hp, rfl⟩

theorem map_address_rawServer (r : Layer4Route) : (r.upstreams.zipIdx.map (rawServer r)).map HaproxyServer.address =
    r.upstreams.map fun u => socket u.address u.port := by
  rw [List.map_map]
  exact map_zipIdx (fun u : Upstream => socket u.address u.port) _

theorem send_proxy_iff {r : Layer4Route} {server : HaproxyServer}
    (h : server ∈ r.upstreams.zipIdx.map (rawServer r)) :
    "send-proxy-v2" ∈ server.options ↔ r.proxyProtocol = "v2" := by
  obtain ⟨q, -, hq⟩ := List.mem_map.1 h
  have hoptions : server.options =
      serverOptions (r.proxyProtocol == "v2") (parseNetIP q.1.address).isNone := by rw [← hq, rawServer]
  rw [hoptions]
  exact mem_serverOptions.trans beq_iff_eq

theorem Worded.reject (h : Worded s) (hreject : s.rejectUnmatched = true) :
    defaultBackends (haproxyText s) = ["vastora-reject"] ∧
      backends (haproxyText s) "vastora-reject" = [[⟨"reject", "127.0.0.1:1", []⟩]] := by
  have hname : defaultName s = "vastora-reject" := if_pos hreject
  have hserver : defaultServer s = ⟨"reject", "127.0.0.1:1", []⟩ := if_pos hreject
  rw [← hname, ← hserver]
  exact ⟨defaultBackends_haproxyText h, backends_defaultName h⟩

theorem Worded.default (h : Worded s) (hreject : s.rejectUnmatched = false) :
    defaultBackends (haproxyText s) = ["vastora-caddy"] ∧ ∃ server,
      backends (haproxyText s) "vastora-caddy" = [[server]] ∧
        server.address = socket s.caddyAddress s.caddyPort := by
  have hname : defaultName s = "vastora-caddy" := if_neg (by simp [hreject])
  have hserver : (defaultServer s).address = socket s.caddyAddress s.caddyPort := by
    rw [defaultServer, if_neg (by simp [hreject])]
  rw [← hname]
  exact ⟨defaultBackends_haproxyText h, _, backends_defaultName h, hserver⟩

/-- A worded text of a reordered listener means the listener. -/
theorem Worded.means (h : Worded s') (hs : s.Reordered s')
    (hhostnames : ∀ r ∈ s'.routes, hostnamePattern r.hostname = true)
    (hnodup : (s'.routes.map Layer4Route.hostname).Nodup) : Means s (haproxyText s') where
  templates := h.templates
  hostnames := by
    rw [h.hostnames_eq]
    exact (hs.routes.map_perm fun a b hab => by rw [hab.same]).symm
  distinct := h.distinct hhostnames hnodup
  backends := by
    intro r hr
    obtain ⟨r', hr', hreordered⟩ := hs.routes.exists_mem hr
    obtain ⟨index, hindex⟩ := List.mem_iff_getElem?.1 hr'
    have hp : (r', index) ∈ s'.routes.zipIdx := List.mem_zipIdx_iff_getElem?.2 hindex
    have hhostname : r'.hostname = r.hostname := by rw [hreordered.same]
    have hprotocol : r'.proxyProtocol = r.proxyProtocol := by rw [hreordered.same]
    refine ⟨rawName index, hhostname ▸ mem_useBackends h hp, _, backends_rawName h hp, ?_, ?_⟩
    · rw [map_address_rawServer]
      exact (hreordered.upstreams.map _).symm
    · intro server hserver
      rw [← hprotocol]
      exact send_proxy_iff hserver
  reject := fun hreject => h.reject (by rw [hs.same]; exact hreject)
  caddy := by
    intro hreject
    have hdefault := h.default (by rw [hs.same]; exact hreject)
    rw [hs.same] at hdefault ⊢
    exact hdefault

/-- An accepted listener is written as what it means exactly where its addresses are trimmed. -/
theorem haproxy_means_iff_trimmed (h : haproxyConfiguration quote sorter desired = .ok text) :
    Means desired text ↔ Trimmed desired := by
  obtain ⟨hvalid, rfl⟩ := haproxyConfiguration_eq_ok_iff.1 h
  refine ⟨Means.trimmed, fun htrim => ?_⟩
  have hsorted : desired.Reordered (desired.sorted sorter) := desired.reordered_sorted
  have hvalid' := ((haproxyState desired).reordered_sorted.valid hvalid).sharedHTTPS (desired.sorted sorter) rfl
  refine ((worded_of_trimmed hvalid htrim).reordered hsorted).means hsorted (fun r hr => ?_) hvalid'.hostnames
  have hroute := hvalid'.routes r hr
  simp only [Layer4Route.accepted, Bool.and_eq_true] at hroute
  exact hroute.1.1.1.1.2

end Accepted

/-! ## An address with a newline -/

namespace UntrimmedUpstream

def route (address : String) : Layer4Route := ⟨"site", "www.example", "node", false, "", [⟨address, 8443⟩]⟩

def listener (address : String) : SharedHTTPS := ⟨"10.0.0.1", 443, "caddy", 12443, false, [route address]⟩

def text (address : String) : String := haproxyText (listener address)

theorem sorted_listener (address : String) : (listener address).sorted insertionSorter = listener address := rfl

theorem mem_haproxyLines : upstreamLine "0" "backend\n:8443" false true ∈ haproxyLines (listener "backend\n") := by
  have hserver : serverLines (route "backend\n") (⟨"backend\n", 8443⟩, 0) =
      [upstreamLine "0" "backend\n:8443" false true] := by decide
  refine List.mem_append_right _ (List.mem_flatMap.2 ⟨(route "backend\n", 0), List.mem_singleton_self _, ?_⟩)
  refine List.mem_append_right _ (List.mem_flatMap.2 ⟨(⟨"backend\n", 8443⟩, 0), List.mem_singleton_self _, ?_⟩)
  rw [hserver]
  exact List.mem_singleton_self _

/-- The newline is accepted and ends the line of the server, so the port and the options are a line of their own. -/
theorem server_line_cut : haproxyConfiguration id insertionSorter (listener "backend\n") = .ok (text "backend\n") ∧
    "  server upstream-0 backend".toList ∈ lines (text "backend\n").toList ∧
    ":8443 check resolvers vastora-docker init-addr libc,none".toList ∈ lines (text "backend\n").toList ∧
    ¬ Means (listener "backend\n") (text "backend\n") := by
  have hvalid : (haproxyState (listener "backend\n")).validate id parseNetIP = .ok () := by decide
  have hsplit : (upstreamLine "0" "backend\n:8443" false true).toList.splitOn '\n' =
      ["  server upstream-0 backend".toList,
        ":8443 check resolvers vastora-docker init-addr libc,none".toList] := by decide
  have hlines : ∀ line ∈ ["  server upstream-0 backend".toList,
      ":8443 check resolvers vastora-docker init-addr libc,none".toList],
      line ∈ lines (text "backend\n").toList := by
    intro line hline
    rw [text, lines_haproxyText, List.mem_flatMap]
    exact ⟨_, mem_haproxyLines, hsplit ▸ hline⟩
  refine ⟨?_, hlines _ List.mem_cons_self, hlines _ (List.mem_cons_of_mem _ List.mem_cons_self), fun h => ?_⟩
  · rw [haproxyConfiguration_eq_ok_iff, sorted_listener]
    exact ⟨DesiredState.validate_eq_ok_iff.1 hvalid, rfl⟩
  · have htrim := h.trimmed.upstreams (route "backend\n") (List.mem_singleton_self _) ⟨"backend\n", 8443⟩
      (List.mem_singleton_self _)
    exact absurd htrim (by decide)

/-- Two routes and the upstreams of each, none in the order in which they are written. -/
def unsorted : SharedHTTPS := ⟨"10.0.0.1", 443, "caddy", 12443, false,
  [⟨"site-2", "b.example", "node", true, "", [⟨"backend-2", 8443⟩, ⟨"backend-1", 8443⟩]⟩,
    ⟨"site-1", "a.example", "node", false, "", [⟨"backend-1", 9443⟩, ⟨"backend-1", 8443⟩]⟩]⟩

theorem trimmed_upstream_meant : (unsorted.sorted insertionSorter).routes.map Layer4Route.id = ["site-1", "site-2"] ∧
    haproxyConfiguration id insertionSorter unsorted = .ok (haproxyText (unsorted.sorted insertionSorter)) ∧
    Means unsorted (haproxyText (unsorted.sorted insertionSorter)) := by
  have hvalid : (haproxyState unsorted).validate id parseNetIP = .ok () := by decide
  have hok : haproxyConfiguration id insertionSorter unsorted = .ok (haproxyText (unsorted.sorted insertionSorter)) :=
    haproxyConfiguration_eq_ok_iff.2 ⟨DesiredState.validate_eq_ok_iff.1 hvalid, rfl⟩
  exact ⟨by decide, hok, (haproxy_means_iff_trimmed hok).2 ⟨by decide, fun _ => by decide⟩⟩

end UntrimmedUpstream

end Agent
end Vastora
