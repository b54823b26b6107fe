import Vastora.Agent.HaproxyConfig

/-!
# HaproxyLines — what a HAProxy configuration can say

The addresses of upstreams are checked in lower case and without white space around them, but they are written as
they are.  Where none of them has white space around it, every slot of the text holds one word, and the text says
what the listener says; otherwise the text has a line that is none of the templates.
-/

namespace Vastora
namespace Agent

open Library Library.Guard Library.Netip Library.Pattern Library.Text Gateway

/-! ## Templates -/

def bindLine (value : String) : String := "  bind " ++ value

def useBackendLine (index hostname : String) : String :=
  "  use_backend vastora-raw-" ++ index ++ " if \x7b req.ssl_sni -i " ++ hostname ++ " \x7d"

def rawBackendLine (index : String) : String := "backend vastora-raw-" ++ index

def caddyLine (value : String) : String :=
  "  server caddy " ++ value ++ " check resolvers vastora-docker init-addr libc,none"

def upstreamLine (index value : String) (sendProxy resolve : Bool) : String :=
  "  server upstream-" ++ index ++ " " ++ value ++ " check" ++ (if sendProxy then " send-proxy-v2" else "") ++
    (if resolve then " resolvers vastora-docker init-addr libc,none" else "")

def preambleLines : List String :=
  ["global", "  log stdout format raw local0", "  maxconn 4096", "", "defaults", "  log global", "  mode tcp",
    "  option tcplog", "  timeout connect 10s", "  timeout client 1m", "  timeout client-fin 30s",
    "  timeout server 1m", "", "resolvers vastora-docker", "  nameserver docker 127.0.0.11:53",
    "  resolve_retries 3", "  timeout resolve 1s", "  timeout retry 1s", ""]

/-- The lines without slots. -/
def fixedLines : List String :=
  preambleLines ++ ["frontend vastora-shared-https", "  tcp-request inspect-delay 5s",
    "  tcp-request content accept if \x7b req_ssl_hello_type 1 \x7d", "  default_backend vastora-reject",
    "backend vastora-reject", "  server reject 127.0.0.1:1", "  default_backend vastora-caddy",
    "backend vastora-caddy", "  timeout tunnel 1h", "  timeout server-fin 30s"]

/-- A template of the generator with one word in each slot. -/
inductive IsTemplate : String → Prop where
  | fixed {line : String} : line ∈ fixedLines → IsTemplate line
  | bind {value : String} : IsToken value → IsTemplate (bindLine value)
  | useBackend {index hostname : String} : IsToken index → IsToken hostname →
      IsTemplate (useBackendLine index hostname)
  | rawBackend {index : String} : IsToken index → IsTemplate (rawBackendLine index)
  | caddy {value : String} : IsToken value → IsTemplate (caddyLine value)
  | upstream {index value : String} (sendProxy resolve : Bool) : IsToken index → IsToken value →
      IsTemplate (upstreamLine index value sendProxy resolve)

/-! ## What is promised -/

/-- The address and port of an upstream, as they are written. -/
def socket (address : String) (port : Int) : String := joinHostPort address (toString port)

/-- The text says exactly what the listener says. -/
structure Means (desired : SharedHTTPS) (text : String) : Prop where
  templates : ∀ line ∈ lines text.toList, IsTemplate (String.ofList line)
  hostnames : ((useBackends text).map Prod.snd).Perm (desired.routes.map Layer4Route.hostname)
  distinct : ((useBackends text).map fun use => use.2.toList.map toLower).Nodup
  backends : ∀ r ∈ desired.routes, ∃ name, (name, r.hostname) ∈ useBackends text ∧
    ∃ servers, backends text name = [servers] ∧
      (servers.map HaproxyServer.address).Perm (r.upstreams.map fun u => socket u.address u.port) ∧
      ∀ s ∈ servers, "send-proxy-v2" ∈ s.options ↔ r.proxyProtocol = "v2"
  reject : desired.rejectUnmatched = true → defaultBackends text = ["vastora-reject"] ∧
    Agent.backends text "vastora-reject" = [[⟨"reject", "127.0.0.1:1", []⟩]]
  caddy : desired.rejectUnmatched = false → defaultBackends text = ["vastora-caddy"] ∧
    ∃ s, Agent.backends text "vastora-caddy" = [[s]] ∧ s.address = socket desired.caddyAddress desired.caddyPort

/-- No address that is written has white space around it. -/
structure Trimmed (desired : SharedHTTPS) : Prop where
  upstreams : ∀ r ∈ desired.routes, ∀ u ∈ r.upstreams, trimSpace u.address = u.address
  caddy : desired.rejectUnmatched = false → trimSpace desired.caddyAddress = desired.caddyAddress

/-! ## Words of an accepted listener -/

section Words

theorem toLower_eq_self {c : Char} (hupper : ¬ ('A' ≤ c ∧ c ≤ 'Z')) (hkelvin : c ≠ '\u212a') (hdotted : c ≠ '\u0130') :
    toLower c = c := by
  have hlower : c.toLower = c := by
    unfold Char.toLower
    exact dif_neg fun hrange => hupper hrange
  rw [toLower, if_neg hkelvin, if_neg hdotted, hlower]

theorem toLower_of_isSpace {c : Char} (h : isSpace c = true) : toLower c = c := by
  refine toLower_eq_self ?_ ?_ ?_
  · rintro ⟨hlow, hhigh⟩
    have hA : '!' ≤ 'A' := by decide
    have hZ : 'Z' ≤ '~' := by decide
    rw [not_space_of_graphic (hA.trans hlow) (hhigh.trans hZ)] at h
    cases h
  · rintro rfl
    exact absurd h (by decide)
  · rintro rfl
    exact absurd h (by decide)

theorem isToken_of_lower {s : String} (h : IsToken (String.ofList (s.toList.map toLower))) : IsToken s := by
  constructor
  · rintro rfl
    exact h.1 rfl
  · intro c hc
    rw [← Bool.not_eq_true]
    intro hspace
    have hlower := h.2 (toLower c) (by simpa using ⟨c, hc, rfl⟩)
    rw [toLower_of_isSpace hspace, hspace] at hlower
    cases hlower

theorem not_space_of_label {cs : List Char} (h : validLabel cs = true) : ∀ c ∈ cs, isSpace c = false := by
  simp only [validLabel, Bool.and_eq_true, List.all_eq_true] at h
  intro c hc
  have hchar := h.1.1.2 c hc
  simp only [isLowerAlnum, Bool.or_eq_true, Bool.and_eq_true, decide_eq_true_eq, beq_iff_eq] at hchar
  rcases hchar with (hletter | hdigit) | rfl
  · exact not_space_of_graphic (le_trans (by decide) hletter.1) (le_trans hletter.2 (by decide))
  · exact not_space_of_graphic (le_trans (by decide) hdigit.1) (le_trans hdigit.2 (by decide))
  · decide

theorem isToken_of_containerHostname {s : String} (h : containerHostnamePattern s = true) : IsToken s := by
  rw [containerHostnamePattern, List.all_eq_true] at h
  have hsplit : ['.'].intercalate (s.toList.splitOn '.') = s.toList := List.intercalate_splitOn '.'
  constructor
  · rintro rfl
    exact absurd (h [] (by decide)) (by decide)
  · rw [← hsplit]
    exact forall_mem_intercalate (by decide) fun label hlabel => not_space_of_label (h label hlabel)

theorem isToken_of_hostname {s : String} (h : hostnamePattern s = true) : IsToken s :=
  isToken_of_containerHostname (Bool.and_eq_true_iff.1 h).2

/-- What is checked of an address is a word. -/
theorem isToken_trimSpace {address : String} (h : validUpstreamAddress parseNetIP address = true) :
    IsToken (trimSpace address) := by
  refine isToken_of_lower ?_
  unfold validUpstreamAddress at h
  dsimp only at h
  split at h
  · next hparse => exact isToken_of_parseNetIP hparse
  · exact isToken_of_containerHostname h

theorem isToken_address {address : String} (h : validUpstreamAddress parseNetIP address = true)
    (htrim : trimSpace address = address) : IsToken address := htrim ▸ isToken_trimSpace h

theorem toLower_of_label {c : Char} (h : (isLowerAlnum c || c == '-') = true) : toLower c = c := by
  have hrange : 'a' ≤ c ∧ c ≤ 'z' ∨ c < 'A' := by
    simp only [isLowerAlnum, Bool.or_eq_true, Bool.and_eq_true, decide_eq_true_eq, beq_iff_eq] at h
    rcases h with (hletter | hdigit) | rfl
    · exact Or.inl hletter
    · exact Or.inr (lt_of_le_of_lt hdigit.2 (by decide))
    · exact Or.inr (by decide)
  have hbound : c ≤ 'z' := hrange.elim And.right fun hlt => hlt.le.trans (by decide)
  refine toLower_eq_self ?_ ?_ ?_
  · rintro ⟨hlow, hhigh⟩
    rcases hrange with hletter | hlt
    · exact absurd (hletter.1.trans hhigh) (by decide)
    · exact absurd hlow (not_le_of_gt hlt)
  · rintro rfl
    exact absurd hbound (by decide)
  · rintro rfl
    exact absurd hbound (by decide)

/-- The letters of a hostname are lower case already. -/
theorem toLower_hostname {s : String} (h : hostnamePattern s = true) : s.toList.map toLower = s.toList := by
  have hlabels := (Bool.and_eq_true_iff.1 h).2
  rw [List.all_eq_true] at hlabels
  have hsplit : ['.'].intercalate (s.toList.splitOn '.') = s.toList := List.intercalate_splitOn '.'
  have hchar : ∀ c ∈ s.toList, toLower c = c := by
    rw [← hsplit]
    refine forall_mem_intercalate (by decide) fun label hlabel c hc => ?_
    have hvalid := hlabels label hlabel
    simp only [validLabel, Bool.and_eq_true, List.all_eq_true] at hvalid
    exact toLower_of_label (hvalid.1.1.2 c hc)
  exact (List.map_congr_left hchar).trans (List.map_id _)

end Words

/-! ## The lines of the text -/

section Lines

def useBackendLines (p : Layer4Route × Nat) : List String := [useBackendLine (toString p.2) p.1.hostname]

def serverLines (route : Layer4Route) (p : Upstream × Nat) : List String :=
  [upstreamLine (toString p.2) (socket p.1.address p.1.port) (route.proxyProtocol == "v2")
    (parseNetIP p.1.address).isNone]

def rawLines (p : Layer4Route × Nat) : List String :=
  ["", rawBackendLine (toString p.2), "  timeout tunnel 1h", "  timeout server-fin 30s"] ++
    p.1.upstreams.zipIdx.flatMap (serverLines p.1)

def defaultLines (desired : SharedHTTPS) : List String :=
  if desired.rejectUnmatched then
    ["  default_backend vastora-reject", "", "backend vastora-reject", "  server reject 127.0.0.1:1"]
  else ["  default_backend vastora-caddy", "", "backend vastora-caddy",
    caddyLine (socket desired.caddyAddress desired.caddyPort)]

def frontendLines (desired : SharedHTTPS) : List String :=
  ["frontend vastora-shared-https", bindLine (socket "0.0.0.0" desired.port), "  tcp-request inspect-delay 5s",
    "  tcp-request content accept if \x7b req_ssl_hello_type 1 \x7d"]

def haproxyLines (desired : SharedHTTPS) : List String :=
  preambleLines ++ frontendLines desired ++ desired.routes.zipIdx.flatMap useBackendLines ++
    defaultLines desired ++ desired.routes.zipIdx.flatMap rawLines

/-- The text of ended lines. -/
def ended (lines : List String) : String := String.join (lines.map (· ++ "\n"))

theorem ended_nil : ended [] = "" := rfl

theorem ended_cons (line : String) (lines : List String) : ended (line :: lines) = line ++ "\n" ++ ended lines := by
  rw [ended, List.map_cons, String.join_cons, ended]

theorem ended_append (l l' : List String) : ended (l ++ l') = ended l ++ ended l' := by
  rw [ended, List.map_append, String.join_append, ended, ended]

/-- Texts that are written one after another, with their numbers. -/
theorem joinIdx_eq_ended {α : Type} {text : Nat → α → String} {linesOf : α × Nat → List String}
    (h : ∀ a i, text i a = ended (linesOf (a, i))) (items : List α) :
    String.join (items.mapIdx text) = ended (items.zipIdx.flatMap linesOf) := by
  rw [List.mapIdx_eq_zipIdx_map]
  induction items.zipIdx with
  | nil => rfl
  | cons p ps ih => rw [List.map_cons, String.join_cons, ih, List.flatMap_cons, ended_append, ← h]

theorem useBackendText_eq (route : Layer4Route) (index : Nat) :
    useBackendText index route = ended (useBackendLines (route, index)) := by
  have hend : " \x7d\n" = " \x7d" ++ "\n" := rfl
  unfold useBackendText useBackendLines useBackendLine
  simp only [hend, ended_cons, ended_nil, String.append_assoc, String.append_empty]

theorem serverText_eq (route : Layer4Route) (upstream : Upstream) (index : Nat) :
    serverText route index upstream = ended (serverLines route (upstream, index)) := by
  unfold serverText serverLines upstreamLine socket
  simp only [ended_cons, ended_nil, String.append_empty]

theorem backendText_eq (route : Layer4Route) (index : Nat) :
    backendText index route = ended (rawLines (route, index)) := by
  have hstart : "\nbackend vastora-raw-" = "\n" ++ "backend vastora-raw-" := rfl
  have hend : "\n  timeout tunnel 1h\n  timeout server-fin 30s\n" =
      "\n" ++ ("  timeout tunnel 1h" ++ ("\n" ++ ("  timeout server-fin 30s" ++ "\n"))) := rfl
  unfold backendText rawLines rawBackendLine
  simp only [joinIdx_eq_ended (serverText_eq route), hstart, hend, ended_append, ended_cons, ended_nil,
    String.append_assoc, String.empty_append]

theorem haproxyText_eq (desired : SharedHTTPS) : haproxyText desired = ended (haproxyLines desired) := by
  have hpreamble : haproxyPreamble = ended preambleLines := by decide +kernel
  have hfrontend : haproxyFrontend desired = ended (frontendLines desired) := by
    have hstart : "frontend vastora-shared-https\n  bind " = "frontend vastora-shared-https" ++ ("\n" ++ "  bind ") :=
      rfl
    have hend : "\n  tcp-request inspect-delay 5s\n  tcp-request content accept if \x7b req_ssl_hello_type 1 \x7d\n" =
        "\n" ++ ("  tcp-request inspect-delay 5s" ++ ("\n" ++
          ("  tcp-request content accept if \x7b req_ssl_hello_type 1 \x7d" ++ "\n"))) := rfl
    unfold haproxyFrontend frontendLines bindLine socket
    simp only [hstart, hend, ended_cons, ended_nil, String.append_assoc, String.append_empty]
  have hdefault : defaultBackendText desired = ended (defaultLines desired) := by
    unfold defaultBackendText defaultLines
    split
    · decide
    · have hstart : "  default_backend vastora-caddy\n\nbackend vastora-caddy\n" =
          "  default_backend vastora-caddy" ++ ("\n" ++ ("" ++ ("\n" ++ ("backend vastora-caddy" ++ "\n")))) := rfl
      have hend : " check resolvers vastora-docker init-addr libc,none\n" =
          " check resolvers vastora-docker init-addr libc,none" ++ "\n" := rfl
      unfold caddyLine socket
      simp only [hstart, hend, ended_cons, ended_nil, String.append_assoc, String.append_empty]
  simp only [haproxyText, haproxyLines, ended_append, hpreamble, hfrontend, hdefault,
    joinIdx_eq_ended useBackendText_eq, joinIdx_eq_ended backendText_eq]

/-- Each line is cut where it holds a newline. -/
theorem lines_haproxyText (desired : SharedHTTPS) :
    lines (haproxyText desired).toList = (haproxyLines desired).flatMap fun line => line.toList.splitOn '\n' := by
  have hended : (ended (haproxyLines desired)).toList =
      (haproxyLines desired).flatMap fun line => line.toList ++ ['\n'] := by
    rw [ended, String.toList_join, List.flatMap_map]
    refine congrArg (fun f => (haproxyLines desired).flatMap f) (funext fun line => ?_)
    exact String.toList_append
  rw [haproxyText_eq, hended, lines_flatMap]

end Lines

end Agent
end Vastora
