import Vastora.Agent.HaproxyLines
import Vastora.Library.Table

/-!
# HaproxyReading — the listener read back from its text

Every line of the text of a trimmed listener is a template, so the text is read line by line: its words are the
words of the templates, and its sections are the blocks that the generator wrote.
-/

namespace Vastora
namespace Agent

open Library Library.Guard Library.Netip Library.Pattern Library.Text Gateway

/-! ## Words of a template -/

section Words

def lineWords (line : String) : List String := (fields line.toList).map String.ofList

theorem lineWords_append (a b : String) : lineWords (a ++ " " ++ b) = lineWords a ++ lineWords b := by
  have hchars : (a ++ " " ++ b).toList = a.toList ++ ' ' :: b.toList := by
    rw [String.toList_append, String.toList_append, List.append_assoc]
    rfl
  rw [lineWords, hchars, fields_append_space, List.map_append, lineWords, lineWords]

theorem lineWords_token {s : String} (h : IsToken s) : lineWords s = [s] := by
  have hnil : s.toList ≠ [] := fun hnil => h.1 (String.toList_inj.1 hnil)
  rw [lineWords, fields, List.splitOnP_eq_singleton h.2, List.filter_cons_of_pos (by simpa using hnil),
    List.filter_nil, List.map_singleton, String.ofList_toList]

theorem isToken_append {a b : String} (ha : IsToken a) (hb : IsToken b) : IsToken (a ++ b) := by
  constructor
  · intro hempty
    have hnil : a.toList ++ b.toList = [] := by rw [← String.toList_append, hempty]; rfl
    exact ha.1 (String.toList_inj.1 (List.append_eq_nil_iff.1 hnil).1)
  · intro c hc
    rw [String.toList_append, List.mem_append] at hc
    exact hc.elim (ha.2 c) (hb.2 c)

theorem isToken_index (index : Nat) : IsToken (toString index) := isToken_toString (Int.natCast_nonneg index)

variable {index hostname value : String}

theorem lineWords_bindLine (hvalue : IsToken value) : lineWords (bindLine value) = ["bind", value] := by
  have hline : bindLine value = "  bind" ++ " " ++ value := rfl
  have hword : lineWords "  bind" = ["bind"] := by decide
  rw [hline, lineWords_append, hword, lineWords_token hvalue, List.singleton_append]

theorem lineWords_useBackendLine (hindex : IsToken index) (hhostname : IsToken hostname) :
    lineWords (useBackendLine index hostname) =
      ["use_backend", "vastora-raw-" ++ index, "if", "\x7b", "req.ssl_sni", "-i", hostname, "\x7d"] := by
  have hline : useBackendLine index hostname = "  use_backend" ++ " " ++ ("vastora-raw-" ++ index) ++ " " ++
      "if \x7b req.ssl_sni -i" ++ " " ++ hostname ++ " " ++ "\x7d" := by
    have hstart : "  use_backend vastora-raw-" = "  use_backend" ++ (" " ++ "vastora-raw-") := rfl
    have hmid : " if \x7b req.ssl_sni -i " = " " ++ ("if \x7b req.ssl_sni -i" ++ " ") := rfl
    have hend : " \x7d" = " " ++ "\x7d" := rfl
    unfold useBackendLine
    simp only [hstart, hmid, hend, String.append_assoc]
  have hstart : lineWords "  use_backend" = ["use_backend"] := by decide
  have hmid : lineWords "if \x7b req.ssl_sni -i" = ["if", "\x7b", "req.ssl_sni", "-i"] := by decide
  have hend : lineWords "\x7d" = ["\x7d"] := by decide
  have hbackend : IsToken ("vastora-raw-" ++ index) := isToken_append ((isToken_iff _).1 (by decide)) hindex
  simp only [hline, lineWords_append, hstart, hmid, hend, lineWords_token hbackend, lineWords_token hhostname,
    List.cons_append, List.nil_append]

theorem lineWords_rawBackendLine (hindex : IsToken index) :
    lineWords (rawBackendLine index) = ["backend", "vastora-raw-" ++ index] := by
  have hline : rawBackendLine index = "backend" ++ " " ++ ("vastora-raw-" ++ index) := by
    have hstart : "backend vastora-raw-" = "backend" ++ (" " ++ "vastora-raw-") := rfl
    unfold rawBackendLine
    simp only [hstart, String.append_assoc]
  have hstart : lineWords "backend" = ["backend"] := by decide
  have hbackend : IsToken ("vastora-raw-" ++ index) := isToken_append ((isToken_iff _).1 (by decide)) hindex
  rw [hline, lineWords_append, hstart, lineWords_token hbackend, List.singleton_append]

def resolveOptions : List String := ["resolvers", "vastora-docker", "init-addr", "libc,none"]

theorem lineWords_caddyLine (hvalue : IsToken value) :
    lineWords (caddyLine value) = "server" :: "caddy" :: value :: "check" :: resolveOptions := by
  have hline : caddyLine value = "  server caddy" ++ " " ++ value ++ " " ++
      "check resolvers vastora-docker init-addr libc,none" := by
    have hstart : "  server caddy " = "  server caddy" ++ " " := rfl
    have hend : " check resolvers vastora-docker init-addr libc,none" =
        " " ++ "check resolvers vastora-docker init-addr libc,none" := rfl
    unfold caddyLine
    simp only [hstart, hend, String.append_assoc]
  have hstart : lineWords "  server caddy" = ["server", "caddy"] := by decide
  have hend : lineWords "check resolvers vastora-docker init-addr libc,none" = "check" :: resolveOptions := by
    decide
  simp only [hline, lineWords_append, hstart, hend, lineWords_token hvalue, List.cons_append, List.nil_append]

def serverOptions (sendProxy resolve : Bool) : List String :=
  "check" :: ((if sendProxy then ["send-proxy-v2"] else []) ++ if resolve then resolveOptions else [])

theorem lineWords_upstreamLine (sendProxy resolve : Bool) (hindex : IsToken index) (hvalue : IsToken value) :
    lineWords (upstreamLine index value sendProxy resolve) =
      "server" :: ("upstream-" ++ index) :: value :: serverOptions sendProxy resolve := by
  -- The options are a text of their own, which is one of four.
  have hoptions : ∃ options, upstreamLine index value sendProxy resolve =
      "  server" ++ " " ++ ("upstream-" ++ index) ++ " " ++ value ++ " " ++ options ∧
      lineWords options = serverOptions sendProxy resolve := by
    have hstart : "  server upstream-" = "  server" ++ (" " ++ "upstream-") := rfl
    have hcheck : " check" = " " ++ "check" := rfl
    refine ⟨"check" ++ (if sendProxy then " send-proxy-v2" else "") ++
      (if resolve then " resolvers vastora-docker init-addr libc,none" else ""), ?_, ?_⟩
    · unfold upstreamLine
      simp only [hstart, hcheck, String.append_assoc]
    · cases sendProxy <;> cases resolve <;> decide
  obtain ⟨options, hline, hwords⟩ := hoptions
  have hstart : lineWords "  server" = ["server"] := by decide
  have hname : IsToken ("upstream-" ++ index) := isToken_append ((isToken_iff _).1 (by decide)) hindex
  simp only [hline, lineWords_append, hstart, hwords, lineWords_token hname, lineWords_token hvalue,
    List.cons_append, List.nil_append]

end Words

/-! ## Lines of a worded listener -/

/-- Every slot of the text holds one word. -/
structure Worded (desired : SharedHTTPS) : Prop where
  frontend : IsToken (socket "0.0.0.0" desired.port)
  hostnames : ∀ r ∈ desired.routes, IsToken r.hostname
  upstreams : ∀ r ∈ desired.routes, ∀ u ∈ r.upstreams, IsToken (socket u.address u.port)
  caddy : desired.rejectUnmatched = false → IsToken (socket desired.caddyAddress desired.caddyPort)

section Lines

variable {desired : SharedHTTPS}

theorem mem_of_mem_zipIdx {α : Type} {l : List α} {p : α × Nat} (h : p ∈ l.zipIdx) : p.1 ∈ l := by
  have hfst := List.mem_map_of_mem (f := Prod.fst) h
  rwa [List.zipIdx_map_fst] at hfst

theorem isTemplate_of_mem (h : Worded desired) {line : String} (hline : line ∈ haproxyLines desired) :
    IsTemplate line := by
  have hfixed : ∀ {l : String}, l ∈ fixedLines → IsTemplate l := .fixed
  simp only [haproxyLines, List.mem_append, List.mem_flatMap, or_assoc] at hline
  rcases hline with hpreamble | hfrontend | ⟨p, hp, huse⟩ | hdefault | ⟨p, hp, hraw⟩
  · exact .fixed (List.mem_append_left _ hpreamble)
  · simp only [frontendLines, List.mem_cons, List.not_mem_nil, or_false] at hfrontend
    rcases hfrontend with rfl | rfl | rfl | rfl
    · exact hfixed (by decide)
    · exact .bind h.frontend
    · exact hfixed (by decide)
    · exact hfixed (by decide)
  · rw [useBackendLines, List.mem_singleton] at huse
    exact huse ▸ .useBackend (isToken_index p.2) (h.hostnames _ (mem_of_mem_zipIdx hp))
  · unfold defaultLines at hdefault
    split at hdefault
    · simp only [List.mem_cons, List.not_mem_nil, or_false] at hdefault
      rcases hdefault with rfl | rfl | rfl | rfl <;> exact hfixed (by decide)
    · next hreject =>
      simp only [List.mem_cons, List.not_mem_nil, or_false] at hdefault
      rcases hdefault with rfl | rfl | rfl | rfl
      · exact hfixed (by decide)
      · exact hfixed (by decide)
      · exact hfixed (by decide)
      · exact .caddy (h.caddy (Bool.not_eq_true _ ▸ hreject))
  · simp only [rawLines, List.mem_append, List.mem_cons, List.not_mem_nil, or_false, List.mem_flatMap] at hraw
    rcases hraw with (rfl | rfl | rfl | rfl) | ⟨q, hq, hserver⟩
    · exact hfixed (by decide)
    · exact .rawBackend (isToken_index p.2)
    · exact hfixed (by decide)
    · exact hfixed (by decide)
    · rw [serverLines, List.mem_singleton] at hserver
      exact hserver ▸ .upstream _ _ (isToken_index q.2)
        (h.upstreams _ (mem_of_mem_zipIdx hp) _ (mem_of_mem_zipIdx hq))

theorem newline_notMem_of_isToken {s : String} (h : IsToken s) : '\n' ∉ s.toList := by
  intro hmem
  exact absurd (h.2 _ hmem) (by decide)

theorem newline_notMem_append {a b : String} (ha : '\n' ∉ a.toList) (hb : '\n' ∉ b.toList) :
    '\n' ∉ (a ++ b).toList := by
  rw [String.toList_append, List.mem_append]
  exact not_or.2 ⟨ha, hb⟩

/-- A template stays on one line. -/
theorem IsTemplate.newline_notMem {line : String} (h : IsTemplate line) : '\n' ∉ line.toList := by
  cases h with
  | fixed hmem =>
      have hall : (fixedLines.all fun line => !line.toList.contains '\n') = true := by decide
      simpa using List.all_eq_true.1 hall line hmem
  | bind hvalue => exact newline_notMem_append (by decide) (newline_notMem_of_isToken hvalue)
  | useBackend hindex hhostname =>
      refine newline_notMem_append (newline_notMem_append (newline_notMem_append (newline_notMem_append ?_
        (newline_notMem_of_isToken hindex)) ?_) (newline_notMem_of_isToken hhostname)) ?_ <;> decide
  | rawBackend hindex => exact newline_notMem_append (by decide) (newline_notMem_of_isToken hindex)
  | caddy hvalue =>
      exact newline_notMem_append (newline_notMem_append (by decide) (newline_notMem_of_isToken hvalue))
        (by decide)
  | upstream sendProxy resolve hindex hvalue =>
      refine newline_notMem_append (newline_notMem_append (newline_notMem_append (newline_notMem_append
        (newline_notMem_append (newline_notMem_append ?_ (newline_notMem_of_isToken hindex)) ?_) (newline_notMem_of_isToken hvalue)) ?_)
        ?_) ?_
      · decide
      · decide
      · decide
      · cases sendProxy <;> decide
      · cases resolve <;> decide

theorem lines_of_worded (h : Worded desired) :
    lines (haproxyText desired).toList = (haproxyLines desired).map String.toList := by
  rw [lines_haproxyText]
  have hline : ∀ line ∈ haproxyLines desired, line.toList.splitOn '\n' = [line.toList] := fun line hmem =>
    List.splitOn_eq_singleton (isTemplate_of_mem h hmem).newline_notMem
  rw [List.flatMap_congr hline, ← List.map_eq_flatMap]

theorem words_of_worded (h : Worded desired) :
    words (haproxyText desired) = (haproxyLines desired).map lineWords := by
  rw [words, lines_of_worded h, List.map_map]
  rfl

end Lines

/-! ## Sections with their servers -/

section Sections

/-- The sections of a text with their servers. -/
def serverBlocks (text : List (List String)) : List (List String × List HaproxyServer) :=
  (sections text).map fun s => (s.1, s.2.filterMap server?)

theorem backends_eq (text name : String) :
    backends text name = ((serverBlocks (words text)).filter (·.1 == ["backend", name])).map Prod.snd := by
  rw [backends, serverBlocks, List.filter_map, List.map_map]
  rfl

/-- After blank lines the text is at its end or at a section. -/
def opens : List (List String) → Bool
  | [] => true
  | [] :: rest => opens rest
  | line :: _ => isSection line

/-- Nothing before the next section is a server. -/
theorem servers_of_opens {text : List (List String)} (h : opens text = true) :
    (text.takeWhile fun l => !isSection l).filterMap server? = [] := by
  fun_induction opens text with
  | case1 => rfl
  | case2 rest ih => exact ih h
  | case3 line rest hne =>
      rw [List.takeWhile_cons_of_neg (by simp [h])]
      rfl

theorem servers_append {text text' : List (List String)} (h : opens text' = true) :
    ((text ++ text').takeWhile fun l => !isSection l).filterMap server? =
      (text.takeWhile fun l => !isSection l).filterMap server? := by
  induction text with
  | nil => exact servers_of_opens h
  | cons line text ih =>
      rw [List.cons_append]
      cases hline : isSection line with
      | true => rw [List.takeWhile_cons_of_neg (by simp [hline]), List.takeWhile_cons_of_neg (by simp [hline])]
      | false =>
          rw [List.takeWhile_cons_of_pos (by simp [hline]), List.takeWhile_cons_of_pos (by simp [hline]),
            List.filterMap_cons, List.filterMap_cons, ih]

theorem serverBlocks_cons_of_section {line : List String} (h : isSection line = true) (text : List (List String)) :
    serverBlocks (line :: text) =
      (line, (text.takeWhile fun l => !isSection l).filterMap server?) :: serverBlocks text := by
  rw [serverBlocks, sections, if_pos h, List.map_cons, serverBlocks]

theorem serverBlocks_cons_of_not_section {line : List String} (h : isSection line = false)
    (text : List (List String)) : serverBlocks (line :: text) = serverBlocks text := by
  rw [serverBlocks, sections, if_neg (Bool.not_eq_true _ ▸ h), serverBlocks]

/-- A text can be cut where a section opens. -/
theorem serverBlocks_append {text text' : List (List String)} (h : opens text' = true) :
    serverBlocks (text ++ text') = serverBlocks text ++ serverBlocks text' := by
  induction text with
  | nil => rfl
  | cons line text ih =>
      rw [List.cons_append]
      cases hline : isSection line with
      | true =>
          rw [serverBlocks_cons_of_section hline, serverBlocks_cons_of_section hline, servers_append h, ih,
            List.cons_append]
      | false => rw [serverBlocks_cons_of_not_section hline, serverBlocks_cons_of_not_section hline, ih]

/-- One section. -/
theorem serverBlocks_block {header : List String} {body : List (List String)} (hheader : isSection header = true)
    (hbody : ∀ line ∈ body, isSection line = false) :
    serverBlocks (header :: body) = [(header, body.filterMap server?)] := by
  have hnone : serverBlocks body = [] := by
    induction body with
    | nil => rfl
    | cons line body ih =>
        rw [List.forall_mem_cons] at hbody
        rw [serverBlocks_cons_of_not_section hbody.1, ih hbody.2]
  have hall : (body.takeWhile fun l => !isSection l) = body :=
    List.takeWhile_eq_self_iff.2 fun line hline => by simp [hbody line hline]
  rw [serverBlocks_cons_of_section hheader, hall, hnone]

end Sections

end Agent
end Vastora
