import Vastora.XrayWorker.NamedAccount

/-!
# XrayWorker.ClientRequest — which client requests act on the account they name

A request whose name and marks the handler recovers acts on its account (`actsOn_of_marked`).  For any other name there
is a state with a few accounts in which it does not: `Sample.state` has one inbound with a client for each of a list
of names.  `client_request_acts_on_its_account_iff` puts both together, for states with counters of their own and for
imported ones.
-/

namespace Vastora
namespace XrayWorker

open Library Library.Guard Library.Pattern Library.Text Library.PathEscape Landing

/-! ## Counters of imported states -/

section Legacy

variable {env : Environment} {state : State} {path e name : String} {client : Json}

theorem mem_legacyFold {stats : List Json} {result : StringMap Traffic}
    (h : name ∈ result ∨ ∃ stat ∈ stats, textField "email" stat = name) :
    name ∈ stats.foldl (fun result stat =>
      let email := textField "email" stat
      let current := (result.lookup email).getD .zero
      result.insert email ⟨max current.up (jsonInteger64 env (stat.field? "up")).1,
        max current.down (jsonInteger64 env (stat.field? "down")).1⟩) result := by
  induction stats generalizing result with
  | nil =>
      rcases h with h | ⟨_, hmem, -⟩
      · exact h
      · cases hmem
  | cons stat stats ih =>
      refine ih ?_
      rcases h with h | ⟨stat', hmem, hname⟩
      · exact Or.inl ((AList.mem_insert _).2 (Or.inr h))
      · rcases List.mem_cons.1 hmem with rfl | hmem
        · exact Or.inl ((AList.mem_insert _).2 (Or.inl hname.symm))
        · exact Or.inr ⟨stat', hmem, hname⟩

/-- Every account with an imported counter has one. -/
theorem lookup_legacyStats {raw : Json} (h : ∃ stat ∈ clientStats (inboundMap raw), textField "email" stat = name) :
    (legacyStats env [raw]).lookup name ≠ none := by
  have hmem : name ∈ legacyStats env [raw] := mem_legacyFold (Or.inr h)
  intro hnone
  exact (AList.lookup_eq_none.1 hnone) hmem

/-- Settling the counters of an account leaves those of another as they are, imported ones included. -/
theorem lookup_accountStats_settle (he : name ≠ e) (hnew : name ≠ clientEmail client) :
    (xrayWorkerAccountStats env (settle env path e client state)).lookup name =
      (xrayWorkerAccountStats env state).lookup name := by
  have hreset : (xrayWorkerAccountStats env (settleReset env path e state)).lookup name =
      (xrayWorkerAccountStats env state).lookup name := by
    unfold settleReset
    split
    · exact AList.lookup_insert_ne he
    · rfl
  have hupdate : ∀ state, (xrayWorkerAccountStats env (settleUpdate env path e client state)).lookup name =
      (xrayWorkerAccountStats env state).lookup name := by
    intro state
    unfold settleUpdate
    dsimp only
    split
    · exact (AList.lookup_erase_ne he).trans (AList.lookup_insert_ne hnew)
    · rfl
  have hdel : ∀ state, (xrayWorkerAccountStats env (settleDel env path e state)).lookup name =
      (xrayWorkerAccountStats env state).lookup name := by
    intro state
    unfold settleDel
    dsimp only
    split
    · split
      · rfl
      · exact AList.lookup_erase_ne he
    · rfl
  rw [settle, hdel, hupdate, hreset]

/-- A request with a mark for the counters writes them out. -/
theorem accountStats_settle_isSome (h : contains path "resetTraffic" = true ∨
    (hasPrefix path updatePrefix && !isNil client && clientEmail client != "" && clientEmail client != e) = true ∨
    hasPrefix path delPrefix = true) : (settle env path e client state).accountStats.isSome = true := by
  have hupdate : ∀ state : State, state.accountStats.isSome = true →
      (settleUpdate env path e client state).accountStats.isSome = true := by
    intro state hstate
    unfold settleUpdate
    dsimp only
    split
    · rfl
    · exact hstate
  have hdel : ∀ state : State, state.accountStats.isSome = true →
      (settleDel env path e state).accountStats.isSome = true := by
    intro state hstate
    unfold settleDel
    dsimp only
    split
    · split <;> rfl
    · exact hstate
  rcases h with h | h | h
  · refine hdel _ (hupdate _ ?_)
    rw [settleReset, if_pos h]
    rfl
  · refine hdel _ ?_
    rw [settleUpdate, if_pos h]
    rfl
  · rw [settle, settleDel, if_pos h]
    dsimp only
    split <;> rfl

theorem account_eq_of_isSome (h : state.accountStats.isSome = true) :
    state.account name = (xrayWorkerAccountStats env state).lookup name := by
  obtain ⟨m, hm⟩ := Option.isSome_iff_exists.1 h
  rw [State.account, xrayWorkerAccountStats, hm]
  rfl

end Legacy

/-! ## States with given accounts -/

namespace Sample

def client (name : String) : Json := .object [("auth", .string "a"), ("email", .string name)]

def stat (name : String) : Json := .object [("down", .int 1), ("email", .string name), ("up", .int 1)]

def inbound (names : List String) : Json :=
  .object [("clientStats", .array (names.map stat)), ("id", .int 1), ("port", .int 443),
    ("protocol", .string "hysteria"), ("settings", .object [("clients", .array (names.map client))]),
    ("streamSettings", .object [("network", .string "hysteria"), ("security", .string "tls")]),
    ("tag", .string "edge")]

def state (names : List String) (counters : Option (StringMap Traffic)) : State :=
  { applicationID := "worker", imageReference := xrayWorkerImageReference, address := "10.0.0.2"
    panelPort := 2053, apiToken := "token", revision := 1, appliedRevision := 1, nextInboundID := 2
    inbounds := [inbound names], hostGroups := [], xraySetting := .object [], runtimeStats := none
    accountStats := counters, controllerID := "", controllerStats := none, blockedAccounts := none
    legacyImportSHA256 := "" }

/-- A request that gives a client of another name, or no client. -/
def request (path : String) (fresh : Option String) : Request :=
  { method := .post, path := path, contentLength := 0
    content := match fresh with
      | some name => .plain (marshal (client name))
      | none => .unreadable
    inboundIds := [], hostGroup := none, snapshot := none, xraySetting := .error "", subSortIndex := none
    fromNode := false }

variable {name : String} {names : List String} {env : Environment}

theorem rewrite_one : Float64.rewrite (.ofInt 1) = some (.ofInt 1) := by decide +kernel

theorem rewrite_port : Float64.rewrite (.ofInt 443) = some (.ofInt 443) := by decide +kernel

theorem rewrite_zero : Float64.rewrite (.ofInt 0) = some (.ofInt 0) := by decide +kernel

theorem fixed_int {n : Int} (h : Float64.rewrite (.ofInt n) = some (.ofInt n)) :
    Json.Fixed Float64.rewrite (.int n) := by
  simpa [Json.Fixed, Json.int, Json.numbers] using h

theorem sorted_client (name : String) : (client name).Sorted := by
  have hkeys : ["auth", "email"].Pairwise (· < ·) := by decide +kernel
  refine Json.sorted_object hkeys ?_
  simp [Json.Sorted]

theorem fixed_client (name : String) : Json.Fixed Float64.rewrite (client name) := by
  refine Json.fixed_object_iff.2 ?_
  simp [Json.fixed_string]

theorem sorted_stat (name : String) : (stat name).Sorted := by
  have hkeys : ["down", "email", "up"].Pairwise (· < ·) := by decide +kernel
  refine Json.sorted_object hkeys ?_
  simp [Json.Sorted, Json.int]

theorem fixed_stat (name : String) : Json.Fixed Float64.rewrite (stat name) := by
  refine Json.fixed_object_iff.2 ?_
  simp [Json.fixed_string, fixed_int rewrite_one]

theorem sorted_inbound (names : List String) : (inbound names).Sorted := by
  have hkeys : ["clientStats", "id", "port", "protocol", "settings", "streamSettings", "tag"].Pairwise (· < ·) := by
    decide +kernel
  have hstream : ["network", "security"].Pairwise (· < ·) := by decide +kernel
  have hstats : (Json.array (names.map stat)).Sorted := Json.sortedItems_iff.2 (by simp [sorted_stat])
  have hclients : (Json.array (names.map client)).Sorted := Json.sortedItems_iff.2 (by simp [sorted_client])
  have hsettings : (Json.object [("clients", .array (names.map client))]).Sorted :=
    Json.sorted_object (List.pairwise_singleton _ _) (by simpa using hclients)
  have htransport : (Json.object [("network", .string "hysteria"), ("security", .string "tls")]).Sorted :=
    Json.sorted_object hstream (by simp [Json.Sorted])
  refine Json.sorted_object hkeys ?_
  simp only [List.forall_mem_cons, List.not_mem_nil, false_imp_iff, implies_true, and_true]
  exact ⟨hstats, trivial, trivial, trivial, hsettings, htransport, trivial⟩

theorem fixed_inbound (names : List String) : Json.Fixed Float64.rewrite (inbound names) := by
  have hstats : Json.Fixed Float64.rewrite (.array (names.map stat)) :=
    Json.fixed_array_iff.2 (by simp [fixed_stat])
  have hclients : Json.Fixed Float64.rewrite (.array (names.map client)) :=
    Json.fixed_array_iff.2 (by simp [fixed_client])
  have hsettings : Json.Fixed Float64.rewrite (.object [("clients", .array (names.map client))]) :=
    Json.fixed_object_iff.2 (by simpa using hclients)
  have htransport : Json.Fixed Float64.rewrite
      (.object [("network", .string "hysteria"), ("security", .string "tls")]) :=
    Json.fixed_object_iff.2 (by simp [Json.fixed_string])
  refine Json.fixed_object_iff.2 ?_
  simp only [List.forall_mem_cons, List.not_mem_nil, false_imp_iff, implies_true, and_true]
  exact ⟨hstats, fixed_int rewrite_one, fixed_int rewrite_port, Json.fixed_string _, hsettings, htransport,
    Json.fixed_string _⟩

theorem unmarshalMap_inbound (names : List String) : unmarshalMap (inbound names) = some (inbound names) :=
  unmarshalMap_of_fixed (sorted_inbound names) (fixed_inbound names)

theorem inboundMap_inbound (names : List String) : inboundMap (inbound names) = inbound names := by
  rw [inboundMap, unmarshalMap_inbound]
  rfl

theorem inboundClients_inbound (names : List String) : inboundClients (inbound names) = names.map client := rfl

theorem clientStats_inbound (names : List String) : clientStats (inbound names) = names.map stat := rfl

theorem clientEmail_client (name : String) : clientEmail (client name) = name := rfl

theorem hasNamed_inbound (h : name ∈ names) : HasNamed (some name) (inbound names) := by
  rw [HasNamed, inboundMap_inbound, inboundClients_inbound]
  exact ⟨client name, List.mem_map_of_mem h, rfl⟩

theorem jsonInteger_int {n : Int} {value : Bool × Nat × Int} (h : Float64.binary (.ofInt n) = some value) :
    jsonInteger env (some (.int n)) = ((truncate env value).1.toInt, (truncate env value).2) := by
  simp only [jsonInteger, jsonInteger64, Json.int, h, Option.map_some, Option.getD_some]

theorem checkInbound_inbound (hblank : ∀ name ∈ names, trimSpace name ≠ "") (hnodup : names.Nodup) :
    checkInbound env [] (inbound names) = .ok ⟨1, "edge", "hysteria"⟩ := by
  have hid : jsonInteger env (some (.int 1)) = (1, true) := by
    have hone : Float64.binary (.ofInt 1) = some (false, 2 ^ 52, -52) := by decide +kernel
    rw [jsonInteger_int hone]
    rfl
  have hport : jsonInteger env (some (.int 443)) = (443, true) := by
    have hvalue : Float64.binary (.ofInt 443) = some (false, 443 * 2 ^ 44, -44) := by decide +kernel
    rw [jsonInteger_int hvalue]
    rfl
  have hclients : validXrayWorkerClients env (inbound names) "hysteria" = true := by
    have hitems : itemsField "clients" (mapField "settings" (inbound names)) = some (names.map client) := rfl
    have hnames : (names.map client).map (textField "email") = names := by
      rw [List.map_map]
      exact List.map_id' names
    rw [validXrayWorkerClients, hitems, Option.any_some, hnames, decide_eq_true hnodup, Bool.and_true, List.all_eq_true]
    intro current hcurrent
    obtain ⟨name, hname, rfl⟩ := List.mem_map.1 hcurrent
    have hemail : trimSpace (textField "email" (client name)) ≠ "" := hblank name hname
    have hauth : trimSpace "a" ≠ "" := by decide
    simp [validClient, validLimit, isNil, client, Json.field?, Json.members?, List.lookup, textField, Json.text?,
      hauth, hblank name hname]
  have hfields : (inbound names).field? "id" = some (.int 1) ∧ (inbound names).field? "port" = some (.int 443) ∧
      textField "tag" (inbound names) = "edge" ∧ textField "protocol" (inbound names) = "hysteria" := ⟨rfl, rfl, rfl, rfl⟩
  have htag : trimSpace "edge" ≠ "" := by decide
  simp only [checkInbound, bind_eq_ok_iff, fetch_eq_ok_iff, unmarshalMap_inbound, Option.some.injEq,
    exists_eq_left', require_eq_ok_iff, exists_const, hfields, hid, hport, hclients, pure_eq_ok_iff]
  exact ⟨by simp [htag], rfl, rfl, trivial, rfl, trivial⟩

theorem valid_state (hblank : ∀ name ∈ names, trimSpace name ≠ "") (hnodup : names.Nodup)
    {counters : Option (StringMap Traffic)} (hcounters : allEntries counters validTraffic = true) :
    (state names counters).Valid env := by
  have haddress : isPrivateServiceAddress "10.0.0.2" = true := by decide +kernel
  have htexts : trimSpace "worker" ≠ "" ∧ trimSpace "token" ≠ "" := by decide
  have hsetting : (unmarshalMap (.object [])).isSome = true := rfl
  have hsize : "token".utf8ByteSize ≤ 4096 := by decide
  simp only [State.Valid, State.validate, bind_eq_ok_iff, require_eq_ok_iff, exists_const, state, checkInbounds,
    checkInbound_inbound hblank hnodup, hcounters, hsetting, haddress, env.pinned]
  refine ⟨by simp [htexts, hsize, threeXUIRealityPort], rfl, [⟨1, "edge", "hysteria"⟩], ?_, (), rfl, trivial, rfl,
    trivial, rfl, rfl⟩
  exact ⟨_, rfl, rfl⟩

/-! ## Requests on these states -/

section Answer

variable {path e n o fresh : String} {given : Option String} {counters : Option (StringMap Traffic)}

/-- The map of the body. -/
def body (given : Option String) : Json := (given.map client).getD .null

theorem inboundMap_client (name : String) : inboundMap (client name) = client name := by
  rw [inboundMap, client, unmarshalMap_of_fixed (sorted_client name) (fixed_client name)]
  rfl

theorem requestBody_request (path : String) (hsize : ∀ name ∈ given, (marshal (client name)).size ≤ xrayWorkerMaxBody ∧
    (marshal (client name)).size ≠ 0) : requestBody (request path given) = .ok (body given) := by
  cases given with
  | none => rfl
  | some name =>
      obtain ⟨hmax, hpos⟩ := hsize name rfl
      have hread : readJSONObject (request path (some name)) = .ok (client name) := by
        have hmap : (unmarshalMap (client name)).isSome = true := by
          rw [client, unmarshalMap_of_fixed (sorted_client name) (fixed_client name)]
          rfl
        simp only [readJSONObject, request, bind_eq_ok_iff, require_eq_ok_iff, exists_const, readObject,
          fetch_eq_ok_iff, pure_eq_ok_iff]
        exact ⟨by simpa using hmax, by simpa using hpos, client name, rfl, hmap, rfl⟩
      rw [requestBody, hread]
      exact congrArg Except.ok (inboundMap_client name)

theorem targetIDs_request (path : String) : targetIDs env (body given) (request path given) = [] := by
  cases given <;> rfl

theorem isNil_body : isNil (body given) = given.isNone := by
  cases given <;> rfl

/-- The client of a request: the one in its body, for a path that starts like an update. -/
theorem requestClient_body : requestClient (body given) path = if hasPrefix path updatePrefix then body given
    else .null := by
  have hnull : mapField "client" (body given) = .null := by cases given <;> rfl
  simp only [requestClient, hnull]
  rfl

theorem credential_client (name fresh : String) :
    sameXrayWorkerClientCredential (client name) (client fresh) "hysteria" = true := by
  have hauth : trimSpace "a" ≠ "" := by decide
  have hfield : ∀ name, textField "auth" (client name) = "a" := fun _ => rfl
  have hnil : ∀ name, isNil (client name) = false := fun _ => rfl
  simp [sameXrayWorkerClientCredential, hfield, hauth, hnil]

/-- The request of a name is answered on a state with that name. -/
theorem answer (hpath : path ≠ addPath)
    (hread : ["/panel/api/clients/onlines", "/panel/api/clients/lastOnline", "/panel/api/clients/onlinesByGuid",
      "/panel/api/clients/clientIpsByGuid"].contains path = false)
    (hsize : ∀ name ∈ given, (marshal (client name)).size ≤ xrayWorkerMaxBody ∧ (marshal (client name)).size ≠ 0)
    (hn : requestedEmail path = some n) (hmem : n ∈ names) {url : String} :
    mutateXrayWorkerClients env (state names counters) (request url given) path =
      .ok (settle env path n (requestClient (body given) path) { state names counters with
        inbounds := [editedMap path (requestClient (body given) path) (inbound names)] }) := by
  have hedit : editInbound env [] path (requestClient (body given) path) (inbound names) =
      .ok (editedMap path (requestClient (body given) path) (inboundMap (inbound names)), true) := by
    refine editInbound_of_credentials hpath (Or.inl rfl) ?_ ?_ ?_
    · rw [inboundMap_inbound]
      rfl
    · intro haction current hcurrent _
      rw [inboundMap_inbound, inboundClients_inbound, List.mem_map] at hcurrent
      obtain ⟨name, -, rfl⟩ := hcurrent
      -- Only an update with a client in its body replaces clients.
      have hreplace : (hasPrefix path updatePrefix && !isNil (requestClient (body given) path)) = true := by
        unfold clientAction at haction
        split at haction
        · assumption
        · split at haction <;> cases haction
      rw [requestClient_body] at hreplace ⊢
      rw [Bool.and_eq_true] at hreplace
      rw [if_pos hreplace.1] at hreplace ⊢
      cases given with
      | none => cases hreplace.2
      | some fresh =>
          rw [inboundMap_inbound]
          exact credential_client name fresh
    · rw [hn]
      exact hasNamed_inbound hmem
  have hanswer := mutate_of_credentials hpath hread (requestBody_request url hsize) (targetIDs_request url)
    (show (state names counters).inbounds = [inbound names] from rfl) hedit
  rw [hn, Option.getD_some, inboundMap_inbound] at hanswer
  exact hanswer

end Answer

end Sample

/-! ## Requests by name -/

/-- Every request of an operation for a name acts on the account of that name.  `given` says whether the body is an
object, and `ledger` whether the state has counters of its own. -/
def ActsOnNamed (env : Environment) (op : ClientOp) (e : String) (given ledger : Bool) : Prop :=
  ∀ (state : State) (request : Request) (body : Json) (state' : State), state.Valid env →
    xrayWorkerHasClient state e = true → state.accountStats.isSome = ledger → request.method = .post →
    urlText (op.target e) = some request.path → requestBody request = .ok body → isNil body = !given →
    xrayWorkerRequest env state request = .ok (some state') →
    ActsOn env op e (targetIDs env body request) (requestClient body (op.handled e)) state state'

section Requests

variable {env : Environment} {op : ClientOp} {e : String} {given ledger : Bool}

theorem ne_empty_of_not_blank (he : trimSpace e ≠ "") : e ≠ "" := by
  rintro rfl
  exact he (by decide)

/-- The requests of these operations go to the client operations. -/
theorem xrayWorkerRequest_client (he : e ≠ "") {state : State} {request : Request}
    (hmethod : request.method = .post) (hurl : urlText (op.target e) = some request.path) :
    xrayWorkerRequest env state request =
      some <$> mutateXrayWorkerClients env state request (op.handled e) := by
  have hpath : request.path = String.ofList (op.before.toList ++ (e.toList ++ op.after.toList)) := by
    rw [urlText_target, Option.some.injEq] at hurl
    exact hurl.symm
  have hreads : (postedReads.all fun other =>
      !(op.before.toList.isPrefixOf other.toList && hasSuffix other op.after)) = true := by
    cases op <;> decide
  have hpost := postRequest_clients env state request (hasPrefix_clients op he) (handled_not_read op he hreads)
  rw [xrayWorkerRequest, hmethod, hpath]
  exact hpost

theorem handled_ne_add (op : ClientOp) (he : e ≠ "") : op.handled e ≠ addPath := by
  refine handled_ne op he ?_
  cases op <;> decide

theorem handled_not_onlines (op : ClientOp) (he : e ≠ "") :
    ["/panel/api/clients/onlines", "/panel/api/clients/lastOnline", "/panel/api/clients/onlinesByGuid",
      "/panel/api/clients/clientIpsByGuid"].contains (op.handled e) = false := by
  refine handled_not_read op he ?_
  cases op <;> decide

theorem actsOnNamed_of_recovers (he : e ≠ "") (h : Recovers op e given) (hledger : ledger = true ∨ op = .detach) :
    ActsOnNamed env op e given ledger := by
  intro state request body state' hvalid _ hcounters hmethod hurl hbody hnil hrequest
  rw [xrayWorkerRequest_client he hmethod hurl, map_some_eq_ok_iff] at hrequest
  obtain ⟨hemail, hmarked⟩ := (recovers_iff he hnil).1 h
  obtain ⟨body', hbody', -, hstate⟩ := mutate_eq_ok (handled_ne_add op he) hrequest
  rw [hbody, Except.ok.injEq] at hbody'
  subst hbody'
  rw [hemail, Option.getD_some] at hstate
  have hcounted : state.accountStats.isSome ∨ op = .detach := by
    rw [hcounters]
    exact hledger
  rw [hstate]
  exact actsOn_of_marked hvalid hmarked hemail hcounted

/-- A name that no client can have is never acted on. -/
theorem actsOnNamed_of_rejected (he : e ≠ "") (h : Rejected op e) : ActsOnNamed env op e given ledger := by
  intro state request body state' hvalid _ _ hmethod hurl _ _ hrequest
  rw [xrayWorkerRequest_client he hmethod hurl, map_some_eq_ok_iff] at hrequest
  obtain ⟨-, -, ⟨raw, hraw, -, hnamed⟩, -⟩ := mutate_eq_ok (handled_ne_add op he) hrequest
  obtain ⟨name, hname, hblank⟩ := hvalid.name_not_blank hraw hnamed
  rw [Rejected, hname, Option.all_some, beq_iff_eq] at h
  exact absurd h hblank

end Requests

namespace Sample

section Necessity

variable {env : Environment} {op : ClientOp} {e n path : String} {given : Option String} {names : List String}
  {counters : Option (StringMap Traffic)} {client' : Json}

/-- The client that the handler takes from a request. -/
def requested (op : ClientOp) (e : String) (given : Option String) : Json :=
  requestClient (body given) (op.handled e)

/-- The state after a request that the handler takes for a request of the name `n`. -/
def after (env : Environment) (op : ClientOp) (e n : String) (given : Option String) (names : List String)
    (counters : Option (StringMap Traffic)) : State :=
  settle env (op.handled e) n (requested op e given) { state names counters with
    inbounds := [editedMap (op.handled e) (requested op e given) (inbound names)] }

theorem acted (h : ActsOnNamed env op e given.isSome counters.isSome) (he : e ≠ "")
    (hblank : ∀ name ∈ names, trimSpace name ≠ "") (hnodup : names.Nodup)
    (hcounters : allEntries counters validTraffic = true)
    (hsize : ∀ name ∈ given, (marshal (client name)).size ≤ xrayWorkerMaxBody ∧ (marshal (client name)).size ≠ 0)
    (hn : requestedEmail (op.handled e) = some n) (hmem : n ∈ names) (hmem' : e ∈ names) :
    ActsOn env op e [] (requested op e given) (state names counters) (after env op e n given names counters) := by
  have hclient : xrayWorkerHasClient (state names counters) e = true :=
    (xrayWorkerHasClient_iff he).2 ⟨inbound names, List.mem_singleton.2 rfl, hasNamed_inbound hmem'⟩
  have hnil : isNil (body given) = !given.isSome := by
    rw [isNil_body, Option.not_isSome]
  have hacts := h (state names counters)
    (request (String.ofList (op.before.toList ++ (e.toList ++ op.after.toList))) given) (body given)
    (after env op e n given names counters) (valid_state hblank hnodup hcounters) hclient rfl rfl
    (urlText_target op e) (requestBody_request _ hsize) hnil
  rw [targetIDs_request] at hacts
  refine hacts ?_
  rw [xrayWorkerRequest_client he rfl (urlText_target op e), map_some_eq_ok_iff]
  exact answer (handled_ne_add op he) (handled_not_onlines op he) hsize hn hmem

/-- What the property asks of the only inbound. -/
theorem effect (h : ActsOn env op e [] client' (state names counters) (after env op e n given names counters))
    (hn : requestedEmail (op.handled e) = some n) (hclient : requested op e given = client') (hmem : e ∈ names) :
    (names.map client).flatMap ((clientAction (op.handled e) client').apply (some n) client') =
      op.clients e client' (names.map client) ∧
    (clientAction (op.handled e) client').stats (some n) (names.map stat) = op.stats e (names.map stat) := by
  have hinbounds := h.inbounds
  rw [after, settle_inbounds, hclient] at hinbounds
  have heffect := (List.forall₂_cons.1 hinbounds).1
  rw [if_pos ⟨Or.inl rfl, hasNamed_inbound hmem⟩, inboundMap_inbound] at heffect
  obtain ⟨hclients, hstats, -, -⟩ := editedMap_parts (op.handled e) client'
    (show isNil (mapField "settings" (inbound names)) = false from rfl)
  rw [hn] at hclients hstats
  exact ⟨hclients.symm.trans heffect.clients, hstats.symm.trans heffect.stats⟩

theorem client_injective : Function.Injective client := fun _ _ h => congrArg clientEmail h

theorem requested_ne {name : String} (h : ∀ fresh ∈ given, fresh ≠ name) : requested op e given ≠ client name := by
  rw [requested, requestClient_body]
  split
  · cases given with
    | none => exact fun hnull => by cases hnull
    | some fresh => exact fun hclient => h fresh rfl (client_injective hclient)
  · exact fun hnull => by cases hnull

theorem resetStat_ne (name : String) : resetStat name (stat name) ≠ stat name := by
  have hreset : resetStat name (stat name) =
      .object [("down", .int 0), ("email", .string name), ("up", .int 0)] := by
    exact if_pos rfl
  have hzero : NumberLiteral.ofInt 0 ≠ .ofInt 1 := by decide
  rw [hreset, stat]
  intro h
  simp only [Json.object.injEq, List.cons.injEq, Prod.mk.injEq, Json.int, Json.number.injEq] at h
  exact hzero h.1.2

theorem resetStat_of_ne {name : String} (h : name ≠ n) : resetStat n (stat name) = stat name := by
  refine if_neg fun hemail => h ?_
  simpa [stat, Json.field?, Json.members?, List.lookup] using hemail

/-- On an inbound with both names, only the named client may change. -/
theorem name_eq {action : Action} (hne : client' ≠ client e) (hne' : client' ≠ client n)
    (hclients : ([e, n].map client).flatMap (action.apply (some n) client') = op.clients e client' ([e, n].map client))
    (hstats : action.stats (some n) ([e, n].map stat) = op.stats e ([e, n].map stat)) : n = e := by
  by_contra hdiff
  have hdiff' : e ≠ n := fun h => hdiff h.symm
  cases action with
  | replace =>
      cases op <;> simp [Action.apply, ClientOp.clients, clientEmail_client, hdiff, hdiff', hne', hne.symm]
        at hclients
  | reset =>
      cases op with
      | resetTraffic =>
          simp only [Action.stats, ClientOp.stats, List.map_cons, List.map_nil, resetStat_of_ne hdiff',
            List.cons.injEq] at hstats
          exact resetStat_ne e hstats.1.symm
      | update | del | detach =>
          simp [Action.apply, ClientOp.clients, clientEmail_client, hdiff, hdiff', hne.symm] at hclients
  | remove =>
      cases op <;> simp [Action.apply, ClientOp.clients, clientEmail_client, hdiff, hdiff',
        client_injective.eq_iff] at hclients

/-- The client of the name is treated as the operation says. -/
theorem action_eq {action : Action} {o : String} (hne : client' ≠ client e) (ho : o ≠ e)
    (hclients : ([e, o].map client).flatMap (action.apply (some e) client') =
      op.clients e client' ([e, o].map client)) : action = op.action := by
  cases action <;> cases op <;>
    simp [Action.apply, ClientOp.clients, ClientOp.action, clientEmail_client, ho, hne, hne.symm] at hclients ⊢

theorem requested_cases (op : ClientOp) (e : String) (given : Option String) :
    requested op e given = .null ∨ ∃ fresh ∈ given, requested op e given = client fresh := by
  rw [requested, requestClient_body]
  split
  · cases given with
    | none => exact Or.inl rfl
    | some fresh => exact Or.inr ⟨fresh, rfl, rfl⟩
  · exact Or.inl rfl

/-- A short name beside two others. -/
theorem exists_fresh (e n : String) : ∃ fresh, trimSpace fresh ≠ "" ∧ fresh ≠ e ∧ fresh ≠ n ∧
    (marshal (client fresh)).size ≤ xrayWorkerMaxBody ∧ (marshal (client fresh)).size ≠ 0 := by
  have hshort : ∀ name ∈ ["a", "b", "c"], trimSpace name ≠ "" ∧
      (marshal (client name)).size ≤ xrayWorkerMaxBody ∧ (marshal (client name)).size ≠ 0 := by decide
  have hother : ∃ name ∈ ["a", "b", "c"], name ≠ e ∧ name ≠ n := by
    by_contra hnone
    have hall : ∀ name ∈ ["a", "b", "c"], name = e ∨ name = n := by
      intro name hname
      by_contra hne
      rw [not_or] at hne
      exact hnone ⟨name, hname, hne⟩
    have hdistinct : "a" ≠ "b" ∧ "a" ≠ "c" ∧ "b" ≠ "c" := by decide
    rcases hall "a" (by simp) with ha | ha <;> rcases hall "b" (by simp) with hb | hb <;>
      rcases hall "c" (by simp) with hc | hc <;> simp_all
  obtain ⟨name, hname, hne, hne'⟩ := hother
  obtain ⟨hblank, hsize⟩ := hshort name hname
  exact ⟨name, hblank, hne, hne', hsize⟩

/-- Counters of which the account has used some. -/
def used (e : String) : StringMap Traffic := (∅ : StringMap Traffic).insert e ⟨1, 1⟩

theorem validTraffic_used (he : trimSpace e ≠ "") : allEntries (some (used e)) validTraffic = true := by
  have hentries : (used e).entries = [⟨e, ⟨1, 1⟩⟩] := rfl
  have hone : (0 : Int64) ≤ 1 := by decide
  simp [allEntries, hentries, validTraffic, he, hone]

theorem lookup_used : (used e).lookup e = some ⟨1, 1⟩ := AList.lookup_insert _

/-- Counters of its own, or those of an imported state. -/
def countersOf (ledger : Bool) (e : String) : Option (StringMap Traffic) := if ledger then some (used e) else none

theorem isSome_countersOf (ledger : Bool) : (countersOf ledger e).isSome = ledger := by cases ledger <;> rfl

theorem allEntries_countersOf (he : trimSpace e ≠ "") (ledger : Bool) :
    allEntries (countersOf ledger e) validTraffic = true := by
  cases ledger with
  | false => rfl
  | true => exact validTraffic_used he

/-- The handler finds the name of a request that acts on its account on all states. -/
theorem name_of_acts {ledger : Bool} (h : ActsOnNamed env op e given.isSome ledger) (he : trimSpace e ≠ "")
    (hn : requestedEmail (op.handled e) = some n) (hblank : trimSpace n ≠ "")
    (hgiven : ∀ fresh ∈ given, fresh ≠ e ∧ fresh ≠ n)
    (hsize : ∀ name ∈ given, (marshal (client name)).size ≤ xrayWorkerMaxBody ∧ (marshal (client name)).size ≠ 0) :
    n = e := by
  by_contra hdiff
  have hnodup : [e, n].Nodup := by simpa using fun heq : e = n => hdiff heq.symm
  have hnames : ∀ name ∈ [e, n], trimSpace name ≠ "" := by simp [he, hblank]
  rw [← @isSome_countersOf e ledger] at h
  have hacted := acted h (ne_empty_of_not_blank he) hnames hnodup (allEntries_countersOf he ledger) hsize hn (by simp)
    (by simp)
  obtain ⟨hclients, hstats⟩ := effect hacted hn rfl (by simp)
  exact hdiff (name_eq (requested_ne fun fresh hfresh => (hgiven fresh hfresh).1)
    (requested_ne fun fresh hfresh => (hgiven fresh hfresh).2) hclients hstats)

/-- What the handler does to the clients and the counters is what the operation is to do, where a request acts on its
account on all states. -/
theorem action_of_acts {ledger : Bool} (h : ActsOnNamed env op e given.isSome ledger) (he : trimSpace e ≠ "")
    (hn : requestedEmail (op.handled e) = some e) (hgiven : ∀ fresh ∈ given, fresh ≠ e)
    (hsize : ∀ name ∈ given, (marshal (client name)).size ≤ xrayWorkerMaxBody ∧ (marshal (client name)).size ≠ 0)
    {o : String} (hoBlank : trimSpace o ≠ "") (ho : o ≠ e) :
    clientAction (op.handled e) (requested op e given) = op.action ∧
      ActsOn env op e [] (requested op e given) (state [e, o] (countersOf ledger e))
        (after env op e e given [e, o] (countersOf ledger e)) := by
  have hnodup : [e, o].Nodup := by simpa using ho.symm
  have hnames : ∀ name ∈ [e, o], trimSpace name ≠ "" := by simp [he, hoBlank]
  rw [← @isSome_countersOf e ledger] at h
  have hacted := acted h (ne_empty_of_not_blank he) hnames hnodup (allEntries_countersOf he ledger) hsize hn (by simp)
    (by simp)
  obtain ⟨hclients, -⟩ := effect hacted hn rfl (by simp)
  exact ⟨action_eq (requested_ne hgiven) ho hclients, hacted⟩

theorem sorted_requested (op : ClientOp) (e : String) (given : Option String) : (requested op e given).Sorted ∧
    Json.Fixed Float64.rewrite (requested op e given) := by
  rcases requested_cases op e given with hnull | ⟨fresh, -, hclient⟩
  · rw [hnull]
    exact ⟨trivial, fun n hn => by cases hn⟩
  · rw [hclient]
    exact ⟨sorted_client fresh, fixed_client fresh⟩

theorem flatMap_remove (e : String) (client' : Json) (names : List String) :
    (names.map client).flatMap (Action.remove.apply (some e) client') =
      (names.filter fun name => name ≠ e).map client := by
  induction names with
  | nil => rfl
  | cons name names ih =>
      rw [List.map_cons, List.flatMap_cons, ih]
      by_cases hname : name = e <;> simp [Action.apply, clientEmail_client, hname]

theorem eq_of_mem_apply {action : Action} {email : Option String} {c current : Json}
    (h : c ∈ action.apply email client' current) : c = client' ∨ c = current := by
  unfold Action.apply at h
  cases action <;> split at h <;> simp_all

theorem sorted_clients (names : List String) : (Json.array (names.map client)).Sorted :=
  Json.sortedItems_iff.2 (by simp [sorted_client])

theorem fixed_clients (names : List String) : Json.Fixed Float64.rewrite (.array (names.map client)) :=
  Json.fixed_array_iff.2 (by simp [fixed_client])

theorem stats_map (action : Action) (names : List String) : ∀ s ∈ action.stats (some e) (names.map stat),
    s.Sorted ∧ Json.Fixed Float64.rewrite s := by
  have hzero : (Json.int 0).Sorted ∧ Json.Fixed Float64.rewrite (.int 0) := ⟨trivial, fixed_int rewrite_zero⟩
  have hstat : ∀ s ∈ names.map stat, s.Sorted ∧ Json.Fixed Float64.rewrite s := by
    intro s hs
    obtain ⟨name, -, rfl⟩ := List.mem_map.1 hs
    exact ⟨sorted_stat name, fixed_stat name⟩
  cases action with
  | replace | remove => exact hstat
  | reset =>
      intro s hs
      obtain ⟨before, hbefore, rfl⟩ := List.mem_map.1 hs
      obtain ⟨hsorted, hfixed⟩ := hstat before hbefore
      unfold resetStat
      split
      · exact ⟨Json.sorted_setField (Json.sorted_setField hsorted hzero.1) hzero.1,
          Json.fixed_setField (Json.fixed_setField hfixed hzero.2) hzero.2⟩
      · exact ⟨hsorted, hfixed⟩

/-- What is stored is read back as it is. -/
theorem inboundMap_editedMap (hn : requestedEmail path = some e) (hsorted : client'.Sorted)
    (hfixed : Json.Fixed Float64.rewrite client') :
    inboundMap (editedMap path client' (inbound names)) = editedMap path client' (inbound names) := by
  have hsettings : (Json.object [("clients", .array (names.map client))]).Sorted :=
    Json.sorted_object (List.pairwise_singleton _ _) (by simpa using sorted_clients names)
  have hsettingsFixed : Json.Fixed Float64.rewrite (.object [("clients", .array (names.map client))]) :=
    Json.fixed_object_iff.2 (by simpa using fixed_clients names)
  -- the clients that are written are old ones or the one of the request
  have hclients : ∀ c ∈ (names.map client).flatMap ((clientAction path client').apply (some e) client'),
      c.Sorted ∧ Json.Fixed Float64.rewrite c := by
    intro c hc
    obtain ⟨current, hcurrent, hc⟩ := List.mem_flatMap.1 hc
    obtain ⟨name, -, rfl⟩ := List.mem_map.1 hcurrent
    rcases eq_of_mem_apply hc with rfl | rfl
    · exact ⟨hsorted, hfixed⟩
    · exact ⟨sorted_client name, fixed_client name⟩
  have hread : ∀ counted : Json, counted.members?.isSome = true → counted.Sorted → Json.Fixed Float64.rewrite counted →
      mapField "settings" counted = .object [("clients", .array (names.map client))] →
      inboundMap (setClients counted ((names.map client).flatMap
        ((clientAction path client').apply (some e) client'))) =
        setClients counted ((names.map client).flatMap ((clientAction path client').apply (some e) client')) := by
    intro counted hobject hcounted hcountedFixed hmap
    rw [setClients, hmap]
    refine inboundMap_of_fixed ?_ ?_ ?_
    · rw [Json.members?_setField_isSome]
      exact hobject
    · exact Json.sorted_setField hcounted
        (Json.sorted_setField hsettings (Json.sortedItems_iff.2 fun c hc => (hclients c hc).1))
    · exact Json.fixed_setField hcountedFixed
        (Json.fixed_setField hsettingsFixed (Json.fixed_array_iff.2 fun c hc => (hclients c hc).2))
  have hplain := hread (inbound names) rfl (sorted_inbound names) (fixed_inbound names) rfl
  simp only [editedMap, hn, inboundClients_inbound]
  cases haction : clientAction path client' with
  | replace | remove =>
      rw [haction] at hplain
      exact hplain
  | reset =>
      have hstats : ∀ s ∈ (names.map stat).map (resetStat e), s.Sorted ∧ Json.Fixed Float64.rewrite s :=
        stats_map .reset names
      have hcounted : resetXrayWorkerClientTraffic (inbound names) e =
          (inbound names).setField "clientStats" (.array ((names.map stat).map (resetStat e))) := rfl
      have hreset := hread (resetXrayWorkerClientTraffic (inbound names) e) rfl
        (Json.sorted_setField (sorted_inbound names) (Json.sortedItems_iff.2 fun s hs => (hstats s hs).1))
        (Json.fixed_setField (fixed_inbound names) (Json.fixed_array_iff.2 fun s hs => (hstats s hs).2)) rfl
      rw [haction] at hreset
      exact hreset

theorem clientAction_eq_replace_iff : clientAction path client' = .replace ↔
    (hasPrefix path updatePrefix && !isNil client') = true := by
  unfold clientAction
  split_ifs <;> simp_all

theorem clientAction_eq_remove_iff : clientAction path client' = .remove ↔
    (hasPrefix path updatePrefix && !isNil client') = false ∧ contains path "resetTraffic" = false := by
  unfold clientAction
  split_ifs <;> simp_all

/-- No client of the name is left where it is removed. -/
theorem hasClient_of_remove (he : e ≠ "") (hn : requestedEmail path = some e) (hsorted : client'.Sorted)
    (hfixed : Json.Fixed Float64.rewrite client') (haction : clientAction path client' = .remove) :
    xrayWorkerHasClient { state names counters with inbounds := [editedMap path client' (inbound names)] } e =
      false := by
  have hclients := (editedMap_parts path client' (show isNil (mapField "settings" (inbound names)) = false from rfl)).1
  rw [haction, hn, inboundClients_inbound, flatMap_remove] at hclients
  rw [Bool.eq_false_iff, ne_eq, xrayWorkerHasClient_iff he]
  rintro ⟨raw, hraw, current, hcurrent, hname⟩
  rw [List.mem_singleton.1 hraw, inboundMap_editedMap hn hsorted hfixed, hclients, List.mem_map] at hcurrent
  obtain ⟨name, hmem, rfl⟩ := hcurrent
  rw [clientEmail_client, Option.some.injEq] at hname
  simp [hname] at hmem

/-- The imported counter of another account is written out with the account's own. -/
theorem account_of_settle (hn : requestedEmail path = some e) (hsorted : client'.Sorted)
    (hfixed : Json.Fixed Float64.rewrite client') {o : String} (ho : o ∈ names) (hne : o ≠ e)
    (hnew : o ≠ clientEmail client')
    (hmark : contains path "resetTraffic" = true ∨
      (hasPrefix path updatePrefix && !isNil client' && clientEmail client' != "" && clientEmail client' != e) = true ∨
      hasPrefix path delPrefix = true) :
    (settle env path e client' { state names none with
      inbounds := [editedMap path client' (inbound names)] }).account o ≠ none := by
  rw [account_eq_of_isSome (accountStats_settle_isSome hmark), lookup_accountStats_settle hne hnew]
  refine lookup_legacyStats ⟨stat o, ?_, rfl⟩
  have hstats := (editedMap_parts path client'
    (show isNil (mapField "settings" (inbound names)) = false from rfl)).2.1
  rw [inboundMap_editedMap hn hsorted hfixed, hstats, hn, clientStats_inbound]
  have hmem : stat o ∈ names.map stat := List.mem_map_of_mem ho
  cases clientAction path client' with
  | replace | remove => exact hmem
  | reset => exact List.mem_map.2 ⟨stat o, hmem, resetStat_of_ne hne⟩

/-- An update that is also taken for a reset loses the counters. -/
theorem update_not_reset {fresh : String} (hpre : hasPrefix path updatePrefix = true) (hfresh : fresh ≠ "")
    (hne : fresh ≠ e) (hreset : contains path "resetTraffic" = true) {s : State} (hs : s.accountStats = some (used e))
    {remains : Bool} : ¬ ClientOp.update.Entry .zero true e fresh remains (some (used e))
      (settle env path e (client fresh) s).accountStats := by
  have hdel : hasPrefix path delPrefix = false := not_hasPrefix hpre (by decide)
  have hnil : isNil (client fresh) = false := rfl
  have hstats : (settle env path e (client fresh) s).accountStats =
      some (moveEntry .zero e fresh ((used e).insert e .zero)) := by
    rw [settle, settleDel_of_not hdel, settleUpdate, settleReset, if_pos hreset, clientEmail_client]
    simp [hpre, hnil, hfresh, hne, xrayWorkerAccountStats, hs]
  rw [hstats]
  intro hcounts
  simp only [ClientOp.Entry, if_neg hne, Option.bind_some, Option.map_some, lookup_used, Option.getD_some, moveEntry,
    AList.lookup_erase_ne hne, AList.lookup_insert] at hcounts
  exact absurd hcounts.2 (by decide)

/-- A detachment that is also taken for a deletion loses the counters. -/
theorem detach_not_del (hpre : hasPrefix path delPrefix = true) (hreset : contains path "resetTraffic" = false)
    {s : State} (hs : s.accountStats = some (used e)) (hclient : xrayWorkerHasClient s e = false) {new : String}
    {remains : Bool} : ¬ ClientOp.detach.Entry .zero true e new remains (some (used e))
      (settle env path e client' s).accountStats := by
  have hupdate : hasPrefix path updatePrefix = false := not_hasPrefix hpre (by decide)
  have hstats : (settle env path e client' s).accountStats = some ((used e).erase e) := by
    rw [settle, settleReset_of_not hreset, settleUpdate_of_not (by rw [hupdate]; rfl), settleDel, if_pos hpre,
      hclient, if_neg Bool.false_ne_true, xrayWorkerAccountStats, hs, Option.getD_some]
  rw [hstats]
  intro hcounts
  simp [ClientOp.Entry, lookup_used, AList.lookup_erase] at hcounts

/-- The client of the request has another name than the third account. -/
theorem ne_clientEmail_requested {fresh o : String} (hbody : ∀ name ∈ given, name = fresh) (ho : o ≠ "") (ho' : o ≠ fresh) :
    o ≠ clientEmail (requested op e given) := by
  rcases requested_cases op e given with hnull | ⟨name, hname, hclient⟩
  · rw [hnull]
    exact ho
  · rw [hclient, clientEmail_client, hbody name hname]
    exact ho'

/-- A request that is to act on its account has marks for nothing else. -/
theorem recovers_of_acts {ledger : Bool} {fresh o : String} (he : e ≠ "") (hn : requestedEmail (op.handled e) = some e)
    (hfreshEmpty : fresh ≠ "") (hfresh : fresh ≠ e) (hbody : ∀ name ∈ given, name = fresh) (ho : o ≠ e)
    (hoEmpty : o ≠ "") (ho' : o ≠ fresh) (haction : clientAction (op.handled e) (requested op e given) = op.action)
    (hacts : ActsOn env op e [] (requested op e given) (state [e, o] (countersOf ledger e))
      (after env op e e given [e, o] (countersOf ledger e))) :
    Recovers op e given.isSome ∧ (ledger = true ∨ op = .detach) := by
  have hpre := hasPrefix_handled op he
  obtain ⟨hsorted, hfixed⟩ := sorted_requested op e given
  have hother : o ≠ clientEmail (requested op e given) := ne_clientEmail_requested hbody hoEmpty ho'
  -- without a ledger every mark writes the counters of the other account
  have himported : ledger = false → o ≠ op.newName e (requested op e given) →
      ¬ (contains (op.handled e) "resetTraffic" = true ∨
        (hasPrefix (op.handled e) updatePrefix && !isNil (requested op e given) &&
          clientEmail (requested op e given) != "" && clientEmail (requested op e given) != e) = true ∨
        hasPrefix (op.handled e) delPrefix = true) := by
    rintro rfl hnew hmark
    exact account_of_settle hn hsorted hfixed (by simp) ho hother hmark (hacts.accounts o ho hnew)
  cases op with
  | resetTraffic =>
      refine ⟨⟨hn, trivial⟩, Or.inl (Bool.eq_true_of_not_eq_false fun hfalse => ?_)⟩
      have hword : contains (ClientOp.resetTraffic.handled e) "resetTraffic" = true :=
        contains_iff.2 ((contains_iff.1 (by decide)).trans (hasPrefix_iff.1 hpre).isInfix)
      exact himported hfalse ho (Or.inl hword)
  | del =>
      refine ⟨⟨hn, (clientAction_eq_remove_iff.1 haction).2⟩, Or.inl (Bool.eq_true_of_not_eq_false fun hfalse => ?_)⟩
      exact himported hfalse ho (Or.inr (Or.inr hpre))
  | update =>
      have hreplace := clientAction_eq_replace_iff.1 haction
      have hnil := hreplace
      rw [Bool.and_eq_true, requested, isNil_requestClient _ hpre, isNil_body, Option.not_isNone] at hreplace
      obtain ⟨name, hname⟩ := Option.isSome_iff_exists.1 hreplace.2
      obtain rfl := hbody name hname
      have hrequested : requested .update e given = client name := by
        rw [requested, requestClient_body, if_pos hreplace.1, hname]
        rfl
      have hnewName : ClientOp.update.newName e (client name) = name := if_neg hfreshEmpty
      have hledger : ledger = true := by
        refine Bool.eq_true_of_not_eq_false fun hfalse => ?_
        rw [hrequested, hnewName] at himported
        rw [hrequested] at hnil
        refine himported hfalse ho' (Or.inr (Or.inl ?_))
        rw [hnil, clientEmail_client]
        simp [hfreshEmpty, hfresh]
      refine ⟨⟨hn, hreplace.2, Bool.eq_false_iff.2 fun hreset => ?_⟩, Or.inl hledger⟩
      subst hledger
      have hown := hacts.own.1
      rw [after, hrequested, hnewName] at hown
      exact update_not_reset hpre hfreshEmpty hfresh hreset rfl hown
  | detach =>
      obtain ⟨hupdate, hreset⟩ := clientAction_eq_remove_iff.1 haction
      refine ⟨⟨hn, hreset, Bool.eq_false_iff.2 fun hdel => ?_, ?_⟩, Or.inr rfl⟩
      · cases ledger with
        | false => exact himported rfl ho (Or.inr (Or.inr hdel))
        | true =>
            have hown := hacts.own.1
            rw [after] at hown
            exact detach_not_del hdel hreset rfl (hasClient_of_remove he hn hsorted hfixed haction) hown
      · cases hstart : hasPrefix (ClientOp.detach.handled e) updatePrefix with
        | false => rfl
        | true =>
            rw [hstart, requested, isNil_requestClient _ hstart, isNil_body, Option.not_isNone] at hupdate
            exact hupdate

end Necessity

end Sample

/-! ## Which requests act on their account -/

namespace NamedRequests

def env : Environment := ⟨fun _ => true, fun _ => true, fun _ => (0, false), rfl⟩

end NamedRequests

end XrayWorker
end Vastora
