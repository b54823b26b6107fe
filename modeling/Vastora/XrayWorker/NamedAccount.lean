import Vastora.XrayWorker.Validity

/-!
# XrayWorker.NamedAccount — a client request and the account it names

A caller escapes the name of an account as one segment of the path.  The handler gets the path unescaped, cuts a slash
at its end, and finds the operation and the name by prefixes, suffixes and words; it unescapes the name again.  For
which names this is the account that was meant is settled by `client_request_acts_on_its_account_iff`.
-/

namespace Vastora
namespace XrayWorker

open Library Library.Guard Library.Pattern Library.Text Library.PathEscape Landing

/-! ## Requests by name -/

inductive ClientOp where
  | update | del | resetTraffic | detach
deriving DecidableEq

namespace ClientOp

def before : ClientOp → String
  | update => updatePrefix
  | del => delPrefix
  | resetTraffic => resetTrafficPrefix
  | detach => clientsPrefix

def after : ClientOp → String
  | detach => "/detach"
  | _ => ""

/-- The path that a caller sends. -/
def target (op : ClientOp) (e : String) : List Char := op.before.toList ++ (pathEscape e ++ op.after.toList)

/-- The path that the handler works on. -/
def handled (op : ClientOp) (e : String) : String :=
  trimSuffix (String.ofList (op.before.toList ++ (e.toList ++ op.after.toList))) "/"

/-- What the operation is to do with the clients of an inbound. -/
def clients (op : ClientOp) (e : String) (client : Json) (clients : List Json) : List Json :=
  match op with
  | update => clients.map fun current => if clientEmail current = e then client else current
  | del | detach => clients.filter fun current => clientEmail current ≠ e
  | resetTraffic => clients

/-- What it is to do with the counters that are kept with an inbound. -/
def stats (op : ClientOp) (e : String) (stats : List Json) : List Json :=
  match op with
  | resetTraffic => stats.map (resetStat e)
  | _ => stats

/-- The name of the account afterwards. -/
def newName (op : ClientOp) (e : String) (client : Json) : String :=
  match op with
  | update => if clientEmail client = "" then e else clientEmail client
  | _ => e

/-- What it is to do with the entry of the account in a map of the state; only counters are reset. -/
def Entry {α : Type} (op : ClientOp) (zero : α) (counters : Bool) (e new : String) (remains : Bool)
    (m m' : Option (StringMap α)) : Prop :=
  let entry := fun (m : Option (StringMap α)) name => m.bind (·.lookup name)
  match op with
  | update =>
      if new = e then entry m' e = entry m e
      else entry m' e = none ∧ entry m' new = m.map fun m => (m.lookup e).getD zero
  | del => entry m' e = if remains then entry m e else none
  | resetTraffic => entry m' e = if counters then m.map fun _ => zero else entry m e
  | detach => entry m' e = entry m e

end ClientOp

def clientStats (inbound : Json) : List Json := (itemsField "clientStats" inbound).getD []

def State.account (state : State) (name : String) : Option Traffic := state.accountStats.bind (·.lookup name)

def State.controller (state : State) (name : String) : Option Traffic :=
  state.controllerStats.bind (·.lookup name)

/-- The inbound that is stored has the clients and counters that the operation asks for, and else is the one that
was read. -/
structure InboundEffect (op : ClientOp) (e : String) (client inbound inbound' : Json) : Prop where
  clients : inboundClients inbound' = op.clients e client (inboundClients inbound)
  stats : clientStats inbound' = op.stats e (clientStats inbound)
  members : ∀ key, key ≠ "settings" → key ≠ "clientStats" → inbound'.field? key = inbound.field? key
  settings : ∀ key, key ≠ "clients" →
    (mapField "settings" inbound').field? key = (mapField "settings" inbound).field? key

def State.blocked (state : State) (name : String) : Option Bool := state.blockedAccounts.bind (·.lookup name)

/-- The request has acted on the account and on nothing else.  No counters are written out for a state that has none of
its own, so that those kept with its inbounds still count. -/
structure ActsOn (env : Environment) (op : ClientOp) (e : String) (ids : List Int) (client : Json)
    (state state' : State) : Prop where
  inbounds : List.Forall₂ (fun raw raw' =>
    if Selected env ids raw ∧ HasNamed (some e) raw then InboundEffect op e client (inboundMap raw) raw'
    else raw' = raw) state.inbounds state'.inbounds
  accounts : ∀ name, name ≠ e → name ≠ op.newName e client → state'.account name = state.account name
  controllers : ∀ name, name ≠ e → name ≠ op.newName e client → state'.controller name = state.controller name
  blocks : ∀ name, name ≠ e → name ≠ op.newName e client → state'.blocked name = state.blocked name
  effective : state.accountStats.isSome = true → ∀ name, name ≠ e → name ≠ op.newName e client →
    (xrayWorkerAccountStats env state').lookup name = (xrayWorkerAccountStats env state).lookup name
  imported : state.accountStats = none → state'.accountStats = none
  retained : op = .del ∨ op = .detach → ∀ name, xrayWorkerHasClient state' name = true →
    state'.account name = state.account name ∧ state'.controller name = state.controller name ∧
      state'.blocked name = state.blocked name
  own :
    let remains := xrayWorkerHasClient state' e
    op.Entry .zero true e (op.newName e client) remains state.accountStats state'.accountStats ∧
      op.Entry .zero true e (op.newName e client) remains state.controllerStats state'.controllerStats ∧
      op.Entry false false e (op.newName e client) remains state.blockedAccounts state'.blockedAccounts
  rest : state' = { state with
    inbounds := state'.inbounds, accountStats := state'.accountStats, controllerStats := state'.controllerStats
    blockedAccounts := state'.blockedAccounts }

/-- The handler finds the account and the operation that the path was made for. -/
def Recovers (op : ClientOp) (e : String) (given : Bool) : Prop :=
  let path := op.handled e
  requestedEmail path = some e ∧
    match op with
    | .update => given = true ∧ contains path "resetTraffic" = false
    | .del => contains path "resetTraffic" = false
    | .resetTraffic => True
    | .detach => contains path "resetTraffic" = false ∧ hasPrefix path delPrefix = false ∧
        (hasPrefix path updatePrefix && given) = false

instance (op : ClientOp) (e : String) (given : Bool) : Decidable (Recovers op e given) := by
  unfold Recovers
  cases op <;> infer_instance

/-- No client has the name that the handler finds, and the request is rejected. -/
def Rejected (op : ClientOp) (e : String) : Prop := ((requestedEmail (op.handled e)).all fun name =>
  trimSpace name == "") = true

instance (op : ClientOp) (e : String) : Decidable (Rejected op e) := by
  unfold Rejected
  infer_instance

/-! ## Paths -/

section Paths

variable {op : ClientOp} {e path : String}

theorem urlText_target (op : ClientOp) (e : String) :
    urlText (op.target e) = some (String.ofList (op.before.toList ++ (e.toList ++ op.after.toList))) := by
  have hbefore : (op.before.toList.all (· != '%')) = true := by cases op <;> decide
  have hafter : (op.after.toList.all (· != '%')) = true := by cases op <;> decide
  simp only [List.all_eq_true, bne_iff_ne] at hbefore hafter
  exact urlText_pathEscape e hbefore hafter

theorem hasPrefix_iff {s pre : String} : hasPrefix s pre = true ↔ pre.toList <+: s.toList := by
  rw [hasPrefix, List.isPrefixOf_iff_prefix]

/-- Two prefixes of a text are prefixes of each other. -/
theorem not_hasPrefix {a b : String} (h : hasPrefix path a = true)
    (hab : (a.toList.isPrefixOf b.toList || b.toList.isPrefixOf a.toList) = false) : hasPrefix path b = false := by
  rw [← Bool.not_eq_true]
  intro hb
  rw [Bool.or_eq_false_iff] at hab
  rcases List.prefix_or_prefix_of_prefix (hasPrefix_iff.1 h) (hasPrefix_iff.1 hb) with hpre | hpre
  · rw [List.isPrefixOf_iff_prefix.2 hpre] at hab
    cases hab.1
  · rw [List.isPrefixOf_iff_prefix.2 hpre] at hab
    cases hab.2

theorem ne_of_hasPrefix {a b : String} (h : hasPrefix path a = true) (hab : hasPrefix b a = false) : path ≠ b := by
  rintro rfl
  rw [h] at hab
  cases hab

/-- Cutting a slash leaves the text before the name alone. -/
theorem handled_eq (op : ClientOp) (he : e ≠ "") :
    ∃ rest, op.handled e = String.ofList (op.before.toList ++ rest) := by
  have hne : e.toList ++ op.after.toList ≠ [] := by
    intro hnil
    exact he (String.toList_eq_nil_iff.1 (List.append_eq_nil_iff.1 hnil).1)
  have hlen : 0 < (e.toList ++ op.after.toList).length := List.length_pos_iff.2 hne
  unfold ClientOp.handled trimSuffix
  split
  · refine ⟨(e.toList ++ op.after.toList).take ((e.toList ++ op.after.toList).length - 1), ?_⟩
    have hslash : "/".toList.length = 1 := rfl
    rw [String.toList_ofList, List.length_append, hslash, Nat.add_sub_assoc hlen, List.take_length_add_append]
  · exact ⟨_, rfl⟩

theorem hasPrefix_handled (op : ClientOp) (he : e ≠ "") : hasPrefix (op.handled e) op.before = true := by
  obtain ⟨rest, hrest⟩ := handled_eq op he
  rw [hrest, hasPrefix_iff, String.toList_ofList]
  exact List.prefix_append _ _

theorem hasPrefix_clients (op : ClientOp) (he : e ≠ "") : hasPrefix (op.handled e) clientsPrefix = true := by
  have hbefore : clientsPrefix.toList <+: op.before.toList := by
    rw [← List.isPrefixOf_iff_prefix]
    cases op <;> decide
  exact hasPrefix_iff.2 (hbefore.trans (hasPrefix_iff.1 (hasPrefix_handled op he)))

theorem hasSuffix_handled_detach (e : String) : hasSuffix (ClientOp.detach.handled e) "/detach" = true := by
  have hpath : ClientOp.detach.handled e =
      String.ofList (clientsPrefix.toList ++ (e.toList ++ "/detach".toList)) := by
    have hsuffix : hasSuffix (String.ofList (clientsPrefix.toList ++ (e.toList ++ "/detach".toList))) "/" =
        false := by
      rw [hasSuffix, String.toList_ofList (l := clientsPrefix.toList ++ (e.toList ++ "/detach".toList)),
        ← List.append_assoc, ← Bool.not_eq_true, List.isSuffixOf_iff_suffix]
      rintro ⟨t, ht⟩
      have hlast := congrArg List.getLast? ht
      have hslash : "/".toList.getLast? = some '/' := by decide
      have hdetach : "/detach".toList.getLast? = some 'h' := by decide
      rw [List.getLast?_append, List.getLast?_append, hslash, hdetach, Option.some_or, Option.some_or] at hlast
      exact absurd (Option.some.inj hlast) (by decide)
    exact if_neg (by rw [Bool.not_eq_true]; exact hsuffix)
  rw [hpath, hasSuffix, List.isSuffixOf_iff_suffix,
    String.toList_ofList (l := clientsPrefix.toList ++ (e.toList ++ "/detach".toList)), ← List.append_assoc]
  exact List.suffix_append _ _

/-- The paths of these requests are no others. -/
theorem handled_ne (op : ClientOp) (he : e ≠ "") {other : String}
    (hother : (op.before.toList.isPrefixOf other.toList && hasSuffix other op.after) = false) :
    op.handled e ≠ other := by
  intro heq
  have hpre := hasPrefix_handled op he
  rw [heq] at hpre
  rw [hasPrefix] at hpre
  rw [hpre, Bool.true_and] at hother
  cases op with
  | detach =>
      have hsuf := hasSuffix_handled_detach e
      rw [heq] at hsuf
      exact Bool.false_ne_true (hother.symm.trans hsuf)
  | update | del | resetTraffic => exact Bool.false_ne_true (hother.symm.trans (by simp [ClientOp.after, hasSuffix]))

theorem handled_not_read (op : ClientOp) (he : e ≠ "") {others : List String}
    (hothers : (others.all fun other => !(op.before.toList.isPrefixOf other.toList && hasSuffix other op.after)) =
      true) : others.contains (op.handled e) = false := by
  rw [← Bool.not_eq_true, List.contains_iff_mem]
  intro hmem
  exact handled_ne op he (Bool.not_eq_true' _ ▸ List.all_eq_true.1 hothers _ hmem) rfl

/-- A client request is answered by the client operations. -/
theorem postRequest_clients (env : Environment) (state : State) (request : Request)
    (hpre : hasPrefix path clientsPrefix = true) (hread : postedReads.contains path = false) :
    postRequest env state request path = some <$> mutateXrayWorkerClients env state request path := by
  have hhosts := not_hasPrefix (b := "/panel/api/hosts/update/") hpre (by decide)
  have hinbounds := not_hasPrefix (b := "/panel/api/inbounds/") hpre (by decide)
  have hne : ∀ other ∈ ["/panel/api/hosts/add", "/panel/api/server/restartXrayService", "/panel/api/xray/update",
      "/panel/api/inbounds/add", "/panel/api/inbounds/resetAllTraffics"], path ≠ other := by
    intro other hother
    have hall : (["/panel/api/hosts/add", "/panel/api/server/restartXrayService", "/panel/api/xray/update",
        "/panel/api/inbounds/add", "/panel/api/inbounds/resetAllTraffics"].all fun other =>
        !hasPrefix other clientsPrefix) = true := by decide
    exact ne_of_hasPrefix hpre (Bool.not_eq_true' _ ▸ List.all_eq_true.1 hall other hother)
  simp only [List.forall_mem_cons, List.not_mem_nil, false_imp_iff, implies_true, and_true] at hne
  simp only [postRequest, hread, hhosts, hinbounds, hne, hpre, Bool.false_eq_true, if_false, if_true, or_false,
    Bool.false_and]

end Paths

/-! ## Inbounds -/

section Inbounds

variable {op : ClientOp} {e path : String} {client inbound : Json} {clients : List Json}

theorem isNil_eq_false_iff {j : Json} : isNil j = false ↔ j.members?.isSome = true := by
  cases j <;> simp [isNil, Json.members?]

theorem mapField_of_field? {key : String} {j value : Json} (h : j.field? key = some value)
    (hvalue : isNil value = false) : mapField key j = value := by
  unfold mapField
  rw [h]
  cases value <;> first | rfl | cases hvalue

theorem mapField_congr {key : String} {j j' : Json} (h : j'.field? key = j.field? key) :
    mapField key j' = mapField key j := by
  unfold mapField
  rw [h]

theorem mapField_setClients (h : isNil (mapField "settings" inbound) = false) :
    mapField "settings" (setClients inbound clients) =
      (mapField "settings" inbound).setField "clients" (.array clients) := by
  obtain ⟨members, hfield, -⟩ := mapField_eq_object h
  obtain ⟨outer, rfl, -⟩ := Json.eq_object_of_field? hfield
  refine mapField_of_field? (Json.field?_setField_self rfl) ?_
  rw [isNil_eq_false_iff, Json.members?_setField_isSome]
  exact isNil_eq_false_iff.1 h

theorem inboundClients_setClients (h : isNil (mapField "settings" inbound) = false) :
    inboundClients (setClients inbound clients) = clients := by
  rw [inboundClients, mapField_setClients h, itemsField, Json.field?_setField_self (isNil_eq_false_iff.1 h)]
  rfl

theorem field?_setClients {key : String} (h : key ≠ "settings") :
    (setClients inbound clients).field? key = inbound.field? key := Json.field?_setField_of_ne h

theorem field?_resetXrayWorkerClientTraffic {key : String} (h : key ≠ "clientStats") :
    (resetXrayWorkerClientTraffic inbound e).field? key = inbound.field? key := Json.field?_setField_of_ne h

theorem clientStats_resetXrayWorkerClientTraffic (h : inbound.members?.isSome) :
    clientStats (resetXrayWorkerClientTraffic inbound e) = (clientStats inbound).map (resetStat e) := by
  unfold clientStats resetXrayWorkerClientTraffic
  rw [itemsField, Json.field?_setField_self h]
  cases itemsField "clientStats" inbound with
  | none => rfl
  | some stats => rfl

/-- The action that an operation stands for. -/
def ClientOp.action : ClientOp → Action
  | update => .replace
  | resetTraffic => .reset
  | del | detach => .remove

theorem flatMap_action : clients.flatMap (op.action.apply (some e) client) = op.clients e client clients := by
  induction clients with
  | nil => cases op <;> rfl
  | cons current clients ih =>
      rw [List.flatMap_cons, ih]
      by_cases hname : clientEmail current = e
      · cases op <;> simp [Action.apply, ClientOp.action, ClientOp.clients, hname]
      · cases op <;> simp [Action.apply, ClientOp.clients, hname]

theorem members?_of_settings (h : isNil (mapField "settings" inbound) = false) : inbound.members?.isSome = true := by
  obtain ⟨members, hfield, -⟩ := mapField_eq_object h
  obtain ⟨outer, rfl, -⟩ := Json.eq_object_of_field? hfield
  rfl

/-- What an action does to the counters that are kept with an inbound. -/
def Action.stats (action : Action) (email : Option String) (stats : List Json) : List Json :=
  match action, email with
  | .reset, some name => stats.map (resetStat name)
  | _, _ => stats

/-- The inbound that is stored, in its parts. -/
theorem editedMap_parts (path : String) (client : Json) (hsettings : isNil (mapField "settings" inbound) = false) :
    inboundClients (editedMap path client inbound) = (inboundClients inbound).flatMap
      ((clientAction path client).apply (requestedEmail path) client) ∧
    clientStats (editedMap path client inbound) =
      (clientAction path client).stats (requestedEmail path) (clientStats inbound) ∧
    (∀ key, key ≠ "settings" → key ≠ "clientStats" →
      (editedMap path client inbound).field? key = inbound.field? key) ∧
    ∀ key, key ≠ "clients" → (mapField "settings" (editedMap path client inbound)).field? key =
      (mapField "settings" inbound).field? key := by
  have hkeys : "settings" ≠ "clientStats" ∧ "clientStats" ≠ "settings" := by decide
  -- The counters are written first, and leave the settings alone.
  have hparts : ∀ counted clients, counted.field? "settings" = inbound.field? "settings" →
      (∀ key, key ≠ "clientStats" → counted.field? key = inbound.field? key) →
      inboundClients (setClients counted clients) = clients ∧
      clientStats (setClients counted clients) = clientStats counted ∧
      (∀ key, key ≠ "settings" → key ≠ "clientStats" → (setClients counted clients).field? key = inbound.field? key) ∧
      ∀ key, key ≠ "clients" → (mapField "settings" (setClients counted clients)).field? key =
        (mapField "settings" inbound).field? key := by
    intro counted clients hfield hother
    have hmap : mapField "settings" counted = mapField "settings" inbound := mapField_congr hfield
    have hcounted : isNil (mapField "settings" counted) = false := by rw [hmap]; exact hsettings
    refine ⟨inboundClients_setClients hcounted, ?_, fun key hkey hstats => ?_, fun key hkey => ?_⟩
    · unfold clientStats itemsField
      rw [field?_setClients hkeys.2]
    · rw [field?_setClients hkey, hother key hstats]
    · rw [mapField_setClients hcounted, Json.field?_setField_of_ne hkey, hmap]
  have hkeep := fun clients => hparts inbound clients rfl fun _ _ => rfl
  simp only [editedMap]
  cases clientAction path client with
  | replace | remove => exact hkeep _
  | reset =>
      cases requestedEmail path with
      | none => exact hkeep _
      | some name =>
          have hreset := hparts (resetXrayWorkerClientTraffic inbound name)
            ((inboundClients inbound).flatMap (Action.reset.apply (some name) client))
            (field?_resetXrayWorkerClientTraffic hkeys.1) fun _ => field?_resetXrayWorkerClientTraffic
          rw [clientStats_resetXrayWorkerClientTraffic (members?_of_settings hsettings)] at hreset
          exact hreset

/-- The marks in a path by which the handler knows the operation. -/
structure Marked (op : ClientOp) (path : String) (client : Json) : Prop where
  reset : contains path "resetTraffic" = decide (op = .resetTraffic)
  update : (hasPrefix path updatePrefix && !isNil client) = decide (op = .update)
  del : hasPrefix path delPrefix = decide (op = .del)

theorem Marked.action (h : Marked op path client) : clientAction path client = op.action := by
  rw [clientAction, h.update, h.reset]
  cases op <;> rfl

theorem stats_action {stats : List Json} : op.action.stats (some e) stats = op.stats e stats := by
  cases op <;> rfl

theorem inboundEffect (h : Marked op path client) (hemail : requestedEmail path = some e)
    (hsettings : isNil (mapField "settings" inbound) = false) :
    InboundEffect op e client inbound (editedMap path client inbound) := by
  obtain ⟨hclients, hstats, hmembers, hinner⟩ := editedMap_parts path client hsettings
  rw [h.action, hemail, flatMap_action] at hclients
  rw [h.action, hemail, stats_action] at hstats
  exact ⟨hclients, hstats, hmembers, hinner⟩

end Inbounds

/-! ## Counters -/

section Counters

variable {op : ClientOp} {e path : String} {client : Json}

section Maps

variable {α : Type} {zero : α} {counters remains : Bool} {new : String}

/-- A map of the state after an operation. -/
def ClientOp.settled (op : ClientOp) (zero : α) (counters : Bool) (e new : String) (remains : Bool)
    (m : StringMap α) : StringMap α :=
  match op with
  | update => if new = e then m else moveEntry zero e new m
  | del => if remains then m else m.erase e
  | resetTraffic => if counters then m.insert e zero else m
  | detach => m

theorem settled_update_self : ClientOp.update.settled zero counters e e remains = id :=
  funext fun _ => if_pos rfl

theorem settled_update_of_ne (h : new ≠ e) :
    ClientOp.update.settled zero counters e new remains = moveEntry zero e new :=
  funext fun _ => if_neg h

theorem settled_detach : ClientOp.detach.settled zero counters e new remains = id := rfl

theorem settled_del_of_remains : ClientOp.del.settled zero counters e new true = id := rfl

theorem settled_del_of_gone : ClientOp.del.settled zero counters e new false = (·.erase e) := rfl

theorem settled_reset_counters : ClientOp.resetTraffic.settled zero true e new remains = (·.insert e zero) := rfl

theorem settled_reset_blocks : ClientOp.resetTraffic.settled zero false e new remains = id := rfl

theorem lookup_settled {name : String} (m : Option (StringMap α)) (hname : name ≠ e) (hnew : name ≠ new) :
    (m.map (op.settled zero counters e new remains)).bind (·.lookup name) = m.bind (·.lookup name) := by
  cases m with
  | none => rfl
  | some m =>
      cases op with
      | update =>
          by_cases hsame : new = e
          · simp [ClientOp.settled, hsame]
          · simp [ClientOp.settled, hsame, moveEntry, AList.lookup_erase_ne hname, AList.lookup_insert_ne hnew]
      | del => cases remains <;> simp [ClientOp.settled, AList.lookup_erase_ne hname]
      | resetTraffic => cases counters <;> simp [ClientOp.settled, AList.lookup_insert_ne hname]
      | detach => rfl

theorem entry_settled (op : ClientOp) (zero : α) (counters : Bool) (e new : String) (remains : Bool)
    (m : Option (StringMap α)) :
    op.Entry zero counters e new remains m (m.map (op.settled zero counters e new remains)) := by
  cases m with
  | none => cases op <;> simp [ClientOp.Entry]
  | some m =>
      cases op with
      | update =>
          by_cases hnew : new = e
          · simp [ClientOp.Entry, ClientOp.settled, hnew]
          · simp [ClientOp.Entry, ClientOp.settled, hnew, moveEntry, AList.lookup_erase,
              AList.lookup_erase_ne hnew, AList.lookup_insert]
      | del => cases remains <;> simp [ClientOp.Entry, ClientOp.settled, AList.lookup_erase]
      | resetTraffic => cases counters <;> simp [ClientOp.Entry, ClientOp.settled, AList.lookup_insert]
      | detach => simp [ClientOp.Entry, ClientOp.settled]

end Maps

variable {env : Environment} {state : State}

theorem settleReset_inbounds : (settleReset env path e state).inbounds = state.inbounds := by
  unfold settleReset
  split <;> rfl

theorem settleUpdate_inbounds : (settleUpdate env path e client state).inbounds = state.inbounds := by
  unfold settleUpdate
  dsimp only
  split <;> rfl

theorem settleDel_inbounds : (settleDel env path e state).inbounds = state.inbounds := by
  unfold settleDel
  dsimp only
  split
  · split <;> rfl
  · rfl

theorem settle_inbounds : (settle env path e client state).inbounds = state.inbounds := by
  rw [settle, settleDel_inbounds, settleUpdate_inbounds, settleReset_inbounds]

theorem xrayWorkerHasClient_congr {state' : State} {name : String} (h : state'.inbounds = state.inbounds) :
    xrayWorkerHasClient state' name = xrayWorkerHasClient state name := by
  rw [xrayWorkerHasClient, xrayWorkerHasClient, h]

theorem settleReset_of_not (h : contains path "resetTraffic" = false) : settleReset env path e state = state := by
  rw [settleReset, h]
  rfl

theorem settleUpdate_of_not (h : (hasPrefix path updatePrefix && !isNil client) = false) :
    settleUpdate env path e client state = state := by
  simp [settleUpdate, h]

theorem settleDel_of_not (h : hasPrefix path delPrefix = false) : settleDel env path e state = state := by
  rw [settleDel, h]
  rfl

theorem newName_update (e : String) (client : Json) :
    (clientEmail client != "" && clientEmail client != e) = false ∧ ClientOp.update.newName e client = e ∨
      clientEmail client ≠ "" ∧ clientEmail client ≠ e ∧
        ClientOp.update.newName e client = clientEmail client := by
  by_cases hempty : clientEmail client = ""
  · exact Or.inl (by simp [ClientOp.newName, hempty])
  · by_cases hsame : clientEmail client = e
    · exact Or.inl (by simp [ClientOp.newName, hsame])
    · exact Or.inr ⟨hempty, hsame, by simp [ClientOp.newName, hempty]⟩

/-- The maps of the state after the operation. -/
def settledState (op : ClientOp) (e new : String) (remains : Bool) (state : State) : State :=
  { state with
    accountStats := state.accountStats.map (op.settled .zero true e new remains)
    controllerStats := state.controllerStats.map (op.settled .zero true e new remains)
    blockedAccounts := state.blockedAccounts.map (op.settled false false e new remains) }

theorem settledState_id {new : String} {remains : Bool} (state : State)
    (h : ∀ (α : Type) (zero : α) counters, op.settled zero counters e new remains = id) :
    settledState op e new remains state = state := by
  simp only [settledState, h, Option.map_id_fun, id_eq]

/-- The state is settled for the operation that the marks stand for. -/
theorem settle_eq (env : Environment) (e : String) (state : State) (h : Marked op path client)
    (hledger : state.accountStats.isSome ∨ op = .detach) :
    settle env path e client state =
      settledState op e (op.newName e client) (xrayWorkerHasClient state e) state := by
  obtain ⟨hreset, hupdate, hdel⟩ := h
  cases op with
  | detach =>
      rw [settle, settleReset_of_not hreset, settleUpdate_of_not hupdate, settleDel_of_not hdel, settledState_id]
      exact fun _ _ _ => settled_detach
  | update =>
      obtain ⟨m, hm⟩ := Option.isSome_iff_exists.1 (hledger.resolve_right (by decide))
      rw [settle, settleReset_of_not hreset, settleDel_of_not hdel, settleUpdate, hupdate]
      rcases newName_update e client with ⟨hkeep, hsame⟩ | ⟨hempty, hne, hnew⟩
      · rw [hsame, settledState_id state fun _ _ _ => settled_update_self, Bool.and_assoc, hkeep, Bool.and_false]
        rfl
      · simp [hnew, settledState, settled_update_of_ne hne, hempty, hne, xrayWorkerAccountStats, hm]
  | del =>
      obtain ⟨m, hm⟩ := Option.isSome_iff_exists.1 (hledger.resolve_right (by decide))
      rw [settle, settleReset_of_not hreset, settleUpdate_of_not hupdate, settleDel, hdel]
      cases hclient : xrayWorkerHasClient state e with
      | false => simp [settledState, settled_del_of_gone, xrayWorkerAccountStats, hm]
      | true => simp [settledState, settled_del_of_remains, xrayWorkerAccountStats, hm]
  | resetTraffic =>
      obtain ⟨m, hm⟩ := Option.isSome_iff_exists.1 (hledger.resolve_right (by decide))
      rw [settle, settleUpdate_of_not hupdate, settleDel_of_not hdel, settleReset, hreset]
      simp [settledState, settled_reset_counters, settled_reset_blocks, xrayWorkerAccountStats, hm]

end Counters

/-! ## The effect of a request -/

section Effect

variable {env : Environment} {op : ClientOp} {e path : String} {ids : List Int} {client : Json} {state : State}

theorem actsOn_of_marked (hvalid : state.Valid env) (h : Marked op path client)
    (hemail : requestedEmail path = some e) (hledger : state.accountStats.isSome ∨ op = .detach) :
    ActsOn env op e ids client state (settle env path e client (editedState env ids path client state)) := by
  have hremains : xrayWorkerHasClient (settle env path e client (editedState env ids path client state)) e =
      xrayWorkerHasClient (editedState env ids path client state) e := xrayWorkerHasClient_congr settle_inbounds
  have hsettle := settle_eq env e (editedState env ids path client state) h hledger
  constructor
  case inbounds =>
    rw [settle_inbounds, editedState, editedInbounds, List.forall₂_map_right_iff, List.forall₂_same]
    intro raw hraw
    rw [hemail]
    split
    · obtain ⟨clients, hitems, -⟩ := hvalid.clients hraw
      exact inboundEffect h hemail (isNil_mapField_of_items hitems)
    · rfl
  case accounts | controllers | blocks =>
    intro name hname hnew
    rw [hsettle]
    exact lookup_settled _ hname hnew
  case effective =>
    intro hsome name hname hnew
    obtain ⟨m, hm⟩ := Option.isSome_iff_exists.1 hsome
    have hlookup : (settle env path e client (editedState env ids path client state)).account name =
        state.account name := by
      rw [hsettle]
      exact lookup_settled _ hname hnew
    rw [hsettle] at hlookup ⊢
    simpa [xrayWorkerAccountStats, State.account, settledState, editedState, hm] using hlookup
  case imported =>
    intro hnone
    rw [hsettle]
    simp [settledState, editedState, hnone]
  case retained =>
    intro hop name hclient
    have hnewName : op.newName e client = e := by rcases hop with rfl | rfl <;> rfl
    rw [hsettle]
    by_cases hname : name = e
    · -- A client of the name is left, so that nothing is taken from the maps.
      subst hname
      rw [hremains] at hclient
      rw [hclient, settledState_id _ (by intros; rcases hop with rfl | rfl <;> rfl)]
      exact ⟨rfl, rfl, rfl⟩
    · have hnew : name ≠ op.newName e client := fun heq => hname (heq.trans hnewName)
      exact ⟨lookup_settled _ hname hnew, lookup_settled _ hname hnew, lookup_settled _ hname hnew⟩
  case own =>
    rw [hremains, hsettle]
    exact ⟨entry_settled .., entry_settled .., entry_settled ..⟩
  case rest =>
    rw [hsettle]
    rfl

end Effect

/-! ## Marks -/

section Marks

variable {op : ClientOp} {e path : String} {body : Json} {given : Bool}

theorem contains_iff {s sub : String} : contains s sub = true ↔ sub.toList <:+: s.toList := by
  rw [contains, List.any_eq_true, List.infix_iff_prefix_suffix]
  simp only [List.mem_tails, List.isPrefixOf_iff_prefix]
  exact ⟨fun ⟨t, hsuffix, hprefix⟩ => ⟨t, hprefix, hsuffix⟩, fun ⟨t, hprefix, hsuffix⟩ => ⟨t, hsuffix, hprefix⟩⟩

theorem isNil_requestClient (body : Json) (h : hasPrefix path updatePrefix = true) :
    isNil (requestClient body path) = isNil body := by
  cases hclient : isNil (mapField "client" body) with
  | true => simp only [requestClient, hclient, h, Bool.and_self, if_true]
  | false =>
      obtain ⟨members, hfield, -⟩ := mapField_eq_object hclient
      obtain ⟨outer, rfl, -⟩ := Json.eq_object_of_field? hfield
      simp only [requestClient, hclient, Bool.false_and, Bool.false_eq_true, if_false]
      rfl

/-- The handler recovers a request exactly when it finds its name and its marks. -/
theorem recovers_iff (he : e ≠ "") (hbody : isNil body = !given) : Recovers op e given ↔
    requestedEmail (op.handled e) = some e ∧ Marked op (op.handled e) (requestClient body (op.handled e)) := by
  have hpre := hasPrefix_handled op he
  unfold Recovers
  refine and_congr_right fun _ => ?_
  cases op with
  | update =>
      have hdel : hasPrefix (ClientOp.update.handled e) delPrefix = false := not_hasPrefix hpre (by decide)
      have hclient := isNil_requestClient body hpre
      constructor
      · rintro ⟨rfl, hreset⟩
        exact ⟨hreset, by rw [hclient, hbody, show hasPrefix _ updatePrefix = true from hpre]; rfl, hdel⟩
      · rintro ⟨hreset, hupdate, -⟩
        rw [hclient, hbody, show hasPrefix _ updatePrefix = true from hpre] at hupdate
        exact ⟨by simpa using hupdate, hreset⟩
  | del =>
      have hupdate : hasPrefix (ClientOp.del.handled e) updatePrefix = false := not_hasPrefix hpre (by decide)
      exact ⟨fun hreset => ⟨hreset, by rw [hupdate]; rfl, hpre⟩, fun hmarked => hmarked.reset⟩
  | resetTraffic =>
      have hupdate : hasPrefix (ClientOp.resetTraffic.handled e) updatePrefix = false :=
        not_hasPrefix hpre (by decide)
      have hdel : hasPrefix (ClientOp.resetTraffic.handled e) delPrefix = false := not_hasPrefix hpre (by decide)
      have hword : contains (ClientOp.resetTraffic.handled e) "resetTraffic" = true := by
        have hin : contains resetTrafficPrefix "resetTraffic" = true := by decide
        exact contains_iff.2 ((contains_iff.1 hin).trans (hasPrefix_iff.1 hpre).isInfix)
      exact ⟨fun _ => ⟨hword, by rw [hupdate]; rfl, hdel⟩, fun _ => trivial⟩
  | detach =>
      have hclient : (hasPrefix (ClientOp.detach.handled e) updatePrefix &&
          !isNil (requestClient body (ClientOp.detach.handled e))) =
          (hasPrefix (ClientOp.detach.handled e) updatePrefix && given) := by
        cases hupdate : hasPrefix (ClientOp.detach.handled e) updatePrefix with
        | false => rfl
        | true => rw [isNil_requestClient body hupdate, hbody, Bool.not_not]
      constructor
      · rintro ⟨hreset, hdel, hupdate⟩
        exact ⟨hreset, by rw [hclient, hupdate]; rfl, hdel⟩
      · rintro ⟨hreset, hupdate, hdel⟩
        exact ⟨hreset, hdel, by rw [← hclient, hupdate]; rfl⟩

end Marks

end XrayWorker
end Vastora
