import Vastora.XrayWorker.Api

/-!
# XrayWorker.Edits — what a client request does when it succeeds

`editClients`, `editInbound` and `mutateXrayWorkerClients` each have one lemma that says when they succeed and what
they return then: the clients of the requested name in the selected inbounds are replaced, kept or removed, inbounds
without such a client stay as they are stored, and the counters are settled afterwards.
-/

namespace Vastora
namespace XrayWorker

open Library Library.Guard Library.Pattern Library.Text Landing

theorem map_some_eq_ok_iff {α : Type} {x : Except String α} {a : α} :
    (some <$> x) = .ok (some a) ↔ x = .ok a := by
  cases x <;> simp [Functor.map, Except.map]

/-! ## Clients -/

/-- What becomes of a client. -/
def Action.apply (action : Action) (email : Option String) (client current : Json) : List Json :=
  if some (clientEmail current) = email then
    match action with
    | .replace => [client]
    | .reset => [current]
    | .remove => []
  else [current]

section Clients

variable {action : Action} {email : Option String} {client : Json} {protocol : String}
  {clients clients' : List Json} {changed : Bool}

theorem editClient_eq_ok_iff {current : Json} {edited : List Json} (h : some (clientEmail current) = email) :
    editClient action client protocol current = .ok edited ↔
      (action = .replace → sameXrayWorkerClientCredential current client protocol = true) ∧
      edited = action.apply email client current := by
  cases action with
  | replace =>
      simp only [editClient, bind_eq_ok_iff, require_eq_ok_iff, exists_const, pure_eq_ok_iff, Action.apply, h,
        if_true, true_imp_iff]
      exact and_congr_right fun _ => eq_comm
  | reset | remove =>
      simp only [editClient, Except.ok.injEq, reduceCtorEq, false_imp_iff, true_and, Action.apply, h, if_true]
      exact eq_comm

theorem editClients_eq_ok_iff : editClients action email client protocol clients = .ok (clients', changed) ↔
    (action = .replace → ∀ current ∈ clients, some (clientEmail current) = email →
      sameXrayWorkerClientCredential current client protocol = true) ∧
    clients' = clients.flatMap (action.apply email client) ∧
    changed = clients.any fun current => some (clientEmail current) = email := by
  induction clients generalizing clients' changed with
  | nil =>
      simp only [editClients, Except.ok.injEq, Prod.mk.injEq, List.not_mem_nil, false_imp_iff, implies_true,
        true_and, List.flatMap_nil, List.any_nil]
      exact and_congr eq_comm eq_comm
  | cons current clients ih =>
      rw [editClients]
      by_cases hname : some (clientEmail current) = email
      · simp only [hname, if_true, bind_eq_ok_iff, editClient_eq_ok_iff hname, Prod.exists, ih, pure_eq_ok_iff,
          Prod.mk.injEq, List.flatMap_cons, List.any_cons, decide_true, Bool.true_or, List.forall_mem_cons]
        constructor
        · rintro ⟨edited, ⟨hcredential, rfl⟩, rest, flag, ⟨hall, rfl, -⟩, rfl, rfl⟩
          exact ⟨fun hreplace => ⟨fun _ => hcredential hreplace, hall hreplace⟩, rfl, rfl⟩
        · rintro ⟨hall, rfl, rfl⟩
          exact ⟨_, ⟨fun hreplace => (hall hreplace).1 trivial, rfl⟩, _, _,
            ⟨fun hreplace => (hall hreplace).2, rfl, rfl⟩, rfl, rfl⟩
      · have happly : action.apply email client current = [current] := if_neg hname
        simp only [hname, if_false, bind_eq_ok_iff, Prod.exists, ih, pure_eq_ok_iff, Prod.mk.injEq,
          List.flatMap_cons, happly, List.singleton_append, List.any_cons, decide_false, Bool.false_or,
          List.forall_mem_cons, false_imp_iff, true_and]
        constructor
        · rintro ⟨rest, flag, ⟨hall, rfl, rfl⟩, rfl, rfl⟩
          exact ⟨hall, rfl, rfl⟩
        · rintro ⟨hall, rfl, rfl⟩
          exact ⟨_, _, ⟨hall, rfl, rfl⟩, rfl, rfl⟩

end Clients

/-! ## Inbounds -/

section Inbounds

variable (env : Environment)

/-- A request is meant for the inbound. -/
def Selected (ids : List Int) (raw : Json) : Prop := ids = [] ∨ inboundID env raw ∈ ids

instance (ids : List Int) (raw : Json) : Decidable (Selected env ids raw) := by
  unfold Selected
  infer_instance

/-- The inbound has a client of a name. -/
def HasNamed (email : Option String) (raw : Json) : Prop :=
  ∃ current ∈ inboundClients (inboundMap raw), some (clientEmail current) = email

instance (email : Option String) (raw : Json) : Decidable (HasNamed email raw) := by
  unfold HasNamed
  infer_instance

/-- The map that is stored in the place of an inbound. -/
def editedMap (path : String) (client inbound : Json) : Json :=
  let action := clientAction path client
  let counted := match action, requestedEmail path with
    | .reset, some email => resetXrayWorkerClientTraffic inbound email
    | _, _ => inbound
  setClients counted ((inboundClients inbound).flatMap (action.apply (requestedEmail path) client))

variable {env} {ids : List Int} {path : String} {client raw raw' : Json} {changed : Bool}

theorem editInbound_eq_ok (hpath : path ≠ addPath)
    (h : editInbound env ids path client raw = .ok (raw', changed)) :
    (raw' = if Selected env ids raw ∧ HasNamed (requestedEmail path) raw
      then editedMap path client (inboundMap raw) else raw) ∧
    (changed = true → Selected env ids raw ∧ HasNamed (requestedEmail path) raw) := by
  unfold editInbound at h
  by_cases hselected : Selected env ids raw
  · have hcond : ¬ (ids ≠ [] ∧ inboundID env raw ∉ ids) := by
      rintro ⟨hne, hnot⟩
      exact hselected.elim hne hnot
    simp only [hcond, if_false, hpath, false_and, bind_eq_ok_iff, require_eq_ok_iff, exists_const, Prod.exists,
      editClients_eq_ok_iff] at h
    obtain ⟨-, clients, flag, ⟨-, rfl, rfl⟩, h⟩ := h
    by_cases hnamed : HasNamed (requestedEmail path) raw
    · have hany : ((inboundClients (inboundMap raw)).any fun current =>
          some (clientEmail current) = requestedEmail path) = true := by
        simpa [HasNamed] using hnamed
      rw [hany, if_pos rfl, pure_eq_ok_iff, Prod.mk.injEq] at h
      rw [if_pos ⟨hselected, hnamed⟩]
      exact ⟨h.1.symm, fun _ => ⟨hselected, hnamed⟩⟩
    · have hany : ((inboundClients (inboundMap raw)).any fun current =>
          some (clientEmail current) = requestedEmail path) = false := by
        simpa [HasNamed] using hnamed
      rw [hany, if_neg Bool.false_ne_true, pure_eq_ok_iff, Prod.mk.injEq] at h
      rw [if_neg fun hboth => hnamed hboth.2]
      refine ⟨h.1.symm, fun hchanged => ?_⟩
      rw [← h.2] at hchanged
      cases hchanged
  · have hcond : ids ≠ [] ∧ inboundID env raw ∉ ids := not_or.1 hselected
    simp only [hcond, ne_eq, not_false_eq_true, and_self, if_true, pure_eq_ok_iff, Prod.mk.injEq] at h
    rw [if_neg fun hboth => hselected hboth.1]
    refine ⟨h.1.symm, fun hchanged => ?_⟩
    rw [← h.2] at hchanged
    cases hchanged

/-- An inbound with settings and the right credentials is edited. -/
theorem editInbound_of_credentials (hpath : path ≠ addPath) (hselected : Selected env ids raw)
    (hsettings : isNil (mapField "settings" (inboundMap raw)) = false)
    (hcredentials : clientAction path client = .replace → ∀ current ∈ inboundClients (inboundMap raw),
      some (clientEmail current) = requestedEmail path →
      sameXrayWorkerClientCredential current client (textField "protocol" (inboundMap raw)) = true)
    (hnamed : HasNamed (requestedEmail path) raw) :
    editInbound env ids path client raw = .ok (editedMap path client (inboundMap raw), true) := by
  have hcond : ¬ (ids ≠ [] ∧ inboundID env raw ∉ ids) := by
    rintro ⟨hne, hnot⟩
    exact hselected.elim hne hnot
  have hany : ((inboundClients (inboundMap raw)).any fun current =>
      some (clientEmail current) = requestedEmail path) = true := by
    simpa [HasNamed] using hnamed
  have hclients := editClients_eq_ok_iff.2 ⟨hcredentials, rfl, hany.symm⟩
  unfold editInbound
  simp only [hcond, if_false, hpath, false_and, hsettings, Bool.not_false, hclients]
  rfl

end Inbounds

/-! ## States -/

section States

variable (env : Environment)

/-- The inbounds that a request stores. -/
def editedInbounds (ids : List Int) (path : String) (client : Json) (inbounds : List Json) : List Json :=
  inbounds.map fun raw =>
    if Selected env ids raw ∧ HasNamed (requestedEmail path) raw then editedMap path client (inboundMap raw)
    else raw

def editedState (ids : List Int) (path : String) (client : Json) (state : State) : State :=
  { state with inbounds := editedInbounds env ids path client state.inbounds }

/-- The counters after the clients of a name have been edited. -/
def settle (path email : String) (client : Json) (state : State) : State :=
  settleDel env path email (settleUpdate env path email client (settleReset env path email state))

variable {env} {ids : List Int} {path : String} {client : Json} {inbounds : List Json}
  {state state' : State} {request : Request}

theorem map_edited {edited : List (Json × Bool)} (hpath : path ≠ addPath)
    (h : List.Forall₂ (fun raw result => editInbound env ids path client raw = .ok result) inbounds edited) :
    edited.map Prod.fst = editedInbounds env ids path client inbounds ∧
      (edited.any Prod.snd = true →
        ∃ raw ∈ inbounds, Selected env ids raw ∧ HasNamed (requestedEmail path) raw) := by
  induction h with
  | nil => exact ⟨rfl, fun h => by cases h⟩
  | @cons raw result inbounds edited hraw hrest ih =>
      obtain ⟨hfst, hsnd⟩ := editInbound_eq_ok hpath hraw
      refine ⟨?_, fun hany => ?_⟩
      · rw [List.map_cons, ih.1, hfst]
        rfl
      · rcases Bool.or_eq_true _ _ ▸ hany with hhead | htail
        · exact ⟨raw, List.mem_cons_self, hsnd hhead⟩
        · obtain ⟨raw', hmem, hboth⟩ := ih.2 htail
          exact ⟨raw', List.mem_cons_of_mem _ hmem, hboth⟩

/-- A client request that succeeds has met a client of the name. -/
theorem mutate_eq_ok (hpath : path ≠ addPath)
    (h : mutateXrayWorkerClients env state request path = .ok state') :
    ∃ body, requestBody request = .ok body ∧
      (∃ raw ∈ state.inbounds, Selected env (targetIDs env body request) raw ∧
        HasNamed (requestedEmail path) raw) ∧
      state' = settle env path ((requestedEmail path).getD "") (requestClient body path)
        (editedState env (targetIDs env body request) path (requestClient body path) state) := by
  simp only [mutateXrayWorkerClients, bind_eq_ok_iff, require_eq_ok_iff, exists_const, mapM_eq_ok_iff,
    pure_eq_ok_iff] at h
  obtain ⟨-, body, hbody, -, -, edited, hedited, hany, rfl⟩ := h
  obtain ⟨hfst, hsnd⟩ := map_edited hpath hedited
  refine ⟨body, hbody, hsnd hany, ?_⟩
  rw [editedState, ← hfst]
  rfl

/-- A client request for all inbounds, of which the only one has the name and the credentials. -/
theorem mutate_of_credentials {body raw : Json} (hpath : path ≠ addPath)
    (hread : ["/panel/api/clients/onlines", "/panel/api/clients/lastOnline", "/panel/api/clients/onlinesByGuid",
      "/panel/api/clients/clientIpsByGuid"].contains path = false)
    (hbody : requestBody request = .ok body) (hids : targetIDs env body request = [])
    (hinbounds : state.inbounds = [raw])
    (hedit : editInbound env [] path (requestClient body path) raw =
      .ok (editedMap path (requestClient body path) (inboundMap raw), true)) :
    mutateXrayWorkerClients env state request path =
      .ok (settle env path ((requestedEmail path).getD "") (requestClient body path)
        { state with inbounds := [editedMap path (requestClient body path) (inboundMap raw)] }) := by
  have hadd : (path == addPath) = false := beq_false_of_ne hpath
  simp only [mutateXrayWorkerClients, bind_eq_ok_iff, require_eq_ok_iff, exists_const, mapM_eq_ok_iff,
    pure_eq_ok_iff]
  refine ⟨by rw [hread]; rfl, body, hbody, by rw [hids]; rfl, by rw [hadd]; rfl,
    [(editedMap path (requestClient body path) (inboundMap raw), true)], ?_, rfl, rfl⟩
  rw [hinbounds, hids]
  exact List.Forall₂.cons hedit List.Forall₂.nil

end States

end XrayWorker
end Vastora
