import Vastora.XrayWorker.Edits

/-!
# XrayWorker.Validity — what a stored state guarantees of its inbounds

Every inbound of a valid state is read without error, as a map that has its names in order, and has a list of
clients with names that are not blank.
-/

namespace Vastora
namespace XrayWorker

open Library Library.Guard Library.Pattern Landing

variable {env : Environment} {state : State} {raw inbound : Json}

/-! ## Maps -/

theorem sorted_of_unmarshalMap (h : unmarshalMap raw = some inbound) : inbound.Sorted := by
  obtain ⟨h, -⟩ := Option.filter_eq_some_iff.1 h
  simp only [unmarshal, Option.map_eq_some_iff] at h
  obtain ⟨j, -, rfl⟩ := h
  exact Json.sorted_decode j

/-- A document that is written as it is read. -/
theorem unmarshalMap_of_fixed {members : List (String × Json)} (hsorted : (Json.object members).Sorted)
    (hfixed : Json.Fixed Float64.rewrite (.object members)) :
    unmarshalMap (.object members) = some (.object members) := by
  rw [unmarshalMap, unmarshal, Json.fixed_iff.1 hfixed, Option.map_some, Json.decode_of_sorted _ hsorted]
  rfl

theorem inboundMap_of_fixed (hobject : inbound.members?.isSome = true) (hsorted : inbound.Sorted)
    (hfixed : Json.Fixed Float64.rewrite inbound) : inboundMap inbound = inbound := by
  obtain ⟨members, hmembers⟩ := Option.isSome_iff_exists.1 hobject
  obtain rfl := Json.members?_eq_some_iff.1 hmembers
  rw [inboundMap, unmarshalMap_of_fixed hsorted hfixed]
  rfl

theorem mapField_eq_object {key : String} {j : Json} (h : isNil (mapField key j) = false) :
    ∃ members, j.field? key = some (.object members) ∧ mapField key j = .object members := by
  unfold mapField at h ⊢
  split at h
  · rename_i members hmembers
    exact ⟨members, hmembers, rfl⟩
  · cases h

theorem isNil_mapField_of_items {key key' : String} {j : Json} {items : List Json}
    (h : itemsField key (mapField key' j) = some items) : isNil (mapField key' j) = false := by
  unfold mapField at h ⊢
  split
  · rfl
  · rename_i hnone
    split at h
    · rename_i members hmembers
      exact absurd hmembers (hnone members)
    · cases h

/-! ## Inbounds -/

theorem checkInbound_of_mem {seen seen' : List Seen} {inbounds : List Json}
    (h : checkInbounds env seen inbounds = .ok seen') (hraw : raw ∈ inbounds) :
    ∃ seen₀ result, checkInbound env seen₀ raw = .ok result := by
  induction inbounds generalizing seen with
  | nil => cases hraw
  | cons raw' inbounds ih =>
      simp only [checkInbounds, bind_eq_ok_iff] at h
      obtain ⟨result, hresult, hrest⟩ := h
      rcases List.mem_cons.1 hraw with rfl | hraw
      · exact ⟨seen, result, hresult⟩
      · exact ih hrest hraw

theorem State.Valid.checkInbounds (h : state.Valid env) :
    ∃ seen, checkInbounds env [] state.inbounds = .ok seen := by
  simp only [State.Valid, State.validate, bind_eq_ok_iff, require_eq_ok_iff, exists_const] at h
  obtain ⟨-, -, seen, hseen, -⟩ := h
  exact ⟨seen, hseen⟩

/-- An inbound of a valid state is read into a map, whose clients are valid. -/
theorem State.Valid.read_inbound (h : state.Valid env) (hraw : raw ∈ state.inbounds) :
    ∃ inbound, unmarshalMap raw = some inbound ∧ inboundMap raw = inbound ∧ inbound.Sorted ∧
      validXrayWorkerClients env inbound (textField "protocol" inbound) = true := by
  obtain ⟨seen, hseen⟩ := h.checkInbounds
  obtain ⟨seen₀, result, hresult⟩ := checkInbound_of_mem hseen hraw
  simp only [checkInbound, bind_eq_ok_iff, fetch_eq_ok_iff, require_eq_ok_iff, exists_const] at hresult
  obtain ⟨inbound, hinbound, -, -, -, hclients, -⟩ := hresult
  exact ⟨inbound, hinbound, by rw [inboundMap, hinbound]; rfl, sorted_of_unmarshalMap hinbound, hclients⟩

theorem State.Valid.clients (h : state.Valid env) (hraw : raw ∈ state.inbounds) :
    ∃ clients, itemsField "clients" (mapField "settings" (inboundMap raw)) = some clients ∧
      ∀ client ∈ clients, isNil client = false ∧ trimSpace (clientEmail client) ≠ "" := by
  obtain ⟨inbound, -, rfl, -, hclients⟩ := h.read_inbound hraw
  obtain ⟨clients, hitems, hvalid⟩ := (Option.any_eq_true _ _).1 hclients
  refine ⟨clients, hitems, fun client hclient => ?_⟩
  have hall := List.all_eq_true.1 (Bool.and_eq_true _ _ ▸ hvalid).1 client hclient
  simp only [validClient, Bool.and_eq_true, bne_iff_ne, Bool.not_eq_true'] at hall
  exact ⟨hall.1.1.1.1, hall.1.1.1.2⟩

/-- No client of a valid state has a blank name. -/
theorem State.Valid.name_not_blank (h : state.Valid env) (hraw : raw ∈ state.inbounds) {email : Option String}
    (hnamed : HasNamed email raw) : ∃ name, email = some name ∧ trimSpace name ≠ "" := by
  obtain ⟨current, hcurrent, rfl⟩ := hnamed
  obtain ⟨clients, hitems, hvalid⟩ := h.clients hraw
  rw [inboundClients, hitems, Option.getD_some] at hcurrent
  exact ⟨clientEmail current, rfl, (hvalid current hcurrent).2⟩

/-- A client is found under the text of its name. -/
theorem field?_email_iff {client : Json} {name : String} (hname : name ≠ "") :
    client.field? "email" = some (.string name) ↔ clientEmail client = name := by
  unfold clientEmail textField
  constructor
  · intro h
    simp [h, Json.text?]
  · intro h
    cases hfield : client.field? "email" with
    | none => exact absurd (by simpa [hfield] using h.symm) hname
    | some value =>
        cases value with
        | string s => simpa [hfield, Json.text?] using h
        | _ => exact absurd (by simpa [hfield, Json.text?] using h.symm) hname

theorem xrayWorkerHasClient_iff {name : String} (hname : name ≠ "") :
    xrayWorkerHasClient state name = true ↔ ∃ raw ∈ state.inbounds, HasNamed (some name) raw := by
  simp only [xrayWorkerHasClient, List.any_eq_true, HasNamed, beq_iff_eq, field?_email_iff hname,
    Option.some.injEq]

end XrayWorker
end Vastora
