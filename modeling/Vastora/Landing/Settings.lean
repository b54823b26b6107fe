import Vastora.Library.FirstMatch
import Vastora.Library.Guard
import Vastora.Library.JsonText

/-!
# Settings — Xray settings documents and their canonical form

A settings document is known by its length and, when it is valid JSON, by its syntax.
`decodeRouteSettings` reads it into a map and writes the map back, with the rule of the management API
in front of the other rules.  What it writes is canonical: it is read back unchanged
(`decodeRouteSettings_canonical`).
-/

namespace Vastora
namespace Landing

open Library Library.Guard Library.FirstMatch

/-- `json.RawMessage`: the number of bytes, and the syntax of a valid document. -/
structure Document where
  size : Nat
  value : Option Json

def Document.empty : Document := ⟨0, none⟩

/-- `json.Marshal`. -/
def marshal (j : Json) : Document := ⟨(String.ofList j.encode).utf8ByteSize, some j⟩

/-- A string member, or the empty text. -/
def textField (key : String) (j : Json) : String := ((j.field? key).bind Json.text?).getD ""

/-- An array of strings. -/
def strings (names : List String) : Json := .array (names.map .string)

/-- An array member. -/
def itemsField (key : String) (j : Json) : Option (List Json) := (j.field? key).bind Json.items?

/-! ## The rule of the management API -/

/-- The tag of the management API, or the empty text. -/
def apiTag (config : Json) : String := ((config.field? "api").map (textField "tag")).getD ""

/-- The dedicated rule that 3x-ui keeps for its API. -/
def isAPIRule (tag : String) (rule : Json) : Bool :=
  rule.members?.any (·.length == 3) && rule.field? "type" == some (.string "field") &&
    rule.field? "outboundTag" == some (.string tag) && rule.field? "inboundTag" == some (strings [tag])

/-- The routing rules in the order 3x-ui saves them. -/
def canonicalRules (config : Json) (rules : List Json) : List Json :=
  if apiTag config = "" then rules else moveToFront (isAPIRule (apiTag config)) rules

def canonicalConfig (config : Json) : Json :=
  match config.field? "routing" with
  | none => config
  | some routing =>
      match itemsField "rules" routing with
      | none => config
      | some rules =>
          config.setField "routing" (routing.setField "rules" (.array (canonicalRules config rules)))

def invalidSettings : String := "landing: invalid route settings"

/-- The decoded settings and the canonical document. -/
def decodeRouteSettings (raw : Document) : Except String (Json × Document) := do
  require (0 < raw.size && raw.size ≤ 4 * 2 ^ 20) invalidSettings
  let value ← fetch raw.value invalidSettings
  require value.members?.isSome invalidSettings
  let config := canonicalConfig value.decode
  return (config, marshal config)

/-! ## Canonical settings -/

section Canonical

variable {config routing : Json} {rules : List Json} {key : String} {raw canonical : Document}

theorem itemsField_eq_some_iff {items : List Json} :
    itemsField key config = some items ↔ config.field? key = some (.array items) := by
  unfold itemsField
  cases h : config.field? key with
  | none => simp
  | some v => simp [Json.items?_eq_some_iff]

theorem sorted_canonicalRules (h : ∀ rule ∈ rules, rule.Sorted) :
    Json.Sorted (.array (canonicalRules config rules)) := by
  unfold canonicalRules
  split
  · exact Json.sortedItems_iff.2 h
  · exact Json.sortedItems_iff.2 fun rule hrule => h rule (mem_moveToFront.1 hrule)

theorem canonicalRules_canonicalRules :
    canonicalRules config (canonicalRules config rules) = canonicalRules config rules := by
  by_cases h : apiTag config = ""
  · simp [canonicalRules, h]
  · simp [canonicalRules, h, moveToFront_idempotent]

/-- The two forms of canonical settings: unchanged without rules, or with the rules rearranged. -/
theorem canonicalConfig_cases (config : Json) :
    (config.field? "routing").bind (itemsField "rules") = none ∧ canonicalConfig config = config ∨
      ∃ routing rules, config.field? "routing" = some routing ∧
        routing.field? "rules" = some (.array rules) ∧
        canonicalConfig config = config.setField "routing"
          (routing.setField "rules" (.array (canonicalRules config rules))) := by
  cases hrouting : config.field? "routing" with
  | none => exact Or.inl ⟨rfl, by simp [canonicalConfig, hrouting]⟩
  | some routing =>
      cases hrules : itemsField "rules" routing with
      | none => exact Or.inl ⟨hrules, by simp [canonicalConfig, hrouting, hrules]⟩
      | some rules =>
          exact Or.inr ⟨routing, rules, rfl, itemsField_eq_some_iff.1 hrules, by
            simp [canonicalConfig, hrouting, hrules]⟩

theorem field?_canonicalConfig (h : key ≠ "routing") :
    (canonicalConfig config).field? key = config.field? key := by
  rcases canonicalConfig_cases config with ⟨-, hcanonical⟩ | ⟨routing, rules, -, -, hcanonical⟩
  · rw [hcanonical]
  · rw [hcanonical, Json.field?_setField_of_ne h]

theorem apiTag_canonicalConfig : apiTag (canonicalConfig config) = apiTag config := by
  rw [apiTag, field?_canonicalConfig (by decide), apiTag]

theorem members?_canonicalConfig_isSome :
    (canonicalConfig config).members?.isSome = config.members?.isSome := by
  rcases canonicalConfig_cases config with ⟨-, hcanonical⟩ | ⟨routing, rules, -, -, hcanonical⟩
  · rw [hcanonical]
  · rw [hcanonical, Json.members?_setField_isSome]

theorem sorted_canonicalConfig (h : config.Sorted) : (canonicalConfig config).Sorted := by
  rcases canonicalConfig_cases config with ⟨-, hcanonical⟩ | ⟨routing, rules, hr, hrs, hcanonical⟩
  · rwa [hcanonical]
  · have hrouting := Json.sorted_of_field? h hr
    have hrules : Json.Sorted (.array rules) := Json.sorted_of_field? hrouting hrs
    rw [hcanonical]
    exact Json.sorted_setField h
      (Json.sorted_setField hrouting (sorted_canonicalRules (Json.sortedItems_iff.1 hrules)))

theorem canonicalConfig_canonicalConfig (h : config.Sorted) :
    canonicalConfig (canonicalConfig config) = canonicalConfig config := by
  have hsorted := sorted_canonicalConfig h
  rcases canonicalConfig_cases config with ⟨-, hcanonical⟩ | ⟨routing, rules, hr, hrs, hcanonical⟩
  · rw [hcanonical, hcanonical]
  have hconfig : config.members?.isSome := by
    obtain ⟨members, rfl, -⟩ := Json.eq_object_of_field? hr
    rfl
  have hrouting : routing.members?.isSome := by
    obtain ⟨members, rfl, -⟩ := Json.eq_object_of_field? hrs
    rfl
  -- The second pass finds the rearranged rules and puts the same values back.
  have hr' : (canonicalConfig config).field? "routing" =
      some (routing.setField "rules" (.array (canonicalRules config rules))) := by
    rw [hcanonical, Json.field?_setField_self hconfig]
  have hrs' : (routing.setField "rules" (.array (canonicalRules config rules))).field? "rules" =
      some (.array (canonicalRules config rules)) := Json.field?_setField_self hrouting
  have hrules : canonicalRules (canonicalConfig config) (canonicalRules config rules) =
      canonicalRules config rules := by
    rw [canonicalRules, apiTag_canonicalConfig]
    exact canonicalRules_canonicalRules
  conv_lhs => rw [canonicalConfig, hr']
  simp only [itemsField_eq_some_iff.2 hrs', hrules]
  rw [Json.setField_of_field? (Json.sorted_of_field? hsorted hr') hrs',
    Json.setField_of_field? hsorted hr']

/-- What reading a document gives. -/
theorem decodeRouteSettings_eq_ok_iff : decodeRouteSettings raw = .ok (config, canonical) ↔
    0 < raw.size ∧ raw.size ≤ 4 * 2 ^ 20 ∧ ∃ value, raw.value = some value ∧
      value.members?.isSome ∧ config = canonicalConfig value.decode ∧ canonical = marshal config := by
  simp only [decodeRouteSettings, require_bind_eq_ok_iff, fetch_bind_eq_ok_iff, pure_eq_ok_iff,
    Bool.and_eq_true, decide_eq_true_eq, Prod.mk.injEq]
  constructor
  · rintro ⟨⟨hpos, hsize⟩, value, hvalue, hobject, rfl, rfl⟩
    exact ⟨hpos, hsize, value, hvalue, hobject, rfl, rfl⟩
  · rintro ⟨hpos, hsize, value, hvalue, hobject, rfl, rfl⟩
    exact ⟨⟨hpos, hsize⟩, value, hvalue, hobject, rfl, rfl⟩

theorem members?_decode_isSome (value : Json) :
    value.decode.members?.isSome = value.members?.isSome := by
  cases value <;> simp [Json.decode, Json.members?]

theorem marshal_size_pos (j : Json) : 0 < (marshal j).size := by
  obtain ⟨c, cs, hcs, -⟩ := Json.encode_head j
  rw [marshal, hcs]
  simp only [String.ofList_cons, String.utf8ByteSize_append]
  have := c.utf8Size_pos
  simp
  omega

/-- A written map is read back in canonical form. -/
theorem decodeRouteSettings_marshal (hsorted : config.Sorted) (hobject : config.members?.isSome)
    (hsize : (marshal config).size ≤ 4 * 2 ^ 20) :
    decodeRouteSettings (marshal config) =
      .ok (canonicalConfig config, marshal (canonicalConfig config)) :=
  decodeRouteSettings_eq_ok_iff.2 ⟨marshal_size_pos config, hsize, config, rfl, hobject, by
    rw [Json.decode_of_sorted config hsorted], rfl⟩

/-- The settings a decoder returns: a map in canonical form. -/
structure Canonical (config : Json) : Prop where
  sorted : config.Sorted
  object : config.members?.isSome
  fixed : canonicalConfig config = config

theorem canonical_canonicalConfig (hsorted : config.Sorted) (hobject : config.members?.isSome) :
    Canonical (canonicalConfig config) :=
  ⟨sorted_canonicalConfig hsorted, by rwa [members?_canonicalConfig_isSome],
    canonicalConfig_canonicalConfig hsorted⟩

theorem decodeRouteSettings_canonical (h : decodeRouteSettings raw = .ok (config, canonical)) :
    Canonical config ∧ canonical = marshal config := by
  obtain ⟨-, -, value, -, hobject, rfl, hcanonical⟩ := decodeRouteSettings_eq_ok_iff.1 h
  refine ⟨canonical_canonicalConfig (Json.sorted_decode value) ?_, hcanonical⟩
  rwa [members?_decode_isSome]

/-- A canonical document is read back unchanged. -/
theorem decodeRouteSettings_again {config' : Json} {canonical' : Document}
    (h : decodeRouteSettings raw = .ok (config, canonical))
    (h' : decodeRouteSettings canonical = .ok (config', canonical')) :
    config' = config ∧ canonical' = canonical := by
  obtain ⟨hcanonical, rfl⟩ := decodeRouteSettings_canonical h
  obtain ⟨-, -, value, hvalue, -, rfl, rfl⟩ := decodeRouteSettings_eq_ok_iff.1 h'
  obtain rfl := Option.some.inj hvalue
  rw [Json.decode_of_sorted _ hcanonical.sorted, hcanonical.fixed]
  exact ⟨rfl, rfl⟩

end Canonical

end Landing
end Vastora
