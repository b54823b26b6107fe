import Vastora.OSReinstall.NetworkPlan

/-!
# RenderedLines — what the lines of a restored interfaces file can be

Every value that the renderer puts into a slot has passed a check.  Those checks leave one word for each slot
of an accepted plan, the IPv6 gateway apart: its address may carry a zone, which is any text.
-/

namespace Vastora
namespace OSReinstall

open Library Library.Guard Library.Netip Library.Pattern Library.Text

/-! ## Filled templates -/

/-- Fixed text stays on its line. -/
def Piece.oneLine : Piece → Bool
  | .lit text => !text.toList.contains '\n'
  | .slot _ => true

namespace Line

/-- The interface that a line is about. -/
def device? : Line → Option String
  | auto device | inet6Static device | inet6Auto device | inet device _ | acceptRA device _
  | autoconf device _ | defaultOnLink _ _ device | directRoute _ _ device => some device
  | _ => none

/-- The templates whose lines are commands: the sysctl writes and the routes. -/
def isHook : Line → Bool
  | acceptRA _ _ | autoconf _ _ | defaultOnLink _ _ _ | directRoute _ _ _ => true
  | _ => false

/-- One word in each slot, and an interface of the plan where one is named. -/
structure WellFilled (interfaces : List String) (line : Line) : Prop where
  tokens : ∀ value, .slot value ∈ line.pieces → IsToken value
  device : ∀ device, line.device? = some device → device ∈ interfaces

theorem oneLine_intersperse (values : List String) :
    ((values.map Piece.slot).intersperse (.lit " ")).all Piece.oneLine = true := by
  induction values with
  | nil => rfl
  | cons value values ih =>
      cases values with
      | nil => rfl
      | cons next values =>
          have hspace : (Piece.lit " ").oneLine = true := by decide
          simpa [hspace, Piece.oneLine] using ih

/-- No template breaks a line. -/
theorem pieces_oneLine (line : Line) : line.pieces.all Piece.oneLine = true := by
  cases line with
  | nameservers values => exact oneLine_intersperse values
  | search values => exact oneLine_intersperse values
  | defaultOnLink family via device => cases family <;> rfl
  | directRoute family destination device => cases family <;> rfl
  | _ => rfl

/-- A line of words is one line. -/
theorem newline_not_mem_chars {line : Line} (h : ∀ value, .slot value ∈ line.pieces → IsToken value) :
    '\n' ∉ line.chars := by
  intro hmem
  obtain ⟨piece, hpiece, hmem⟩ := List.mem_flatMap.1 hmem
  cases piece with
  | lit text =>
      have hone := List.all_eq_true.1 line.pieces_oneLine _ hpiece
      simp only [Piece.oneLine, Bool.not_eq_true', List.contains_eq_mem, decide_eq_false_iff_not] at hone
      exact hone hmem
  | slot value =>
      have hspace := (h value hpiece).2 '\n' hmem
      exact absurd hspace (by decide)

end Line

/-- A line that the renderer has a template for, filled with words and interfaces of the plan. -/
def IsLine (p : StaticNetworkPlan) (cs : List Char) : Prop :=
  ∃ line : Line, line.WellFilled ((planNICs p).map StaticNetworkPlan.iface) ∧ line.chars = cs

/-- A command that is run when an interface goes up. -/
def isCommand (cs : List Char) : Bool :=
  (fields cs).head?.any fun word =>
    ["pre-up".toList, "up".toList, "post-up".toList].contains word

namespace Line

/-- The first word of a line is in the text its template starts with. -/
theorem not_isCommand {line : Line} {text : String} {rest : List Piece} {w : List Char} (word : String)
    (hpieces : line.pieces = .lit text :: rest) (htext : text.toList = word.toList ++ [' '])
    (hword : (fields word.toList).head? = some w)
    (hw : ["pre-up".toList, "up".toList, "post-up".toList].contains w = false) :
    isCommand line.chars = false := by
  rw [isCommand, chars, hpieces, List.flatMap_cons, Piece.chars, htext, List.append_assoc,
    List.singleton_append, fields_append_space, List.head?_append, hword]
  exact hw

/-- Only the sysctl writes and the routes are commands. -/
theorem isHook_of_isCommand {line : Line} (h : isCommand line.chars = true) : line.isHook = true := by
  have hnot : ∀ {b : Bool}, isCommand line.chars = false → b = true := fun hfalse => by
    rw [hfalse] at h
    cases h
  cases line with
  | acceptRA | autoconf | defaultOnLink | directRoute => rfl
  | source | blank | autoLoopback | loopback => exact hnot (by decide +kernel)
  | mac => exact hnot (not_isCommand "# mac" rfl (by decide) rfl (by decide))
  | auto => exact hnot (not_isCommand "auto" rfl (by decide) rfl (by decide))
  | inet | inet6Static | inet6Auto => exact hnot (not_isCommand "iface" rfl (by decide) rfl (by decide))
  | mtu => exact hnot (not_isCommand "    mtu" rfl (by decide) rfl (by decide))
  | address => exact hnot (not_isCommand "    address" rfl (by decide) rfl (by decide))
  | gateway => exact hnot (not_isCommand "    gateway" rfl (by decide) rfl (by decide))
  | nameservers => exact hnot (not_isCommand "    dns-nameservers" rfl (by decide) rfl (by decide))
  | search => exact hnot (not_isCommand "    dns-search" rfl (by decide) rfl (by decide))
  | dhcp => exact hnot (not_isCommand "    dhcp" rfl (by decide) rfl (by decide))

end Line

/-! ## Words of an accepted plan -/

section Words

variable {p n : StaticNetworkPlan} {primary : Bool}

theorem isToken_of_nameserver {dns : List String} {value ip : String} (hvalue : IsToken value)
    (h : nameserver dns value = some ip) : IsToken ip := by
  obtain ⟨a, ha, h⟩ := Option.bind_eq_some_iff.1 h
  split at h
  · cases h
  · obtain rfl := Option.some.inj h
    exact ZonedAddr.isToken_text fun c hc => hvalue.2 c (zone_chars_of_parse ha c hc)

/-- A line of the resolver settings adds words. -/
theorem tokens_of_resolverLine {settings settings' : List String × List String} {words : List String}
    (hwords : ∀ w ∈ words, IsToken w) (h : resolverLine settings words = some settings')
    (hsettings : (∀ v ∈ settings.1, IsToken v) ∧ ∀ v ∈ settings.2, IsToken v) :
    (∀ v ∈ settings'.1, IsToken v) ∧ ∀ v ∈ settings'.2, IsToken v := by
  unfold resolverLine at h
  split at h
  · obtain rfl := Option.some.inj h
    exact hsettings
  · split at h
    · obtain ⟨ip, hip, rfl⟩ := Option.map_eq_some_iff.1 h
      have htoken := isToken_of_nameserver (hwords _ (by simp)) hip
      refine ⟨fun v hv => ?_, hsettings.2⟩
      rcases List.mem_append.1 hv with hv | hv
      · exact hsettings.1 v hv
      · rwa [List.mem_singleton.1 hv]
    · cases h
  · split at h
    · cases h
    · obtain rfl := Option.some.inj h
      refine ⟨hsettings.1, fun v hv => ?_⟩
      rcases List.mem_append.1 hv with hv | hv
      · exact hsettings.2 v hv
      · exact hwords v (List.mem_cons_of_mem _ hv)
  · cases h

theorem tokens_of_resolverSettings {data : String} {dns search : List String}
    (h : resolverSettings data = some (dns, search)) :
    (∀ v ∈ dns, IsToken v) ∧ ∀ v ∈ search, IsToken v := by
  have hlines : ∀ (lines : List (List String)), (∀ words ∈ lines, ∀ w ∈ words, IsToken w) →
      ∀ settings, (∀ v ∈ settings.1, IsToken v) ∧ (∀ v ∈ settings.2, IsToken v) →
        ∀ settings', lines.foldlM resolverLine settings = some settings' →
          (∀ v ∈ settings'.1, IsToken v) ∧ ∀ v ∈ settings'.2, IsToken v := by
    intro lines
    induction lines with
    | nil =>
        intro _ settings hsettings settings' hfold
        obtain rfl := Option.some.inj hfold
        exact hsettings
    | cons words lines ih =>
        intro hwords settings hsettings settings' hfold
        rw [List.forall_mem_cons] at hwords
        rw [List.foldlM_cons] at hfold
        obtain ⟨mid, hmid, hfold⟩ := Option.bind_eq_some_iff.1 hfold
        exact ih hwords.2 mid (tokens_of_resolverLine hwords.1 hmid hsettings) settings' hfold
  unfold resolverSettings at h
  split at h
  · cases h
  · obtain ⟨hfold, -⟩ := Option.filter_eq_some_iff.1 h
    refine hlines _ (fun words hwords w hw => ?_) ([], []) (by simp) _ hfold
    obtain ⟨line, -, rfl⟩ := List.mem_map.1 hwords
    obtain ⟨piece, hpiece, rfl⟩ := List.mem_map.1 hw
    exact isToken_of_mem_fields hpiece

theorem isToken_of_canonicalPrefix {accept : IPPrefix → Bool} {value : String}
    (h : canonicalPrefix accept value = true) : IsToken value := by
  obtain ⟨ip, -, hip⟩ := (Option.any_eq_true _ _).1 h
  rw [Bool.and_eq_true, beq_iff_eq] at hip
  exact hip.2 ▸ ip.isToken_text

theorem not_space_of_hexValue {c : Char} (h : (hexValue c).isSome) : isSpace c = false := by
  unfold hexValue at h
  split at h
  · exact not_space_of_isDigit ‹_›
  · split at h
    · have hlow : '!' ≤ 'a' := by decide
      have hhigh : 'f' ≤ '~' := by decide
      exact not_space_of_graphic (hlow.trans (And.left ‹_›)) (le_trans (And.right ‹_›) hhigh)
    · cases h

theorem isToken_of_parseMAC {s : String} {mac : List Nat} (h : parseMAC s = some mac) : IsToken s := by
  unfold parseMAC at h
  dsimp only at h
  split at h
  · next hbytes =>
      rw [Bool.and_eq_true, beq_iff_eq, List.all_eq_true] at hbytes
      have hsplit : [':'].intercalate (s.toList.splitOn ':') = s.toList := List.intercalate_splitOn ':'
      constructor
      · rintro rfl
        simp at hbytes
      · rw [← hsplit]
        refine forall_mem_intercalate (by decide) fun part hpart c hc => ?_
        have hpart' := hbytes.2 part hpart
        rw [isMACByte, Bool.and_eq_true, List.all_eq_true] at hpart'
        exact not_space_of_hexValue (hpart'.2 c hc)
  · cases h

theorem isToken_of_ifacePattern {s : String} (h : ifacePattern s = true) : IsToken s := by
  simp only [ifacePattern, Bool.and_eq_true, decide_eq_true_eq, List.all_eq_true] at h
  constructor
  · rintro rfl
    simp at h
  · intro c hc
    have hchar := h.2 c hc
    simp only [isInterfaceChar, Bool.or_eq_true, Bool.and_eq_true, decide_eq_true_eq, beq_iff_eq] at hchar
    have hlow : '!' ≤ c := by
      rcases hchar with (((((h | h) | h) | rfl) | rfl) | rfl) | rfl
      all_goals first | decide | exact le_trans (by decide) h.1
    have hhigh : c ≤ '~' := by
      rcases hchar with (((((h | h) | h) | rfl) | rfl) | rfl) | rfl
      all_goals first | decide | exact le_trans h.2 (by decide)
    exact not_space_of_graphic hlow hhigh

/-- The checks of an interface leave one word for each of its values, the IPv6 gateway apart. -/
structure NICWords (n : StaticNetworkPlan) : Prop where
  mac : IsToken n.mac
  iface : IsToken n.iface
  colon : ':' ∉ n.iface.toList
  mtu : n.mtu ≠ 0 → IsToken (toString n.mtu)
  acceptRA : IsToken (acceptRA n)
  address : n.address ≠ "" → IsToken n.address
  gateway : n.gateway ≠ "" → IsToken n.gateway
  directRoutes : ∀ v ∈ n.directRoutes, IsToken v
  ipv6 : ∀ v ∈ n.ipv6, IsToken v
  gateway6 : n.gateway6 ≠ "" → n.ipv6 ≠ []
  autoconf : n.ipv6Autoconf ≠ "" → IsToken n.ipv6Autoconf

theorem nicWords_of_validateNIC (h : validateNIC n primary = true) : NICWords n := by
  simp only [validateNIC, Bool.and_eq_true] at h
  obtain ⟨⟨⟨⟨⟨⟨⟨⟨hiface, haddress⟩, -⟩, hgateway⟩, hroutes⟩, hipv6⟩, hgateway6⟩, hautoconf⟩, -⟩ := h
  simp only [validInterface, Bool.and_eq_true] at hiface
  obtain ⟨⟨⟨⟨⟨⟨⟨hmac, -⟩, hname⟩, hplain⟩, -⟩, hmtu⟩, hra⟩, -⟩ := hiface
  refine ⟨?_, isToken_of_ifacePattern hname, ?_, ?_, ?_, ?_, ?_, ?_, ?_, ?_, ?_⟩
  · obtain ⟨mac, hparse, -⟩ := (Option.any_eq_true _ _).1 hmac
    exact isToken_of_parseMAC hparse
  · intro hcolon
    rw [Bool.not_eq_true', List.any_eq_false] at hplain
    exact hplain ':' hcolon (by decide)
  · intro hne
    rw [Bool.or_eq_true, beq_iff_eq, Bool.and_eq_true, decide_eq_true_eq] at hmtu
    have hrange := (hmtu.resolve_left hne).1
    exact isToken_toString (by omega)
  · simp only [Bool.or_eq_true, beq_iff_eq] at hra
    unfold acceptRA
    rcases hra with ((hra | hra) | hra) | hra <;> rw [hra] <;> decide +kernel
  · intro hne
    rw [validAddress, Bool.or_eq_true, beq_iff_eq] at haddress
    exact isToken_of_canonicalPrefix (haddress.resolve_left hne)
  · intro hne
    rw [validGateway, Bool.or_eq_true, beq_iff_eq] at hgateway
    obtain ⟨gw, hparse, hgw⟩ := (Option.any_eq_true _ _).1 (hgateway.resolve_left hne)
    rw [Bool.and_eq_true, Bool.and_eq_true] at hgw
    exact isToken_of_parse_v4 hparse hgw.1.1
  · simp only [validDirectRoutes, Bool.and_eq_true, List.all_eq_true] at hroutes
    intro v hv
    obtain ⟨ip, -, hip⟩ := (Option.any_eq_true _ _).1 (hroutes.1.1 v hv)
    rw [Bool.and_eq_true, beq_iff_eq] at hip
    exact hip.2 ▸ ip.masked.isToken_text
  · rw [validIPv6, Bool.and_eq_true, List.all_eq_true] at hipv6
    exact fun v hv => isToken_of_canonicalPrefix (hipv6.1 v hv)
  · intro hne hempty
    rw [validGateway6, Bool.or_eq_true, beq_iff_eq] at hgateway6
    obtain ⟨g, -, hg⟩ := (Option.any_eq_true _ _).1 (hgateway6.resolve_left hne)
    simp [hempty] at hg
  · intro hne
    simp only [Bool.or_eq_true, beq_iff_eq] at hautoconf
    rcases hautoconf with (hautoconf | hautoconf) | hautoconf
    · exact absurd hautoconf hne
    · rw [hautoconf]
      decide +kernel
    · rw [hautoconf]
      decide +kernel

end Words

/-! ## Lines of an accepted plan -/

/-- The line of the IPv6 gateway. -/
def gateway6Line (n : StaticNetworkPlan) : Line :=
  if n.gateway6OnLink then .defaultOnLink .v6 n.gateway6 n.iface else .gateway n.gateway6

section Lines

variable {p n : StaticNetworkPlan} {interfaces : List String} {line : Line}

theorem slot_mem_intersperse {values : List String} {value : String}
    (h : .slot value ∈ (values.map Piece.slot).intersperse (.lit " ")) : value ∈ values := by
  induction values with
  | nil => cases h
  | cons first values ih =>
      cases values with
      | nil =>
          have hfirst : value = first := by simpa using h
          simp [hfirst]
      | cons next values =>
          have hcases : value = first ∨
              .slot value ∈ ((next :: values).map Piece.slot).intersperse (.lit " ") := by
            simpa using h
          rcases hcases with rfl | hrest
          · exact List.mem_cons_self
          · exact List.mem_cons_of_mem _ (ih hrest)

/-- A line of one value. -/
theorem Line.WellFilled.of_value {value : String} (hvalue : IsToken value)
    (hpieces : ∀ v, .slot v ∈ line.pieces → v = value) (hline : line.device? = none) :
    line.WellFilled interfaces := by
  refine ⟨fun v hv => hpieces v hv ▸ hvalue, fun d hd => ?_⟩
  rw [hline] at hd
  cases hd

/-- A line of an interface and a value. -/
theorem Line.WellFilled.of_device {device value : String} (hdevice : device ∈ interfaces)
    (htoken : IsToken device) (hvalue : IsToken value)
    (hpieces : ∀ v, .slot v ∈ line.pieces → v = device ∨ v = value)
    (hline : line.device? = some device) : line.WellFilled interfaces := by
  refine ⟨fun v hv => ?_, fun d hd => ?_⟩
  · rcases hpieces v hv with rfl | rfl
    · exact htoken
    · exact hvalue
  · rw [hline] at hd
    exact Option.some.inj hd ▸ hdevice

theorem mem_gatewayLines {family : Family} {via device : String} {onLink : Bool} :
    line ∈ gatewayLines family via onLink device ↔
      via ≠ "" ∧ line = if onLink then .defaultOnLink family via device else .gateway via := by
  unfold gatewayLines
  by_cases hvia : via = ""
  · simp [hvia]
  · cases onLink <;> simp [hvia]

section NIC

variable (hwords : NICWords n) (hdevice : n.iface ∈ interfaces)

include hwords hdevice

theorem wellFilled_headLines (h : line ∈ headLines n) : line.WellFilled interfaces := by
  have hmethod : IsToken (method n) := by
    unfold method
    split_ifs <;> decide +kernel
  simp only [headLines, List.mem_cons, List.mem_append, List.not_mem_nil, or_false] at h
  rcases h with rfl | rfl | rfl | rfl | h | rfl
  · exact .of_value hwords.mac (by simp [Line.pieces]) rfl
  · exact .of_value hwords.mac (by simp [Line.pieces]) rfl
  · exact .of_device hdevice hwords.iface hwords.iface (by simp [Line.pieces]) rfl
  · exact .of_device hdevice hwords.iface hmethod (by simp [Line.pieces]) rfl
  · split at h
    · next hmtu =>
        obtain rfl := List.mem_singleton.1 h
        exact .of_value (hwords.mtu (bne_iff_ne.1 hmtu)) (by simp [Line.pieces]) rfl
    · cases h
  · exact .of_device hdevice hwords.iface hwords.acceptRA (by simp [Line.pieces]) rfl

theorem wellFilled_addressLines (h : line ∈ addressLines n) : line.WellFilled interfaces := by
  unfold addressLines at h
  split at h
  · next hstatic =>
      rw [Bool.and_eq_true, bne_iff_ne] at hstatic
      rw [List.mem_cons, mem_gatewayLines] at h
      rcases h with rfl | ⟨hgateway, rfl⟩
      · exact .of_value (hwords.address hstatic.2) (by simp [Line.pieces]) rfl
      · split
        · exact .of_device hdevice hwords.iface (hwords.gateway hgateway)
            (by simp [Line.pieces, or_comm]) rfl
        · exact .of_value (hwords.gateway hgateway) (by simp [Line.pieces]) rfl
  · cases h

theorem wellFilled_directRouteLine {destination : String} (h : destination ∈ n.directRoutes) :
    (directRouteLine n destination).WellFilled interfaces :=
  .of_device hdevice hwords.iface (hwords.directRoutes _ h)
    (by simp [directRouteLine, Line.pieces, or_comm]) rfl

theorem wellFilled_dynamicLines (h : line ∈ dynamicLines n) : line.WellFilled interfaces := by
  simp only [dynamicLines, List.mem_append] at h
  rcases h with h | h
  · split at h
    · simp only [List.mem_cons, List.not_mem_nil, or_false] at h
      rcases h with rfl | rfl
      · exact .of_device hdevice hwords.iface hwords.iface (by simp [Line.pieces]) rfl
      · have hflag : IsToken (if n.dhcp6 then "1" else "0") := by split <;> decide +kernel
        exact .of_value hflag (by simp [Line.pieces]) rfl
    · cases h
  · split at h
    · next hautoconf =>
        obtain rfl := List.mem_singleton.1 h
        exact .of_device hdevice hwords.iface (hwords.autoconf (bne_iff_ne.1 hautoconf))
          (by simp [Line.pieces]) rfl
    · cases h

/-- Among the IPv6 lines the one of the gateway is the exception. -/
theorem wellFilled_ipv6Lines (h : line ∈ ipv6Lines n) :
    line.WellFilled interfaces ∨ (n.gateway6 ≠ "" ∧ line = gateway6Line n) := by
  have hstanza : ∀ {value}, value ∈ n.ipv6 → line = .inet6Static n.iface ∨ line = .address value →
      line.WellFilled interfaces := by
    rintro value hvalue (rfl | rfl)
    · exact .of_device hdevice hwords.iface hwords.iface (by simp [Line.pieces]) rfl
    · exact .of_value (hwords.ipv6 _ hvalue) (by simp [Line.pieces]) rfl
  unfold ipv6Lines at h
  split at h
  · cases h
  · next first rest hipv6 =>
      simp only [List.mem_append, List.mem_cons, List.not_mem_nil, or_false, mem_gatewayLines,
        List.mem_flatMap] at h
      rcases h with (h | h) | ⟨value, hvalue, h⟩
      · exact .inl (hstanza (hipv6 ▸ List.mem_cons_self) h)
      · exact .inr h
      · exact .inl (hstanza (hipv6 ▸ List.mem_cons_of_mem _ hvalue) h)

end NIC

theorem wellFilled_resolverLines (hdns : ∀ v ∈ p.dns, IsToken v) (hsearch : ∀ v ∈ p.search, IsToken v)
    (h : line ∈ resolverLines p) : line.WellFilled interfaces := by
  have hvalues : ∀ {values : List String}, (∀ v ∈ values, IsToken v) →
      ∀ {text v}, .slot v ∈ Piece.lit text :: (values.map Piece.slot).intersperse (.lit " ") →
        IsToken v := by
    intro values hvalues text v hv
    rcases List.mem_cons.1 hv with hlit | hv
    · cases hlit
    · exact hvalues v (slot_mem_intersperse hv)
  rw [resolverLines, List.mem_cons] at h
  rcases h with rfl | h
  · exact ⟨fun v hv => hvalues hdns hv, fun _ hd => by cases hd⟩
  · split at h
    · cases h
    · obtain rfl := List.mem_singleton.1 h
      exact ⟨fun v hv => hvalues hsearch hv, fun _ hd => by cases hd⟩

/-- What an accepted plan has put its values through. -/
structure Accepted (p : StaticNetworkPlan) : Prop where
  dns : ∀ v ∈ p.dns, IsToken v
  search : ∀ v ∈ p.search, IsToken v
  nics : ∀ n ∈ planNICs p, NICWords n

theorem validateNIC_of_checkNICs {primary : Bool} {seenNames seenMAC : List String}
    {nics : List StaticNetworkPlan} (h : checkNICs primary seenNames seenMAC nics = true) (hn : n ∈ nics) :
    ∃ primary, validateNIC n primary = true := by
  induction nics generalizing primary seenNames seenMAC with
  | nil => cases hn
  | cons first rest ih =>
      simp only [checkNICs, Bool.and_eq_true] at h
      rcases List.mem_cons.1 hn with rfl | hn
      · exact ⟨primary, h.1.1.1.1⟩
      · exact ih h.2 hn

theorem accepted_of_render {link interfaces resolver : String}
    (h : renderStaticNetwork p = .ok (link, interfaces, resolver)) :
    Accepted p ∧ interfaces = interfacesText p := by
  simp only [renderStaticNetwork, bind_eq_ok_iff, fetch_eq_ok_iff, require_eq_ok_iff, exists_const,
    Prod.exists, pure_eq_ok_iff, Prod.mk.injEq, Bool.and_eq_true, beq_iff_eq] at h
  obtain ⟨dns, search, hsettings, ⟨⟨rfl, rfl⟩, -⟩, hnics, -, rfl, -⟩ := h
  have htokens := tokens_of_resolverSettings hsettings
  refine ⟨⟨htokens.1, htokens.2, fun n hn => ?_⟩, rfl⟩
  obtain ⟨primary, hvalid⟩ := validateNIC_of_checkNICs hnics hn
  exact nicWords_of_validateNIC hvalid

theorem wellFilled_or_gateway6 (hp : Accepted p) (h : line ∈ configLines p) :
    line.WellFilled ((planNICs p).map StaticNetworkPlan.iface) ∨
      ∃ n ∈ planNICs p, n.gateway6 ≠ "" ∧ line = gateway6Line n := by
  have hfixed : ∀ {line : Line}, line.pieces.all (fun | .lit _ => true | .slot _ => false) = true →
      line.device? = none → line.WellFilled ((planNICs p).map StaticNetworkPlan.iface) := by
    intro line hpieces hdevice
    refine ⟨fun v hv => ?_, fun d hd => ?_⟩
    · cases List.all_eq_true.1 hpieces _ hv
    · rw [hdevice] at hd
      cases hd
  have hnic : ∀ {primary n}, n ∈ planNICs p → line ∈ nicLines p primary n →
      line.WellFilled ((planNICs p).map StaticNetworkPlan.iface) ∨
        ∃ n ∈ planNICs p, n.gateway6 ≠ "" ∧ line = gateway6Line n := by
    intro primary n hn hline
    have hwords := hp.nics n hn
    have hdevice := List.mem_map_of_mem (f := StaticNetworkPlan.iface) hn
    simp only [nicLines, List.mem_append] at hline
    rcases hline with ((((hline | hline) | hline) | hline) | hline) | hline
    · exact .inl (wellFilled_headLines hwords hdevice hline)
    · exact .inl (wellFilled_addressLines hwords hdevice hline)
    · obtain ⟨destination, hmem, rfl⟩ := List.mem_map.1 hline
      exact .inl (wellFilled_directRouteLine hwords hdevice hmem)
    · split at hline
      · exact .inl (wellFilled_resolverLines hp.dns hp.search hline)
      · cases hline
    · exact (wellFilled_ipv6Lines hwords hdevice hline).imp_right fun hgateway => ⟨n, hn, hgateway⟩
    · exact .inl (wellFilled_dynamicLines hwords hdevice hline)
  simp only [configLines, List.mem_cons, List.mem_append, List.mem_flatMap] at h
  rcases h with rfl | rfl | rfl | rfl | h | ⟨n, hn, h⟩
  · exact .inl (hfixed rfl rfl)
  · exact .inl (hfixed rfl rfl)
  · exact .inl (hfixed rfl rfl)
  · exact .inl (hfixed rfl rfl)
  · exact hnic List.mem_cons_self h
  · exact hnic (List.mem_cons_of_mem _ hn) h

theorem gateway6Line_mem (hp : Accepted p) (hn : n ∈ planNICs p) (hne : n.gateway6 ≠ "") :
    gateway6Line n ∈ configLines p := by
  have hipv6 : gateway6Line n ∈ ipv6Lines n := by
    obtain ⟨first, rest, hlist⟩ := List.exists_cons_of_ne_nil ((hp.nics n hn).gateway6 hne)
    unfold ipv6Lines
    rw [hlist]
    simp only [List.mem_append, mem_gatewayLines]
    exact .inl (.inr ⟨hne, rfl⟩)
  have hnic : ∀ primary, gateway6Line n ∈ nicLines p primary n := by
    intro primary
    simp only [nicLines, List.mem_append]
    exact .inl (.inr hipv6)
  simp only [configLines, List.mem_cons, List.mem_append, List.mem_flatMap]
  rcases List.mem_cons.1 hn with rfl | hn
  · exact .inr (.inr (.inr (.inr (.inl (hnic true)))))
  · exact .inr (.inr (.inr (.inr (.inr ⟨n, hn, hnic false⟩))))

theorem lines_interfacesText (p : StaticNetworkPlan) :
    lines (interfacesText p).toList = (configLines p).flatMap fun line => line.chars.splitOn '\n' := by
  rw [interfacesText, String.toList_ofList]
  exact lines_flatMap Line.chars (configLines p)

end Lines

/-- A gateway without white space is one word in its slot. -/
theorem wellFilled_gateway6Line {p n : StaticNetworkPlan} (hp : Accepted p) (hn : n ∈ planNICs p)
    (htoken : IsToken n.gateway6) :
    (gateway6Line n).WellFilled ((planNICs p).map StaticNetworkPlan.iface) := by
  have hdevice := List.mem_map_of_mem (f := StaticNetworkPlan.iface) hn
  unfold gateway6Line
  split
  · exact .of_device hdevice (hp.nics n hn).iface htoken (by simp [Line.pieces, or_comm]) rfl
  · exact .of_value htoken (by simp [Line.pieces]) rfl

theorem slot_mem_gateway6Line (n : StaticNetworkPlan) : .slot n.gateway6 ∈ (gateway6Line n).pieces := by
  unfold gateway6Line
  split <;> simp [Line.pieces]

/-- Every value that was written is one word, so that the lines of the file are the lines of the renderer, and
its commands the sysctl writes and the routes of the plan's interfaces. -/
structure WrittenInWords (p : StaticNetworkPlan) (interfaces : String) : Prop where
  slots : ∀ line ∈ configLines p, line.WellFilled ((planNICs p).map StaticNetworkPlan.iface)
  written : lines interfaces.toList = (configLines p).map Line.chars
  templates : ∀ cs ∈ lines interfaces.toList, IsLine p cs
  commands : ∀ cs ∈ lines interfaces.toList, isCommand cs = true →
    ∃ line : Line, line.isHook = true ∧ line.WellFilled ((planNICs p).map StaticNetworkPlan.iface) ∧ line.chars = cs

theorem writtenInWords_of_slots {p : StaticNetworkPlan}
    (h : ∀ line ∈ configLines p, line.WellFilled ((planNICs p).map StaticNetworkPlan.iface)) :
    WrittenInWords p (interfacesText p) := by
  have hwritten : lines (interfacesText p).toList = (configLines p).map Line.chars := by
    have hone : ∀ line ∈ configLines p, line.chars.splitOn '\n' = [line.chars] := fun line hline =>
      List.splitOn_eq_singleton (Line.newline_not_mem_chars (h line hline).tokens)
    rw [lines_interfacesText, List.flatMap_congr hone, ← List.map_eq_flatMap]
  have htemplates : ∀ cs ∈ lines (interfacesText p).toList, IsLine p cs := by
    intro cs hcs
    rw [hwritten] at hcs
    obtain ⟨line, hline, rfl⟩ := List.mem_map.1 hcs
    exact ⟨line, h line hline, rfl⟩
  refine ⟨h, hwritten, htemplates, fun cs hcs hcommand => ?_⟩
  obtain ⟨line, hfilled, rfl⟩ := htemplates cs hcs
  exact ⟨line, Line.isHook_of_isCommand hcommand, hfilled, rfl⟩

/-- A rendered file is written in words exactly where no IPv6 gateway has white space. -/
theorem rendered_lines_are_templates_iff (p : StaticNetworkPlan) {link interfaces resolver : String}
    (h : renderStaticNetwork p = .ok (link, interfaces, resolver)) :
    WrittenInWords p interfaces ↔ ∀ n ∈ planNICs p, ∀ c ∈ n.gateway6.toList, isSpace c = false := by
  obtain ⟨hp, rfl⟩ := accepted_of_render h
  constructor
  · intro hwords n hn
    by_cases hne : n.gateway6 = ""
    · simp [hne]
    · exact ((hwords.slots _ (gateway6Line_mem hp hn hne)).tokens _ (slot_mem_gateway6Line n)).2
  · intro hplain
    refine writtenInWords_of_slots fun line hline => ?_
    rcases wellFilled_or_gateway6 hp hline with hfilled | ⟨n, hn, hne, rfl⟩
    · exact hfilled
    · exact wellFilled_gateway6Line hp hn ⟨hne, hplain n hn⟩

/-! ## A zone with a line break -/

namespace ZoneBreak

def plan (gateway6 : String) : StaticNetworkPlan where
  iface := "eth0"
  mac := "52:54:00:12:34:56"
  address := "192.0.2.10/24"
  gateway := "192.0.2.1"
  dns := ["192.0.2.53"]
  search := []
  resolver := "nameserver 192.0.2.53\n"
  ipv6Autoconf := ""
  ipv6AcceptRA := "0"
  ipv6 := ["2001:db8::10/64"]
  gateway6 := gateway6
  gatewayOnLink := false
  gateway6OnLink := false
  dhcp4 := false
  dynamicDNS := false
  dhcp6 := false
  directRoutes := []
  mtu := 0
  additional := []

def injected : StaticNetworkPlan := plan "fe80::1%x\n    up /bin/sh"

theorem not_isLine : ¬ IsLine injected "    up /bin/sh".toList := by
  rintro ⟨line, -, hchars⟩
  have hhook : line.isHook = true := Line.isHook_of_isCommand (by rw [hchars]; decide +kernel)
  cases line with
  | acceptRA | autoconf => cases hchars
  | defaultOnLink | directRoute => cases hchars
  | _ => cases hhook

theorem exists_render {p : StaticNetworkPlan} (hok : (renderStaticNetwork p).toOption.isSome = true) :
    ∃ link resolver, renderStaticNetwork p = .ok (link, interfacesText p, resolver) := by
  cases h : renderStaticNetwork p with
  | error e => simp [h, Except.toOption] at hok
  | ok out =>
      obtain ⟨-, htext⟩ := accepted_of_render h
      exact ⟨out.1, out.2.2, by rw [← htext]⟩

/-- The plan is accepted, and the zone of its gateway brings a command of its own into the file. -/
theorem zone_injects_command :
    ∃ link interfaces resolver, renderStaticNetwork injected = .ok (link, interfaces, resolver) ∧
      "    up /bin/sh".toList ∈ lines interfaces.toList ∧ ¬ IsLine injected "    up /bin/sh".toList := by
  obtain ⟨link, resolver, h⟩ := exists_render (p := injected) (by decide +kernel)
  have hgateway : gateway6Line injected ∈ configLines injected :=
    gateway6Line_mem (accepted_of_render h).1 List.mem_cons_self (by decide)
  refine ⟨link, _, resolver, h, ?_, not_isLine⟩
  rw [lines_interfacesText]
  exact List.mem_flatMap.2 ⟨_, hgateway, by decide +kernel⟩

/-- A zone that is one word does no harm. -/
theorem zoned_gateway_renders_templates :
    ∃ link interfaces resolver, renderStaticNetwork (plan "fe80::1%eth0") = .ok (link, interfaces, resolver) ∧
      WrittenInWords (plan "fe80::1%eth0") interfaces := by
  obtain ⟨link, resolver, h⟩ := exists_render (p := plan "fe80::1%eth0") (by decide +kernel)
  have htoken : IsToken "fe80::1%eth0" := by decide +kernel
  refine ⟨link, _, resolver, h, (rendered_lines_are_templates_iff _ h).2 fun n hn => ?_⟩
  obtain rfl := List.mem_singleton.1 hn
  exact htoken.2

end ZoneBreak

end OSReinstall
end Vastora
