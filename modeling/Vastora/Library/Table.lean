import Mathlib.Tactic.Ring
import Mathlib.Data.List.Nodup
import Mathlib.Data.List.Forall2
import Mathlib.Tactic.Common

/-!
# Table — guarded updates of a list of rows

A table is a list of rows.  `update p f` is `UPDATE … SET f WHERE p`, and `updateOne p f` is the same
statement in a transaction that rolls back unless it affected exactly one row.  What a transaction
did to a table is summarised by `Evolves change fresh`: every old row is still there, as it was or
changed by `change`, and at most one row was added, which satisfies `fresh`.
-/

namespace Vastora
namespace Library
namespace Table

variable {ρ κ : Type*}

/-- `UPDATE … SET f WHERE p`. -/
def update (p : ρ → Bool) (f : ρ → ρ) (rows : List ρ) : List ρ :=
  rows.map fun r => if p r then f r else r

/-- An update that is rolled back unless it affects exactly one row. -/
def updateOne (p : ρ → Bool) (f : ρ → ρ) (rows : List ρ) : Option (List ρ) :=
  if rows.countP p = 1 then some (update p f rows) else none

/-- Every row is kept in place, unchanged or rewritten by `change`. -/
def Rewrites (change : ρ → ρ → Prop) (rows rows' : List ρ) : Prop :=
  List.Forall₂ (fun r r' => r' = r ∨ change r r') rows rows'

/-- Every old row is kept or rewritten by `change`; at most one `fresh` row is added. -/
def Evolves (change : ρ → ρ → Prop) (fresh : ρ → Prop) (rows rows' : List ρ) : Prop :=
  ∃ kept, Rewrites change rows kept ∧ (rows' = kept ∨ ∃ r, fresh r ∧ rows' = kept ++ [r])

variable {change change₁ change₂ : ρ → ρ → Prop} {fresh : ρ → Prop} {rows mid rows' : List ρ}
  {p : ρ → Bool} {f : ρ → ρ} {r r' : ρ} {key : ρ → κ}

/-! ## Single statements -/

theorem updateOne_eq_some_iff :
    updateOne p f rows = some rows' ↔ rows.countP p = 1 ∧ rows' = update p f rows := by
  unfold updateOne
  split
  · rename_i h
    simp [h, eq_comm]
  · rename_i h
    simp [h]

/-- A committed one-row update found its row. -/
theorem exists_of_updateOne (h : updateOne p f rows = some rows') : ∃ r ∈ rows, p r := by
  rcases updateOne_eq_some_iff.1 h with ⟨hcount, -⟩
  exact List.countP_pos_iff.1 (by omega)

theorem mem_update : r' ∈ update p f rows ↔
    ∃ r ∈ rows, r' = if p r then f r else r := by
  unfold update
  simp only [List.mem_map, eq_comm]

/-- A row the guard accepts is stored as rewritten. -/
theorem mem_update_of_pos (hr : r ∈ rows) (hp : p r) : f r ∈ update p f rows :=
  mem_update.2 ⟨r, hr, by simp [hp]⟩

theorem rewrites_refl (rows : List ρ) : Rewrites change rows rows :=
  List.forall₂_same.2 fun _ _ => Or.inl rfl

theorem update_rewrites (h : ∀ r ∈ rows, p r → change r (f r)) :
    Rewrites change rows (update p f rows) := by
  unfold Rewrites update
  rw [List.forall₂_map_right_iff, List.forall₂_same]
  intro r hr
  by_cases hp : p r
  · exact Or.inr (by simpa [hp] using h r hr hp)
  · exact Or.inl (by simp [hp])

/-! ## Sequences of statements -/

theorem Rewrites.mono (h : Rewrites change₁ rows rows') (hc : ∀ r r', change₁ r r' → change r r') :
    Rewrites change rows rows' :=
  List.Forall₂.imp (fun r r' hr => hr.imp_right (hc r r')) h

/-- Two statements one after the other, given what a row changed by both has gone through. -/
theorem Rewrites.trans (h₁ : Rewrites change₁ rows mid) (h₂ : Rewrites change₂ mid rows')
    (hc₁ : ∀ r r', change₁ r r' → change r r') (hc₂ : ∀ r r', change₂ r r' → change r r')
    (hc : ∀ r m r', change₁ r m → change₂ m r' → change r r') : Rewrites change rows rows' := by
  induction h₁ generalizing rows' with
  | nil =>
      cases h₂
      exact List.Forall₂.nil
  | cons hr _ ih =>
      rcases h₂ with _ | ⟨hm, h₂⟩
      refine List.Forall₂.cons ?_ (ih h₂)
      rcases hr with rfl | hr
      · exact hm.imp_right (hc₂ _ _)
      · rcases hm with rfl | hm
        · exact Or.inr (hc₁ _ _ hr)
        · exact Or.inr (hc _ _ _ hr hm)

/-- One more statement of a loop in which no row is rewritten twice. -/
theorem Rewrites.update_again (h : Rewrites change rows mid)
    (hrow : ∀ r ∈ rows, p r → change r (f r)) (hdone : ∀ r r', change r r' → ¬ p r') :
    Rewrites change rows (update p f mid) := by
  induction h with
  | nil => exact List.Forall₂.nil
  | @cons r m rows mid hr _ ih =>
      refine List.Forall₂.cons ?_ (ih fun r' hr' => hrow r' (by simp [hr']))
      rcases hr with rfl | hr
      · by_cases hp : p m
        · exact Or.inr (by simpa [hp] using hrow m (by simp) hp)
        · exact Or.inl (by simp [hp])
      · exact Or.inr (by simpa [hdone r m hr] using hr)

/-- Every row after one more statement, given what becomes of a row as it was left before. -/
theorem Rewrites.forall₂_update {P : ρ → ρ → Prop} (h : Rewrites change rows mid)
    (hrow : ∀ r, ∀ m ∈ mid, m = r ∨ change r m → P r (if p m then f m else m)) :
    List.Forall₂ P rows (update p f mid) := by
  induction h with
  | nil => exact List.Forall₂.nil
  | @cons r m rows mid hr _ ih =>
      refine List.Forall₂.cons (hrow r m (by simp) hr) (ih ?_)
      exact fun r' m' hm' => hrow r' m' (by simp [hm'])

/-- A loop of statements keeps what each of them keeps. -/
theorem foldlM_invariant {ι ε σ : Type*} {stmt : σ → ι → Except ε σ} {items : List ι}
    {inv : σ → Prop} {s s' : σ}
    (hstmt : ∀ s i s', i ∈ items → inv s → stmt s i = .ok s' → inv s') (hs : inv s)
    (h : items.foldlM stmt s = .ok s') : inv s' := by
  induction items generalizing s with
  | nil =>
      obtain rfl := Except.ok.inj h
      exact hs
  | cons i items ih =>
      rw [List.foldlM_cons] at h
      cases hmid : stmt s i with
      | error e =>
          rw [hmid] at h
          cases h
      | ok mid =>
          rw [hmid] at h
          refine ih ?_ (hstmt s i mid (by simp) hs hmid) h
          exact fun s j s' hj => hstmt s j s' (by simp [hj])

theorem foldl_invariant {ι σ : Type*} {stmt : σ → ι → σ} {items : List ι} {inv : σ → Prop} {s : σ}
    (hstmt : ∀ s, ∀ i ∈ items, inv s → inv (stmt s i)) (hs : inv s) :
    inv (items.foldl stmt s) := by
  induction items generalizing s with
  | nil => exact hs
  | cons i items ih =>
      exact ih (fun s j hj => hstmt s j (by simp [hj])) (hstmt s i (by simp) hs)

theorem Rewrites.evolves (h : Rewrites change rows rows') : Evolves change fresh rows rows' :=
  ⟨rows', h, Or.inl rfl⟩

theorem evolves_refl (rows : List ρ) : Evolves change fresh rows rows :=
  (rewrites_refl rows).evolves

theorem evolves_append_singleton (h : fresh r) : Evolves change fresh rows (rows ++ [r]) :=
  ⟨rows, rewrites_refl rows, Or.inr ⟨r, h, rfl⟩⟩

/-! ## Reading a transaction forwards and backwards -/

theorem Rewrites.forward (h : Rewrites change rows rows') (hr : r ∈ rows) :
    ∃ r' ∈ rows', r' = r ∨ change r r' := by
  rcases List.mem_iff_getElem.1 hr with ⟨i, hi, rfl⟩
  have hlen : rows.length = rows'.length := h.length_eq
  refine ⟨rows'.get ⟨i, hlen ▸ hi⟩, by simp, ?_⟩
  simpa using h.get hi (hlen ▸ hi)

theorem Rewrites.backward (h : Rewrites change rows rows') (hr : r' ∈ rows') :
    ∃ r ∈ rows, r' = r ∨ change r r' := by
  rcases List.mem_iff_getElem.1 hr with ⟨i, hi, rfl⟩
  have hlen : rows.length = rows'.length := h.length_eq
  refine ⟨rows.get ⟨i, hlen ▸ hi⟩, by simp, ?_⟩
  simpa using h.get (hlen ▸ hi) hi

/-- Where an old row went. -/
theorem Evolves.forward (h : Evolves change fresh rows rows') (hr : r ∈ rows) :
    ∃ r' ∈ rows', r' = r ∨ change r r' := by
  rcases h with ⟨kept, hkept, rfl | ⟨new, -, rfl⟩⟩
  · exact hkept.forward hr
  · rcases hkept.forward hr with ⟨r', hr', hchange⟩
    exact ⟨r', List.mem_append_left _ hr', hchange⟩

/-- Where a row of the new table came from. -/
theorem Evolves.backward (h : Evolves change fresh rows rows') (hr : r' ∈ rows') :
    fresh r' ∨ ∃ r ∈ rows, r' = r ∨ change r r' := by
  rcases h with ⟨kept, hkept, rfl | ⟨new, hnew, rfl⟩⟩
  · exact Or.inr (hkept.backward hr)
  · rcases List.mem_append.1 hr with hr | hr
    · exact Or.inr (hkept.backward hr)
    · obtain rfl := List.mem_singleton.1 hr
      exact Or.inl hnew

/-! ## Keys -/

theorem Rewrites.map_key (h : Rewrites change rows rows')
    (hkey : ∀ r r', change r r' → key r' = key r) : rows'.map key = rows.map key := by
  induction h with
  | nil => rfl
  | cons hr _ ih =>
      rcases hr with rfl | hr
      · simp [ih]
      · simp [ih, hkey _ _ hr]

theorem map_key_update (hkey : ∀ x, key (f x) = key x) :
    (update p f rows).map key = rows.map key := by
  unfold update
  rw [List.map_map]
  refine List.map_congr_left ?_
  intro x _
  by_cases hp : p x
  · simp [hp, hkey]
  · simp [hp]

/-- Keys stay unique when no statement writes them and an added row brings a new one. -/
theorem Evolves.nodup_key (h : Evolves change fresh rows rows') (hnodup : (rows.map key).Nodup)
    (hkey : ∀ r r', change r r' → key r' = key r)
    (hfresh : ∀ r, fresh r → ∀ x ∈ rows, key x ≠ key r) : (rows'.map key).Nodup := by
  rcases h with ⟨kept, hkept, hrows⟩
  have hkeys : kept.map key = rows.map key := hkept.map_key hkey
  rcases hrows with rfl | ⟨new, hnew, rfl⟩
  · rwa [hkeys]
  · rw [List.map_append, List.map_singleton, hkeys]
    refine List.nodup_append.2 ⟨hnodup, List.nodup_singleton _, ?_⟩
    intro k hk k' hk'
    rcases List.mem_map.1 hk with ⟨x, hx, rfl⟩
    obtain rfl := List.mem_singleton.1 hk'
    exact hfresh new hnew x hx

/-- A row is determined by its key. -/
theorem eq_of_key (hnodup : (rows.map key).Nodup) (hr : r ∈ rows) (hr' : r' ∈ rows)
    (h : key r = key r') : r = r' :=
  List.inj_on_of_nodup_map hnodup hr hr' h

/-- A query that admits one key only selects at most one row. -/
theorem length_filter_le_one (hnodup : (rows.map key).Nodup)
    (h : ∀ r ∈ rows, ∀ r' ∈ rows, p r → p r' → key r = key r') : (rows.filter p).length ≤ 1 := by
  have hdistinct : (rows.filter p).Nodup := hnodup.of_map.filter _
  have hmem : ∀ r ∈ rows.filter p, r ∈ rows ∧ p r := fun r hr => List.mem_filter.1 hr
  cases hrows : rows.filter p with
  | nil => simp
  | cons r rest =>
      cases rest with
      | nil => simp
      | cons r' rest =>
          rw [hrows] at hdistinct hmem
          have hr := hmem r (by simp)
          have hr' := hmem r' (by simp)
          have hsame : r = r' := eq_of_key hnodup hr.1 hr'.1 (h r hr.1 r' hr'.1 hr.2 hr'.2)
          simp [hsame] at hdistinct

/-- A statement whose guard admits one key only is the update of the row with that key. -/
theorem update_eq_of_key [DecidableEq κ] (hnodup : (rows.map key).Nodup) (hr : r ∈ rows) (hp : p r)
    (hkey : ∀ x, p x → key x = key r) :
    update p f rows = update (fun x => key x == key r) f rows := by
  refine List.map_congr_left ?_
  intro x hx
  by_cases hxr : key x = key r
  · obtain rfl := eq_of_key hnodup hx hr hxr
    simp [hp]
  · have hpx : ¬ p x := fun h => hxr (hkey x h)
    simp [hpx, hxr]

theorem update_key_update_key [DecidableEq κ] {g : ρ → ρ} {k : κ} (hkey : ∀ x, key (f x) = key x) :
    update (fun x => key x == k) g (update (fun x => key x == k) f rows) =
      update (fun x => key x == k) (fun x => g (f x)) rows := by
  unfold update
  rw [List.map_map]
  refine List.map_congr_left ?_
  intro x _
  by_cases hx : key x = k
  · simp [hx, hkey]
  · simp [hx]

/-- A loop of statements with different keys is one statement. -/
theorem foldl_update_key [DecidableEq κ] {keys : List κ} (hnodup : keys.Nodup)
    (hkey : ∀ x, key (f x) = key x) :
    keys.foldl (fun rows k => update (fun x => key x == k) f rows) rows =
      update (fun x => keys.contains (key x)) f rows := by
  induction keys generalizing rows with
  | nil => simp [update]
  | cons k keys ih =>
      rw [List.nodup_cons] at hnodup
      rw [List.foldl_cons, ih hnodup.2]
      unfold update
      rw [List.map_map]
      refine List.map_congr_left ?_
      intro x _
      -- A row that the first statement has changed is not selected again.
      by_cases hx : key x = k
      · simp [hx, hkey, hnodup.1]
      · simp [hx]

/-! ## Looking a row up -/

section Lookup

variable [DecidableEq κ] {k c : κ}

/-- A lookup after an update that keeps the keys. -/
theorem find?_update (hkey : ∀ x, key (f x) = key x) :
    (update p f rows).find? (fun x => key x == c) =
      (rows.find? fun x => key x == c).map fun x => if p x then f x else x := by
  induction rows with
  | nil => rfl
  | cons x rows ih =>
      have hcons : update p f (x :: rows) = (if p x then f x else x) :: update p f rows := rfl
      have hhead : key (if p x then f x else x) = key x := by
        split
        · exact hkey x
        · rfl
      rw [hcons]
      by_cases hx : key x = c
      · rw [List.find?_cons_of_pos (by rw [hhead, beq_iff_eq, hx]),
          List.find?_cons_of_pos (by rw [beq_iff_eq, hx]), Option.map_some]
      · rw [List.find?_cons_of_neg (by rw [hhead, beq_iff_eq]; exact hx),
          List.find?_cons_of_neg (by rw [beq_iff_eq]; exact hx), ih]

/-- A row is found by its key. -/
theorem find?_key (hnodup : (rows.map key).Nodup) (hr : r ∈ rows) :
    rows.find? (fun x => key x == key r) = some r := by
  have hsome : (rows.find? fun x => key x == key r).isSome :=
    List.find?_isSome.2 ⟨r, hr, beq_iff_eq.2 rfl⟩
  obtain ⟨found, hfound⟩ := Option.isSome_iff_exists.1 hsome
  have hguard := List.find?_some hfound
  have hkey : key found = key r := beq_iff_eq.1 hguard
  rw [hfound, eq_of_key hnodup (List.mem_of_find?_eq_some hfound) hr hkey]

/-- The key of a row selects one row. -/
theorem countP_key (hnodup : (rows.map key).Nodup) (hr : r ∈ rows) (hk : key r = k) :
    rows.countP (fun x => key x == k) = 1 := by
  have hcount : (rows.map key).count k = 1 :=
    List.count_eq_one_of_mem hnodup (List.mem_map.2 ⟨r, hr, hk⟩)
  rw [← hcount, List.count, List.countP_map]
  rfl

theorem filter_key (hnodup : (rows.map key).Nodup) (hr : r ∈ rows) :
    rows.filter (fun x => key x == key r) = [r] := by
  have hlength : (rows.filter fun x => key x == key r).length = 1 := by
    rw [← List.countP_eq_length_filter, countP_key hnodup hr rfl]
  obtain ⟨x, hx⟩ := List.length_eq_one_iff.1 hlength
  have hmem : r ∈ rows.filter fun x => key x == key r := List.mem_filter.2 ⟨hr, beq_iff_eq.2 rfl⟩
  rw [hx, List.mem_singleton] at hmem
  rw [hx, hmem]

end Lookup

/-! ## Loops over keys -/

section Loops

/-- A statement that writes the row of one key. -/
def Writes {σ : Type*} (look : σ → κ → Option ρ) (k : κ) (f : ρ → ρ) (s s' : σ) : Prop :=
  (∀ k', k' ≠ k → look s' k' = look s k') ∧ ∀ r, look s k = some r → look s' k = some (f r)

/-- A guarded update of the row of one key. -/
theorem update_writes [DecidableEq κ] {k : κ} (hkey : ∀ x, key (f x) = key x) (hguard : ∀ x, p x → key x = k) :
    Writes (fun (rows : List ρ) c => rows.find? fun x => key x == c) k (fun x => if p x then f x else x) rows
      (update p f rows) := by
  refine ⟨fun c hc => (find?_update hkey).trans ?_, fun x hx => ?_⟩
  · dsimp only
    cases hrow : rows.find? fun x => key x == c with
    | none => rfl
    | some x =>
        have hfound := List.find?_some hrow
        rw [Option.map_some, if_neg fun hp => hc ((beq_iff_eq.1 hfound).symm.trans (hguard x hp))]
  · dsimp only at hx ⊢
    rw [find?_update hkey, hx, Option.map_some]

variable {ι σ ε : Type*} {stmt : σ → ι → Except ε σ} (look : σ → κ → Option ρ) {keyOf : ι → κ} {write : ι → ρ → ρ}
  {items : List ι} {i : ι} {s s' : σ} {k : κ}

/-- A loop of such statements leaves the rows of other keys. -/
theorem foldlM_writes_others
    (hstmt : ∀ s i s', i ∈ items → stmt s i = .ok s' → Writes look (keyOf i) (write i) s s')
    (h : items.foldlM stmt s = .ok s') (hk : k ∉ items.map keyOf) : look s' k = look s k := by
  refine @foldlM_invariant _ _ _ _ _ (fun s₁ => look s₁ k = look s k) _ _ (fun s₁ i s₂ hi hs hstep => ?_) rfl h
  exact ((hstmt s₁ i s₂ hi hstep).1 k fun heq => hk (heq ▸ List.mem_map_of_mem hi)).trans hs

/-- With different keys, each row is written once. -/
theorem foldlM_writes_own
    (hstmt : ∀ s i s', i ∈ items → stmt s i = .ok s' → Writes look (keyOf i) (write i) s s')
    (hdistinct : (items.map keyOf).Nodup) (h : items.foldlM stmt s = .ok s') (hi : i ∈ items)
    (hr : look s (keyOf i) = some r) : look s' (keyOf i) = some (write i r) := by
  induction items generalizing s with
  | nil => cases hi
  | cons head rest ih =>
      rw [List.foldlM_cons] at h
      cases hhead : stmt s head with
      | error e =>
          rw [hhead] at h
          cases h
      | ok mid =>
          rw [hhead] at h
          have hrest := fun s i s' (hi : i ∈ rest) => hstmt s i s' (List.mem_cons_of_mem head hi)
          obtain ⟨hothers, hown⟩ := hstmt s head mid (List.mem_cons_self ..) hhead
          rw [List.map_cons, List.nodup_cons] at hdistinct
          rcases List.mem_cons.1 hi with rfl | hmem
          · rw [foldlM_writes_others look hrest h hdistinct.1]
            exact hown r hr
          · refine ih hrest hdistinct.2 h hmem ?_
            rw [hothers _ fun heq => hdistinct.1 (heq ▸ List.mem_map_of_mem hmem)]
            exact hr

end Loops

/-- A sum over rows of which one has changed. -/
theorem sum_map_key (hnodup : (rows.map key).Nodup) {g g' : ρ → Int} (hr : r ∈ rows)
    (h : ∀ x ∈ rows, key x ≠ key r → g' x = g x) :
    (rows.map g').sum = (rows.map g).sum + (g' r - g r) := by
  induction rows with
  | nil => cases hr
  | cons x rows ih =>
      rw [List.map_cons, List.nodup_cons] at hnodup
      have hothers : ∀ y ∈ rows, key y ≠ key r → g' y = g y := fun y hy => h y (by simp [hy])
      simp only [List.map_cons, List.sum_cons]
      rcases List.mem_cons.1 hr with rfl | hr
      · -- The other rows have other keys.
        have hrest : rows.map g' = rows.map g := List.map_congr_left fun y hy => hothers y hy
          fun heq => hnodup.1 (List.mem_map.2 ⟨y, hy, heq⟩)
        rw [hrest]
        omega
      · have hx : g' x = g x := h x (by simp) fun heq => hnodup.1 (List.mem_map.2 ⟨r, hr, heq.symm⟩)
        rw [ih hnodup.2 hr hothers, hx]
        omega

end Table
end Library
end Vastora
