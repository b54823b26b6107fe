import Vastora.Center.CatalogStore
import Vastora.Library.Run

/-!
# CatalogProvenance — where cached catalogs and manifests come from

What a transaction can do to the sources is said once (`sourcesStep`): a new row has a new generation, and a row
that stays keeps its generation and what identifies a fetch, unless its revision grows.  So a refresh that comes
back to the generation and revision it read finds the source it read, and nothing has happened to it in between.
The cache follows the key of its source, and the history of manifests only grows.
-/

namespace Vastora
namespace Center

open Library Library.Guard Library.Run

variable {Envelope App : Type} {env : CatalogEnv Envelope App} {op : CatalogOp} {s s' : CatalogTables}

/-- The generation that a call draws. -/
def CatalogOp.generation : CatalogOp → Option String
  | .createSource _ generation _ _ => some generation
  | _ => none

/-! ## Sources -/

/-- The same source, as far as fetching and refreshing go. -/
structure SameSource (a b : SourceRow) : Prop where
  id : b.id = a.id
  url : b.url = a.url
  publicKey : b.publicKey = a.publicKey
  bearerSecretID : b.bearerSecretID = a.bearerSecretID
  customCA : b.customCA = a.customCA
  enabled : b.enabled = a.enabled
  generation : b.generation = a.generation
  revision : b.revision = a.revision

theorem SameSource.refl (a : SourceRow) : SameSource a a := ⟨rfl, rfl, rfl, rfl, rfl, rfl, rfl, rfl⟩

theorem SameSource.trans {a b c : SourceRow} (h : SameSource a b) (h' : SameSource b c) : SameSource a c :=
  ⟨h'.id.trans h.id, h'.url.trans h.url, h'.publicKey.trans h.publicKey, h'.bearerSecretID.trans h.bearerSecretID,
    h'.customCA.trans h.customCA, h'.enabled.trans h.enabled, h'.generation.trans h.generation,
    h'.revision.trans h.revision⟩

/-- How a row changes while its source exists. -/
structure SourceKept (a b : SourceRow) : Prop where
  id : b.id = a.id
  generation : b.generation = a.generation
  same_or_later : SameSource a b ∨ a.revision < b.revision

theorem SameSource.kept {a b : SourceRow} (h : SameSource a b) : SourceKept a b :=
  ⟨h.id, h.generation, Or.inl h⟩

/-- What a call can do to the sources. -/
def SourcesStep (op : CatalogOp) (rows rows' : List SourceRow) : Prop :=
  Table.Evolves SourceKept
    (fun row => op.generation = some row.generation ∧ ∀ r ∈ rows, r.id ≠ row.id) rows rows' ∨
  ∃ p, rows' = rows.filter p

theorem mem_of_find?_id {rows : List SourceRow} {row : SourceRow} {id : String}
    (h : rows.find? (·.id == id) = some row) : row ∈ rows ∧ row.id = id :=
  ⟨List.mem_of_find?_eq_some h, by simpa using List.find?_some h⟩

/-- An update that does not count as a change leaves the source as it is. -/
theorem written_kept {update : SourceUpdate} {secrets : List SecretRow} {secretID : String} {row : SourceRow}
    {bearer : List SecretRow × Option String} (h : update.bearer env secrets secretID row = .ok bearer) :
    SourceKept row (update.written bearer.2 row) := by
  refine ⟨rfl, rfl, ?_⟩
  cases hchanged : update.lifecycleChanged row with
  | true =>
      right
      simp [SourceUpdate.written, hchanged]
  | false =>
      left
      simp only [SourceUpdate.lifecycleChanged, SourceUpdate.configurationChanged, SourceUpdate.keyChanged,
        Bool.or_eq_false_iff, bne_eq_false_iff_eq, Option.isSome_eq_false_iff, Option.isNone_iff_eq_none]
        at hchanged
      obtain ⟨⟨⟨⟨hurl, hkey⟩, htoken⟩, hca⟩, henabled⟩ := hchanged
      have hbearer : bearer.2 = row.bearerSecretID := by
        rw [SourceUpdate.bearer, htoken] at h
        rw [← Except.ok.inj h]
      refine ⟨rfl, hurl, hkey, hbearer, ?_, henabled.symm, rfl, ?_⟩
      · simp [SourceUpdate.written, SourceUpdate.applied, hca]
      · simp [SourceUpdate.written, SourceUpdate.lifecycleChanged, SourceUpdate.configurationChanged,
          SourceUpdate.keyChanged, hurl, hkey, htoken, hca, henabled]

theorem markChecked_rewrites (sourceID generation : String) (revision : Int) (now : String) (message : Bytes)
    (rows : List SourceRow) :
    Table.Rewrites SameSource rows (markChecked sourceID generation revision now message rows) :=
  Table.update_rewrites fun _ _ _ => ⟨rfl, rfl, rfl, rfl, rfl, rfl, rfl, rfl⟩

theorem markHealthy_eq_ok_iff {sourceID generation : String} {revision : Int} {now : String} :
    markHealthy sourceID generation revision now s = .ok s' ↔
      s.sources.countP (fun row => row.current sourceID generation revision) = 1 ∧
        { s with sources := markChecked sourceID generation revision now [] s.sources } = s' := by
  rw [markHealthy, require_bind_eq_ok_iff, pure_eq_ok_iff, beq_iff_eq]

theorem createSource_ok {input : SourceInput} {generation secretID now : String}
    (h : createSource env input generation secretID now s = .ok s') :
    ∃ row : SourceRow, row.generation = generation ∧ (∀ r ∈ s.sources, r.id ≠ row.id) ∧
      s'.sources = s.sources ++ [row] ∧ s'.cache = s.cache ∧ s'.history = s.history := by
  rw [createSource] at h
  obtain ⟨-, h⟩ := require_bind_eq_ok_iff.1 h
  obtain ⟨-, h⟩ := require_bind_eq_ok_iff.1 h
  obtain ⟨-, -, h⟩ := bind_eq_ok_iff.1 h
  obtain ⟨bearer, -, h⟩ := bind_eq_ok_iff.1 h
  obtain ⟨hfresh, h⟩ := require_bind_eq_ok_iff.1 h
  obtain rfl := pure_eq_ok_iff.1 h
  exact ⟨_, rfl, by simpa using hfresh, rfl, rfl, rfl⟩

theorem updateSource_ok {id : String} {update : SourceUpdate} {secretID : String}
    (h : updateSource env id update secretID s = .ok s') :
    ∃ row bearer, s.sources.find? (·.id == id) = some row ∧
      update.bearer env s.secrets secretID row = .ok bearer ∧
      s'.sources = Table.update (fun r => r.id == id) (fun _ => update.written bearer.2 row) s.sources ∧
      s'.cache = update.invalidated row s.cache ∧ s'.history = s.history := by
  rw [updateSource] at h
  obtain ⟨-, h⟩ := require_bind_eq_ok_iff.1 h
  obtain ⟨row, hrow, h⟩ := fetch_bind_eq_ok_iff.1 h
  obtain ⟨-, -, h⟩ := bind_eq_ok_iff.1 h
  obtain ⟨bearer, hbearer, h⟩ := bind_eq_ok_iff.1 h
  obtain rfl := pure_eq_ok_iff.1 h
  exact ⟨row, bearer, hrow, hbearer, rfl, rfl, rfl⟩

theorem deleteSource_ok {id : String} (h : deleteSource id s = .ok s') :
    s'.sources = s.sources.filter (fun r => r.id != id) ∧
      s'.cache = s.cache.filter (fun c => c.sourceID != id) ∧ s'.history = s.history := by
  rw [deleteSource] at h
  obtain ⟨-, h⟩ := require_bind_eq_ok_iff.1 h
  obtain ⟨row, -, h⟩ := fetch_bind_eq_ok_iff.1 h
  obtain rfl := pure_eq_ok_iff.1 h
  exact ⟨rfl, rfl, rfl⟩

theorem refreshedSource_ok {sourceID generation : String} {revision : Int} {row : SourceRow}
    (h : refreshedSource sourceID generation revision s = .ok row) :
    s.sources.find? (·.id == sourceID) = some row ∧ row.enabled = true ∧ row.generation = generation ∧
      row.revision = revision := by
  rw [refreshedSource] at h
  obtain ⟨found, hfound, h⟩ := fetch_bind_eq_ok_iff.1 h
  obtain ⟨henabled, h⟩ := require_bind_eq_ok_iff.1 h
  obtain ⟨hsame, h⟩ := require_bind_eq_ok_iff.1 h
  obtain rfl := pure_eq_ok_iff.1 h
  rw [Bool.and_eq_true, beq_iff_eq, beq_iff_eq] at hsame
  exact ⟨hfound, henabled, hsame.1, hsame.2⟩

theorem commitCatalogRefresh_ok {sourceID generation : String} {revision : Int} {raw : Bytes}
    {etag lastModified now : String}
    (h : commitCatalogRefresh env sourceID generation revision raw etag lastModified now s = .ok s') :
    ∃ row envelope apps, refreshedSource sourceID generation revision s = .ok row ∧
      env.parseEnvelope raw = .ok envelope ∧ env.verify envelope row.publicKey = .ok apps ∧
      recordCatalogManifestHistory env sourceID now apps s.history = .ok s'.history ∧
      s'.cache = upsertCache ⟨sourceID, raw, etag, lastModified, now⟩ s.cache ∧
      s'.sources = markChecked sourceID generation revision now [] s.sources := by
  rw [commitCatalogRefresh] at h
  obtain ⟨-, h⟩ := require_bind_eq_ok_iff.1 h
  obtain ⟨row, hrow, h⟩ := bind_eq_ok_iff.1 h
  obtain ⟨envelope, henvelope, h⟩ := bind_eq_ok_iff.1 h
  obtain ⟨apps, happs, h⟩ := bind_eq_ok_iff.1 h
  obtain ⟨history, hhistory, h⟩ := bind_eq_ok_iff.1 h
  obtain ⟨-, rfl⟩ := markHealthy_eq_ok_iff.1 h
  exact ⟨row, envelope, apps, hrow, henvelope, happs, hhistory, rfl, rfl⟩

theorem notModified_ok {sourceID generation : String} {revision : Int} {etag lastModified now : String}
    (h : markCatalogNotModifiedForRevision sourceID generation revision etag lastModified now s = .ok s') :
    ∃ row, refreshedSource sourceID generation revision s = .ok row ∧ s'.history = s.history ∧
      s'.cache = Table.update (fun c => c.sourceID == sourceID)
        (fun c => { c with etag := etag, lastModified := lastModified, fetchedAt := now }) s.cache ∧
      s'.sources = markChecked sourceID generation revision now [] s.sources := by
  rw [markCatalogNotModifiedForRevision] at h
  obtain ⟨-, h⟩ := require_bind_eq_ok_iff.1 h
  obtain ⟨row, hrow, h⟩ := bind_eq_ok_iff.1 h
  obtain ⟨-, h⟩ := require_bind_eq_ok_iff.1 h
  obtain ⟨-, rfl⟩ := markHealthy_eq_ok_iff.1 h
  exact ⟨row, hrow, rfl, rfl, rfl⟩

theorem recordError_ok {sourceID generation : String} {revision : Int} {refreshErr : Option String} {now : String}
    (h : recordCatalogErrorForRevision sourceID generation revision refreshErr now s = .ok s') :
    ∃ message, s'.sources = markChecked sourceID generation revision now message s.sources ∧
      s'.cache = s.cache ∧ s'.history = s.history := by
  rw [recordCatalogErrorForRevision] at h
  obtain ⟨-, h⟩ := require_bind_eq_ok_iff.1 h
  obtain rfl := pure_eq_ok_iff.1 h
  exact ⟨_, rfl, rfl, rfl⟩

theorem sourcesStep (hids : (s.sources.map (·.id)).Nodup) (h : catalogStep env op s = .ok s') :
    SourcesStep op s.sources s'.sources := by
  have hchecked : ∀ sourceID generation revision now message,
      SourcesStep op s.sources (markChecked sourceID generation revision now message s.sources) :=
    fun sourceID generation revision now message =>
      Or.inl ((markChecked_rewrites sourceID generation revision now message s.sources).mono
        fun _ _ hsame => hsame.kept).evolves
  cases op with
  | createSource input generation secretID now =>
      obtain ⟨row, hgeneration, hfresh, hsources, -, -⟩ := createSource_ok h
      rw [hsources]
      exact Or.inl (Table.evolves_append_singleton ⟨congrArg some hgeneration.symm, hfresh⟩)
  | updateSource id update secretID =>
      obtain ⟨row, bearer, hrow, hbearer, hsources, -, -⟩ := updateSource_ok h
      obtain ⟨hmem, hid⟩ := mem_of_find?_id hrow
      rw [hsources]
      refine Or.inl (Table.update_rewrites fun r hr hguard => ?_).evolves
      -- the guard admits the row that was read only
      obtain rfl : r = row := Table.eq_of_key hids hr hmem ((beq_iff_eq.1 hguard).trans hid.symm)
      exact written_kept hbearer
  | deleteSource id =>
      rw [(deleteSource_ok h).1]
      exact Or.inr ⟨_, rfl⟩
  | commitRefresh sourceID generation revision raw etag lastModified now =>
      obtain ⟨_, _, _, -, -, -, -, -, hsources⟩ := commitCatalogRefresh_ok h
      rw [hsources]
      exact hchecked _ _ _ _ _
  | notModified sourceID generation revision etag lastModified now =>
      obtain ⟨_, -, -, -, hsources⟩ := notModified_ok h
      rw [hsources]
      exact hchecked _ _ _ _ _
  | recordError sourceID generation revision refreshErr now =>
      obtain ⟨_, hsources, -, -⟩ := recordError_ok h
      rw [hsources]
      exact hchecked _ _ _ _ _

/-- Where a source comes from. -/
theorem SourcesStep.backward {rows rows' : List SourceRow} {row' : SourceRow} (h : SourcesStep op rows rows')
    (hrow : row' ∈ rows') :
    op.generation = some row'.generation ∨ ∃ row ∈ rows, SourceKept row row' := by
  rcases h with hevolves | ⟨p, rfl⟩
  · rcases hevolves.backward hrow with ⟨hfresh, -⟩ | ⟨row, hmem, rfl | hkept⟩
    · exact Or.inl hfresh
    · exact Or.inr ⟨row', hmem, (SameSource.refl row').kept⟩
    · exact Or.inr ⟨row, hmem, hkept⟩
  · exact Or.inr ⟨row', (List.mem_filter.1 hrow).1, (SameSource.refl row').kept⟩

theorem SourcesStep.nodup_id {rows rows' : List SourceRow} (h : SourcesStep op rows rows')
    (hids : (rows.map (·.id)).Nodup) : (rows'.map (·.id)).Nodup := by
  rcases h with hevolves | ⟨p, rfl⟩
  · exact hevolves.nodup_key hids (fun _ _ hkept => hkept.id) fun _ hfresh r hr => hfresh.2 r hr
  · exact hids.sublist (List.filter_sublist.map _)

theorem SourcesStep.nodup_generation {rows rows' : List SourceRow} {used : List String}
    (h : SourcesStep op rows rows') (hgenerations : (rows.map (·.generation)).Nodup)
    (hused : ∀ row ∈ rows, row.generation ∈ used) (hfresh : ∀ g, op.generation = some g → g ∉ used) :
    (rows'.map (·.generation)).Nodup := by
  rcases h with hevolves | ⟨p, rfl⟩
  · refine hevolves.nodup_key hgenerations (fun _ _ hkept => hkept.generation) fun row hrow r hr heq => ?_
    exact hfresh row.generation hrow.1 (heq ▸ hused r hr)
  · exact hgenerations.sublist (List.filter_sublist.map _)

/-- The primary key of the sources, and the uniqueness of their generations. -/
structure SourcesOk (used : List String) (rows : List SourceRow) : Prop where
  ids : (rows.map (·.id)).Nodup
  generations : (rows.map (·.generation)).Nodup
  used : ∀ row ∈ rows, row.generation ∈ used

theorem SourcesOk.step {used : List String} (h : SourcesOk used s.sources)
    (hfresh : ∀ g, op.generation = some g → g ∉ used) (hstep : catalogStep env op s = .ok s') :
    SourcesOk (used ++ op.generation.toList) s'.sources := by
  have hsources := sourcesStep h.ids hstep
  refine ⟨hsources.nodup_id h.ids, hsources.nodup_generation h.generations h.used hfresh, fun row' hrow' => ?_⟩
  rcases hsources.backward hrow' with hdrawn | ⟨row, hrow, hkept⟩
  · exact List.mem_append_right _ (by simp [hdrawn])
  · rw [hkept.generation]
    exact List.mem_append_left _ (h.used row hrow)

/-- The generations that a history draws. -/
def drawn (ops : List CatalogOp) : List String := ops.filterMap CatalogOp.generation

theorem drawn_cons (op : CatalogOp) (ops : List CatalogOp) : drawn (op :: ops) = op.generation.toList ++ drawn ops := by
  rw [drawn, List.filterMap_cons]
  cases op.generation <;> rfl

/-- Along a history in which no generation is drawn twice. -/
theorem SourcesOk.run {used : List String} {ops : List CatalogOp} (h : SourcesOk used s.sources)
    (hfresh : (used ++ drawn ops).Nodup) : SourcesOk (used ++ drawn ops) (run (catalogStep env) ops s).sources := by
  induction ops generalizing used s with
  | nil => simpa [drawn, Run.run] using h
  | cons op ops ih =>
      rw [drawn_cons, ← List.append_assoc] at hfresh ⊢
      refine ih ?_ hfresh
      have hnew : ∀ g, op.generation = some g → g ∉ used := by
        intro g hg hmem
        have hnodup := hfresh.of_append_left
        rw [hg] at hnodup
        exact List.disjoint_of_nodup_append hnodup hmem (by simp)
      cases hstep : catalogStep env op s with
      | ok s' =>
          rw [attempt_of_ok hstep]
          exact h.step hnew hstep
      | error err =>
          rw [attempt_of_error hstep]
          exact ⟨h.ids, h.generations, fun row hrow => List.mem_append_left _ (h.used row hrow)⟩

/-! ## Refreshes -/

section Refresh

variable {row : SourceRow} {ops : List CatalogOp}

/-- The source was changed or is gone. -/
def Outdated (row : SourceRow) (s : CatalogTables) : Prop :=
  ∀ r ∈ s.sources, r.generation = row.generation → row.revision < r.revision

/-- The source is as it was, or outdated. -/
def Tracked (row : SourceRow) (s : CatalogTables) : Prop :=
  ∀ r ∈ s.sources, r.generation = row.generation → SameSource row r ∨ row.revision < r.revision

theorem outdated_step (hids : (s.sources.map (·.id)).Nodup) (hdrawn : op.generation ≠ some row.generation)
    (h : Outdated row s) (hstep : catalogStep env op s = .ok s') : Outdated row s' := by
  intro r' hr' hgeneration
  rcases (sourcesStep hids hstep).backward hr' with hnew | ⟨r, hr, hkept⟩
  · exact absurd (hgeneration ▸ hnew) hdrawn
  · have hlater := h r hr (hkept.generation.symm.trans hgeneration)
    rcases hkept.same_or_later with hsame | hgrown
    · rw [hsame.revision]
      exact hlater
    · exact hlater.trans hgrown

theorem tracked_step (hids : (s.sources.map (·.id)).Nodup) (hdrawn : op.generation ≠ some row.generation)
    (h : Tracked row s) (hstep : catalogStep env op s = .ok s') : Tracked row s' := by
  intro r' hr' hgeneration
  rcases (sourcesStep hids hstep).backward hr' with hnew | ⟨r, hr, hkept⟩
  · exact absurd (hgeneration ▸ hnew) hdrawn
  · rcases h r hr (hkept.generation.symm.trans hgeneration), hkept.same_or_later with ⟨hrow | hlater, hsame | hgrown⟩
    · exact Or.inl (hrow.trans hsame)
    · right
      rw [← hrow.revision]
      exact hgrown
    · right
      rw [hsame.revision]
      exact hlater
    · exact Or.inr (hlater.trans hgrown)

/-- What a step keeps, as long as the generation is not drawn again, is kept along a history. -/
theorem kept_along {P : CatalogTables → Prop} {generation : String}
    (hstep : ∀ op s s', (s.sources.map (·.id)).Nodup → op.generation ≠ some generation → P s →
      catalogStep env op s = .ok s' → P s')
    (hids : (s.sources.map (·.id)).Nodup) (hs : P s) (hdrawn : generation ∉ drawn ops) :
    P (run (catalogStep env) ops s) := by
  induction ops generalizing s with
  | nil => exact hs
  | cons op ops ih =>
      rw [drawn_cons, List.mem_append, not_or] at hdrawn
      have hop : op.generation ≠ some generation := fun hop => hdrawn.1 (by simp [hop])
      rw [Run.run]
      cases ho : catalogStep env op s with
      | ok s' =>
          rw [attempt_of_ok ho]
          exact ih ((sourcesStep hids ho).nodup_id hids) (hstep op s s' hids hop hs ho) hdrawn.2
      | error err =>
          rw [attempt_of_error ho]
          exact ih hids hs hdrawn.2

/-- A source that is found with its generation and revision was the same at every time in between. -/
theorem unchanged_between {used : List String} (hok : SourcesOk used s.sources) (hrow : row ∈ s.sources)
    (hdrawn : row.generation ∉ drawn ops)
    (hfound : ∃ r ∈ (run (catalogStep env) ops s).sources,
      r.generation = row.generation ∧ r.revision = row.revision) :
    ∀ before after, ops = before ++ after →
      ∃ r ∈ (run (catalogStep env) before s).sources, SameSource row r := by
  rintro before after rfl
  rw [drawn, List.filterMap_append, List.mem_append, not_or] at hdrawn
  have htracked : Tracked row (run (catalogStep env) before s) := by
    refine kept_along (fun op s s' hids hop hs ho => tracked_step hids hop hs ho) hok.ids ?_ hdrawn.1
    intro r hr hgeneration
    rw [Table.eq_of_key hok.generations hr hrow hgeneration]
    exact Or.inl (SameSource.refl row)
  by_contra hnone
  -- otherwise the source would be outdated from here on
  have houtdated : Outdated row (run (catalogStep env) before s) := fun r hr hgeneration =>
    (htracked r hr hgeneration).resolve_left fun hsame => hnone ⟨r, hr, hsame⟩
  have hids : ((run (catalogStep env) before s).sources.map (·.id)).Nodup :=
    kept_along (P := fun s => (s.sources.map (·.id)).Nodup)
      (fun _ _ _ hids _ _ ho => (sourcesStep hids ho).nodup_id hids) hok.ids hok.ids hdrawn.1
  have hlast : Outdated row (run (catalogStep env) after (run (catalogStep env) before s)) :=
    kept_along (fun op s s' hids hop hs ho => outdated_step hids hop hs ho) hids houtdated hdrawn.2
  obtain ⟨r, hr, hgeneration, hrevision⟩ := hfound
  rw [run_append] at hr
  exact absurd (hlast r hr hgeneration) (by rw [hrevision]; exact lt_irrefl _)

end Refresh

/-! ## The cache -/

/-- The envelope verifies under the key. -/
def Verified (env : CatalogEnv Envelope App) (publicKey raw : Bytes) : Prop :=
  ∃ envelope apps, env.parseEnvelope raw = .ok envelope ∧ env.verify envelope publicKey = .ok apps

def CacheVerified (env : CatalogEnv Envelope App) (s : CatalogTables) : Prop :=
  ∀ c ∈ s.cache, c.sourceID ≠ officialCatalogSourceID →
    ∃ row ∈ s.sources, row.id = c.sourceID ∧ Verified env row.publicKey c.envelope

theorem mem_upsertCache {row c : CacheRow} {cache : List CacheRow} (h : c ∈ upsertCache row cache) :
    c = row ∨ c ∈ cache := by
  unfold upsertCache at h
  split at h
  · obtain ⟨old, hold, rfl⟩ := Table.mem_update.1 h
    split
    · exact Or.inl rfl
    · exact Or.inr hold
  · rcases List.mem_append.1 h with h | h
    · exact Or.inr h
    · exact Or.inl (List.mem_singleton.1 h)

theorem mem_invalidated {update : SourceUpdate} {row : SourceRow} {cache : List CacheRow} {c : CacheRow}
    (h : c ∈ update.invalidated row cache) :
    ∃ old ∈ cache, c.sourceID = old.sourceID ∧ c.envelope = old.envelope ∧
      (update.keyChanged row = true → c.sourceID ≠ row.id) := by
  unfold SourceUpdate.invalidated at h
  split at h
  · rw [List.mem_filter, bne_iff_ne] at h
    exact ⟨c, h.1, rfl, rfl, fun _ => h.2⟩
  · rename_i hkey
    split at h
    · obtain ⟨old, hold, rfl⟩ := Table.mem_update.1 h
      refine ⟨old, hold, ?_, ?_, fun hchanged => absurd hchanged hkey⟩
      · split <;> rfl
      · split <;> rfl
    · exact ⟨c, h, rfl, rfl, fun hchanged => absurd hchanged hkey⟩

/-- Rows whose envelope was there before are verified when the key of their source has not changed. -/
theorem cacheVerified_of_kept (h : CacheVerified env s)
    (hcache : ∀ c' ∈ s'.cache, c'.sourceID ≠ officialCatalogSourceID →
      (∃ row ∈ s'.sources, row.id = c'.sourceID ∧ Verified env row.publicKey c'.envelope) ∨
      ∃ c ∈ s.cache, c'.sourceID = c.sourceID ∧ c'.envelope = c.envelope ∧
        ∀ row ∈ s.sources, row.id = c.sourceID →
          ∃ row' ∈ s'.sources, row'.id = row.id ∧ row'.publicKey = row.publicKey) :
    CacheVerified env s' := by
  intro c' hc' hofficial
  rcases hcache c' hc' hofficial with hverified | ⟨c, hc, hid, henvelope, hkeys⟩
  · exact hverified
  · obtain ⟨row, hrow, hrowID, hverified⟩ := h c hc (hid ▸ hofficial)
    obtain ⟨row', hrow', hrowID', hkey⟩ := hkeys row hrow hrowID
    refine ⟨row', hrow', ?_, ?_⟩
    · rw [hrowID', hrowID, hid]
    · rw [hkey, henvelope]
      exact hverified

theorem exists_markChecked (sourceID generation : String) (revision : Int) (now : String) (message : Bytes)
    {rows : List SourceRow} {row : SourceRow} (hrow : row ∈ rows) :
    ∃ row' ∈ markChecked sourceID generation revision now message rows,
      row'.id = row.id ∧ row'.publicKey = row.publicKey := by
  obtain ⟨row', hrow', rfl | hsame⟩ :=
    (markChecked_rewrites sourceID generation revision now message rows).forward hrow
  · exact ⟨row', hrow', rfl, rfl⟩
  · exact ⟨row', hrow', hsame.id, hsame.publicKey⟩

theorem cacheVerified_step (hids : (s.sources.map (·.id)).Nodup) (h : CacheVerified env s)
    (hstep : catalogStep env op s = .ok s') : CacheVerified env s' := by
  refine cacheVerified_of_kept h fun c' hc' hofficial => ?_
  cases op with
  | createSource input generation secretID now =>
      obtain ⟨row, -, -, hsources, hcache, -⟩ := createSource_ok hstep
      rw [hcache] at hc'
      refine Or.inr ⟨c', hc', rfl, rfl, fun r hr _ => ⟨r, ?_, rfl, rfl⟩⟩
      rw [hsources]
      exact List.mem_append_left _ hr
  | updateSource id update secretID =>
      obtain ⟨row, bearer, hrow, -, hsources, hcache, -⟩ := updateSource_ok hstep
      obtain ⟨hmem, hid⟩ := mem_of_find?_id hrow
      rw [hcache] at hc'
      obtain ⟨c, hc, hcid, henvelope, hchanged⟩ := mem_invalidated hc'
      refine Or.inr ⟨c, hc, hcid, henvelope, fun r hr hrid => ?_⟩
      rw [hsources]
      by_cases hguard : r.id = id
      · obtain rfl : r = row := Table.eq_of_key hids hr hmem (hguard.trans hid.symm)
        refine ⟨_, Table.mem_update_of_pos hr (beq_iff_eq.2 hguard), rfl, ?_⟩
        -- the cache of this source would be gone if its key had changed
        have hkey : update.keyChanged r ≠ true := fun hkey => hchanged hkey (hcid.trans hrid.symm)
        have hsame : (update.applied r).publicKey = r.publicKey := by
          simpa [SourceUpdate.keyChanged] using hkey
        exact hsame
      · exact ⟨r, Table.mem_update.2 ⟨r, hr, by simp [hguard]⟩, rfl, rfl⟩
  | deleteSource id =>
      obtain ⟨hsources, hcache, -⟩ := deleteSource_ok hstep
      rw [hcache, List.mem_filter, bne_iff_ne] at hc'
      refine Or.inr ⟨c', hc'.1, rfl, rfl, fun r hr hrid => ⟨r, ?_, rfl, rfl⟩⟩
      rw [hsources, List.mem_filter, bne_iff_ne, hrid]
      exact ⟨hr, hc'.2⟩
  | commitRefresh sourceID generation revision raw etag lastModified now =>
      obtain ⟨row, envelope, apps, hrow, hparse, hverify, -, hcache, hsources⟩ := commitCatalogRefresh_ok hstep
      rw [hcache] at hc'
      rw [hsources]
      rcases mem_upsertCache hc' with rfl | hc'
      · obtain ⟨hmem, hid⟩ := mem_of_find?_id (refreshedSource_ok hrow).1
        obtain ⟨row', hrow', hid', hkey⟩ := exists_markChecked sourceID generation revision now [] hmem
        exact Or.inl ⟨row', hrow', hid'.trans hid, envelope, apps, hparse, hkey ▸ hverify⟩
      · exact Or.inr ⟨c', hc', rfl, rfl, fun r hr _ => exists_markChecked _ _ _ _ _ hr⟩
  | notModified sourceID generation revision etag lastModified now =>
      obtain ⟨_, -, -, hcache, hsources⟩ := notModified_ok hstep
      rw [hcache] at hc'
      rw [hsources]
      obtain ⟨c, hc, rfl⟩ := Table.mem_update.1 hc'
      refine Or.inr ⟨c, hc, ?_, ?_, fun r hr _ => exists_markChecked _ _ _ _ _ hr⟩
      · split <;> rfl
      · split <;> rfl
  | recordError sourceID generation revision refreshErr now =>
      obtain ⟨_, hsources, hcache, -⟩ := recordError_ok hstep
      rw [hcache] at hc'
      rw [hsources]
      exact Or.inr ⟨c', hc', rfl, rfl, fun r hr _ => exists_markChecked _ _ _ _ _ hr⟩

/-! ## The history of manifests -/

/-- The key of a manifest in the history. -/
def manifestKey (env : CatalogEnv Envelope App) (sourceID : String) (manifest : App × String) :
    String × String × String × Int :=
  (sourceID, env.appID manifest.1, env.version manifest.1, env.packageRevision manifest.1)

/-- The digest of the manifest stands under its key. -/
def Recorded (env : CatalogEnv Envelope App) (sourceID : String) (manifest : App × String)
    (history : List HistoryRow) : Prop :=
  ∃ row ∈ history, row.key = manifestKey env sourceID manifest ∧ row.manifestSHA256 = manifest.2

theorem Recorded.mono {sourceID : String} {manifest : App × String} {history history' : List HistoryRow}
    (h : Recorded env sourceID manifest history) (hgrown : history <+: history') :
    Recorded env sourceID manifest history' := by
  obtain ⟨row, hrow, hkey, hdigest⟩ := h
  exact ⟨row, hgrown.subset hrow, hkey, hdigest⟩

/-- One manifest has one digest. -/
theorem Recorded.digest_eq {sourceID : String} {manifest manifest' : App × String} {history : List HistoryRow}
    (hnodup : (history.map HistoryRow.key).Nodup) (h : Recorded env sourceID manifest history)
    (h' : Recorded env sourceID manifest' history)
    (hkey : manifestKey env sourceID manifest = manifestKey env sourceID manifest') :
    manifest.2 = manifest'.2 := by
  obtain ⟨row, hrow, hrowKey, hdigest⟩ := h
  obtain ⟨row', hrow', hrowKey', hdigest'⟩ := h'
  have hsame : row = row' := Table.eq_of_key hnodup hrow hrow' (by rw [hrowKey, hkey, hrowKey'])
  rw [← hdigest, ← hdigest', hsame]

section History

variable {sourceID now : String} {history history' : List HistoryRow}

theorem recordManifest_ok {app : App} (hnodup : (history.map HistoryRow.key).Nodup)
    (h : recordManifest env sourceID now history app = .ok history') :
    history <+: history' ∧ (history'.map HistoryRow.key).Nodup ∧
      ∀ manifest, canonicalManifest env sourceID app = .ok manifest → Recorded env sourceID manifest history' := by
  rw [recordManifest] at h
  obtain ⟨manifest, hmanifest, h⟩ := bind_eq_ok_iff.1 h
  have hunique : ∀ other, canonicalManifest env sourceID app = .ok other → other = manifest := fun other hother =>
    Except.ok.inj (hother.symm.trans hmanifest)
  dsimp only at h
  cases hfind : history.find? fun row => row.key == (historyRow env sourceID now manifest).key with
  | none =>
      rw [hfind] at h
      obtain ⟨-, h⟩ := require_bind_eq_ok_iff.1 h
      obtain rfl := pure_eq_ok_iff.1 h
      refine ⟨List.prefix_append _ _, ?_, fun other hother => ?_⟩
      · rw [List.map_append, List.map_singleton]
        refine hnodup.append (List.nodup_singleton _) (List.disjoint_singleton.2 fun hmem => ?_)
        obtain ⟨row, hrow, hkey⟩ := List.mem_map.1 hmem
        exact absurd (beq_iff_eq.2 hkey) (by simpa using List.find?_eq_none.1 hfind row hrow)
      · rw [hunique other hother]
        exact ⟨_, List.mem_append_right _ (List.mem_singleton_self _), rfl, rfl⟩
  | some existing =>
      rw [hfind] at h
      obtain ⟨hdigest, h⟩ := require_bind_eq_ok_iff.1 h
      obtain rfl := pure_eq_ok_iff.1 h
      refine ⟨List.prefix_refl _, hnodup, fun other hother => ?_⟩
      rw [hunique other hother]
      have hkey := List.find?_some hfind
      exact ⟨existing, List.mem_of_find?_eq_some hfind, beq_iff_eq.1 hkey, beq_iff_eq.1 hdigest⟩

theorem recordHistory_ok {apps : List App} (hnodup : (history.map HistoryRow.key).Nodup)
    (h : recordCatalogManifestHistory env sourceID now apps history = .ok history') :
    history <+: history' ∧ (history'.map HistoryRow.key).Nodup ∧
      ∀ app ∈ apps, ∀ manifest, canonicalManifest env sourceID app = .ok manifest →
        Recorded env sourceID manifest history' := by
  rw [recordCatalogManifestHistory] at h
  induction apps generalizing history with
  | nil =>
      obtain rfl := pure_eq_ok_iff.1 h
      exact ⟨List.prefix_refl _, hnodup, by simp⟩
  | cons app apps ih =>
      rw [List.foldlM_cons] at h
      obtain ⟨next, hnext, h⟩ := bind_eq_ok_iff.1 h
      obtain ⟨hgrown, hnodup', hrecorded⟩ := recordManifest_ok hnodup hnext
      obtain ⟨hgrown', hnodup'', hrest⟩ := ih hnodup' h
      refine ⟨hgrown.trans hgrown', hnodup'', List.forall_mem_cons.2 ⟨fun manifest hmanifest => ?_, hrest⟩⟩
      exact (hrecorded manifest hmanifest).mono hgrown'

end History

/-- The history only grows. -/
theorem history_step (hnodup : (s.history.map HistoryRow.key).Nodup) (hstep : catalogStep env op s = .ok s') :
    s.history <+: s'.history ∧ (s'.history.map HistoryRow.key).Nodup := by
  have hsame : s'.history = s.history → s.history <+: s'.history ∧ (s'.history.map HistoryRow.key).Nodup :=
    fun heq => ⟨heq ▸ List.prefix_refl _, heq ▸ hnodup⟩
  cases op with
  | createSource input generation secretID now =>
      obtain ⟨_, -, -, -, -, hhistory⟩ := createSource_ok hstep
      exact hsame hhistory
  | updateSource id update secretID =>
      obtain ⟨_, _, -, -, -, -, hhistory⟩ := updateSource_ok hstep
      exact hsame hhistory
  | deleteSource id => exact hsame (deleteSource_ok hstep).2.2
  | commitRefresh sourceID generation revision raw etag lastModified now =>
      obtain ⟨_, _, _, -, -, -, hhistory, -, -⟩ := commitCatalogRefresh_ok hstep
      obtain ⟨hgrown, hnodup', -⟩ := recordHistory_ok hnodup hhistory
      exact ⟨hgrown, hnodup'⟩
  | notModified sourceID generation revision etag lastModified now =>
      obtain ⟨_, -, hhistory, -, -⟩ := notModified_ok hstep
      exact hsame hhistory
  | recordError sourceID generation revision refreshErr now =>
      obtain ⟨_, -, -, hhistory⟩ := recordError_ok hstep
      exact hsame hhistory

theorem history_run {ops : List CatalogOp} (hnodup : (s.history.map HistoryRow.key).Nodup) :
    s.history <+: (run (catalogStep env) ops s).history ∧
      ((run (catalogStep env) ops s).history.map HistoryRow.key).Nodup := by
  induction ops generalizing s with
  | nil => exact ⟨List.prefix_refl _, hnodup⟩
  | cons op ops ih =>
      rw [Run.run]
      cases hstep : catalogStep env op s with
      | ok s' =>
          rw [attempt_of_ok hstep]
          obtain ⟨hgrown, hnodup'⟩ := history_step hnodup hstep
          obtain ⟨hgrown', hnodup''⟩ := ih hnodup'
          exact ⟨hgrown.trans hgrown', hnodup''⟩
      | error err =>
          rw [attempt_of_error hstep]
          exact ih hnodup

/-- The call commits a catalog of the source that has the manifest, which is given in canonical form with its
digest. -/
structure Commits (env : CatalogEnv Envelope App) (op : CatalogOp) (s : CatalogTables) (sourceID : String)
    (manifest : App × String) : Prop where
  succeeds : ∃ s', catalogStep env op s = .ok s'
  verified : ∃ generation revision raw etag lastModified now row envelope apps,
    op = .commitRefresh sourceID generation revision raw etag lastModified now ∧
    s.sources.find? (·.id == sourceID) = some row ∧ env.parseEnvelope raw = .ok envelope ∧
    env.verify envelope row.publicKey = .ok apps ∧
    ∃ app ∈ apps, canonicalManifest env sourceID app = .ok manifest

/-- A committed manifest stays in the history. -/
theorem Commits.recorded {sourceID : String} {manifest : App × String} (h : Commits env op s sourceID manifest)
    (ops : List CatalogOp) (hnodup : (s.history.map HistoryRow.key).Nodup) :
    Recorded env sourceID manifest (run (catalogStep env) (op :: ops) s).history := by
  obtain ⟨s', hstep⟩ := h.succeeds
  obtain ⟨generation, revision, raw, etag, lastModified, now, row, envelope, apps, rfl, hrow, hparse, hverify, app,
    happ, hmanifest⟩ := h.verified
  obtain ⟨row', envelope', apps', hrow', hparse', hverify', hhistory, -, -⟩ := commitCatalogRefresh_ok hstep
  obtain rfl : row = row' := Option.some.inj (hrow.symm.trans (refreshedSource_ok hrow').1)
  obtain rfl : envelope = envelope' := Except.ok.inj (hparse.symm.trans hparse')
  obtain rfl : apps = apps' := Except.ok.inj (hverify.symm.trans hverify')
  obtain ⟨-, hnodup', hrecorded⟩ := recordHistory_ok hnodup hhistory
  rw [Run.run, attempt_of_ok hstep]
  exact (hrecorded app happ manifest hmanifest).mono (history_run hnodup').1

/-- The call neither deletes the source nor changes what identifies it. -/
structure Untouched (id : String) (call : CatalogOp) (sources : List SourceRow) : Prop where
  kept : call ≠ .deleteSource id
  unchanged : ∀ update secretID r, call = .updateSource id update secretID → r ∈ sources → r.id = id →
    update.lifecycleChanged r = false

/-- No call deletes or changes a source that is the same at every time in between. -/
theorem untouched_between {before after ops : List CatalogOp} {call : CatalogOp} {row : SourceRow}
    (hids : (s.sources.map (·.id)).Nodup)
    (hbetween : ∀ before after, ops = before ++ after → ∃ r ∈ (run (catalogStep env) before s).sources, SameSource row r)
    (hops : ops = before ++ call :: after) (hstep : catalogStep env call (run (catalogStep env) before s) = .ok s') :
    Untouched row.id call (run (catalogStep env) before s).sources := by
  have hids' : ((run (catalogStep env) before s).sources.map (·.id)).Nodup := by
    refine @run_induction _ _ _ (catalogStep env) s before (fun s => (s.sources.map (·.id)).Nodup) ?_ hids
    exact fun op s s' hs ho => (sourcesStep hs ho).nodup_id hs
  obtain ⟨r, hr, hsame⟩ := hbetween before (call :: after) hops
  obtain ⟨r', hr', hsame'⟩ := hbetween (before ++ [call]) after (by simp [hops])
  rw [run_append, Run.run, attempt_of_ok hstep] at hr'
  change r' ∈ s'.sources at hr'
  constructor
  · rintro rfl
    rw [(deleteSource_ok hstep).1, List.mem_filter, hsame'.id] at hr'
    simp at hr'
  · rintro update secretID found rfl hfound hid
    obtain ⟨row', bearer, hrow', -, hsources, -⟩ := updateSource_ok hstep
    obtain ⟨hmem, hrowID⟩ := mem_of_find?_id hrow'
    obtain rfl : found = row' := Table.eq_of_key hids' hfound hmem (hid.trans hrowID.symm)
    obtain rfl : r = found := Table.eq_of_key hids' hr hmem (hsame.id.trans hid.symm)
    -- the revision would have been counted
    rw [hsources, Table.mem_update] at hr'
    obtain ⟨old, hold, rfl⟩ := hr'
    have hrevision := hsame'.revision
    split at hrevision
    · rw [← hsame.revision, SourceUpdate.written] at hrevision
      by_contra hchanged
      simp [Bool.eq_true_of_not_eq_false hchanged] at hrevision
    · rename_i hother
      have hoId := hsame'.id
      rw [if_neg hother] at hoId
      exact absurd (beq_iff_eq.2 hoId) hother

/-! ## Provenance -/

/-- The tables before the first call: nothing but the official source has been fetched. -/
structure InitialTables (s : CatalogTables) : Prop where
  ids : (s.sources.map (·.id)).Nodup
  cache : ∀ c ∈ s.cache, c.sourceID = officialCatalogSourceID
  history : (s.history.map HistoryRow.key).Nodup

/-- The calls that end a refresh well. -/
inductive Finishes (sourceID generation : String) (revision : Int) : CatalogOp → Prop
  | commit (raw : Bytes) (etag lastModified now : String) :
      Finishes sourceID generation revision (.commitRefresh sourceID generation revision raw etag lastModified now)
  | notModified (etag lastModified now : String) :
      Finishes sourceID generation revision (.notModified sourceID generation revision etag lastModified now)

theorem Finishes.found {sourceID generation : String} {revision : Int} (h : Finishes sourceID generation revision op)
    (hstep : catalogStep env op s = .ok s') :
    ∃ row ∈ s.sources, row.id = sourceID ∧ row.generation = generation ∧ row.revision = revision := by
  have hfound : ∀ row, refreshedSource sourceID generation revision s = .ok row →
      ∃ row ∈ s.sources, row.id = sourceID ∧ row.generation = generation ∧ row.revision = revision := by
    intro row hrow
    obtain ⟨hfind, -, hgeneration, hrevision⟩ := refreshedSource_ok hrow
    obtain ⟨hmem, hid⟩ := mem_of_find?_id hfind
    exact ⟨row, hmem, hid, hgeneration, hrevision⟩
  cases h with
  | commit raw etag lastModified now =>
      obtain ⟨row, _, _, hrow, -⟩ := commitCatalogRefresh_ok hstep
      exact hfound row hrow
  | notModified etag lastModified now =>
      obtain ⟨row, hrow, -⟩ := notModified_ok hstep
      exact hfound row hrow

theorem sourceForRefresh_ok {id : String} {later : CatalogTables} {credential : SourceCredential}
    (h : sourceForRefresh id s later = .ok credential) :
    ∃ row ∈ s.sources, row.id = id ∧ row.enabled = true ∧ credential.id = id ∧ credential.url = row.url ∧
      credential.publicKey = row.publicKey ∧ credential.customCA = row.customCA ∧
      credential.generation = row.generation ∧ credential.revision = row.revision := by
  rw [sourceForRefresh] at h
  obtain ⟨row, hrow, h⟩ := fetch_bind_eq_ok_iff.1 h
  obtain ⟨henabled, h⟩ := require_bind_eq_ok_iff.1 h
  obtain ⟨token, -, h⟩ := bind_eq_ok_iff.1 h
  obtain rfl := pure_eq_ok_iff.1 h
  obtain ⟨hmem, hid⟩ := mem_of_find?_id hrow
  exact ⟨row, hmem, hid, henabled, hid, rfl, rfl, rfl, rfl, rfl⟩

/-- The keys of the sources and the cache along every history. -/
structure CatalogOk (env : CatalogEnv Envelope App) (s : CatalogTables) : Prop where
  ids : (s.sources.map (·.id)).Nodup
  cache : CacheVerified env s

theorem catalogOk_run {ops : List CatalogOp} (h : InitialTables s) : CatalogOk env (run (catalogStep env) ops s) := by
  refine run_induction (fun op s s' hs ho => ?_) ⟨h.ids, fun c hc hofficial => absurd (h.cache c hc) hofficial⟩
  exact ⟨(sourcesStep hs.ids ho).nodup_id hs.ids, cacheVerified_step hs.ids hs.cache ho⟩

/-- Every cached catalog verifies under the key of its source; a refresh succeeds only if its source was the same
all the time since it was read, no call having deleted or changed it; and all manifests ever committed under one
key have one digest. -/
theorem catalog_provenance (env : CatalogEnv Envelope App) (init : CatalogTables) (hinit : InitialTables init)
    (ops : List CatalogOp) (hfresh : (init.sources.map (·.generation) ++ drawn ops).Nodup) :
    CacheVerified env (run (catalogStep env) ops init) ∧
    (∀ pre mid op post id later credential sourceID s', ops = pre ++ (mid ++ op :: post) →
      sourceForRefresh id (run (catalogStep env) pre init) later = .ok credential →
      Finishes sourceID credential.generation credential.revision op →
      catalogStep env op (run (catalogStep env) (pre ++ mid) init) = .ok s' →
      sourceID = id ∧ ∃ row ∈ (run (catalogStep env) pre init).sources, row.id = id ∧ row.enabled = true ∧
        credential.url = row.url ∧ credential.publicKey = row.publicKey ∧ credential.customCA = row.customCA ∧
        (∀ before after, mid = before ++ after →
          ∃ r ∈ (run (catalogStep env) (pre ++ before) init).sources, SameSource row r) ∧
        ∀ before call after s', mid = before ++ call :: after →
          catalogStep env call (run (catalogStep env) (pre ++ before) init) = .ok s' →
          Untouched id call (run (catalogStep env) (pre ++ before) init).sources) ∧
    (∀ pre op post pre' op' post' sourceID manifest manifest', ops = pre ++ op :: post →
      ops = pre' ++ op' :: post' → Commits env op (run (catalogStep env) pre init) sourceID manifest →
      Commits env op' (run (catalogStep env) pre' init) sourceID manifest' →
      manifestKey env sourceID manifest = manifestKey env sourceID manifest' → manifest.2 = manifest'.2) := by
  refine ⟨(catalogOk_run hinit).cache, ?_, ?_⟩
  · rintro pre mid op post id later credential sourceID s' rfl hrefresh hfinishes hstep
    obtain ⟨row, hrow, hid, henabled, -, hurl, hkey, hca, hgeneration, hrevision⟩ := sourceForRefresh_ok hrefresh
    obtain ⟨found, hfound, hfoundID, hfoundGeneration, hfoundRevision⟩ := hfinishes.found hstep
    rw [hgeneration] at hfoundGeneration
    rw [hrevision] at hfoundRevision
    rw [run_append] at hfound
    have hinitOk : SourcesOk (init.sources.map (·.generation)) init.sources :=
      ⟨hinit.ids, hfresh.of_append_left, fun r hr => List.mem_map_of_mem hr⟩
    -- the generation of the source was drawn before the refresh began
    have hdrawn : drawn (pre ++ (mid ++ op :: post)) = drawn pre ++ (drawn mid ++ drawn (op :: post)) := by
      simp [drawn, List.filterMap_append]
    rw [hdrawn, ← List.append_assoc] at hfresh
    have hok : SourcesOk _ (run (catalogStep env) pre init).sources := hinitOk.run hfresh.of_append_left
    have hnew : row.generation ∉ drawn mid := fun hmem =>
      List.disjoint_of_nodup_append hfresh (hok.used row hrow) (List.mem_append_left _ hmem)
    have hbetween := unchanged_between hok hrow hnew ⟨found, hfound, hfoundGeneration, hfoundRevision⟩
    obtain ⟨last, hlast, hsame⟩ := hbetween mid [] (List.append_nil mid).symm
    rw [← List.append_assoc] at hfresh
    have hokLast : SourcesOk _ (run (catalogStep env) mid (run (catalogStep env) pre init)).sources :=
      hok.run hfresh.of_append_left
    have hlastFound : last = found := Table.eq_of_key hokLast.generations hlast hfound
      (hsame.generation.trans hfoundGeneration.symm)
    refine ⟨?_, row, hrow, hid, henabled, hurl, hkey, hca, fun before after hsplit => ?_,
      fun before call after s' hsplit hcall => ?_⟩
    · rw [← hfoundID, ← hlastFound, hsame.id, hid]
    · rw [run_append]
      exact hbetween before after hsplit
    · rw [run_append] at hcall ⊢
      rw [← hid]
      exact untouched_between hok.ids hbetween hsplit hcall
  · intro pre op post pre' op' post' sourceID manifest manifest' hops hops' hcommits hcommits' hkey
    have hrecorded := hcommits.recorded post (history_run hinit.history).2
    have hrecorded' := hcommits'.recorded post' (history_run hinit.history).2
    rw [← run_append, ← hops] at hrecorded
    rw [← run_append, ← hops'] at hrecorded'
    exact hrecorded.digest_eq (history_run hinit.history).2 hrecorded' hkey

namespace ChangedKey

/-- An envelope is its manifest after the byte that its key is made of. -/
def headSigned : CatalogEnv Bytes Bytes where
  validURL url := url == "https://example.org/catalog"
  parseEnvelope raw := .ok raw
  verify envelope publicKey := if envelope.head? = publicKey.head? then .ok [envelope.tail] else .error "signature"
  canonicalAppManifest app := .ok app
  marshal app := .ok app
  sha256 bytes := String.ofList (bytes.map fun b => Char.ofNat b.toNat)
  appID _ := "app"
  version _ := "1.0.0"
  packageRevision _ := 0
  constraint := "UNIQUE constraint failed"

def empty : CatalogTables := ⟨[], [], [], []⟩

def key (b : UInt8) : Bytes := List.replicate 32 b

/-- The key changes after the first catalog, and a refresh that began before comes back late. -/
def ops : List CatalogOp :=
  [.createSource ⟨"team", "Team", "https://example.org/catalog", key 1, "", "", 0⟩ "g1" "" "t1",
    .commitRefresh "team" "g1" 1 [1, 65] "" "" "t2",
    .updateSource "team" { publicKey := some (key 2) } "",
    .commitRefresh "team" "g1" 1 [1, 65] "" "" "t3",
    .commitRefresh "team" "g1" 2 [2, 65] "" "" "t4"]

def commit (revision : Int) (raw : Bytes) (now : String) : CatalogOp :=
  .commitRefresh "team" "g1" revision raw "" "" now

theorem commits_first : Commits headSigned (commit 1 [1, 65] "t2") (run (catalogStep headSigned) (ops.take 1) empty)
    "team" ([65], "A") :=
  ⟨⟨_, rfl⟩, "g1", 1, [1, 65], "", "", "t2", _, [1, 65], [[65]], rfl, rfl, rfl, rfl, [65], List.mem_singleton_self _, rfl⟩

theorem commits_last : Commits headSigned (commit 2 [2, 65] "t4") (run (catalogStep headSigned) (ops.take 4) empty)
    "team" ([65], "A") :=
  ⟨⟨_, rfl⟩, "g1", 2, [2, 65], "", "", "t4", _, [2, 65], [[65]], rfl, rfl, rfl, rfl, [65], List.mem_singleton_self _, rfl⟩

/-- The last refresh was begun under the new key, which nothing has touched since; the manifest that both keys have
signed is the same. -/
theorem recached_under_new_key :
    (run (catalogStep headSigned) ops empty).cache = [⟨"team", [2, 65], "", "", "t4"⟩] ∧
      CacheVerified headSigned (run (catalogStep headSigned) ops empty) ∧
      (∃ row ∈ (run (catalogStep headSigned) (ops.take 3) empty).sources, row.id = "team" ∧ row.publicKey = key 2 ∧
        ∃ r ∈ (run (catalogStep headSigned) (ops.take 4) empty).sources, SameSource row r) ∧
      Commits headSigned (commit 2 [2, 65] "t4") (run (catalogStep headSigned) (ops.take 4) empty) "team" ([65], "A") ∧
      ∀ manifest, Commits headSigned (commit 2 [2, 65] "t4") (run (catalogStep headSigned) (ops.take 4) empty) "team"
        manifest → manifest.2 = "A" := by
  obtain ⟨hcache, hrefresh, hdigest⟩ :=
    catalog_provenance headSigned empty ⟨by decide, by decide, by decide⟩ ops (by decide)
  refine ⟨by decide, hcache, ?_, commits_last, fun manifest hmanifest => ?_⟩
  · obtain ⟨-, row, hrow, hid, -, -, hkey, -, hsame, -⟩ := hrefresh (ops.take 3) [commit 1 [1, 65] "t3"]
      (commit 2 [2, 65] "t4") [] "team" (run (catalogStep headSigned) (ops.take 3) empty) _ "team" _ rfl rfl
      (.commit [2, 65] "" "" "t4") rfl
    exact ⟨row, hrow, hid, hkey.symm, hsame _ [] rfl⟩
  · exact hdigest (ops.take 4) (commit 2 [2, 65] "t4") [] (ops.take 1) (commit 1 [1, 65] "t2") (ops.drop 2) "team"
      manifest ([65], "A") rfl rfl hmanifest commits_first rfl

end ChangedKey

end Center
end Vastora
