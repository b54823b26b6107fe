import Vastora.Recovery.Archive

/-!
# Restore — which published backups can be read

`write` and `read` do not have the same limits.  `read_published` runs `read` on a file that `write` has
published, for any standard library: what is left are the checks that `write` does not make.  The same manifest
and the same files come back exactly when those hold (`restored_iff_restorable`).
-/

namespace Vastora
namespace Recovery

open Library Library.Guard Library.Runes
open Library.PathEscape (utf8)

/-! ## Maps as lists -/

section Entries

variable {entries l : List (Bytes × Bytes)} {file entry : Bytes × Bytes}

theorem lookup_of_entry (hnodup : (entries.map Prod.fst).Nodup) (h : file ∈ entries) :
    entries.lookup file.1 = some file.2 := by
  induction entries with
  | nil => cases h
  | cons head rest ih =>
      rw [List.map_cons, List.nodup_cons] at hnodup
      rw [List.lookup_cons]
      rcases List.mem_cons.1 h with rfl | hrest
      · rw [beq_self_eq_true]
      · have hne : file.1 ≠ head.1 := fun heq => hnodup.1 (heq ▸ List.mem_map_of_mem hrest)
        rw [beq_eq_false_iff_ne.2 hne]
        exact ih hnodup.2 hrest

theorem any_fst_beq_eq_false {name : Bytes} (h : name ∉ entries.map Prod.fst) :
    (entries.any fun e => e.1 == name) = false := by
  rw [List.any_eq_false]
  intro e he heq
  exact h (eq_of_beq heq ▸ List.mem_map_of_mem he)

/-- Distinct names overwrite nothing. -/
theorem foldl_putEntry_of_nodup (h : ((entries ++ l).map Prod.fst).Nodup) :
    l.foldl putEntry entries = entries ++ l := by
  induction l generalizing entries with
  | nil => rw [List.foldl_nil, List.append_nil]
  | cons entry l ih =>
      have hnew : entry.1 ∉ entries.map Prod.fst := by
        rw [List.map_append, List.map_cons, List.nodup_append] at h
        exact fun hmem => h.2.2 _ hmem _ List.mem_cons_self rfl
      have hput : putEntry entries entry = entries ++ [entry] := by
        rw [putEntry, any_fst_beq_eq_false hnew]
        rfl
      rw [List.append_cons] at h ⊢
      rw [List.foldl_cons, hput, ih h]

theorem mem_putEntry (h : file ∈ putEntry entries entry) : file ∈ entries ∨ file = entry := by
  rw [putEntry] at h
  split at h
  · obtain ⟨e, he, heq⟩ := List.mem_map.1 h
    split at heq
    · exact .inr heq.symm
    · exact .inl (heq ▸ he)
  · simpa using h

theorem mem_foldl_putEntry (h : file ∈ l.foldl putEntry entries) : file ∈ entries ∨ file ∈ l := by
  induction l generalizing entries with
  | nil => exact .inl h
  | cons entry l ih =>
      rcases ih h with hput | hrest
      · rcases mem_putEntry hput with hold | rfl
        · exact .inl hold
        · exact .inr List.mem_cons_self
      · exact .inr (List.mem_cons_of_mem _ hrest)

end Entries

/-! ## Manifests through JSON -/

section Manifests

variable {now later : Int} {m : Manifest}

theorem validateManifest_eq_ok_iff : validateManifest now m = .ok () ↔
    (m.formatVersion == formatVersion && (m.kind == text "agent" || m.kind == text "headscale") &&
      m.componentID != [] && m.componentID.length ≤ 256 && m.release != [] && m.componentVersion != [] &&
      0 ≤ m.schemaVersion && m.createdAt != 0 && m.createdAt ≤ now + minute && m.encryption == encryption &&
      m.identityHash.length == 71 && (text "sha256:").isPrefixOf m.identityHash && m.files != []) = true ∧
    (m.identityHash.drop 7).all isHexByte = true := by
  rw [validateManifest, require_bind_eq_ok_iff, require_eq_ok_iff]

/-- A manifest that was accepted is accepted at any later time. -/
theorem validateManifest_mono (h : validateManifest later m = .ok ()) (hclock : later ≤ now) :
    validateManifest now m = .ok () := by
  rw [validateManifest_eq_ok_iff] at h ⊢
  simp only [Bool.and_eq_true, decide_eq_true_eq] at h ⊢
  have hcreated : m.createdAt ≤ now + minute := by omega
  tauto

theorem isValid_text (s : String) : IsValid (text s) := isValid_utf8 _

theorem lt_of_isHexByte {b : UInt8} (h : isHexByte b = true) : b.toNat < 128 := by
  simp only [isHexByte, Bool.or_eq_true, Bool.and_eq_true, decide_eq_true_eq, UInt8.le_iff_toNat_le] at h
  have h57 : (57 : UInt8).toNat = 57 := rfl
  have h102 : (102 : UInt8).toNat = 102 := rfl
  have h70 : (70 : UInt8).toNat = 70 := rfl
  omega

theorem isValid_of_validateManifest (h : validateManifest now m = .ok ()) :
    IsValid m.kind ∧ IsValid m.encryption ∧ IsValid m.identityHash := by
  rw [validateManifest_eq_ok_iff] at h
  simp only [Bool.and_eq_true, Bool.or_eq_true, beq_iff_eq] at h
  obtain ⟨⟨⟨⟨⟨⟨⟨⟨⟨⟨⟨⟨⟨_, hkind⟩, _⟩, _⟩, _⟩, _⟩, _⟩, _⟩, _⟩, hencryption⟩, _⟩, hpre⟩, _⟩, hhex⟩ := h
  refine ⟨?_, hencryption ▸ isValid_text _, isValid_of_ascii ?_⟩
  · rcases hkind with hkind | hkind <;> exact hkind ▸ isValid_text _
  · obtain ⟨rest, hrest⟩ := List.isPrefixOf_iff_prefix.1 hpre
    have hascii : ((text "sha256:").all fun b => b.toNat < 128) = true := rfl
    have hdrop : m.identityHash.drop 7 = rest := by
      rw [← hrest]
      rfl
    rw [hdrop, List.all_eq_true] at hhex
    intro b hb
    rw [← hrest, List.mem_append] at hb
    rcases hb with hb | hb
    · exact of_decide_eq_true (List.all_eq_true.1 hascii b hb)
    · exact lt_of_isHexByte (hhex b hb)

/-- The strings that a caller chooses. -/
structure ValidStrings (m : Manifest) : Prop where
  componentID : IsValid m.componentID
  release : IsValid m.release
  componentVersion : IsValid m.componentVersion
  dependencies : ∀ names ∈ m.dependencies, ∀ name ∈ names, IsValid name
  names : ∀ entry ∈ m.files, IsValid entry.1

theorem map_eq_self_iff {α : Type} {f : α → α} {l : List α} : l.map f = l ↔ ∀ a ∈ l, f a = a := by
  have h := List.map_inj_left (f := f) (g := id) (l := l)
  rw [List.map_id] at h
  exact h

theorem validStrings_of_reread (h : m.reread = m) : ValidStrings m where
  componentID := congrArg Manifest.componentID h
  release := congrArg Manifest.release h
  componentVersion := congrArg Manifest.componentVersion h
  dependencies := by
    intro names hnames
    have hmap : m.dependencies.map (·.map replaceInvalid) = m.dependencies := congrArg Manifest.dependencies h
    rw [Option.mem_def.1 hnames, Option.map_some, Option.some_inj] at hmap
    exact map_eq_self_iff.1 hmap
  names := by
    intro entry hentry
    -- every decoded name has been through JSON already, and is valid for that
    have hfiles := congrArg Manifest.files h
    rw [← hfiles] at hentry
    rcases mem_foldl_putEntry hentry with hnil | hmem
    · cases hnil
    · obtain ⟨e, _, rfl⟩ := List.mem_map.1 hmem
      exact replaceInvalid_replaceInvalid e.1

theorem reread_eq_self (hvalid : validateManifest now m = .ok ()) (hstrings : ValidStrings m)
    (hnodup : (m.files.map Prod.fst).Nodup) (hdigests : ∀ entry ∈ m.files, IsValid entry.2) : m.reread = m := by
  obtain ⟨hkind, hencryption, hidentity⟩ := isValid_of_validateManifest hvalid
  have hfiles : (m.files.map fun entry => (replaceInvalid entry.1, replaceInvalid entry.2)) = m.files := by
    rw [map_eq_self_iff]
    exact fun entry hentry => Prod.ext (hstrings.names entry hentry) (hdigests entry hentry)
  have hdependencies : m.dependencies.map (·.map replaceInvalid) = m.dependencies := by
    cases hdeps : m.dependencies with
    | none => rfl
    | some names =>
        exact congrArg some (map_eq_self_iff.2 (hstrings.dependencies names hdeps))
  have hput := @foldl_putEntry_of_nodup [] m.files hnodup
  rw [Manifest.reread, hfiles, hput, hdependencies, hkind, hencryption, hidentity, hstrings.componentID,
    hstrings.release, hstrings.componentVersion]
  rfl

end Manifests

/-! ## Members -/

section Members

variable {acc members : List (Bytes × Bytes)} {file : Bytes × Bytes} {total total' : Nat}

theorem checkMember_eq_ok (h : checkMember total file = .ok total') :
    safeName file.1 = true ∧ file.1 ≠ manifestName ∧ total + file.2.length ≤ maxArtifactBytes := by
  rw [checkMember, require_bind_eq_ok_iff, require_bind_eq_ok_iff, Bool.and_eq_true, bne_iff_ne,
    decide_eq_true_eq] at h
  exact ⟨h.1.1, h.1.2, h.2.1⟩

/-- What the loop of `write` has checked of every file. -/
theorem checkMembers_eq_ok (h : members.foldlM checkMember total = .ok total') :
    ∀ file ∈ members, safeName file.1 = true ∧ file.1 ≠ manifestName ∧ file.2.length ≤ maxArtifactBytes := by
  induction members generalizing total with
  | nil => simp
  | cons head rest ih =>
      rw [List.foldlM_cons, bind_eq_ok_iff] at h
      obtain ⟨next, hhead, hrest⟩ := h
      obtain ⟨hsafe, hname, hsize⟩ := checkMember_eq_ok hhead
      rw [List.forall_mem_cons]
      exact ⟨⟨hsafe, hname, by omega⟩, ih hrest⟩

theorem readMember_ofFile (hsafe : safeName file.1 = true) (hnew : file.1 ∉ acc.map Prod.fst) :
    readMember acc (.ofFile file) =
      if file.2.length ≤ maxArtifactBytes ∧ acc.length < 32 then .ok (acc ++ [file])
      else .error "recovery: invalid backup archive" := by
  have hdata : (some file.2).filter (fun data => (data.length : Int) == (file.2.length : Int)) = some file.2 := by
    rw [Option.filter_some, beq_self_eq_true, if_pos rfl]
  have hcheck : (true && safeName file.1 && decide (0 ≤ (file.2.length : Int)) &&
      decide ((file.2.length : Int) ≤ maxArtifactBytes) && decide (acc.length < 32)) =
      decide (file.2.length ≤ maxArtifactBytes ∧ acc.length < 32) := by
    rw [hsafe, Bool.decide_and]
    simp
  rw [TarEntry.ofFile, readMember, hcheck, any_fst_beq_eq_false hnew, hdata]
  by_cases h : file.2.length ≤ maxArtifactBytes ∧ acc.length < 32
  · rw [if_pos h, decide_eq_true h]
    rfl
  · rw [if_neg h, decide_eq_false h]
    rfl

/-- The loop of `read` over files that were written. -/
theorem readMembers_eq (hsafe : ∀ file ∈ members, safeName file.1 = true)
    (hnodup : ((acc ++ members).map Prod.fst).Nodup) (hacc : acc.length ≤ 32) :
    (members.map TarEntry.ofFile).foldlM readMember acc =
      if acc.length + members.length ≤ 32 ∧ ∀ file ∈ members, file.2.length ≤ maxArtifactBytes then
        .ok (acc ++ members)
      else .error "recovery: invalid backup archive" := by
  induction members generalizing acc with
  | nil => simp [hacc, pure, Except.pure]
  | cons head rest ih =>
      rw [List.forall_mem_cons] at hsafe
      have hnew : head.1 ∉ acc.map Prod.fst := by
        rw [List.map_append, List.map_cons, List.nodup_append] at hnodup
        exact fun hmem => hnodup.2.2 _ hmem _ List.mem_cons_self rfl
      have happend : acc ++ head :: rest = acc ++ [head] ++ rest := List.append_cons acc head rest
      rw [happend] at hnodup ⊢
      rw [List.map_cons, List.foldlM_cons, readMember_ofFile hsafe.1 hnew]
      by_cases h : head.2.length ≤ maxArtifactBytes ∧ acc.length < 32
      · have hlength : (acc ++ [head]).length = acc.length + 1 := List.length_append
        have hbounds : ((acc ++ [head]).length + rest.length ≤ 32 ∧ ∀ file ∈ rest, file.2.length ≤ maxArtifactBytes) ↔
            acc.length + (head :: rest).length ≤ 32 ∧ ∀ file ∈ head :: rest, file.2.length ≤ maxArtifactBytes := by
          rw [List.forall_mem_cons, hlength, List.length_cons, Nat.add_right_comm, Nat.add_assoc]
          simp only [h.1, true_and]
        rw [if_pos h]
        change List.foldlM readMember (acc ++ [head]) (rest.map TarEntry.ofFile) = _
        rw [ih hsafe.2 hnodup (by omega)]
        exact if_congr hbounds rfl rfl
      · -- the loop stops here, and the bounds fail for the whole list
        have hfail : ¬(acc.length + (head :: rest).length ≤ 32 ∧
            ∀ file ∈ head :: rest, file.2.length ≤ maxArtifactBytes) := by
          rintro ⟨hcount, hsizes⟩
          rw [List.length_cons] at hcount
          exact h ⟨hsizes head List.mem_cons_self, by omega⟩
        rw [if_neg h, if_neg hfail]
        rfl

end Members

/-! ## Reading what was published -/

section Published

variable {std : Standard} {sorter : Sorter} {publish : Bytes → Except String Unit} {password archive raw : Bytes}
  {manifest : Manifest} {files : FileMap} {now later readAt : Int} {random : Random} {artifact : Artifact}
  {metadata : Bytes}

theorem decrypt_encrypt (h : encrypt std archive password random = .ok raw) :
    decrypt std raw password = .ok archive := by
  rw [encrypt, bind_eq_ok_iff] at h
  obtain ⟨key, hkey, hraw⟩ := h
  rw [pure_eq_ok_iff] at hraw
  obtain ⟨salt, nonce, hsalt, hnonce⟩ := random
  have hmagic : magic.length = 8 := rfl
  have hheader : (magic ++ [2] ++ salt).length = 25 := by simp [hmagic, hsalt]
  -- the slices of the file, by the lengths of what was put together
  have htake : raw.take 25 = magic ++ [2] ++ salt := by
    rw [← hraw, List.append_assoc, ← hheader, List.take_left]
  have hdrop : raw.drop 25 = nonce ++ std.gcmSeal key nonce archive (magic ++ [2] ++ salt) := by
    rw [← hraw, List.append_assoc, ← hheader, List.drop_left]
  have hnonceSlice : (raw.take 37).drop 25 = nonce := by
    rw [List.drop_take, hdrop, show 37 - 25 = nonce.length from hnonce.symm, List.take_left]
  have hsealed : raw.drop 37 = std.gcmSeal key nonce archive (magic ++ [2] ++ salt) := by
    rw [show 37 = 25 + 12 from rfl, ← List.drop_drop, hdrop, ← hnonce, List.drop_left]
  have hsaltSlice : (raw.take 25).drop 9 = salt := by
    rw [htake]
    exact List.drop_left' (by simp [hmagic])
  have hmagicSlice : raw.take 8 = magic := by
    rw [← hraw, List.append_assoc, List.append_assoc, List.append_assoc, ← hmagic, List.take_left]
  have hversion : (raw.drop 8).head? = some 2 := by
    rw [← hraw, List.append_assoc, List.append_assoc, List.append_assoc, ← hmagic, List.drop_left]
    rfl
  have hlength : 53 ≤ raw.length := by
    rw [← hraw, List.length_append, List.length_append, hheader, hnonce, std.length_seal]
    omega
  rw [decrypt, require_bind_eq_ok_iff, hmagicSlice, hversion, hsaltSlice, hkey, bind_eq_ok_iff]
  refine ⟨by simp [hlength], key, rfl, ?_⟩
  rw [require_bind_eq_ok_iff, hnonceSlice, hsealed, htake, std.open_seal]
  exact ⟨by simp [hlength], rfl⟩

theorem write_eq_ok_iff : write std sorter publish password manifest files now later random = .ok (artifact, raw) ↔
    validatePassword password = .ok () ∧ (∃ total, files.entries.foldlM checkMember 0 = .ok total) ∧
    validateManifest later (completed std manifest now (sortFiles sorter files.entries)) = .ok () ∧
    ∃ metadata archive,
      std.marshal (completed std manifest now (sortFiles sorter files.entries)) = .ok metadata ∧
      std.tarWrite (sortFiles sorter files.entries ++ [(manifestName, metadata)]) = .ok archive ∧
      encrypt std archive password random = .ok raw ∧ publish raw = .ok () ∧
      artifact = ⟨completed std manifest now (sortFiles sorter files.entries), digest std raw⟩ := by
  simp only [write, bind_eq_ok_iff, pure_eq_ok_iff, Prod.mk.injEq]
  constructor
  · rintro ⟨_, hpassword, total, htotal, _, hvalid, metadata, hmetadata, archive, harchive, raw', hraw, _,
      hpublish, hartifact, rfl⟩
    exact ⟨hpassword, ⟨total, htotal⟩, hvalid, metadata, archive, hmetadata, harchive, hraw, hpublish,
      hartifact.symm⟩
  · rintro ⟨hpassword, ⟨total, htotal⟩, hvalid, metadata, archive, hmetadata, harchive, hraw, hpublish, rfl⟩
    exact ⟨(), hpassword, total, htotal, (), hvalid, metadata, hmetadata, archive, harchive, raw, hraw, (),
      hpublish, rfl, rfl⟩

/-- The lists that `write` makes of the files. -/
theorem perm_sortFiles : (sortFiles sorter files.entries).Perm files.entries := sorter.perm _ _

theorem nodup_sortFiles : ((sortFiles sorter files.entries).map Prod.fst).Nodup :=
  (perm_sortFiles.map Prod.fst).nodup_iff.2 files.distinct

theorem map_fst_completed :
    (completed std manifest now (sortFiles sorter files.entries)).files.map Prod.fst =
      (sortFiles sorter files.entries).map Prod.fst := by
  rw [completed, List.map_map]
  rfl

theorem length_completed_files :
    (completed std manifest now (sortFiles sorter files.entries)).files.length = files.entries.length := by
  rw [completed, List.length_map, perm_sortFiles.length_eq]

/-- The members of the archive: the files and the manifest. -/
def archived (sorter : Sorter) (files : FileMap) (metadata : Bytes) : List (Bytes × Bytes) :=
  sortFiles sorter files.entries ++ [(manifestName, metadata)]

section Archived

variable (hfiles : ∀ file ∈ files.entries,
  safeName file.1 = true ∧ file.1 ≠ manifestName ∧ file.2.length ≤ maxArtifactBytes)
include hfiles

theorem nodup_archived : ((archived sorter files metadata).map Prod.fst).Nodup := by
  rw [archived, List.map_append, List.nodup_append]
  refine ⟨nodup_sortFiles, List.nodup_singleton _, ?_⟩
  intro name hname name' hname' heq
  obtain ⟨file, hfile, rfl⟩ := List.mem_map.1 hname
  exact (hfiles file (perm_sortFiles.mem_iff.1 hfile)).2.1 (heq.trans (List.mem_singleton.1 hname'))

theorem safeName_archived : ∀ file ∈ archived sorter files metadata, safeName file.1 = true := by
  intro file hfile
  rcases List.mem_append.1 hfile with hfile | hfile
  · exact (hfiles file (perm_sortFiles.mem_iff.1 hfile)).1
  · rw [List.mem_singleton.1 hfile]
    rfl

theorem lookup_archived : (archived sorter files metadata).lookup manifestName = some metadata :=
  lookup_of_entry (nodup_archived hfiles) (List.mem_append_right _ List.mem_cons_self)

theorem filter_archived :
    ((archived sorter files metadata).filter fun file => file.1 != manifestName) = sortFiles sorter files.entries := by
  have hkept : ∀ file ∈ sortFiles sorter files.entries, (file.1 != manifestName) = true :=
    fun file hfile => bne_iff_ne.2 (hfiles file (perm_sortFiles.mem_iff.1 hfile)).2.1
  rw [archived, List.filter_append, List.filter_eq_self.2 hkept]
  simp

/-- `write` has bounded the files already, so the manifest and the count of members are left. -/
theorem readMembers_archived (harchive : std.tarWrite (archived sorter files metadata) = .ok archive) :
    (std.tarRead archive).foldlM readMember [] =
      if files.entries.length ≤ 31 ∧ metadata.length ≤ maxArtifactBytes then .ok (archived sorter files metadata)
      else .error "recovery: invalid backup archive" := by
  have hsafe : ∀ file ∈ archived sorter files metadata, safeName file.1 = true := safeName_archived hfiles
  have hsizes : ∀ file ∈ sortFiles sorter files.entries, file.2.length ≤ maxArtifactBytes :=
    fun file hfile => (hfiles file (perm_sortFiles.mem_iff.1 hfile)).2.2
  have hlength : (archived sorter files metadata).length = files.entries.length + 1 := by
    rw [archived, List.length_append, perm_sortFiles.length_eq]
    rfl
  rw [std.read_write _ _ hsafe harchive, readMembers_eq hsafe (nodup_archived hfiles) (by simp)]
  refine if_congr ?_ rfl rfl
  rw [hlength, List.length_nil, Nat.zero_add, Nat.add_le_add_iff_right, archived, List.forall_mem_append]
  constructor
  · rintro ⟨hcount, -, hmanifest⟩
    exact ⟨hcount, hmanifest _ List.mem_cons_self⟩
  · rintro ⟨hcount, hmanifest⟩
    exact ⟨hcount, hsizes, List.forall_mem_singleton.2 hmanifest⟩

end Archived

theorem length_encrypt (h : encrypt std archive password random = .ok raw) : raw.length = archive.length + 53 := by
  rw [encrypt, bind_eq_ok_iff] at h
  obtain ⟨key, -, hraw⟩ := h
  have hmagic : magic.length = 8 := rfl
  rw [← pure_eq_ok_iff.1 hraw]
  simp only [List.length_append, hmagic, random.salt_length, random.nonce_length, std.length_seal, List.length_cons,
    List.length_nil]
  omega

/-- What is left of `read` on a published file: the checks that `write` does not make. -/
theorem read_published
    (hwrite : write std sorter publish password manifest files now later random = .ok (artifact, raw))
    (hmetadata : std.marshal artifact.manifest = .ok metadata) :
    read std password raw readAt = (do
      require (raw.length ≤ maxArtifactBytes + 2 ^ 20) "recovery: artifact file type or size is invalid"
      require (files.entries.length ≤ 31 ∧ metadata.length ≤ maxArtifactBytes) "recovery: invalid backup archive"
      validateManifest readAt artifact.manifest.reread
      require ((sortFiles sorter files.entries).length == artifact.manifest.reread.files.length)
        "recovery: incomplete artifact"
      require (artifact.manifest.reread.files.all fun entry => safeName entry.1 &&
          ((sortFiles sorter files.entries).lookup entry.1).any fun data => digest std data == entry.2)
        "recovery: artifact integrity check failed"
      return (⟨artifact.manifest.reread, digest std raw⟩, sortFiles sorter files.entries)) := by
  obtain ⟨hpassword, ⟨total, htotal⟩, -, metadata', archive, hmetadata', harchive, hraw, -, rfl⟩ :=
    write_eq_ok_iff.1 hwrite
  obtain rfl : metadata' = metadata := Except.ok.inj (hmetadata'.symm.trans hmetadata)
  have hfiles := checkMembers_eq_ok htotal
  have hpos : 1 ≤ raw.length := by
    rw [length_encrypt hraw]
    omega
  have hsize : (decide (1 ≤ raw.length) && decide (raw.length ≤ maxArtifactBytes + 2 ^ 20)) =
      decide (raw.length ≤ maxArtifactBytes + 2 ^ 20) := by
    rw [decide_eq_true hpos, Bool.true_and]
  rw [read, hpassword, readRegularFile, hsize]
  by_cases hlimit : raw.length ≤ maxArtifactBytes + 2 ^ 20
  · rw [decide_eq_true hlimit]
    change (decrypt std raw password >>= _) = _
    rw [decrypt_encrypt hraw]
    change ((std.tarRead archive).foldlM readMember [] >>= _) = _
    rw [readMembers_archived hfiles harchive]
    by_cases hbounds : files.entries.length ≤ 31 ∧ metadata'.length ≤ maxArtifactBytes
    · rw [if_pos hbounds, decide_eq_true hbounds]
      change (fetch (std.decodeManifest (((archived sorter files metadata').lookup manifestName).getD [])) _ >>= _) = _
      rw [lookup_archived hfiles, Option.getD_some, std.decode_marshal _ _ hmetadata']
      simp only [filter_archived hfiles]
      rfl
    · rw [if_neg hbounds, decide_eq_false hbounds]
      rfl
  · rw [decide_eq_false hlimit]
    rfl

/-! ## Which backups come back -/

/-- What `read` asks of a backup and `write` does not. -/
structure Restorable (std : Standard) (artifact : Artifact) (raw : Bytes) : Prop where
  members : artifact.manifest.files.length ≤ 31
  strings : ValidStrings artifact.manifest
  size : raw.length ≤ maxArtifactBytes + 2 ^ 20
  metadata : ∀ metadata, std.marshal artifact.manifest = .ok metadata → metadata.length ≤ maxArtifactBytes

theorem isValid_digest (value : Bytes) : IsValid (digest std value) := isValid_utf8 _

/-- A published backup is read back with the same manifest and the same files exactly when it is restorable. -/
theorem restored_iff_restorable
    (hwrite : write std sorter publish password manifest files now later random = .ok (artifact, raw))
    (hclock : later ≤ readAt) :
    (∃ restored, read std password raw readAt = .ok (artifact, restored) ∧ restored.Perm files.entries) ↔
      Restorable std artifact raw := by
  obtain ⟨-, ⟨total, htotal⟩, hvalid, metadata, archive, hmetadata, -, -, -, hartifact⟩ := write_eq_ok_iff.1 hwrite
  have hmanifest : artifact.manifest = completed std manifest now (sortFiles sorter files.entries) :=
    congrArg Artifact.manifest hartifact
  have hdigest : artifact.digest = digest std raw := congrArg Artifact.digest hartifact
  have hfiles := checkMembers_eq_ok htotal
  have hcount : artifact.manifest.files.length = files.entries.length := by
    rw [hmanifest, length_completed_files]
  rw [← hmanifest] at hvalid hmetadata
  constructor
  · rintro ⟨restored, hread, -⟩
    rw [read_published hwrite hmetadata, require_bind_eq_ok_iff, require_bind_eq_ok_iff, bind_eq_ok_iff,
      decide_eq_true_eq, decide_eq_true_eq] at hread
    obtain ⟨hlimit, ⟨hmembers, hmeta⟩, _, -, hread⟩ := hread
    rw [require_bind_eq_ok_iff, require_bind_eq_ok_iff, pure_eq_ok_iff, Prod.mk.injEq] at hread
    obtain ⟨-, -, hsame, -⟩ := hread
    refine ⟨hcount ▸ hmembers, validStrings_of_reread (congrArg Artifact.manifest hsame), hlimit, ?_⟩
    intro metadata' hmetadata'
    rwa [Except.ok.inj (hmetadata'.symm.trans hmetadata)]
  · intro hrestorable
    have hnodup : (artifact.manifest.files.map Prod.fst).Nodup := by
      rw [hmanifest, map_fst_completed]
      exact nodup_sortFiles
    have hdigests : ∀ entry ∈ artifact.manifest.files, ∃ file ∈ sortFiles sorter files.entries,
        entry = (file.1, digest std file.2) := by
      intro entry hentry
      rw [hmanifest, completed] at hentry
      obtain ⟨file, hfile, rfl⟩ := List.mem_map.1 hentry
      exact ⟨file, hfile, rfl⟩
    have hreread : artifact.manifest.reread = artifact.manifest := by
      refine reread_eq_self hvalid hrestorable.strings hnodup fun entry hentry => ?_
      obtain ⟨file, -, rfl⟩ := hdigests entry hentry
      exact isValid_digest _
    refine ⟨sortFiles sorter files.entries, ?_, perm_sortFiles⟩
    have hintact : (artifact.manifest.files.all fun entry => safeName entry.1 &&
        ((sortFiles sorter files.entries).lookup entry.1).any fun data => digest std data == entry.2) = true := by
      rw [List.all_eq_true]
      intro entry hentry
      obtain ⟨file, hfile, rfl⟩ := hdigests entry hentry
      have hsafe := (hfiles file (perm_sortFiles.mem_iff.1 hfile)).1
      rw [hsafe, lookup_of_entry nodup_sortFiles hfile]
      simp
    rw [read_published hwrite hmetadata, hreread, require_bind_eq_ok_iff, require_bind_eq_ok_iff, bind_eq_ok_iff,
      decide_eq_true_eq, decide_eq_true_eq]
    refine ⟨hrestorable.size, ⟨hcount ▸ hrestorable.members, hrestorable.metadata _ hmetadata⟩, (),
      validateManifest_mono hvalid hclock, ?_⟩
    rw [require_bind_eq_ok_iff, require_bind_eq_ok_iff, pure_eq_ok_iff, perm_sortFiles.length_eq, hcount, hintact,
      ← hdigest]
    exact ⟨beq_self_eq_true _, rfl, rfl⟩

end Published

/-! ## A library of plain records -/

namespace PlainBackup

/-- Records with every byte marked, so that a mark of its own ends them. -/
def pack : List Bytes → Bytes
  | [] => []
  | record :: records => record.flatMap (fun b => [1, b]) ++ 0 :: pack records

/-- The records, the first one from the bytes in front of it. -/
def unpackFrom (front : Bytes) : Bytes → List Bytes
  | [] => []
  | [_] => [front]
  | mark :: b :: rest => if mark = 0 then front :: unpackFrom [] (b :: rest) else unpackFrom (front ++ [b]) rest

theorem unpackFrom_pack (front record rest : Bytes) :
    unpackFrom front (record.flatMap (fun b => [1, b]) ++ 0 :: rest) =
      (front ++ record) :: unpackFrom [] rest := by
  induction record generalizing front with
  | nil =>
      cases rest with
      | nil => simp [unpackFrom]
      | cons b rest => simp [unpackFrom]
  | cons b record ih =>
      have hstep : unpackFrom front (1 :: b :: (record.flatMap (fun b => [1, b]) ++ 0 :: rest)) =
          unpackFrom (front ++ [b]) (record.flatMap (fun b => [1, b]) ++ 0 :: rest) := by
        rw [unpackFrom, if_neg (by decide)]
      rw [List.flatMap_cons]
      exact hstep.trans ((ih (front ++ [b])).trans (by rw [List.append_assoc]; rfl))

def unpack : Bytes → List Bytes := unpackFrom []

@[simp] theorem unpack_pack (records : List Bytes) : unpack (pack records) = records := by
  induction records with
  | nil => rfl
  | cons record records ih =>
      rw [pack, unpack, unpackFrom_pack]
      exact congrArg (record :: ·) ih

def flatten (files : List (Bytes × Bytes)) : List Bytes := files.flatMap fun file => [file.1, file.2]

def pairUp : List Bytes → List (Bytes × Bytes)
  | name :: data :: rest => (name, data) :: pairUp rest
  | _ => []

@[simp] theorem pairUp_flatten (files : List (Bytes × Bytes)) : pairUp (flatten files) = files := by
  induction files with
  | nil => rfl
  | cons file files ih => exact congrArg (file :: ·) ih

def intBytes (n : Int) : Bytes := (if n < 0 then 1 else 0) :: List.replicate n.natAbs 0

def bytesInt : Bytes → Int
  | [] => 0
  | sign :: rest => if sign = 1 then -rest.length else rest.length

@[simp] theorem bytesInt_intBytes (n : Int) : bytesInt (intBytes n) = n := by
  rw [intBytes, bytesInt, List.length_replicate]
  by_cases h : n < 0
  · rw [if_pos h, if_pos rfl]
    omega
  · rw [if_neg h, if_neg (by decide)]
    omega

def dependencyBytes : Option (List Bytes) → Bytes
  | none => []
  | some names => 0 :: pack names

def bytesDependencies : Bytes → Option (List Bytes)
  | [] => none
  | _ :: rest => some (unpack rest)

@[simp] theorem bytesDependencies_dependencyBytes (names : Option (List Bytes)) :
    bytesDependencies (dependencyBytes names) = names := by
  cases names with
  | none => rfl
  | some names => exact congrArg some (unpack_pack names)

def encodeManifest (m : Manifest) : Bytes :=
  pack [intBytes m.formatVersion, m.kind, m.componentID, m.release, m.componentVersion, intBytes m.schemaVersion,
    m.identityHash, intBytes m.createdAt, m.encryption, pack (flatten m.files), dependencyBytes m.dependencies]

def decodeManifest (bytes : Bytes) : Option Manifest :=
  match unpack bytes with
  | [version, kind, id, release, componentVersion, schema, identity, created, encryption, files, dependencies] =>
      some ⟨bytesInt version, kind, id, release, componentVersion, bytesInt schema, identity, bytesInt created,
        encryption, pairUp (unpack files), bytesDependencies dependencies⟩
  | _ => none

theorem decodeManifest_encodeManifest (m : Manifest) : decodeManifest (encodeManifest m) = some m := by
  rw [decodeManifest, encodeManifest, unpack_pack]
  simp

/-- All that a `Standard` promises, without secrets. -/
def plain : Standard where
  sha256 value := value.take 32
  deriveBackupKey _ salt := .ok salt
  gcmSeal _ _ text _ := text ++ List.replicate 16 0
  gcmOpen _ _ sealed _ := some (sealed.take (sealed.length - 16))
  open_seal _ _ text _ := by simp
  length_seal _ _ text _ := by simp
  marshal m := .ok (encodeManifest m.reread)
  decodeManifest := decodeManifest
  decode_marshal m bytes h := by
    rw [← Except.ok.inj h, decodeManifest_encodeManifest]
  tarWrite files := .ok (pack (flatten files))
  tarRead bytes := (pairUp (unpack bytes)).map TarEntry.ofFile
  read_write files bytes _ h := by
    rw [← Except.ok.inj h, unpack_pack, pairUp_flatten]

def random : Random := ⟨List.replicate 16 7, List.replicate 12 9, by simp, by simp⟩

def password : Bytes := text "twelve letters"

def manifest : Manifest where
  formatVersion := 0
  kind := text "agent"
  componentID := text "node"
  release := text "v1"
  componentVersion := text "v1"
  schemaVersion := 0
  identityHash := text "sha256:" ++ List.replicate 64 97
  createdAt := 0
  encryption := []
  files := []
  dependencies := none

/-- One file for each letter, with its letter in it. -/
def letters (names : String) : List (Bytes × Bytes) := names.toList.map fun c => (utf8 [c], utf8 [c])

def few : FileMap := ⟨letters "ab", by decide⟩

def many : FileMap := ⟨letters "0123456789ABCDEFGHIJKLMNOPQRSTUV", by decide⟩

theorem validatePassword_password : validatePassword password = .ok () := by
  rw [validatePassword, password, text, runes_utf8]
  decide

/-- The manifest of a backup of `files`, in the first nanosecond. -/
def written (files : FileMap) : Manifest := completed plain manifest 1 (sortFiles insertionSorter files.entries)

def published (files : FileMap) : Except String (Artifact × Bytes) :=
  write plain insertionSorter (fun _ => .ok ()) password manifest files 1 1 random

/-- The bytes of the archive that is encrypted. -/
def archive (files : FileMap) : Bytes :=
  pack (flatten (archived insertionSorter files (encodeManifest (written files).reread)))

theorem exists_published (files : FileMap) (hmembers : ∃ total, files.entries.foldlM checkMember 0 = .ok total)
    (hvalid : validateManifest 1 (written files) = .ok ()) :
    ∃ raw, published files = .ok (⟨written files, digest plain raw⟩, raw) ∧ raw.length = (archive files).length + 53 := by
  obtain ⟨raw, hraw⟩ : ∃ raw, encrypt plain (archive files) password random = .ok raw := ⟨_, rfl⟩
  exact ⟨raw, write_eq_ok_iff.2 ⟨validatePassword_password, hmembers, hvalid, _, _, rfl, rfl, hraw, rfl, rfl⟩,
    length_encrypt hraw⟩

/-- Two files come back; of thirty-two the manifest is a member too many. -/
theorem few_restored_many_not :
    (∃ artifact raw, published few = .ok (artifact, raw) ∧
      ∃ restored, read plain password raw 1 = .ok (artifact, restored) ∧ restored.Perm few.entries) ∧
    ∃ artifact raw, published many = .ok (artifact, raw) ∧
      ¬ ∃ restored, read plain password raw 1 = .ok (artifact, restored) ∧ restored.Perm many.entries := by
  constructor
  · obtain ⟨raw, hpublished, hlength⟩ := exists_published few ⟨2, rfl⟩ rfl
    refine ⟨_, raw, hpublished, (restored_iff_restorable hpublished le_rfl).2 ⟨?_, ?_, ?_, ?_⟩⟩
    · change (written few).files.length ≤ 31
      decide +kernel
    · refine ⟨isValid_text _, isValid_text _, isValid_text _, ?_, ?_⟩
      · intro names hnames
        cases hnames
      · change ∀ entry ∈ (written few).files, IsValid entry.1
        decide +kernel
    · rw [hlength]
      decide +kernel
    · intro metadata hmetadata
      rw [← Except.ok.inj hmetadata]
      change (encodeManifest (written few).reread).length ≤ maxArtifactBytes
      decide +kernel
  · obtain ⟨raw, hpublished, -⟩ := exists_published many ⟨32, rfl⟩ rfl
    refine ⟨_, raw, hpublished, fun hrestored => ?_⟩
    have hmembers := ((restored_iff_restorable hpublished le_rfl).1 hrestored).members
    rw [written, length_completed_files] at hmembers
    exact absurd hmembers (by decide)

end PlainBackup

end Recovery
end Vastora
