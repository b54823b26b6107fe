import Mathlib.Algebra.Order.BigOperators.Group.List
import Vastora.Center.Meridian.Usage
import Vastora.Library.Epochs

/-!
# Ledger — used bytes over whole histories

A history records the samples of every credential and what it had used when its entry was last reset.
`Counted` relates a watermark to the samples of its credential: what was observed falls short of the
sum over all epochs by what restarts have hidden.  Restarts are detected for each direction on its
own, so a direction that has already passed its old value hides the old value.
-/

namespace Vastora
namespace Center
namespace Meridian

open Library Library.Guard

/-! ## Samples -/

/-- A snapshot, with the epoch of the process in which it was taken. -/
structure Sample where
  epoch : Nat
  snapshot : CounterSnapshot

/-- What the process has counted in its epoch. -/
def Sample.bytes (s : Sample) : Int := s.snapshot.upBytes + s.snapshot.downBytes

/-- Counters are not negative. -/
def Sample.Nonneg (s : Sample) : Prop := 0 ≤ s.snapshot.upBytes ∧ 0 ≤ s.snapshot.downBytes

/-- The sample after `p`: counters only grow in one epoch, and a restart shows as a decrease of at
least one of them. -/
def Follows (s p : Sample) : Prop :=
  s.epoch = p.epoch ∧ p.snapshot.upBytes ≤ s.snapshot.upBytes ∧
      p.snapshot.downBytes ≤ s.snapshot.downBytes ∨
    p.epoch < s.epoch ∧ (s.snapshot.upBytes < p.snapshot.upBytes ∨
      s.snapshot.downBytes < p.snapshot.downBytes)

/-- A restart after which one of the counters has already passed its old value. -/
def Masked (s p : Sample) : Prop :=
  p.epoch < s.epoch ∧ (0 < p.snapshot.upBytes ∧ p.snapshot.upBytes ≤ s.snapshot.upBytes ∨
    0 < p.snapshot.downBytes ∧ p.snapshot.downBytes ≤ s.snapshot.downBytes)

/-- What a counter hides when it has passed its old value. -/
def passed (old new : Int) : Int := if old ≤ new then old else 0

/-- The bytes that a restart hides. -/
def loss (s p : Sample) : Int :=
  if p.epoch < s.epoch then passed p.snapshot.upBytes s.snapshot.upBytes +
    passed p.snapshot.downBytes s.snapshot.downBytes else 0

/-- The bytes that all restarts have hidden, the newest sample first. -/
def lost : List Sample → Int
  | s :: p :: samples => loss s p + lost (p :: samples)
  | _ => 0

section Samples

variable {s p : Sample} {samples : List Sample}

theorem passed_nonneg {old new : Int} (h : 0 ≤ old) : 0 ≤ passed old new := by
  unfold passed
  split <;> omega

theorem passed_eq_zero_iff {old new : Int} (h : 0 ≤ old) :
    passed old new = 0 ↔ ¬ (0 < old ∧ old ≤ new) := by
  unfold passed
  split <;> omega

theorem loss_nonneg (hp : p.Nonneg) : 0 ≤ loss s p := by
  unfold loss
  split
  · exact add_nonneg (passed_nonneg hp.1) (passed_nonneg hp.2)
  · exact le_rfl

theorem loss_eq_zero_iff (hp : p.Nonneg) : loss s p = 0 ↔ ¬ Masked s p := by
  unfold loss Masked
  have hup := @passed_nonneg _ s.snapshot.upBytes hp.1
  have hdown := @passed_nonneg _ s.snapshot.downBytes hp.2
  split
  · rename_i hepoch
    rw [add_eq_zero_iff_of_nonneg hup hdown, passed_eq_zero_iff hp.1, passed_eq_zero_iff hp.2]
    simp [hepoch]
  · rename_i hepoch
    simp [hepoch]

theorem lost_nonneg (h : ∀ s ∈ samples, s.Nonneg) : 0 ≤ lost samples := by
  induction samples with
  | nil => exact le_rfl
  | cons s samples ih =>
      cases samples with
      | nil => exact le_rfl
      | cons p samples =>
          have hrest := ih fun x hx => h x (List.mem_cons_of_mem s hx)
          exact add_nonneg (loss_nonneg (h p (by simp))) hrest

/-- Nothing is lost exactly when no restart is masked. -/
theorem lost_eq_zero_iff (h : ∀ s ∈ samples, s.Nonneg) :
    lost samples = 0 ↔ samples.IsChain fun s p => ¬ Masked s p := by
  induction samples with
  | nil => simp [lost]
  | cons s samples ih =>
      cases samples with
      | nil => simp [lost]
      | cons p samples =>
          have htail : ∀ x ∈ p :: samples, x.Nonneg := fun x hx => h x (List.mem_cons_of_mem s hx)
          rw [lost, List.isChain_cons_cons, ← ih htail, ← loss_eq_zero_iff (htail p (by simp)),
            add_eq_zero_iff_of_nonneg (loss_nonneg (htail p (by simp))) (lost_nonneg htail)]

/-- Epochs do not come back. -/
theorem epoch_le_of_isChain (h : (p :: samples).IsChain Follows) :
    ∀ x ∈ p :: samples, x.epoch ≤ p.epoch := by
  have htrans : (p :: samples).IsChain fun s p => p.epoch ≤ s.epoch := h.imp fun s p hs => by
    rcases hs with ⟨hepoch, -⟩ | ⟨hepoch, -⟩ <;> omega
  have hpairwise := List.isChain_iff_pairwise.1 htrans
  intro x hx
  rcases List.mem_cons.1 hx with rfl | hx
  · exact le_rfl
  · exact (List.pairwise_cons.1 hpairwise).1 x hx

end Samples

/-! ## One credential -/

/-- The watermark of a credential after its samples, the newest first. -/
structure Counted (w : Watermark) (samples : List Sample) : Prop where
  chain : samples.IsChain Follows
  nonneg : ∀ s ∈ samples, s.Nonneg
  rawUp : w.rawUpBytes = (samples.head?.map (·.snapshot.upBytes)).getD 0
  rawDown : w.rawDownBytes = (samples.head?.map (·.snapshot.downBytes)).getD 0
  counted : w.observedBytes + lost samples = Epochs.total Sample.epoch Sample.bytes samples
  baseline : 0 ≤ w.baselineBytes ∧ w.baselineBytes ≤ w.observedBytes

section Counted

variable {w : Watermark} {s : Sample} {samples : List Sample}

theorem counted_nil (credentialID : String) : Counted ⟨credentialID, 0, 0, 0, 0⟩ [] :=
  ⟨.nil, by simp, rfl, rfl, rfl, le_rfl, le_rfl⟩

/-- What a sample adds to the sum over all epochs is what its counters have grown by, and what the
restart before it has hidden. -/
theorem Counted.total_cons (h : Counted w samples) (hs : s.Nonneg)
    (hfollows : (s :: samples).IsChain Follows) :
    Epochs.total Sample.epoch Sample.bytes (s :: samples) =
      Epochs.total Sample.epoch Sample.bytes samples +
        (growth w.rawUpBytes s.snapshot.upBytes + growth w.rawDownBytes s.snapshot.downBytes) +
        (lost (s :: samples) - lost samples) := by
  rw [Epochs.total_cons, h.rawUp, h.rawDown]
  cases samples with
  | nil =>
      have hlast : Epochs.lastIn Sample.epoch Sample.bytes s.epoch [] = 0 := rfl
      simp only [List.head?_nil, Option.map_none, Option.getD_none, growth_zero hs.1,
        growth_zero hs.2, hlast, lost, Sample.bytes]
      omega
  | cons p samples =>
      have hpair := (List.isChain_cons_cons.1 hfollows).1
      simp only [List.head?_cons, Option.map_some, Option.getD_some, lost, Sample.bytes]
      rcases hpair with ⟨hepoch, hup, hdown⟩ | ⟨hepoch, -⟩
      · -- In one epoch both counters have grown.
        have hlast : Epochs.lastIn Sample.epoch Sample.bytes s.epoch (p :: samples) = p.bytes := by
          rw [hepoch]
          exact Epochs.lastIn_cons_self
        have hloss : loss s p = 0 := if_neg (by omega)
        simp only [growth, ge_iff_le, hup, hdown, if_true, hloss, hlast, Sample.bytes]
        omega
      · -- A new epoch: no earlier sample has it.
        have hlast : Epochs.lastIn Sample.epoch Sample.bytes s.epoch (p :: samples) = 0 :=
          Epochs.lastIn_of_notMem fun x hx => by
            have := epoch_le_of_isChain h.chain x hx
            omega
        simp only [growth, loss, passed, hepoch, if_true, hlast]
        split <;> split <;> omega

theorem Counted.observe (h : Counted w samples) (hs : s.Nonneg)
    (hfollows : (s :: samples).IsChain Follows) : Counted (w.observe s.snapshot) (s :: samples) := by
  have hup := @growth_nonneg w.rawUpBytes _ hs.1
  have hdown := @growth_nonneg w.rawDownBytes _ hs.2
  refine ⟨hfollows, List.forall_mem_cons.2 ⟨hs, h.nonneg⟩, rfl, rfl, ?_, h.baseline.1, ?_⟩
  · have htotal := h.total_cons hs hfollows
    have hcounted := h.counted
    simp only [Watermark.observe]
    omega
  · have hbaseline := h.baseline.2
    simp only [Watermark.observe]
    omega

/-- A reset of the account moves the baseline only. -/
theorem Counted.rebase (h : Counted w samples) :
    Counted { w with baselineBytes := w.observedBytes } samples :=
  ⟨h.chain, h.nonneg, h.rawUp, h.rawDown, h.counted, h.baseline.1.trans h.baseline.2, le_rfl⟩

end Counted

/-! ## All credentials -/

/-- The samples of each credential, the newest first, and what it had used when its entry was last
reset. -/
structure History where
  samples : String → List Sample
  marks : String → Int

def History.start : History := ⟨fun _ => [], fun _ => 0⟩

def History.record (h : History) (s : Sample) : History :=
  { h with samples := Function.update h.samples s.snapshot.credentialID
             (s :: h.samples s.snapshot.credentialID) }

theorem History.samples_record_self (h : History) (s : Sample) :
    (h.record s).samples s.snapshot.credentialID = s :: h.samples s.snapshot.credentialID :=
  Function.update_self ..

theorem History.samples_record_of_ne (h : History) (s : Sample) {c : String}
    (hc : c ≠ s.snapshot.credentialID) : (h.record s).samples c = h.samples c :=
  Function.update_of_ne hc ..

section Tables

variable {β : Type}

/-- What the credentials of an entry have gained since its last reset. -/
def Database.gained (db : Database β) (h : History) (endpointID : String) : Int :=
  ((db.credentials.filter (·.endpointID == endpointID)).map fun c =>
    db.observed c.id - h.marks c.id).sum

/-- The keys of the tables, and the watermark of every credential after its samples. -/
structure Ledger (db : Database β) (h : History) : Prop where
  credentialKeys : (db.credentials.map Credential.id).Nodup
  endpointKeys : (db.endpoints.map Endpoint.id).Nodup
  watermarkKeys : (db.watermarks.map Watermark.credentialID).Nodup
  entries : ∀ c ∈ db.credentials, ∃ e ∈ db.endpoints, e.id = c.endpointID
  counted : ∀ c, Counted (db.row c) (h.samples c)
  marks : ∀ c, h.marks c ≤ db.observed c

/-- The entries have what their credentials have gained, but for what one of them still gets. -/
def Credited (db : Database β) (h : History) (endpointID : String) (delta : Int) : Prop :=
  ∀ e ∈ db.endpoints, e.usedBytes + (if e.id = endpointID then delta else 0) = db.gained h e.id

/-- The samples of one observation of an entry. -/
def LegalBatch (db : Database β) (endpointID : String) : History → List Sample → Prop
  | _, [] => True
  | h, s :: batch =>
      (∃ c ∈ db.credentials, c.id = s.snapshot.credentialID ∧ c.endpointID = endpointID) ∧
        s.Nonneg ∧ (s :: h.samples s.snapshot.credentialID).IsChain Follows ∧
        LegalBatch db endpointID (h.record s) batch

variable {db db' : Database β} {h h' : History} {s : Sample} {endpointID : String} {delta : Int}

/-- Other columns do not matter. -/
theorem Ledger.of_same (hl : Ledger db h) (hcredentials : db'.credentials = db.credentials)
    (hendpoints : db'.endpoints.map Endpoint.id = db.endpoints.map Endpoint.id)
    (hkeys : (db'.watermarks.map Watermark.credentialID).Nodup)
    (hcounted : ∀ c, Counted (db'.row c) (h'.samples c))
    (hmarks : ∀ c, h'.marks c ≤ db'.observed c) : Ledger db' h' := by
  refine ⟨hcredentials ▸ hl.credentialKeys, hendpoints ▸ hl.endpointKeys, hkeys, ?_, hcounted, hmarks⟩
  intro c hc
  rw [hcredentials] at hc
  obtain ⟨e, he, hid⟩ := hl.entries c hc
  have hmem : c.endpointID ∈ db.endpoints.map Endpoint.id := List.mem_map.2 ⟨e, he, hid⟩
  rw [← hendpoints] at hmem
  exact List.mem_map.1 hmem

theorem Ledger.baseline_le (hl : Ledger db h) (c : String) :
    (db.row c).baselineBytes ≤ db.observed c := (hl.counted c).baseline.2

theorem Ledger.gained_nonneg (hl : Ledger db h) (endpointID : String) :
    0 ≤ db.gained h endpointID := by
  refine List.sum_nonneg fun x hx => ?_
  obtain ⟨c, -, rfl⟩ := List.mem_map.1 hx
  have := hl.marks c.id
  omega

theorem Ledger.observes (hl : Ledger db h) (ho : Observes db s.snapshot db') (hs : s.Nonneg)
    (hfollows : (s :: h.samples s.snapshot.credentialID).IsChain Follows) :
    Ledger db' (h.record s) := by
  have hself := (hl.counted s.snapshot.credentialID).observe hs hfollows
  refine hl.of_same ho.credentials (by rw [ho.endpoints]) ho.keys ?_ ?_
  · intro c
    by_cases hc : c = s.snapshot.credentialID
    · subst hc
      rw [ho.row, h.samples_record_self]
      exact hself
    · rw [ho.others c hc, h.samples_record_of_ne s hc]
      exact hl.counted c
  · intro c
    by_cases hc : c = s.snapshot.credentialID
    · subst hc
      have hold := hl.marks s.snapshot.credentialID
      have hup := @growth_nonneg (db.row s.snapshot.credentialID).rawUpBytes _ hs.1
      have hdown := @growth_nonneg (db.row s.snapshot.credentialID).rawDownBytes _ hs.2
      rw [Database.observed] at hold ⊢
      rw [ho.row]
      simp only [History.record, Watermark.observe]
      omega
    · rw [Database.observed, ho.others c hc]
      exact hl.marks c

/-- A credential gains for its own entry and no other. -/
theorem Credited.observes (hc : Credited db h endpointID delta) (hl : Ledger db h)
    (hmem : ∃ c ∈ db.credentials, c.id = s.snapshot.credentialID ∧ c.endpointID = endpointID)
    (ho : Observes db s.snapshot db') :
    Credited db' (h.record s) endpointID
      (delta + (db'.observed s.snapshot.credentialID - db.observed s.snapshot.credentialID)) := by
  obtain ⟨c, hcred, hid, hentry⟩ := hmem
  have hsame : ∀ x ∈ db.credentials, x.id ≠ c.id → db'.observed x.id = db.observed x.id :=
    fun x _ hne => by rw [Database.observed, ho.others x.id (hid ▸ hne), Database.observed]
  intro e he
  rw [ho.endpoints] at he
  have hbefore := hc e he
  have hkeys : ((db.credentials.filter (·.endpointID == e.id)).map Credential.id).Nodup :=
    hl.credentialKeys.sublist (List.filter_sublist.map _)
  rw [Database.gained, ho.credentials]
  change _ = (List.map (fun x : Credential => db'.observed x.id - h.marks x.id) _).sum
  by_cases hown : e.id = endpointID
  · have hin : c ∈ db.credentials.filter (·.endpointID == e.id) :=
      List.mem_filter.2 ⟨hcred, by rw [beq_iff_eq, hown, hentry]⟩
    have hsum := @Table.sum_map_key _ _ _ c Credential.id hkeys
      (fun x => db.observed x.id - h.marks x.id) (fun x => db'.observed x.id - h.marks x.id) hin
      fun x hx hne => by rw [hsame x (List.mem_filter.1 hx).1 hne]
    rw [Database.gained] at hbefore
    rw [if_pos hown] at hbefore ⊢
    rw [hsum, ← hbefore, hid]
    omega
  · rw [if_neg hown] at hbefore ⊢
    rw [hbefore, Database.gained]
    refine congrArg List.sum (List.map_congr_left fun x hx => ?_)
    obtain ⟨hx, hxe⟩ := List.mem_filter.1 hx
    have hne : x.id ≠ c.id := by
      intro heq
      obtain rfl := Table.eq_of_key hl.credentialKeys hx hcred heq
      exact hown (hentry ▸ (beq_iff_eq.1 hxe).symm)
    rw [hsame x hx hne]

/-! ## One observation -/

/-- The entries have what their credentials have gained. -/
def Balanced (db : Database β) (h : History) : Prop :=
  ∀ e ∈ db.endpoints, e.usedBytes = db.gained h e.id

theorem balanced_iff (endpointID : String) : Balanced db h ↔ Credited db h endpointID 0 := by
  simp only [Balanced, Credited, ite_self, add_zero]

/-- A batch of samples is accepted, and the entry gains what its credentials gain. -/
theorem observeSnapshots_ok {batch : List Sample} (hl : Ledger db h)
    (hc : Credited db h endpointID delta) (hdelta : 0 ≤ delta)
    (hbatch : LegalBatch db endpointID h batch) :
    ∃ db' delta', (batch.map Sample.snapshot).foldlM (observeSnapshot (· + ·)) (db, delta) =
        .ok (db', delta') ∧ 0 ≤ delta' ∧ db'.endpoints = db.endpoints ∧
      Ledger db' (batch.foldl History.record h) ∧
      Credited db' (batch.foldl History.record h) endpointID delta' := by
  induction batch generalizing db h delta with
  | nil => exact ⟨db, delta, rfl, hdelta, rfl, hl, hc⟩
  | cons s batch ih =>
      obtain ⟨hmem, hs, hfollows, hrest⟩ := hbatch
      have hknown : db.credentials.any (·.id == s.snapshot.credentialID) := by
        obtain ⟨c, hcred, hid, -⟩ := hmem
        exact List.any_eq_true.2 ⟨c, hcred, by rw [beq_iff_eq, hid]⟩
      obtain ⟨db₁, hstep, ho⟩ := @observeSnapshot_ok β db s.snapshot delta hl.watermarkKeys hknown
        hs.1 hs.2 (hl.baseline_le s.snapshot.credentialID)
      have hl₁ := hl.observes ho hs hfollows
      have hgrow : db.observed s.snapshot.credentialID ≤ db₁.observed s.snapshot.credentialID := by
        have hup := @growth_nonneg (db.row s.snapshot.credentialID).rawUpBytes _ hs.1
        have hdown := @growth_nonneg (db.row s.snapshot.credentialID).rawDownBytes _ hs.2
        rw [Database.observed, Database.observed, ho.row]
        simp only [Watermark.observe]
        omega
      -- Legality looks at the credentials only, and they stay.
      have hrest₁ : LegalBatch db₁ endpointID (h.record s) batch := by
        have hlegal : ∀ (h : History) (batch : List Sample), LegalBatch db endpointID h batch →
            LegalBatch db₁ endpointID h batch := by
          intro h batch hbatch
          induction batch generalizing h with
          | nil => trivial
          | cons s batch ih =>
              obtain ⟨hmem, hs, hfollows, hrest⟩ := hbatch
              exact ⟨ho.credentials ▸ hmem, hs, hfollows, ih _ hrest⟩
        exact hlegal _ _ hrest
      obtain ⟨db', delta', hfold, hpos, hendpoints, hl', hc'⟩ :=
        ih hl₁ (hc.observes hl hmem ho) (by omega) hrest₁
      refine ⟨db', delta', ?_, hpos, hendpoints.trans ho.endpoints, hl', hc'⟩
      rw [List.map_cons, List.foldlM_cons, hstep]
      exact hfold

/-- Crediting an entry changes its used bytes only. -/
theorem creditEndpoint_ok (hl : Ledger db h) (hc : Credited db h endpointID delta)
    (hdelta : 0 ≤ delta) (hused : ∀ e ∈ db.endpoints, 0 ≤ e.usedBytes)
    (hentry : 0 < delta → ∃ e ∈ db.endpoints, e.id = endpointID) :
    ∃ db', creditEndpoint (· + ·) endpointID db delta = .ok db' ∧ Ledger db' h ∧ Balanced db' h := by
  by_cases hpos : 0 < delta
  · obtain ⟨e, he, hid⟩ := hentry hpos
    have hfind : ∃ e', db.endpoints.find? (·.id == endpointID) = some e' := by
      refine Option.isSome_iff_exists.1 (List.find?_isSome.2 ⟨e, he, ?_⟩)
      rw [beq_iff_eq, hid]
    obtain ⟨e', hfind⟩ := hfind
    have he' := List.mem_of_find?_eq_some hfind
    have hid' : e'.id = endpointID := by simpa using List.find?_some hfind
    have hcount : db.endpoints.countP (·.id == endpointID) = 1 :=
      Table.countP_key hl.endpointKeys he' hid'
    let credit (x : Endpoint) : Endpoint := { x with usedBytes := e'.usedBytes + delta }
    let endpoints := Table.update (·.id == endpointID) credit db.endpoints
    have hids : endpoints.map Endpoint.id = db.endpoints.map Endpoint.id :=
      Table.map_key_update fun _ => rfl
    refine ⟨{ db with endpoints }, ?_, ?_, ?_⟩
    · simp only [creditEndpoint, hpos, if_true, hfind, fetch, require, hused e' he', decide_true,
        Table.updateOne, hcount, bind, Except.bind]
      rfl
    · exact hl.of_same rfl hids hl.watermarkKeys hl.counted hl.marks
    · intro x hx
      obtain ⟨y, hy, rfl⟩ := Table.mem_update.1 hx
      have hbefore := hc y hy
      by_cases hown : y.id = endpointID
      · -- The row of the entry is the one that was read.
        obtain rfl := Table.eq_of_key hl.endpointKeys hy he' (hown.trans hid'.symm)
        rw [if_pos hown] at hbefore
        rw [if_pos (beq_iff_eq.2 hown)]
        exact hbefore
      · rw [if_neg hown, add_zero] at hbefore
        rw [if_neg (mt beq_iff_eq.1 hown)]
        exact hbefore
  · have hzero : delta = 0 := by omega
    subst hzero
    exact ⟨db, by simp [creditEndpoint], hl, (balanced_iff endpointID).2 hc⟩

/-- An observation of legal samples is accepted, and the ledger records it. -/
theorem observeUsage_ok {batch : List Sample} (hl : Ledger db h) (hb : Balanced db h)
    (hbatch : LegalBatch db endpointID h batch) :
    ∃ db', observeUsage (· + ·) endpointID (batch.map Sample.snapshot) db = .ok db' ∧
      Ledger db' (batch.foldl History.record h) ∧ Balanced db' (batch.foldl History.record h) := by
  obtain ⟨db₁, delta, hfold, hdelta, hendpoints, hl₁, hc₁⟩ :=
    observeSnapshots_ok hl ((balanced_iff endpointID).1 hb) le_rfl hbatch
  have hused : ∀ e ∈ db₁.endpoints, 0 ≤ e.usedBytes := by
    intro e he
    rw [hendpoints] at he
    rw [hb e he]
    exact hl.gained_nonneg e.id
  have hentry : 0 < delta → ∃ e ∈ db₁.endpoints, e.id = endpointID := by
    intro hpos
    cases batch with
    | nil =>
        obtain ⟨-, rfl⟩ := Prod.mk.inj (Except.ok.inj hfold)
        exact absurd hpos (lt_irrefl _)
    | cons s batch =>
        obtain ⟨⟨c, hcred, -, hc⟩, -⟩ := hbatch
        rw [hendpoints, ← hc]
        exact hl.entries c hcred
  obtain ⟨db', hcredit, hl', hb'⟩ := creditEndpoint_ok hl₁ hc₁ hdelta hused hentry
  refine ⟨db', ?_, hl', hb'⟩
  rw [observeUsage, hfold]
  exact hcredit

/-! ## Resets of accounts -/

/-- Some baselines have moved to what was observed. -/
structure Rebased (db db' : Database β) : Prop where
  credentials : db'.credentials = db.credentials
  traffic : db'.endpoints.map (fun e => (e.id, e.usedBytes)) =
    db.endpoints.map fun e => (e.id, e.usedBytes)
  keys : db'.watermarks.map Watermark.credentialID = db.watermarks.map Watermark.credentialID
  rows : ∀ c, db'.row c = db.row c ∨
    db'.row c = { db.row c with baselineBytes := (db.row c).observedBytes }

theorem Rebased.refl (db : Database β) : Rebased db db := ⟨rfl, rfl, rfl, fun _ => Or.inl rfl⟩

theorem Rebased.trans {db'' : Database β} (h₁ : Rebased db db') (h₂ : Rebased db' db'') :
    Rebased db db'' := by
  refine ⟨h₂.credentials.trans h₁.credentials, h₂.traffic.trans h₁.traffic, h₂.keys.trans h₁.keys, ?_⟩
  intro c
  rcases h₂.rows c with hrow | hrow
  · rw [hrow]
    exact h₁.rows c
  · right
    rcases h₁.rows c with hrow' | hrow' <;> rw [hrow, hrow']

theorem Rebased.observed (hr : Rebased db db') (c : String) : db'.observed c = db.observed c := by
  rw [Database.observed, Database.observed]
  rcases hr.rows c with hrow | hrow <;> rw [hrow]

theorem Rebased.ledger (hr : Rebased db db') (hl : Ledger db h) (hb : Balanced db h) :
    Ledger db' h ∧ Balanced db' h := by
  have hids : db'.endpoints.map Endpoint.id = db.endpoints.map Endpoint.id := by
    have hfst := congrArg (List.map Prod.fst) hr.traffic
    rw [List.map_map, List.map_map] at hfst
    exact hfst
  have hgained : ∀ id, db'.gained h id = db.gained h id := by
    intro id
    simp only [Database.gained, hr.credentials, hr.observed]
  refine ⟨hl.of_same hr.credentials hids (hr.keys ▸ hl.watermarkKeys) ?_ ?_, ?_⟩
  · intro c
    rcases hr.rows c with hrow | hrow
    · rw [hrow]
      exact hl.counted c
    · rw [hrow]
      exact (hl.counted c).rebase
  · intro c
    rw [hr.observed]
    exact hl.marks c
  · intro e he
    have hmem : (e.id, e.usedBytes) ∈ db.endpoints.map fun e => (e.id, e.usedBytes) := by
      rw [← hr.traffic]
      exact List.mem_map.2 ⟨e, he, rfl⟩
    obtain ⟨e', he', heq⟩ := List.mem_map.1 hmem
    obtain ⟨hid, hused⟩ := Prod.mk.inj heq
    rw [hgained, ← hused, ← hid]
    exact hb e' he'

/-- The statements that leave the ledger alone. -/
theorem Rebased.of_traffic (hcredentials : db'.credentials = db.credentials)
    (htraffic : db'.endpoints.map (fun e => (e.id, e.usedBytes)) =
      db.endpoints.map fun e => (e.id, e.usedBytes))
    (hwatermarks : db'.watermarks = db.watermarks) : Rebased db db' := by
  refine ⟨hcredentials, htraffic, by rw [hwatermarks], fun c => Or.inl ?_⟩
  rw [Database.row, Database.watermark, hwatermarks, Database.row, Database.watermark]

theorem rebased_rebuildAccountEndpoints (accountID : String) :
    Rebased db (db.rebuildAccountEndpoints accountID) :=
  .of_traffic rfl (Table.map_key_update fun _ => rfl) rfl

theorem rebased_rebuildAccountGrants (accountID : String) :
    Rebased db (db.rebuildAccountGrants accountID) := .of_traffic rfl rfl rfl

theorem rebased_rebase (accountID : String) : Rebased db (db.rebase accountID) := by
  refine ⟨rfl, rfl, Table.map_key_update fun _ => rfl, fun c => ?_⟩
  have hfind : (db.rebase accountID).watermark c = (db.watermark c).map fun w =>
      if db.credentials.any fun x => x.id == w.credentialID && x.accountID == accountID then
        { w with baselineBytes := w.observedBytes } else w := Table.find?_update fun _ => rfl
  rw [Database.row, hfind, Database.row]
  cases db.watermark c with
  | none => exact Or.inl rfl
  | some w =>
      rw [Option.map_some, Option.getD_some, Option.getD_some]
      split
      · exact Or.inr rfl
      · exact Or.inl rfl

theorem resetAccount_rebased {rest : Rest β} {now : Instant} {account : Account}
    (hok : resetAccount rest now db account = .ok db') : Rebased db db' := by
  simp only [resetAccount, bind_eq_ok_iff, require_eq_ok_iff, exists_const, pure_eq_ok_iff] at hok
  obtain ⟨-, db₁, hensure, rfl⟩ := hok
  obtain ⟨other, rfl⟩ := ensureSnapshotsForEndpoints_ok hensure
  have hother : Rebased db { db with other } := .of_traffic rfl rfl rfl
  have hrebase := hother.trans (rebased_rebase account.id)
  refine (hrebase.trans ?_).trans
    ((rebased_rebuildAccountEndpoints account.id).trans (rebased_rebuildAccountGrants account.id))
  exact .of_traffic rfl rfl rfl

theorem expireAccount_rebased {rest : Rest β} {accountID : String}
    (hok : expireAccount rest db accountID = .ok db') : Rebased db db' := by
  simp only [expireAccount, bind_eq_ok_iff, pure_eq_ok_iff] at hok
  obtain ⟨db₁, hensure, rfl⟩ := hok
  obtain ⟨other, rfl⟩ := ensureSnapshotsForEndpoints_ok hensure
  refine Rebased.trans ?_
    ((rebased_rebuildAccountEndpoints accountID).trans (rebased_rebuildAccountGrants accountID))
  exact .of_traffic rfl rfl rfl

theorem resetDueMeridianAccounts_rebased {rest : Rest β} {now : Instant}
    (hok : resetDueMeridianAccounts rest now db = .ok db') : Rebased db db' := by
  obtain ⟨db₁, hdue, hexpired⟩ := bind_eq_ok_iff.1 hok
  have h₁ : Rebased db db₁ := Table.foldlM_invariant
    (fun _ _ _ _ hs hstep => hs.trans (resetAccount_rebased hstep)) (Rebased.refl db) hdue
  have h₂ : Rebased db₁ db' := Table.foldlM_invariant
    (fun _ _ _ _ hs hstep => hs.trans (expireAccount_rebased hstep)) (Rebased.refl db₁) hexpired
  exact h₁.trans h₂

/-! ## Resets of entries -/

/-- An entry has forgotten its traffic: its credentials count from what they have used. -/
def History.clear (h : History) (db : Database β) (endpointID : String) : History :=
  { h with marks := fun c =>
      if db.credentials.any fun x => x.id == c && x.endpointID == endpointID then db.observed c
      else h.marks c }

/-- Used bytes after a reset of one entry. -/
def clearedTraffic (endpointID : String) (e : Endpoint) : String × Int :=
  (e.id, if e.id = endpointID then 0 else e.usedBytes)

/-- One entry has forgotten its traffic. -/
structure Cleared (db : Database β) (endpointID : String) (db' : Database β) : Prop where
  credentials : db'.credentials = db.credentials
  watermarks : db'.watermarks = db.watermarks
  traffic : db'.endpoints.map (fun e => (e.id, e.usedBytes)) =
    db.endpoints.map (clearedTraffic endpointID)

theorem Cleared.row (hclear : Cleared db endpointID db') (c : String) : db'.row c = db.row c := by
  rw [Database.row, Database.watermark, hclear.watermarks, Database.row, Database.watermark]

theorem Cleared.ledger (hclear : Cleared db endpointID db') (hl : Ledger db h) (hb : Balanced db h) :
    Ledger db' (h.clear db endpointID) ∧ Balanced db' (h.clear db endpointID) := by
  have hids : db'.endpoints.map Endpoint.id = db.endpoints.map Endpoint.id := by
    have hfst := congrArg (List.map Prod.fst) hclear.traffic
    rw [List.map_map, List.map_map] at hfst
    exact hfst
  refine ⟨hl.of_same hclear.credentials hids (hclear.watermarks ▸ hl.watermarkKeys) ?_ ?_, ?_⟩
  · intro c
    rw [hclear.row]
    exact hl.counted c
  · intro c
    rw [Database.observed, hclear.row]
    simp only [History.clear]
    split
    · exact le_rfl
    · exact hl.marks c
  · intro e he
    have hmem : (e.id, e.usedBytes) ∈ db.endpoints.map (clearedTraffic endpointID) := by
      rw [← hclear.traffic]
      exact List.mem_map.2 ⟨e, he, rfl⟩
    obtain ⟨e', he', heq⟩ := List.mem_map.1 hmem
    obtain ⟨hid, hused⟩ := Prod.mk.inj heq
    rw [Database.gained, hclear.credentials, ← hused, ← hid]
    by_cases hown : e'.id = endpointID
    · -- Every credential of the entry counts from now.
      rw [if_pos hown]
      refine (List.sum_eq_zero fun x hx => ?_).symm
      obtain ⟨c, hc, rfl⟩ := List.mem_map.1 hx
      obtain ⟨hc, hce⟩ := List.mem_filter.1 hc
      have hany : db.credentials.any fun x => x.id == c.id && x.endpointID == endpointID :=
        List.any_eq_true.2 ⟨c, hc, by rw [beq_self_eq_true, ← hown]; exact hce⟩
      simp only [History.clear, hany, if_true, Database.observed, hclear.row, sub_self]
    · rw [if_neg hown, hb e' he', Database.gained]
      refine congrArg List.sum (List.map_congr_left fun c hc => ?_)
      obtain ⟨hc, hce⟩ := List.mem_filter.1 hc
      have hnone : ¬ db.credentials.any fun x => x.id == c.id && x.endpointID == endpointID := by
        intro hany
        obtain ⟨x, hx, hxc⟩ := List.any_eq_true.1 hany
        rw [Bool.and_eq_true, beq_iff_eq, beq_iff_eq] at hxc
        obtain rfl := Table.eq_of_key hl.credentialKeys hx hc hxc.1
        exact hown ((beq_iff_eq.1 hce).symm.trans hxc.2)
      simp only [History.clear, hnone, Database.observed, hclear.row]
      rfl

theorem mark_traffic {rest : Rest β}
    (hok : markMeridianEndpointQuotaBoundaryChanged rest db endpointID = .ok db') :
    db'.credentials = db.credentials ∧ db'.watermarks = db.watermarks ∧
      db'.endpoints.map (fun e => (e.id, e.usedBytes)) =
        db.endpoints.map fun e => (e.id, e.usedBytes) := by
  simp only [markMeridianEndpointQuotaBoundaryChanged, bind_eq_ok_iff, fetch_eq_ok_iff,
    pure_eq_ok_iff] at hok
  obtain ⟨db₁, hensure, endpoints, hupdate, rfl⟩ := hok
  obtain ⟨other, rfl⟩ := ensureSnapshotsForEndpoint_ok hensure
  obtain ⟨-, rfl⟩ := Table.updateOne_eq_some_iff.1 hupdate
  exact ⟨rfl, rfl, Table.map_key_update fun _ => rfl⟩

/-- Resetting one row of the entries. -/
theorem map_update_reset {now : Instant} {next : String} (hkeys : (db.endpoints.map Endpoint.id).Nodup)
    (hcount : db.endpoints.countP (fun e => e.id == endpointID && e.status != .retired) = 1) :
    (Table.update (fun e => e.id == endpointID && e.status != .retired) (·.reset now next)
      db.endpoints).map (fun e => (e.id, e.usedBytes)) =
      db.endpoints.map (clearedTraffic endpointID) := by
  have hpos : 0 < db.endpoints.countP (fun e => e.id == endpointID && e.status != .retired) := by
    omega
  obtain ⟨e₀, he₀, hguard⟩ := List.countP_pos_iff.1 hpos
  rw [Bool.and_eq_true, beq_iff_eq] at hguard
  rw [Table.update, List.map_map]
  refine List.map_congr_left fun e he => ?_
  by_cases hid : e.id = endpointID
  · obtain rfl := Table.eq_of_key hkeys he he₀ (hid.trans hguard.1.symm)
    rw [Function.comp_apply, if_pos (by rw [Bool.and_eq_true, beq_iff_eq]; exact hguard)]
    simp [clearedTraffic, Endpoint.reset, hid]
  · simp [clearedTraffic, hid]

theorem resetEndpoint_cleared {rest : Rest β} {now : Instant} {due : Endpoint × String}
    (hkeys : (db.endpoints.map Endpoint.id).Nodup)
    (hok : resetEndpoint rest now db due = .ok db') : Cleared db due.1.id db' := by
  simp only [resetEndpoint, bind_eq_ok_iff, require_eq_ok_iff, exists_const, fetch_eq_ok_iff] at hok
  obtain ⟨-, next, -, wasEnabled, -, db₁, hensure, endpoints, hupdate, hrest⟩ := hok
  have hother : ∃ other, db₁ = { db with other } := by
    cases wasEnabled with
    | true => exact ⟨db.other, (Except.ok.inj hensure).symm⟩
    | false => exact ensureSnapshotsForEndpoint_ok hensure
  obtain ⟨other, rfl⟩ := hother
  obtain ⟨hcount, rfl⟩ := Table.updateOne_eq_some_iff.1 hupdate
  have htraffic := @map_update_reset β db due.1.id now next hkeys hcount
  cases wasEnabled with
  | true =>
      obtain rfl := pure_eq_ok_iff.1 hrest
      exact ⟨rfl, rfl, htraffic⟩
  | false =>
      obtain ⟨hcredentials, hwatermarks, hmark⟩ := mark_traffic hrest
      exact ⟨hcredentials, hwatermarks, hmark.trans htraffic⟩

/-- Clearing looks at the credentials and their watermarks only. -/
theorem History.clear_congr (hcredentials : db'.credentials = db.credentials)
    (hwatermarks : db'.watermarks = db.watermarks) (h : History) (endpointID : String) :
    h.clear db' endpointID = h.clear db endpointID := by
  simp only [History.clear, hcredentials, Database.observed, Database.row, Database.watermark,
    hwatermarks]

theorem resetEndpoints_ledger {rest : Rest β} {now : Instant} {dues : List (Endpoint × String)}
    {db₀ : Database β} (hl : Ledger db h) (hb : Balanced db h)
    (hcredentials : db.credentials = db₀.credentials) (hwatermarks : db.watermarks = db₀.watermarks)
    (hok : dues.foldlM (resetEndpoint rest now) db = .ok db') :
    Ledger db' (dues.foldl (fun h due => h.clear db₀ due.1.id) h) ∧
      Balanced db' (dues.foldl (fun h due => h.clear db₀ due.1.id) h) := by
  induction dues generalizing db h with
  | nil =>
      obtain rfl := Except.ok.inj hok
      exact ⟨hl, hb⟩
  | cons due dues ih =>
      rw [List.foldlM_cons] at hok
      obtain ⟨db₁, hstep, hrest⟩ := bind_eq_ok_iff.1 hok
      have hclear := resetEndpoint_cleared hl.endpointKeys hstep
      obtain ⟨hl₁, hb₁⟩ := hclear.ledger hl hb
      rw [History.clear_congr hcredentials hwatermarks] at hl₁ hb₁
      exact ih hl₁ hb₁ (hclear.credentials.trans hcredentials) (hclear.watermarks.trans hwatermarks)
        hrest

end Tables

/-! ## Runs -/

section Runs

variable {β : Type}

/-- The tables before anything is observed. -/
structure Unobserved (db : Database β) : Prop where
  credentialKeys : (db.credentials.map Credential.id).Nodup
  endpointKeys : (db.endpoints.map Endpoint.id).Nodup
  entries : ∀ c ∈ db.credentials, ∃ e ∈ db.endpoints, e.id = c.endpointID
  watermarks : db.watermarks = []
  used : ∀ e ∈ db.endpoints, e.usedBytes = 0

/-- Observations of legal samples in which no addition saturates, and resets of accounts and entries,
in any order. -/
inductive UsageRun (rest : Rest β) (db₀ : Database β) : Database β → History → Prop where
  | start : UsageRun rest db₀ db₀ .start
  | observe {db db' : Database β} {h : History} {endpointID : String} {batch : List Sample}
      (hrun : UsageRun rest db₀ db h) (hlegal : LegalBatch db endpointID h batch)
      (hexact : observeMeridianUsageInTx endpointID (batch.map Sample.snapshot) db =
        observeUsage (· + ·) endpointID (batch.map Sample.snapshot) db)
      (hok : observeMeridianUsageInTx endpointID (batch.map Sample.snapshot) db = .ok db') :
      UsageRun rest db₀ db' (batch.foldl History.record h)
  | resetAccounts {db db' : Database β} {h : History} {now : Instant}
      (hrun : UsageRun rest db₀ db h) (hok : resetDueMeridianAccounts rest now db = .ok db') :
      UsageRun rest db₀ db' h
  | resetEndpoints {db db' : Database β} {h : History} {now : Instant}
      (hrun : UsageRun rest db₀ db h) (hok : resetDueMeridianEndpoints rest now db = .ok db') :
      UsageRun rest db₀ db' ((dueEndpoints rest now db).foldl (fun h due => h.clear db due.1.id) h)

variable {rest : Rest β} {db₀ db : Database β} {h : History}

theorem Unobserved.ledger (h₀ : Unobserved db₀) : Ledger db₀ .start ∧ Balanced db₀ .start := by
  have hrow : ∀ c, db₀.row c = ⟨c, 0, 0, 0, 0⟩ := fun c => by
    rw [Database.row, Database.watermark, h₀.watermarks]
    rfl
  refine ⟨⟨h₀.credentialKeys, h₀.endpointKeys, by simp [h₀.watermarks], h₀.entries, ?_, ?_⟩, ?_⟩
  · intro c
    rw [hrow]
    exact counted_nil c
  · intro c
    rw [Database.observed, hrow]
    exact le_rfl
  · intro e he
    have hzero : ∀ x ∈ (db₀.credentials.filter (·.endpointID == e.id)).map
        (fun c => db₀.observed c.id - History.start.marks c.id), x = 0 := by
      intro x hx
      obtain ⟨c, -, rfl⟩ := List.mem_map.1 hx
      rw [Database.observed, hrow]
      rfl
    rw [h₀.used e he, Database.gained, List.sum_eq_zero hzero]

theorem UsageRun.ledger (h₀ : Unobserved db₀) (hrun : UsageRun rest db₀ db h) :
    Ledger db h ∧ Balanced db h := by
  induction hrun with
  | start => exact h₀.ledger
  | observe _ hlegal hexact hok ih =>
      obtain ⟨db', hdb', hl, hb⟩ := observeUsage_ok ih.1 ih.2 hlegal
      obtain rfl := Except.ok.inj (hok.symm.trans (hexact.trans hdb'))
      exact ⟨hl, hb⟩
  | resetAccounts _ hok ih => exact (resetDueMeridianAccounts_rebased hok).ledger ih.1 ih.2
  | resetEndpoints _ hok ih => exact resetEndpoints_ledger ih.1 ih.2 rfl rfl hok

/-- In every run the baselines stay between zero and what was observed, the entries have what their
credentials have gained since the last reset, legal samples are accepted as long as nothing saturates,
and what was observed of a credential is the sum over all epochs of its process exactly when none of
its restarts is masked. -/
theorem usage_ledger_counts_epochs (h₀ : Unobserved db₀) (hrun : UsageRun rest db₀ db h) :
    (∀ w ∈ db.watermarks, 0 ≤ w.baselineBytes ∧ w.baselineBytes ≤ w.observedBytes) ∧
    (∀ e ∈ db.endpoints, e.usedBytes =
      ((db.credentials.filter (·.endpointID == e.id)).map fun c =>
        db.observed c.id - h.marks c.id).sum) ∧
    (∀ endpointID batch, LegalBatch db endpointID h batch →
      observeMeridianUsageInTx endpointID (batch.map Sample.snapshot) db =
        observeUsage (· + ·) endpointID (batch.map Sample.snapshot) db →
      ∃ db', observeMeridianUsageInTx endpointID (batch.map Sample.snapshot) db = .ok db') ∧
    ∀ c, db.observed c = Epochs.total Sample.epoch Sample.bytes (h.samples c) ↔
      (h.samples c).IsChain fun s p => ¬ Masked s p := by
  obtain ⟨hl, hb⟩ := hrun.ledger h₀
  refine ⟨?_, hb, ?_, ?_⟩
  · intro w hw
    -- The row of a credential is the one with its key.
    have hfind : ∃ w', db.watermark w.credentialID = some w' :=
      Option.isSome_iff_exists.1 (List.find?_isSome.2 ⟨w, hw, beq_self_eq_true _⟩)
    obtain ⟨w', hfind⟩ := hfind
    have hkey : w'.credentialID = w.credentialID := by simpa using List.find?_some hfind
    obtain rfl := Table.eq_of_key hl.watermarkKeys (List.mem_of_find?_eq_some hfind) hw hkey
    have hrow : db.row w'.credentialID = w' := by rw [Database.row, hfind, Option.getD_some]
    have hbaseline := (hl.counted w'.credentialID).baseline
    rwa [hrow] at hbaseline
  · intro endpointID batch hlegal hexact
    obtain ⟨db', hdb', -⟩ := observeUsage_ok hl hb hlegal
    exact ⟨db', hexact.trans hdb'⟩
  · intro c
    have hc := hl.counted c
    rw [← lost_eq_zero_iff hc.nonneg, ← hc.counted, Database.observed]
    omega

end Runs

namespace Trial

def rest : Rest Unit where
  ensureSnapshots _ _ := .ok ()
  timezone _ _ := some "UTC"
  resetBoundary _ _ _ := some "2026-02-01T00:00:00Z"
  julianday _ := some 0
  pilotOwns _ _ := false
  maxResetDays := 3650

/-- One credential on one entry. -/
def tables (watermarks : List Watermark) (lineUsage : List LineUsage) (usedBytes : Int) :
    Database Unit where
  credentials := [⟨"c", "a", "e", true⟩]
  endpoints := [⟨"e", "app", "service", 0, usedBytes, true, 1, "2026-01-01T00:00:00Z", "", 1, 1, true,
    false, .ready⟩]
  accounts := [⟨"a", 0, 0, 30, "2026-01-01T00:00:00Z", "", true, 1, 1, .active⟩]
  grants := []
  watermarks := watermarks
  lineUsage := lineUsage
  other := ()

theorem unobserved : Unobserved (tables [] [] 0) where
  credentialKeys := List.nodup_singleton _
  endpointKeys := List.nodup_singleton _
  entries := by simp [tables]
  watermarks := rfl
  used := by simp [tables]

def sample (epoch : Nat) (up down : Int) : Sample := ⟨epoch, "c", up, down⟩

/-- A first sample, and one after it. -/
theorem two_samples {s : Sample} {observed upload download : Int}
    (hs : s.snapshot.credentialID = "c") (hnonneg : s.Nonneg) (hfollows : Follows s (sample 0 10 100))
    (hok : ∀ add, add = saturatingAdd ∨ add = (· + ·) →
      observeUsage add "e" [s.snapshot] (tables [⟨"c", 0, 110, 10, 100⟩] [⟨"c", 0, 0⟩] 110) =
        .ok (tables [⟨"c", 0, observed, s.snapshot.upBytes, s.snapshot.downBytes⟩]
          [⟨"c", upload, download⟩] observed)) :
    UsageRun rest (tables [] [] 0)
      (tables [⟨"c", 0, observed, s.snapshot.upBytes, s.snapshot.downBytes⟩]
        [⟨"c", upload, download⟩] observed)
      ((History.start.record (sample 0 10 100)).record s) := by
  have hfirst : UsageRun rest (tables [] [] 0)
      (tables [⟨"c", 0, 110, 10, 100⟩] [⟨"c", 0, 0⟩] 110) (History.start.record (sample 0 10 100)) :=
    @UsageRun.observe Unit rest _ _ _ _ "e" [sample 0 10 100] .start
      ⟨⟨_, List.mem_singleton.2 rfl, rfl, rfl⟩, ⟨by decide, by decide⟩, List.isChain_singleton _,
        trivial⟩ rfl rfl
  refine @UsageRun.observe Unit rest _ _ _ _ "e" [s] hfirst ⟨⟨_, List.mem_singleton.2 rfl, hs.symm, rfl⟩,
    hnonneg, ?_, trivial⟩ ?_ (hok saturatingAdd (Or.inl rfl))
  · rw [hs, show (History.start.record (sample 0 10 100)).samples "c" = [sample 0 10 100] from rfl]
    exact List.isChain_cons_cons.2 ⟨hfollows, List.isChain_singleton _⟩
  · exact (hok saturatingAdd (Or.inl rfl)).trans (hok (· + ·) (Or.inr rfl)).symm

end Trial

/-- Both counters have fallen after a restart: every byte is counted. -/
theorem usage_ledger_counts_epochs_restart :
    ∃ db h, UsageRun Trial.rest (Trial.tables [] [] 0) db h ∧ h.samples "c" =
        [Trial.sample 1 4 5, Trial.sample 0 10 100] ∧
      db.observed "c" = Epochs.total Sample.epoch Sample.bytes (h.samples "c") := by
  have hrun := @Trial.two_samples (Trial.sample 1 4 5) 119 4 5 rfl ⟨by decide, by decide⟩
    (Or.inr ⟨by decide, Or.inr (by decide)⟩) (by rintro add (rfl | rfl) <;> rfl)
  refine ⟨_, _, hrun, rfl, ((usage_ledger_counts_epochs Trial.unobserved hrun).2.2.2 "c").2 ?_⟩
  have hunmasked : ¬ Masked (Trial.sample 1 4 5) (Trial.sample 0 10 100) := by
    simp [Masked, Trial.sample]
  exact List.isChain_cons_cons.2 ⟨hunmasked, List.isChain_singleton _⟩

/-- The process has sent 10 and received 100 bytes, restarts, and has sent 20 and received 5 when it is
sampled again: the first 10 bytes are lost. -/
theorem masked_restart_loses_bytes :
    ∃ db h, UsageRun Trial.rest (Trial.tables [] [] 0) db h ∧ h.samples "c" =
        [Trial.sample 1 20 5, Trial.sample 0 10 100] ∧
      db.observed "c" = 125 ∧ Epochs.total Sample.epoch Sample.bytes (h.samples "c") = 135 := by
  have hrun := @Trial.two_samples (Trial.sample 1 20 5) 125 10 5 rfl ⟨by decide, by decide⟩
    (Or.inr ⟨by decide, Or.inr (by decide)⟩) (by rintro add (rfl | rfl) <;> rfl)
  exact ⟨_, _, hrun, rfl, rfl, by decide⟩

end Meridian
end Center
end Vastora
