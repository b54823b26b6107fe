import Vastora.Center.Meridian.Reset

/-!
# Usage — observed counters become used bytes

`observeMeridianUsageInTx` reads a batch of counters, adds what each direction has grown by to the
watermark of the credential, and the sum of it to the entry.  A counter that has fallen has started
again, so that all of it is new.  The additions are a parameter: Center adds with saturation, and
computing with exact additions instead says what happens as long as nothing saturates.
-/

namespace Vastora
namespace Center
namespace Meridian

open Library Library.Guard

/-- `math.MaxInt64`. -/
def maxInt64 : Int := 9223372036854775807

def saturatingAdd (left right : Int) : Int :=
  if left < 0 ∨ right < 0 ∨ left > maxInt64 - right then maxInt64 else left + right

/-- `glivela.CounterSnapshot`. -/
structure CounterSnapshot where
  credentialID : String
  upBytes : Int
  downBytes : Int

/-- What a counter has grown by since it was last seen. -/
def growth (seen now : Int) : Int := if now ≥ seen then now - seen else now

section Observe

variable {β : Type} (add : Int → Int → Int)

def foreignKey : String := "FOREIGN KEY constraint failed"

/-- A row that refers to a credential is refused without the credential. -/
def Database.requireCredential (db : Database β) (credentialID : String) : Except String Unit :=
  require (db.credentials.any (·.id == credentialID)) foreignKey

def observeMeridianLineUsage (db : Database β) (credentialID : String) (up down : Int) :
    Except String (Database β) :=
  match db.lineUsage.find? (·.credentialID == credentialID) with
  | none => do
      db.requireCredential credentialID
      return { db with lineUsage := db.lineUsage ++ [⟨credentialID, 0, 0⟩] }
  | some previous => do
      require (0 ≤ up && 0 ≤ down) "center: invalid directional usage delta"
      let grow (l : LineUsage) : LineUsage :=
        { l with uploadBytes := add previous.uploadBytes up
                 downloadBytes := add previous.downloadBytes down }
      return { db with lineUsage := Table.update (·.credentialID == credentialID) grow db.lineUsage }

/-- One round of the loop: the tables and what the entry has gained so far. -/
def observeSnapshot (st : Database β × Int) (snapshot : CounterSnapshot) :
    Except String (Database β × Int) := do
  let (db, endpointDelta) := st
  require (0 ≤ snapshot.upBytes && 0 ≤ snapshot.downBytes) "center: Glivela usage counter is negative"
  match db.watermarks.find? (·.credentialID == snapshot.credentialID) with
  | none =>
      let observed := add snapshot.upBytes snapshot.downBytes
      db.requireCredential snapshot.credentialID
      let row : Watermark :=
        ⟨snapshot.credentialID, 0, observed, snapshot.upBytes, snapshot.downBytes⟩
      let db := { db with watermarks := db.watermarks ++ [row] }
      let db ← observeMeridianLineUsage add db snapshot.credentialID 0 0
      return (db, add endpointDelta observed)
  | some row =>
      let upDelta := growth row.rawUpBytes snapshot.upBytes
      let downDelta := growth row.rawDownBytes snapshot.downBytes
      let db ← observeMeridianLineUsage add db snapshot.credentialID upDelta downDelta
      let nextObserved := add row.observedBytes (add upDelta downDelta)
      require (row.baselineBytes ≤ nextObserved)
        "center: Glivela usage watermark overflowed its baseline"
      let next (w : Watermark) : Watermark :=
        { w with observedBytes := nextObserved
                 rawUpBytes := snapshot.upBytes
                 rawDownBytes := snapshot.downBytes }
      let watermarks ← fetch (Table.updateOne (·.credentialID == snapshot.credentialID) next
        db.watermarks) "center: Glivela usage watermark changed during observation"
      return ({ db with watermarks }, add endpointDelta (nextObserved - row.observedBytes))

/-- The entry gains what its credentials have gained. -/
def creditEndpoint (endpointID : String) (db : Database β) (endpointDelta : Int) :
    Except String (Database β) :=
  if 0 < endpointDelta then do
    let e ← fetch (db.endpoints.find? (·.id == endpointID)) noRows
    require (0 ≤ e.usedBytes) invalidEntryTraffic
    let endpoints ← fetch (Table.updateOne (·.id == endpointID)
      (fun e' => { e' with usedBytes := add e.usedBytes endpointDelta }) db.endpoints)
      "center: Glivela entry changed during usage observation"
    return { db with endpoints }
  else .ok db

def observeUsage (endpointID : String) (snapshots : List CounterSnapshot) (db : Database β) :
    Except String (Database β) := do
  let (db, endpointDelta) ← snapshots.foldlM (observeSnapshot add) (db, 0)
  creditEndpoint add endpointID db endpointDelta

end Observe

def observeMeridianUsageInTx {β : Type} (endpointID : String) (snapshots : List CounterSnapshot)
    (db : Database β) : Except String (Database β) :=
  observeUsage saturatingAdd endpointID snapshots db

/-! ## What one snapshot does -/

section Snapshot

variable {β : Type} {db db' : Database β} {s : CounterSnapshot} {c : String} {delta delta' : Int}

def Database.watermark (db : Database β) (credentialID : String) : Option Watermark :=
  db.watermarks.find? (·.credentialID == credentialID)

/-- The watermark of a credential; one that was never observed has used nothing. -/
def Database.row (db : Database β) (credentialID : String) : Watermark :=
  (db.watermark credentialID).getD ⟨credentialID, 0, 0, 0, 0⟩

/-- `observed_bytes`. -/
def Database.observed (db : Database β) (credentialID : String) : Int :=
  (db.row credentialID).observedBytes

def Watermark.observe (w : Watermark) (s : CounterSnapshot) : Watermark :=
  { w with observedBytes := w.observedBytes +
             (growth w.rawUpBytes s.upBytes + growth w.rawDownBytes s.downBytes)
           rawUpBytes := s.upBytes
           rawDownBytes := s.downBytes }

theorem growth_zero {now : Int} (h : 0 ≤ now) : growth 0 now = now := by
  simp [growth, h]

theorem growth_nonneg {seen now : Int} (h : 0 ≤ now) : 0 ≤ growth seen now := by
  unfold growth
  split <;> omega

/-- Tables that differ in the line usage only. -/
def SameButLines (db db' : Database β) : Prop := ∃ lines, db' = { db with lineUsage := lines }

theorem observeMeridianLineUsage_ok {add : Int → Int → Int} {up down : Int} (hup : 0 ≤ up)
    (hdown : 0 ≤ down) (hknown : db.credentials.any (·.id == c)) :
    ∃ db', observeMeridianLineUsage add db c up down = .ok db' ∧ SameButLines db db' := by
  unfold observeMeridianLineUsage
  cases db.lineUsage.find? (·.credentialID == c) with
  | none => exact ⟨_, by rw [Database.requireCredential, hknown]; rfl, _, rfl⟩
  | some previous => exact ⟨_, by simp only [hup, hdown, decide_true, Bool.and_self]; rfl, _, rfl⟩

/-- A watermark is added or replaced; the other watermarks stay. -/
structure Observes (db : Database β) (s : CounterSnapshot) (db' : Database β) : Prop where
  credentials : db'.credentials = db.credentials
  endpoints : db'.endpoints = db.endpoints
  keys : (db'.watermarks.map Watermark.credentialID).Nodup
  row : db'.row s.credentialID = (db.row s.credentialID).observe s
  others : ∀ c, c ≠ s.credentialID → db'.row c = db.row c

/-- The first snapshot of a credential adds its watermark. -/
theorem observeSnapshot_new (hnew : db.watermark s.credentialID = none)
    (hkeys : (db.watermarks.map Watermark.credentialID).Nodup)
    (hknown : db.credentials.any (·.id == s.credentialID)) (hup : 0 ≤ s.upBytes)
    (hdown : 0 ≤ s.downBytes) :
    ∃ db', observeSnapshot (· + ·) (db, delta) s =
        .ok (db', delta + (db'.observed s.credentialID - db.observed s.credentialID)) ∧
      Observes db s db' := by
  let row : Watermark :=
    ⟨s.credentialID, 0, s.upBytes + s.downBytes, s.upBytes, s.downBytes⟩
  let added : Database β := { db with watermarks := db.watermarks ++ [row] }
  obtain ⟨_, hline, lines, rfl⟩ := @observeMeridianLineUsage_ok β added s.credentialID
    (· + ·) 0 0 le_rfl le_rfl hknown
  have hold : db.row s.credentialID = ⟨s.credentialID, 0, 0, 0, 0⟩ := by rw [Database.row, hnew]; rfl
  have hfind : ∀ c, ({ added with lineUsage := lines } : Database β).watermark c =
      (db.watermark c).or (if s.credentialID = c then some row else none) := by
    intro c
    change (db.watermarks ++ [row]).find? (·.credentialID == c) = _
    rw [List.find?_append]
    by_cases hc : s.credentialID = c <;> simp [Database.watermark, row, hc]
  have hrow : ({ added with lineUsage := lines } : Database β).row s.credentialID = row := by
    rw [Database.row, hfind, hnew, Option.none_or, if_pos rfl, Option.getD_some]
  refine ⟨{ added with lineUsage := lines }, ?_, rfl, rfl, ?_, ?_, ?_⟩
  · have hobserved : ({ added with lineUsage := lines } : Database β).observed s.credentialID -
        db.observed s.credentialID = s.upBytes + s.downBytes := by
      rw [Database.observed, Database.observed, hrow, hold]
      exact sub_zero _
    rw [hobserved]
    have hnone : db.watermarks.find? (·.credentialID == s.credentialID) = none := hnew
    simp only [observeSnapshot, hnone, hup, hdown, decide_true, Bool.and_self, require, if_true,
      Database.requireCredential, hknown, bind, Except.bind]
    rw [hline]
    rfl
  · have hfresh : ∀ w ∈ db.watermarks, w.credentialID ≠ s.credentialID := fun w hw => by
      simpa using List.find?_eq_none.1 hnew w hw
    change ((db.watermarks ++ [row]).map Watermark.credentialID).Nodup
    rw [List.map_append, List.map_singleton]
    refine List.nodup_append.2 ⟨hkeys, List.nodup_singleton _, fun k hk k' hk' => ?_⟩
    obtain ⟨w, hw, rfl⟩ := List.mem_map.1 hk
    rw [List.mem_singleton.1 hk']
    exact hfresh w hw
  · rw [hrow, hold]
    simp [Watermark.observe, row, growth_zero hup, growth_zero hdown]
  · intro c hc
    rw [Database.row, hfind, if_neg (Ne.symm hc), Option.or_none, Database.row]

/-- A later snapshot replaces the watermark. -/
theorem observeSnapshot_known {w : Watermark} (hold : db.watermark s.credentialID = some w)
    (hkeys : (db.watermarks.map Watermark.credentialID).Nodup)
    (hknown : db.credentials.any (·.id == s.credentialID)) (hup : 0 ≤ s.upBytes)
    (hdown : 0 ≤ s.downBytes) (hbaseline : w.baselineBytes ≤ w.observedBytes) :
    ∃ db', observeSnapshot (· + ·) (db, delta) s =
        .ok (db', delta + (db'.observed s.credentialID - db.observed s.credentialID)) ∧
      Observes db s db' := by
  have hupDelta := @growth_nonneg w.rawUpBytes _ hup
  have hdownDelta := @growth_nonneg w.rawDownBytes _ hdown
  obtain ⟨_, hline, lines, rfl⟩ := @observeMeridianLineUsage_ok β db s.credentialID (· + ·)
    (growth w.rawUpBytes s.upBytes) (growth w.rawDownBytes s.downBytes) hupDelta hdownDelta hknown
  let next (w' : Watermark) : Watermark :=
    { w' with observedBytes := (w.observe s).observedBytes
              rawUpBytes := s.upBytes
              rawDownBytes := s.downBytes }
  let db' : Database β :=
    { db with lineUsage := lines
              watermarks := Table.update (·.credentialID == s.credentialID) next db.watermarks }
  have hmem := List.mem_of_find?_eq_some hold
  have hkey : w.credentialID = s.credentialID := by simpa using List.find?_some hold
  have hfind : ∀ c, db'.watermark c =
      (db.watermark c).map fun x => if x.credentialID == s.credentialID then next x else x :=
    fun c => Table.find?_update fun _ => rfl
  have hrow : db.row s.credentialID = w := by rw [Database.row, hold, Option.getD_some]
  have hrow' : db'.row s.credentialID = w.observe s := by
    rw [Database.row, hfind, hold, Option.map_some, if_pos (beq_iff_eq.2 hkey), Option.getD_some]
    rfl
  refine ⟨db', ?_, rfl, rfl, ?_, ?_, ?_⟩
  · have hcount : db.watermarks.countP (·.credentialID == s.credentialID) = 1 :=
      Table.countP_key hkeys hmem hkey
    have hsome : db.watermarks.find? (·.credentialID == s.credentialID) = some w := hold
    have hnext : w.baselineBytes ≤ w.observedBytes +
        (growth w.rawUpBytes s.upBytes + growth w.rawDownBytes s.downBytes) := by omega
    rw [Database.observed, Database.observed, hrow, hrow']
    simp only [observeSnapshot, hsome, hup, hdown, decide_true, Bool.and_self, require, if_true, bind,
      Except.bind]
    rw [hline]
    simp only [hnext, decide_true, if_true, Table.updateOne, hcount, fetch]
    rfl
  · rw [show db'.watermarks.map Watermark.credentialID = db.watermarks.map Watermark.credentialID from
      Table.map_key_update fun _ => rfl]
    exact hkeys
  · rw [hrow', hrow]
  · intro c hc
    rw [Database.row, hfind, Database.row]
    cases hw : db.watermark c with
    | none => rfl
    | some x =>
        have hx : x.credentialID = c := by simpa using List.find?_some hw
        rw [Option.map_some, if_neg (by rw [beq_iff_eq, hx]; exact hc)]

/-- A snapshot is accepted, and its credential and the entry gain what its counters have grown by. -/
theorem observeSnapshot_ok (hkeys : (db.watermarks.map Watermark.credentialID).Nodup)
    (hknown : db.credentials.any (·.id == s.credentialID)) (hup : 0 ≤ s.upBytes)
    (hdown : 0 ≤ s.downBytes)
    (hbaseline : (db.row s.credentialID).baselineBytes ≤ db.observed s.credentialID) :
    ∃ db', observeSnapshot (· + ·) (db, delta) s =
        .ok (db', delta + (db'.observed s.credentialID - db.observed s.credentialID)) ∧
      Observes db s db' := by
  cases hw : db.watermark s.credentialID with
  | none => exact observeSnapshot_new hw hkeys hknown hup hdown
  | some w =>
      rw [Database.observed, Database.row, hw, Option.getD_some] at hbaseline
      exact observeSnapshot_known hw hkeys hknown hup hdown hbaseline

end Snapshot

end Meridian
end Center
end Vastora
