import Vastora.Center.LoginThrottle
import Vastora.Library.FailureWindow

/-!
# LoginGuessing — how often a password can be guessed

What a login can do to the count of an account is said once (`RowStep`): leave it, drop it after a day, add a
failure to it, or clear it with a success.  A login that is verified has passed the throttle, so it is not
earlier than the block of any failure before it, and a quarter of an hour without a success has place for eight
failures: the end of one window and the start of the next.
-/

namespace Vastora
namespace Center

open Library Library.Pattern

/-! ## Keys of an account -/

section Keys

variable (env : LoginEnv)

theorem toLower_eq_of_nocase {c d : Char} (h : c.toLower = d.toLower) : env.toLower c = env.toLower d := by
  have hascii : ∀ c : Char, ¬ c.toNat < 128 → c.toLower = c := by
    intro c hc
    unfold Char.toLower
    refine dif_neg fun hrange => hc ?_
    exact lt_of_le_of_lt (UInt32.le_iff_toNat_le.1 hrange.2) (by decide)
  have hlower : ∀ c : Char, c.toNat < 128 → c.toLower.toNat < 128 := by
    intro c hc
    have hall : ∀ n : Fin 128, (Char.ofNat n).toLower.toNat < 128 := by decide
    have hchar := hall ⟨c.toNat, hc⟩
    rwa [Char.ofNat_toNat] at hchar
  by_cases hc : c.toNat < 128
  · have hd : d.toNat < 128 := by
      by_contra hd
      exact hd (hascii d hd ▸ h ▸ hlower c hc)
    rw [env.toLower_ascii c hc, env.toLower_ascii d hd, h]
  · have hd : ¬ d.toNat < 128 := by
      intro hd
      exact hc (hascii c hc ▸ h ▸ hlower d hd)
    rw [hascii c hc, hascii d hd] at h
    rw [h]

/-- The key under which the failures of an account are counted. -/
def accountKey (account : Admin) : String := loginFailureKey env .account (account.username.map env.toLower)

/-- Logins for one account have one key. -/
theorem loginFailureKeys_account {account : Admin} {username : String}
    (h : nocaseEq account.username (trimSpace username) = true) (clientAddress : String) :
    loginFailureKeys env username clientAddress .account = accountKey env account := by
  have hchars : ∀ l l' : List Char, l.map Char.toLower = l'.map Char.toLower →
      l.map env.toLower = l'.map env.toLower := by
    intro l
    induction l with
    | nil =>
        intro l' hl
        rw [List.map_nil, eq_comm, List.map_eq_nil_iff] at hl
        rw [hl]
    | cons c l ih =>
        intro l' hl
        cases l' with
        | nil => cases hl
        | cons d l' =>
            obtain ⟨hhead, htail⟩ := List.cons.inj hl
            rw [List.map_cons, List.map_cons, toLower_eq_of_nocase env hhead, ih l' htail]
  have hfold : account.username.toList.map Char.toLower = (trimSpace username).toList.map Char.toLower := by
    rw [← String.toList_map, ← String.toList_map]
    exact congrArg String.toList (beq_iff_eq.1 h)
  have hname : (trimSpace username).map env.toLower = account.username.map env.toLower := by
    rw [← String.toList_inj, String.toList_map, String.toList_map]
    exact (hchars _ _ hfold).symm
  rw [loginFailureKeys, accountKey, hname]

end Keys

/-! ## Rows -/

section Rows

theorem Instant.inRange_sub {t : Instant} (h : t.InRange) (seconds : Nat) : (t.sub seconds).InRange := by
  have hyear : Calendar.year ((t.sub seconds).sec / 86400) ≤ Calendar.year (t.sec / 86400) := by
    have hdays : (t.sub seconds).sec / 86400 ≤ t.sec / 86400 := Nat.div_le_div_right (Nat.sub_le _ _)
    rcases hdays.lt_or_eq with hlt | heq
    · rcases Calendar.findGreatest_split_lt Calendar.daysBeforeYear (· / 365) rfl
        (fun _ _ hab => Nat.div_le_div_right hab) hlt with hyear | ⟨hyear, -⟩
      · exact hyear.le
      · exact hyear.le
    · rw [heq]
  exact lt_of_le_of_lt hyear h

/-- A row that is dropped is almost a day old: the texts are compared right up to their seconds. -/
theorem nanos_le_of_expired {row : LoginFailure} {now : Reading}
    (h : row.updatedAt.instant.format < (now.instant.sub loginFailureRetention).format) :
    row.updatedAt.nanos + 86399 * 10 ^ 9 ≤ now.nanos := by
  have hsec : row.updatedAt.instant.sec ≤ now.instant.sec - 86400 := by
    rcases (Instant.format_lt_format_iff row.updatedAt.inRange (Instant.inRange_sub now.inRange _)).1 h with hlt | heq
    · exact hlt.le
    · exact heq.1.le
  have hday := now.day_le
  have hnsec := row.updatedAt.instant.nsec_lt
  unfold Reading.nanos Instant.nanos
  omega

theorem expire_cases (failures : LoginFailures) (now : Reading) (scope : LoginScope) (key : String) :
    failures.expire now scope key = failures scope key ∨
      failures.expire now scope key = none ∧
        ∃ row, failures scope key = some row ∧ row.updatedAt.nanos + 86399 * 10 ^ 9 ≤ now.nanos := by
  unfold LoginFailures.expire
  cases hrow : failures scope key with
  | none => exact Or.inl rfl
  | some row =>
      by_cases hexpired : row.updatedAt.instant.format < (now.instant.sub loginFailureRetention).format
      · refine Or.inr ⟨?_, row, rfl, nanos_le_of_expired hexpired⟩
        rw [Option.filter_some, if_neg (by simp [hexpired])]
      · refine Or.inl ?_
        rw [Option.filter_some, if_pos (by simp [hexpired])]

/-- The window of a row, in nanoseconds. -/
def LoginFailure.window (row : LoginFailure) : FailureWindow := ⟨row.failedCount, row.windowStartedAt.nanos⟩

def windowLength : Nat := loginFailureWindow * 10 ^ 9

/-- The count of Center is a fixed window with a lockout. -/
theorem window_nextFailure (previous : Option LoginFailure) (now : Reading) :
    (nextFailure previous now).window =
      FailureWindow.fail windowLength loginMaxFailures (previous.map LoginFailure.window) now.nanos := by
  have hcurrent : FailureWindow.current windowLength (previous.map LoginFailure.window) now.nanos =
      ⟨(loginWindow previous now).1, (loginWindow previous now).2.nanos⟩ := by
    cases previous with
    | none => rfl
    | some row =>
        have hbefore : now.instant.Before (row.windowStartedAt.add loginFailureWindow) ↔
            now.nanos < row.windowStartedAt.nanos + windowLength := by
          rw [Instant.before_iff, Instant.nanos_add]
          rfl
        rw [Option.map_some, loginWindow]
        by_cases hnow : now.nanos < row.windowStartedAt.nanos + windowLength
        · rw [FailureWindow.current_of_lt hnow, if_neg (not_not.2 (hbefore.2 hnow))]
          rfl
        · rw [FailureWindow.current_of_le (not_lt.1 hnow), if_pos (mt hbefore.1 hnow)]
          rfl
  rw [FailureWindow.fail, hcurrent, LoginFailure.window, nextFailure]
  dsimp only
  split <;> rfl

/-- A failure that reaches the limit blocks for the length of a window. -/
theorem locked_nextFailure {previous : Option LoginFailure} {now : Reading}
    (h : loginMaxFailures ≤ (nextFailure previous now).failedCount) :
    (nextFailure previous now).blockedUntil.nanos = now.nanos + windowLength := by
  have hcount : loginMaxFailures ≤ (loginWindow previous now).1 + 1 := h
  have hdelay : loginDelay ((loginWindow previous now).1 + 1) = loginLockoutDuration := if_pos hcount
  have hblocked : (nextFailure previous now).blockedUntil = now.instant.add loginLockoutDuration :=
    congrArg now.instant.add hdelay
  have hlength : loginLockoutDuration * 10 ^ 9 = windowLength := rfl
  rw [hblocked, Instant.nanos_add, hlength, Reading.nanos]

end Rows

/-! ## What a login does to the count of an account -/

section Steps

variable {env : LoginEnv} {admins : Admins} {account : Admin} {failures : LoginFailures} {r : LoginRequest}

/-- The login is verified against the account. -/
def LoginRequest.isFor (r : LoginRequest) (account : Admin) : Bool :=
  nocaseEq account.username (trimSpace r.username)

/-- No failure that is counted for the account blocks the login. -/
def Passes (row : Option LoginFailure) (r : LoginRequest) : Prop :=
  ∀ f, row = some f → f.blockedUntil.nanos ≤ r.throttledAt.nanos

/-- The row of an account may be gone when a failure is recorded. -/
def Remains (row row' : Option LoginFailure) (r : LoginRequest) : Prop :=
  row' = row ∨ row' = none ∧ ∃ f, row = some f ∧ f.updatedAt.nanos + 86399 * 10 ^ 9 ≤ r.recordedAt.nanos

/-- What a login can do to the row of an account. -/
inductive RowStep (account : Admin) (r : LoginRequest) (row : Option LoginFailure) :
    LoginResult → Option LoginFailure → Prop where
  | left {result : LoginResult} {row' : Option LoginFailure} :
      (r.isFor account = true → result ≠ .invalidCredentials ∧ result ≠ .authenticated) →
      Remains row row' r → RowStep account r row result row'
  | failed {row₁ : Option LoginFailure} : Passes row r → Remains row row₁ r →
      RowStep account r row .invalidCredentials (some (nextFailure row₁ r.recordedAt))
  | cleared : Passes row r → r.isFor account = true → RowStep account r row .authenticated none

theorem passes_of_throttle {clientAddress : String}
    (h : ¬ 0 < loginThrottle env failures r.username clientAddress r.throttledAt)
    (hkey : loginFailureKeys env r.username clientAddress .account = accountKey env account) :
    Passes (failures .account (accountKey env account)) r := by
  intro f hf
  unfold loginThrottle at h
  dsimp only at h
  rw [hkey, hf] at h
  simp only [Option.map_some, Option.getD_some] at h
  omega

theorem recordLoginFailure_account {username clientAddress key : String} {includeAccount : Bool} {now : Reading} :
    recordLoginFailure env failures username clientAddress includeAccount now .account key =
      if includeAccount = true ∧ key = loginFailureKeys env username clientAddress .account then
        some (nextFailure (failures.expire now .account key) now)
      else failures.expire now .account key := by
  have hclient : ∀ key', (failures.expire now).record .client (loginFailureKeys env username clientAddress .client)
      now .account key' = failures.expire now .account key' := fun key' => if_neg (by simp)
  unfold recordLoginFailure
  cases includeAccount with
  | false =>
      rw [if_neg Bool.false_ne_true, hclient, if_neg fun h => Bool.false_ne_true h.1]
  | true =>
      change LoginFailures.record _ _ _ _ _ _ = _
      rw [LoginFailures.record, hclient]
      by_cases hkey : key = loginFailureKeys env username clientAddress .account
      · rw [if_pos ⟨rfl, hkey⟩, if_pos ⟨rfl, hkey⟩, hkey]
      · rw [if_neg (fun h => hkey h.2), if_neg (fun h => hkey h.2), hclient]

theorem administrator_eq (haccount : account ∈ admins.rows) {username : String} {admin : Admin}
    (h : administrator admins username = some admin) : admin = account := by
  have hmem : admin ∈ admins.rows := List.mem_of_find?_eq_some h
  have hsingle := admins.single
  cases hrows : admins.rows with
  | nil => rw [hrows] at haccount; cases haccount
  | cons first rest =>
      rw [hrows] at hsingle hmem haccount
      have hrest : rest = [] := List.length_eq_zero_iff.1 (by simpa using hsingle)
      rw [hrest, List.mem_singleton] at hmem haccount
      rw [hmem, haccount]

theorem handleLogin_step (env : LoginEnv) (failures : LoginFailures) (r : LoginRequest)
    (haccount : account ∈ admins.rows) :
    RowStep account r (failures .account (accountKey env account)) (handleLogin env admins failures r).1
      ((handleLogin env admins failures r).2 .account (accountKey env account)) := by
  unfold handleLogin
  split
  · exact .left (fun _ => ⟨by simp, by simp⟩) (Or.inl rfl)
  · next context _ =>
      split_ifs with hread hthrottle hcaptcha hauth
      · exact .left (fun _ => ⟨by simp, by simp⟩) (Or.inl rfl)
      · exact .left (fun _ => ⟨by simp, by simp⟩) (Or.inl rfl)
      · refine .left (fun _ => ⟨by simp, by simp⟩) ?_
        dsimp only
        rw [recordLoginFailure_account, if_neg (by simp)]
        exact expire_cases failures r.recordedAt .account (accountKey env account)
      · -- Only the account itself can have been authenticated.
        have hfor : r.isFor account = true := by
          obtain ⟨admin, hadmin, -⟩ := (Option.any_eq_true _ _).1 (Bool.and_eq_true_iff.1 hauth).2
          have hfound := List.find?_some hadmin
          rwa [administrator_eq haccount hadmin] at hfound
        have hkey := loginFailureKeys_account env hfor context.clientAddress
        have hnone : clearLoginFailures env failures r.username context.clientAddress .account (accountKey env account) =
            none := if_pos hkey.symm
        dsimp only
        rw [hnone]
        exact .cleared (passes_of_throttle hthrottle hkey) hfor
      · dsimp only
        rw [recordLoginFailure_account]
        by_cases hkey : accountKey env account = loginFailureKeys env r.username context.clientAddress .account
        · rw [if_pos ⟨rfl, hkey⟩]
          exact .failed (passes_of_throttle hthrottle hkey.symm)
            (expire_cases failures r.recordedAt .account (accountKey env account))
        · rw [if_neg fun h => hkey h.2]
          refine .left (fun hfor => ?_) (expire_cases failures r.recordedAt .account (accountKey env account))
          exact absurd (loginFailureKeys_account env hfor context.clientAddress).symm hkey

end Steps

/-! ## Runs of logins -/

/-- A password of the account was verified, or could have been, and the failure was recorded. -/
def LoginEvent.isFailure (account : Admin) (e : LoginEvent) : Bool :=
  e.result == .invalidCredentials && e.request.isFor account

def LoginEvent.isSuccess (account : Admin) (e : LoginEvent) : Bool :=
  e.result == .authenticated && e.request.isFor account

/-- The failures of an account from `start` on and before `stop`. -/
def failuresWithin (account : Admin) (start stop : Nat) (events : List LoginEvent) : List LoginEvent :=
  events.filter fun e =>
    e.isFailure account && decide (start ≤ e.request.recordedAt.nanos ∧ e.request.recordedAt.nanos < stop)

section Runs

variable {env : LoginEnv} {admins : Admins} {account : Admin} {failures : LoginFailures} {rs : List LoginRequest}
  {now start stop : Nat}

theorem Chronological.of_mem (h : Chronological now rs) {e : LoginEvent} (he : e ∈ logins env admins failures rs) :
    now ≤ e.request.throttledAt.nanos ∧ e.request.throttledAt.nanos ≤ e.request.verifiedAt.nanos ∧
      e.request.verifiedAt.nanos ≤ e.request.recordedAt.nanos := by
  induction rs generalizing now failures with
  | nil => cases he
  | cons r rs ih =>
      obtain ⟨hnow, hverified, hrecorded, hrest⟩ := h
      rcases List.mem_cons.1 he with rfl | he
      · exact ⟨hnow, hverified, hrecorded⟩
      · have hlater := ih hrest he
        exact ⟨by omega, hlater.2⟩

theorem failuresWithin_eq_nil (h : Chronological now rs) (hstop : stop ≤ now) :
    failuresWithin account start stop (logins env admins failures rs) = [] := by
  refine List.filter_eq_nil_iff.2 fun e he hcounted => ?_
  have hlater := h.of_mem he
  simp only [Bool.and_eq_true, decide_eq_true_eq] at hcounted
  omega

theorem failuresWithin_cons_of_not {e : LoginEvent} {events : List LoginEvent} (h : e.isFailure account ≠ true) :
    failuresWithin account start stop (e :: events) = failuresWithin account start stop events :=
  List.filter_cons_of_neg (by simp [h])

theorem length_failuresWithin_cons_le (e : LoginEvent) (events : List LoginEvent) :
    (failuresWithin account start stop (e :: events)).length ≤ (failuresWithin account start stop events).length + 1 := by
  unfold failuresWithin
  rw [List.filter_cons]
  split
  · exact le_refl _
  · exact Nat.le_succ _

theorem isFailure_ne_of_left {r : LoginRequest} {result : LoginResult} {after : LoginFailures}
    (h : r.isFor account = true → result ≠ .invalidCredentials ∧ result ≠ .authenticated) :
    LoginEvent.isFailure account ⟨r, result, after⟩ ≠ true := by
  intro hfailure
  obtain ⟨hresult, hfor⟩ := Bool.and_eq_true_iff.1 hfailure
  exact (h hfor).1 (beq_iff_eq.1 hresult)

/-- What is left of an interval after a failure in it. -/
theorem length_failuresWithin_le_room (haccount : account ∈ admins.rows) {first : Nat} {f : LoginFailure}
    (hchron : Chronological now rs) (hrow : failures .account (accountKey env account) = some f)
    (hfirst : first ≤ f.updatedAt.nanos) (hnow : f.updatedAt.nanos ≤ now)
    (hlock : loginMaxFailures ≤ f.failedCount → f.updatedAt.nanos + windowLength ≤ f.blockedUntil.nanos)
    (hstop : stop ≤ first + windowLength)
    (hsuccess : ∀ e ∈ logins env admins failures rs, e.isSuccess account = true → stop ≤ e.request.verifiedAt.nanos) :
    (failuresWithin account start stop (logins env admins failures rs)).length ≤
      FailureWindow.room loginMaxFailures first f.window := by
  induction rs generalizing now failures f with
  | nil => exact Nat.zero_le _
  | cons r rs ih =>
      obtain ⟨hthrottled, hverified, hrecorded, hrest⟩ := hchron
      have hlength : windowLength = 900 * 10 ^ 9 := rfl
      have hday : first + windowLength ≤ f.updatedAt.nanos + 86399 * 10 ^ 9 := by omega
      have hstep := handleLogin_step env failures r haccount
      rw [logins] at hsuccess ⊢
      rw [List.forall_mem_cons] at hsuccess
      generalize handleLogin env admins failures r = served at hstep hsuccess ⊢
      obtain ⟨result, after⟩ := served
      rw [hrow] at hstep
      dsimp only at hstep hsuccess ⊢
      generalize hafter : after .account (accountKey env account) = row at hstep
      cases hstep with
      | left hother hremains =>
          rw [failuresWithin_cons_of_not (isFailure_ne_of_left hother)]
          rcases hremains with rfl | ⟨rfl, f', hf', hold⟩
          · exact ih hrest hafter hfirst (by omega) hlock hsuccess.2
          · -- A row that was dropped is older than the interval.
            obtain rfl := Option.some.inj hf'
            rw [failuresWithin_eq_nil hrest (by omega)]
            exact Nat.zero_le _
      | failed hpasses hremains =>
          by_cases hcounted : r.recordedAt.nanos < stop
          · rcases hremains with rfl | ⟨-, f', hf', hold⟩
            · have hblocked := hpasses f rfl
              have hcount : f.failedCount < loginMaxFailures := by
                by_contra hlimit
                have := hlock (not_lt.1 hlimit)
                omega
              have hlater : first ≤ r.recordedAt.nanos := by omega
              have hroom : FailureWindow.room loginMaxFailures first
                  (FailureWindow.fail windowLength loginMaxFailures (some f.window) r.recordedAt.nanos) + 1 ≤
                  FailureWindow.room loginMaxFailures first f.window :=
                FailureWindow.room_fail hcount hlater (by omega)
              have hnext := ih hrest hafter hlater (le_refl _) (fun hlimit => (locked_nextFailure hlimit).ge) hsuccess.2
              rw [window_nextFailure] at hnext
              exact (length_failuresWithin_cons_le _ _).trans ((Nat.succ_le_succ hnext).trans hroom)
            · obtain rfl := Option.some.inj hf'
              omega
          · have hnone : failuresWithin account start stop
                (⟨r, .invalidCredentials, after⟩ :: logins env admins after rs) = [] := by
              unfold failuresWithin
              rw [List.filter_cons_of_neg (by simp [hcounted])]
              exact failuresWithin_eq_nil hrest (not_lt.1 hcounted)
            rw [hnone]
            exact Nat.zero_le _
      | cleared hpasses hfor =>
          have hlate := hsuccess.1 (by simp [LoginEvent.isSuccess, hfor])
          have hnone : failuresWithin account start stop
              (⟨r, .authenticated, after⟩ :: logins env admins after rs) = [] := by
            rw [failuresWithin_cons_of_not (by simp [LoginEvent.isFailure])]
            exact failuresWithin_eq_nil hrest (hlate.trans hrecorded)
          rw [hnone]
          exact Nat.zero_le _

/-- A quarter of an hour without a success. -/
theorem length_failuresWithin_le (haccount : account ∈ admins.rows) (hchron : Chronological now rs)
    (hsuccess : ∀ e ∈ logins env admins failures rs, e.isSuccess account = true →
      ¬ (start ≤ e.request.verifiedAt.nanos ∧ e.request.verifiedAt.nanos < start + windowLength)) :
    (failuresWithin account start (start + windowLength) (logins env admins failures rs)).length ≤ 8 := by
  induction rs generalizing now failures with
  | nil => exact Nat.zero_le _
  | cons r rs ih =>
      obtain ⟨hthrottled, hverified, hrecorded, hrest⟩ := hchron
      have hstep := handleLogin_step env failures r haccount
      rw [logins] at hsuccess ⊢
      rw [List.forall_mem_cons] at hsuccess
      generalize handleLogin env admins failures r = served at hstep hsuccess ⊢
      obtain ⟨result, after⟩ := served
      dsimp only at hstep hsuccess ⊢
      have hrestCount := ih hrest hsuccess.2
      generalize hafter : after .account (accountKey env account) = row at hstep
      cases hstep with
      | left hother _ => rwa [failuresWithin_cons_of_not (isFailure_ne_of_left hother)]
      | cleared _ _ => rwa [failuresWithin_cons_of_not (by simp [LoginEvent.isFailure])]
      | @failed row₁ _ _ =>
          by_cases hcounted : start ≤ r.recordedAt.nanos ∧ r.recordedAt.nanos < start + windowLength
          · -- The interval starts to count with this failure.
            have hlater : ∀ e ∈ logins env admins after rs, e.isSuccess account = true →
                start + windowLength ≤ e.request.verifiedAt.nanos := by
              intro e he hfor
              have hin := hsuccess.2 e he hfor
              have horder := hrest.of_mem he
              omega
            have hroom : (failuresWithin account start (start + windowLength) (logins env admins after rs)).length ≤ _ :=
              length_failuresWithin_le_room haccount hrest hafter (le_refl r.recordedAt.nanos) (le_refl _)
                (fun hlimit => (locked_nextFailure hlimit).ge) (by omega) hlater
            rw [window_nextFailure] at hroom
            have hfirst : FailureWindow.room loginMaxFailures r.recordedAt.nanos
                (FailureWindow.fail windowLength loginMaxFailures (row₁.map LoginFailure.window) r.recordedAt.nanos) + 1 ≤
                2 * loginMaxFailures - 2 := by
              refine FailureWindow.room_first (by decide) fun w hw => ?_
              obtain ⟨f, -, rfl⟩ := Option.map_eq_some_iff.1 hw
              exact f.positive
            exact (length_failuresWithin_cons_le _ _).trans ((Nat.succ_le_succ hroom).trans hfirst)
          · have hskip : failuresWithin account start (start + windowLength)
                (⟨r, .invalidCredentials, after⟩ :: logins env admins after rs) =
                failuresWithin account start (start + windowLength) (logins env admins after rs) :=
              List.filter_cons_of_neg (by simp only [Bool.and_eq_true, decide_eq_true_eq]; exact fun h => hcounted h.2)
            rwa [hskip]

/-- The time until which a failure has blocked is over, or it is still in the table. -/
def Guarded (env : LoginEnv) (account : Admin) (blocked now : Nat) (failures : LoginFailures) : Prop :=
  blocked ≤ now ∨ ∃ f, failures .account (accountKey env account) = some f ∧ blocked ≤ f.blockedUntil.nanos

theorem le_of_passes {blocked : Nat} {r : LoginRequest} (h : Guarded env account blocked now failures)
    (hnow : now ≤ r.throttledAt.nanos) (hpasses : Passes (failures .account (accountKey env account)) r) :
    blocked ≤ r.throttledAt.nanos := by
  rcases h with hpast | ⟨f, hf, hblocked⟩
  · exact hpast.trans hnow
  · exact hblocked.trans (hpasses f hf)

/-- No later login is verified before the block is over. -/
theorem blocked_le_verifiedAt (haccount : account ∈ admins.rows) {blocked : Nat} (hchron : Chronological now rs)
    (h : Guarded env account blocked now failures) {e : LoginEvent} (he : e ∈ logins env admins failures rs)
    (hverified : e.isFailure account = true ∨ e.isSuccess account = true) :
    blocked ≤ e.request.verifiedAt.nanos := by
  induction rs generalizing now failures with
  | nil => cases he
  | cons r rs ih =>
      obtain ⟨hthrottled, hlater, hrecorded, hrest⟩ := hchron
      have hstep := handleLogin_step env failures r haccount
      rw [logins] at he
      generalize handleLogin env admins failures r = served at hstep he
      obtain ⟨result, after⟩ := served
      dsimp only at hstep he
      generalize hrow : failures .account (accountKey env account) = row at hstep
      generalize hafter : after .account (accountKey env account) = row' at hstep
      have hpassed : Passes row r → blocked ≤ r.throttledAt.nanos := fun hpasses =>
        le_of_passes h hthrottled (hrow ▸ hpasses)
      rcases List.mem_cons.1 he with rfl | he
      · cases hstep with
        | left hother _ =>
            simp only [LoginEvent.isFailure, LoginEvent.isSuccess, Bool.and_eq_true, beq_iff_eq] at hverified
            rcases hverified with ⟨hresult, hfor⟩ | ⟨hresult, hfor⟩
            · exact absurd hresult (hother hfor).1
            · exact absurd hresult (hother hfor).2
        | failed hpasses _ => exact (hpassed hpasses).trans hlater
        | cleared hpasses _ => exact (hpassed hpasses).trans hlater
      · refine ih hrest ?_ he
        cases hstep with
        | failed hpasses _ => exact Or.inl ((hpassed hpasses).trans (hlater.trans hrecorded))
        | cleared hpasses _ => exact Or.inl ((hpassed hpasses).trans (hlater.trans hrecorded))
        | left _ hremains =>
            rcases h with hpast | ⟨f, hf, hblocked⟩
            · exact Or.inl (by omega)
            · rw [hrow] at hf
              rcases hremains with rfl | ⟨-, f', hf', hold⟩
              · exact Or.inr ⟨f, hafter.trans hf, hblocked⟩
              · -- A row is dropped long after its block.
                obtain rfl := Option.some.inj (hf.symm.trans hf')
                have hbound := f.blocked_le
                have hlockout : loginLockoutDuration = 900 := rfl
                rw [hlockout] at hbound
                exact Or.inl (by omega)

/-- A failure is recorded with its block. -/
theorem failure_row {r : LoginRequest} (haccount : account ∈ admins.rows)
    (h : LoginEvent.isFailure account
      ⟨r, (handleLogin env admins failures r).1, (handleLogin env admins failures r).2⟩ = true) :
    ∃ f, (handleLogin env admins failures r).2 .account (accountKey env account) = some f := by
  have hstep := handleLogin_step env failures r haccount
  obtain ⟨hresult, hfor⟩ := Bool.and_eq_true_iff.1 h
  generalize handleLogin env admins failures r = served at hstep hresult ⊢
  obtain ⟨result, after⟩ := served
  dsimp only at hstep hresult ⊢
  generalize after .account (accountKey env account) = row at hstep ⊢
  cases hstep with
  | left hother _ => exact absurd (beq_iff_eq.1 hresult) (hother hfor).1
  | failed _ _ => exact ⟨_, rfl⟩
  | cleared _ _ => exact absurd (beq_iff_eq.1 hresult) (by decide)

theorem pairwise_blocked (haccount : account ∈ admins.rows) (hchron : Chronological now rs) :
    (logins env admins failures rs).Pairwise fun e e' => e.isFailure account = true →
      e'.isFailure account = true ∨ e'.isSuccess account = true →
      ∃ f, e.failures .account (accountKey env account) = some f ∧
        f.blockedUntil.nanos ≤ e'.request.verifiedAt.nanos := by
  induction rs generalizing now failures with
  | nil => exact List.Pairwise.nil
  | cons r rs ih =>
      obtain ⟨-, -, -, hrest⟩ := hchron
      rw [logins]
      refine List.pairwise_cons.2 ⟨fun e' he' hfailure hverified => ?_, ih hrest⟩
      obtain ⟨f, hf⟩ := failure_row haccount hfailure
      exact ⟨f, hf, blocked_le_verifiedAt haccount hrest (Or.inr ⟨f, hf, le_refl _⟩) he' hverified⟩

/-- Guessing the password of an account is bounded: eight failures in a quarter of an hour without a success, and no
password is verified while the account is blocked. -/
theorem password_guessing_bounded (haccount : account ∈ admins.rows) (hchron : Chronological now rs) :
    (∀ start : Nat, (∀ e ∈ logins env admins failures rs, e.isSuccess account = true →
        ¬ (start ≤ e.request.verifiedAt.nanos ∧ e.request.verifiedAt.nanos < start + 15 * 60 * 10 ^ 9)) →
      (failuresWithin account start (start + 15 * 60 * 10 ^ 9) (logins env admins failures rs)).length ≤ 8) ∧
    (logins env admins failures rs).Pairwise fun e e' => e.isFailure account = true →
      e'.isFailure account = true ∨ e'.isSuccess account = true →
      ∃ f, e.failures .account (accountKey env account) = some f ∧
        f.blockedUntil.nanos ≤ e'.request.verifiedAt.nanos := by
  have hlength : 15 * 60 * 10 ^ 9 = windowLength := by decide
  rw [hlength]
  exact ⟨fun start hsuccess => length_failuresWithin_le haccount hchron hsuccess,
    pairwise_blocked haccount hchron⟩

end Runs

/-! ## Guesses in a row -/

namespace RepeatedGuesses

def env : LoginEnv where
  toLower := Char.toLower
  toLower_ascii _ _ := rfl
  digest := id
  verifyPassword _ _ := false

def account : Admin := ⟨"1", "admin", "hash"⟩

theorem length_account : [account].length ≤ 1 := le_refl 1

def admins : Admins := ⟨[account], length_account⟩

theorem zero_lt_second : 0 < 10 ^ 9 := by decide

/-- So many seconds into the year 2026. -/
def reading (n : Fin 3600) : Reading where
  instant := ⟨63934444800 + n, 0, zero_lt_second⟩
  inRange := by
    have hday : (63934444800 + n.val) / 86400 = 739982 := by omega
    unfold Instant.InRange
    rw [hday]
    decide
  day_le := by
    dsimp only
    omega

def guess (n : Fin 3600) : LoginRequest :=
  ⟨" Admin", "guess", some ⟨"198.51.100.7", false⟩, true, true, true, true, reading n, reading n, reading n⟩

/-- The second guess comes before the block of the first one is over. -/
def guesses : List LoginRequest := [guess 0, guess 1, guess 2]

def events : List LoginEvent := logins env admins (fun _ _ => none) guesses

theorem early_guess_not_verified :
    events.map (·.result) = [.invalidCredentials, .throttled, .invalidCredentials] ∧
      (failuresWithin account (reading 0).nanos ((reading 0).nanos + 15 * 60 * 10 ^ 9) events).length ≤ 8 := by
  have hresults : events.map (·.result) = [.invalidCredentials, .throttled, .invalidCredentials] := by decide +kernel
  have hchron : Chronological 0 guesses := by
    unfold guesses
    simp only [Chronological]
    decide +kernel
  have hsuccess : ∀ e ∈ events, e.isSuccess account = true →
      ¬ ((reading 0).nanos ≤ e.request.verifiedAt.nanos ∧
        e.request.verifiedAt.nanos < (reading 0).nanos + 15 * 60 * 10 ^ 9) := by
    intro e he hsuccess
    have hresult := List.mem_map_of_mem (f := fun e => e.result) he
    rw [hresults] at hresult
    simp only [LoginEvent.isSuccess, Bool.and_eq_true, beq_iff_eq] at hsuccess
    rw [hsuccess.1] at hresult
    exact absurd hresult (by decide)
  have haccount : account ∈ admins.rows := List.mem_singleton_self _
  have hbound := @password_guessing_bounded env admins account (fun _ _ => none) guesses 0 haccount hchron
  exact ⟨hresults, hbound.1 _ hsuccess⟩

end RepeatedGuesses

end Center
end Vastora
