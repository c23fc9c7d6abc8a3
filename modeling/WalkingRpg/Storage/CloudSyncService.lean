import Mathlib.Data.List.Basic
import WalkingRpg.Library.LastWrite
import WalkingRpg.Library.Runs
import WalkingRpg.Library.Tasks
import WalkingRpg.Models.Player

/-! The cloud write service: timestamps, the promise chain and the drain.

Every `setDoc` the service has issued is kept in order, with its outcome once it has
settled. The chain of `pendingWrite` is the list of `then` segments it was built from.
-/

set_option autoImplicit false

namespace WalkingRpg

open Runs (Run)

/-- A `setDoc` on `players/{uid}`, and whether it succeeded once it has settled. -/
structure SetDoc where
  uid : Nat
  playerData : PlayerData
  lastSavedAt : ℚ
  outcome : Option Bool

structure Document where
  playerData : PlayerData
  lastSavedAt : ℚ

def SetDoc.document (write : SetDoc) : Document := ⟨write.playerData, write.lastSavedAt⟩

/-- `Promise.resolve()` with a number of `.then(() => write)` segments. Writes are positions. -/
inductive PendingWrite where
  | resolved
  | chained (earlier : PendingWrite) (write : Nat)

def PendingWrite.writes : PendingWrite → List Nat
  | .resolved => []
  | .chained earlier write => earlier.writes ++ [write]

/-- The chain has resolved. No segment rejects, because every write catches its own failure. -/
def PendingWrite.isResolved (settled : Nat → Bool) : PendingWrite → Bool
  | .resolved => true
  | .chained earlier write => earlier.isResolved settled && settled write

structure Drain where
  chain : PendingWrite
  /-- The number of writes issued before the call. History. -/
  issuedBefore : Nat
  /-- The call is the one of `handleDeleteAccount`, which goes on to `deletePlayerData`. -/
  deletes : Bool
  /-- Whether `resumeWrites` was called since. History. -/
  resumed : Bool

structure CloudSyncService where
  lastSyncTimestamp : ℚ
  writesSuspended : Bool
  pendingWrite : PendingWrite
  lastSuccessfulSyncAt : Option ℚ
  pendingWriteCount : ℤ
  setDocs : List SetDoc
  drains : List Drain

namespace CloudSyncService

variable (service : CloudSyncService)

def new : CloudSyncService where
  lastSyncTimestamp := 0
  writesSuspended := false
  pendingWrite := .resolved
  lastSuccessfulSyncAt := none
  pendingWriteCount := 0
  setDocs := []
  drains := []

def issue (uid : Nat) (playerData : PlayerData) (lastSavedAt : ℚ) : CloudSyncService :=
  let syncTimestamp := LastWrite.nextStamp service.lastSyncTimestamp lastSavedAt
  { service with
    lastSyncTimestamp := syncTimestamp
    pendingWriteCount := service.pendingWriteCount + 1
    setDocs := service.setDocs ++ [⟨uid, playerData, syncTimestamp, none⟩]
    pendingWrite := .chained service.pendingWrite service.setDocs.length }

/-- `user` is the current user when the call is made. -/
def savePlayerData (user : Option Nat) (playerData : PlayerData) (lastSavedAt : ℚ) : CloudSyncService :=
  if service.writesSuspended then service
  else
    match user with
    | none => service
    | some uid => service.issue uid playerData lastSavedAt

/-- The handlers of a write that has settled: `then` or `catch`, and `finally`. -/
def settle (i : Nat) (write : SetDoc) (success : Bool) (now : ℚ) : CloudSyncService :=
  { service with
    setDocs := service.setDocs.set i { write with outcome := some success }
    lastSuccessfulSyncAt := if success then some now else service.lastSuccessfulSyncAt
    pendingWriteCount := max 0 (service.pendingWriteCount - 1) }

def suspendWrites : CloudSyncService := { service with writesSuspended := true }

def resumeWrites : CloudSyncService :=
  { service with
    writesSuspended := false
    drains := service.drains.map fun drain => { drain with resumed := true } }

def drainPendingWrites (deletes : Bool) : CloudSyncService :=
  { service with
    drains := service.drains ++ [⟨service.pendingWrite, service.setDocs.length, deletes, false⟩] }

def handleDeleteAccount : CloudSyncService := service.suspendWrites.drainPendingWrites true

def settled (i : Nat) : Bool := service.setDocs[i]?.any fun write => write.outcome.isSome

def unsettled : Nat := service.setDocs.countP fun write => write.outcome.isNone

inductive Action where
  | savePlayerData (user : Option Nat) (playerData : PlayerData) (lastSavedAt : ℚ)
  | settle (i : Nat) (success : Bool) (now : ℚ)
  | suspendWrites
  | resumeWrites
  | drainPendingWrites
  | handleDeleteAccount
  | drainReturns (i : Nat)
  | drainTimesOut (i : Nat)

def step (service : CloudSyncService) : Action → Option CloudSyncService
  | .savePlayerData user playerData lastSavedAt => some (service.savePlayerData user playerData lastSavedAt)
  | .settle i success now => match service.setDocs[i]? with
    | some ⟨uid, playerData, lastSavedAt, none⟩ =>
      some (service.settle i ⟨uid, playerData, lastSavedAt, none⟩ success now)
    | _ => none
  | .suspendWrites => some service.suspendWrites
  | .resumeWrites => some service.resumeWrites
  | .drainPendingWrites => some (service.drainPendingWrites false)
  | .handleDeleteAccount => some service.handleDeleteAccount
  | .drainReturns i => service.drains[i]?.bind fun drain =>
      if drain.chain.isResolved service.settled then
        some { service with drains := service.drains.eraseIdx i }
      else none
  | .drainTimesOut i => service.drains[i]?.map fun _ =>
      { service with drains := service.drains.eraseIdx i }

inductive Does (service : CloudSyncService) : Action → CloudSyncService → Prop where
  | refused {user : Option Nat} {playerData : PlayerData} {lastSavedAt : ℚ} :
      Does service (.savePlayerData user playerData lastSavedAt) service
  | issued {uid : Nat} {playerData : PlayerData} {lastSavedAt : ℚ} (running : service.writesSuspended = false) :
      Does service (.savePlayerData (some uid) playerData lastSavedAt) (service.issue uid playerData lastSavedAt)
  | settled {i : Nat} {write : SetDoc} {success : Bool} {now : ℚ} (found : service.setDocs[i]? = some write)
      (pending : write.outcome = none) :
      Does service (.settle i success now) (service.settle i write success now)
  | suspended : Does service .suspendWrites service.suspendWrites
  | resumed : Does service .resumeWrites service.resumeWrites
  | drains : Does service .drainPendingWrites (service.drainPendingWrites false)
  | deletes : Does service .handleDeleteAccount service.handleDeleteAccount
  | returned {i : Nat} : Does service (.drainReturns i) { service with drains := service.drains.eraseIdx i }
  | timedOut {i : Nat} : Does service (.drainTimesOut i) { service with drains := service.drains.eraseIdx i }

variable {service} {after : CloudSyncService} {action : Action}

theorem does_of_step (taken : service.step action = some after) : Does service action after := by
  cases action with
  | savePlayerData user playerData lastSavedAt =>
    cases Option.some.inj taken
    unfold CloudSyncService.savePlayerData
    split
    · exact .refused
    · rename_i running
      cases user with
      | none => exact .refused
      | some uid => exact .issued (Bool.eq_false_iff.mpr running)
  | settle i success now =>
    simp only [step] at taken
    split at taken
    · rename_i found
      cases Option.some.inj taken
      exact .settled found rfl
    · cases taken
  | suspendWrites => cases Option.some.inj taken; exact .suspended
  | resumeWrites => cases Option.some.inj taken; exact .resumed
  | drainPendingWrites => cases Option.some.inj taken; exact .drains
  | handleDeleteAccount => cases Option.some.inj taken; exact .deletes
  | drainReturns i =>
    obtain ⟨drain, _, rest⟩ := Option.bind_eq_some_iff.mp taken
    split at rest
    · cases Option.some.inj rest
      exact .returned
    · cases rest
  | drainTimesOut i =>
    obtain ⟨drain, _, rfl⟩ := Option.map_eq_some_iff.mp taken
    exact .timedOut

theorem mem_writes_of_isResolved {settled : Nat → Bool} {chain : PendingWrite}
    (resolved : chain.isResolved settled = true) {i : Nat} (member : i ∈ chain.writes) : settled i = true := by
  induction chain with
  | resolved => cases member
  | chained earlier write ih =>
    obtain ⟨before, last⟩ := Bool.and_eq_true_iff.mp resolved
    rcases List.mem_append.mp member with old | new
    · exact ih before old
    · rw [List.mem_singleton.mp new]
      exact last

structure Tracked (service : CloudSyncService) : Prop where
  count : service.pendingWriteCount = service.unsettled
  chained : ∀ i < service.setDocs.length, i ∈ service.pendingWrite.writes
  covered : ∀ drain ∈ service.drains, ∀ i < drain.issuedBefore, i ∈ drain.chain.writes
  stopped : ∀ drain ∈ service.drains, drain.deletes = true → drain.resumed = false →
    service.writesSuspended = true ∧ drain.issuedBefore = service.setDocs.length

theorem Tracked.new : Tracked new where
  count := rfl
  chained _ inside := absurd inside (Nat.not_lt_zero _)
  covered _ member := by cases member
  stopped _ member := by cases member

theorem Tracked.issue (inv : Tracked service) (running : service.writesSuspended = false) (uid : Nat)
    (playerData : PlayerData) (lastSavedAt : ℚ) : Tracked (service.issue uid playerData lastSavedAt) where
  count := by
    have count := inv.count
    simp only [CloudSyncService.issue, unsettled, List.countP_append] at count ⊢
    simp [count]
  chained i inside := by
    have bound : i < service.setDocs.length + 1 := by simpa [CloudSyncService.issue] using inside
    rcases Nat.lt_succ_iff_lt_or_eq.mp bound with old | rfl
    · exact List.mem_append_left _ (inv.chained i old)
    · exact List.mem_append_right _ (List.mem_singleton_self _)
  covered := inv.covered
  stopped drain member deletes kept :=
    absurd (running.symm.trans (inv.stopped drain member deletes kept).1) Bool.noConfusion

theorem unsettled_settle {i : Nat} {write : SetDoc} (success : Bool) (now : ℚ)
    (found : service.setDocs[i]? = some write) (pending : write.outcome = none) :
    (service.settle i write success now).unsettled + 1 = service.unsettled := by
  obtain ⟨bound, here⟩ := List.getElem?_eq_some_iff.mp found
  have some_pending : 0 < service.unsettled :=
    List.countP_pos_iff.mpr ⟨write, List.mem_of_getElem? found, by simp [pending]⟩
  have counted := List.countP_set (p := fun write : SetDoc => write.outcome.isNone)
    (a := { write with outcome := some success }) bound
  simp only [here, pending, Option.isNone_none, Option.isNone_some, if_true, Bool.false_eq_true, if_false,
    add_zero] at counted
  unfold unsettled at some_pending ⊢
  rw [CloudSyncService.settle, counted]
  omega

theorem Tracked.settle (inv : Tracked service) {i : Nat} {write : SetDoc} (success : Bool) (now : ℚ)
    (found : service.setDocs[i]? = some write) (pending : write.outcome = none) :
    Tracked (service.settle i write success now) where
  count := by
    have count := inv.count
    have less := unsettled_settle success now found pending
    show max 0 (service.pendingWriteCount - 1) = _
    omega
  chained j inside := inv.chained j (by simpa [CloudSyncService.settle] using inside)
  covered := inv.covered
  stopped drain member deletes kept := by
    have stopped := inv.stopped drain member deletes kept
    exact ⟨stopped.1, stopped.2.trans (by simp [CloudSyncService.settle])⟩

theorem Tracked.resume (inv : Tracked service) : Tracked service.resumeWrites where
  count := inv.count
  chained := inv.chained
  covered drain member := by
    obtain ⟨old, before, rfl⟩ := List.mem_map.mp member
    exact inv.covered old before
  stopped drain member _ kept := by
    obtain ⟨old, _, rfl⟩ := List.mem_map.mp member
    cases kept

theorem Tracked.suspend (inv : Tracked service) : Tracked service.suspendWrites :=
  { inv with
    stopped := fun drain member deletes kept => ⟨rfl, (inv.stopped drain member deletes kept).2⟩ }

theorem Tracked.drain (inv : Tracked service) {deletes : Bool}
    (suspended : deletes = true → service.writesSuspended = true) :
    Tracked (service.drainPendingWrites deletes) where
  count := inv.count
  chained := inv.chained
  covered := Tasks.forall_mem_concat inv.covered inv.chained
  stopped := Tasks.forall_mem_concat inv.stopped fun deletes _ => ⟨suspended deletes, rfl⟩

theorem Tracked.erase (inv : Tracked service) (i : Nat) :
    Tracked { service with drains := service.drains.eraseIdx i } :=
  { inv with
    covered := Tasks.forall_mem_eraseIdx inv.covered
    stopped := Tasks.forall_mem_eraseIdx inv.stopped }

theorem Tracked.step (inv : Tracked service) (taken : service.step action = some after) : Tracked after := by
  cases does_of_step taken with
  | refused => exact inv
  | issued running => exact inv.issue running _ _ _
  | settled found pending => exact inv.settle _ _ found pending
  | suspended => exact inv.suspend
  | resumed => exact inv.resume
  | drains => exact inv.drain nofun
  | deletes => exact inv.suspend.drain fun _ => rfl
  | returned => exact inv.erase _
  | timedOut => exact inv.erase _

theorem setDocs_of_suspended (suspended : service.writesSuspended = true) (still : action ≠ .resumeWrites)
    (taken : service.step action = some after) :
    after.writesSuspended = true ∧ after.setDocs.length = service.setDocs.length := by
  cases does_of_step taken with
  | refused => exact ⟨suspended, rfl⟩
  | issued running => exact absurd (running.symm.trans suspended) Bool.noConfusion
  | settled => exact ⟨suspended, List.length_set⟩
  | suspended => exact ⟨rfl, rfl⟩
  | resumed => exact absurd rfl still
  | drains => exact ⟨suspended, rfl⟩
  | deletes => exact ⟨rfl, rfl⟩
  | returned => exact ⟨suspended, rfl⟩
  | timedOut => exact ⟨suspended, rfl⟩

theorem unsettled_eq_zero (settled : ∀ i < service.setDocs.length, service.settled i = true) :
    service.unsettled = 0 := by
  refine List.countP_eq_zero.mpr fun write member => ?_
  obtain ⟨i, found⟩ := List.mem_iff_getElem?.mp member
  have done := settled i (List.getElem?_eq_some_iff.mp found).1
  simp only [CloudSyncService.settled, found, Option.any_some] at done
  simpa using Option.isSome_iff_ne_none.mp done

theorem isResolved_of_drainReturns {i : Nat} {drain : Drain} (found : service.drains[i]? = some drain)
    (returned : service.step (.drainReturns i) = some after) : drain.chain.isResolved service.settled = true := by
  simp only [step, found, Option.bind_some] at returned
  split at returned
  · assumption
  · cases returned

/-- In every run the counter is the number of writes in flight; a drain that returns in time has
seen every earlier write settle, and for an account deletion then no write is in flight at all; while
writes are suspended none is issued. -/
theorem run_drain_quiesces {actions : List Action} (run : Run step (fun _ _ => True) new actions service) :
    service.pendingWriteCount = service.unsettled ∧
    (∀ i drain after, service.drains[i]? = some drain → service.step (.drainReturns i) = some after →
      (∀ j < drain.issuedBefore, service.settled j = true) ∧
      (drain.deletes = true → drain.resumed = false → service.unsettled = 0)) ∧
    (service.writesSuspended = true → ∀ more later,
      Run step (fun _ action => action ≠ .resumeWrites) service more later →
      later.setDocs.length = service.setDocs.length) := by
  have tracked : Tracked service := run.invariant Tracked .new fun _ _ _ inv _ taken => inv.step taken
  refine ⟨tracked.count, fun i drain after found returned => ?_, fun suspended more later continued => ?_⟩
  · have resolved := isResolved_of_drainReturns found returned
    have earlier : ∀ j < drain.issuedBefore, service.settled j = true := fun j before =>
      mem_writes_of_isResolved resolved (tracked.covered drain (List.mem_of_getElem? found) j before)
    refine ⟨earlier, fun deletes kept => unsettled_eq_zero ?_⟩
    -- Nothing was issued since the call, so the earlier writes are all of them.
    rw [← (tracked.stopped drain (List.mem_of_getElem? found) deletes kept).2]
    exact earlier
  · have kept := continued.invariant
      (fun state => state.writesSuspended = true ∧ state.setDocs.length = service.setDocs.length)
      ⟨suspended, rfl⟩ fun _ _ _ held still taken => by
        have next := setDocs_of_suspended held.1 still taken
        exact ⟨next.1, next.2.trans held.2⟩
    exact kept.2

def deleteDuringSaves : List Action :=
  [.savePlayerData (some 1) (Player.new .martial 1).toJSON 100,
    .savePlayerData (some 1) (Player.new .martial 1).toJSON 100, .handleDeleteAccount,
    .savePlayerData (some 1) (Player.new .martial 1).toJSON 101, .settle 1 false 102, .settle 0 true 103]

theorem run_drain_quiesces_deleteDuringSaves : ∃ service drain after,
    Run step (fun _ _ => True) new deleteDuringSaves service ∧ service.drains[0]? = some drain ∧
      drain.deletes = true ∧ drain.resumed = false ∧ service.step (.drainReturns 0) = some after ∧
      service.setDocs.length = 2 ∧ service.unsettled = 0 := by
  obtain ⟨service, run, waits, returns, issued⟩ : ∃ service,
      Run step (fun _ _ => True) new deleteDuringSaves service ∧
      (service.drains[0]?.any fun drain => drain.deletes && !drain.resumed) = true ∧
      (service.step (.drainReturns 0)).isSome = true ∧ service.setDocs.length = 2 :=
    Run.exists_of_exec (by decide +kernel)
  obtain ⟨drain, found, flags⟩ := (Option.any_eq_true _ _).mp waits
  obtain ⟨after, returned⟩ := Option.isSome_iff_exists.mp returns
  obtain ⟨deletes, kept⟩ : drain.deletes = true ∧ drain.resumed = false := by simpa using flags
  exact ⟨service, drain, after, run, found, deletes, kept, returned, issued,
    ((run_drain_quiesces run).2.1 0 drain after found returned).2 deletes kept⟩

def acceptWrite : Option Document → Document → Option Document := LastWrite.accept Document.lastSavedAt

def deliver (service : CloudSyncService) (initial : Option Document) (delivered : List Nat) : Option Document :=
  (delivered.filterMap fun i => service.setDocs[i]?.map SetDoc.document).foldl acceptWrite initial

structure Increasing (service : CloudSyncService) : Prop where
  sorted : (service.setDocs.map SetDoc.lastSavedAt).Pairwise (· < ·)
  last : ∀ timestamp ∈ service.setDocs.map SetDoc.lastSavedAt, timestamp ≤ service.lastSyncTimestamp

theorem Increasing.issue (inv : Increasing service) (uid : Nat) (playerData : PlayerData) (lastSavedAt : ℚ) :
    Increasing (service.issue uid playerData lastSavedAt) := by
  have newer := LastWrite.lt_nextStamp service.lastSyncTimestamp lastSavedAt
  refine ⟨?_, fun timestamp member => ?_⟩
  · simp only [CloudSyncService.issue, List.map_append, List.map_cons, List.map_nil]
    refine List.pairwise_append.mpr ⟨inv.sorted, List.pairwise_singleton _ _, fun old member new last => ?_⟩
    rw [List.mem_singleton.mp last]
    exact (inv.last old member).trans_lt newer
  · simp only [CloudSyncService.issue, List.map_append, List.map_cons, List.map_nil] at member ⊢
    rcases List.mem_append.mp member with old | new
    · exact (inv.last timestamp old).trans newer.le
    · exact (List.mem_singleton.mp new).le

theorem Increasing.step (inv : Increasing service) (taken : service.step action = some after) :
    Increasing after := by
  cases does_of_step taken with
  | issued => exact inv.issue _ _ _
  | @settled i write success now found =>
    have same : (service.setDocs.set i { write with outcome := some success }).map SetDoc.lastSavedAt =
        service.setDocs.map SetDoc.lastSavedAt := Tasks.map_set_of_view_eq found rfl
    exact ⟨same ▸ inv.sorted, same ▸ inv.last⟩
  | _ => exact { inv with }

theorem Increasing.lt_of_lt (inv : Increasing service) {i j : Nat} {earlier later : SetDoc}
    (first : service.setDocs[i]? = some earlier) (second : service.setDocs[j]? = some later) (before : i < j) :
    earlier.lastSavedAt < later.lastSavedAt := by
  obtain ⟨_, rfl⟩ := List.getElem?_eq_some_iff.mp first
  obtain ⟨_, rfl⟩ := List.getElem?_eq_some_iff.mp second
  exact List.pairwise_iff_getElem.mp (List.pairwise_map.mp inv.sorted) i j _ _ before

theorem Increasing.find_le (inv : Increasing service) {uid i : Nat} {first write : SetDoc}
    (head : service.setDocs.find? (·.uid == uid) = some first) (found : service.setDocs[i]? = some write)
    (own : write.uid = uid) : first.lastSavedAt ≤ write.lastSavedAt := by
  obtain ⟨_, j, inside, rfl, none_before⟩ := List.find?_eq_some_iff_getElem.mp head
  have notAfter : j ≤ i := by
    by_contra after
    obtain ⟨_, rfl⟩ := List.getElem?_eq_some_iff.mp found
    simpa [own] using none_before i (by omega)
  rcases Nat.lt_or_eq_of_le notAfter with before | rfl
  · exact (inv.lt_of_lt (List.getElem?_eq_getElem inside) found before).le
  · rw [Option.some.inj ((List.getElem?_eq_getElem inside).symm.trans found)]

/-- In every run the timestamps sent increase strictly; whichever writes to a document arrive, in
whatever order, it ends up as the last one issued of them. -/
theorem run_last_issued_wins {actions : List Action} (run : Run step (fun _ _ => True) new actions service) :
    (service.setDocs.map SetDoc.lastSavedAt).Pairwise (· < ·) ∧
    ∀ (uid : Nat) (initial : Option Document) (delivered : List Nat),
      (∀ document ∈ initial, ∀ first ∈ service.setDocs.find? (·.uid == uid),
        document.lastSavedAt < first.lastSavedAt) →
      (∀ i ∈ delivered, ∃ write, service.setDocs[i]? = some write ∧ write.uid = uid) →
      (delivered = [] → service.deliver initial delivered = initial) ∧
      ∀ last ∈ delivered, (∀ i ∈ delivered, i ≤ last) →
        service.deliver initial delivered = service.setDocs[last]?.map SetDoc.document := by
  have inv : Increasing service :=
    run.invariant Increasing ⟨.nil, fun _ member => by cases member⟩ fun _ _ _ inv _ taken => inv.step taken
  refine ⟨inv.sorted, fun uid initial delivered older issued => ⟨?_, fun last arrived newest => ?_⟩⟩
  · rintro rfl
    rfl
  · obtain ⟨final, found, own⟩ := issued last arrived
    rw [found]
    refine LastWrite.foldl_accept ?_ (fun document here => ?_) fun document member => ?_
    · exact List.mem_filterMap.mpr ⟨last, arrived, by rw [found]; rfl⟩
    · obtain ⟨first, head⟩ : ∃ first, service.setDocs.find? (·.uid == uid) = some first :=
        Option.isSome_iff_exists.mp
          (List.find?_isSome.mpr ⟨final, List.mem_of_getElem? found, beq_iff_eq.mpr own⟩)
      exact (older document here first head).trans_le (inv.find_le head found own)
    · obtain ⟨i, delivery, same⟩ := List.mem_filterMap.mp member
      obtain ⟨write, here, rfl⟩ := Option.map_eq_some_iff.mp same
      rcases Nat.lt_or_eq_of_le (newest i delivery) with before | rfl
      · exact .inr (inv.lt_of_lt here found before)
      · exact .inl (congrArg SetDoc.document (Option.some.inj (here.symm.trans found)))

/-- Three saves with falling clocks; the first is lost and the other two arrive in reverse. -/
theorem run_last_issued_wins_reversed : ∃ service,
    Run step (fun _ _ => True) new
      [.savePlayerData (some 1) (Player.new .martial 1).toJSON 100,
        .savePlayerData (some 1) (Player.new .martial 2).toJSON 100,
        .savePlayerData (some 1) (Player.new .martial 3).toJSON 50] service ∧
      service.deliver none [2, 1] = service.setDocs[2]?.map SetDoc.document ∧
      service.setDocs[2]?.map SetDoc.lastSavedAt = some 102 := by
  obtain ⟨service, run, sent, last⟩ : ∃ service, Run step (fun _ _ => True) new
      [.savePlayerData (some 1) (Player.new .martial 1).toJSON 100,
        .savePlayerData (some 1) (Player.new .martial 2).toJSON 100,
        .savePlayerData (some 1) (Player.new .martial 3).toJSON 50] service ∧
      service.setDocs.map SetDoc.uid = [1, 1, 1] ∧ service.setDocs[2]?.map SetDoc.lastSavedAt = some 102 :=
    Run.exists_of_exec (by decide +kernel)
  have issued : ∀ i ∈ [2, 1], ∃ write, service.setDocs[i]? = some write ∧ write.uid = 1 := by
    intro i member
    have inside : i = 2 ∨ i = 1 := by simpa using member
    have here : (service.setDocs.map SetDoc.uid)[i]? = some 1 := by
      rw [sent]
      rcases inside with rfl | rfl <;> rfl
    rwa [List.getElem?_map, Option.map_eq_some_iff] at here
  exact ⟨service, run, ((run_last_issued_wins run).2 1 none [2, 1] (fun _ x => (by cases x)) issued).2 2 (by simp) (by simp), last⟩

end CloudSyncService

end WalkingRpg
