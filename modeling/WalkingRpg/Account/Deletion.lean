import Mathlib.Logic.Function.Basic
import WalkingRpg.Storage.CloudSyncService

/-! The deletion of an account.

`handleDeleteAccount` runs against a server that answers uploads in any order, or late, or
whose answer is lost, and in a process that may be killed. An upload outlives the process
that issued it. The server keeps the documents and the accounts; the trigger
`onUserDeleted` removes a document again some time after its account.
-/

set_option autoImplicit false

namespace WalkingRpg

namespace Deletion

open Runs (Run)

/-- `providerData[0].providerId`. -/
inductive Provider where
  | google
  | apple
  | other
  deriving DecidableEq

structure FirebaseUser where
  uid : Nat
  isAnonymous : Bool
  provider : Option Provider
  deriving DecidableEq

/-- `STORAGE_KEYS`. -/
inductive Key where
  | playerData
  | playerSavedAt
  | settings
  | pendingEncounter
  | walkSummary
  | trackingState
  | conflictPending
  | batteryPromptShown
  | autoResolveBelowRare
  deriving DecidableEq

def userKeys : List Key :=
  [.playerData, .playerSavedAt, .pendingEncounter, .walkSummary, .trackingState, .conflictPending]

/-- A `setDoc` on `players/{uid}` and whether the server has answered it. -/
structure Upload where
  uid : Nat
  document : Document
  answered : Bool

/-- A `deleteDoc` on `players/{uid}` and whether the server admitted it, once it has answered. -/
structure DeleteDoc where
  uid : Nat
  outcome : Option Bool

inductive Phase where
  | draining
  /-- `deletePlayerData`, with its `deleteDoc` unless nobody was signed in. -/
  | deleting (request : Option Nat)
  /-- `GoogleSignin.signOut` in `deleteAccount`. -/
  | signingOut (user : FirebaseUser)
  /-- `user.delete()`, at first or after the user has signed in again. -/
  | removing (user : FirebaseUser) (again : Bool)
  | reauthenticating (user : FirebaseUser)
  /-- `clearAllUserData`, at first or once more. -/
  | wiping (again : Bool)
  /-- `AuthService.initialize`. -/
  | signingIn
  /-- `onAccountChange`, after the deletion or after its abort. -/
  | reloading

/-- What a call of `handleDeleteAccount` found. History. -/
structure Attempt where
  /-- The uploads issued before it suspended the writes. -/
  issued : Nat
  /-- The uploads issued by earlier processes. -/
  base : Nat
  /-- The drain ended because the writes had settled. -/
  inTime : Bool
  /-- The uploads to the document that the server had not answered after the drain. -/
  outstanding : List Nat

/-- An account whose deletion the program saw succeed. History. -/
structure Erasure where
  uid : Nat
  attempt : Attempt

structure System where
  service : CloudSyncService
  /-- The uploads of earlier processes come first. -/
  base : Nat
  uploads : List Upload
  deletes : List DeleteDoc
  docs : Nat → Option Document
  accounts : Nat → Bool
  nextUid : Nat
  /-- The deleted accounts that `onUserDeleted` has not served. -/
  triggers : List Nat
  user : Option FirebaseUser
  store : Key → Option String
  thread : Option Phase
  attempt : Attempt
  erasures : List Erasure

namespace System

variable (sys : System)

def unanswered (uid : Nat) : List Nat :=
  (List.range sys.uploads.length).filter fun i =>
    sys.uploads[i]?.any fun upload => upload.uid == uid && !upload.answered

def savePlayerData (playerData : PlayerData) (lastSavedAt : ℚ) : System :=
  let service := sys.service.savePlayerData (sys.user.map FirebaseUser.uid) playerData lastSavedAt
  let issued := service.setDocs.drop sys.service.setDocs.length
  { sys with
    service := service
    uploads := sys.uploads ++ issued.map fun write => ⟨write.uid, write.document, false⟩ }

/-- Nothing irreversible has happened: writes go on, and the player is loaded again. -/
def abortDeletion : System :=
  { sys with service := sys.service.resumeWrites, thread := some .reloading }

def handleDeleteAccount : System :=
  { sys with
    service := sys.service.handleDeleteAccount
    thread := some .draining
    attempt := ⟨sys.uploads.length, sys.base, false, []⟩ }

def deletePlayerData (service : CloudSyncService) (inTime : Bool) : System :=
  let drained := { sys with service := service }
  match sys.user with
  | none => { drained with
      thread := some (.deleting none)
      attempt := { sys.attempt with inTime := inTime } }
  | some user => { drained with
      deletes := sys.deletes ++ [⟨user.uid, none⟩]
      thread := some (.deleting (some sys.deletes.length))
      attempt := { sys.attempt with inTime := inTime, outstanding := sys.unanswered user.uid } }

def deleteAccount : System :=
  match sys.user with
  | none => sys.abortDeletion
  | some user =>
    { sys with thread := some (if user.isAnonymous then .removing user false else .signingOut user) }

/-- What becomes of a call of `user.delete()`. -/
inductive Removal where
  | success
  | requiresRecentLogin
  | failure
  /-- The account is gone, but the program gets an error. -/
  | lost
  deriving DecidableEq

def removeAccount (uid : Nat) : System :=
  { sys with
    accounts := Function.update sys.accounts uid false
    triggers := sys.triggers ++ [uid] }

def removed (user : FirebaseUser) (again : Bool) : Removal → System
  | .success =>
    { sys.removeAccount user.uid with
      user := none
      thread := some (.wiping false)
      erasures := sys.erasures ++ [⟨user.uid, sys.attempt⟩] }
  | .requiresRecentLogin =>
    if !again && !user.isAnonymous then { sys with thread := some (.reauthenticating user) }
    else sys.abortDeletion
  | .failure => sys.abortDeletion
  | .lost => (sys.removeAccount user.uid).abortDeletion

def canReauthenticate (user : FirebaseUser) (isIOS : Bool) : Bool :=
  match user.provider with
  | some .google => true
  | some .apple => isIOS
  | _ => false

def reauthenticated : System :=
  match sys.user with
  | none => sys.abortDeletion
  | some user => { sys with thread := some (.removing user true) }

def clearAllUserData : System :=
  { sys with store := fun key => if key ∈ userKeys then none else sys.store key }

def signInAnonymously : System :=
  { sys with
    user := some ⟨sys.nextUid, true, none⟩
    accounts := Function.update sys.accounts sys.nextUid true
    nextUid := sys.nextUid + 1 }

/-- After `AuthService.initialize`: it signs in only if nobody is, and swallows its failure. -/
def initialized (success : Bool) : System :=
  let signed := if sys.user.isNone && success then sys.signInAnonymously else sys
  { signed with service := signed.service.resumeWrites, thread := some .reloading }

/-- The server answers an upload: the rules admit it if it is newer than the document. -/
def answer (i : Nat) (upload : Upload) (admitted : Bool) : System :=
  { sys with
    uploads := sys.uploads.set i { upload with answered := true }
    docs := if admitted then
        Function.update sys.docs upload.uid
          (CloudSyncService.acceptWrite (sys.docs upload.uid) upload.document)
      else sys.docs }

def removeDoc (uid : Nat) : System := { sys with docs := Function.update sys.docs uid none }

def answerDelete (i : Nat) (request : DeleteDoc) (admitted : Bool) : System :=
  let answered := { sys with deletes := sys.deletes.set i { request with outcome := some admitted } }
  if admitted then answered.removeDoc request.uid else answered

/-- The process is killed and started again. The stores, the session and the uploads in flight outlive it. -/
def restart : System :=
  { sys with
    service := .new
    base := sys.uploads.length
    thread := none }

inductive Action where
  | savePlayerData (playerData : PlayerData) (lastSavedAt : ℚ)
  | settle (i : Nat) (success : Bool) (now : ℚ)
  | answer (i : Nat) (admitted : Bool)
  | answerDelete (i : Nat) (admitted : Bool)
  /-- Any other write to the store, or removal from it. -/
  | setItem (key : Key) (value : String)
  | removeItem (key : Key)
  /-- A sign-in with a credential. -/
  | signIn (user : FirebaseUser)
  | signOut
  /-- A call of `signInAnonymously` from before completes. -/
  | signedInAnonymously
  | handleDeleteAccount
  | drained (inTime : Bool)
  | docDeleted
  | docFailed
  | googleSignedOut
  | removed (outcome : Removal)
  | reauthenticated (isIOS success : Bool)
  | wiped (success : Bool)
  | initialized (success : Bool)
  | reloaded
  | onUserDeleted (i : Nat)
  | restart

def step (sys : System) : Action → Option System
  | .savePlayerData playerData lastSavedAt => some (sys.savePlayerData playerData lastSavedAt)
  | .settle i success now =>
    -- A write settles once the server has answered it.
    if sys.uploads[sys.base + i]?.any Upload.answered then
      (sys.service.step (.settle i success now)).map fun service => { sys with service := service }
    else none
  | .answer i admitted => match sys.uploads[i]? with
    | some ⟨uid, document, false⟩ => some (sys.answer i ⟨uid, document, false⟩ admitted)
    | _ => none
  | .answerDelete i admitted => match sys.deletes[i]? with
    | some ⟨uid, none⟩ => some (sys.answerDelete i ⟨uid, none⟩ admitted)
    | _ => none
  | .setItem key value => some { sys with store := Function.update sys.store key (some value) }
  | .removeItem key => some { sys with store := Function.update sys.store key none }
  -- The settings hide the account buttons while a deletion runs.
  | .signIn user => if sys.thread.isNone && sys.accounts user.uid then some { sys with user := some user } else none
  | .signOut => if sys.thread.isNone then some { sys with user := none } else none
  | .signedInAnonymously => if sys.user.isNone then some sys.signInAnonymously else none
  | .handleDeleteAccount => if sys.thread.isNone then some sys.handleDeleteAccount else none
  | .drained inTime => match sys.thread with
    | some .draining =>
      (sys.service.step (if inTime then .drainReturns 0 else .drainTimesOut 0)).map fun service =>
        sys.deletePlayerData service inTime
    | _ => none
  | .docDeleted => match sys.thread with
    | some (.deleting none) => some sys.deleteAccount
    | some (.deleting (some i)) =>
      if sys.deletes[i]?.any fun request => request.outcome == some true then some sys.deleteAccount else none
    | _ => none
  | .docFailed => match sys.thread with
    | some (.deleting (some _)) => some sys.abortDeletion
    | _ => none
  | .googleSignedOut => match sys.thread with
    | some (.signingOut user) => some { sys with thread := some (.removing user false) }
    | _ => none
  | .removed outcome => match sys.thread with
    | some (.removing user again) => some (sys.removed user again outcome)
    | _ => none
  | .reauthenticated isIOS success => match sys.thread with
    | some (.reauthenticating user) =>
      some (if success && canReauthenticate user isIOS then sys.reauthenticated else sys.abortDeletion)
    | _ => none
  | .wiped success => match sys.thread with
    | some (.wiping again) =>
      if success then some { sys.clearAllUserData with thread := some .signingIn }
      else some { sys with thread := some (if again then .signingIn else .wiping true) }
    | _ => none
  | .initialized success => match sys.thread with
    | some .signingIn => some (sys.initialized success)
    | _ => none
  | .reloaded => match sys.thread with
    | some .reloading => some { sys with thread := none }
    | _ => none
  | .onUserDeleted i => sys.triggers[i]?.map fun uid =>
      { sys.removeDoc uid with triggers := sys.triggers.eraseIdx i }
  | .restart => some sys.restart

def start (store : Key → Option String) : System where
  service := .new
  base := 0
  uploads := []
  deletes := []
  docs := fun _ => none
  accounts := fun _ => false
  nextUid := 0
  triggers := []
  user := none
  store := store
  thread := none
  attempt := ⟨0, 0, false, []⟩
  erasures := []

variable {sys next : System} {action : Action}

/-- Nothing was issued to the document since the attempt began; what the server has yet to answer was outstanding after
the drain, and after a drain in time it stems from earlier processes. -/
structure Closed (uploads : List Upload) (uid : Nat) (attempt : Attempt) : Prop where
  issued : ∀ (i : Nat) (upload : Upload), uploads[i]? = some upload → upload.uid = uid → i < attempt.issued
  confined : ∀ (i : Nat) (upload : Upload), uploads[i]? = some upload → upload.uid = uid → upload.answered = false →
    i ∈ attempt.outstanding
  early : attempt.inTime = true → ∀ i ∈ attempt.outstanding, i < attempt.base

/-- The document is gone, unless the server took an upload that was outstanding after the drain. -/
def Erased (uploads : List Upload) (docs : Nat → Option Document) (uid : Nat) (attempt : Attempt) : Prop :=
  docs uid = none ∨ ∃ i ∈ attempt.outstanding, ∃ upload, uploads[i]? = some upload ∧ upload.uid = uid ∧
    upload.answered = true ∧ docs uid = some upload.document

section Erasing

variable {uploads : List Upload} {docs : Nat → Option Document} {uid : Nat} {attempt : Attempt} {upload : Upload}
  {i : Nat}

theorem Closed.issue (closed : Closed uploads uid attempt) (other : upload.uid ≠ uid) :
    Closed (uploads ++ [upload]) uid attempt where
  issued j found here own := by
    rcases Tasks.found_of_concat here with old | ⟨_, rfl⟩
    · exact closed.issued j found old own
    · exact absurd own other
  confined j found here own waiting := by
    rcases Tasks.found_of_concat here with old | ⟨_, rfl⟩
    · exact closed.confined j found old own waiting
    · exact absurd own other
  early := closed.early

theorem Closed.answer (closed : Closed uploads uid attempt) (found : uploads[i]? = some upload) :
    Closed (uploads.set i { upload with answered := true }) uid attempt where
  issued j other here own := by
    rcases Tasks.found_of_set here with ⟨rfl, rfl⟩ | ⟨_, old⟩
    · exact closed.issued i upload found own
    · exact closed.issued j other old own
  confined j other here own waiting := by
    rcases Tasks.found_of_set here with ⟨_, rfl⟩ | ⟨_, old⟩
    · cases waiting
    · exact closed.confined j other old own waiting
  early := closed.early

theorem Erased.issue (erased : Erased uploads docs uid attempt) : Erased (uploads ++ [upload]) docs uid attempt := by
  rcases erased with gone | ⟨j, outstanding, late, found, own, answered, taken⟩
  · exact .inl gone
  · have inside := (List.getElem?_eq_some_iff.mp found).1
    exact .inr ⟨j, outstanding, late, (List.getElem?_append_left inside).trans found, own, answered, taken⟩

theorem Erased.answer {after : Nat → Option Document} (erased : Erased uploads docs uid attempt)
    (closed : Closed uploads uid attempt) (found : uploads[i]? = some upload) (waiting : upload.answered = false)
    (served : after uid = docs uid ∨ upload.uid = uid ∧ after uid = some upload.document) :
    Erased (uploads.set i { upload with answered := true }) after uid attempt := by
  have inside := (List.getElem?_eq_some_iff.mp found).1
  rcases served with same | ⟨own, taken⟩
  · rcases erased with gone | ⟨j, outstanding, late, here, mine, answered, held⟩
    · exact .inl (same.trans gone)
    · refine .inr ⟨j, outstanding, late, ?_, mine, answered, same.trans held⟩
      have apart : i ≠ j := by
        rintro rfl
        cases Option.some.inj (found.symm.trans here)
        cases waiting.symm.trans answered
      rw [List.getElem?_set_ne apart]
      exact here
  · exact .inr ⟨i, closed.confined i upload found own waiting, _, List.getElem?_set_self inside, own, rfl, taken⟩

theorem Erased.shrink {after : Nat → Option Document} (erased : Erased uploads docs uid attempt)
    (kept : ∀ other, after other = docs other ∨ after other = none) : Erased uploads after uid attempt := by
  rcases kept uid with same | removed
  · unfold Erased
    rw [same]
    exact erased
  · exact .inl removed

theorem docs_answer (sys : System) (i : Nat) (upload : Upload) (admitted : Bool) (uid : Nat) :
    (sys.answer i upload admitted).docs uid = sys.docs uid ∨
      upload.uid = uid ∧ (sys.answer i upload admitted).docs uid = some upload.document := by
  cases admitted with
  | false => exact .inl rfl
  | true =>
    by_cases own : uid = upload.uid
    · subst own
      have written : (sys.answer i upload true).docs upload.uid =
          CloudSyncService.acceptWrite (sys.docs upload.uid) upload.document := Function.update_self ..
      rw [written]
      exact (LastWrite.accept_eq_or _ _).imp_right fun taken => ⟨rfl, taken⟩
    · exact .inl (Function.update_of_ne own ..)

theorem removeDoc_docs (sys : System) (uid other : Nat) :
    (sys.removeDoc uid).docs other = sys.docs other ∨ (sys.removeDoc uid).docs other = none := by
  by_cases same : other = uid
  · subst same
    exact .inr (Function.update_self ..)
  · exact .inl (Function.update_of_ne same ..)

end Erasing

def target : Option Phase → Option FirebaseUser
  | some (.signingOut user) | some (.removing user _) | some (.reauthenticating user) => some user
  | _ => none

def suspends : Option Phase → Bool
  | none | some .reloading => false
  | _ => true

def Sealed (sys : System) (uid : Nat) : Prop :=
  Closed sys.uploads uid sys.attempt ∧ Erased sys.uploads sys.docs uid sys.attempt

structure Waits (sys : System) : Prop where
  suspended : sys.service.writesSuspended = suspends sys.thread
  drains : sys.thread ≠ some .draining → sys.service.drains = []
  draining : sys.thread = some .draining →
    (∃ drain, sys.service.drains = [drain] ∧ drain.deletes = true ∧ drain.resumed = false) ∧
      sys.attempt = ⟨sys.uploads.length, sys.base, false, []⟩
  unsigned : sys.thread = some (.deleting none) →
    sys.attempt.outstanding = [] ∧ ∀ user ∈ sys.user, sys.Sealed user.uid
  requested : ∀ i, sys.thread = some (.deleting (some i)) → ∃ user request, sys.user = some user ∧
    sys.deletes[i]? = some request ∧ request.uid = user.uid ∧ Closed sys.uploads user.uid sys.attempt ∧
      (request.outcome = some true → Erased sys.uploads sys.docs user.uid sys.attempt)
  removing : ∀ user, target sys.thread = some user → sys.user = some user ∧ sys.Sealed user.uid
  wiping : ∀ again, sys.thread = some (.wiping again) → sys.erasures ≠ []

/-- The account is gone, is nobody's here, and its document is being kept away. -/
structure Gone (sys : System) (erasure : Erasure) : Prop where
  known : erasure.uid < sys.nextUid
  account : sys.accounts erasure.uid = false
  user : ∀ user ∈ sys.user, user.uid ≠ erasure.uid
  closed : Closed sys.uploads erasure.uid erasure.attempt
  erased : Erased sys.uploads sys.docs erasure.uid erasure.attempt

structure Inv (sys : System) : Prop where
  tracked : sys.service.Tracked
  length : sys.uploads.length = sys.base + sys.service.setDocs.length
  settled : ∀ i upload, sys.service.settled i = true → sys.uploads[sys.base + i]? = some upload →
    upload.answered = true
  uploads : ∀ upload ∈ sys.uploads, upload.uid < sys.nextUid
  users : ∀ user ∈ sys.user, user.uid < sys.nextUid
  docs : ∀ uid, sys.docs uid ≠ none → uid < sys.nextUid
  accounts : ∀ uid, sys.accounts uid = true → uid < sys.nextUid
  waits : sys.Waits
  gone : ∀ erasure ∈ sys.erasures, sys.Gone erasure

theorem waits_idle (running : sys.service.writesSuspended = false) (drained : sys.service.drains = [])
    (idle : sys.thread = none ∨ sys.thread = some .reloading) : sys.Waits := by
  rcases idle with idle | idle <;>
    exact ⟨by rw [idle, running]; rfl, fun _ => drained, by rw [idle]; nofun, by rw [idle]; nofun,
      by rw [idle]; nofun, by rw [idle]; nofun, by rw [idle]; nofun⟩

theorem Inv.start (store : Key → Option String) : (start store).Inv where
  tracked := .new
  length := rfl
  settled _ _ _ found := by cases found
  uploads _ member := by cases member
  users _ signed := by cases signed
  docs _ present := absurd rfl present
  accounts _ registered := by cases registered
  waits := waits_idle rfl rfl (.inl rfl)
  gone _ member := by cases member

theorem Inv.serve (inv : sys.Inv) {service : CloudSyncService} {uploads : List Upload} {docs : Nat → Option Document}
    {deletes : List DeleteDoc} (tracked : service.Tracked)
    (suspended : service.writesSuspended = sys.service.writesSuspended) (drains : service.drains = sys.service.drains)
    (writes : service.setDocs.length = sys.service.setDocs.length) (length : uploads.length = sys.uploads.length)
    (settled : ∀ i upload, service.settled i = true → uploads[sys.base + i]? = some upload → upload.answered = true)
    (known : ∀ upload ∈ uploads, upload.uid < sys.nextUid) (stored : ∀ uid, docs uid ≠ none → uid < sys.nextUid)
    (closes : ∀ uid attempt, Closed sys.uploads uid attempt → Closed uploads uid attempt)
    (erases : ∀ uid attempt, Closed sys.uploads uid attempt → Erased sys.uploads sys.docs uid attempt →
      Erased uploads docs uid attempt)
    (answers : ∀ (i : Nat) (request : DeleteDoc), sys.deletes[i]? = some request → ∃ answered,
      deletes[i]? = some answered ∧ answered.uid = request.uid ∧
        (answered.outcome = some true → request.outcome = some true ∨ docs request.uid = none)) :
    ({ sys with service := service, uploads := uploads, docs := docs, deletes := deletes } : System).Inv := by
  have keeps {uid : Nat} (kept : sys.Sealed uid) : Closed uploads uid sys.attempt ∧ Erased uploads docs uid sys.attempt :=
    ⟨closes uid _ kept.1, erases uid _ kept.1 kept.2⟩
  refine { inv with
    tracked := tracked
    length := length.trans (inv.length.trans (by rw [← writes]))
    settled := settled
    uploads := known
    docs := stored
    waits := ⟨suspended.trans inv.waits.suspended, fun other => drains.trans (inv.waits.drains other),
      fun waits => ?_, fun waits => ?_, fun i waits => ?_, fun user removing => ?_, inv.waits.wiping⟩
    gone := fun erasure member => ?_ }
  · show (∃ drain, service.drains = [drain] ∧ _) ∧ sys.attempt = ⟨uploads.length, sys.base, false, []⟩
    rw [drains, length]
    exact inv.waits.draining waits
  · obtain ⟨clean, kept⟩ := inv.waits.unsigned waits
    exact ⟨clean, fun user signed => keeps (kept user signed)⟩
  · obtain ⟨user, request, signed, found, own, closed, erased⟩ := inv.waits.requested i waits
    obtain ⟨answered, here, same, admitted⟩ := answers i request found
    refine ⟨user, answered, signed, here, same.trans own, closes _ _ closed, fun applied => ?_⟩
    rcases admitted applied with before | gone
    · exact erases _ _ closed (erased before)
    · exact .inl (own ▸ gone)
  · obtain ⟨signed, kept⟩ := inv.waits.removing user removing
    exact ⟨signed, keeps kept⟩
  · have gone := inv.gone erasure member
    exact ⟨gone.known, gone.account, gone.user, closes _ _ gone.closed, erases _ _ gone.closed gone.erased⟩

theorem Inv.settle (inv : sys.Inv) {i : Nat} {write : SetDoc} (success : Bool) (now : ℚ)
    (found : sys.service.setDocs[i]? = some write) (pending : write.outcome = none)
    (answered : sys.uploads[sys.base + i]?.any Upload.answered = true) :
    ({ sys with service := sys.service.settle i write success now } : System).Inv := by
  refine inv.serve (inv.tracked.settle success now found pending) rfl rfl List.length_set rfl ?_ inv.uploads inv.docs
    (fun _ _ => id) (fun _ _ _ => id) fun _ request here => ⟨request, here, rfl, .inl⟩
  intro j upload done here
  by_cases same : j = i
  · subst same
    obtain ⟨other, there, settled⟩ := (Option.any_eq_true _ _).mp answered
    rwa [Option.some.inj (here.symm.trans there)]
  · refine inv.settled j upload ?_ here
    unfold CloudSyncService.settled at done ⊢
    rwa [CloudSyncService.settle, List.getElem?_set_ne (Ne.symm same)] at done

theorem Inv.answer (inv : sys.Inv) {i : Nat} {upload : Upload} (admitted : Bool)
    (found : sys.uploads[i]? = some upload) (waiting : upload.answered = false) : (sys.answer i upload admitted).Inv := by
  have served := sys.docs_answer i upload admitted
  have known : upload.uid < sys.nextUid := inv.uploads upload (List.mem_of_getElem? found)
  refine inv.serve inv.tracked rfl rfl rfl List.length_set ?_ ?_ ?_ (fun _ _ closed => closed.answer found)
    (fun uid _ closed erased => erased.answer closed found waiting (served uid)) fun _ request here =>
      ⟨request, here, rfl, .inl⟩
  · intro j other done here
    rcases Tasks.found_of_set here with ⟨_, rfl⟩ | ⟨_, old⟩
    · rfl
    · exact inv.settled j other done old
  · intro other member
    rcases List.mem_or_eq_of_mem_set member with old | rfl
    · exact inv.uploads other old
    · exact known
  · intro uid present
    rcases served uid with same | ⟨own, _⟩
    · exact inv.docs uid (same ▸ present)
    · exact own ▸ known

theorem Inv.removeDoc (inv : sys.Inv) (uid : Nat) {deletes : List DeleteDoc}
    (answers : ∀ (i : Nat) (request : DeleteDoc), sys.deletes[i]? = some request → ∃ answered,
      deletes[i]? = some answered ∧ answered.uid = request.uid ∧
        (answered.outcome = some true → request.outcome = some true ∨ (sys.removeDoc uid).docs request.uid = none)) :
    ({ sys.removeDoc uid with deletes := deletes } : System).Inv := by
  refine inv.serve inv.tracked rfl rfl rfl rfl inv.settled inv.uploads (fun other present => ?_) (fun _ _ => id)
    (fun _ _ _ erased => erased.shrink (sys.removeDoc_docs uid)) answers
  rcases sys.removeDoc_docs uid other with same | gone
  · exact inv.docs other (same ▸ present)
  · exact absurd gone present

theorem Inv.answerDelete (inv : sys.Inv) {i : Nat} {request : DeleteDoc} (admitted : Bool)
    (found : sys.deletes[i]? = some request) : (sys.answerDelete i request admitted).Inv := by
  have inside := (List.getElem?_eq_some_iff.mp found).1
  have answers {docs : Nat → Option Document} (applied : admitted = true → docs request.uid = none) (j : Nat)
      (other : DeleteDoc) (here : sys.deletes[j]? = some other) : ∃ answered,
      (sys.deletes.set i { request with outcome := some admitted })[j]? = some answered ∧ answered.uid = other.uid ∧
        (answered.outcome = some true → other.outcome = some true ∨ docs other.uid = none) := by
    by_cases same : i = j
    · subst same
      cases Option.some.inj (found.symm.trans here)
      exact ⟨_, List.getElem?_set_self inside, rfl, fun done => .inr (applied (Option.some.inj done))⟩
    · exact ⟨other, (List.getElem?_set_ne same).trans here, rfl, .inl⟩
  cases admitted with
  | false =>
    exact inv.serve inv.tracked rfl rfl rfl rfl inv.settled inv.uploads inv.docs (fun _ _ => id) (fun _ _ _ => id)
      (answers nofun)
  | true => exact inv.removeDoc request.uid (answers fun _ => Function.update_self ..)

theorem Inv.issue (inv : sys.Inv) {user : FirebaseUser} (playerData : PlayerData) (lastSavedAt : ℚ)
    (signed : sys.user = some user) (running : sys.service.writesSuspended = false) (document : Document) :
    ({ sys with
      service := sys.service.issue user.uid playerData lastSavedAt
      uploads := sys.uploads ++ [⟨user.uid, document, false⟩] } : System).Inv := by
  have idle : sys.thread = none ∨ sys.thread = some .reloading := by
    have open_ := running.symm.trans inv.waits.suspended
    unfold suspends at open_
    split at open_
    · exact .inl ‹_›
    · exact .inr ‹_›
    · cases open_
  have drained : sys.service.drains = [] :=
    inv.waits.drains fun draining => by rcases idle with idle | idle <;> cases idle.symm.trans draining
  refine { inv with
    tracked := inv.tracked.issue running _ _ _
    length := ?_
    settled := ?_
    uploads := Tasks.forall_mem_concat inv.uploads (inv.users user signed)
    waits := waits_idle running drained idle
    gone := fun erasure member => ?_ }
  · show (sys.uploads ++ [_]).length = sys.base + (sys.service.setDocs ++ [_]).length
    rw [List.length_append, List.length_append, inv.length]
    rfl
  · intro i upload done here
    rcases Tasks.found_of_concat here with old | ⟨last, rfl⟩
    · refine inv.settled i upload ?_ old
      have inside : sys.base + i < sys.uploads.length := (List.getElem?_eq_some_iff.mp old).1
      rw [inv.length] at inside
      unfold CloudSyncService.settled at done ⊢
      rwa [CloudSyncService.issue, List.getElem?_append_left (by omega)] at done
    · -- The new write has not settled.
      have new : i = sys.service.setDocs.length :=
        Nat.add_left_cancel (Eq.trans (by exact last) inv.length)
      subst new
      unfold CloudSyncService.settled at done
      rw [CloudSyncService.issue, List.getElem?_concat_length] at done
      cases done
  · have gone := inv.gone erasure member
    exact ⟨gone.known, gone.account, gone.user, gone.closed.issue (gone.user user signed), gone.erased.issue⟩

theorem Inv.sealed_fresh (inv : sys.Inv) (clean : sys.attempt.outstanding = []) : sys.Sealed sys.nextUid := by
  have other (i : Nat) (upload : Upload) (found : sys.uploads[i]? = some upload) : upload.uid ≠ sys.nextUid :=
    (inv.uploads upload (List.mem_of_getElem? found)).ne
  refine ⟨⟨fun i upload found own => absurd own (other i upload found),
    fun i upload found own => absurd own (other i upload found), fun _ i outstanding => ?_⟩, .inl ?_⟩
  · rw [clean] at outstanding
    cases outstanding
  · by_contra present
    exact absurd (inv.docs _ present) (lt_irrefl _)

theorem Inv.create (inv : sys.Inv) (nobody : sys.user = none) : sys.signInAnonymously.Inv := by
  have later {uid : Nat} (known : uid < sys.nextUid) : uid < sys.nextUid + 1 := Nat.lt_succ_of_lt known
  refine { inv with
    uploads := fun upload member => later (inv.uploads upload member)
    users := fun user signed => ?_
    docs := fun uid present => later (inv.docs uid present)
    accounts := fun uid registered => ?_
    waits := { inv.waits with
      unsigned := fun waits => ⟨(inv.waits.unsigned waits).1, fun user signed => ?_⟩
      requested := fun i waits => ?_
      removing := fun user removing => ?_ }
    gone := fun erasure member => ?_ }
  · cases Option.some.inj signed
    exact Nat.lt_succ_self _
  · by_cases new : uid = sys.nextUid
    · exact new ▸ Nat.lt_succ_self _
    · exact later (inv.accounts uid ((Function.update_of_ne new ..).symm.trans registered))
  · cases Option.some.inj signed
    exact inv.sealed_fresh (inv.waits.unsigned waits).1
  · obtain ⟨_, _, signed, _⟩ := inv.waits.requested i waits
    cases nobody.symm.trans signed
  · cases nobody.symm.trans (inv.waits.removing user removing).1
  · have gone := inv.gone erasure member
    refine ⟨later gone.known, ?_, fun user signed => ?_, gone.closed, gone.erased⟩
    · exact (Function.update_of_ne gone.known.ne ..).trans gone.account
    · cases Option.some.inj signed
      exact gone.known.ne'

theorem Inv.changeUser (inv : sys.Inv) (idle : sys.thread = none) (user : Option FirebaseUser)
    (registered : ∀ signed ∈ user, sys.accounts signed.uid = true) : ({ sys with user := user } : System).Inv := by
  have running : sys.service.writesSuspended = false := by rw [inv.waits.suspended, idle]; rfl
  refine { inv with
    users := fun signed member => inv.accounts _ (registered signed member)
    waits := waits_idle running (inv.waits.drains (by rw [idle]; nofun)) (.inl idle)
    gone := fun erasure member => ?_ }
  have gone := inv.gone erasure member
  refine ⟨gone.known, gone.account, fun signed here same => ?_, gone.closed, gone.erased⟩
  have present := registered signed here
  rw [same, gone.account] at present
  cases present

theorem Inv.move (inv : sys.Inv) {service : CloudSyncService} (tracked : service.Tracked)
    (writes : service.setDocs = sys.service.setDocs) {deletes : List DeleteDoc} {thread : Option Phase}
    {attempt : Attempt}
    (waits : Waits { sys with service := service, deletes := deletes, thread := thread, attempt := attempt }) :
    ({ sys with service := service, deletes := deletes, thread := thread, attempt := attempt } : System).Inv := by
  refine { inv with tracked := tracked, length := ?_, settled := fun i upload done here => ?_, waits := waits, gone := ?_ }
  · show sys.uploads.length = sys.base + service.setDocs.length
    rw [writes]
    exact inv.length
  · refine inv.settled i upload ?_ here
    unfold CloudSyncService.settled at done ⊢
    rwa [writes] at done
  · intro erasure member
    have gone := inv.gone erasure member
    exact ⟨gone.known, gone.account, gone.user, gone.closed, gone.erased⟩

theorem Inv.begin (inv : sys.Inv) (idle : sys.thread = none) : sys.handleDeleteAccount.Inv := by
  have only : sys.service.handleDeleteAccount.drains =
      [⟨sys.service.pendingWrite, sys.service.setDocs.length, true, false⟩] := by
    show sys.service.drains ++ [_] = _
    rw [inv.waits.drains (by rw [idle]; nofun)]
    rfl
  exact inv.move (inv.tracked.suspend.drain fun _ => rfl) rfl ⟨rfl, fun other => absurd rfl other,
    fun _ => ⟨⟨_, only, rfl, rfl⟩, rfl⟩, nofun, nofun, nofun, nofun⟩

theorem Inv.answered_of_drained (inv : sys.Inv) (waits : sys.thread = some .draining) {service : CloudSyncService}
    (returned : sys.service.step (.drainReturns 0) = some service) {i : Nat} {upload : Upload}
    (found : sys.uploads[i]? = some upload) (own : sys.base ≤ i) : upload.answered = true := by
  obtain ⟨⟨drain, only, deletes, kept⟩, _⟩ := inv.waits.draining waits
  have here : sys.service.drains[0]? = some drain := by rw [only]; rfl
  have member : drain ∈ sys.service.drains := List.mem_of_getElem? here
  have resolved := CloudSyncService.isResolved_of_drainReturns here returned
  have inside : i < sys.base + sys.service.setDocs.length := inv.length ▸ (List.getElem?_eq_some_iff.mp found).1
  have issued : i - sys.base < drain.issuedBefore := by
    rw [(inv.tracked.stopped drain member deletes kept).2]
    omega
  refine inv.settled (i - sys.base) upload ?_ ?_
  · exact CloudSyncService.mem_writes_of_isResolved resolved (inv.tracked.covered drain member _ issued)
  · rwa [Nat.add_sub_cancel' own]

theorem mem_unanswered {uid i : Nat} : i ∈ sys.unanswered uid ↔
    ∃ upload, sys.uploads[i]? = some upload ∧ upload.uid = uid ∧ upload.answered = false := by
  unfold unanswered
  rw [List.mem_filter, Option.any_eq_true]
  constructor
  · rintro ⟨_, upload, found, flags⟩
    rw [Bool.and_eq_true, beq_iff_eq, Bool.not_eq_true'] at flags
    exact ⟨upload, found, flags.1, flags.2⟩
  · rintro ⟨upload, found, own, waiting⟩
    refine ⟨List.mem_range.mpr (List.getElem?_eq_some_iff.mp found).1, upload, found, ?_⟩
    rw [own, waiting]
    simp

theorem Inv.drain (inv : sys.Inv) (inTime : Bool) {service : CloudSyncService}
    (waits : sys.thread = some .draining)
    (ended : sys.service.step (if inTime then .drainReturns 0 else .drainTimesOut 0) = some service) :
    (sys.deletePlayerData service inTime).Inv := by
  obtain ⟨⟨drain, only, _⟩, attempt⟩ := inv.waits.draining waits
  have same : service = { sys.service with drains := sys.service.drains.eraseIdx 0 } := by
    cases inTime <;> cases CloudSyncService.does_of_step ended <;> rfl
  have suspended : service.writesSuspended = true := by
    rw [same, show sys.service.writesSuspended = _ from inv.waits.suspended, waits]
    rfl
  have drained : service.drains = [] := by
    rw [same, only]
    rfl
  have tracked : service.Tracked := inv.tracked.step ended
  have writes : service.setDocs = sys.service.setDocs := by rw [same]
  unfold deletePlayerData
  cases signed : sys.user with
  | none =>
    dsimp only
    rw [← signed]
    refine inv.move tracked writes ⟨suspended, fun _ => drained, nofun, fun _ => ⟨?_, fun user here => ?_⟩, nofun,
      nofun, nofun⟩
    · rw [attempt]
    · cases signed.symm.trans here
  | some user =>
    dsimp only
    rw [← signed]
    refine inv.move tracked writes ⟨suspended, fun _ => drained, nofun, nofun, fun i here => ?_, nofun, nofun⟩
    cases here
    refine ⟨user, _, signed, List.getElem?_concat_length, rfl, ⟨fun i upload found _ => ?_, fun i upload found own
      waiting => mem_unanswered.mpr ⟨upload, found, own, waiting⟩, fun timely i outstanding => ?_⟩, nofun⟩
    · rw [attempt]
      exact (List.getElem?_eq_some_iff.mp found).1
    · rw [attempt]
      obtain ⟨upload, found, _, waiting⟩ := mem_unanswered.mp outstanding
      by_contra own
      have timely : inTime = true := timely
      subst timely
      cases waiting.symm.trans (inv.answered_of_drained waits ended found (not_lt.mp own))

theorem Inv.proceed (inv : sys.Inv) {phase next : Phase} (waits : sys.thread = some phase) (past : phase ≠ .draining)
    (suspended : suspends (some phase) = suspends (some next))
    (removing : ∀ user, target (some next) = some user → sys.user = some user ∧ sys.Sealed user.uid)
    (wiping : ∀ again, next = .wiping again → sys.erasures ≠ [])
    (later : next ≠ .draining ∧ ∀ request, next ≠ .deleting request) :
    ({ sys with thread := some next } : System).Inv := by
  have other : sys.thread ≠ some .draining := by
    rw [waits]
    exact fun same => past (Option.some.inj same)
  refine inv.move inv.tracked rfl ⟨?_, fun _ => inv.waits.drains other, ?_, ?_, ?_, removing, fun again same => ?_⟩
  · rw [inv.waits.suspended, waits]
    exact suspended
  · exact fun same => absurd (Option.some.inj same) later.1
  · exact fun same => absurd (Option.some.inj same) (later.2 none)
  · exact fun i same => absurd (Option.some.inj same) (later.2 (some i))
  · exact wiping again (Option.some.inj same)

theorem Inv.abort (inv : sys.Inv) (past : sys.thread ≠ some .draining) : sys.abortDeletion.Inv := by
  have idle : sys.service.resumeWrites.drains = [] := by
    show sys.service.drains.map _ = []
    rw [inv.waits.drains past]
    rfl
  exact inv.move inv.tracked.resume rfl (waits_idle rfl idle (.inr rfl))

theorem Inv.deleteAccount (inv : sys.Inv) {request : Option Nat} (waits : sys.thread = some (.deleting request))
    (admitted : ∀ i, request = some i → ∃ delete, sys.deletes[i]? = some delete ∧ delete.outcome = some true) :
    sys.deleteAccount.Inv := by
  have erased : ∀ user ∈ sys.user, sys.Sealed user.uid := by
    cases request with
    | none => exact (inv.waits.unsigned waits).2
    | some i =>
      obtain ⟨user, delete, signed, found, _, closed, erased⟩ := inv.waits.requested i waits
      obtain ⟨same, here, done⟩ := admitted i rfl
      cases Option.some.inj (found.symm.trans here)
      intro other member
      cases Option.some.inj (signed.symm.trans member)
      exact ⟨closed, erased done⟩
  unfold System.deleteAccount
  cases signed : sys.user with
  | none => exact inv.abort (by rw [waits]; nofun)
  | some user =>
    dsimp only
    rw [← signed]
    cases user.isAnonymous <;>
      exact inv.proceed waits nofun rfl (fun other same => by cases same; exact ⟨signed, erased user signed⟩) nofun
        ⟨nofun, nofun⟩

theorem accounts_removeAccount {uid other : Nat} (present : (sys.removeAccount uid).accounts other = true) :
    sys.accounts other = true := by
  by_cases same : other = uid
  · subst same
    cases (Function.update_self ..).symm.trans present
  · exact (Function.update_of_ne same ..).symm.trans present

theorem Inv.removeAccount (inv : sys.Inv) (uid : Nat) : (sys.removeAccount uid).Inv := by
  refine { inv with
    accounts := fun other present => inv.accounts other (accounts_removeAccount present)
    waits := { inv.waits with }
    gone := fun erasure member => ?_ }
  have gone := inv.gone erasure member
  refine ⟨gone.known, ?_, gone.user, gone.closed, gone.erased⟩
  by_contra present
  cases gone.account.symm.trans (accounts_removeAccount (Bool.eq_true_of_not_eq_false present))

theorem Inv.remove (inv : sys.Inv) {user : FirebaseUser} {again : Bool}
    (waits : sys.thread = some (.removing user again)) : (sys.removed user again .success).Inv := by
  obtain ⟨signed, closed, erased⟩ := inv.waits.removing user (by rw [waits]; rfl)
  have removed := inv.removeAccount user.uid
  have suspended : sys.service.writesSuspended = true := by rw [inv.waits.suspended, waits]; rfl
  have some : sys.erasures ++ [⟨user.uid, sys.attempt⟩] ≠ [] :=
    List.append_ne_nil_of_right_ne_nil _ (List.cons_ne_nil _ _)
  refine { removed with
    users := nofun
    waits := ⟨suspended, fun _ => inv.waits.drains (by rw [waits]; nofun), nofun, nofun, nofun, nofun, fun _ _ => some⟩
    gone := ?_ }
  · refine Tasks.forall_mem_concat (fun erasure member => ?_) ?_
    · have gone := removed.gone erasure member
      exact ⟨gone.known, gone.account, nofun, gone.closed, gone.erased⟩
    · exact ⟨inv.users user signed, Function.update_self .., nofun, closed, erased⟩

theorem Inv.wipe (inv : sys.Inv) {again : Bool} (waits : sys.thread = some (.wiping again)) :
    ({ sys.clearAllUserData with thread := some .signingIn } : System).Inv := by
  have moved : ({ sys with thread := some .signingIn } : System).Inv :=
    inv.proceed waits nofun rfl nofun nofun ⟨nofun, nofun⟩
  exact { moved with
    waits := { moved.waits with }
    gone := fun erasure member => { moved.gone erasure member with } }

theorem Inv.restart (inv : sys.Inv) : sys.restart.Inv :=
  { inv with
    tracked := .new
    length := rfl
    settled := fun _ _ done => by cases done
    waits := waits_idle rfl rfl (.inl rfl)
    gone := fun erasure member => { inv.gone erasure member with } }

theorem Inv.initialized (inv : sys.Inv) (waits : sys.thread = some .signingIn) (success : Bool) :
    (sys.initialized success).Inv := by
  have past : sys.thread ≠ some .draining := by rw [waits]; nofun
  unfold System.initialized
  dsimp only
  split
  · rename_i created
    have nobody : sys.user = none := Option.isNone_iff_eq_none.mp (Bool.and_eq_true_iff.mp created).1
    exact (inv.create nobody).abort past
  · exact inv.abort past

theorem Inv.savePlayerData (inv : sys.Inv) (playerData : PlayerData) (lastSavedAt : ℚ) :
    (sys.savePlayerData playerData lastSavedAt).Inv := by
  have same (refused : sys.service.savePlayerData (sys.user.map FirebaseUser.uid) playerData lastSavedAt =
      sys.service) : sys.savePlayerData playerData lastSavedAt = sys := by
    unfold System.savePlayerData
    rw [refused]
    simp
  cases suspended : sys.service.writesSuspended with
  | true => rwa [same (by unfold CloudSyncService.savePlayerData; rw [suspended]; rfl)]
  | false =>
    cases signed : sys.user with
    | none => rwa [same (by unfold CloudSyncService.savePlayerData; rw [suspended, signed]; rfl)]
    | some user =>
      have issued : sys.service.savePlayerData (sys.user.map FirebaseUser.uid) playerData lastSavedAt =
          sys.service.issue user.uid playerData lastSavedAt := by
        unfold CloudSyncService.savePlayerData
        rw [suspended, signed]
        rfl
      have grown : (sys.service.issue user.uid playerData lastSavedAt).setDocs.drop sys.service.setDocs.length =
          [⟨user.uid, playerData, LastWrite.nextStamp sys.service.lastSyncTimestamp lastSavedAt, none⟩] := List.drop_left
      unfold System.savePlayerData
      rw [issued]
      dsimp only
      rw [grown]
      exact inv.issue playerData lastSavedAt signed suspended _

theorem Inv.write (inv : sys.Inv) (store : Key → Option String) : ({ sys with store := store } : System).Inv :=
  { inv with
    waits := { inv.waits with }
    gone := fun erasure member => { inv.gone erasure member with } }

theorem Inv.retarget (inv : sys.Inv) {phase next : Phase} {user : FirebaseUser}
    (waits : sys.thread = some phase) (before : target (some phase) = some user)
    (after : target (some next) = some user) : ({ sys with thread := some next } : System).Inv := by
  have kept := inv.waits.removing user (by rw [waits]; exact before)
  cases phase <;> cases before <;> cases next <;> cases after <;>
    exact inv.proceed waits nofun rfl (fun other same => by cases same; exact kept) nofun ⟨nofun, nofun⟩

theorem Inv.removed (inv : sys.Inv) {user : FirebaseUser} {again : Bool}
    (waits : sys.thread = some (.removing user again)) (outcome : Removal) :
    (sys.removed user again outcome).Inv := by
  have past : sys.thread ≠ some .draining := by rw [waits]; nofun
  cases outcome with
  | success => exact inv.remove waits
  | failure => exact inv.abort past
  | lost => exact (inv.removeAccount user.uid).abort past
  | requiresRecentLogin =>
    unfold System.removed
    dsimp only
    split
    · exact inv.retarget waits rfl rfl
    · exact inv.abort past

theorem Inv.reauthenticated (inv : sys.Inv) {user : FirebaseUser}
    (waits : sys.thread = some (.reauthenticating user)) : sys.reauthenticated.Inv := by
  have signed := (inv.waits.removing user (by rw [waits]; rfl)).1
  unfold System.reauthenticated
  rw [signed]
  dsimp only
  rw [← signed]
  exact inv.retarget waits rfl rfl

theorem Inv.step (inv : sys.Inv) (taken : sys.step action = some next) : next.Inv := by
  revert taken
  fun_cases System.step sys action <;> intro taken <;> try cases taken
  next playerData lastSavedAt => exact inv.savePlayerData playerData lastSavedAt
  next i success now answered =>
    obtain ⟨service, settled, rfl⟩ := Option.map_eq_some_iff.mp taken
    cases CloudSyncService.does_of_step settled with
    | settled found pending => exact inv.settle success now found pending answered
  next i admitted uid document found => exact inv.answer admitted found rfl
  next i admitted uid found => exact inv.answerDelete admitted found
  next key value => exact inv.write _
  next key => exact inv.write _
  next user allowed =>
    rw [Bool.and_eq_true, Option.isNone_iff_eq_none] at allowed
    refine inv.changeUser allowed.1 (some user) fun signed member => ?_
    cases Option.some.inj member
    exact allowed.2
  next idle => exact inv.changeUser (Option.isNone_iff_eq_none.mp idle) none nofun
  next nobody => exact inv.create (Option.isNone_iff_eq_none.mp nobody)
  next idle => exact inv.begin (Option.isNone_iff_eq_none.mp idle)
  next inTime waits =>
    obtain ⟨service, ended, rfl⟩ := Option.map_eq_some_iff.mp taken
    exact inv.drain inTime waits ended
  next waits => exact inv.deleteAccount waits nofun
  next i waits answered =>
    obtain ⟨delete, found, admitted⟩ := (Option.any_eq_true _ _).mp answered
    refine inv.deleteAccount waits fun j same => ?_
    cases Option.some.inj same
    exact ⟨delete, found, eq_of_beq admitted⟩
  next waits => exact inv.abort (by rw [waits]; nofun)
  next waits => exact inv.retarget waits rfl rfl
  next outcome user again waits => exact inv.removed waits outcome
  next isIOS success user waits =>
    split
    · exact inv.reauthenticated waits
    · exact inv.abort (by rw [waits]; nofun)
  next waits => exact inv.wipe waits
  next success again waits _ =>
    cases again with
    | true => exact inv.proceed waits nofun rfl nofun nofun ⟨nofun, nofun⟩
    | false => exact inv.proceed waits nofun rfl nofun (fun _ _ => inv.waits.wiping false waits) ⟨nofun, nofun⟩
  next success waits => exact inv.initialized waits success
  next waits =>
    have running : sys.service.writesSuspended = false := by rw [inv.waits.suspended, waits]; rfl
    exact inv.move inv.tracked rfl (waits_idle running (inv.waits.drains (by rw [waits]; nofun)) (.inl rfl))
  next i =>
    obtain ⟨uid, _, rfl⟩ := Option.map_eq_some_iff.mp taken
    have removed : (sys.removeDoc uid).Inv :=
      inv.removeDoc uid fun _ request here => ⟨request, here, rfl, .inl⟩
    exact { removed with
      waits := { removed.waits with }
      gone := fun erasure member => { removed.gone erasure member with } }
  next => exact inv.restart

def Calm (sys : System) : Prop := ∀ again, sys.thread ≠ some (.wiping again)

/-- The accounts seen to be deleted only grow. While they do not, keys leave the store only by other code. -/
def Spares (sys : System) (removed : Key → Prop) (next : System) : Prop :=
  sys.erasures.length ≤ next.erasures.length ∧ (next.erasures.length = sys.erasures.length → sys.Calm →
    next.Calm ∧ ∀ key, ¬removed key → sys.store key ≠ none → next.store key ≠ none)

section Sparing

variable {removed : Key → Prop}

theorem Spares.of_store_eq (erasures : next.erasures = sys.erasures) (store : next.store = sys.store)
    (calm : sys.Calm → next.Calm) : sys.Spares removed next :=
  ⟨erasures ▸ le_rfl, fun _ before => ⟨calm before, fun _ _ present => store ▸ present⟩⟩

theorem Spares.of_wiping {again : Bool} (waits : sys.thread = some (.wiping again))
    (erasures : next.erasures = sys.erasures) : sys.Spares removed next :=
  ⟨erasures ▸ le_rfl, fun _ calm => absurd waits (calm again)⟩

theorem Spares.update {key : Key} {value : Option String} (lost : value = none → removed key) :
    sys.Spares removed { sys with store := Function.update sys.store key value } := by
  refine ⟨le_rfl, fun _ calm => ⟨calm, fun other kept present => ?_⟩⟩
  show Function.update sys.store key value other ≠ none
  by_cases same : other = key
  · subst same
    rw [Function.update_self]
    exact fun absent => kept (lost absent)
  · rwa [Function.update_of_ne same]

theorem Spares.trans {middle : System} {more : Key → Prop} (first : sys.Spares removed middle)
    (second : middle.Spares more next) : sys.Spares (fun key => removed key ∨ more key) next := by
  refine ⟨first.1.trans second.1, fun same calm => ?_⟩
  obtain ⟨calmMiddle, keptMiddle⟩ := first.2 (le_antisymm (same ▸ second.1) first.1) calm
  obtain ⟨calmNext, keptNext⟩ := second.2 (le_antisymm (same ▸ first.1) second.1) calmMiddle
  exact ⟨calmNext, fun key kept present =>
    keptNext key (fun lost => kept (.inr lost)) (keptMiddle key (fun lost => kept (.inl lost)) present)⟩

theorem spares_deleteAccount : sys.Spares removed sys.deleteAccount := by
  unfold System.deleteAccount
  split
  · exact .of_store_eq rfl rfl fun _ => nofun
  · refine .of_store_eq rfl rfl fun _ => ?_
    unfold Calm
    dsimp only
    split <;> nofun

theorem spares_removed (user : FirebaseUser) (again : Bool) (outcome : Removal) :
    sys.Spares removed (sys.removed user again outcome) := by
  cases outcome with
  | success =>
    refine ⟨?_, fun same => ?_⟩ <;> simp [System.removed] at *
  | failure => exact .of_store_eq rfl rfl fun _ => nofun
  | lost => exact .of_store_eq rfl rfl fun _ => nofun
  | requiresRecentLogin =>
    unfold System.removed
    dsimp only
    split <;> exact .of_store_eq rfl rfl fun _ => nofun

theorem spares_of_step (taken : sys.step action = some next) :
    sys.Spares (fun key => action = .removeItem key) next := by
  revert taken
  fun_cases System.step sys action <;> intro taken <;> try cases taken
  next => exact .of_store_eq rfl rfl id
  next i success now answered =>
    obtain ⟨service, _, rfl⟩ := Option.map_eq_some_iff.mp taken
    exact .of_store_eq rfl rfl id
  next => exact .of_store_eq rfl rfl id
  next i admitted uid found =>
    unfold System.answerDelete
    dsimp only
    split <;> exact .of_store_eq rfl rfl id
  next key value => exact .update nofun
  next key => exact .update fun _ => rfl
  next => exact .of_store_eq rfl rfl id
  next => exact .of_store_eq rfl rfl id
  next => exact .of_store_eq rfl rfl id
  next => exact .of_store_eq rfl rfl fun _ => nofun
  next inTime waits =>
    obtain ⟨service, _, rfl⟩ := Option.map_eq_some_iff.mp taken
    unfold System.deletePlayerData
    dsimp only
    split <;> exact .of_store_eq rfl rfl fun _ => nofun
  next waits => exact spares_deleteAccount
  next i waits answered => exact spares_deleteAccount
  next => exact .of_store_eq rfl rfl fun _ => nofun
  next => exact .of_store_eq rfl rfl fun _ => nofun
  next outcome user again waits => exact spares_removed user again outcome
  next isIOS success user waits =>
    split
    · unfold System.reauthenticated
      split <;> exact .of_store_eq rfl rfl fun _ => nofun
    · exact .of_store_eq rfl rfl fun _ => nofun
  next waits => exact .of_wiping waits rfl
  next success again waits _ => exact .of_wiping waits rfl
  next success waits =>
    unfold System.initialized
    dsimp only
    split <;> exact .of_store_eq rfl rfl fun _ => nofun
  next => exact .of_store_eq rfl rfl fun _ => nofun
  next i =>
    obtain ⟨uid, _, rfl⟩ := Option.map_eq_some_iff.mp taken
    exact .of_store_eq rfl rfl id
  next => exact .of_store_eq rfl rfl fun _ => nofun

theorem spares_of_run {final : System} {actions : List Action} (run : Run step (fun _ _ => True) sys actions final) :
    sys.Spares (fun key => .removeItem key ∈ actions) final := by
  refine run.history (fun taken state => sys.Spares (fun key => .removeItem key ∈ taken) state)
    (.of_store_eq rfl rfl id) fun taken before action after spared _ here => ?_
  have both := spared.trans (spares_of_step here)
  have last (key : Key) : .removeItem key ∈ taken ++ [action] ↔ .removeItem key ∈ taken ∨ action = .removeItem key := by
    rw [List.mem_append, List.mem_singleton, eq_comm]
  simpa only [last] using both

end Sparing

/-- Over every run, with answers in any order and restarts at any time: of an account whose deletion the program saw
succeed, nothing was issued to its document since, nobody is signed in to it, and its document is gone unless the
server took an upload that was outstanding when the drain gave up, which is then what the document holds; after a drain
in time in a first process it is gone. From any point of the run on, keys leave the store only by other code until the
next deletion succeeds, and when no deletion runs the writes are not suspended. -/
theorem run_deletion_erases {store : Key → Option String} {before after : List Action} {middle : System}
    (opening : Run step (fun _ _ => True) (start store) before middle)
    (run : Run step (fun _ _ => True) middle after sys) :
    (∀ erasure ∈ sys.erasures,
      sys.accounts erasure.uid = false ∧ (∀ user ∈ sys.user, user.uid ≠ erasure.uid) ∧
      (∀ (i : Nat) (upload : Upload), sys.uploads[i]? = some upload → upload.uid = erasure.uid →
        i < erasure.attempt.issued) ∧
      (sys.docs erasure.uid = none ∨ ∃ i ∈ erasure.attempt.outstanding, ∃ upload, sys.uploads[i]? = some upload ∧
        upload.uid = erasure.uid ∧ upload.answered = true ∧ sys.docs erasure.uid = some upload.document) ∧
      (erasure.attempt.inTime = true → erasure.attempt.base = 0 → sys.docs erasure.uid = none)) ∧
    (sys.erasures = middle.erasures → (∀ again, middle.thread ≠ some (.wiping again)) →
      ∀ key, .removeItem key ∉ after → middle.store key ≠ none → sys.store key ≠ none) ∧
    (sys.thread = none → sys.service.writesSuspended = false) := by
  have inv : sys.Inv :=
    (opening.append run).invariant Inv (.start store) fun _ _ _ inv _ taken => inv.step taken
  refine ⟨fun erasure member => ?_, fun same calm => ?_, fun idle => ?_⟩
  · have gone := inv.gone erasure member
    refine ⟨gone.account, gone.user, gone.closed.issued, gone.erased, fun timely first => ?_⟩
    rcases gone.erased with absent | ⟨i, outstanding, _⟩
    · exact absent
    · have early := gone.closed.early timely i outstanding
      rw [first] at early
      exact absurd early (Nat.not_lt_zero i)
  · exact ((spares_of_run run).2 (congrArg List.length same) calm).2
  · rw [inv.waits.suspended, idle]
    rfl

def guestLeaves : List Action :=
  [.signedInAnonymously, .savePlayerData (Player.new .martial 1).toJSON 100, .handleDeleteAccount,
    .savePlayerData (Player.new .martial 1).toJSON 101, .answer 0 true, .settle 0 true 102, .drained true,
    .answerDelete 0 true, .docDeleted, .removed .success, .wiped false, .wiped true, .initialized true, .reloaded,
    .savePlayerData (Player.new .mage 1).toJSON 103, .answer 1 true]

/-- The first document is gone, the second one is there. -/
theorem run_deletion_erases_guestLeaves : ∃ sys : System,
    Run step (fun _ _ => True) (start fun _ => none) guestLeaves sys ∧ sys.docs 0 = none ∧
      (sys.docs 1).isSome = true := by
  obtain ⟨sys, run, erased, second⟩ : ∃ sys : System,
      Run step (fun _ _ => True) (start fun _ => none) guestLeaves sys ∧
      (sys.erasures.head?.any fun erasure =>
        decide (erasure.uid = 0 ∧ erasure.attempt.inTime = true ∧ erasure.attempt.base = 0)) = true ∧
      (sys.docs 1).isSome = true := Run.exists_of_exec (by decide +kernel)
  obtain ⟨erasure, head, flags⟩ := (Option.any_eq_true _ _).mp erased
  obtain ⟨first, timely, base⟩ := of_decide_eq_true flags
  have gone := ((run_deletion_erases run (.nil sys)).1 erasure (List.mem_of_mem_head? head)).2.2.2.2 timely base
  exact ⟨sys, run, first ▸ gone, second⟩

end System

end Deletion

end WalkingRpg
