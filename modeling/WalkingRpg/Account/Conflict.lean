import WalkingRpg.Account.Ownership
import WalkingRpg.Account.Within
import WalkingRpg.Session.Holding

/-! The account-conflict flow and kills of the process.

The flow signs in first and stores the conflict later. A launch in between finds a session of
the account and no conflict, and loads the guest save under it. Outside that window, and when
no save of the guest is under way at the sign-in, the guest save and the document of the
account both stay until the player has chosen.
-/

set_option autoImplicit false

namespace WalkingRpg

namespace Account

open Runs (Run)
open Session (CloudRecord SaveData Snapshot Retained LocalRead)

variable {app next : State} {i : Nat}

/-- Nothing is live or offered, and nothing under way is of the current generation or bound for the
cloud. -/
structure Asleep (session : Session.State) : Prop where
  live : session.playerRef = none
  shown : session.player = none
  offered : session.needsArchetypeSelection = false
  deferred : ∀ gen, session.pendingCommit ≠ some (.archetypeSelection gen)
  loads : ∀ load ∈ session.loads, load.gen ≠ session.initGenerationRef
  checks : ∀ check ∈ session.checks, check.gen ≠ session.initGenerationRef
  selections : ∀ selection ∈ session.selections, selection.gen ≠ session.initGenerationRef
  writes : ∀ write ∈ session.writes, write.sync = false

namespace Asleep

variable {session after : Session.State} {action : Session.Action}

theorem clearPlayer (aligned : Aligned app) (synced : ∀ write ∈ app.session.writes, write.sync = false) :
    Asleep app.clearPlayer.session where
  live := rfl
  shown := rfl
  offered := rfl
  deferred := fun _ same => by cases same
  loads := fun load member same => by
    have begun := aligned.loaded load member
    have same : load.gen = app.session.initGenerationRef + 1 := same
    omega
  checks := fun check member same => by
    have begun : check.gen ≤ app.session.initGenerationRef :=
      aligned.ordered.started check.gen (List.mem_map_of_mem member)
    have same : check.gen = app.session.initGenerationRef + 1 := same
    omega
  selections := fun selection member same => by
    have begun : selection.gen ≤ app.session.initGenerationRef := (aligned.ordered.waits selection member).1
    have same : selection.gen = app.session.initGenerationRef + 1 := same
    omega
  writes := synced

theorem launch (app : State) : Asleep app.launch.session where
  live := rfl
  shown := rfl
  offered := rfl
  deferred := fun _ same => by cases same
  loads := fun _ member => by cases member
  checks := fun _ member => by cases member
  selections := fun _ member => by cases member
  writes := fun _ member => by cases member

theorem setCheck (asleep : Asleep session) {old new : Session.Check} (found : session.checks[i]? = some old)
    (same : new.gen = old.gen) : ∀ check ∈ session.checks.set i new, check.gen ≠ session.initGenerationRef := by
  refine Tasks.forall_mem_set_of_found asleep.checks found ?_
  rw [same]
  exact id

theorem setPhase (asleep : Asleep session) {check : Session.Check} (found : session.checks[i]? = some check)
    (phase : Session.CheckPhase) : Asleep (session.setPhase i check phase) :=
  { asleep with checks := asleep.setCheck found rfl }

theorem eraseSelection (asleep : Asleep session) (i : Nat) :
    Asleep { session with selections := session.selections.eraseIdx i } :=
  { asleep with selections := Tasks.forall_mem_eraseIdx asleep.selections }

theorem commit (asleep : Asleep session) {deferred : Session.Commit} (pending : session.pendingCommit = some deferred) :
    Asleep (session.commit deferred) := by
  have painted : Asleep { session with pendingCommit := none } :=
    { asleep with deferred := fun _ same => by cases same }
  cases deferred with
  | archetypeSelection gen => exact absurd pending (asleep.deferred gen)
  | loadedPlayer gen => simpa [Session.State.commit, asleep.live] using painted
  | createdPlayer => simpa [Session.State.commit, asleep.live] using painted

theorem step (asleep : Asleep app.session) (admitted : app.admits action = true)
    (taken : app.sessionStep action = some after) : Asleep after ∧ app.usesUser action = false := by
  rcases sessionStep_cases taken with ⟨_, _, _, _, _, _, rfl, found, rfl⟩ | done
  · exact ⟨{ asleep with checks := asleep.setCheck found rfl }, rfl⟩
  cases done with
  | initializePlayer | clearPlayer | cloudBecomes => simp [State.admits] at admitted
  | loadAccess found => exact ⟨{ asleep with loads := Tasks.forall_mem_set_of_found asleep.loads found id }, rfl⟩
  | @loadResume _ load outcome found =>
    have stale := asleep.loads load (List.mem_of_getElem? found)
    cases outcome with
    | inl read => exact ⟨{ asleep with loads := Tasks.forall_mem_set asleep.loads stale }, rfl⟩
    | inr localData =>
      simp only [Session.State.loadResume, Session.State.loadPlayer, ne_eq, stale, not_false_eq_true, if_true]
      exact ⟨{ asleep with loads := Tasks.forall_mem_eraseIdx asleep.loads }, rfl⟩
  | commit pending => exact ⟨asleep.commit pending, rfl⟩
  | becomeActive =>
    rw [Session.State.becomeActive_of_absent (by simp [asleep.live])]
    exact ⟨asleep, rfl⟩
  | reconcileEffect painted => simp [asleep.shown, asleep.offered] at painted
  | checkFetched found | checkAccessed found | checkWritten found | checkAdopted found =>
    exact ⟨{ asleep with checks := asleep.setCheck found rfl }, rfl⟩
  | @checkCompared _ _ _ _ outcome found =>
    cases outcome <;> exact ⟨asleep.setPhase found _, rfl⟩
  | @handleReconciled _ gen _ _ found =>
    have stale : gen ≠ app.session.initGenerationRef := asleep.checks _ (List.mem_of_getElem? found)
    simp only [Session.State.handleReconciled, ne_eq, stale, not_false_eq_true, if_true]
    exact ⟨{ asleep with checks := asleep.setCheck found rfl }, rfl⟩
  | handleArchetypeSelected => simp [State.admits, asleep.offered] at admitted
  | selectionRetries found =>
    have stale := asleep.selections _ (List.mem_of_getElem? found)
    refine ⟨?_, by simp [State.usesUser, found, stale]⟩
    simpa [Session.State.selectionRetries, stale] using asleep.eraseSelection _
  | selectionChecked found =>
    have stale := asleep.selections _ (List.mem_of_getElem? found)
    refine ⟨?_, by simp [State.usesUser, found, stale]⟩
    simpa [Session.State.selectionChecked, stale] using asleep.eraseSelection _
  | setPlayerAndSave => simp [State.admits, asleep.live] at admitted
  | writeAccess found => exact ⟨{ asleep with writes := Tasks.forall_mem_set_of_found asleep.writes found id }, rfl⟩
  | writeResume =>
    refine ⟨{ asleep with
      deferred := fun gen => ?_
      writes := Tasks.forall_mem_eraseIdx asleep.writes }, rfl⟩
    unfold Session.State.writeResume
    dsimp only
    split
    · exact fun same => by cases same
    · exact asleep.deferred gen

end Asleep

/-- The account is signed in, and the conflict is not in the local store yet. -/
def FlowPhase.exposed : FlowPhase → Bool
  | .signedIn _ | .fetching _ _ | .persisting _ => true
  | .reading _ | .clearing | .cleared | .signingIn _ | .persisted _ => false

/-- A session of the guest that meets the account, without a choice. The user changes by the flow only, which
starts after the start-up; the storage works, and no other device writes the document of the account. The
process is not killed in the window, every save has been handed to the cloud service at the sign-in, and
nothing takes the new user for the old player. -/
def Shielded (target : User) (app : State) : Action → Prop
  | .session action => Session.Proper action ∧ (app.savesLive action = true → app.history.liveFresh = true) ∧
      (app.usesUser action = true → app.history.genFresh = true)
  | .handleAccountConflict user => user = target ∧ app.startup.isNone = true
  | .startupAccess success | .flowAccess success => success = true
  | .flowSignIn _ => app.unsynced = false
  | .restart => app.flow.all (fun flow => !flow.phase.exposed) = true
  | .docBecomes uid _ => uid ≠ target.uid
  | .deliverCallback | .startupResume | .flowFetch _ | .flowResume | .uploadArrives _ | .uploadFails _
  | .switchAccess _ _ | .switchResume _ => True
  | .userChanges _ | .resolveConflict _ | .resolutionAccess _ | .resolutionResume _ => False

instance (action : Session.Action) : Decidable (Session.Proper action) := by
  apply @Session.Action.casesOn fun action => Decidable (Session.Proper action)
  all_goals intros; dsimp only [Session.Proper]; infer_instance

instance (target : User) (app : State) (action : Action) : Decidable (Shielded target app action) := by
  apply @Action.casesOn fun action => Decidable (Shielded target app action)
  all_goals intros; dsimp only [Shielded]; infer_instance

def FlowPhase.Early (held : Bool) : FlowPhase → Prop
  | .reading read => read.Finds Snapshot.Whole
  | .signingIn (some _) => held = true
  | .signingIn none | .clearing | .cleared | .signedIn _ | .fetching _ _ | .persisting _ | .persisted _ => False

def FlowPhase.Late (pending : Option Conflict) : FlowPhase → Prop
  | .fetching _ _ | .persisting _ => True
  | .persisted _ => pending.isSome = true
  | .reading _ | .clearing | .cleared | .signingIn _ | .signedIn _ => False

def Startup.Empty : Startup → Prop
  | .authenticating | .readingConflict _ | .readConflict _ none => True
  | .readConflict _ (some _) | .clearingConflict | .clearedConflict => False

def Startup.Finds (target : User) : Startup → Prop
  | .authenticating => True
  | .readingConflict user | .readConflict user (some _) => user = some target
  | .readConflict _ none | .clearingConflict | .clearedConflict => False

inductive Standing (guest target : User) (app : State) : Prop where
  | guest (user : app.currentUser = some guest) (reports : ∀ told ∈ app.callbacks, told = some guest)
      (seen : app.prevUidRef = none ∨ app.prevUidRef = some guest.uid) (absent : app.conflictPending = none)
      (startup : ∀ startup ∈ app.startup, startup.Empty)
      (flow : ∀ flow ∈ app.flow, flow.target = target ∧ flow.phase.Early app.conflictResolutionPendingRef ∧
        app.startup = none)
  | signedIn {snapshot : Snapshot} (user : app.currentUser = some target)
      (flow : app.flow = some ⟨target, .signedIn (some snapshot)⟩) (started : app.startup = none)
      (held : app.conflictResolutionPendingRef = true)
      (stale : app.history.genFresh = false ∧ app.history.liveFresh = false)
      (synced : ∀ write ∈ app.session.writes, write.sync = false)
  | deciding (user : app.currentUser = some target) (started : app.startup = none)
      (held : app.conflictResolutionPendingRef = true) (asleep : Asleep app.session)
      (flow : (∃ phase, app.flow = some ⟨target, phase⟩ ∧ phase.Late app.conflictPending) ∨
        (app.flow = none ∧ app.conflictState.isSome = true ∧ app.conflictPending.isSome = true))
  | relaunched {startup : Startup} (user : app.currentUser = some target)
      (reports : ∀ told ∈ app.callbacks, told = some target)
      (seen : app.prevUidRef = none ∨ app.prevUidRef = some target.uid) (asleep : Asleep app.session)
      (flow : app.flow = none) (pending : app.conflictPending.isSome = true)
      (here : app.startup = some startup) (finds : startup.Finds target)

/-- Both saves are still there. -/
structure Spared (guest target : User) (record : CloudRecord) (app : State) : Prop
    extends Within (· = some guest.uid) true app where
  retained : Retained app.session
  document : app.docs target.uid = some ⟨record, some target.uid⟩
  sent : ∀ upload ∈ app.uploads, upload.uid = guest.uid
  unchosen : app.resolution = none
  idle : app.switches = []
  armed : app.pendingBelatedSignInRef = false
  standing : Standing guest target app

variable {guest target : User} {record : CloudRecord}

theorem synced_of_sessionStep {action : Session.Action} {after : Session.State}
    (own : (app.savesLive action = true → app.history.liveFresh = true) ∧
      (app.usesUser action = true → app.history.genFresh = true))
    (stale : app.history.genFresh = false ∧ app.history.liveFresh = false)
    (synced : ∀ write ∈ app.session.writes, write.sync = false) (admitted : app.admits action = true)
    (taken : app.sessionStep action = some after) :
    (∀ write ∈ after.writes, write.sync = false) ∧ (app.liveAfter action).2 = false := by
  have unused : app.usesUser action ≠ true := fun uses => by simp [stale.1] at own; simp [own.2] at uses
  have put : ∀ {label : Label}, app.puts action ≠ some (label, true) :=
    fun put => unused (State.usesUser_of_puts stale.1 put)
  constructor
  · rcases moves_of_sessionStep admitted taken with ⟨i, write, success, rfl, rfl⟩ | ⟨_, moved⟩
    · exact Tasks.forall_mem_eraseIdx synced
    · intro write member
      rcases moved.writes.mem member with ⟨former, old, rfl | kept⟩ | ⟨_, bound⟩
      · exact synced write old
      · rw [kept.1]
        exact synced former old
      · by_contra sync
        rcases bound (by simpa using sync) with saves | created
        · simp [own.1 saves] at stale
        · exact put created
  · unfold State.liveAfter
    cases result : app.puts action with
    | none => exact stale.2
    | some pair =>
      obtain ⟨label, fresh⟩ := pair
      cases fresh with
      | false => rfl
      | true => exact absurd result put

theorem retained_follow {action : Session.Action} {after : Session.State} (inv : Retained app.session)
    (proper : Session.Proper action) (taken : app.sessionStep action = some after) :
    Retained { after with cloud := app.session.cloud } := by
  suffices kept : Retained after from { kept with }
  unfold State.sessionStep at taken
  split at taken
  · rename_i i reachable
    have read : Retained { app.session with
        cloud := (app.document app.checkUsers[i]?.join).map Document.record } := { inv with }
    refine read.step ?_ taken
    exact ⟨trivial, trivial⟩
  · exact inv.step proper taken

namespace Spared

theorem session (inv : Spared guest target record app) {action : Session.Action} {after : Session.State}
    (allowed : Shielded target app (.session action)) (admitted : app.admits action = true)
    (taken : app.sessionStep action = some after) : Spared guest target record (app.follow action after) := by
  have retained := retained_follow inv.retained allowed.1 taken
  have within : (app.usesUser action = true → app.uid = some guest.uid) →
      Within (· = some guest.uid) true (app.follow action after) :=
    fun user => inv.toWithin.sessionStep user inv.toWithin.sends_follow admitted taken
  obtain ⟨uploads, stamp, same, grown⟩ := app.follow_eq action after
  have quiet : (∀ write ∈ app.session.writes, write.sync = false) → uploads = app.uploads := by
    intro synced
    have unsent : (app.follow action after).uploads = app.uploads := State.uploads_follow synced
    rwa [same] at unsent
  rw [same] at within ⊢
  cases inv.standing with
  | guest user reports seen absent startup flow =>
    have uid : app.uid = some guest.uid := by rw [State.uid, user]; rfl
    refine ⟨within fun _ => uid, retained, inv.document, ?_, inv.unchosen, inv.idle, inv.armed,
      .guest user reports seen absent startup flow⟩
    intro upload member
    rcases grown with rfl | ⟨new, rfl, own⟩
    · exact inv.sent upload member
    · rcases List.mem_append.mp member with old | added
      · exact inv.sent upload old
      · rw [List.mem_singleton.mp added]
        exact Option.some.inj (own.symm.trans uid)
  | signedIn user flow started held stale synced =>
    obtain ⟨still, dull⟩ := synced_of_sessionStep allowed.2 stale synced admitted taken
    cases quiet synced
    have own := within fun uses => by simp [allowed.2.2 uses] at stale
    exact ⟨own, retained, inv.document, inv.sent, inv.unchosen, inv.idle, inv.armed,
      .signedIn user flow started held ⟨stale.1, dull⟩ still⟩
  | deciding user started held asleep flow =>
    obtain ⟨still, unused⟩ := asleep.step admitted taken
    cases quiet asleep.writes
    have own := within fun uses => by simp [unused] at uses
    exact ⟨own, retained, inv.document, inv.sent, inv.unchosen, inv.idle, inv.armed,
      .deciding user started held { still with } flow⟩
  | relaunched user reports seen asleep flow pending here finds =>
    obtain ⟨still, unused⟩ := asleep.step admitted taken
    cases quiet asleep.writes
    have own := within fun uses => by simp [unused] at uses
    exact ⟨own, retained, inv.document, inv.sent, inv.unchosen, inv.idle, inv.armed,
      .relaunched user reports seen { still with } flow pending here finds⟩

theorem not_clearing (standing : Standing guest target app) (user : User) : app.flow ≠ some ⟨user, .clearing⟩ := by
  intro here
  cases standing with
  | guest _ _ _ _ _ flow => exact (flow _ here).2.1.elim
  | signedIn _ flow => cases flow.symm.trans here
  | deciding _ _ _ _ flow =>
    rcases flow with ⟨phase, flow, late⟩ | ⟨flow, _⟩
    · cases flow.symm.trans here
      exact late.elim
    · cases flow.symm.trans here
  | relaunched _ _ _ _ flow => cases flow.symm.trans here

theorem flow_eq_none {startup : Startup} (waits : ∀ flow ∈ app.flow, app.startup = none)
    (here : app.startup = some startup) : app.flow = none := by
  by_contra busy
  obtain ⟨current, running⟩ := Option.ne_none_iff_exists'.mp busy
  cases (waits current running).symm.trans here

theorem noted_of_told (inv : Spared guest target record app) {told : Option User} {rest : List (Option User)}
    (pending : app.callbacks = told :: rest) (reported : Told { app with callbacks := rest } told next) :
    ∃ last, next = { app with callbacks := rest, prevUidRef := uidOf told, lastNonAnonUidRef := last } := by
  have first : told ∈ app.callbacks := by simp [pending]
  have armed := inv.armed
  cases reported with
  | noted last => exact ⟨last, rfl⟩
  | resigned _ changed free | switched _ changed free =>
    cases inv.standing with
    | guest _ reports seen | relaunched _ reports seen =>
      obtain rfl := reports told first
      exact absurd (seen.resolve_left changed.1) changed.2.2
    | signedIn _ _ _ held | deciding _ _ held => cases held.symm.trans free
  | belated _ fires => cases armed.symm.trans fires

theorem callback (inv : Spared guest target record app) {told : Option User} {rest : List (Option User)}
    (pending : app.callbacks = told :: rest) (last : Option Nat) : Standing guest target
      { app with callbacks := rest, prevUidRef := uidOf told, lastNonAnonUidRef := last } := by
  have first : told ∈ app.callbacks := by simp [pending]
  have later : ∀ user ∈ rest, user ∈ app.callbacks := fun user member => by simp [pending, member]
  cases inv.standing with
  | guest user reports seen absent startup flow =>
    obtain rfl := reports told first
    exact .guest user (fun told member => reports told (later told member)) (.inr rfl) absent startup flow
  | signedIn user flow started held stale synced => exact .signedIn user flow started held stale synced
  | deciding user started held asleep flow => exact .deciding user started held asleep flow
  | relaunched user reports seen asleep flow stored here finds =>
    obtain rfl := reports told first
    exact .relaunched user (fun told member => reports told (later told member)) (.inr rfl) asleep flow stored
      here finds

theorem startupResume (inv : Spared guest target record app) (linked : target.isAnonymous = false)
    (done : Performs app .startupResume next) : Standing guest target next := by
  cases inv.standing with
  | guest user reports seen absent startup flow =>
    have waits : ∀ flow ∈ app.flow, app.startup = none := fun current running => (flow current running).2.2
    cases done with
    | authenticated here =>
      refine .guest user reports seen absent (fun phase shown => ?_) fun current running => ?_
      · cases Option.some.inj shown
        trivial
      · cases (flow_eq_none waits here).symm.trans running
    | conflictFound here | conflictStale here => exact (startup _ here).elim
    | sessionStarts here =>
      refine .guest user reports seen absent (fun phase shown => by cases shown) fun current running => ?_
      rcases here with ⟨_, here⟩ | here
      all_goals cases (flow_eq_none waits here).symm.trans running
  | signedIn _ _ started | deciding _ started =>
    cases done with
    | authenticated here | conflictFound here | conflictStale here => cases started.symm.trans here
    | sessionStarts here => rcases here with ⟨_, here⟩ | here <;> cases started.symm.trans here
  | relaunched user reports seen asleep flow pending starting finds =>
    cases done with
    | authenticated => exact .relaunched user reports seen asleep flow pending rfl user
    | conflictFound =>
      refine .deciding user rfl rfl ?_ (.inr ⟨flow, rfl, pending⟩)
      exact { Asleep.clearPlayer inv.aligned asleep.writes with }
    | @conflictStale found _ here left =>
      cases starting.symm.trans here
      have here : found = some target := finds
      subst here
      exact absurd rfl (linked ▸ left target.uid)
    | sessionStarts here =>
      rcases here with ⟨_, here⟩ | here
      all_goals
        cases starting.symm.trans here
        exact finds.elim

theorem startupAccess (inv : Spared guest target record app) (done : Performs app (.startupAccess true) next) :
    Standing guest target next := by
  cases inv.standing with
  | guest user reports seen absent startup flow =>
    have waits : ∀ flow ∈ app.flow, app.startup = none := fun current running => (flow current running).2.2
    cases done with
    | conflictRead here =>
      refine .guest user reports seen absent (fun phase shown => ?_) fun current running => ?_
      · cases Option.some.inj shown
        rw [absent]
        trivial
      · cases (flow_eq_none waits here).symm.trans running
    | conflictCleared here => exact (startup _ here).elim
  | signedIn _ _ started | deciding _ started =>
    cases done with
    | conflictRead here | conflictCleared here => cases started.symm.trans here
  | relaunched user reports seen asleep flow pending starting finds =>
    cases done with
    | conflictRead here =>
      cases starting.symm.trans here
      obtain ⟨conflict, stored⟩ := Option.isSome_iff_exists.mp pending
      refine .relaunched user reports seen asleep flow pending rfl ?_
      rw [stored]
      exact finds
    | conflictCleared here =>
      cases starting.symm.trans here
      exact finds.elim

theorem flowAccess (inv : Spared guest target record app) (done : Performs app (.flowAccess true) next) :
    Standing guest target next ∧ Retained next.session := by
  cases inv.standing with
  | guest user reports seen absent startup flow =>
    cases done with
    | flowRead here accessed =>
      obtain ⟨rfl, finds, started⟩ := flow _ here
      obtain ⟨snapshot, present, whole⟩ := inv.retained.saved
      rw [present] at accessed
      obtain ⟨rfl, found⟩ := LocalRead.Finds.access finds whole accessed
      refine ⟨.guest user reports seen absent startup fun current running => ?_,
        { inv.retained with saved := ⟨snapshot, rfl, whole⟩ }⟩
      cases Option.some.inj running
      exact ⟨rfl, found, started⟩
    | flowCleared here | flowPersisted here => exact (flow _ here).2.1.elim
  | signedIn _ flow =>
    cases done with
    | flowRead here | flowCleared here | flowPersisted here => cases flow.symm.trans here
  | deciding user started held asleep flow =>
    rcases flow with ⟨phase, flow, late⟩ | ⟨flow, _⟩
    · cases done with
      | flowPersisted here =>
        cases flow.symm.trans here
        exact ⟨.deciding user started held asleep (.inl ⟨_, rfl, rfl⟩), inv.retained⟩
      | flowRead here | flowCleared here =>
        cases flow.symm.trans here
        exact late.elim
    · cases done with
      | flowRead here | flowCleared here | flowPersisted here => cases flow.symm.trans here
  | relaunched _ _ _ _ flow =>
    cases done with
    | flowRead here | flowCleared here | flowPersisted here => cases flow.symm.trans here

theorem flowResume (inv : Spared guest target record app) (done : Performs app .flowResume next) :
    Standing guest target next ∧ Retained next.session := by
  cases inv.standing with
  | guest user reports seen absent startup flow =>
    have known : ∀ {user : User} {read : LocalRead} {outcome : LocalRead ⊕ Option Snapshot},
        app.flow = some ⟨user, .reading read⟩ → read.resume = some outcome →
        ∃ snapshot, outcome = .inr (some snapshot) := by
      intro user read outcome here resumed
      obtain ⟨snapshot, _, known⟩ := LocalRead.Finds.resume (fun _ whole => whole) (flow _ here).2.1 resumed
      exact ⟨snapshot, known⟩
    cases done with
    | flowReads here resumed | flowClears here resumed =>
      obtain ⟨snapshot, other⟩ := known here resumed
      cases other
    | flowGuards here resumed =>
      obtain ⟨rfl, _, started⟩ := flow _ here
      refine ⟨.guest user reports seen absent startup fun current running => ?_, inv.retained⟩
      cases Option.some.inj running
      exact ⟨rfl, rfl, started⟩
    | flowSignsIn here | flowEnds here | flowSwitches here | flowShows here => exact (flow _ here).2.1.elim
  | signedIn user flow started held _ synced =>
    cases done with
    | flowSwitches here =>
      cases flow.symm.trans here
      refine ⟨.deciding user started held ?_ (.inl ⟨_, rfl, trivial⟩), ?_⟩
      · exact { Asleep.clearPlayer inv.aligned synced with }
      · exact { inv.retained with live := fun _ live => by cases live }
    | flowReads here | flowClears here | flowSignsIn here | flowGuards here | flowEnds here | flowShows here =>
      cases flow.symm.trans here
  | deciding user started held asleep flow =>
    rcases flow with ⟨phase, flow, late⟩ | ⟨flow, _⟩
    · cases done with
      | flowShows here =>
        cases flow.symm.trans here
        exact ⟨.deciding user started held asleep (.inr ⟨rfl, rfl, late⟩), inv.retained⟩
      | flowReads here | flowClears here | flowSignsIn here | flowGuards here | flowEnds here | flowSwitches here =>
        cases flow.symm.trans here
        exact late.elim
    · cases done with
      | flowReads here | flowClears here | flowSignsIn here | flowGuards here | flowEnds here | flowSwitches here
      | flowShows here => cases flow.symm.trans here
  | relaunched _ _ _ _ flow =>
    cases done with
    | flowReads here | flowClears here | flowSignsIn here | flowGuards here | flowEnds here | flowSwitches here
    | flowShows here => cases flow.symm.trans here

theorem flowSignIn (inv : Spared guest target record app) (other : target.uid ≠ guest.uid) {success : Bool}
    (synced : app.unsynced = false) (done : Performs app (.flowSignIn success) next) :
    Standing guest target next := by
  cases inv.standing with
  | guest user reports seen absent startup flow =>
    cases done with
    | @signInSucceeds target held here =>
      obtain ⟨rfl, early, started⟩ := flow _ here
      simp only [State.unsynced, Bool.or_eq_false_iff] at synced
      cases held with
      | none => exact early.elim
      | some snapshot =>
        have changed : (uidOf (some target) == app.uid) = false := by
          simpa [State.uid, uidOf, user] using other
        refine .signedIn rfl rfl started early ?_ fun write member => ?_
        · simp only [State.inFlow, State.setCurrentUser, changed, Bool.and_false, and_self]
        · simpa using List.any_eq_false.mp synced.1 write member
    | signInFails here => exact .guest user reports seen absent startup fun _ running => by cases running
  | signedIn _ flow =>
    cases done with
    | signInSucceeds here | signInFails here => cases flow.symm.trans here
  | deciding _ _ _ _ flow =>
    rcases flow with ⟨phase, flow, late⟩ | ⟨flow, _⟩
    · cases done with
      | signInSucceeds here | signInFails here =>
        cases flow.symm.trans here
        exact late.elim
    · cases done with
      | signInSucceeds here | signInFails here => cases flow.symm.trans here
  | relaunched _ _ _ _ flow =>
    cases done with
    | signInSucceeds here | signInFails here => cases flow.symm.trans here

theorem flowFetch (inv : Spared guest target record app) {reachable : Bool}
    (done : Performs app (.flowFetch reachable) next) : Standing guest target next := by
  cases done with
  | flowFetched here =>
    cases inv.standing with
    | guest _ _ _ _ _ flow => exact (flow _ here).2.1.elim
    | signedIn _ flow => cases flow.symm.trans here
    | deciding user started held asleep flow =>
      rcases flow with ⟨phase, flow, late⟩ | ⟨flow, _⟩
      · cases flow.symm.trans here
        exact .deciding user started held asleep (.inl ⟨_, rfl, trivial⟩)
      · cases flow.symm.trans here
    | relaunched _ _ _ _ flow => cases flow.symm.trans here

theorem conflictArises (inv : Spared guest target record app) (linked : target.isAnonymous = false)
    (started : app.startup = none) (anonymous : app.currentUser.any User.isAnonymous = true) :
    Standing guest target (app.inFlow target (.reading .reading)) := by
  have signed : app.currentUser ≠ some target := by
    intro user
    simp [user, linked] at anonymous
  cases inv.standing with
  | guest user reports seen absent startup flow =>
    refine .guest user reports seen absent startup fun current running => ?_
    cases Option.some.inj running
    exact ⟨rfl, trivial, started⟩
  | signedIn user | deciding user | relaunched user => exact absurd user signed

theorem restart (inv : Spared guest target record app)
    (kept : app.flow.all (fun flow => !flow.phase.exposed) = true) : Standing guest target app.launch := by
  have asleep := Asleep.launch app
  have reported : ∀ {user : User}, app.currentUser = some user → ∀ told ∈ app.launch.callbacks, told = some user := by
    intro user here told member
    exact (List.mem_singleton.mp member).trans here
  cases inv.standing with
  | guest user _ _ absent =>
    refine .guest user (reported user) (.inl rfl) absent (fun phase starting => ?_) fun _ running => by cases running
    cases Option.some.inj starting
    trivial
  | signedIn _ flow => simp [flow, FlowPhase.exposed] at kept
  | deciding user _ _ _ flow =>
    have pending : app.conflictPending.isSome = true := by
      rcases flow with ⟨phase, flow, late⟩ | ⟨_, _, pending⟩
      · rw [flow] at kept
        cases phase with
        | persisted => exact late
        | reading | clearing | cleared | signingIn | signedIn => exact late.elim
        | fetching | persisting => simp [FlowPhase.exposed] at kept
      · exact pending
    exact .relaunched user (reported user) (.inl rfl) asleep rfl pending rfl trivial
  | relaunched user _ _ _ _ pending => exact .relaunched user (reported user) (.inl rfl) asleep rfl pending rfl trivial

theorem cloud (standing : Standing guest target app) (docs : Nat → Option Document) (uploads : List Upload) :
    Standing guest target { app with docs := docs, uploads := uploads } := by
  cases standing with
  | guest user reports seen absent startup flow => exact .guest user reports seen absent startup flow
  | signedIn user flow started held stale synced => exact .signedIn user flow started held stale synced
  | deciding user started held asleep flow => exact .deciding user started held asleep flow
  | relaunched user reports seen asleep flow pending here finds =>
    exact .relaunched user reports seen asleep flow pending here finds

theorem user_of_standing (standing : Standing guest target app) : app.currentUser.isNone = false := by
  cases standing with
  | guest user | signedIn user | deciding user | relaunched user => rw [user]; rfl

theorem document_arrive (inv : Spared guest target record app) (other : target.uid ≠ guest.uid) {upload : Upload}
    (found : app.uploads[i]? = some upload) :
    (app.arrive i upload).docs target.uid = some ⟨record, some target.uid⟩ := by
  have sent := inv.sent upload (List.mem_of_getElem? found)
  show Function.update app.docs upload.uid _ target.uid = _
  rw [Function.update_of_ne (sent ▸ other)]
  exact inv.document

theorem settle (inv : Spared guest target record app) {old : Upload} (found : app.uploads[i]? = some old) :
    ∀ upload ∈ app.uploads.set i { old with settled := true }, upload.uid = guest.uid :=
  Tasks.forall_mem_set_of_found inv.sent found id

theorem step (inv : Spared guest target record app) (other : target.uid ≠ guest.uid)
    (linked : target.isAnonymous = false) {action : Action} (allowed : Shielded target app action)
    (taken : Account.step app action = some next) : Spared guest target record next := by
  have done := performs_of_step taken
  by_cases session : ∃ stepped, action = .session stepped
  · obtain ⟨stepped, rfl⟩ := session
    cases done with
    | session admitted stepped => exact inv.session allowed admitted stepped
  have within : Within (· = some guest.uid) true next :=
    inv.toWithin.performs inv.unchosen (.inr ⟨inv.idle, not_clearing inv.standing⟩)
      (fun stepped same => absurd ⟨stepped, same⟩ session) done
  cases action with
  | session stepped => exact absurd ⟨stepped, rfl⟩ session
  | userChanges | resolveConflict | resolutionAccess | resolutionResume => exact allowed.elim
  | deliverCallback =>
    cases done with
    | @callback told rest pending =>
      obtain ⟨last, noted⟩ := inv.noted_of_told pending (told_onAuthStateChanged _ told)
      rw [noted] at within ⊢
      exact ⟨within, inv.retained, inv.document, inv.sent, inv.unchosen, inv.idle, inv.armed,
        inv.callback pending last⟩
  | switchAccess =>
    cases done with
    | switchCleared found => simp [inv.idle] at found
  | switchResume =>
    cases done with
    | switchLoads found => simp [inv.idle] at found
  | startupAccess success =>
    cases (allowed : success = true)
    have standing := inv.startupAccess done
    cases done with
    | conflictRead | conflictCleared =>
      exact ⟨within, inv.retained, inv.document, inv.sent, inv.unchosen, inv.idle, inv.armed, standing⟩
  | startupResume =>
    have standing := inv.startupResume linked done
    cases done with
    | authenticated | conflictStale =>
      exact ⟨within, inv.retained, inv.document, inv.sent, inv.unchosen, inv.idle, inv.armed, standing⟩
    | conflictFound =>
      have retained : Retained app.session.clearPlayer :=
        { inv.retained with live := fun _ live => by cases live }
      exact ⟨within, retained, inv.document, inv.sent, inv.unchosen, inv.idle, inv.armed, standing⟩
    | sessionStarts =>
      have retained : Retained app.session.initializePlayer :=
        { inv.retained with loads := inv.retained.toHolding.initializePlayer.loads }
      exact ⟨within, retained, inv.document, inv.sent, inv.unchosen, inv.idle, user_of_standing inv.standing, standing⟩
  | handleAccountConflict user =>
    obtain ⟨rfl, started⟩ := allowed
    cases done with
    | conflictArises _ anonymous =>
      exact ⟨within, inv.retained, inv.document, inv.sent, inv.unchosen, inv.idle, inv.armed,
        inv.conflictArises linked (Option.isNone_iff_eq_none.mp started) anonymous⟩
  | flowAccess success =>
    cases (allowed : success = true)
    obtain ⟨standing, retained⟩ := inv.flowAccess done
    cases done with
    | flowCleared here => exact absurd here (not_clearing inv.standing _)
    | flowRead | flowPersisted =>
      exact ⟨within, retained, inv.document, inv.sent, inv.unchosen, inv.idle, inv.armed, standing⟩
  | flowSignIn success =>
    have standing := inv.flowSignIn other allowed done
    cases done with
    | signInSucceeds | signInFails =>
      exact ⟨within, inv.retained, inv.document, inv.sent, inv.unchosen, inv.idle, inv.armed, standing⟩
  | flowFetch reachable =>
    have standing := inv.flowFetch done
    cases done with
    | flowFetched =>
      exact ⟨within, inv.retained, inv.document, inv.sent, inv.unchosen, inv.idle, inv.armed, standing⟩
  | flowResume =>
    obtain ⟨standing, retained⟩ := inv.flowResume done
    cases done with
    | _ => exact ⟨within, retained, inv.document, inv.sent, inv.unchosen, inv.idle, inv.armed, standing⟩
  | uploadArrives i =>
    cases done with
    | @arrives _ upload found =>
      have document := inv.document_arrive other found
      exact ⟨within, inv.retained, document, inv.settle found, inv.unchosen, inv.idle, inv.armed,
        cloud inv.standing _ _⟩
  | uploadFails i =>
    cases done with
    | fails found =>
      exact ⟨within, inv.retained, inv.document, inv.settle found, inv.unchosen, inv.idle, inv.armed,
        cloud inv.standing _ _⟩
  | docBecomes uid written =>
    cases done with
    | docBecomes =>
      refine ⟨within, inv.retained, ?_, inv.sent, inv.unchosen, inv.idle, inv.armed, cloud inv.standing _ _⟩
      show Function.update app.docs uid _ target.uid = _
      rw [Function.update_of_ne (Ne.symm allowed)]
      exact inv.document
  | restart =>
    cases done with
    | restarts =>
      have retained : Retained app.launch.session :=
        { saved := inv.retained.saved
          loads := fun _ member => by cases member
          checks := fun _ member => by cases member
          writes := fun _ member => by cases member
          live := fun _ live => by cases live }
      exact ⟨within, retained, inv.document, inv.sent, rfl, rfl, rfl, inv.restart allowed⟩

end Spared

variable {save : SaveData} {savedAt : ℤ} {records : Nat → Option CloudRecord} {actions : List Action}

theorem Spared.start (whole : Session.isValidPlayerData save = true) (present : records target.uid = some record) :
    Spared guest target record
      (Account.start (some (save, savedAt)) (some guest.uid) (some guest) records none) where
  aligned := .start _ _ _ _ _
  uploads := fun _ member => by cases member
  docs := fun uid own document member => by
    obtain ⟨_, _, rfl⟩ := Option.map_eq_some_iff.mp (Option.mem_def.mp member)
    exact own
  checks := fun _ _ member => by cases member
  live := fun here => by cases here
  saved := fun _ => rfl
  writes := fun _ _ _ member => by cases member
  loads := fun _ _ member => by cases member
  users := fun _ _ member => by cases member
  retained :=
    { saved := ⟨_, rfl, whole⟩
      loads := fun _ member => by cases member
      checks := fun _ member => by cases member
      writes := fun _ member => by cases member
      live := fun _ live => by cases live }
  document := by simp [Account.start, present]
  sent := fun _ member => by cases member
  unchosen := rfl
  idle := rfl
  armed := rfl
  standing := by
    refine .guest rfl (fun _ member => List.mem_singleton.mp member) (.inl rfl) rfl (fun phase here => ?_)
      fun _ running => by cases running
    cases Option.some.inj here
    trivial

theorem run_spared (other : target.uid ≠ guest.uid) (linked : target.isAnonymous = false)
    (whole : Session.isValidPlayerData save = true) (present : records target.uid = some record)
    (run : Run step (Shielded target)
      (Account.start (some (save, savedAt)) (some guest.uid) (some guest) records none) actions app) :
    Spared guest target record app :=
  run.invariant (Spared guest target record) (.start whole present)
    fun _ _ _ inv allowed taken => inv.step other linked allowed taken

/-- However often the process is killed outside the window, the local store keeps a save of the guest and the
document of the account is untouched; once start-up and flow have ended, the session is the guest's or the
choice is offered. -/
theorem run_conflict_spares (other : target.uid ≠ guest.uid) (linked : target.isAnonymous = false)
    (whole : Session.isValidPlayerData save = true) (present : records target.uid = some record)
    (run : Run step (Shielded target)
      (Account.start (some (save, savedAt)) (some guest.uid) (some guest) records none) actions app) :
    app.docs target.uid = some ⟨record, some target.uid⟩ ∧
      (∃ snapshot, app.session.saved = some snapshot ∧ Session.isValidPlayerData snapshot.save = true) ∧
      app.history.saved = some guest.uid ∧
      (app.startup = none → app.flow = none → app.currentUser = some guest ∨ app.conflictState.isSome = true) := by
  have inv := run_spared other linked whole present run
  refine ⟨inv.document, inv.retained.saved, inv.saved rfl, fun started idle => ?_⟩
  cases inv.standing with
  | guest user => exact .inl user
  | signedIn _ flow => cases idle.symm.trans flow
  | deciding _ _ _ _ flow =>
    rcases flow with ⟨_, flow, _⟩ | ⟨_, shown, _⟩
    · cases idle.symm.trans flow
    · exact .inr shown
  | relaunched _ _ _ _ _ _ here => cases started.symm.trans here

def signIn : List Action :=
  [.handleAccountConflict member, .flowAccess true, .flowResume, .flowSignIn true]

/-- The process is killed before the sign-in and again while the choice is offered. -/
def killsAroundFlow : List Action :=
  openSession ++ [Action.handleAccountConflict member, .flowAccess true, .restart] ++ openSession ++ saveHero 10 ++
    signIn ++ [Action.flowResume, .deliverCallback, .flowFetch true, .flowAccess true, .flowResume, .restart,
      .deliverCallback, .startupResume, .startupAccess true, .startupResume]

def memberDocument : Nat → Option CloudRecord
  | 2 => some ⟨(hero.snapshot 9).save, 9⟩
  | _ => none

theorem run_conflict_spares_killsAroundFlow : ∃ app,
    Run step (Shielded member)
        (Account.start (some (Session.veteranSave, 5)) (some 1) (some Account.guest) memberDocument none)
        killsAroundFlow app ∧
      app.startup.isNone = true ∧ app.flow.isNone = true ∧ app.conflictState.isSome = true ∧
      app.docs 2 = some ⟨⟨(hero.snapshot 9).save, 9⟩, some 2⟩ ∧
      (∃ snapshot, app.session.saved = some snapshot ∧ Session.isValidPlayerData snapshot.save = true) ∧
      app.history.saved = some 1 := by
  have executed : ∃ app, Run step (Shielded member)
      (Account.start (some (Session.veteranSave, 5)) (some 1) (some Account.guest) memberDocument none)
      killsAroundFlow app ∧
      app.startup.isNone = true ∧ app.flow.isNone = true ∧ app.conflictState.isSome = true :=
    Run.exists_of_exec (by decide +kernel)
  obtain ⟨app, run, started, idle, shown⟩ := executed
  have other : member.uid ≠ Account.guest.uid := by decide
  obtain ⟨document, saved, origin, _⟩ := run_conflict_spares other rfl (by decide +kernel) rfl run
  exact ⟨app, run, started, idle, shown, document, saved, origin⟩

/-- The process is killed between the sign-in and the write of the conflict. -/
def killInWindow : List Action := openSession ++ signIn ++ [Action.flowResume, .restart] ++ openSession

def reconcileAfterKill : List Action :=
  killInWindow ++ [Action.session .reconcileEffect, .session (.checkFetch 0 true), .session (.checkAccess 0 true),
    .session (.checkResume 0), .session (.checkAccess 0 true), .session (.checkResume 0),
    .session (.handleReconciled 0 20)]

def saveAfterKill : List Action := killInWindow ++ saveHero 30 ++ [Action.uploadArrives 0]

/-- A kill in the window: no choice is offered, and the next launch overwrites one of the two saves. -/
theorem run_killInWindow_overwrites :
    (∃ app, Run step (fun _ _ => True)
        (Account.start (some (Session.veteranSave, 5)) (some 1) (some Account.guest) memberDocument none)
        reconcileAfterKill app ∧
      app.startup.isNone = true ∧ app.flow.isNone = true ∧ app.currentUser = some member ∧
      app.conflictState.isNone = true ∧ app.history.saved = some 2) ∧
    ∃ app, Run step (fun _ _ => True)
        (Account.start (some (Session.veteranSave, 5)) (some 1) (some Account.guest) memberDocument none)
        saveAfterKill app ∧
      app.startup.isNone = true ∧ app.flow.isNone = true ∧ app.currentUser = some member ∧
      app.conflictState.isNone = true ∧ (app.docs 2).map Document.origin = some (some 1) :=
  ⟨Run.exists_of_exec (by decide +kernel), Run.exists_of_exec (by decide +kernel)⟩

end Account

end WalkingRpg
