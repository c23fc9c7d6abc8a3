import WalkingRpg.Account.Moves

/-! Data of given origins, in everything that can still reach the local store.

A set of origins is fixed. Before the local store has been cleared, only what was started
since the last `clearPlayer` is bound to it; afterwards the snapshot and all operations that
may still write it are bound as well. Every step of the player hook keeps this.
-/

set_option autoImplicit false

namespace WalkingRpg

namespace Account

open Session (Check LocalWrite SaveData)
open Session.Threads (Ordered)
open Tasks (Extends extendLabels)

variable {admissible : Option Nat → Prop} {cleared : Bool} {app : State}
variable {action : Session.Action} {after : Session.State} {i : Nat}

def State.sends (admissible : Option Nat → Prop) (app : State) : Prop :=
  ∀ upload ∈ app.uploads, admissible (some upload.uid) → admissible upload.label.origin

theorem exists_upload_of_performs {action : Action} {next : State} (unchosen : app.resolution = none)
    (done : Performs app action next) {upload : Upload} (member : upload ∈ app.uploads) :
    ∃ kept ∈ next.uploads, kept.uid = upload.uid ∧ kept.label = upload.label := by
  have settled : ∀ {i : Nat} {old : Upload}, app.uploads[i]? = some old →
      ∃ kept ∈ app.uploads.set i { old with settled := true }, kept.uid = upload.uid ∧ kept.label = upload.label := by
    intro i old found
    by_cases same : upload = old
    · subst same
      have bound := (List.getElem?_eq_some_iff.mp found).1
      exact ⟨_, List.mem_of_getElem? (List.getElem?_set_self bound), rfl, rfl⟩
    · exact ⟨upload, Tasks.mem_set_of_ne _ found member same, rfl, rfl⟩
  cases done with
  | session =>
    obtain ⟨uploads, stamp, same, rfl | ⟨new, rfl, _⟩⟩ := app.follow_eq _ _
    · rw [same]
      exact ⟨upload, member, rfl, rfl⟩
    · rw [same]
      exact ⟨upload, List.mem_append_left _ member, rfl, rfl⟩
  | @callback user rest =>
    rw [(told_onAuthStateChanged { app with callbacks := rest } user).keeps.2.2.1]
    exact ⟨upload, member, rfl, rfl⟩
  | @switchCleared i success =>
    obtain ⟨_, _, same⟩ := clearLocalPlayerData_eq app success
    rw [State.switchAccess, same]
    exact ⟨upload, member, rfl, rfl⟩
  | @flowCleared target success =>
    obtain ⟨_, _, same⟩ := clearLocalPlayerData_eq app success
    rw [same]
    exact ⟨upload, member, rfl, rfl⟩
  | @resolves keepsLocal conflict =>
    obtain ⟨resolution, chosen⟩ := resolveConflict_eq app keepsLocal conflict
    rw [chosen]
    exact ⟨upload, member, rfl, rfl⟩
  | resolutionAccessed here | resolutionResumed here => cases unchosen.symm.trans here
  | arrives found | fails found => exact settled found
  | _ => exact ⟨upload, member, rfl, rfl⟩

/-- What the documents of these accounts hold, and what reconciles read from them, is of the set. -/
structure Sourced (admissible : Option Nat → Prop) (app : State) : Prop where
  aligned : Aligned app
  uploads : app.sends admissible
  docs : ∀ uid, admissible (some uid) → ∀ document ∈ app.docs uid, admissible document.origin
  checks : ∀ user origin, (user, origin) ∈ app.checkUsers.zip app.history.checks → admissible user →
    admissible origin

namespace Sourced

theorem checksRead (inv : Sourced admissible app) {user origin : Option Nat}
    (member : (user, origin) ∈ app.checkUsers.zip (app.checksRead action)) (own : admissible user) :
    admissible origin := by
  unfold State.checksRead at member
  split at member
  · rename_i i reachable
    obtain ⟨j, found, known⟩ := Tasks.exists_getElem?_of_mem_zip member
    rcases Tasks.found_of_set known with ⟨rfl, rfl⟩ | ⟨_, old⟩
    · rw [found, Option.join_some]
      cases user with
      | none => exact own
      | some uid =>
        cases content : app.docs uid with
        | none => simpa [State.document, content] using own
        | some document => simpa [State.document, content] using inv.docs uid own document content
    · exact inv.checks user origin (Tasks.mem_zip_of_getElem? found old) own
  · exact inv.checks user origin member own

theorem follow (inv : Sourced admissible app) (going : ∀ i, action ≠ .writeResume i) (moved : Moves app action after)
    (ordered : Ordered after.threads) : Sourced admissible (app.follow action after) := by
  have aligned := inv.aligned.follow going moved ordered
  rw [State.follow_of_going going] at *
  exact
    { inv with
      aligned := aligned
      checks := fun user origin member own => by
        have counted : app.checkUsers.length = (app.checksRead action).length :=
          inv.aligned.users.trans (inv.aligned.checksRead_length action).symm
        rcases Tasks.mem_zip_extendLabels counted member with old | ⟨rfl, rfl⟩
        · exact inv.checksRead old own
        · exact own }

theorem erased (inv : Sourced admissible app) (i : Nat) (write : LocalWrite) (success : Bool) :
    Sourced admissible (app.erased i write success) :=
  { inv with
    aligned := inv.aligned.erased i write success
    checks := by
      rw [(app.erased_labels i write success).1, (app.erased_labels i write success).2]
      exact inv.checks }

theorem savePlayerData (inv : Sourced admissible app) {data : SaveData} {savedAt : ℤ} {label : Label}
    (sends : (app.savePlayerData data savedAt label).sends admissible) :
    Sourced admissible (app.savePlayerData data savedAt label) := by
  unfold State.savePlayerData at *
  split at sends
  · exact inv
  · exact { inv with aligned := { inv.aligned with }, uploads := sends }

theorem sessionStep (inv : Sourced admissible app) (sends : (app.follow action after).sends admissible)
    (admitted : app.admits action = true) (taken : app.sessionStep action = some after) :
    Sourced admissible (app.follow action after) := by
  rcases moves_of_sessionStep admitted taken with ⟨i, write, success, rfl, rfl⟩ | ⟨going, moved⟩
  · have erased := inv.erased i write success
    unfold State.follow at *
    dsimp only at *
    split at sends
    · exact erased.savePlayerData sends
    · exact erased
  · exact inv.follow going moved (ordered_of_sessionStep inv.aligned.ordered taken)

theorem document (inv : Sourced admissible app) {uid : Nat} {document : Option Document}
    (own : admissible (some uid) → ∀ content ∈ document, admissible content.origin) :
    ∀ other, admissible (some other) →
      ∀ content ∈ Function.update app.docs uid document other, admissible content.origin := by
  intro other known content member
  by_cases same : other = uid
  · subst same
    rw [Function.update_self] at member
    exact own known content member
  · rw [Function.update_of_ne same] at member
    exact inv.docs other known content member

theorem settle (inv : Sourced admissible app) {upload : Upload} (found : app.uploads[i]? = some upload) :
    ∀ other ∈ app.uploads.set i { upload with settled := true },
      admissible (some other.uid) → admissible other.label.origin :=
  Tasks.forall_mem_set_of_found inv.uploads found id

theorem arrive (inv : Sourced admissible app) {upload : Upload} (found : app.uploads[i]? = some upload) :
    Sourced admissible (app.arrive i upload) := by
  refine { inv with
    aligned := { inv.aligned with }
    uploads := inv.settle found
    docs := fun uid known content member => ?_ }
  rcases mem_docs_arrive member with old | ⟨rfl, rfl⟩
  · exact inv.docs uid known content old
  · exact inv.uploads upload (List.mem_of_getElem? found) known

theorem docBecomes (inv : Sourced admissible app) (uid : Nat) (record : Option Session.CloudRecord) :
    Sourced admissible
      { app with docs := Function.update app.docs uid (record.map fun record => ⟨record, some uid⟩) } := by
  refine { inv with aligned := { inv.aligned with }, docs := inv.document fun known content member => ?_ }
  obtain ⟨_, _, rfl⟩ := Option.map_eq_some_iff.mp (Option.mem_def.mp member)
  exact known

theorem told (inv : Sourced admissible app) {user : Option User} {next : State} (told : Told app user next) :
    Sourced admissible next := by
  have aligned := inv.aligned.told told
  cases told <;> exact { inv with aligned := aligned }

theorem clearLocalPlayerData (inv : Sourced admissible app) (success : Bool) :
    Sourced admissible (app.clearLocalPlayerData success) := by
  unfold State.clearLocalPlayerData
  split
  · exact { inv with aligned := { inv.aligned with } }
  · exact inv

theorem performs (inv : Sourced admissible app) {action : Action} {next : State} (sends : next.sends admissible)
    (unchosen : app.resolution = none) (done : Performs app action next) : Sourced admissible next := by
  have aligned := inv.aligned.performs done
  cases done with
  | session admitted taken => exact inv.sessionStep sends admitted taken
  | @callback user rest pending =>
    have popped : Sourced admissible { app with callbacks := rest } := { inv with aligned := { inv.aligned with } }
    exact popped.told (told_onAuthStateChanged _ user)
  | switchCleared => exact { inv.clearLocalPlayerData _ with aligned := aligned }
  | flowCleared => exact { inv.clearLocalPlayerData _ with aligned := aligned }
  | @resolves keepsLocal conflict =>
    obtain ⟨resolution, chosen⟩ := resolveConflict_eq app keepsLocal conflict
    rw [chosen]
    exact { inv with aligned := { inv.aligned with } }
  | resolutionAccessed here | resolutionResumed here => cases unchosen.symm.trans here
  | arrives found => exact inv.arrive found
  | fails found => exact { inv with aligned := aligned, uploads := inv.settle found }
  | docBecomes uid record => exact inv.docBecomes uid record
  | restarts => exact { inv with aligned := aligned, checks := fun _ _ member => by cases member }
  | _ => exact { inv with aligned := aligned }

end Sourced

/-- The reconcile belongs to the time since the last `clearPlayer`, or may still write to a store that
has been cleared. -/
def State.bound (app : State) (cleared : Bool) (check : Check) : Prop :=
  app.session.clearedAt ≤ check.gen ∨ (cleared = true ∧ check.phase.mayStore = true)

structure Within (admissible : Option Nat → Prop) (cleared : Bool) (app : State) : Prop
    extends Sourced admissible app where
  live : app.session.playerRef.isSome = true → admissible app.history.live.origin
  saved : cleared = true → admissible app.history.saved
  writes : cleared = true → ∀ write label, (write, label) ∈ app.session.writes.zip app.history.writes →
    write.sync = true ∨ write.outcome = none → admissible label.origin
  loads : ∀ load origin, (load, origin) ∈ app.session.loads.zip app.history.loads →
    load.gen = app.session.initGenerationRef → cleared = true ∧ (load.read = .reading ∨ admissible origin)
  users : ∀ check user, (check, user) ∈ app.session.checks.zip app.checkUsers →
    app.bound cleared check → admissible user

theorem Aligned.load_older (aligned : Aligned app) {load : Session.Load} {origin : Option Nat}
    (member : (load, origin) ∈ app.session.loads.zip app.history.loads) :
    load.gen ≠ app.session.initGenerationRef + 1 := by
  have begun := aligned.loaded load (List.of_mem_zip member).1
  omega

theorem Aligned.check_older (aligned : Aligned app) {check : Session.Check} {user : Option Nat}
    (member : (check, user) ∈ app.session.checks.zip app.checkUsers) :
    ¬app.session.initGenerationRef + 1 ≤ check.gen := by
  have started : check.gen ≤ app.session.initGenerationRef :=
    aligned.ordered.started check.gen (List.mem_map_of_mem (List.of_mem_zip member).1)
  omega

theorem Sourced.clearPlayer (inv : Sourced admissible app) : Within admissible false app.clearPlayer :=
  { inv with
    aligned := inv.aligned.clearPlayer
    live := fun here => by cases here
    saved := fun once => by cases once
    writes := fun once => by cases once
    loads := fun load origin member current => absurd current (inv.aligned.load_older member)
    users := fun check user member bound => by
      rcases bound with since | once
      · exact absurd since (inv.aligned.check_older member)
      · cases once.1 }

namespace Within

theorem clearPlayer (inv : Within admissible cleared app) : Within admissible cleared app.clearPlayer :=
  { inv with
    aligned := inv.aligned.clearPlayer
    live := fun here => by cases here
    loads := fun load origin member current => absurd current (inv.aligned.load_older member)
    users := fun check user member bound => by
      apply inv.users check user member
      exact bound.imp_left fun since => absurd since (inv.aligned.check_older member) }

theorem initializePlayer (inv : Within admissible true app) : Within admissible true app.initializePlayer :=
  { inv with
    aligned := inv.aligned.initializePlayer
    loads := fun load origin member current => by
      let started : Session.Load := ⟨app.session.initGenerationRef + 1, .reading⟩
      have grown : (app.session.loads ++ [started]).zip (app.history.loads ++ [none]) =
          app.session.loads.zip app.history.loads ++ [(started, none)] :=
        List.zip_append inv.aligned.readers.symm
      change (load, origin) ∈ (app.session.loads ++ [started]).zip (app.history.loads ++ [none]) at member
      rw [grown] at member
      rcases List.mem_append.mp member with old | new
      · exact absurd current (inv.aligned.load_older old)
      · simp only [List.mem_singleton, Prod.mk.injEq] at new
        obtain ⟨rfl, _⟩ := new
        exact ⟨rfl, .inl rfl⟩ }

theorem told (inv : Within admissible true app) {user : Option User} {next : State} (told : Told app user next) :
    Within admissible true next := by
  have aligned := inv.aligned.told told
  cases told with
  | noted => exact { inv with aligned := aligned }
  | resigned => exact { inv.clearPlayer.initializePlayer with aligned := aligned }
  | switched => exact { inv.clearPlayer with aligned := aligned }
  | belated => exact { inv.initializePlayer with aligned := aligned }

theorem savePlayerData (inv : Within admissible cleared app) {data : SaveData} {savedAt : ℤ} {label : Label}
    (sends : (app.savePlayerData data savedAt label).sends admissible) :
    Within admissible cleared (app.savePlayerData data savedAt label) := by
  unfold State.savePlayerData at *
  split at sends
  · exact inv
  · exact { inv with aligned := { inv.aligned with }, uploads := sends }

theorem clearLocalPlayerData (inv : Within admissible true app) (absent : admissible none) (success : Bool) :
    Within admissible true (app.clearLocalPlayerData success) := by
  unfold State.clearLocalPlayerData
  split
  · exact { inv with aligned := { inv.aligned with }, saved := fun _ => absent }
  · exact inv

theorem launch (inv : Within admissible true app) : Within admissible true app.launch :=
  { inv with
    aligned := Aligned.launch app
    checks := fun _ _ member => by cases member
    live := fun here => by cases here
    writes := fun _ _ _ member => by cases member
    loads := fun _ _ member => by cases member
    users := fun _ _ member => by cases member }

theorem bound_of_selects (inv : Within admissible cleared app) {check : Nat} {result : Session.ReconcileResult}
    (ends : app.selects i = some (check, result)) :
    ∃ found, app.session.checks[check]? = some found ∧ app.bound cleared found := by
  obtain ⟨selection, found, here, current, awaits, checked⟩ := State.exists_of_selects ends
  refine ⟨found, checked, .inl ?_⟩
  have waits := inv.aligned.ordered.waits selection (List.mem_of_getElem? here)
  have since : app.session.clearedAt ≤ selection.gen := current ▸ inv.aligned.ordered.cleared
  exact waits.2 since check awaits found.gen (by simp [Session.State.threads, checked])

theorem origin_of_bound (inv : Within admissible cleared app) {check : Check}
    (found : app.session.checks[i]? = some check) (bound : app.bound cleared check) :
    admissible app.history.checks[i]?.join := by
  obtain ⟨user, at_user⟩ := Tasks.exists_label_of_getElem? inv.aligned.users found
  obtain ⟨origin, known⟩ := Tasks.exists_label_of_getElem? inv.aligned.origins found
  rw [known]
  refine inv.checks user origin (Tasks.mem_zip_of_getElem? at_user known) ?_
  exact inv.users check user (Tasks.mem_zip_of_getElem? found at_user) bound

theorem adopts_within (inv : Within admissible cleared app) {data : SaveData} {label : Label} {fresh : Bool}
    {check : Check} (found : app.session.checks[i]? = some check) (bound : app.bound cleared check)
    (adopted : app.adopts i data = some (label, fresh)) : admissible label.origin := by
  unfold State.adopts at adopted
  split at adopted
  · simp only [Option.some.injEq, Prod.mk.injEq] at adopted
    obtain ⟨rfl, _⟩ := adopted
    exact inv.origin_of_bound found bound
  · cases adopted

theorem loads_within (inv : Within admissible cleared app) (loads : app.loads i = true) :
    admissible app.history.loads[i]?.join := by
  unfold State.loads Session.State.loadTakes at loads
  obtain ⟨localData, taken, _⟩ := (Option.any_eq_true _ _).mp loads
  obtain ⟨load, found, taken⟩ := Option.bind_eq_some_iff.mp taken
  split at taken
  · rename_i current
    obtain ⟨outcome, resumed, _⟩ := Option.bind_eq_some_iff.mp taken
    obtain ⟨origin, known⟩ := Tasks.exists_label_of_getElem? inv.aligned.readers found
    rw [known]
    rcases (inv.loads load origin (Tasks.mem_zip_of_getElem? found known) current).2 with reading | own
    · rw [reading] at resumed
      cases resumed
    · exact own
  · cases taken

theorem puts_within (inv : Within admissible cleared app) (user : app.usesUser action = true → admissible app.uid)
    {label : Label} {fresh : Bool} (put : app.puts action = some (label, fresh)) : admissible label.origin := by
  unfold State.puts at put
  split at put
  · split at put
    · rename_i loads
      simp only [Option.some.injEq, Prod.mk.injEq] at put
      obtain ⟨rfl, _⟩ := put
      exact inv.loads_within loads
    · cases put
  · split at put
    · rename_i found
      split at put
      · rename_i current
        exact inv.adopts_within found (.inl (current ▸ inv.aligned.ordered.cleared)) put
      · cases put
    · cases put
  · split at put
    · rename_i ends
      obtain ⟨found, checked, bound⟩ := inv.bound_of_selects ends
      exact inv.adopts_within checked bound put
    · rename_i ends
      simp only [Option.some.injEq, Prod.mk.injEq] at put
      obtain ⟨rfl, _⟩ := put
      exact user (State.usesUser_of_selects ends)
    · cases put
  · cases put

theorem liveAfter_within (inv : Within admissible cleared app)
    (user : app.usesUser action = true → admissible app.uid) (moved : Moves app action after)
    (here : after.playerRef.isSome = true) : admissible (app.liveAfter action).1.origin := by
  unfold State.liveAfter
  cases put : app.puts action with
  | none => exact inv.live (moved.live here put)
  | some result => exact inv.puts_within user put

theorem stores_within (inv : Within admissible true app) (taken : app.sessionStep action = some after) :
    admissible (app.stores action) := by
  unfold State.stores
  split
  · rename_i i
    simp only [State.sessionStep, Session.step] at taken
    split at taken
    · rename_i found
      obtain ⟨label, known⟩ := Tasks.exists_label_of_getElem? inv.aligned.writers found
      rw [known]
      exact inv.writes rfl _ label (Tasks.mem_zip_of_getElem? found known) (.inr rfl)
    · cases taken
  · split
    · rename_i found
      exact inv.origin_of_bound found (.inr ⟨rfl, rfl⟩)
    · exact inv.saved rfl
  · exact inv.saved rfl

theorem loadsRead_within (inv : Within admissible cleared app) (moved : Reads app action after)
    {load : Session.Load} {origin : Option Nat}
    (member : (load, origin) ∈ after.loads.zip (app.loadsRead action after))
    (current : load.gen = app.session.initGenerationRef) :
    cleared = true ∧ (load.read = .reading ∨ admissible origin) := by
  cases moved with
  | same loads read => exact inv.loads load origin (loads ▸ read ▸ member) current
  | @accessed i former next found loads read =>
    rw [loads, read] at member
    rcases Tasks.mem_zip_of_mem_zip_set member with old | ⟨rfl, rfl⟩
    · exact inv.loads load origin old current
    · obtain ⟨_, known⟩ := Tasks.exists_label_of_getElem? inv.aligned.readers found
      have once := (inv.loads former _ (Tasks.mem_zip_of_getElem? found known) current).1
      exact ⟨once, .inr (inv.saved once)⟩
  | @resumed i former next found known loads read =>
    rw [loads, read] at member
    obtain ⟨j, here, labelled⟩ := Tasks.exists_getElem?_of_mem_zip member
    rcases Tasks.found_of_set here with ⟨rfl, rfl⟩ | ⟨_, old⟩
    · obtain ⟨once, reading | own⟩ := inv.loads former origin (Tasks.mem_zip_of_getElem? found labelled) current
      · exact absurd reading known
      · exact ⟨once, .inr own⟩
    · exact inv.loads load origin (Tasks.mem_zip_of_getElem? old labelled) current
  | ended found loads read =>
    rw [loads, read] at member
    exact inv.loads load origin (Tasks.mem_zip_of_mem_zip_eraseIdx member) current

theorem follow (inv : Within admissible cleared app) (user : app.usesUser action = true → admissible app.uid)
    (going : ∀ i, action ≠ .writeResume i) (moved : Moves app action after) (ordered : Ordered after.threads)
    (taken : app.sessionStep action = some after) : Within admissible cleared (app.follow action after) := by
  have sourced := inv.toSourced.follow going moved ordered
  rw [State.follow_of_going going] at *
  exact
    { sourced with
      live := fun here => inv.liveAfter_within user moved here
      saved := fun once => by
        subst once
        exact inv.stores_within taken
      writes := fun once write label member scope => by
        rw [State.remembers_writes going] at member
        rcases moved.writes.mem_zip inv.aligned.writers member with ⟨former, old, kept⟩ | ⟨⟨here, _⟩, rfl⟩
        · refine inv.writes once former label old ?_
          rcases kept with rfl | ⟨sync, pending⟩
          · exact scope
          · exact scope.imp (fun synced => sync ▸ synced) pending
        · exact inv.liveAfter_within user moved here
      loads := fun load origin member current =>
        inv.loadsRead_within moved.loads member (current.trans moved.generation)
      users := fun check holder member bound => by
        change after.clearedAt ≤ check.gen ∨ _ at bound
        rw [moved.clearedAt] at bound
        rcases moved.checks.mem_zip inv.aligned.users member with ⟨former, here, kept⟩ | ⟨⟨_, uses⟩, rfl⟩
        · refine inv.users former holder here ?_
          rcases kept with rfl | ⟨gen, stores⟩
          · exact bound
          · exact bound.imp (fun since => gen ▸ since) (fun may => ⟨may.1, stores may.2⟩)
        · exact user uses }

theorem followResume (inv : Within admissible cleared app) (write : LocalWrite) (success : Bool)
    (sends : (app.follow (.writeResume i) (app.session.writeResume i write success)).sends admissible) :
    Within admissible cleared (app.follow (.writeResume i) (app.session.writeResume i write success)) := by
  have erased : Within admissible cleared (app.erased i write success) :=
    { inv.toSourced.erased i write success with
      live := inv.live
      saved := inv.saved
      writes := fun once write label member =>
        inv.writes once write label (Tasks.mem_zip_of_mem_zip_eraseIdx member)
      loads := inv.loads
      users := by
        rw [(app.erased_labels i write success).1]
        exact inv.users }
  unfold State.follow at *
  dsimp only at *
  split at sends
  · exact erased.savePlayerData sends
  · exact erased

theorem sends_follow (inv : Within admissible true app) : (app.follow action after).sends admissible := by
  unfold State.follow
  dsimp only
  split
  · split
    · rename_i here
      unfold State.savePlayerData
      split
      · exact inv.uploads
      · intro upload member own
        rcases List.mem_append.mp member with old | new
        · exact inv.uploads upload old own
        · obtain ⟨label, known⟩ := Tasks.exists_label_of_getElem? inv.aligned.writers here
          rw [List.mem_singleton.mp new, known]
          exact inv.writes rfl _ label (Tasks.mem_zip_of_getElem? here known) (.inl rfl)
    · exact inv.uploads
  · exact inv.uploads

theorem sessionStep (inv : Within admissible cleared app)
    (user : app.usesUser action = true → admissible app.uid) (sends : (app.follow action after).sends admissible)
    (admitted : app.admits action = true) (taken : app.sessionStep action = some after) :
    Within admissible cleared (app.follow action after) := by
  rcases moves_of_sessionStep admitted taken with ⟨i, write, success, rfl, rfl⟩ | ⟨going, moved⟩
  · exact inv.followResume write success sends
  · exact inv.follow user going moved (ordered_of_sessionStep inv.aligned.ordered taken) taken

theorem of_sourced (inv : Within admissible cleared app) {next : State} (sourced : Sourced admissible next)
    (session : next.session = app.session) (users : next.checkUsers = app.checkUsers)
    (history : next.history = app.history) : Within admissible cleared next := by
  obtain ⟨_, _, _, _, _, _, _, _, _, _, _, _, _, _, _, _, _, _⟩ := next
  subst session users history
  exact { inv with toSourced := sourced }

theorem arrive (inv : Within admissible cleared app) {upload : Upload} (found : app.uploads[i]? = some upload) :
    Within admissible cleared (app.arrive i upload) :=
  inv.of_sourced (inv.toSourced.arrive found) rfl rfl rfl

/-- Each step of the app outside the choice of a save. The user matters only to new reconciles and new
players, and the removal of the snapshot only when absent data is not in the set. -/
theorem performs (inv : Within admissible true app) {action : Action} {next : State}
    (unchosen : app.resolution = none)
    (kept : admissible none ∨ (app.switches = [] ∧ ∀ target, app.flow ≠ some ⟨target, .clearing⟩))
    (user : ∀ taken, action = .session taken → app.usesUser taken = true → admissible app.uid)
    (done : Performs app action next) : Within admissible true next := by
  have aligned := inv.aligned.performs done
  cases done with
  | session admitted taken => exact inv.sessionStep (user _ rfl) inv.sends_follow admitted taken
  | @callback told rest pending =>
    have popped : Within admissible true { app with callbacks := rest } :=
      { inv with aligned := { inv.aligned with } }
    exact popped.told (told_onAuthStateChanged _ told)
  | switchCleared found =>
    have absent : admissible none := kept.resolve_right fun idle => by simp [idle.1] at found
    exact { inv.clearLocalPlayerData absent _ with aligned := aligned }
  | @switchLoads i found =>
    have ended : Within admissible true { app with switches := app.switches.eraseIdx i } :=
      { inv with aligned := { inv.aligned with } }
    exact ended.initializePlayer
  | conflictFound => exact { inv.clearPlayer with aligned := aligned }
  | sessionStarts => exact { inv.initializePlayer with aligned := aligned }
  | flowCleared here =>
    have absent : admissible none := kept.resolve_right fun idle => idle.2 _ here
    exact { inv.clearLocalPlayerData absent _ with aligned := aligned }
  | flowSwitches => exact { inv.clearPlayer with aligned := aligned }
  | @resolves keepsLocal conflict =>
    obtain ⟨resolution, chosen⟩ := resolveConflict_eq app keepsLocal conflict
    rw [chosen]
    exact { inv with aligned := { inv.aligned with } }
  | resolutionAccessed here | resolutionResumed here => cases unchosen.symm.trans here
  | arrives found => exact inv.arrive found
  | fails found => exact { inv with aligned := aligned, uploads := inv.toSourced.settle found }
  | docBecomes uid record => exact inv.of_sourced (inv.toSourced.docBecomes uid record) rfl rfl rfl
  | restarts => exact inv.launch
  | _ => exact { inv with aligned := aligned }

end Within

end Account

end WalkingRpg
