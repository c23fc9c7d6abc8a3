import WalkingRpg.Library.Faults
import WalkingRpg.Session.UsePlayer
import WalkingRpg.Storage.PlayerDocument

/-! The local save: reading it, clearing it, and what its callers leave of it.

The four keys that `clearLocalPlayerData` removes are one store, and every function is a program
over it whose operations may fail. Texts are kept as what they parse to. What a caller does with
the snapshot in memory is not a matter of the store and is left out.
-/

set_option autoImplicit false

namespace WalkingRpg

namespace Storage

open Faults (Oracle)

inductive Operation where
  | multiGet | multiSet | multiRemove
  deriving DecidableEq, Repr

inductive Text where
  | empty
  /-- `JSON.parse` throws. -/
  | malformed
  | json (value : Js.Value)

def Text.parse : Text → Option Js.Value
  | .json value => some value
  | .empty | .malformed => none

structure LocalStore where
  playerData : Option Text
  playerSavedAt : Option Js.Number
  walkSummary : Option Text
  pendingEncounter : Option Text

def LocalStore.cleared : LocalStore := ⟨none, none, none, none⟩

def LocalStore.withSnapshot (store : LocalStore) (data : Js.Value) (savedAt : Js.Number) : LocalStore :=
  { store with playerData := some (.json data), playerSavedAt := some savedAt }

abbrev Program (α : Type) : Type := Faults.Program Operation LocalStore α

structure LocalSnapshot where
  data : Option Js.Value
  savedAt : Js.Number

def LocalSnapshot.absent : LocalSnapshot := ⟨none, .finite 0⟩

def writeLocalPlayerSnapshot (data : Js.Value) (savedAt : Js.Number) : Program Unit :=
  .operation .multiSet fun store => ((), store.withSnapshot data savedAt)

def clearLocalPlayerData : Program Unit :=
  .attempt (.operation .multiRemove fun _ => ((), .cleared)) (pure ())

def parseJson (text : Text) : Program Js.Value :=
  match text.parse with
  | some value => pure value
  | none => .throw

def examineSnapshot (json : Option Text) (savedAt : Js.Number) : Program LocalSnapshot :=
  match json with
  | none | some .empty => pure .absent
  | some text => do
    let parsed ← parseJson text
    if isValidPlayerData parsed then pure ⟨some parsed, savedAt⟩
    else do
      clearLocalPlayerData
      pure .absent

/-- The `catch` is meant for text that does not parse and also covers a `multiGet` that fails. -/
def readLocalPlayerSnapshot : Program LocalSnapshot :=
  .attempt
    (do
      let (json, savedAt) ← (.operation .multiGet fun store =>
        ((store.playerData, store.playerSavedAt.getD (.finite 0)), store) : Program _)
      examineSnapshot json savedAt)
    (do
      clearLocalPlayerData
      pure .absent)

def initializePlayer : Program (LocalSnapshot × Bool) := do
  let snapshot ← readLocalPlayerSnapshot
  pure (snapshot, snapshot.data.isSome && snapshot.savedAt = .finite 0)

inductive ReconcileResult where
  | adopted (data : Js.Value)
  | noNewerCloud
  | unavailable

def reconcileCloudPlayerData : CloudLoad → Program ReconcileResult
  | .unavailable => pure .unavailable
  | .empty => pure .noNewerCloud
  | .found playerData lastSavedAt =>
    if !isValidPlayerData playerData then pure .unavailable
    else do
      let snapshot ← readLocalPlayerSnapshot
      match lastSavedAt with
      | .number stamp =>
        if stamp.greater snapshot.savedAt then do
          .attempt (writeLocalPlayerSnapshot playerData stamp) (pure ())
          pure (.adopted playerData)
        else pure .noNewerCloud
      | _ => pure .noNewerCloud

structure ConflictState where
  localData : Option Js.Value
  localSavedAt : Js.Number
  cloudData : Option Js.Value
  cloudSavedAt : Js.Number

/-- `resolveConflict('local')` up to the reload, which is a call of `initializePlayer`. -/
def resolveConflictLocal (conflict : ConflictState) (now : Js.Number) : Program Unit := do
  let freshSnapshot ← readLocalPlayerSnapshot
  match freshSnapshot.data.or conflict.localData with
  | none => pure ()
  | some dataToSave =>
    let baseTimestamp := if freshSnapshot.data.isSome then freshSnapshot.savedAt else conflict.localSavedAt
    .attempt (writeLocalPlayerSnapshot dataToSave (baseTimestamp.max now)) (pure ())

/-- `resolveConflict('cloud')` up to the reload. It does not read the local save. -/
def resolveConflictCloud (conflict : ConflictState) : Program Unit :=
  match conflict.cloudData with
  | some cloudData => .attempt (writeLocalPlayerSnapshot cloudData conflict.cloudSavedAt) (pure ())
  | none => clearLocalPlayerData

def LocalStore.Damaged (store : LocalStore) : Prop :=
  ∃ text, store.playerData = some text ∧ text ≠ .empty ∧
    ∀ value, text.parse = some value → isValidPlayerData value = false

/-- The player data is a record that the check accepts. -/
def LocalStore.Good (store : LocalStore) : Prop :=
  ∃ value, store.playerData = some (.json value) ∧ isValidPlayerData value = true

/-- The store as it was; only damaged player data may have been cleared. -/
def LocalStore.Spared (store after : LocalStore) : Prop :=
  after = store ∨ store.Damaged ∧ after = .cleared

theorem LocalStore.Good.not_damaged {store : LocalStore} (good : store.Good) : ¬store.Damaged := by
  rintro ⟨text, held, _, rejected⟩
  obtain ⟨value, stored, valid⟩ := good
  rw [stored] at held
  cases Option.some.inj held
  rw [rejected value rfl] at valid
  cases valid

theorem LocalStore.Good.ne_cleared {store : LocalStore} (good : store.Good) : store ≠ .cleared := by
  rintro rfl
  obtain ⟨value, stored, _⟩ := good
  cases stored

variable {oracle : Oracle Operation} {store : LocalStore}

theorem write_eq (data : Js.Value) (savedAt : Js.Number) (count : ℕ) :
    (.attempt (writeLocalPlayerSnapshot data savedAt) (pure ()) : Program Unit) oracle count store =
      (some (), count + 1, if oracle .multiSet count then store.withSnapshot data savedAt else store) :=
  Faults.Program.attempt_operation Operation.multiSet (LocalStore.withSnapshot · data savedAt) oracle count store

theorem clear_eq (count : ℕ) : clearLocalPlayerData oracle count store =
    (some (), count + 1, if oracle .multiRemove count then .cleared else store) :=
  Faults.Program.attempt_operation Operation.multiRemove (fun _ => LocalStore.cleared) oracle count store

theorem read_eq (count : ℕ) : readLocalPlayerSnapshot oracle count store =
    if oracle .multiGet count then
      match store.playerData with
      | none | some .empty => (some .absent, count + 1, store)
      | some (.json value) =>
        if isValidPlayerData value then
          (some ⟨some value, store.playerSavedAt.getD (.finite 0)⟩, count + 1, store)
        else (some .absent, count + 2, if oracle .multiRemove (count + 1) then .cleared else store)
      | some .malformed =>
        (some .absent, count + 2, if oracle .multiRemove (count + 1) then .cleared else store)
    else (some .absent, count + 2, if oracle .multiRemove (count + 1) then .cleared else store) := by
  have cleared : (do clearLocalPlayerData; pure LocalSnapshot.absent : Program LocalSnapshot) oracle (count + 1)
      store = (some .absent, count + 2, if oracle .multiRemove (count + 1) then .cleared else store) :=
    Faults.Program.bind_of_returns (clear_eq (count + 1))
  have tried : (do
      let (json, savedAt) ← (.operation .multiGet fun store =>
        ((store.playerData, store.playerSavedAt.getD (.finite 0)), store) : Program _)
      examineSnapshot json savedAt : Program LocalSnapshot) oracle count store =
        if oracle .multiGet count then
          examineSnapshot store.playerData (store.playerSavedAt.getD (.finite 0)) oracle (count + 1) store
        else (none, count + 1, store) := by
    show Faults.Program.bind _ _ oracle count store = _
    unfold Faults.Program.bind Faults.Program.operation
    cases oracle .multiGet count <;> rfl
  unfold readLocalPlayerSnapshot Faults.Program.attempt
  rw [tried]
  cases oracle .multiGet count with
  | false => exact cleared
  | true =>
    simp only [if_true]
    cases held : store.playerData with
    | none => rfl
    | some text =>
      cases text with
      | empty => rfl
      | malformed => exact cleared
      | json value =>
        have examined : examineSnapshot (some (.json value)) (store.playerSavedAt.getD (.finite 0)) oracle
            (count + 1) store = (if isValidPlayerData value then
              pure ⟨some value, store.playerSavedAt.getD (.finite 0)⟩
            else (do clearLocalPlayerData; pure .absent) : Program LocalSnapshot) oracle (count + 1) store := rfl
        rw [examined]
        by_cases valid : isValidPlayerData value = true
        · rw [if_pos valid]
          exact (if_pos valid).symm
        · rw [if_neg valid, cleared]
          exact (if_neg valid).symm

theorem read_kept (oracle : Oracle Operation) (count : ℕ) (store : LocalStore) :
    ∃ snapshot later kept, readLocalPlayerSnapshot oracle count store = (some snapshot, later, kept) ∧
      (oracle .multiRemove (count + 1) = false → kept = store) ∧
      (oracle .multiGet count = true → store.Spared kept) ∧
      (oracle .multiGet count = false → oracle .multiRemove (count + 1) = true → kept = .cleared) := by
  rw [read_eq]
  have removal : oracle .multiRemove (count + 1) = false →
      (if oracle .multiRemove (count + 1) then .cleared else store) = store := fun fails => by simp [fails]
  -- Damaged data is cleared, or kept because the removal fails.
  have damaged (found : store.Damaged) :
      store.Spared (if oracle .multiRemove (count + 1) then .cleared else store) := by
    cases oracle .multiRemove (count + 1) with
    | true => exact .inr ⟨found, rfl⟩
    | false => exact .inl rfl
  cases got : oracle .multiGet count with
  | false =>
    refine ⟨_, _, _, rfl, removal, by simp, fun _ succeeds => ?_⟩
    rw [succeeds]
    rfl
  | true =>
    cases held : store.playerData with
    | none => exact ⟨_, _, store, rfl, fun _ => rfl, fun _ => .inl rfl, by simp⟩
    | some text =>
      cases text with
      | empty => exact ⟨_, _, store, rfl, fun _ => rfl, fun _ => .inl rfl, by simp⟩
      | malformed =>
        refine ⟨_, _, _, rfl, removal, fun _ => damaged ⟨_, held, by simp, ?_⟩, by simp⟩
        intro value parsed
        cases parsed
      | json value =>
        by_cases valid : isValidPlayerData value = true
        · exact ⟨_, _, store, if_pos valid, fun _ => rfl, fun _ => .inl rfl, by simp⟩
        · refine ⟨_, _, _, if_neg valid, removal, fun _ => damaged ⟨_, held, by simp, ?_⟩, by simp⟩
          rintro _ ⟨⟩
          exact Bool.eq_false_iff.mpr valid

section Callers

variable {count later : ℕ} {snapshot : LocalSnapshot} {kept : LocalStore}
variable (read : readLocalPlayerSnapshot oracle count store = (some snapshot, later, kept))
include read

theorem initialize_eq : initializePlayer oracle count store =
    (some (snapshot, snapshot.data.isSome && snapshot.savedAt = .finite 0), later, kept) :=
  Faults.Program.bind_of_returns read

theorem reconcile_after (cloud : CloudLoad) :
    ∃ result last after, reconcileCloudPlayerData cloud oracle count store = (some result, last, after) ∧
      ((∀ data stamp, cloud = .found data stamp → isValidPlayerData data = false) ∧ after = store ∨
        after = kept ∨ ∃ data stamp, cloud = .found data (.number stamp) ∧ isValidPlayerData data = true ∧
          stamp.greater snapshot.savedAt = true ∧ after = kept.withSnapshot data stamp) := by
  cases cloud with
  | unavailable | empty => exact ⟨_, _, store, rfl, .inl ⟨by rintro _ _ ⟨⟩, rfl⟩⟩
  | found data lastSavedAt =>
    unfold reconcileCloudPlayerData
    dsimp only
    cases valid : isValidPlayerData data with
    | false =>
      rw [if_pos (by decide)]
      refine ⟨_, _, store, rfl, .inl ⟨?_, rfl⟩⟩
      rintro _ _ ⟨⟩
      exact valid
    | true =>
      rw [if_neg (by decide), Faults.Program.bind_of_returns read]
      cases lastSavedAt with
      | number stamp =>
        dsimp only
        split
        · rename_i newer
          rw [Faults.Program.bind_of_returns (write_eq data stamp later)]
          refine ⟨_, _, _, rfl, .inr ?_⟩
          cases oracle .multiSet later with
          | true => exact .inr ⟨data, stamp, rfl, valid, newer, rfl⟩
          | false => exact .inl rfl
        · exact ⟨_, _, kept, rfl, .inr (.inl rfl)⟩
      | _ => exact ⟨_, _, kept, rfl, .inr (.inl rfl)⟩

theorem resolveConflictLocal_after (conflict : ConflictState) (now : Js.Number) :
    ∃ last after, resolveConflictLocal conflict now oracle count store = (some (), last, after) ∧
      (after = kept ∨ ∃ data, snapshot.data.or conflict.localData = some data ∧
        after = kept.withSnapshot data
          ((if snapshot.data.isSome then snapshot.savedAt else conflict.localSavedAt).max now)) := by
  unfold resolveConflictLocal
  rw [Faults.Program.bind_of_returns read]
  cases snapshot.data.or conflict.localData with
  | none => exact ⟨_, kept, rfl, .inl rfl⟩
  | some data =>
    dsimp only
    rw [write_eq]
    refine ⟨_, _, rfl, ?_⟩
    cases oracle .multiSet later with
    | true => exact .inr ⟨data, rfl, rfl⟩
    | false => exact .inl rfl

end Callers

theorem resolveConflictCloud_after (conflict : ConflictState) (oracle : Oracle Operation) (count : ℕ)
    (store : LocalStore) :
    ∃ last after, resolveConflictCloud conflict oracle count store = (some (), last, after) ∧ (after = store ∨
      (∃ data, conflict.cloudData = some data ∧ after = store.withSnapshot data conflict.cloudSavedAt) ∨
      conflict.cloudData = none ∧ after = .cleared) := by
  unfold resolveConflictCloud
  cases conflict.cloudData with
  | some data =>
    dsimp only
    rw [write_eq]
    refine ⟨_, _, rfl, ?_⟩
    cases oracle .multiSet count with
    | true => exact .inr (.inl ⟨data, rfl, rfl⟩)
    | false => exact .inl rfl
  | none =>
    dsimp only
    rw [clear_eq]
    refine ⟨_, _, rfl, ?_⟩
    cases oracle .multiRemove count with
    | true => exact .inr (.inr ⟨rfl, rfl⟩)
    | false => exact .inl rfl

/-- A read leaves a good save and everything beside it as it was exactly when its `multiGet` succeeds or
the `multiRemove` of its handler fails. Any other store is spared in these cases, and besides only if it
was damaged or held nothing. The callers leave what the read leaves, up to their own writes. -/
theorem read_spares (oracle : Oracle Operation) (count : ℕ) (store : LocalStore) :
    ∃ snapshot later kept, readLocalPlayerSnapshot oracle count store = (some snapshot, later, kept) ∧
      (store.Good →
        (kept = store ↔ oracle .multiGet count = true ∨ oracle .multiRemove (count + 1) = false)) ∧
      (store.Spared kept ↔ (oracle .multiGet count = true ∨ oracle .multiRemove (count + 1) = false) ∨
        store.Damaged ∨ store = .cleared) ∧
      (∃ result, initializePlayer oracle count store = (some result, later, kept)) ∧
      (∀ cloud, ∃ result last after,
        reconcileCloudPlayerData cloud oracle count store = (some result, last, after) ∧
          ((∀ data stamp, cloud = .found data stamp → isValidPlayerData data = false) ∧ after = store ∨
            after = kept ∨ ∃ data stamp, cloud = .found data (.number stamp) ∧ isValidPlayerData data = true ∧
              stamp.greater snapshot.savedAt = true ∧ after = kept.withSnapshot data stamp)) ∧
      (∀ conflict now, ∃ last after,
        resolveConflictLocal conflict now oracle count store = (some (), last, after) ∧
          (after = kept ∨ ∃ data, snapshot.data.or conflict.localData = some data ∧
            after = kept.withSnapshot data
              ((if snapshot.data.isSome then snapshot.savedAt else conflict.localSavedAt).max now))) ∧
      ∀ conflict, ∃ last after, resolveConflictCloud conflict oracle count store = (some (), last, after) ∧
        (after = store ∨
          (∃ data, conflict.cloudData = some data ∧ after = store.withSnapshot data conflict.cloudSavedAt) ∨
          conflict.cloudData = none ∧ after = .cleared) := by
  obtain ⟨snapshot, later, kept, read, unremoved, got, refused⟩ := read_kept oracle count store
  have spared : store.Spared kept ↔
      (oracle .multiGet count = true ∨ oracle .multiRemove (count + 1) = false) ∨
        store.Damaged ∨ store = .cleared := by
    cases succeeds : oracle .multiGet count with
    | true => exact iff_of_true (got succeeds) (.inl (.inl rfl))
    | false =>
      cases removes : oracle .multiRemove (count + 1) with
      | false => exact iff_of_true (.inl (unremoved removes)) (.inl (.inr rfl))
      | true =>
        have removed := refused succeeds removes
        constructor
        · rintro (same | ⟨damaged, _⟩)
          · exact .inr (.inr (same.symm.trans removed))
          · exact .inr (.inl damaged)
        · rintro (reads | damaged | empty)
          · simp at reads
          · exact .inr ⟨damaged, removed⟩
          · exact .inl (removed.trans empty.symm)
  refine ⟨snapshot, later, kept, read, fun good => ?_, spared, ⟨_, initialize_eq read⟩, reconcile_after read,
    resolveConflictLocal_after read, fun conflict => resolveConflictCloud_after conflict oracle count store⟩
  constructor
  · intro same
    rcases spared.mp (.inl same) with reads | damaged | empty
    · exact reads
    · exact absurd damaged good.not_damaged
    · exact absurd empty good.ne_cleared
  · intro reads
    rcases spared.mpr (.inl reads) with same | ⟨damaged, _⟩
    · exact same
    · exact absurd damaged good.not_damaged

def savedGame : LocalStore where
  playerData := some (.json (playerDataDocument (Player.named "player1" "Adventurer" .mage).toJSON).toJs)
  playerSavedAt := some (.finite 1700000000000)
  walkSummary := some (.json (.array []))
  pendingEncounter := some (.json (.object []))

theorem good_savedGame : savedGame.Good := by
  refine ⟨_, rfl, isValidPlayerData_of_admitted ?_⟩
  apply admitted_toJSON (Player.recordable_named "player1" "Adventurer" .mage)
  · show (1 : ℚ) ≤ 1000
    norm_num
  · decide
  · decide

/-- On storage that refuses every operation the save survives. -/
theorem read_spares_refusing : ∃ snapshot later,
    readLocalPlayerSnapshot (fun _ _ => false) 0 savedGame = (some snapshot, later, savedGame) := by
  obtain ⟨snapshot, later, kept, read, spared, _⟩ := read_spares (fun _ _ => false) 0 savedGame
  rw [(spared good_savedGame).mpr (.inr rfl)] at read
  exact ⟨snapshot, later, read⟩

/-- A `multiGet` that fails on a good save: the handler for text that does not parse removes it,
together with the fights to show and the held foe. -/
theorem read_refused_clears : savedGame.Good ∧
    ∃ oracle, readLocalPlayerSnapshot oracle 0 savedGame = (some .absent, 2, .cleared) :=
  ⟨good_savedGame, fun kind _ => kind ≠ .multiGet, rfl⟩

theorem isValidPlayerData_document (data : PlayerData) (known : Bool) :
    isValidPlayerData (playerDataDocument data).toJs = Session.isValidPlayerData ⟨data, known⟩ := by
  have seen (name : String) : (playerDataDocument data).toJs.property name =
      ((Firestore.Rules.field name (playerDataDocument data)).map Firestore.Value.toJs).getD .undefined :=
    Firestore.Value.property_toJs name _
  have count (value : ℚ) : (number value).toJs = .number (.finite value) :=
    Firestore.Value.toJs_of_number? (number?_number value)
  obtain ⟨id, name, level, experience, attack, defense, distance, encounters, defeated, equipment⟩ :=
    field_playerDataDocument data
  have object : (playerDataDocument data).toJs.truthy = true ∧ (playerDataDocument data).toJs.typeof = .object :=
    ⟨rfl, rfl⟩
  unfold isValidPlayerData Session.isValidPlayerData
  rw [if_neg (by simp [object])]
  simp only [seen, id, name, level, experience, attack, defense, distance, encounters, defeated, equipment]
  cases data.attack <;> cases data.defense <;> cases data.equipment <;>
    simp [count, Js.Value.typeof, Js.Value.atLeast, Js.Number.atLeast, Firestore.Value.toJs, Js.Value.isNull,
      equipmentDocument]

/-- How a snapshot of the session stands in the store. Text that does not parse stands for a record
that the check rejects. -/
inductive Holds (store : LocalStore) : Option Session.Snapshot → Prop where
  | absent (missing : store.playerData = none ∨ store.playerData = some .empty) : Holds store none
  | json {snapshot : Session.Snapshot} {value : Js.Value} (held : store.playerData = some (.json value))
      (checked : isValidPlayerData value = Session.isValidPlayerData snapshot.save)
      (stamped : store.playerSavedAt = some (.finite snapshot.savedAt)) : Holds store (some snapshot)
  | malformed {snapshot : Session.Snapshot} (held : store.playerData = some .malformed)
      (rejected : Session.isValidPlayerData snapshot.save = false) : Holds store (some snapshot)

end Storage

namespace Session

def LocalRead.complete (saved : Option Snapshot) (reads removes : Bool) :
    Option (Option Snapshot × Option Snapshot) := do
  let (content, saved) ← LocalRead.reading.access saved reads
  match ← content.resume with
  | .inr snapshot => return (snapshot, saved)
  | .inl waiting =>
    let (removal, saved) ← waiting.access saved removes
    match ← removal.resume with
    | .inr snapshot => return (snapshot, saved)
    | .inl _ => none

end Session

namespace Storage

theorem localRead_refines {oracle : Faults.Oracle Operation} {store : LocalStore} {saved : Option Session.Snapshot}
    (holds : Holds store saved) (count : ℕ) :
    ∃ result kept snapshot later after,
      Session.LocalRead.complete saved (oracle .multiGet count) (oracle .multiRemove (count + 1)) =
        some (result, kept) ∧
      readLocalPlayerSnapshot oracle count store = (some snapshot, later, after) ∧ Holds after kept ∧
      snapshot.data.isSome = result.isSome ∧ snapshot.savedAt = .finite ((result.elim 0 Session.Snapshot.savedAt : ℤ) : ℚ) := by
  rw [read_eq]
  -- A refused read and a rejected record both end with the removal of the keys.
  have removed : Holds (if oracle .multiRemove (count + 1) then .cleared else store)
      (if oracle .multiRemove (count + 1) then none else saved) := by
    cases oracle .multiRemove (count + 1) with
    | true => exact .absent (.inl rfl)
    | false => exact holds
  cases oracle .multiGet count with
  | false => exact ⟨none, _, _, _, _, rfl, rfl, removed, rfl, rfl⟩
  | true =>
    cases holds with
    | absent missing =>
      refine ⟨none, none, .absent, count + 1, store, rfl, ?_, .absent missing, rfl, rfl⟩
      rcases missing with missing | missing <;> rw [missing] <;> rfl
    | json held checked stamped =>
      rename_i snapshot value
      cases valid : Session.isValidPlayerData snapshot.save with
      | true =>
        rw [valid] at checked
        refine ⟨some snapshot, some snapshot, ⟨some value, .finite snapshot.savedAt⟩, count + 1, store, ?_, ?_,
          .json held (checked.trans valid.symm) stamped, rfl, rfl⟩
        · simp [Session.LocalRead.complete, Session.LocalRead.access, Session.LocalRead.resume, valid]
        · simp [held, checked, stamped]
      | false =>
        rw [valid] at checked
        refine ⟨none, _, .absent, count + 2, _, ?_, ?_, removed, rfl, rfl⟩
        · simp [Session.LocalRead.complete, Session.LocalRead.access, Session.LocalRead.resume, valid]
        · simp [held, checked]
    | malformed held rejected =>
      refine ⟨none, _, .absent, count + 2, _, ?_, ?_, removed, rfl, rfl⟩
      · simp [Session.LocalRead.complete, Session.LocalRead.access, Session.LocalRead.resume, rejected]
      · simp [held]

end Storage

end WalkingRpg
