import WalkingRpg.Encounter.WalkSummary

/-! The drain of the walk summary and the check that waits for it.

Only a check issues a drain, and a second check returns at once while one is in flight. So there is a
drain on the write chain exactly while a check waits for one, whatever fails in the store.
-/

set_option autoImplicit false

namespace WalkingRpg

namespace WalkSummary

def Call.isDrain : Call → Bool
  | .drain => true
  | .append _ => false

def Pending.Proper (pending : Pending) : Prop :=
  match pending.phase with
  | .writing _ => pending.call.isDrain = false
  | .removing _ => pending.call.isDrain = true
  | .reading | .discarding => True

def returnsDrain : Option Result → Bool
  | some (.drained _) => true
  | some (.appended _) | none => false

namespace Log

variable {log after : Log} {call : Call} {phase next : Phase} {rest : List Pending} {result : Option Result}

def drains (log : Log) : ℕ := log.writeChain.countP fun pending => pending.call.isDrain

theorem drains_push (call : Call) : (log.push call).drains = log.drains + if call.isDrain then 1 else 0 := by
  simp [drains, push, List.countP_append, List.countP_singleton]

def Proper (log : Log) : Prop := ∀ pending ∈ log.writeChain, pending.Proper

structure Serves (log after : Log) (result : Option Result) : Prop where
  proper : after.Proper
  drains : log.drains = after.drains + if returnsDrain result then 1 else 0

theorem Proper.push (proper : log.Proper) (call : Call) : (log.push call).Proper := by
  intro pending member
  rcases List.mem_append.mp member with old | new
  · exact proper pending old
  · rw [List.mem_singleton.mp new]
    trivial

theorem Proper.goesOn (proper : log.Proper) (chain : log.writeChain = ⟨call, phase⟩ :: rest)
    (continued : after.writeChain = ⟨call, next⟩ :: rest) (kind : Pending.Proper ⟨call, next⟩) :
    Serves log after none where
  proper pending member := by
    rw [continued] at member
    rcases List.mem_cons.mp member with rfl | waiting
    · exact kind
    · exact proper pending (chain ▸ List.mem_cons_of_mem _ waiting)
  drains := by
    rw [drains, drains, chain, continued]
    simp [returnsDrain, List.countP_cons]

theorem Proper.returns (proper : log.Proper) (chain : log.writeChain = ⟨call, phase⟩ :: rest)
    (shortened : after.writeChain = rest) {result : Result} (kind : call.isDrain = returnsDrain (some result)) :
    Serves log after (some result) where
  proper pending member := by
    rw [shortened] at member
    exact proper pending (chain ▸ List.mem_cons_of_mem _ member)
  drains := by
    rw [drains, drains, chain, shortened]
    simp [List.countP_cons, kind]

theorem Proper.loaded (proper : log.Proper) (chain : log.writeChain = ⟨call, phase⟩ :: rest) (content : Option Content)
    (entries : List WalkSummaryEntry) :
    Serves log ({ log with content := content }.proceed call rest (afterLoad call entries)).1
      ({ log with content := content }.proceed call rest (afterLoad call entries)).2 := by
  cases call with
  | append entry => exact proper.goesOn chain rfl rfl
  | drain =>
    cases entries with
    | nil => exact proper.returns chain rfl rfl
    | cons first later => exact proper.goesOn chain rfl rfl

theorem Proper.access (proper : log.Proper) {success : Bool} (accessed : log.access success = some (after, result)) :
    Serves log after result := by
  unfold Log.access at accessed
  split at accessed
  · cases accessed
  · rename_i oldest rest chain
    obtain ⟨call, phase⟩ := oldest
    have kind : Pending.Proper ⟨call, phase⟩ := proper _ (chain ▸ List.mem_cons_self)
    have outcome := Option.some.inj accessed
    cases phase with
    | reading =>
      cases success with
      | false =>
        obtain ⟨rfl, rfl⟩ := Prod.mk.inj outcome
        exact proper.loaded chain log.content []
      | true =>
        unfold advance at outcome
        cases content : log.content with
        | none =>
          rw [content] at outcome
          obtain ⟨rfl, rfl⟩ := Prod.mk.inj outcome
          exact proper.loaded chain none []
        | some found =>
          rw [content] at outcome
          cases found with
          | entries entries =>
            obtain ⟨rfl, rfl⟩ := Prod.mk.inj outcome
            exact proper.loaded chain (some (.entries entries)) entries
          | corrupted =>
            obtain ⟨rfl, rfl⟩ := Prod.mk.inj outcome
            exact proper.goesOn chain rfl trivial
    | discarding =>
      cases success with
      | false =>
        obtain ⟨rfl, rfl⟩ := Prod.mk.inj outcome
        exact proper.loaded chain log.content []
      | true =>
        obtain ⟨rfl, rfl⟩ := Prod.mk.inj outcome
        exact proper.loaded chain none []
    | writing next =>
      cases success <;> obtain ⟨rfl, rfl⟩ := Prod.mk.inj outcome <;> exact proper.returns chain rfl kind
    | removing entries =>
      cases success <;> obtain ⟨rfl, rfl⟩ := Prod.mk.inj outcome <;> exact proper.returns chain rfl kind

end Log

end WalkSummary

def SummaryPhase.isDraining : SummaryPhase → Bool
  | .draining => true
  | .drained _ | .reappending _ _ => false

namespace Walk

variable {walk next : Walk} {action : Action}

def draining (walk : Walk) : Bool := walk.check.any fun task => task.phase.isDraining

/-- A drain is on the chain exactly while the check that issued it waits for it. -/
structure Attended (walk : Walk) : Prop where
  proper : walk.log.Proper
  drains : walk.log.drains = if walk.draining then 1 else 0

theorem attended_start (player : Option Player) (stored : Option Encounter) (content : Option WalkSummary.Content) :
    (start player stored content).Attended :=
  ⟨fun _ member => (by cases member), rfl⟩

namespace Attended

theorem hook (attended : walk.Attended) (action : Hook.Action) (call : Option PassiveResolution) (now : ℚ)
    (after : Hook) : Attended { (walk.follow action).record call now with hook := after } := by
  have same : (walk.follow action).log = walk.log ∧ (walk.follow action).check = walk.check := by
    cases action <;> exact ⟨rfl, rfl⟩
  cases call with
  | none =>
    refine ⟨?_, ?_⟩
    · show (walk.follow action).log.Proper
      rw [same.1]
      exact attended.proper
    · show (walk.follow action).log.drains = if (walk.follow action).draining then 1 else 0
      rw [draining, same.1, same.2]
      exact attended.drains
  | some call =>
    refine ⟨?_, ?_⟩
    · show ((walk.follow action).log.push _).Proper
      rw [same.1]
      exact attended.proper.push _
    · show ((walk.follow action).log.push _).drains = if (walk.follow action).draining then 1 else 0
      rw [draining, same.1, same.2, WalkSummary.Log.drains_push]
      exact attended.drains

theorem checkWalkSummary (attended : walk.Attended) (view : SummaryView) :
    (walk.checkWalkSummary view).Attended := by
  unfold Walk.checkWalkSummary
  split
  · exact attended
  · rename_i unblocked
    have idle : walk.check = none := by
      cases check : walk.check with
      | none => rfl
      | some task => simp [check] at unblocked
    refine ⟨attended.proper.push .drain, ?_⟩
    show (walk.log.push .drain).drains = 1
    rw [WalkSummary.Log.drains_push, attended.drains, draining, idle]
    rfl

theorem draining_of_returns (attended : walk.Attended) {log : WalkSummary.Log} {entries : List WalkSummaryEntry}
    (serves : WalkSummary.Log.Serves walk.log log (some (.drained entries))) :
    walk.draining = true ∧ log.drains = 0 := by
  have drains := serves.drains
  rw [attended.drains] at drains
  cases waits : walk.draining with
  | true => simpa [waits, WalkSummary.returnsDrain] using drains
  | false => simp [waits, WalkSummary.returnsDrain] at drains

theorem deliver (attended : walk.Attended) {log : WalkSummary.Log} {result : Option WalkSummary.Result}
    (serves : WalkSummary.Log.Serves walk.log log result) : ({ walk with log := log }.deliver result).Attended := by
  have goesOn (other : WalkSummary.returnsDrain result = false) : Attended { walk with log := log } := by
    refine ⟨serves.proper, ?_⟩
    have drains := serves.drains
    rw [other, attended.drains] at drains
    exact drains.symm
  cases result with
  | none => exact goesOn rfl
  | some result =>
    cases result with
    | appended done => exact goesOn rfl
    | drained entries =>
      obtain ⟨waits, drains⟩ := attended.draining_of_returns serves
      refine ⟨serves.proper, ?_⟩
      show log.drains = _
      rw [drains]
      unfold draining Walk.deliver
      cases walk.check <;> rfl

theorem reappend (attended : walk.Attended) (idle : walk.draining = false) (view : SummaryView)
    (entries : List WalkSummaryEntry) : (walk.reappend view entries).Attended := by
  have drains := attended.drains
  rw [idle] at drains
  cases entries with
  | nil => exact ⟨attended.proper, drains⟩
  | cons entry rest =>
    refine ⟨attended.proper.push _, ?_⟩
    show (walk.log.push (.append entry)).drains = 0
    rw [WalkSummary.Log.drains_push, drains]
    rfl

theorem present (attended : walk.Attended) {view : SummaryView} {entries : List WalkSummaryEntry}
    (found : walk.check = some ⟨view, .drained entries⟩) : (walk.present view entries).Attended := by
  have idle : walk.draining = false := by
    rw [draining, found]
    rfl
  have drains := attended.drains
  rw [idle] at drains
  unfold Walk.present
  split
  · exact ⟨attended.proper, drains⟩
  · split
    · exact attended.reappend idle view entries
    · exact ⟨attended.proper, drains⟩

theorem step (attended : walk.Attended) (taken : walk.step action = some next) : next.Attended := by
  cases takes_of_step taken with
  | hook now other stepped => exact attended.hook _ _ now _
  | checkWalkSummary first view => exact attended.checkWalkSummary view
  | access accessed => exact attended.deliver (attended.proper.access accessed)
  | present found => exact attended.present found
  | @reappend view rest ticket found =>
    refine attended.reappend ?_ view rest
    rw [draining, found]
    rfl
  | dismissWalkSummary => exact ⟨attended.proper, attended.drains⟩
  | removeKeys success =>
    cases success with
    | false => exact attended
    | true => exact ⟨attended.proper, attended.drains⟩

end Attended

end Walk

end WalkingRpg
