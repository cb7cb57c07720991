import Liminal.Library.Service
import Liminal.Wire.Primitives

/-!
# Startup

A server that starts passes over its conversations three times: it restores every registered one and
records those it could not; it finishes the connection fates that were opened and never completed;
and it ends the bindings that earlier incarnations left behind.

What happens inside one conversation is a parameter. The capacity ledger, the observers, the durable
completions of the opened fates and an unreadable registry are left out.
-/

namespace Liminal

inductive ConnectionFateClass
  | cleanDisconnect
  | serverShutdown
  | connectionLost
  | protocolError

structure ConnectionFateWorkItem where
  openSequence : Nat
  connectionIncarnation : ConnectionIncarnation
  fateClass : ConnectionFateClass
  trackedConversations : List ConversationId

/-- A connection fate that one of its conversations could not finish. From then on the service refuses
everything. -/
structure ParticipantServiceFatal where
  openSequence : Nat
  conversationId : ConversationId

inductive ParticipantSemanticError (Failure : Type)
  | state (failure : Failure)
  | conversationUnloadable (conversationId : ConversationId) (reason : ParticipantSemanticError Failure)
  | serviceFatal (fatal : ParticipantServiceFatal)
  | internal (fatal : ParticipantServiceFatal) (error : ParticipantSemanticError Failure)

/-- What an operation on a loaded owner leaves. An owner that was discarded or evicted is replayed at the next
touch. -/
structure Touched (Log Owner Failure : Type) where
  log : Log
  owner : Option Owner
  result : Except Failure Unit

structure ConversationOperations (Log Owner Failure : Type) where
  replay : Log → Except Failure Owner
  /-- The repairs after a replay; they may append. -/
  repair : Owner → Log → Log × Except Failure Owner
  durablyEmpty : Owner → Bool
  /-- Whether anything was drained, or why the lane refused. -/
  drainRestoredCandidateLane : Owner → Log → Log × Except Failure Bool
  completeConnectionFate : ConnectionFateWorkItem → Owner → Log → Touched Log Owner Failure
  completeUncleanServerRestart : Nat → Owner → Log → Touched Log Owner Failure
  /-- The refusal of a terminal because the candidate lane is occupied. -/
  isPrecedence : Failure → Bool

structure ParticipantHandler (Log Owner Failure : Type) where
  logs : ConversationId → Log
  owners : ConversationId → Option Owner
  unloadable : ConversationId → Option (ParticipantSemanticError Failure)
  fatal : Option ParticipantServiceFatal

variable {Log Owner Failure : Type}

namespace ParticipantHandler

abbrev Handled (Log Owner Failure : Type) :=
  Service (ParticipantHandler Log Owner Failure) (ParticipantSemanticError Failure)

variable (ops : ConversationOperations Log Owner Failure) (item : ConnectionFateWorkItem)
  (conversation : ConversationId)

def setLog (log : Log) : Handled Log Owner Failure Unit :=
  modify fun h => { h with logs := Function.update h.logs conversation log }

def setOwner (owner : Option Owner) : Handled Log Owner Failure Unit :=
  modify fun h => { h with owners := Function.update h.owners conversation owner }

def recordUnloadable (error : ParticipantSemanticError Failure) : Handled Log Owner Failure Unit :=
  modify fun h => { h with unloadable := Function.update h.unloadable conversation (some error) }

def clearUnloadable : Handled Log Owner Failure Unit :=
  modify fun h => { h with unloadable := Function.update h.unloadable conversation none }

def stateResult {α : Type} (result : Except Failure α) : Handled Log Owner Failure α :=
  match result with
  | .ok a => pure a
  | .error failure => throw (.state failure)

def ensureServiceLive : Handled Log Owner Failure Unit := do
  match (← get).fatal with
  | some fatal => throw (.serviceFatal fatal)
  | none => return

def latchConnectionFateFatal (openSequence : Nat) (conversation : ConversationId) :
    Handled Log Owner Failure ParticipantServiceFatal := do
  let fatal := (← get).fatal.getD ⟨openSequence, conversation⟩
  modify fun h => { h with fatal := some fatal }
  return fatal

/-! ### Loading -/

def replayAndRepair : Handled Log Owner Failure Owner := do
  let log := (← get).logs conversation
  let replayed ← stateResult (ops.replay log)
  let repaired := ops.repair replayed log
  setLog conversation repaired.1
  stateResult repaired.2

/-- A conversation without a first enrollment is evicted again. -/
def restoreOneConversation : Handled Log Owner Failure Unit := do
  match (← get).owners conversation with
  | some _ => return
  | none =>
    let replayed ← replayAndRepair ops conversation
    if ops.durablyEmpty replayed then return
    let drained := ops.drainRestoredCandidateLane replayed ((← get).logs conversation)
    setLog conversation drained.1
    let owner ← if ← stateResult drained.2 then replayAndRepair ops conversation else pure replayed
    setOwner conversation (some owner)

/-- Whatever fails inside one conversation is recorded, and the next one is restored. -/
def restoreAllConversations (registered : List ConversationId) : Handled Log Owner Failure Unit :=
  registered.forM fun conversation =>
    tryCatch (restoreOneConversation ops conversation) (recordUnloadable conversation)

/-- The owner of a conversation, replayed if there is none. A conversation that cannot be loaded is refused by
its name. -/
def loadedOwner : Handled Log Owner Failure Owner := do
  match (← get).owners conversation with
  | some owner => return owner
  | none =>
    let replayed ← tryCatch (replayAndRepair ops conversation) fun error => do
      recordUnloadable conversation error
      throw (.conversationUnloadable conversation error)
    clearUnloadable conversation
    return replayed

def withConversation (operation : Owner → Log → Touched Log Owner Failure)
    (conversation : ConversationId) : Handled Log Owner Failure Unit := do
  let owner ← loadedOwner ops conversation
  let touched := operation owner ((← get).logs conversation)
  setLog conversation touched.log
  setOwner conversation touched.owner
  stateResult touched.result

/-! ### Fates and the restart -/

def isPrecedence : ParticipantSemanticError Failure → Bool
  | .state failure => ops.isPrecedence failure
  | _ => false

/-- A conversation that fails ends the service, unless its lane was only occupied. -/
def applyConnectionFateTo : Handled Log Owner Failure Unit :=
  tryCatch (withConversation ops (ops.completeConnectionFate item) conversation) fun error =>
    if isPrecedence ops error then throw error
    else do
      let fatal ← latchConnectionFateFatal item.openSequence conversation
      throw (.internal fatal error)

def applyConnectionFate : Handled Log Owner Failure Unit := do
  ensureServiceLive
  item.trackedConversations.forM (applyConnectionFateTo ops item)

def repairUncleanServerRestart (registered : List ConversationId) (serverIncarnation : Nat) :
    Handled Log Owner Failure Unit := do
  ensureServiceLive
  registered.forM (withConversation ops (ops.completeUncleanServerRestart serverIncarnation))

/-! ### A log that cannot be replayed -/

variable {ops item conversation} {other : ConversationId} {log : Log} {failure : Failure}

def Unloaded (conversation : ConversationId) (log : Log) (h : ParticipantHandler Log Owner Failure) : Prop :=
  h.logs conversation = log ∧ h.owners conversation = none

theorem keeps_setLog (hne : conversation ≠ other) (log' : Log) :
    Service.Keeps (Unloaded conversation log) (setLog other log' : Handled Log Owner Failure Unit) := by
  intro h hh
  refine ⟨?_, hh.2⟩
  show Function.update h.logs other log' conversation = log
  rw [Function.update_of_ne hne, hh.1]

theorem keeps_setOwner (hne : conversation ≠ other) (owner : Option Owner) :
    Service.Keeps (Unloaded conversation log) (setOwner other owner : Handled Log Owner Failure Unit) := by
  intro h hh
  refine ⟨hh.1, ?_⟩
  show Function.update h.owners other owner conversation = none
  rw [Function.update_of_ne hne, hh.2]

theorem keeps_unloadable (update : ParticipantHandler Log Owner Failure →
      ConversationId → Option (ParticipantSemanticError Failure)) : Service.Keeps (Unloaded conversation log)
      (modify fun h => { h with unloadable := update h } : Handled Log Owner Failure Unit) :=
  fun _ hh => hh

theorem stateResult_same (result : Except Failure α)
    (h : ParticipantHandler Log Owner Failure) : ((stateResult result).exec h).2 = h := by
  cases result <;> rfl

theorem ensureServiceLive_same (h : ParticipantHandler Log Owner Failure) : (ensureServiceLive.exec h).2 = h := by
  show ((match h.fatal with
    | some fatal => throw (.serviceFatal fatal)
    | none => pure () : Handled Log Owner Failure Unit).exec h).2 = h
  cases h.fatal <;> rfl

theorem keeps_replayAndRepair (hne : conversation ≠ other) :
    Service.Keeps (Unloaded conversation log) (replayAndRepair ops other) :=
  .bind (.of_same fun _ => rfl) fun _ => .bind (.of_same (stateResult_same _)) fun _ =>
    .bind (keeps_setLog hne _) fun _ => .of_same (stateResult_same _)

section

variable {h : ParticipantHandler Log Owner Failure} (hreplay : ops.replay log = .error failure)

include hreplay

section

variable (hh : Unloaded conversation log h)
include hh

theorem replayAndRepair_unloaded : (replayAndRepair ops conversation).exec h = (.error (.state failure), h) := by
  have hfails : ops.replay (h.logs conversation) = .error failure := by rw [hh.1, hreplay]
  show ((stateResult (ops.replay (h.logs conversation))) >>= _ : Handled Log Owner Failure Owner).exec h = _
  rw [hfails]
  rfl

theorem loadedOwner_unloaded :
    (loadedOwner ops conversation).exec h = (.error (.conversationUnloadable conversation (.state failure)),
        { h with unloadable := Function.update h.unloadable conversation (some (.state failure)) }) := by
  unfold loadedOwner
  show ((match h.owners conversation with
    | some owner => pure owner
    | none => _ : Handled Log Owner Failure Owner)).exec h = _
  rw [hh.2]
  rw [Service.exec_bind, Service.exec_tryCatch, replayAndRepair_unloaded hreplay hh]
  rfl

/-- A request on a conversation that cannot be loaded is refused by its name. Only the record of it changes. -/
theorem withConversation_unloaded (operation : Owner → Log → Touched Log Owner Failure) :
    (withConversation ops operation conversation).exec h =
      (.error (.conversationUnloadable conversation (.state failure)),
        { h with unloadable := Function.update h.unloadable conversation (some (.state failure)) }) := by
  unfold withConversation
  rw [Service.exec_bind, loadedOwner_unloaded hreplay hh]

end

theorem keeps_withConversation (operation : Owner → Log → Touched Log Owner Failure) (other : ConversationId) :
    Service.Keeps (Unloaded conversation log) (withConversation ops operation other) := by
  by_cases hsame : conversation = other
  · subst hsame
    intro h hh
    rw [withConversation_unloaded hreplay hh]
    exact hh
  · refine .bind (.bind (.of_same fun _ => rfl) fun h => ?_) fun owner =>
      .bind (.of_same fun _ => rfl) fun _ => .bind (keeps_setLog hsame _) fun _ =>
      .bind (keeps_setOwner hsame _) fun _ => .of_same (stateResult_same _)
    cases h.owners other with
    | some owner => exact .of_same fun _ => rfl
    | none =>
      refine .bind (.tryCatch (keeps_replayAndRepair hsame) fun error => ?_) fun _ =>
        .bind (keeps_unloadable _) fun _ => .of_same fun _ => rfl
      exact .bind (keeps_unloadable _) fun _ => .of_same fun _ => rfl

theorem keeps_restoreOneConversation (other : ConversationId) :
    Service.Keeps (Unloaded conversation log) (restoreOneConversation ops other) := by
  by_cases hsame : conversation = other
  · subst hsame
    intro h hh
    unfold restoreOneConversation
    show Unloaded conversation log ((match h.owners conversation with
      | some _ => pure ()
      | none => _ : Handled Log Owner Failure Unit).exec h).2
    rw [hh.2]
    rw [Service.exec_bind, replayAndRepair_unloaded hreplay hh]
    exact hh
  · refine .bind (.of_same fun _ => rfl) fun h => ?_
    cases h.owners other with
    | some owner => exact .of_same fun _ => rfl
    | none =>
      refine .bind (keeps_replayAndRepair hsame) fun replayed => ?_
      split
      · exact .of_same fun _ => rfl
      · refine .bind (.of_same fun _ => rfl) fun _ => .bind (keeps_setLog hsame _) fun _ =>
          .bind (.of_same (stateResult_same _)) fun drained => ?_
        split
        · exact .bind (keeps_replayAndRepair hsame) fun _ => keeps_setOwner hsame _
        · exact .bind (.of_same fun _ => rfl) fun _ => keeps_setOwner hsame _

theorem keeps_restoreAllConversations (registered : List ConversationId) :
    Service.Keeps (Unloaded conversation log) (restoreAllConversations ops registered) :=
  .forM fun other _ => .tryCatch (keeps_restoreOneConversation hreplay other) fun _ =>
    keeps_unloadable _

theorem keeps_applyConnectionFateTo (item : ConnectionFateWorkItem) (other : ConversationId) :
    Service.Keeps (Unloaded conversation log) (applyConnectionFateTo ops item other) := by
  refine .tryCatch (keeps_withConversation hreplay _ other) fun error => ?_
  split
  · exact .of_same fun _ => rfl
  · exact .bind (fun _ hh => hh) fun _ => .of_same fun _ => rfl

theorem keeps_applyConnectionFate (item : ConnectionFateWorkItem) :
    Service.Keeps (Unloaded conversation log) (applyConnectionFate ops item) :=
  .bind (.of_same ensureServiceLive_same) fun _ => .forM fun other _ =>
    keeps_applyConnectionFateTo hreplay item other

theorem refuses_applyConnectionFate (hitem : conversation ∈ item.trackedConversations) : Service.Refuses
    (Unloaded conversation log) (applyConnectionFate ops item) := by
  refine .after (.of_same ensureServiceLive_same) fun _ => .forM hitem
    (fun other _ => keeps_applyConnectionFateTo hreplay item other) fun h hh => ?_
  rw [applyConnectionFateTo, Service.exec_tryCatch, withConversation_unloaded hreplay hh]
  exact ⟨_, rfl⟩

theorem refuses_repairUncleanServerRestart (hregistered : conversation ∈ registered) (serverIncarnation : Nat) :
    Service.Refuses (Unloaded conversation log) (repairUncleanServerRestart ops registered serverIncarnation) :=
  .after (.of_same ensureServiceLive_same) fun _ =>
    .forM hregistered (fun other _ => keeps_withConversation hreplay _ other) fun h hh =>
      ⟨_, by rw [withConversation_unloaded hreplay hh]⟩

end

end ParticipantHandler

structure StartupStore (Log : Type) where
  logs : ConversationId → Log
  registered : List ConversationId
  opened : List ConnectionFateWorkItem
  serverIncarnation : Nat

namespace StartupStore

open ParticipantHandler

variable (ops : ConversationOperations Log Owner Failure) (store : StartupStore Log)

/-- The handler is made, the opened fates are recovered and the restart is repaired. The server starts only if
all of it succeeds. -/
def startup : Except (ParticipantSemanticError Failure) Unit × ParticipantHandler Log Owner Failure :=
  Service.exec (do
    restoreAllConversations ops store.registered
    store.opened.forM (applyConnectionFate ops)
    repairUncleanServerRestart ops store.registered store.serverIncarnation)
    ⟨store.logs, fun _ => none, fun _ => none, none⟩

def Replays (conversation : ConversationId) : Bool := (ops.replay (store.logs conversation)).isOk

def onlyReplayable : StartupStore Log :=
  { store with
    registered := store.registered.filter (store.Replays ops)
    opened := store.opened.map fun item =>
      { item with trackedConversations := item.trackedConversations.filter (store.Replays ops) } }

def named : List ConversationId :=
  store.registered ++ store.opened.flatMap ConnectionFateWorkItem.trackedConversations

variable {ops store}

/-- One conversation whose log cannot be replayed keeps the server from starting. -/
theorem startup_fails {conversation : ConversationId} {failure : Failure}
    (hnamed : conversation ∈ store.named) (hreplay : ops.replay (store.logs conversation) = .error failure) :
    ∃ error, (store.startup ops).1 = .error error := by
  have hrestores : Service.Keeps (Unloaded conversation (store.logs conversation))
      (restoreAllConversations ops store.registered) :=
    keeps_restoreAllConversations hreplay store.registered
  have hopens : Service.Keeps (Unloaded conversation (store.logs conversation))
      (store.opened.forM (applyConnectionFate ops)) :=
    .forM fun item _ => keeps_applyConnectionFate hreplay item
  have hrefuses : Service.Refuses (Unloaded conversation (store.logs conversation)) (do
      restoreAllConversations ops store.registered
      store.opened.forM (applyConnectionFate ops)
      repairUncleanServerRestart ops store.registered store.serverIncarnation) := by
    refine .after hrestores fun _ => ?_
    rcases List.mem_append.mp hnamed with hregistered | hopened
    · exact .after hopens fun _ => refuses_repairUncleanServerRestart hreplay hregistered _
    · obtain ⟨item, hitem, htracked⟩ := List.mem_flatMap.mp hopened
      exact .bind (.forM hitem (fun item _ => keeps_applyConnectionFate hreplay item)
        (refuses_applyConnectionFate hreplay htracked))
  exact hrefuses _ ⟨rfl, rfl⟩

theorem onlyReplayable_eq (h : ∀ conversation ∈ store.named, store.Replays ops conversation = true) :
    store.onlyReplayable ops = store := by
  have hitem : ∀ item ∈ store.opened, { item with
      trackedConversations := item.trackedConversations.filter (store.Replays ops) } = item := by
    intro item hitem
    have htracked : item.trackedConversations.filter (store.Replays ops) = item.trackedConversations :=
      List.filter_eq_self.mpr fun conversation hconv => h conversation
        (List.mem_append_right _ (List.mem_flatMap.mpr ⟨item, hitem, hconv⟩))
    rw [htracked]
  have hregistered : store.registered.filter (store.Replays ops) = store.registered :=
    List.filter_eq_self.mpr fun conversation hconv =>
      h conversation (List.mem_append_left _ hconv)
  have hopened := (List.map_congr_left hitem).trans (List.map_id' store.opened)
  rw [onlyReplayable, hregistered, hopened]

/-- Where the replayable conversations start by themselves, the broken ones are contained exactly if
startup comes across none of them. -/
theorem startup_contained_iff (hreplayable : ((store.onlyReplayable ops).startup ops).1 = .ok ()) :
    ((store.startup ops).1 = .ok () ∧ (∀ conversation, store.Replays ops conversation = true →
        (store.startup ops).2.owners conversation = ((store.onlyReplayable ops).startup ops).2.owners conversation ∧
          (store.startup ops).2.logs conversation = ((store.onlyReplayable ops).startup ops).2.logs conversation) ∧
      ∀ h, (store.startup ops).2 = h → ∀ (conversation : ConversationId) (failure : Failure)
        (operation : Owner → Log → Touched Log Owner Failure),
        ops.replay (h.logs conversation) = .error failure → h.owners conversation = none →
          (withConversation ops operation conversation).exec h =
            (.error (.conversationUnloadable conversation (.state failure)),
              { h with unloadable := Function.update h.unloadable conversation (some (.state failure)) })) ↔
      ∀ conversation ∈ store.named, store.Replays ops conversation = true := by
  constructor
  · rintro ⟨hstarted, -, -⟩ conversation hnamed
    cases hreplay : ops.replay (store.logs conversation) with
    | ok owner => rw [Replays, hreplay]; rfl
    | error failure =>
      obtain ⟨error, hfails⟩ := startup_fails hnamed hreplay
      rw [hstarted] at hfails
      cases hfails
  · intro hall
    rw [onlyReplayable_eq hall] at hreplayable ⊢
    refine ⟨hreplayable, fun _ _ => ⟨rfl, rfl⟩, ?_⟩
    rintro h - conversation failure operation hreplay hnone
    exact withConversation_unloaded hreplay ⟨rfl, hnone⟩ operation

/-- Logs of rows that can be decoded or not. A restart appends one row. -/
def rowOperations : ConversationOperations (List Bool) Nat Unit where
  replay log := if log.all id then .ok log.length else .error ()
  repair owner log := (log, .ok owner)
  durablyEmpty owner := owner == 0
  drainRestoredCandidateLane _ log := (log, .ok false)
  completeConnectionFate _ owner log := ⟨log, some owner, .ok ()⟩
  completeUncleanServerRestart _ owner log := ⟨log ++ [true], some (owner + 1), .ok ()⟩
  isPrecedence _ := false

/-- Two registered conversations; the second has a row that may be one that cannot be decoded. -/
def twoConversations (decoded : Bool) : StartupStore (List Bool) :=
  ⟨fun conversation => if conversation = 2 then [true, decoded] else [true], [1, 2], [], 3⟩

theorem startup_contained_twoConversations :
    (((twoConversations true).onlyReplayable rowOperations).startup rowOperations).1 = .ok () ∧
      ((twoConversations true).startup rowOperations).1 = .ok () :=
  ⟨rfl, ((startup_contained_iff rfl).mpr (by decide)).1⟩

/-- The first conversation alone is restored and repaired; with the second one the server does not start. -/
theorem broken_conversation_stops_startup :
    (((twoConversations false).onlyReplayable rowOperations).startup rowOperations).1 = .ok () ∧
      (((twoConversations false).onlyReplayable rowOperations).startup rowOperations).2.owners 1 = some 2 ∧
      ((twoConversations false).startup rowOperations).1 = .error (.conversationUnloadable 2 (.state ())) :=
  ⟨rfl, rfl, rfl⟩

end StartupStore

end Liminal
