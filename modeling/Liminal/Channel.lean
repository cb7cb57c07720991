import Liminal.Library.Machine
import Mathlib.Data.List.Nodup

/-!
# A channel, its log and its actor

The actor validates a publication under the current schema, fills in defaults and sends it to the
subscribers. A durable channel first appends the publication as given; when, in which order and
whether an appended publication is served are choices of the run.

Commands wait in a queue that outlives the actor's process, whose mailbox of wake-ups dies with it.
-/

namespace Liminal

open List Option

structure Envelope (P C : Type) where
  payload : P
  causalContext : Option C
deriving DecidableEq

inductive ChannelError
  | channelClosed
  | schemaMismatch
  | deliveryFailed
  | subscriptionFailed
  | invalidSchema

structure ChannelState (P : Type) where
  schema : P → Option P
  closed : Bool
  subscribers : List Nat

variable {P C : Type}

/-- The envelope that the subscribers are sent. -/
def ChannelState.applyPublish (state : ChannelState P) (envelope : Envelope P C) : Except ChannelError (Envelope P C) :=
  if state.closed then .error .channelClosed
  else
    match state.schema envelope.payload with
    | none => .error .schemaMismatch
    | some payload => .ok { envelope with payload }

/-! ### The log -/

def readBatchSize : Nat := 1024

def readFrom {α : Type} (log : List α) (offset : Nat) : List α := (log.drop offset).take readBatchSize

/-- Reads batches until one is empty. -/
def replayFrom {α : Type} (log : List α) (offset : Nat) : List α :=
  if 0 < (readFrom log offset).length then
    readFrom log offset ++ replayFrom log (offset + (readFrom log offset).length)
  else []
termination_by log.length - offset
decreasing_by
  have hbatch : (readFrom log offset).length ≤ log.length - offset := by
    rw [readFrom, length_take, length_drop]
    exact Nat.min_le_right _ _
  omega

theorem replayFrom_eq (log : List α) (offset : Nat) : replayFrom log offset = log.drop offset := by
  fun_induction replayFrom log offset with
  | case1 offset _ ih =>
    rw [ih, ← drop_drop, readFrom, length_take, ← drop_eq_drop_min, take_append_drop]
  | case2 offset hempty =>
    simp only [readFrom, length_take, readBatchSize, length_drop] at hempty
    exact (drop_eq_nil_of_le (by omega)).symm

structure DurableChannel (P C : Type) where
  state : ChannelState P
  (log persisted sent : List (Envelope P C))

inductive DurableAction (P C : Type)
  | persist (envelope : Envelope P C)
  | publish (index : Nat)
  | fail (index : Nat)
  | evolve (schema : P → Option P)
  | close

def DurableChannel.next (s : DurableChannel P C) : DurableAction P C → Option (DurableChannel P C)
  | .persist envelope =>
    -- the log keeps no causal context, and nothing has been validated
    some { s with
      log := s.log ++ [{ envelope with causalContext := none }]
      persisted := s.persisted ++ [envelope] }
  | .publish index => s.persisted[index]?.map fun envelope =>
    { s with
      persisted := s.persisted.eraseIdx index
      sent := s.sent ++ (s.state.applyPublish envelope).toOption.toList }
  | .fail index => s.persisted[index]?.map fun _ => { s with persisted := s.persisted.eraseIdx index }
  | .evolve schema => some { s with state := { s.state with schema } }
  | .close => some { s with state := { s.state with closed := true } }

def durableMachine : Machine (DurableChannel P C) (DurableAction P C) where
  start s := ∃ schema, s = ⟨⟨schema, false, []⟩, [], [], []⟩
  next := DurableChannel.next

/-- What is appended has no causal context and is valid as it is, also when it is served, and the appended are
served in their order. -/
def DurableChannel.Plain (s : DurableChannel P C) : DurableAction P C → Prop
  | .persist envelope => envelope.causalContext = none ∧ s.state.applyPublish envelope = .ok envelope
  | .publish index => index = 0
  | .fail _ => False
  | .evolve schema => ∀ envelope ∈ s.persisted, schema envelope.payload = some envelope.payload
  | .close => s.persisted = []

/-- In plain runs the log is what has been sent and what is about to be. -/
theorem replay_eq_sent {s : DurableChannel P C} (h : durableMachine.Reaches DurableChannel.Plain s) :
    replayFrom s.log 0 = s.sent ++ s.persisted := by
  rw [replayFrom_eq, drop_zero]
  refine (@Machine.Reaches.invariant _ _ _ _ (fun s => s.log = s.sent ++ s.persisted ∧
    ∀ envelope ∈ s.persisted, s.state.applyPublish envelope = .ok envelope) ?_ ?_ _ h).1
  · rintro s ⟨schema, rfl⟩
    exact ⟨rfl, by simp⟩
  rintro s action s' ⟨hlog, hvalid⟩ hplain hnext
  cases action with
  | persist envelope =>
    cases hnext
    obtain ⟨payload, context⟩ := envelope
    obtain ⟨rfl, hsame⟩ := hplain
    exact ⟨by simp [hlog], fun other hother => (mem_append.mp hother).elim (hvalid other)
      fun hnew => by rw [mem_singleton.mp hnew, hsame]⟩
  | publish index =>
    obtain ⟨envelope, hfirst, rfl⟩ := map_eq_some_iff.mp hnext
    obtain ⟨⟩ := hplain
    obtain ⟨rest, hpersisted⟩ := head?_eq_some_iff.mp (head?_eq_getElem?.trans hfirst)
    rw [hpersisted] at hlog hvalid ⊢
    rw [hvalid envelope mem_cons_self]
    exact ⟨hlog.trans (append_cons ..), fun other hother => hvalid other (mem_cons_of_mem _ hother)⟩
  | fail index => cases hplain
  | evolve schema =>
    cases hnext
    refine ⟨hlog, fun envelope henvelope => ?_⟩
    have hopen := hvalid envelope henvelope
    simp only [ChannelState.applyPublish, hplain envelope henvelope] at hopen ⊢
    split at hopen
    · cases hopen
    · rename_i hclosed
      rw [if_neg hclosed]
  | close =>
    cases hnext
    exact ⟨hlog, by simp [show s.persisted = [] from hplain]⟩

/-- Two publishers have appended and one of them has been served. -/
theorem replay_eq_sent_two : ∃ s : DurableChannel Nat Nat, s.sent = [⟨1, none⟩] ∧ s.persisted = [⟨2, none⟩] ∧
    replayFrom s.log 0 = s.sent ++ s.persisted :=
  ⟨_, rfl, rfl, replay_eq_sent (.next (a := .publish 0) (.next (a := .persist ⟨2, none⟩)
    (.next (a := .persist ⟨1, none⟩) (.start ⟨some, rfl⟩) ⟨rfl, rfl⟩ rfl) ⟨rfl, rfl⟩ rfl) rfl rfl)⟩

/-- Two publishers are served in the other order, one of them with a causal context, and a third is refused. -/
theorem replay_differs_from_sent : ∃ s : DurableChannel Nat Nat, durableMachine.Reachable s ∧
    replayFrom s.log 0 = [⟨1, none⟩, ⟨2, none⟩, ⟨3, none⟩] ∧ s.sent ++ s.persisted = [⟨2, none⟩, ⟨1, some 0⟩] := by
  simp only [replayFrom_eq]
  exact Machine.Reachable.exists_of_any (.start ⟨fun payload => if payload = 3 then none else some payload, rfl⟩)
    [.persist ⟨1, some 0⟩, .persist ⟨2, none⟩, .persist ⟨3, none⟩, .publish 1, .publish 0, .publish 0] (by decide)

/-! ### The actor -/

inductive ChannelCommandKind (P C : Type)
  | boot
  | publish (envelope : Envelope P C)
  | subscribe (pid : Nat)
  | unsubscribe (pid : Nat)
  | evolve (evolved : Option (P → Option P))
  | schemaId
  | listSubscribers
  | close

/-- A process that has served a close is shut down. -/
def ChannelCommandKind.stops : ChannelCommandKind P C → Bool
  | .close => true
  | _ => false

/-- What a caller is answered, with the envelope that was sent for a publication. -/
abbrev ChannelReply (P C : Type) := Except ChannelError (Option (Envelope P C))

def ChannelReply.sent : ChannelReply P C → Bool
  | .ok (some _) => true
  | _ => false

/-- The answers of the link facility for each process, none if there is no such process. -/
abbrev Links := Nat → Option Bool

/-- The registrations are taken out, and are lost if one of the links fails. -/
def ChannelState.applyBoot (state : ChannelState P) (links : Links) : ChannelState P × ChannelReply P C :=
  let live := state.subscribers.filter fun pid => (links pid).isSome
  if live.all fun pid => links pid = some true then ({ state with subscribers := live }, .ok none)
  else ({ state with subscribers := [] }, .error .subscriptionFailed)

def ChannelState.apply (state : ChannelState P) (links : Links) :
    ChannelCommandKind P C → ChannelState P × ChannelReply P C
  | .boot => state.applyBoot links
  | .publish envelope => (state, (state.applyPublish envelope).map some)
  | .subscribe pid =>
    if state.closed then (state, .error .channelClosed)
    else if links pid = some true then ({ state with subscribers := state.subscribers ++ [pid] }, .ok none)
    else (state, .error .subscriptionFailed)
  | .unsubscribe pid =>
    if links pid = some false then (state, .error .subscriptionFailed)
    else ({ state with subscribers := state.subscribers.filter (· ≠ pid) }, .ok none)
  | .evolve none => (state, .error .invalidSchema)
  | .evolve (some schema) => ({ state with schema }, .ok none)
  | .schemaId | .listSubscribers => (state, .ok none)
  | .close => ({ state with closed := true }, .ok none)

/-- The answers to commands that are served one after the other, each under its own id. -/
def ChannelState.answers (state : ChannelState P) :
    List ((Nat × ChannelCommandKind P C) × Links) → List (Nat × ChannelReply P C)
  | [] => []
  | ((id, kind), links) :: rest => (id, (state.apply links kind).2) :: (state.apply links kind).1.answers rest

/-- Callers in `pushed` have queued their command and not yet sent the wake-up. -/
structure ChannelActorCore (P C : Type) where
  state : ChannelState P
  commands : List (Nat × ChannelCommandKind P C)
  (nextCommandId currentPid : Nat)
  alive : Bool
  mailbox : Nat
  pushed : List (Nat × Nat)
  replies : List (Nat × ChannelReply P C)

inductive ChannelAction (P C : Type)
  | enqueue (kind : ChannelCommandKind P C) (pid : Nat)
  | wake (index : Nat)
  | processNextCommand (links : Links)
  | exit
  | spawn
  | giveUp (id : Nat)

namespace ChannelActorCore

variable (s : ChannelActorCore P C)

def Live (pid : Nat) : Prop := s.alive ∧ pid = s.currentPid

instance (pid : Nat) : Decidable (s.Live pid) := inferInstanceAs (Decidable (_ ∧ _))

/-- The calls that are queued or answered. -/
def ids : List Nat := s.commands.map Prod.fst ++ s.replies.map Prod.fst

/-- The publications that were sent for some calls. -/
def deliveries (calls : List Nat) : List (Nat × ChannelReply P C) :=
  s.replies.filter fun reply => reply.1 ∈ calls ∧ reply.2.sent

def reply (id : Nat) (result : ChannelReply P C) : ChannelActorCore P C :=
  { s with replies := s.replies ++ [(id, result)] }

/-- A command whose wake-up finds no process is taken back. -/
def wake (index id pid : Nat) : ChannelActorCore P C :=
  if s.Live pid then { s with pushed := s.pushed.eraseIdx index, mailbox := s.mailbox + 1 }
  else reply { s with
    pushed := s.pushed.eraseIdx index
    commands := s.commands.filter fun command => command.1 ≠ id } id (.error .deliveryFailed)

def processNextCommand (links : Links) : ChannelActorCore P C := match s.commands with
  | [] => { s with mailbox := s.mailbox - 1 }
  | (id, kind) :: rest => reply { s with
      alive := !kind.stops
      mailbox := if kind.stops then 0 else s.mailbox - 1
      commands := rest
      state := (s.state.apply links kind).1 } id (s.state.apply links kind).2

def next : ChannelAction P C → Option (ChannelActorCore P C)
  | .enqueue kind pid => some { s with
      commands := s.commands ++ [(s.nextCommandId, kind)]
      nextCommandId := s.nextCommandId + 1
      pushed := s.pushed ++ [(s.nextCommandId, pid)] }
  | .wake index => s.pushed[index]?.map fun call => s.wake index call.1 call.2
  | .processNextCommand links => if s.alive ∧ 0 < s.mailbox then some (s.processNextCommand links) else none
  | .exit => if s.alive then some { s with alive := false, mailbox := 0 } else none
  | .spawn => if s.alive then none else some { s with currentPid := s.currentPid + 1, alive := true }
  | .giveUp id =>
    -- a dead process or the timeout ends the wait; the command is not taken back
    if id < s.nextCommandId ∧ id ∉ s.pushed.map Prod.fst then some (s.reply id (.error .deliveryFailed))
    else none

end ChannelActorCore

def channelMachine : Machine (ChannelActorCore P C) (ChannelAction P C) where
  start s := ∃ schema, s = ⟨⟨schema, false, []⟩, [], 0, 0, true, 0, [], []⟩
  next := ChannelActorCore.next

namespace ChannelActorCore

variable {s s' : ChannelActorCore P C} {action : ChannelAction P C}

/-- A call finds the process it is meant for and no close before it in the queue, and a process ends on its own only
when nothing is queued. -/
def Orderly (s : ChannelActorCore P C) : ChannelAction P C → Prop
  | .enqueue _ pid => s.Live pid ∧ ∀ command ∈ s.commands, command.2.stops = false
  | .exit => s.commands = [] ∧ s.pushed = []
  | _ => True

/-- Every queued command has its wake-up, in the mailbox or about to be sent. -/
structure Covered (s : ChannelActorCore P C) : Prop where
  wakeUps : s.commands.length = s.mailbox + s.pushed.length
  live : ∀ call ∈ s.pushed, s.Live call.2
  dead : s.alive = false → s.mailbox = 0
  last : ∀ command ∈ s.commands.dropLast, command.2.stops = false

/-- A close that is served was the last command, with the last wake-up. -/
theorem Covered.processNextCommand (h : s.Covered) (links : Links) (hmailbox : 0 < s.mailbox) :
    (s.processNextCommand links).Covered := by
  have hlength := h.wakeUps
  have hlast := h.last
  unfold ChannelActorCore.processNextCommand
  split
  · rename_i hnone
    rw [hnone, length_nil] at hlength
    omega
  · rename_i id kind rest hcommands
    rw [hcommands] at hlast hlength
    cases hstops : kind.stops with
    | false =>
      refine ⟨?_, fun call hcall => ⟨rfl, (h.live call hcall).2⟩, nofun, ?_⟩
      · simp only [reply, length_cons, Bool.false_eq_true, if_false] at hlength ⊢
        omega
      · cases rest with
        | nil => simp [reply]
        | cons next others => exact fun command hcommand => hlast command (mem_cons_of_mem _ hcommand)
    | true =>
      cases rest with
      | nil =>
        have hpushed : s.pushed = [] := eq_nil_of_length_eq_zero (by simp at hlength; omega)
        exact ⟨by simp [reply, hpushed], by simp [reply, hpushed], fun _ => rfl, by simp [reply]⟩
      | cons next others => exact absurd (hlast _ mem_cons_self) (by simp [hstops])

theorem Covered.next (h : s.Covered) (horderly : s.Orderly action) (hnext : s.next action = some s') : s'.Covered := by
  have hlength := h.wakeUps
  cases action with
  | enqueue kind pid =>
    cases hnext
    refine ⟨?_, fun call hcall => ?_, h.dead, by simpa using horderly.2⟩
    · simp only [length_append, length_singleton]
      omega
    · rcases mem_append.mp hcall with hold | hnew
      · exact h.live call hold
      · rw [mem_singleton.mp hnew]
        exact horderly.1
  | wake index =>
    obtain ⟨call, hcall, rfl⟩ := map_eq_some_iff.mp hnext
    have hlive := h.live call (mem_of_getElem? hcall)
    obtain ⟨hindex, -⟩ := List.getElem?_eq_some_iff.mp hcall
    rw [wake, if_pos hlive]
    refine ⟨?_, fun other hother => h.live other (mem_of_mem_eraseIdx hother), fun hdead => ?_, h.last⟩
    · simp only [length_eraseIdx_of_lt hindex]
      omega
    · cases hlive.1.symm.trans hdead
  | processNextCommand links =>
    obtain ⟨⟨-, hmailbox⟩, ⟨⟩⟩ := ite_none_right_eq_some.mp hnext
    exact h.processNextCommand links hmailbox
  | exit =>
    obtain ⟨-, ⟨⟩⟩ := ite_none_right_eq_some.mp hnext
    obtain ⟨hcommands, hpushed⟩ := horderly
    exact ⟨by simp [hcommands, hpushed], by simp [hpushed], fun _ => rfl, h.last⟩
  | spawn =>
    obtain ⟨hdead, ⟨⟩⟩ := ite_none_left_eq_some.mp hnext
    exact ⟨hlength, fun call hcall => absurd (h.live call hcall).1 hdead, nofun, h.last⟩
  | giveUp id =>
    obtain ⟨-, ⟨⟩⟩ := ite_none_right_eq_some.mp hnext
    exact ⟨hlength, h.live, h.dead, h.last⟩

/-- A mailbox with a wake-up for every command empties the queue and answers every command. -/
theorem run_processNextCommand (h : s.Covered) (hpushed : s.pushed = [])
    (hserved : served.length = s.mailbox) :
    ∃ s', channelMachine.run s (served.map .processNextCommand) = some s' ∧ s'.commands = [] ∧
      s'.replies = s.replies ++ s.state.answers (s.commands.zip served) := by
  induction served generalizing s with
  | nil =>
    have hnone : s.commands = [] := eq_nil_of_length_eq_zero (by rw [h.wakeUps, hpushed, ← hserved]; rfl)
    exact ⟨s, rfl, hnone, by simp [hnone, ChannelState.answers]⟩
  | cons links served ih =>
    have hmailbox : 0 < s.mailbox := hserved ▸ Nat.succ_pos _
    have hlength : s.commands.length = served.length + 1 := by rw [h.wakeUps, hpushed, ← hserved]; rfl
    have halive : s.alive := by
      by_contra hdead
      exact Nat.ne_of_gt hmailbox (h.dead (by simpa using hdead))
    obtain ⟨⟨id, kind⟩, rest, hcommands⟩ := exists_cons_of_length_eq_add_one hlength
    have hcovered := h.processNextCommand links hmailbox
    have hnext : channelMachine.next s (.processNextCommand links) = some _ := if_pos ⟨halive, hmailbox⟩
    rw [processNextCommand, hcommands] at hcovered hnext
    rw [hcommands] at hlength
    obtain ⟨s', hrun, hempty, hreplies⟩ := ih hcovered hpushed
      ((Nat.succ.inj hlength).symm.trans (hcovered.wakeUps.trans (by simp [reply, hpushed])))
    refine ⟨s', ?_, hempty, hreplies.trans (by simp [reply, hcommands, ChannelState.answers])⟩
    rw [map_cons, Machine.run, hnext]
    exact hrun

/-- Nobody gives up waiting, and a command whose wake-up finds no process has not been served. -/
def Settled (s : ChannelActorCore P C) : ChannelAction P C → Prop
  | .wake index => ∀ call ∈ s.pushed[index]?, s.Live call.2 ∨ call.1 ∉ s.replies.map Prod.fst
  | .giveUp _ => False
  | _ => True

structure Inert (s : ChannelActorCore P C) : Prop where
  nodup : s.ids.Nodup
  below : ∀ id ∈ s.ids, id < s.nextCommandId
  calls : ∀ call ∈ s.pushed, call.1 < s.nextCommandId

/-- A call that is none of the kept ones becomes queued or answered. -/
theorem Inert.add (h : s.Inert) {id : Nat} {kept : List Nat} (hids : s'.ids.Perm (id :: kept))
    (hkept : kept.Sublist s.ids) (hnot : id ∉ kept) (hid : id < s'.nextCommandId) (hnext : s.nextCommandId ≤
    s'.nextCommandId) (hpushed : ∀ call ∈ s'.pushed, call ∈ s.pushed ∨ call.1 = id) : s'.Inert := by
  refine ⟨hids.nodup_iff.mpr (nodup_cons.mpr ⟨hnot, h.nodup.sublist hkept⟩), fun other hother => ?_,
    fun call hcall => ?_⟩
  · rcases mem_cons.mp (hids.mem_iff.mp hother) with rfl | hold
    · exact hid
    · exact Nat.lt_of_lt_of_le (h.below other (hkept.subset hold)) hnext
  · rcases hpushed call hcall with hold | rfl
    · exact Nat.lt_of_lt_of_le (h.calls call hold) hnext
    · exact hid

theorem ids_reply (id : Nat) (result : ChannelReply P C) : (s.reply id result).ids.Perm (id :: s.ids) := by
  simp only [ids, reply, map_append, ← append_assoc]
  exact perm_append_singleton ..

theorem Inert.next (h : s.Inert) (hsettled : s.Settled action) (hnext : s.next action = some s') : s'.Inert := by
  cases action with
  | enqueue kind pid =>
    cases hnext
    refine h.add ?_ (.refl _) (fun hmem => Nat.lt_irrefl _ (h.below _ hmem)) (Nat.lt_succ_self _)
      (Nat.le_succ _) fun call hcall => ?_
    · simp only [ids, map_append, append_assoc]
      exact perm_middle
    · exact (mem_append.mp hcall).imp_right fun hnew => by rw [mem_singleton.mp hnew]
  | wake index =>
    obtain ⟨call, hcall, rfl⟩ := map_eq_some_iff.mp hnext
    have hcalls : ∀ other ∈ s.pushed.eraseIdx index, other ∈ s.pushed := fun _ => mem_of_mem_eraseIdx
    unfold wake
    split
    · exact ⟨h.nodup, h.below, fun other hother => h.calls other (hcalls other hother)⟩
    · rename_i hdead
      refine h.add (ids_reply ..) ((filter_sublist.map _).append (.refl _)) (fun hmem => ?_)
        (h.calls call (mem_of_getElem? hcall)) (Nat.le_refl _) fun other hother => .inl (hcalls other hother)
      rcases mem_append.mp hmem with hqueued | hserved
      · simp at hqueued
      · exact (hsettled call hcall).resolve_left hdead hserved
  | processNextCommand links =>
    obtain ⟨-, ⟨⟩⟩ := ite_none_right_eq_some.mp hnext
    unfold processNextCommand
    split
    · exact ⟨h.nodup, h.below, h.calls⟩
    · rename_i id kind rest hcommands
      have hids : s.ids = id :: (rest.map Prod.fst ++ s.replies.map Prod.fst) := by
        rw [ids, hcommands, map_cons, cons_append]
      exact h.add (ids_reply ..) (hids ▸ sublist_cons_self ..) (nodup_cons.mp (hids ▸ h.nodup)).1
        (h.below id (hids ▸ mem_cons_self)) (Nat.le_refl _) fun _ => .inl
  | exit =>
    obtain ⟨-, ⟨⟩⟩ := ite_none_right_eq_some.mp hnext
    exact ⟨h.nodup, h.below, h.calls⟩
  | spawn =>
    obtain ⟨-, ⟨⟩⟩ := ite_none_left_eq_some.mp hnext
    exact ⟨h.nodup, h.below, h.calls⟩
  | giveUp id => cases hsettled

/-- In settled runs a call is answered once, an error means that it is not queued any more, and of calls of which
all but one have failed at most one is sent. -/
theorem failed_publish_never_sent (h : channelMachine.Reaches Settled s) :
    (s.replies.map Prod.fst).Nodup ∧ (∀ id error, (id, .error error) ∈ s.replies →
      id ∉ s.commands.map Prod.fst ∧ ∀ envelope, (id, .ok (some envelope)) ∉ s.replies) ∧
    ∀ (last : Nat) (failed : List Nat), (∀ id ∈ failed, ∃ error, (id, .error error) ∈ s.replies) →
      (s.deliveries (last :: failed)).length ≤ 1 := by
  have hinert : s.Inert := by
    refine h.invariant ?_ fun _ _ _ hs hsettled hnext => hs.next hsettled hnext
    rintro s ⟨schema, rfl⟩
    exact ⟨nodup_nil, by simp [ids], by simp⟩
  obtain ⟨-, hreplies, hapart⟩ := nodup_append.mp hinert.nodup
  have hnever : ∀ id error, (id, .error error) ∈ s.replies → ∀ envelope, (id, .ok (some envelope)) ∉ s.replies :=
    fun id error hfailed envelope hsent => by cases inj_on_of_nodup_map hreplies hfailed hsent rfl
  refine ⟨hreplies, fun id error hfailed => ⟨fun hqueued => ?_, hnever id error hfailed⟩, fun last failed hfailed => ?_⟩
  · exact hapart id hqueued id (mem_map_of_mem hfailed) rfl
  -- whatever was sent was sent for the last call
  have hlast : ∀ id ∈ (s.deliveries (last :: failed)).map Prod.fst, id = last := by
    simp only [deliveries, List.mem_map, mem_filter, decide_eq_true_eq]
    rintro _ ⟨⟨id, reply⟩, ⟨hmem, hcall, hsent⟩, rfl⟩
    refine (mem_cons.mp hcall).resolve_right fun hid => ?_
    obtain ⟨error, herror⟩ := hfailed id hid
    match reply, hsent with
    | .ok (some envelope), _ => exact hnever id error herror envelope hmem
  have hnodup : ((s.deliveries (last :: failed)).map Prod.fst).Nodup := hreplies.sublist (filter_sublist.map _)
  rw [eq_replicate_of_mem hlast, nodup_replicate, length_map] at hnodup
  exact hnodup

/-- The first call finds no process, and the retry is served by the next one. -/
theorem failed_publish_never_sent_retried : ∃ s : ChannelActorCore Nat Nat,
    s.replies = [(0, .error .deliveryFailed), (1, .ok (some ⟨1, none⟩))] ∧ (s.deliveries [1, 0]).length ≤ 1 := by
  have hfailed : channelMachine.Reaches Settled
      (⟨⟨some, false, []⟩, [], 1, 0, false, 0, [], [(0, .error .deliveryFailed)]⟩ : ChannelActorCore Nat Nat) :=
    .next (a := .wake 0) (.next (a := .enqueue (.publish ⟨1, none⟩) 0) (.next (a := .exit) (.start ⟨some, rfl⟩)
      trivial rfl) trivial rfl) (by simp [Settled]) rfl
  have hretried : channelMachine.Reaches Settled (⟨⟨some, false, []⟩, [], 2, 1, true, 0, [],
      [(0, .error .deliveryFailed), (1, .ok (some ⟨1, none⟩))]⟩ : ChannelActorCore Nat Nat) :=
    .next (a := .processNextCommand fun _ => none) (.next (a := .wake 0) (.next (a := .enqueue (.publish ⟨1, none⟩) 1)
      (.next (a := .spawn) hfailed trivial rfl) trivial rfl) (by simp [Settled]) rfl) trivial rfl
  exact ⟨_, rfl, (failed_publish_never_sent hretried).2.2 1 [0] (by simp)⟩

/-- The wake-up of the next process's boot serves the publication of a caller that has given up. -/
theorem failed_publish_sent_later : ∃ s : ChannelActorCore Nat Nat, channelMachine.Reachable s ∧
    s.replies = [(0, .error .deliveryFailed), (0, .ok (some ⟨1, none⟩))] :=
  ⟨_, Machine.Reachable.run (.start ⟨some, rfl⟩) (show channelMachine.run _ [.enqueue (.publish ⟨1, none⟩) 0, .wake 0,
    .exit, .giveUp 0, .spawn, .enqueue .boot 1, .wake 0, .processNextCommand fun _ => none] = some _ from rfl), rfl⟩

end ChannelActorCore

end Liminal
