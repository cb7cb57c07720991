import Liminal.Library.Machine
import Mathlib.Data.List.Basic

/-!
# The conversation actor

How messages get from the inbox to receive calls, which phase the actor is in while several threads
end it, and which calls a process still serves. Each part keeps the state it needs.
-/

namespace Liminal

open List Option

inductive ConversationPhase
  | created
  | active
  | completing
  | closed
  | failed
deriving DecidableEq

def ConversationPhase.activate : ConversationPhase → Option ConversationPhase
  | .created | .active => some .active
  | _ => none

inductive CrashPolicy
  | fail
  | routeToNext
  | compensate
deriving DecidableEq

/-! ### Messages and receive calls -/

variable {E : Type}

/-- `timedOut` are the calls that no longer listen; `accepted` and `returned` are the history. -/
structure ConversationInbox (E : Type) where
  phase : ConversationPhase
  inbox : List E
  (pendingReceives timedOut : List Nat)
  accepted : List E
  returned : List (Nat × E)

inductive InboxAction (E : Type)
  | send (message : E)
  | localReply (message : E)
  | receive (call : Nat)
  | timeout (call : Nat)
  | crash (policy : CrashPolicy)
  | close

inductive ConversationContextEntry (E : Type)
  | sent (envelope : E)
  | received (envelope : E)
deriving DecidableEq

namespace ConversationInbox

variable (s : ConversationInbox E)

/-- The result goes to nobody if the call has given up. -/
def sendReply (call : Nat) (message : E) : ConversationInbox E :=
  if call ∈ s.timedOut then s else { s with returned := s.returned ++ [(call, message)] }

def deliver (message : E) : ConversationInbox E := match s.pendingReceives with
  | [] => { s with accepted := s.accepted ++ [message], inbox := s.inbox ++ [message] }
  | waiter :: rest =>
    sendReply { s with accepted := s.accepted ++ [message], pendingReceives := rest } waiter message

/-- The envelope is taken from the inbox before the phase is looked at. -/
def applyReceive (call : Nat) : ConversationInbox E :=
  let taken := { s with inbox := s.inbox.tail }
  match s.phase.activate, s.inbox.head? with
  | none, _ => taken
  | some phase, some envelope => sendReply { taken with phase } call envelope
  | some phase, none => { taken with phase, pendingReceives := s.pendingReceives ++ [call] }

def next : InboxAction E → Option (ConversationInbox E)
  | .send message => s.phase.activate.map fun phase => deliver { s with phase } message
  | .localReply message => some (s.deliver message)
  | .receive call => some (s.applyReceive call)
  | .timeout call => some { s with timedOut := call :: s.timedOut }
  | .crash policy =>
    if s.phase = .closed ∨ policy ≠ .fail then some s
    else some { s with phase := .failed, pendingReceives := [] }
  | .close => some { s with phase := if s.phase = .failed then .failed else .closed, pendingReceives := [] }

end ConversationInbox

def inboxMachine : Machine (ConversationInbox E) (InboxAction E) where
  start s := s = ⟨.created, [], [], [], [], []⟩
  next s := s.next

namespace ConversationInbox

variable {s t : ConversationInbox E} {action : InboxAction E}

/-- A message is handed to a call that still listens, and taken only in a phase that can go on. -/
def Attended (s : ConversationInbox E) : InboxAction E → Prop
  | .send _ | .localReply _ => ∀ waiter ∈ s.pendingReceives.head?, waiter ∉ s.timedOut
  | .receive call => s.inbox = [] ∨ call ∉ s.timedOut ∧ s.phase.activate ≠ none
  | _ => True

/-- Nothing is lost, and nobody waits while messages are there. -/
structure Conserved (s : ConversationInbox E) : Prop where
  messages : s.accepted = s.returned.map Prod.snd ++ s.inbox
  waiters : s.pendingReceives = [] ∨ s.inbox = []

theorem Conserved.deliver (h : s.Conserved)
    (hlistens : ∀ waiter ∈ s.pendingReceives.head?, waiter ∉ s.timedOut) : (s.deliver message).Conserved := by
  cases hpending : s.pendingReceives with
  | nil => constructor <;> simp [ConversationInbox.deliver, hpending, h.messages]
  | cons waiter rest =>
    have hempty := h.waiters.resolve_left (by simp [hpending])
    constructor <;> simp [ConversationInbox.deliver, hpending, sendReply, hlistens, h.messages, hempty]

theorem Conserved.next (h : s.Conserved) (hattended : s.Attended action)
    (hnext : s.next action = some t) : t.Conserved := by
  cases action with
  | send message =>
    obtain ⟨phase, -, rfl⟩ := map_eq_some_iff.mp hnext
    exact Conserved.deliver (s := { s with phase }) ⟨h.messages, h.waiters⟩ hattended
  | localReply message =>
    cases hnext
    exact h.deliver hattended
  | receive call =>
    cases hnext
    cases hinbox : s.inbox with
    | nil =>
      have hmessages := h.messages
      cases hphase : s.phase.activate <;>
        exact ⟨by simpa [applyReceive, hphase, hinbox] using hmessages, .inr (by simp [applyReceive, hphase, hinbox])⟩
    | cons envelope rest =>
      obtain ⟨hlistens, hphase⟩ := hattended.resolve_left (by simp [hinbox])
      obtain ⟨phase, hphase⟩ := ne_none_iff_exists'.mp hphase
      have hnobody := h.waiters.resolve_right (by simp [hinbox])
      constructor <;> simp [applyReceive, hphase, hinbox, sendReply, hlistens, h.messages, hnobody]
  | timeout call =>
    cases hnext
    exact ⟨h.messages, h.waiters⟩
  | crash policy =>
    rw [ConversationInbox.next] at hnext
    split at hnext <;> cases hnext
    exacts [h, ⟨h.messages, .inl rfl⟩]
  | close =>
    cases hnext
    exact ⟨h.messages, .inl rfl⟩

/-- While messages are handed only to calls that listen, those returned and those in the inbox are the
accepted ones in order. -/
theorem messages_conserved (h : inboxMachine.Reaches Attended s) : s.accepted = s.returned.map Prod.snd ++ s.inbox := by
  have hconserved : s.Conserved := h.invariant (fun _ hstart => by cases hstart; exact ⟨rfl, .inl rfl⟩)
    fun _ _ _ => Conserved.next
  exact hconserved.messages

theorem messages_conserved_received :
    ∃ s : ConversationInbox Nat, inboxMachine.Reaches Attended s ∧ s.returned = [(0, 7)] ∧ s.inbox = [8] ∧
      s.accepted = [(0, 7)].map Prod.snd ++ [8] := by
  have hreaches := @Machine.Reaches.next _ _ (inboxMachine (E := Nat)) Attended _ _ (.send 8)
    (.next (a := .send 7) (.next (a := .receive 0) (.start rfl) (.inl rfl) rfl)
      (fun _ _ => List.not_mem_nil) rfl) (fun _ h => by cases h) rfl
  exact ⟨_, hreaches, rfl, rfl, messages_conserved hreaches⟩

/-- The call has timed out, but it is still the first to wait when the message comes. -/
theorem timed_out_receive_consumes :
    ∃ s : ConversationInbox Nat, inboxMachine.Reachable s ∧ s.accepted = [7] ∧ s.returned = [] ∧ s.inbox = [] :=
  ⟨_, Machine.Reachable.run (m := inboxMachine (E := Nat)) (.start rfl)
    (show inboxMachine.run _ [.receive 0, .timeout 0, .send 7] = some _ from rfl), rfl, rfl, rfl⟩

/-! ### A buffered reply and a crash -/

def isReceive : InboxAction E → Bool
  | .receive _ => true
  | _ => false

theorem deliver_keeps (s : ConversationInbox E) (message : E) :
    (∃ more, (s.deliver message).inbox = s.inbox ++ more) ∧ (s.deliver message).phase = s.phase := by
  unfold deliver sendReply
  split
  · exact ⟨⟨[message], rfl⟩, rfl⟩
  · split <;> exact ⟨⟨[], (append_nil _).symm⟩, rfl⟩

/-- A receive takes the first message out, whatever it then does with it. -/
theorem buffered_next (hnext : s.next action = some t) :
    (∃ more, t.inbox = s.inbox.drop (if isReceive action then 1 else 0) ++ more) ∧
      (t.phase.activate ≠ none ↔ s.phase.activate ≠ none ∧ .crash .fail ≠ action ∧ .close ≠ action) := by
  cases action with
  | send message =>
    obtain ⟨phase, hphase, rfl⟩ := map_eq_some_iff.mp hnext
    obtain ⟨hmore, hsame⟩ := deliver_keeps { s with phase } message
    refine ⟨hmore, ?_⟩
    cases hs : s.phase <;> simp_all [ConversationPhase.activate] <;> subst hphase <;> simp
  | localReply message =>
    cases hnext
    obtain ⟨hmore, hsame⟩ := s.deliver_keeps message
    exact ⟨hmore, by simp [hsame]⟩
  | receive call =>
    cases hnext
    cases hs : s.phase <;> cases hinbox : s.inbox <;>
      simp [applyReceive, sendReply, hs, hinbox, isReceive, ConversationPhase.activate] <;> split <;> simp
  | timeout call =>
    cases hnext
    exact ⟨⟨[], (append_nil _).symm⟩, by simp⟩
  | crash policy =>
    rw [ConversationInbox.next] at hnext
    split at hnext <;> cases hnext <;> refine ⟨⟨[], (append_nil _).symm⟩, ?_⟩
    · cases hs : s.phase <;> simp_all [ConversationPhase.activate, eq_comm]
    · simp_all [ConversationPhase.activate]
  | close =>
    cases hnext
    refine ⟨⟨[], (append_nil _).symm⟩, ?_⟩
    split <;> simp [ConversationPhase.activate]

variable {actions : List (InboxAction E)}

theorem buffered_run (hrun : inboxMachine.run s actions = some t) :
    (∃ more, t.inbox = s.inbox.drop (actions.countP isReceive) ++ more) ∧
    (t.phase.activate ≠ none ↔ s.phase.activate ≠ none ∧ .crash .fail ∉ actions ∧ .close ∉ actions) := by
  induction actions generalizing s with
  | nil =>
    cases hrun
    exact ⟨⟨[], (append_nil _).symm⟩, by simp⟩
  | cons action actions ih =>
    obtain ⟨mid, hmid, hrest⟩ := bind_eq_some_iff.mp hrun
    obtain ⟨⟨first, hfirst⟩, hphase⟩ := buffered_next hmid
    obtain ⟨⟨more, hmore⟩, hlater⟩ := ih hrest
    constructor
    · rw [hmore, hfirst, drop_append, drop_drop, append_assoc, countP_cons, Nat.add_comm]
      exact ⟨_, rfl⟩
    · rw [hlater, hphase, mem_cons, mem_cons, not_or, not_or]
      exact ⟨fun ⟨⟨h, hfail, hclose⟩, hfail', hclose'⟩ => ⟨h, ⟨hfail, hfail'⟩, hclose, hclose'⟩,
        fun ⟨h, ⟨hfail, hfail'⟩, hclose, hclose'⟩ => ⟨⟨h, hfail, hclose⟩, hfail', hclose'⟩⟩

/-- The receive whose turn it is returns the message exactly if it still listens and the conversation has
neither failed nor been closed in between. -/
theorem buffered_reply_returned_iff {envelope : E} {call : Nat} (hphase : s.phase.activate ≠ none)
    (hrun : inboxMachine.run s actions = some t) (hinbox : s.inbox[actions.countP isReceive]? = some envelope) :
    (t.applyReceive call).returned = t.returned ++ [(call, envelope)] ↔
      call ∉ t.timedOut ∧ .crash .fail ∉ actions ∧ .close ∉ actions := by
  obtain ⟨⟨more, hmore⟩, hlater⟩ := buffered_run hrun
  have hhead : t.inbox.head? = some envelope := by rw [hmore, head?_append, head?_drop, hinbox]; rfl
  rw [and_iff_right hphase] at hlater
  rw [← hlater]
  cases ht : t.phase.activate <;> by_cases hcall : call ∈ t.timedOut <;>
    simp [applyReceive, ht, hhead, sendReply, hcall]

theorem buffered_reply_returned_second :
    (applyReceive (⟨.active, [7], [], [0], [6, 7], [(0, 6)]⟩ : ConversationInbox Nat) 1).returned =
      [(0, 6)] ++ [(1, 7)] :=
  (buffered_reply_returned_iff (s := ⟨.active, [6, 7], [], [], [6, 7], []⟩) (by decide)
    (show inboxMachine.run _ [.receive 0, .crash .routeToNext, .timeout 0] = some _ from rfl) rfl).mpr
    ⟨by decide, by simp, by simp⟩

/-- The receive after the crash takes the reply out of the inbox and reports an error. -/
theorem buffered_reply_lost :
    ∃ s : ConversationInbox Nat, inboxMachine.Reachable s ∧ s.inbox = [7] ∧ s.phase = .failed ∧
      (s.applyReceive 0).inbox = [] ∧ (s.applyReceive 0).returned = [] :=
  ⟨_, Machine.Reachable.run (m := inboxMachine (E := Nat)) (.start rfl)
    (show inboxMachine.run _ [.send 7, .crash .fail] = some _ from rfl), rfl, rfl, rfl, rfl⟩

/-- What the handlers write into the context: a local reply also when it is put in the inbox. -/
def recorded (s : ConversationInbox E) : InboxAction E → List (ConversationContextEntry E)
  | .send message => .sent message :: if s.pendingReceives = [] then [] else [.received message]
  | .localReply message => [.received message]
  | .receive _ => if s.phase.activate = none then [] else s.inbox.head?.toList.map .received
  | _ => []

end ConversationInbox

/-! ### The history -/

/-- `acknowledged` are the sends whose callers were told that they were accepted, `taken` the operation
replies that the drain has been given. -/
structure ConversationHistory (E : Type) extends ConversationInbox E where
  (operationReplies taken : List (Nat × E))
  context : List (ConversationContextEntry E)
  acknowledged : List E

/-- Without participants a send goes to the conversation itself; otherwise it is forwarded to a
participant, which may not be alive. -/
inductive HistoryAction (E : Type)
  | inbox (action : InboxAction E)
  | forward (message : E) (live : Bool)
  | operationReply (op : Nat) (message : E)
  | tryTakeReply

namespace ConversationHistory

def next (s : ConversationHistory E) : HistoryAction E → Option (ConversationHistory E)
  | .inbox action => (s.toConversationInbox.next action).map fun inbox => { s with
      toConversationInbox := inbox
      context := s.context ++ s.recorded action
      acknowledged := s.acknowledged ++ match action with
        | .send message => [message]
        | _ => [] }
  | .forward message live => s.phase.activate.map fun phase => { s with
      phase
      -- recorded before the participant is tried
      context := s.context ++ [.sent message]
      acknowledged := s.acknowledged ++ if live then [message] else [] }
  | .operationReply op message => some { s with
      context := s.context ++ [.received message]
      operationReplies := s.operationReplies ++ [(op, message)] }
  | .tryTakeReply => some { s with
      taken := s.taken ++ s.operationReplies.take 1
      operationReplies := s.operationReplies.drop 1 }

/-- The sends accepted, the messages returned to calls and those handed to the drain between two states. -/
def applied (s t : ConversationHistory E) : List (ConversationContextEntry E) :=
  (t.acknowledged.drop s.acknowledged.length).map .sent ++
    ((t.returned.drop s.returned.length) ++
      (t.taken ++ t.operationReplies).drop (s.taken ++ s.operationReplies).length).map fun answer => .received answer.2

/-- A message is handed only to a call that listens, a local reply finds such a call, and a participant
that is sent to is alive. -/
def Awaited (s : ConversationHistory E) : HistoryAction E → Prop
  | .inbox (.send _) => ∀ waiter ∈ s.pendingReceives.head?, waiter ∉ s.timedOut
  | .inbox (.localReply _) => ∃ waiter ∈ s.pendingReceives.head?, waiter ∉ s.timedOut
  | .inbox (.receive call) => s.inbox = [] ∨ s.phase.activate = none ∨ call ∉ s.timedOut
  | .forward _ live => live
  | _ => True

end ConversationHistory

def historyMachine : Machine (ConversationHistory E) (HistoryAction E) where
  start s := s = ⟨⟨.created, [], [], [], [], []⟩, [], [], [], []⟩
  next s := s.next

namespace ConversationHistory

variable {s t : ConversationHistory E}

theorem recorded_eq_applied (hawaited : s.Awaited action) (hnext : s.next action = some t) :
    t.context = s.context ++ s.applied t := by
  cases action with
  | inbox action =>
    obtain ⟨inbox, hinbox, rfl⟩ := map_eq_some_iff.mp hnext
    refine congrArg (s.context ++ ·) ?_
    cases action with
    | send message =>
      obtain ⟨phase, -, rfl⟩ := map_eq_some_iff.mp hinbox
      cases hpending : s.pendingReceives <;>
        simp_all [applied, ConversationInbox.recorded, ConversationInbox.deliver, ConversationInbox.sendReply, Awaited]
    | localReply message =>
      cases hinbox
      obtain ⟨waiter, hwaiter, hlistens⟩ := hawaited
      cases hpending : s.pendingReceives <;>
        simp_all [applied, ConversationInbox.recorded, ConversationInbox.deliver, ConversationInbox.sendReply]
    | receive call =>
      cases hinbox
      cases hphase : s.phase.activate <;> cases hhead : s.inbox <;>
        simp_all [applied, ConversationInbox.recorded, ConversationInbox.applyReceive, ConversationInbox.sendReply,
          Awaited]
    | timeout call | close =>
      cases hinbox
      simp [applied, ConversationInbox.recorded]
    | crash policy =>
      rw [ConversationInbox.next] at hinbox
      split at hinbox <;> cases hinbox <;> simp [applied, ConversationInbox.recorded]
  | forward message live =>
    obtain ⟨phase, -, rfl⟩ := map_eq_some_iff.mp hnext
    simp_all [applied, Awaited]
  | operationReply op message =>
    cases hnext
    simp [applied]
  | tryTakeReply =>
    cases hnext
    simp [applied, append_assoc, -drop_one]

/-- If every message handed out finds a call that listens, the context lists the accepted sends and the
messages handed out, each once and in order. -/
theorem history_exact {history : List (ConversationContextEntry E)}
    (h : (historyMachine.recording (fun _ => []) applied).Reaches (fun recorded => Awaited recorded.1) (s, history)) :
    s.context = history := by
  refine @Machine.Reaches.invariant _ _ _ _ (fun recorded => recorded.1.context = recorded.2) ?_ ?_ _ h
  · rintro ⟨s, history⟩ ⟨⟨⟩, ⟨⟩⟩
    rfl
  · rintro ⟨s, history⟩ action _ hsame hawaited hnext
    obtain ⟨t, ht, rfl⟩ := map_eq_some_iff.mp hnext
    exact (recorded_eq_applied hawaited ht).trans (congrArg (· ++ _) hsame)

theorem history_exact_forwarded : ∃ (s : ConversationHistory Nat) (history : _),
    s.acknowledged = [7] ∧ s.returned = [(0, 8)] ∧ history = [.sent 7, .received 8] ∧ s.context = history := by
  have hreaches := @Machine.Reaches.next _ _ ((historyMachine (E := Nat)).recording (fun _ => []) applied)
    (fun recorded => Awaited recorded.1) _ _ (.inbox (.localReply 8))
    (.next (a := .inbox (.receive 0)) (.next (a := .forward 7 true)
      (.start (s := ((⟨⟨.created, [], [], [], [], []⟩, [], [], [], []⟩ : ConversationHistory Nat), [])) ⟨rfl, rfl⟩)
      rfl rfl) (.inl rfl) rfl)
    ⟨0, rfl, not_mem_nil⟩ rfl
  exact ⟨_, _, rfl, rfl, rfl, history_exact hreaches⟩

/-- A reply that waits in the inbox is recorded twice, one handed to a call that has given up is recorded and
not returned, and a send to a dead participant is recorded and not acknowledged. -/
theorem buffered_reply_recorded_twice : (∃ s : ConversationHistory Nat, historyMachine.Reachable s ∧
      s.returned = [(0, 8)] ∧ s.context = [.sent 7, .received 8, .received 8]) ∧
    (∃ s : ConversationHistory Nat, historyMachine.Reachable s ∧ s.returned = [] ∧ s.context = [.received 8]) ∧
    ∃ s : ConversationHistory Nat, historyMachine.Reachable s ∧ s.acknowledged = [] ∧ s.context = [.sent 7] :=
  ⟨Machine.Reachable.exists_of_any (.start rfl)
      [.forward 7 true, .inbox (.localReply 8), .inbox (.receive 0)] (by decide),
    Machine.Reachable.exists_of_any (.start rfl)
      [.inbox (.receive 0), .inbox (.timeout 0), .inbox (.localReply 8)] (by decide),
    Machine.Reachable.exists_of_any (.start rfl) [.forward 7 false] (by decide)⟩

end ConversationHistory

/-! ### The end of a conversation -/

/-- What the actor's own slice has begun. -/
inductive ActorSlice
  | close
  | watcherChecked
  | watcherFailed
deriving DecidableEq

/-- `finalizing`: a teardown has set the marker and not yet the phase. `spawning`: a caller found the
conversation open and no process, and holds the restart lock. -/
structure ConversationEnd where
  phase : ConversationPhase := .created
  finalized : Bool := false
  finalizing : Bool := false
  live : Bool := true
  slice : Option ActorSlice := none
  spawning : Bool := false
  spawns : Nat := 1

inductive EndAction
  | activate
  | close
  | closeMark
  | finalizeMark
  | finalizePhase
  | watcherCheck
  | watcherFail
  | watcherMark
  | crash (policy : CrashPolicy)
  | exit
  | ensureRunning
  | spawn

namespace ConversationEnd

variable (s : ConversationEnd)

def next : EndAction → Option ConversationEnd
  | .activate =>
    if s.live ∧ s.slice = none then s.phase.activate.map fun phase => { s with phase } else none
  | .close =>
    if s.live ∧ s.slice = none then
      some { s with slice := some .close, phase := if s.phase = .failed then .failed else .closed }
    else none
  | .closeMark => if s.slice = some .close then some { s with slice := none, finalized := true } else none
  | .finalizeMark =>
    if s.spawning ∨ s.finalized then none else some { s with finalized := true, finalizing := true }
  | .finalizePhase =>
    if s.finalizing then
      some { s with finalizing := false, live := false, phase := if s.phase = .failed then .failed else .closed }
    else none
  | .watcherCheck =>
    if s.live ∧ s.slice = none ∧ ¬s.finalized then some { s with slice := some .watcherChecked } else none
  | .watcherFail =>
    if s.slice = some .watcherChecked then some { s with slice := some .watcherFailed, phase := .failed } else none
  | .watcherMark =>
    if s.slice = some .watcherFailed then some { s with slice := none, finalized := true } else none
  | .crash policy =>
    if s.finalized ∨ s.phase = .closed ∨ policy ≠ .fail then some s else some { s with phase := .failed }
  | .exit => if s.slice = none then some { s with live := false } else none
  | .ensureRunning =>
    if s.live ∨ s.finalized ∨ s.phase = .closed then none else some { s with spawning := true }
  | .spawn => if s.spawning then some { s with spawning := false, live := true, spawns := s.spawns + 1 } else none

end ConversationEnd

def endMachine (start : ConversationEnd) : Machine ConversationEnd EndAction where
  start s := s = start
  next s := s.next

namespace ConversationEnd

variable {s t : ConversationEnd} {action : EndAction}

def Terminal (phase : ConversationPhase) : Prop := phase = .closed ∨ phase = .failed

/-- No teardown sets the marker between the check of a watcher's exit and the failure that follows. -/
def Unraced (s : ConversationEnd) (action : EndAction) : Prop :=
  action = .watcherFail → s.finalized = false

structure Sound (s : ConversationEnd) : Prop where
  marked : s.finalizing → s.finalized
  settled : s.finalized → s.finalizing ∨ Terminal s.phase
  closing : s.slice = some .close → Terminal s.phase
  failing : s.slice = some .watcherFailed → s.phase = .failed
  busy : s.slice ≠ none → s.live ∨ s.finalized
  spawning : s.spawning → ¬s.finalized ∧ ¬s.live

theorem terminal_ended (phase : ConversationPhase) : Terminal (if phase = .failed then .failed else .closed) := by
  split
  · exact .inr rfl
  · exact .inl rfl

theorem Terminal.activate {phase : ConversationPhase} (h : Terminal phase) : phase.activate = none := by
  rcases h with rfl | rfl <;> rfl

/-- The actor's slice ends with the marker set; nobody can be spawning. -/
theorem Sound.mark (h : s.Sound) (hslice : s.slice ≠ none) (hterminal : Terminal s.phase) :
    Sound { s with slice := none, finalized := true } where
  marked _ := rfl
  settled _ := .inr hterminal
  closing := nofun
  failing := nofun
  busy := nofun
  spawning hspawning := by
    obtain ⟨hopen, hdead⟩ := h.spawning hspawning
    exact ((h.busy hslice).elim hdead hopen).elim

theorem Sound.next (h : s.Sound) (hnext : s.next action = some t) : t.Sound := by
  cases action with
  | activate =>
    obtain ⟨⟨-, hslice⟩, hmap⟩ := ite_none_right_eq_some.mp hnext
    obtain ⟨phase, hphase, rfl⟩ := map_eq_some_iff.mp hmap
    have hopen : ¬Terminal s.phase := fun hterminal => by simp [hterminal.activate] at hphase
    exact { h with
      settled := fun hfinalized => .inl ((h.settled hfinalized).resolve_right hopen)
      closing := by simp [hslice], failing := by simp [hslice] }
  | close =>
    obtain ⟨⟨hlive, -⟩, ⟨⟩⟩ := ite_none_right_eq_some.mp hnext
    have hterminal := terminal_ended s.phase
    exact { h with
      settled := fun _ => .inr hterminal, closing := fun _ => hterminal, failing := nofun
      busy := fun _ => .inl hlive }
  | closeMark =>
    obtain ⟨hslice, ⟨⟩⟩ := ite_none_right_eq_some.mp hnext
    exact h.mark (by simp [hslice]) (h.closing hslice)
  | finalizeMark =>
    obtain ⟨hguard, ⟨⟩⟩ := ite_none_left_eq_some.mp hnext
    exact { h with
      marked := fun _ => rfl, settled := fun _ => .inl rfl, busy := fun _ => .inr rfl
      spawning := fun hspawning => absurd (.inl hspawning) hguard }
  | finalizePhase =>
    obtain ⟨hfinalizing, ⟨⟩⟩ := ite_none_right_eq_some.mp hnext
    have hterminal := terminal_ended s.phase
    exact { h with
      marked := nofun, settled := fun _ => .inr hterminal, closing := fun _ => hterminal
      failing := fun hslice => if_pos (h.failing hslice), busy := fun _ => .inr (h.marked hfinalizing)
      spawning := fun hspawning => ⟨(h.spawning hspawning).1, nofun⟩ }
  | watcherCheck =>
    obtain ⟨⟨hlive, -⟩, ⟨⟩⟩ := ite_none_right_eq_some.mp hnext
    exact { h with closing := nofun, failing := nofun, busy := fun _ => .inl hlive }
  | watcherFail =>
    obtain ⟨hslice, ⟨⟩⟩ := ite_none_right_eq_some.mp hnext
    exact { h with
      settled := fun _ => .inr (.inr rfl), closing := nofun, failing := fun _ => rfl
      busy := fun _ => h.busy (by simp [hslice]) }
  | watcherMark =>
    obtain ⟨hslice, ⟨⟩⟩ := ite_none_right_eq_some.mp hnext
    exact h.mark (by simp [hslice]) (.inr (h.failing hslice))
  | crash policy =>
    rw [ConversationEnd.next] at hnext
    split at hnext <;> cases hnext
    · exact h
    · exact { h with settled := fun _ => .inr (.inr rfl), closing := fun _ => .inr rfl, failing := fun _ => rfl }
  | exit =>
    obtain ⟨hslice, ⟨⟩⟩ := ite_none_right_eq_some.mp hnext
    exact { h with busy := (absurd hslice ·), spawning := fun hspawning => ⟨(h.spawning hspawning).1, nofun⟩ }
  | ensureRunning =>
    obtain ⟨hguard, ⟨⟩⟩ := ite_none_left_eq_some.mp hnext
    simp only [not_or] at hguard
    exact { h with spawning := fun _ => ⟨hguard.2.1, hguard.1⟩ }
  | spawn =>
    obtain ⟨-, ⟨⟩⟩ := ite_none_right_eq_some.mp hnext
    exact { h with busy := fun _ => .inl rfl, spawning := nofun }

/-- A finalized conversation as `s` left it. -/
structure Ended (s t : ConversationEnd) : Prop where
  sound : t.Sound
  finalized : t.finalized = true
  done : t.finalizing = false
  phase : t.phase = s.phase
  spawns : t.spawns = s.spawns

theorem Ended.next (h : Ended start s) (hunraced : s.Unraced action)
    (hnext : s.next action = some t) : Ended start t := by
  have hsound := h.sound.next hnext
  have hterminal := (h.sound.settled h.finalized).resolve_left (by simp [h.done])
  -- The phase is closed or failed, which no step leaves, and nobody is about to spawn.
  cases action with
  | activate => simp [ConversationEnd.next, hterminal.activate] at hnext
  | close =>
    obtain ⟨-, ⟨⟩⟩ := ite_none_right_eq_some.mp hnext
    refine { h with sound := hsound, phase := Eq.trans ?_ h.phase }
    rcases hterminal with hphase | hphase <;> simp [hphase]
  | closeMark | watcherMark =>
    obtain ⟨-, ⟨⟩⟩ := ite_none_right_eq_some.mp hnext
    exact { h with sound := hsound, finalized := rfl }
  | finalizeMark | watcherCheck | ensureRunning => simp [ConversationEnd.next, h.finalized] at hnext
  | finalizePhase => simp [ConversationEnd.next, h.done] at hnext
  | watcherFail => exact absurd (hunraced rfl) (by simp [h.finalized])
  | crash policy =>
    obtain rfl : s = t := by simpa [ConversationEnd.next, h.finalized] using hnext
    exact h
  | exit =>
    obtain ⟨-, ⟨⟩⟩ := ite_none_right_eq_some.mp hnext
    exact { h with sound := hsound }
  | spawn => exact absurd h.finalized (h.sound.spawning (ite_none_right_eq_some.mp hnext).1).1

theorem Sound.reaches (h : (endMachine {}).Reaches Unraced s) : s.Sound :=
  h.invariant (fun _ hstart => by cases hstart; constructor <;> simp) fun _ _ _ h _ => h.next

/-- If no teardown comes between a watcher's exit and the failure that follows, a finalized conversation keeps its
terminal phase and no process is spawned for it. -/
theorem terminal_phase_stable (h : (endMachine {}).Reaches Unraced s) (hfinalized : s.finalized = true)
    (hdone : s.finalizing = false) (hlater : (endMachine s).Reaches Unraced t) :
    Terminal s.phase ∧ t.phase = s.phase ∧ t.spawns = s.spawns := by
  have hsound := Sound.reaches h
  have hended : Ended s t := hlater.invariant
    (fun _ hstart => by cases hstart; exact ⟨hsound, hfinalized, hdone, rfl, rfl⟩) fun _ _ _ => Ended.next
  exact ⟨(hsound.settled hfinalized).resolve_left (by simp [hdone]), hended.phase, hended.spawns⟩

/-- A participant crashes and the process ends after the close. -/
theorem terminal_phase_stable_closed : ∃ s t : ConversationEnd, s.phase = .closed ∧ t.live = false ∧
    Terminal s.phase ∧ t.phase = s.phase ∧ t.spawns = s.spawns := by
  have hunraced {s action} (h : action ≠ .watcherFail) : Unraced s action := (absurd · h)
  have h := @Machine.Reaches.next _ _ (endMachine {}) Unraced _ _ .closeMark
    (.next (a := .close) (.start rfl) (hunraced nofun) rfl) (hunraced nofun) rfl
  exact ⟨_, _, rfl, rfl, terminal_phase_stable h rfl rfl
    (.next (a := .exit) (.next (a := .crash .fail) (.start rfl) (hunraced nofun) rfl) (hunraced nofun) rfl)⟩

/-- The watcher's exit is checked, then a teardown closes the conversation, then the check's failure is recorded. -/
theorem closed_becomes_failed :
    ∃ s t : ConversationEnd, (endMachine {}).Reachable s ∧ s.finalized = true ∧ s.finalizing = false ∧
      s.phase = .closed ∧ s.next .watcherFail = some t ∧ t.phase = .failed :=
  ⟨_, _, Machine.Reachable.run (m := endMachine {}) (.start rfl)
    (show (endMachine {}).run _ [.watcherCheck, .finalizeMark, .finalizePhase] = some _ from rfl),
    rfl, rfl, rfl, rfl, rfl⟩

end ConversationEnd

/-! ### Calls and their commands -/

inductive CallKind
  | receive
  | close
  | other

/-- Callers in `pushed` have queued their command for a process and not yet sent the wake-up. -/
structure ConversationCalls where
  commands : List (Nat × CallKind) := []
  nextCommandId : Nat := 0
  pushed : List (Nat × Nat) := []
  pendingReceives : List Nat := []
  finalized : Bool := false
  currentPid : Nat := 0
  live : Bool := true
  mailbox : Nat := 0
  answered : List Nat := []

inductive CallAction
  | enqueue (kind : CallKind) (pid : Nat)
  | wake (index : Nat)
  | processNextCommand (parks : Bool)
  | answerReceives (count : Nat)
  | finalize
  | exit
  | spawn

namespace ConversationCalls

variable (s : ConversationCalls)

def answer (calls : List Nat) : ConversationCalls := { s with answered := s.answered ++ calls }

def markFinalizedAndDrain : ConversationCalls :=
  answer { s with finalized := true, commands := [], pendingReceives := [] }
    (s.commands.map Prod.fst ++ s.pendingReceives)

/-- A command whose wake-up finds no process is taken back. -/
def wake (id pid : Nat) : ConversationCalls :=
  if s.live ∧ pid = s.currentPid then { s with mailbox := s.mailbox + 1 }
  else answer { s with commands := s.commands.filter (·.1 ≠ id) } (if id ∈ s.answered then [] else [id])

/-- A receive is parked if the inbox is empty. -/
def processNextCommand (parks : Bool) : ConversationCalls := match s.commands with
  | [] => { s with mailbox := s.mailbox - 1 }
  | (id, kind) :: rest =>
    let popped := { s with mailbox := s.mailbox - 1, commands := rest }
    match kind with
    | .receive =>
      if parks ∧ ¬s.finalized then { popped with pendingReceives := s.pendingReceives ++ [id] } else popped.answer [id]
    | .close => popped.markFinalizedAndDrain.answer [id]
    | .other => popped.answer [id]

def next : CallAction → Option ConversationCalls
  | .enqueue kind pid =>
    let numbered := { s with nextCommandId := s.nextCommandId + 1 }
    if s.finalized then some (numbered.answer [s.nextCommandId])
    else some { numbered with
      commands := s.commands ++ [(s.nextCommandId, kind)]
      pushed := s.pushed ++ [(s.nextCommandId, pid)] }
  | .wake index => s.pushed[index]?.map fun call => wake { s with pushed := s.pushed.eraseIdx index } call.1 call.2
  | .processNextCommand parks =>
    if s.live ∧ 0 < s.mailbox then some (s.processNextCommand parks) else none
  | .answerReceives count =>
    -- one for a message, all of them when a participant crashes
    some (answer { s with pendingReceives := s.pendingReceives.drop count } (s.pendingReceives.take count))
  | .finalize => if s.finalized then none else some { s.markFinalizedAndDrain with live := false, mailbox := 0 }
  | .exit => some { s with live := false, mailbox := 0 }
  | .spawn =>
    if s.finalized ∨ s.live then none else some { s with currentPid := s.currentPid + 1, live := true }

end ConversationCalls

def callMachine : Machine ConversationCalls CallAction where
  start s := s = {}
  next s := s.next

namespace ConversationCalls

variable {s t : ConversationCalls} {action : CallAction}

/-- A call finds the process it is meant for, and a process ends only when nobody waits for it. -/
def Orderly (s : ConversationCalls) : CallAction → Prop
  | .enqueue _ pid => s.finalized ∨ s.live ∧ pid = s.currentPid
  | .exit => s.finalized ∨ s.commands = [] ∧ s.pushed = [] ∧ s.pendingReceives = []
  | _ => True

structure Served (s : ConversationCalls) : Prop where
  places : ∀ id, s.answered.count id + (s.commands.map Prod.fst).count id + s.pendingReceives.count id =
    if id < s.nextCommandId then 1 else 0
  pushed : ∀ call ∈ s.pushed, call.1 < s.nextCommandId ∧ (s.finalized = false → s.live ∧ call.2 = s.currentPid)
  ended : s.finalized → s.commands = [] ∧ s.pendingReceives = []
  covered : s.commands.length ≤ s.mailbox + s.pushed.length
  waiting : s.commands ≠ [] ∨ s.pendingReceives ≠ [] → s.live

theorem Served.enqueue (h : s.Served) (horderly : s.Orderly (.enqueue kind pid))
    (hnext : s.next (.enqueue kind pid) = some t) : t.Served := by
  obtain ⟨hplaces, hpushed, hended, hcovered, hwaiting⟩ := h
  rw [next] at hnext
  split at hnext <;> cases hnext <;> constructor <;> grind [answer, Orderly]

theorem Served.processNextCommand (h : s.Served) (parks : Bool) (hmailbox : 0 < s.mailbox) :
    (s.processNextCommand parks).Served := by
  obtain ⟨hplaces, hpushed, hended, hcovered, hwaiting⟩ := h
  unfold ConversationCalls.processNextCommand
  split
  · constructor <;> grind
  · split <;> constructor <;> grind [answer, markFinalizedAndDrain]

theorem Served.next (h : s.Served) (horderly : s.Orderly action) (hnext : s.next action = some t) : t.Served := by
  have ⟨hplaces, hpushed, hended, hcovered, hwaiting⟩ := h
  cases action with
  | enqueue kind pid => exact h.enqueue horderly hnext
  | wake index =>
    obtain ⟨call, hcall, rfl⟩ := map_eq_some_iff.mp hnext
    have hlength := length_eraseIdx_of_lt (List.getElem?_eq_some_iff.mp hcall).1
    have hpushed := fun other hother => hpushed other (mem_of_mem_eraseIdx (i := index) hother)
    unfold ConversationCalls.wake
    split
    · exact ⟨hplaces, hpushed, hended, by simp only [hlength]; omega, hwaiting⟩
    · constructor <;> grind [answer]
  | processNextCommand parks =>
    obtain ⟨⟨-, hmailbox⟩, ⟨⟩⟩ := ite_none_right_eq_some.mp hnext
    exact h.processNextCommand parks hmailbox
  | answerReceives count =>
    cases hnext
    have hsplit := take_append_drop count s.pendingReceives
    constructor <;> grind [answer]
  | finalize =>
    obtain ⟨-, ⟨⟩⟩ := ite_none_left_eq_some.mp hnext
    constructor <;> grind [answer, markFinalizedAndDrain]
  | exit =>
    cases hnext
    constructor <;> grind [Orderly]
  | spawn =>
    obtain ⟨hdead, ⟨⟩⟩ := ite_none_left_eq_some.mp hnext
    constructor <;> grind

theorem run_processNextCommand {count} (parks : Bool) (hlive : s.live) (hmailbox : count ≤ s.mailbox)
    (hlength : s.commands.length ≤ count) :
    ∃ t, callMachine.run s (replicate count (.processNextCommand parks)) = some t ∧ t.commands = [] := by
  induction count generalizing s with
  | zero => exact ⟨s, rfl, eq_nil_of_length_eq_zero (Nat.le_zero.mp hlength)⟩
  | succ count ih =>
    have hnext : callMachine.next s (.processNextCommand parks) = some _ := if_pos ⟨hlive, by omega⟩
    rw [replicate_succ, Machine.run, hnext]
    apply ih <;> grind [ConversationCalls.processNextCommand, answer, markFinalizedAndDrain]

/-- In orderly runs every call is answered once or still waits, and once the wake-ups have been sent the
process serves every command. -/
theorem calls_answered (h : callMachine.Reaches Orderly s) : (∀ id < s.nextCommandId,
      s.answered.count id + (s.commands.map Prod.fst).count id + s.pendingReceives.count id = 1) ∧
    (s.commands ≠ [] ∨ s.pendingReceives ≠ [] → s.live) ∧
    ∀ parks, s.pushed = [] → ∃ t, callMachine.run s (replicate s.commands.length (.processNextCommand parks)) = some t ∧
      t.commands = [] := by
  have hserved : s.Served :=
    h.invariant (fun _ hstart => by cases hstart; constructor <;> simp) fun _ _ _ => Served.next
  refine ⟨fun id hid => (hserved.places id).trans (if_pos hid), hserved.waiting, fun parks hpushed => ?_⟩
  have hcovered := hserved.covered
  rw [hpushed, length_nil, Nat.add_zero] at hcovered
  cases hcommands : s.commands with
  | nil => exact ⟨s, rfl, hcommands⟩
  | cons command rest =>
    rw [← hcommands]
    exact run_processNextCommand parks (hserved.waiting (.inl (by simp [hcommands]))) hcovered (Nat.le_refl _)

theorem calls_answered_served : ∃ s t : ConversationCalls, s.commands.map Prod.fst = [0] ∧ s.live ∧
    callMachine.run s [.processNextCommand false] = some t ∧ t.commands = [] := by
  have hreaches : callMachine.Reaches Orderly { commands := [(0, .other)], nextCommandId := 1, mailbox := 1 } :=
    .next (a := .wake 0) (.next (a := .enqueue .other 0) (.start rfl) (.inr ⟨rfl, rfl⟩) rfl) trivial rfl
  obtain ⟨-, hlive, hserved⟩ := calls_answered hreaches
  obtain ⟨t, hrun, hempty⟩ := hserved false rfl
  exact ⟨_, t, rfl, hlive (.inl (cons_ne_nil _ _)), hrun, hempty⟩

/-- The process ends abnormally with a command in its queue, whose caller waits on. -/
theorem call_left_waiting :
    ∃ s : ConversationCalls, callMachine.Reachable s ∧ s.commands.map Prod.fst = [0] ∧ s.pushed = [] ∧
      s.live = false ∧ s.answered = [] :=
  ⟨_, Machine.Reachable.run (m := callMachine) (.start rfl)
    (show callMachine.run _ [.enqueue .other 0, .wake 0, .exit] = some _ from rfl), rfl, rfl, rfl, rfl⟩

end ConversationCalls

end Liminal
