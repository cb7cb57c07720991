import Liminal.Library.Codec
import Liminal.Library.Machine
import Mathlib.Data.List.Induction

/-!
# Durable conversations

A conversation is a log of events with conditional appends; the store holds each as bytes. A handle
keeps the state it has replayed and the sequence it expects to append at; handles are opened,
recovered from the log, cloned and lost at any time. Sets and maps are lists without repetition.
-/

namespace Liminal

open List Option

variable {M B : Type} [DecidableEq M]

inductive ConversationEvent (M B : Type)
  | messageReceived (messageId : M) (receivedAt : Nat)
  | processingStarted (messageId : M)
  | stepCompleted (messageId : M) (stepIndex : Nat) (output : B)
  | processingFinished (messageId : M)
  | errorOccurred (messageId error : M)

/-! ### Entries -/

namespace ConversationEvent

open Codec Get

inductive EventError
  | lengthOverflow
  | truncated
  | invalidMagic
  | invalidUtf8
  | invalidTag (tag : Nat)
  | trailingBytes

/-- `LCE1` -/
def magic : Bytes := [0x4C, 0x43, 0x45, 0x31]

def writeUnsigned (width value : Nat) : Put EventError := .unsigned .lengthOverflow width value

def writeBytes (value : Bytes) : Put EventError := .seq [writeUnsigned 8 value.length, .ok value]

def writeString (value : String) : Put EventError := writeBytes value.toUTF8.data.toList

def putEntry (tag : Nat) (fields : List (Put EventError)) : Put EventError :=
  .seq (.ok magic :: writeUnsigned 1 tag :: fields)

def serialize : ConversationEvent String Bytes → Except EventError Bytes
  | messageReceived messageId receivedAt => putEntry 1 [writeString messageId, writeUnsigned 8 receivedAt]
  | processingStarted messageId => putEntry 2 [writeString messageId]
  | stepCompleted messageId stepIndex output =>
    putEntry 3 [writeString messageId, writeUnsigned 4 stepIndex, writeBytes output]
  | processingFinished messageId => putEntry 4 [writeString messageId]
  | errorOccurred messageId error => putEntry 5 [writeString messageId, writeString error]

def readExact : Nat → Get EventError Bytes := take fun _ _ => .truncated

def readUnsigned : Nat → Get EventError Nat := unsigned fun _ _ => .truncated

def readBytes : Get EventError Bytes := readUnsigned 8 >>= readExact

def readString : Get EventError String := do
  orFail .invalidUtf8 (String.fromUTF8? ⟨(← readBytes).toArray⟩)

def readFields : Nat → Get EventError (ConversationEvent String Bytes)
  | 1 => do messageReceived (← readString) <$> readUnsigned 8
  | 2 => processingStarted <$> readString
  | 3 => do stepCompleted (← readString) (← readUnsigned 4) <$> readBytes
  | 4 => processingFinished <$> readString
  | 5 => do errorOccurred (← readString) <$> readString
  | tag => fail (.invalidTag tag)

def readEvent : Get EventError (ConversationEvent String Bytes) := do
  require ((← readExact magic.length) = magic) .invalidMagic
  readUnsigned 1 >>= readFields

def deserialize (bytes : Bytes) : Except EventError (ConversationEvent String Bytes) := do
  let (event, left) ← readEvent ⟨bytes, false⟩
  Fallible.require (left.rest = []) .trailingBytes
  return event

theorem unsigned_reads {width value : Nat} : Reads (readUnsigned width) (writeUnsigned width value) value :=
  Codec.unsigned_reads _ _ _ _

theorem exact_reads {bytes : Bytes} : Reads (readExact bytes.length) (.ok bytes : Put EventError) bytes := by
  rintro _ ⟨⟩ rest
  exact take_append

theorem bytes_reads {bytes : Bytes} : Reads readBytes (writeBytes bytes) bytes :=
  .cons unsigned_reads (.single exact_reads)

theorem string_reads {value : String} : Reads readString (writeString value) value :=
  bytes_reads.andThen (.ofSome (by simp [String.fromUTF8?, String.fromUTF8, value.isValidUTF8]))

theorem deserialize_putEntry (h : Reads (readFields tag) (.seq fields) event)
    (hput : putEntry tag fields = .ok bytes) : deserialize bytes = .ok event := by
  have hreads : Reads readEvent (putEntry tag fields) event :=
    .cons exact_reads (.require rfl (.cons unsigned_reads h))
  have hread := hreads bytes hput []
  rw [append_nil] at hread
  simp only [deserialize, Fallible.ok_iff, Prod.exists]
  exact ⟨event, _, hread, rfl, rfl⟩

theorem deserialize_serialize (h : serialize event = .ok bytes) : deserialize bytes = .ok event := by
  cases event with
  | messageReceived => exact deserialize_putEntry (.cons string_reads (.single (unsigned_reads.map _))) h
  | processingStarted | processingFinished => exact deserialize_putEntry (.single (string_reads.map _)) h
  | stepCompleted =>
    exact deserialize_putEntry (.cons string_reads (.cons unsigned_reads (.single (bytes_reads.map _)))) h
  | errorOccurred => exact deserialize_putEntry (.cons string_reads (.single (string_reads.map _))) h

/-- What the store holds of a log is read back as the log. -/
theorem stored_read_back {events : List (ConversationEvent String Bytes)} {stored : List Bytes}
    (h : events.mapM serialize = .ok stored) : stored.mapM deserialize = .ok events := by
  induction events generalizing stored with
  | nil =>
    cases h
    rfl
  | cons event events ih =>
    simp only [mapM_cons, Fallible.ok_iff] at h
    obtain ⟨bytes, hevent, rest, hevents, rfl⟩ := h
    simp only [mapM_cons, deserialize_serialize hevent, ih hevents]
    rfl

end ConversationEvent

/-! ### Handles -/

structure ConversationState (M B : Type) where
  receivedMessages : List M := []
  inProgress : List M := []
  completedSteps : List ((M × Nat) × B) := []
  finishedMessages : List M := []
  erroredMessages : List (M × M) := []

inductive RedeliveryDecision
  | skip
  | resumeFrom (stepIndex : Nat)
  | start
deriving DecidableEq

namespace ConversationState

variable (state : ConversationState M B)

def apply : ConversationEvent M B → ConversationState M B
  | .messageReceived messageId _ => { state with receivedMessages := state.receivedMessages.insert messageId }
  | .processingStarted messageId => { state with inProgress := state.inProgress.insert messageId }
  | .stepCompleted messageId stepIndex output => { state with completedSteps :=
      ((messageId, stepIndex), output) :: state.completedSteps.filter fun step => step.1 ≠ (messageId, stepIndex) }
  | .processingFinished messageId => { state with
      finishedMessages := state.finishedMessages.insert messageId
      inProgress := state.inProgress.erase messageId }
  | .errorOccurred messageId error => { state with
      erroredMessages := (messageId, error) :: state.erroredMessages.filter fun entry => entry.1 ≠ messageId
      inProgress := state.inProgress.erase messageId }

def replay (events : List (ConversationEvent M B)) : ConversationState M B := events.foldl apply {}

def lastCompletedStep (messageId : M) : Option Nat :=
  ((state.completedSteps.filter fun step => step.1.1 = messageId).map fun step => step.1.2).max?

def nextStepIndex (messageId : M) : Option Nat := match state.lastCompletedStep messageId with
  | none => some 0
  | some step => if step + 1 < 2 ^ 32 then some (step + 1) else none

end ConversationState

structure DurableConversation (M B : Type) where
  state : ConversationState M B := {}
  expectedSeq : Nat := 0

/-- Answers are kept with the length of the log at that time. -/
structure ConversationLog (M B : Type) where
  events : List (ConversationEvent M B)
  handles : List (DurableConversation M B)
  answers : List (M × RedeliveryDecision × Nat)

inductive ConversationLogAction (M B : Type)
  | new
  | recover
  | clone (index : Nat)
  | crash (index : Nat)
  | appendEvent (index : Nat) (event : ConversationEvent M B)
  | receiveMessage (index : Nat) (messageId : M) (receivedAt : Nat)

namespace ConversationLog

open ConversationState

variable (s : ConversationLog M B)

def answer (messageId : M) (decision : RedeliveryDecision) : ConversationLog M B :=
  { s with answers := s.answers ++ [(messageId, decision, s.events.length)] }

def appendEvent (index : Nat) (handle : DurableConversation M B) (event : ConversationEvent M B) :
    Option (ConversationLog M B) :=
  if handle.expectedSeq = s.events.length then
    some { s with
      events := s.events ++ [event]
      handles := s.handles.set index ⟨handle.state.apply event, handle.expectedSeq + 1⟩ }
  else none

def receiveMessage (index : Nat) (handle : DurableConversation M B) (messageId : M) (receivedAt : Nat) :
    Option (ConversationLog M B) :=
  if messageId ∈ handle.state.finishedMessages then some (s.answer messageId .skip)
  else if messageId ∈ handle.state.receivedMessages then
    (handle.state.nextStepIndex messageId).map fun step => s.answer messageId (.resumeFrom step)
  else (s.appendEvent index handle (.messageReceived messageId receivedAt)).map fun s => s.answer messageId .start

def next : ConversationLogAction M B → Option (ConversationLog M B)
  | .new => some { s with handles := s.handles ++ [{}] }
  | .recover => some { s with handles := s.handles ++ [⟨replay s.events, s.events.length⟩] }
  | .clone index => s.handles[index]?.map fun handle => { s with handles := s.handles ++ [handle] }
  | .crash index => some { s with handles := s.handles.eraseIdx index }
  | .appendEvent index event => s.handles[index]?.bind fun handle => s.appendEvent index handle event
  | .receiveMessage index messageId receivedAt =>
    s.handles[index]?.bind fun handle => s.receiveMessage index handle messageId receivedAt

end ConversationLog

def conversationLogMachine : Machine (ConversationLog M B) (ConversationLogAction M B) where
  start s := s = ⟨[], [], []⟩
  next s := s.next

variable {events : List (ConversationEvent M B)} {messageId : M}

namespace ConversationState

theorem replay_concat : replay (events ++ [event]) = (replay events).apply event := by
  simp [replay]

theorem mem_replay (events : List (ConversationEvent M B)) (messageId : M) :
    (messageId ∈ (replay events).receivedMessages ↔ ∃ receivedAt, .messageReceived messageId receivedAt ∈ events) ∧
    (messageId ∈ (replay events).finishedMessages ↔ .processingFinished messageId ∈ events) ∧
    ∀ step, (∃ output, ((messageId, step), output) ∈ (replay events).completedSteps) ↔
      ∃ output, .stepCompleted messageId step output ∈ events := by
  induction events using reverseRecOn with
  | nil => simp [replay]
  | append_singleton events event ih =>
    rw [replay_concat]
    obtain ⟨hreceived, hfinished, hsteps⟩ := ih
    cases event with
    | stepCompleted other index output =>
      refine ⟨by simpa [apply] using hreceived, by simpa [apply] using hfinished, fun step => ?_⟩
      by_cases hsame : messageId = other ∧ step = index
      · simp [apply, hsame]
      · simpa [apply, ← and_assoc, hsame, not_and_or.mp hsame] using hsteps step
    | _ => simp [apply, hreceived, hfinished, hsteps, exists_or, or_comm]

/-- The step behind the last recorded one of the message. -/
def FollowsSteps (events : List (ConversationEvent M B)) (messageId : M) (next : Nat) : Prop :=
  (∀ step output, .stepCompleted messageId step output ∈ events → step < next) ∧
  ∀ step, next = step + 1 → ∃ output, .stepCompleted messageId step output ∈ events

theorem nextStepIndex_replay {next : Nat} (h : (replay events).nextStepIndex messageId = some next) :
    FollowsSteps events messageId next := by
  have hmem : ∀ step, step ∈ ((replay events).completedSteps.filter fun step => step.1.1 = messageId).map
      (fun step => step.1.2) ↔ ∃ output, .stepCompleted messageId step output ∈ events := by
    intro step
    rw [← (mem_replay events messageId).2.2]
    simp
  unfold nextStepIndex lastCompletedStep at h
  split at h
  · rename_i hnone
    cases h
    rw [max?_eq_none_iff] at hnone
    simp only [hnone, not_mem_nil, false_iff, not_exists] at hmem
    exact ⟨fun step output hstep => absurd hstep (hmem step output), by simp⟩
  · rename_i last hlast
    obtain ⟨-, ⟨⟩⟩ := ite_none_right_eq_some.mp h
    obtain ⟨hlast, hmax⟩ := max?_eq_some_iff.mp hlast
    exact ⟨fun step output hstep => Nat.lt_succ_of_le (hmax step ((hmem step).mpr ⟨output, hstep⟩)),
      fun step hnext => (hmem step).mp (Nat.succ.inj hnext ▸ hlast)⟩

end ConversationState

namespace ConversationLog

open ConversationState

variable {s s' : ConversationLog M B} {action : ConversationLogAction M B} (events)

/-- What an answer says of the log it was given for. -/
def AnswersFor (messageId : M) (decision : RedeliveryDecision) : Prop :=
  (.processingFinished messageId ∈ events → decision = .skip) ∧
  ∀ next, decision = .resumeFrom next → FollowsSteps events messageId next

/-- Deliveries go to a handle that has seen the whole log. -/
def Current (s : ConversationLog M B) : ConversationLogAction M B → Prop
  | .receiveMessage index .. => ∀ handle, s.handles[index]? = some handle → handle.expectedSeq = s.events.length
  | _ => True

def Replays (handle : DurableConversation M B) : Prop :=
  handle.expectedSeq ≤ events.length ∧ handle.state = replay (events.take handle.expectedSeq)

/-- The answers are right for the log if deliveries are `current`. -/
structure Refines (current : Prop) (s : ConversationLog M B) : Prop where
  handles : ∀ handle ∈ s.handles, Replays s.events handle
  received : ∀ answered ∈ s.answers, answered.2.1 = .start →
    ∃ receivedAt, .messageReceived answered.1 receivedAt ∈ s.events
  starts : s.answers.Pairwise fun first second =>
    first.2.1 = .start → second.2.1 = .start → first.1 ≠ second.1
  answers : current → ∀ answered ∈ s.answers, answered.2.2 ≤ s.events.length ∧
    AnswersFor (s.events.take answered.2.2) answered.1 answered.2.1

variable {current : Prop}

theorem Refines.appendEvent (h : s.Refines current) (hhandle : s.handles[index]? = some handle)
    (hnext : s.appendEvent index handle event = some s') : s'.Refines current := by
  obtain ⟨hseq, ⟨⟩⟩ := ite_none_right_eq_some.mp hnext
  refine { h with
    handles := fun other hother => ?_
    received := fun answered hanswered hstart =>
      (h.received answered hanswered hstart).imp fun _ => mem_append_left _
    answers := fun hcurrent answered hanswered => ?_ }
  · obtain hold | rfl := mem_or_eq_of_mem_set hother
    · obtain ⟨hle, hstate⟩ := h.handles other hold
      exact ⟨by simp; omega, by rw [take_append_of_le_length hle, hstate]⟩
    · obtain ⟨-, hstate⟩ := h.handles handle (mem_of_getElem? hhandle)
      exact ⟨by simp [hseq], by simp [hseq, take_of_length_le, replay_concat, hstate]⟩
  · obtain ⟨hle, hanswers⟩ := h.answers hcurrent answered hanswered
    exact ⟨by simp; omega, by rwa [take_append_of_le_length hle]⟩

theorem Refines.answer (h : s.Refines current) (hanswer : current → AnswersFor s.events messageId decision)
    (hreceived : decision = .start → ∃ receivedAt, .messageReceived messageId receivedAt ∈ s.events)
    (hfirst : decision = .start → ∀ answered ∈ s.answers, answered.2.1 = .start → answered.1 ≠ messageId) :
    (s.answer messageId decision).Refines current where
  handles := h.handles
  received := forall_mem_append.mpr ⟨h.received, forall_mem_singleton.mpr hreceived⟩
  starts := pairwise_append.mpr ⟨h.starts, pairwise_singleton .., fun first hold second hnew hstart hagain => by
    cases mem_singleton.mp hnew
    exact hfirst hagain first hold hstart⟩
  answers hcurrent := forall_mem_append.mpr ⟨h.answers hcurrent, forall_mem_singleton.mpr
    ⟨Nat.le_refl _, by simpa [ConversationLog.answer] using hanswer hcurrent⟩⟩

theorem Refines.receiveMessage (h : s.Refines current) (hhandle : s.handles[index]? = some handle)
    (hcurrent : current → handle.expectedSeq = s.events.length)
    (hnext : s.receiveMessage index handle messageId receivedAt = some s') : s'.Refines current := by
  have hstate (hseq : handle.expectedSeq = s.events.length) : handle.state = replay s.events := by
    simpa [hseq] using (h.handles handle (mem_of_getElem? hhandle)).2
  obtain ⟨hreceived, hfinished, -⟩ := mem_replay s.events messageId
  unfold ConversationLog.receiveMessage at hnext
  split at hnext
  · cases hnext
    exact h.answer (fun _ => ⟨fun _ => rfl, by simp⟩) (by simp) (by simp)
  rename_i hunfinished
  split at hnext
  · obtain ⟨step, hstep, rfl⟩ := map_eq_some_iff.mp hnext
    refine h.answer (fun hnow => ?_) (by simp) (by simp)
    rw [hstate (hcurrent hnow)] at hunfinished hstep
    refine ⟨fun hfinish => absurd (hfinished.mpr hfinish) hunfinished, ?_⟩
    rintro _ ⟨⟩
    exact nextStepIndex_replay hstep
  · rename_i hunseen
    obtain ⟨t, happend, rfl⟩ := map_eq_some_iff.mp hnext
    have hrefines := h.appendEvent hhandle happend
    -- The append has compared the sequences, so a handle that starts a message has seen the whole log.
    obtain ⟨hseq, ⟨⟩⟩ := ite_none_right_eq_some.mp happend
    rw [hstate hseq, hfinished] at hunfinished
    rw [hstate hseq, hreceived] at hunseen
    refine hrefines.answer (fun _ => ⟨fun hfinish => absurd hfinish (by simp [hunfinished]), by simp⟩)
      (fun _ => ⟨receivedAt, by simp⟩) ?_
    intro _ answered hold hstart hsame
    exact hunseen (hsame ▸ h.received answered hold hstart)

theorem Refines.next (h : s.Refines current) (hcurrent : current → s.Current action)
    (hnext : s.next action = some s') : s'.Refines current := by
  cases action with
  | new =>
    cases hnext
    exact { h with handles := forall_mem_append.mpr ⟨h.handles, by simp [Replays, replay]⟩ }
  | recover =>
    cases hnext
    exact { h with handles := forall_mem_append.mpr ⟨h.handles, by simp [Replays]⟩ }
  | clone index =>
    obtain ⟨handle, hhandle, rfl⟩ := map_eq_some_iff.mp hnext
    have hnew := forall_mem_singleton.mpr (h.handles handle (mem_of_getElem? hhandle))
    exact { h with handles := forall_mem_append.mpr ⟨h.handles, hnew⟩ }
  | crash index =>
    cases hnext
    exact { h with handles := fun handle hhandle => h.handles handle (mem_of_mem_eraseIdx hhandle) }
  | appendEvent index event =>
    obtain ⟨handle, hhandle, hnext⟩ := bind_eq_some_iff.mp hnext
    exact h.appendEvent hhandle hnext
  | receiveMessage index messageId receivedAt =>
    obtain ⟨handle, hhandle, hnext⟩ := bind_eq_some_iff.mp hnext
    exact h.receiveMessage hhandle (fun hnow => hcurrent hnow handle hhandle) hnext

theorem Refines.start (hstart : (conversationLogMachine (M := M) (B := B)).start s) : s.Refines current := by
  cases hstart
  exact ⟨by simp, by simp, .nil, by simp⟩

/-- A handle is the replay of what it has seen and a message is started at most once. If messages go to
handles that have seen the whole log, one is skipped once finished and otherwise resumed behind its last step. -/
theorem handles_refine_log (h : conversationLogMachine.Reachable s) : (∀ handle ∈ s.handles, Replays s.events handle) ∧
    s.answers.Pairwise (fun first second => first.2.1 = .start → second.2.1 = .start → first.1 ≠ second.1) ∧
    (conversationLogMachine.Reaches Current s →
      ∀ answered ∈ s.answers, AnswersFor (s.events.take answered.2.2) answered.1 answered.2.1) := by
  have hrefines : s.Refines False :=
    h.invariant (fun _ => Refines.start) fun _ _ _ hrefines => hrefines.next False.elim
  refine ⟨hrefines.handles, hrefines.starts, fun hcurrent answered hanswered => ?_⟩
  have hrefines : s.Refines True :=
    hcurrent.invariant (fun _ => Refines.start) fun _ _ _ hrefines hnow => hrefines.next fun _ => hnow
  exact (hrefines.answers trivial answered hanswered).2

theorem handles_refine_log_finished : ∃ s : ConversationLog Nat Nat, conversationLogMachine.Reaches Current s ∧
    s.answers = [(7, .start, 1), (7, .skip, 2)] ∧
    ∀ answered ∈ s.answers, AnswersFor (s.events.take answered.2.2) answered.1 answered.2.1 := by
  have hreaches := @Machine.Reaches.next _ _ (conversationLogMachine (M := Nat) (B := Nat)) Current _ _
    (.receiveMessage 0 7 1) (.next (a := .appendEvent 0 (.processingFinished 7)) (.next (a := .receiveMessage 0 7 0)
      (.next (a := .new) (.start rfl) trivial rfl) (fun _ h => by cases h; rfl) rfl) trivial rfl)
    (fun _ h => by cases h; rfl) rfl
  exact ⟨_, hreaches, rfl, (handles_refine_log (hreaches.mono fun _ _ _ => trivial)).2.2 hreaches⟩

/-- The second handle has seen the message, but not that the first one has finished it. -/
theorem finished_message_resumed :
    ∃ s : ConversationLog Nat Nat, conversationLogMachine.Reachable s ∧ .processingFinished 7 ∈ s.events.take 2 ∧
      s.answers = [(7, .start, 1), (7, .resumeFrom 0, 2)] :=
  ⟨_, Machine.Reachable.run (m := conversationLogMachine (M := Nat) (B := Nat)) (.start rfl)
    (show conversationLogMachine.run _ [.new, .receiveMessage 0 7 0, .recover, .appendEvent 0 (.processingFinished 7),
      .receiveMessage 1 7 0] = some _ from rfl), .tail _ (.head _), rfl⟩

end ConversationLog

end Liminal
