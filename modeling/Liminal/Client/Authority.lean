import Liminal.Client.Retry

/-!
# The authority over the slot

An issued operation has exactly one authority in the caller's hands: the operation or attempt until
it is sent, the correlation afterwards. It breaks in one way: an answer applied past the slot (to an
acknowledgement, or a transport rejection) that is handed in with the live correlation consumes it
and leaves the slot waiting for nothing.
-/

namespace Liminal.Client

open Wire Fallible Checked ClientProcess ClientRoot ClientOperationCommit Option List

variable {process process' : ClientProcess} {held : List OneUse} {root : ClientRoot} {number : Nat}
  {recorded : List (Nat × ClientRequest)}

/-! ### Live authority -/

/-- The number under which the slot waits for an answer: it is issued and no restart has taken the authority
away. -/
def ClientParticipantAggregate.liveAuthorization (aggregate : ClientParticipantAggregate) : Option Nat :=
  aggregate.expected.bind fun expected =>
    if expected.issued ∧ expected.lost = none then some expected.authorization else none

variable (process)

def ClientProcess.liveAuthorization : Option Nat :=
  process.root.current.liveAuthorization

/-- The action applies a value past the slot and consumes the slot's correlation with it. -/
def wastesCorrelation : ClientAction → Bool
  | .correlatedInbound value correlation =>
    straysPastSlot value && currentAuthority process.root.current correlation
  | _ => false

def careful (action : ClientAction) : Prop :=
  wastesCorrelation process action = false

instance (process : ClientProcess) (action : ClientAction) : Decidable (careful process action) :=
  inferInstanceAs (Decidable (_ = _))

section Slot

variable {aggregate : ClientParticipantAggregate} {expected : ExpectedOperationState}

theorem liveAuthorization_of_slot (hslot : aggregate.expected = some expected) : aggregate.liveAuthorization =
      if expected.issued ∧ expected.lost = none then some expected.authorization else none := by
  simp [ClientParticipantAggregate.liveAuthorization, hslot]

theorem liveAuthorization_of_empty (hslot : aggregate.expected = none) : aggregate.liveAuthorization = none := by
  simp [ClientParticipantAggregate.liveAuthorization, hslot]

theorem liveAuthorization_of_unissued (hslot : aggregate.expected = some expected)
    (hissued : expected.issued = false) : aggregate.liveAuthorization = none := by
  simp [liveAuthorization_of_slot hslot, hissued]

theorem liveAuthorization_of_lost (hslot : aggregate.expected = some expected)
    (hlost : expected.lost.isSome = true) : aggregate.liveAuthorization = none := by
  obtain ⟨testimony, hsome⟩ := isSome_iff_exists.mp hlost
  simp [liveAuthorization_of_slot hslot, hsome]

theorem liveAuthorization_of_awaits (hawaits : AwaitsAnswer aggregate expected correlation) (hlost : expected.lost =
    none) : aggregate.liveAuthorization = some correlation.authorization := by
  simp [liveAuthorization_of_slot hawaits.slot, hawaits.issued, hlost, hawaits.number]

theorem ClientParticipantAggregate.Sound.lost_of_unissued (h : aggregate.Sound)
    (hslot : aggregate.expected = some expected) (hissued : expected.issued = false) : expected.lost = none := by
  cases hlost : expected.lost with
  | none => rfl
  | some testimony =>
    have htestified := (h.testimony expected hslot testimony hlost).1
    rw [hissued] at htestified
    cases htestified

end Slot

theorem liveAuthorization_rebuild (facts : DecodedFacts) : facts.rebuild.liveAuthorization = none := by
  cases hslot : facts.rebuild.expected with
  | none => exact liveAuthorization_of_empty hslot
  | some restored =>
    obtain ⟨expected, -, -, rfl⟩ := mem_restoredExpected hslot
    rw [liveAuthorization_of_slot hslot]
    cases hissued : expected.issued <;> simp

/-! ### Conservation -/

/-- The authorities in the caller's hands are the one the slot waits under, or none. -/
def Conserved : Prop :=
  authorities process.held = process.liveAuthorization.toList

variable {process}

theorem eq_toList_of_perm {number : Option Nat} (h : numbers.Perm number.toList) : numbers = number.toList := by
  cases number with
  | none => exact perm_nil.mp h
  | some number => exact perm_singleton.mp h

variable {aggregate : ClientParticipantAggregate} {action : ClientAction}

theorem authorities_of_spend_live (hcons : Conserved ⟨.aggregate aggregate, held⟩) (hsound : aggregate.Sound)
    (hawaits : AwaitsAnswer aggregate expected correlation) (hlost : expected.lost = none) (hheld : spend held
    (.correlation correlation) = some rest) : authorities rest = [] := by
  have hlive : authorities held = [correlation.authorization] :=
    hcons.trans (congrArg toList (liveAuthorization_of_awaits hawaits hlost))
  have hpositive : 0 < correlation.authorization := by
    rw [← hawaits.number]
    exact (hsound.authorized expected hawaits.slot).1
  have hperm := spend_authorities hheld
  rw [hlive, authorities_cons, OneUse.slotAuthorization, slotNumber_of_pos hpositive] at hperm
  simpa using hperm

section

variable (hcons : Conserved ⟨root, held⟩)
include hcons

theorem conserved_of_issue (hsound : root.current.Sound)
    (hslot : root.current.expected = some expected) (hissued : expected.issued = false)
    (hsuccessor : successor.expected = some { expected with issued := true }) (hvalue : value.slotAuthorization =
    slotNumber expected.authorization) : Conserved ⟨.aggregate successor, value :: held⟩ := by
  have hempty : authorities held = [] :=
    hcons.trans (congrArg toList (liveAuthorization_of_unissued hslot hissued))
  have hlost := hsound.lost_of_unissued hslot hissued
  have hpositive := (hsound.authorized expected hslot).1
  rw [Conserved, authorities_cons, hempty, hvalue, slotNumber_of_pos hpositive, liveAuthorization]
  simp [current, liveAuthorization_of_slot hsuccessor, hlost]

theorem conserved_of_same (hsame : root'.current.liveAuthorization = root.current.liveAuthorization)
    (hheld : (authorities held').Perm (authorities held)) : Conserved ⟨root', held'⟩ := by
  rw [hcons] at hheld
  rw [Conserved, eq_toList_of_perm hheld, liveAuthorization, liveAuthorization, hsame]

theorem conserved_of_none (hbefore : root.current.liveAuthorization = none)
    (hafter : root'.current.liveAuthorization = none) : Conserved ⟨root', held⟩ :=
  conserved_of_same hcons (hafter.trans hbefore.symm) (.refl _)

end

theorem ClientRoot.Sound.pending_slot (h : ClientRoot.Sound (.pending record)) :
    (pending record).current.expected = some ⟨record.operation.request, false, record.operation.authorization, none⟩ ∧
      record.abort.1.expected = none := by
  obtain ⟨prior, request, -, hrecord⟩ := h
  obtain ⟨-, -, -, -, -, replay, priorReplay, -, rfl⟩ := recordOperation_eq_pending hrecord
  exact ⟨rfl, rfl⟩

theorem ProcessStep.conserved (hstep : ProcessStep process action process') (hcareful : careful process action)
    (hsound : process.root.Sound) (hcons : Conserved process) : Conserved process' := by
  cases hstep with
  | keep hheld | reconnect _ _ hheld => exact conserved_of_same hcons rfl hheld
  | stray hawaits hstray hheld =>
    -- the one way to lose an authority, which a careful step does not take
    simp [careful, wastesCorrelation, hstray, current, currentAuthority, hawaits.slot, hawaits.issued,
      hawaits.number] at hcareful
  | record hrecord =>
    obtain ⟨-, -, hslot, -, -, replay, prior, -, rfl⟩ := recordOperation_eq_pending hrecord
    exact conserved_of_none hcons (liveAuthorization_of_empty hslot) (liveAuthorization_of_unissued rfl rfl)
  | commit | abandonment => exact conserved_of_same hcons rfl (.refl _)
  | abort =>
    obtain ⟨hslot, habort⟩ := hsound.pending_slot
    exact conserved_of_none hcons (liveAuthorization_of_unissued hslot rfl) (liveAuthorization_of_empty habort)
  | release =>
    refine conserved_of_issue hcons hsound.1 hsound.2 rfl ?_ rfl
    simp [intoParts, hsound.2]
  | recover hslot hissued => exact conserved_of_issue hcons hsound hslot hissued rfl rfl
  | started hslot hrequest hreplay =>
    exact conserved_of_issue hcons hsound hslot ((hsound.parked_iff hslot hrequest).mp hreplay) rfl rfl
  | park hawaits hlost hrequest hheld | retireDetach hawaits hlost haction hactive hterm hrefusal hheld
  | fate hawaits hlost hrequest hheld =>
    rw [Conserved, authorities_of_spend_live hcons hsound hawaits hlost hheld]
    rfl
  | resolve hslot hlost hrequest =>
    exact conserved_of_none hcons (liveAuthorization_of_lost hslot hlost) (liveAuthorization_of_empty rfl)
  | resolveDetach hslot hlost hrequest =>
    exact conserved_of_none hcons (liveAuthorization_of_lost hslot hlost) (liveAuthorization_of_unissued rfl rfl)
  | answer hawaits hlost haccepts hmatches hheld =>
    have hempty := authorities_of_spend_live hcons hsound hawaits hlost hheld
    rw [Conserved, hempty, liveAuthorization]
    simp only [current]
    rw [liveAuthorization_of_empty (retireExpectedOperation_slot _ _).1]
    rfl
  | restore hdurable =>
    rw [Conserved, liveAuthorization]
    simp only [current]
    rw [liveAuthorization_rebuild]
    rfl

/-! ### Retirement -/

inductive AuthorityRetired (process process' : ClientProcess) (number : Nat) : ClientAction → Prop
  | outcome {action : ClientAction} (houtcome : action.outcome = some ⟨number⟩) :
      AuthorityRetired process process' number action
  | fate {action : ClientAction} (hfate : action.fate = some ⟨number⟩) : AuthorityRetired process process' number action
  /-- A restart leaves the testimony of the loss in the slot. -/
  | lost {expected : ExpectedOperationState} (hslot : process.root.current.expected = some expected)
      (hslot' : process'.root.current.expected =
        some { expected with lost := some (lostOperationKind expected.request) }) :
      AuthorityRetired process process' number .restore
  /-- A request without a token is given up instead. -/
  | abandoned {expected : ExpectedOperationState} (hslot : process.root.current.expected = some expected)
      (hnotoken : expected.request.isObserverRecovery = true) (hslot' : process'.root.current.expected = none)
      (habandoned : process'.root.current.restoredAbandonment = some ⟨expected.request, .tokenlessAfterCrash, true⟩) :
      AuthorityRetired process process' number .restore

theorem exists_of_liveAuthorization (h : aggregate.liveAuthorization = some number) : ∃ expected,
      aggregate.expected = some expected ∧ expected.issued = true ∧ expected.lost = none ∧
        expected.authorization = number := by
  obtain ⟨expected, hslot, hlive⟩ := bind_eq_some_iff.mp h
  obtain ⟨⟨hissued, hlost⟩, hnumber⟩ := ite_none_right_eq_some.mp hlive
  exact ⟨expected, hslot, hissued, hlost, some.inj hnumber⟩

/-! ### The slot alone -/

def ClientProcess.slot (process : ClientProcess) : Option ExpectedOperationState :=
  process.root.current.expected

inductive SlotChange (slot : Option ExpectedOperationState) : ClientAction → Option ExpectedOperationState → Prop
  | kept {action : ClientAction} : SlotChange slot action slot
  | recorded {request : ClientRequest} {number : Nat} (hslot : slot = none) :
      SlotChange slot (.record request) (some ⟨request, false, number, none⟩)
  | aborted {expected : ExpectedOperationState} (hslot : slot = some expected)
      (hissued : expected.issued = false) : SlotChange slot .abort none
  | issued {action : ClientAction} {expected : ExpectedOperationState} (haction : action.outcome = none ∧ action.fate =
      none) (hslot : slot = some expected) (hissued : expected.issued = false) : SlotChange slot action (some
      { expected with issued := true })
  | parked {correlation : ClientResponseCorrelation} {expected : ExpectedOperationState} (hslot : slot = some expected)
      (hlost : expected.lost = none) (hnumber : expected.authorization = correlation.authorization) : SlotChange slot
      (.transportFate correlation) (some { expected with issued := false })
  | retired {action : ClientAction} {correlation : ClientResponseCorrelation} {expected : ExpectedOperationState}
      (haction : action.outcome = some correlation ∨ action.fate = some correlation) (hslot : slot = some expected)
      (hlost : expected.lost = none) (hnumber : expected.authorization = correlation.authorization) :
      SlotChange slot action none
  | resolved {expected : ExpectedOperationState} {slot' : Option ExpectedOperationState} (hslot : slot = some expected)
      (hlost : expected.lost.isSome = true) (hslot' : slot' = none ∨ slot' = some
      { expected with issued := false, lost := none }) : SlotChange slot .resolveLostOperation slot'
  | restored : SlotChange slot .restore (restoredExpected slot)

theorem ProcessStep.slot (hstep : ProcessStep process action process')
    (hsound : process.root.Sound) : SlotChange process.slot action process'.slot := by
  cases hstep with
  | record hrecord =>
    obtain ⟨-, -, hslot, -, -, replay, prior, -, rfl⟩ := recordOperation_eq_pending hrecord
    exact .recorded hslot
  | abort =>
    obtain ⟨hslot, habort⟩ := hsound.pending_slot
    exact .aborted hslot rfl
  | @release commit =>
    have hslot' : commit.intoParts.1.expected =
        some ⟨commit.operation.request, true, commit.operation.authorization, none⟩ := by
      simp [intoParts, hsound.2]
    simp only [ClientProcess.slot, current, hslot']
    exact .issued ⟨rfl, rfl⟩ hsound.2 rfl
  | recover hslot hissued => exact .issued ⟨rfl, rfl⟩ hslot hissued
  | started hslot hrequest hreplay =>
    exact .issued ⟨rfl, rfl⟩ hslot ((hsound.parked_iff hslot hrequest).mp hreplay)
  | @park aggregate expected request _ _ _ hawaits hlost hrequest hheld =>
    have hparked : some ⟨.detach request, false, expected.authorization, none⟩ =
        some { expected with issued := false } := by rw [hrequest, hlost]
    simp only [ClientProcess.slot, current, hparked]
    exact .parked hawaits.slot hlost hawaits.number
  | retireDetach hawaits hlost haction hactive hterm hrefusal hheld =>
    exact .retired (.inl haction) hawaits.slot hlost hawaits.number
  | fate hawaits hlost hrequest hheld => exact .retired (.inr rfl) hawaits.slot hlost hawaits.number
  | resolve hslot hlost hrequest => exact .resolved hslot hlost (.inl rfl)
  | resolveDetach hslot hlost hrequest =>
    refine .resolved hslot hlost (.inr ?_)
    rw [hrequest]
    rfl
  | answer hawaits hlost haccepts hmatches hheld =>
    simp only [ClientProcess.slot, current, (retireExpectedOperation_slot _ _).1]
    exact .retired (.inl rfl) hawaits.slot hlost hawaits.number
  | restore hdurable => exact .restored
  | _ => exact .kept

theorem ClientAction.presented_unique (h : action.outcome = some correlation ∨ action.fate = some correlation)
    (h' : action.outcome = some correlation' ∨ action.fate = some correlation') : correlation = correlation' := by
  cases action <;> simp_all [ClientAction.outcome, ClientAction.fate]

namespace SlotChange

variable {slot slot' : Option ExpectedOperationState} {expected : ExpectedOperationState}

section

variable (h : SlotChange slot action slot') (hat : slot = some expected) (hissued : expected.issued = true)
include h hat hissued

/-- A slot that waits for an answer changes only by its outcome, by its fate or by a restart. -/
theorem of_live (hlost : expected.lost = none) (hchanged : slot' ≠ slot) :
    action.outcome = some ⟨expected.authorization⟩ ∨ action.fate = some ⟨expected.authorization⟩ ∨
      action = .restore ∧ slot' = restoredExpected slot := by
  subst hat
  cases h with
  | kept => exact absurd rfl hchanged
  | recorded hslot => cases hslot
  | aborted hslot hunissued | issued _ hslot hunissued =>
    cases hslot
    rw [hissued] at hunissued
    cases hunissued
  | parked hslot _ hnumber =>
    cases hslot
    rw [hnumber]
    exact .inr (.inl rfl)
  | retired haction hslot _ hnumber =>
    cases hslot
    rw [hnumber]
    rcases haction with houtcome | hfate
    · exact .inl houtcome
    · exact .inr (.inl hfate)
  | resolved hslot hsome _ =>
    cases hslot
    simp [hlost] at hsome
  | restored => exact .inr (.inr ⟨rfl, rfl⟩)

theorem of_lost (htoken : expected.request.isObserverRecovery = false)
    (hlost : expected.lost.isSome = true) : slot' = slot ∨ action = .resolveLostOperation ∧
      (slot' = none ∨ slot' = some { expected with issued := false, lost := none }) := by
  subst hat
  cases h with
  | kept => exact .inl rfl
  | recorded hslot => cases hslot
  | aborted hslot hunissued | issued _ hslot hunissued =>
    cases hslot
    rw [hissued] at hunissued
    cases hunissued
  | parked hslot hnone _ | retired _ hslot hnone _ =>
    cases hslot
    simp [hnone] at hlost
  | resolved hslot _ hslot' =>
    cases hslot
    exact .inr ⟨rfl, hslot'⟩
  | restored =>
    obtain ⟨testimony, hsome⟩ := isSome_iff_exists.mp hlost
    obtain ⟨request, issued, authorization, lost⟩ := expected
    simp_all [restoredExpected]

end

theorem of_stale (h : SlotChange slot action slot')
    (haction : action.outcome = some correlation ∨ action.fate = some correlation)
    (hstale : ∀ expected ∈ slot, expected.authorization ≠ correlation.authorization) : slot' = slot := by
  cases h with
  | kept => rfl
  | recorded | aborted | resolved | restored => rcases haction with h | h <;> cases h
  | issued hnone =>
    rw [hnone.1, hnone.2] at haction
    rcases haction with h | h <;> cases h
  | parked hslot _ hnumber =>
    rcases haction with h | h
    · cases h
    · obtain rfl := some.inj h
      exact absurd hnumber (hstale _ hslot)
  | retired haction' hslot _ hnumber =>
    obtain rfl := ClientAction.presented_unique haction haction'
    exact absurd hnumber (hstale _ hslot)

end SlotChange

theorem ProcessStep.of_restore (hstep : ProcessStep process .restore process') :
    process'.slot = process.slot ∨ process'.root.current = process.root.current.facts.rebuild := by
  cases hstep with
  | keep _ | reconnect => exact .inl rfl
  | retireDetach _ _ haction => cases haction
  | restore => exact .inr rfl

/-- The only steps that end an authority: its outcome, its fate, or a restart that leaves a testimony or an
abandonment. -/
theorem ProcessStep.retired (hstep : ProcessStep process action process')
    (hsound : process.root.Sound) (hlive : process.liveAuthorization = some number)
    (hgone : process'.liveAuthorization ≠ some number) : AuthorityRetired process process' number action := by
  obtain ⟨expected, hexpected, hissued, hlost, rfl⟩ := exists_of_liveAuthorization hlive
  have hchanged : process'.slot ≠ process.slot := by
    intro hsame
    have hkept : process'.liveAuthorization = process.liveAuthorization :=
      congrArg (bind · _) hsame
    exact hgone (hkept.trans hlive)
  rcases (hstep.slot hsound).of_live hexpected hissued hlost hchanged with
    houtcome | hfate | ⟨rfl, hrestored⟩
  · exact .outcome houtcome
  · exact .fate hfate
  · rcases hstep.of_restore with hsame | hrebuilt
    · exact absurd hsame hchanged
    cases hnotoken : expected.request.isObserverRecovery with
    | true =>
      refine .abandoned hexpected hnotoken ?_ ?_
      · rw [hrebuilt]
        simp [DecodedFacts.rebuild, ClientParticipantAggregate.facts, hexpected, restoredExpected, hnotoken]
      · rw [hrebuilt]
        simp [DecodedFacts.rebuild, ClientParticipantAggregate.facts, hexpected, restoredAbandonment, hnotoken, hissued]
    | false =>
      refine .lost hexpected ?_
      rw [hrebuilt]
      simp [DecodedFacts.rebuild, ClientParticipantAggregate.facts, hexpected, restoredExpected,
        hnotoken, hissued, hlost]

/-! ### Numbers -/

def ClientProcess.recordedOperation (process : ClientProcess) : Option (Nat × ClientRequest) :=
  match process.root with
  | .pending _ => none
  | _ => process.slot.map fun expected => (expected.authorization, expected.request)

def committedOperation (process process' : ClientProcess) : List (Nat × ClientRequest) :=
  match process.root, process'.root with
  | .pending record, .commit _ => [(record.operation.authorization, record.operation.request)]
  | _, _ => []

/-- The last number that is spent for good: an abort takes a pending one back. -/
def ClientProcess.lastNumber (process : ClientProcess) : Nat := match process.root with
  | .pending record => record.operation.authorization - 1
  | root => root.current.nextOperationAuthorization

/-- The recorded operations have increasing numbers, and the slot holds one of them. -/
structure Numbered (process : ClientProcess) (recorded : List (Nat × ClientRequest)) : Prop where
  increasing : recorded.Pairwise fun earlier later => earlier.1 < later.1
  bounded : ∀ operation ∈ recorded, operation.1 ≤ process.lastNumber
  slot : ∀ operation ∈ process.recordedOperation, operation ∈ recorded

theorem Numbered.kept (h : Numbered process recorded) (hlast : process'.lastNumber = process.lastNumber)
    (hslot : process'.recordedOperation = process.recordedOperation ∨ process'.recordedOperation = none)
    (hnothing : committedOperation process process' = []) : Numbered process'
    (recorded ++ committedOperation process process') := by
  rw [hnothing, append_nil]
  refine ⟨h.increasing, fun operation hmem => hlast ▸ h.bounded operation hmem, ?_⟩
  intro operation hmem
  rcases hslot with hsame | hempty
  · exact h.slot operation (hsame ▸ hmem)
  · rw [hempty] at hmem
    cases hmem

theorem recordedOperation_aggregate (aggregate : ClientParticipantAggregate) (held : List OneUse) :
    recordedOperation ⟨.aggregate aggregate, held⟩ =
      aggregate.expected.map fun expected => (expected.authorization, expected.request) := rfl

theorem recordedOperation_restored (slot : Option ExpectedOperationState) :
    ((restoredExpected slot).map fun expected => (expected.authorization, expected.request)) =
        slot.map (fun expected => (expected.authorization, expected.request)) ∨
      ((restoredExpected slot).map fun expected => (expected.authorization, expected.request)) = none := by
  cases slot with
  | none => exact .inr rfl
  | some expected =>
    obtain ⟨request, issued, authorization, lost⟩ := expected
    cases request <;> cases issued <;> first | exact .inl rfl | exact .inr rfl

theorem ProcessStep.numbered (hstep : ProcessStep process action process') (hsound : process.root.Sound)
    (h : Numbered process recorded) : Numbered process' (recorded ++ committedOperation process process') := by
  cases hstep with
  | @keep root => exact h.kept rfl (.inl rfl) (by cases root <;> rfl)
  | stray | abandonment | reconnect => exact h.kept rfl (.inl rfl) rfl
  | record hrecord =>
    obtain ⟨-, -, hslot, -, -, replay, prior, -, rfl⟩ := recordOperation_eq_pending hrecord
    exact h.kept rfl (.inr rfl) rfl
  | commit =>
    obtain ⟨prior, request, -, hrecord⟩ := hsound
    obtain ⟨-, -, -, -, -, replay, priorReplay, -, rfl⟩ := recordOperation_eq_pending hrecord
    have hbounded : ∀ operation ∈ recorded, operation.1 ≤ prior.nextOperationAuthorization :=
      h.bounded
    refine ⟨?_, ?_, ?_⟩
    · simp only [committedOperation, pairwise_append, pairwise_singleton, mem_singleton, forall_eq, true_and]
      exact ⟨h.increasing, fun operation hmem => Nat.lt_succ_of_le (hbounded operation hmem)⟩
    · simp only [committedOperation, mem_append, mem_singleton]
      rintro operation (hmem | rfl)
      · exact Nat.le_succ_of_le (hbounded operation hmem)
      · exact le_refl _
    · rintro operation ⟨⟩
      simp [committedOperation]
  | abort | retireDetach | fate | resolve => exact h.kept rfl (.inr rfl) rfl
  | release =>
    refine h.kept rfl (.inl ?_) rfl
    simp [recordedOperation, ClientProcess.slot, current, intoParts, hsound.2]
  | recover hslot hissued | started hslot hrequest hreplay =>
    refine h.kept rfl (.inl ?_) rfl
    simp [recordedOperation_aggregate, hslot]
  | park hawaits hlost hrequest hheld =>
    refine h.kept rfl (.inl ?_) rfl
    simp [recordedOperation_aggregate, hawaits.slot, hrequest]
  | resolveDetach hslot hlost hrequest =>
    refine h.kept rfl (.inl ?_) rfl
    simp [recordedOperation_aggregate, hslot, hrequest]
  | answer =>
    refine h.kept (retireExpectedOperation_slot _ _).2 (.inr ?_) rfl
    rw [recordedOperation_aggregate, (retireExpectedOperation_slot _ _).1]
    rfl
  | @restore root _ hdurable =>
    cases root with
    | pending record => exact absurd rfl (hdurable record)
    | aggregate value => exact h.kept rfl (recordedOperation_restored value.expected) rfl
    | commit value => exact h.kept rfl (recordedOperation_restored value.aggregate.expected) rfl

/-! ### The law -/

def carefulMachine : Machine ClientProcess ClientAction := clientMachine.restrict careful

def recordingClient : Machine (ClientProcess × List (Nat × ClientRequest)) ClientAction :=
  carefulMachine.recording (fun process => process.recordedOperation.toList) committedOperation

theorem numbered_start (h : aggregate.Sound) : Numbered ⟨.aggregate aggregate, []⟩
      (recordedOperation ⟨.aggregate aggregate, []⟩).toList := by
  rw [recordedOperation_aggregate]
  cases hslot : aggregate.expected with
  | none => exact ⟨Pairwise.nil, by simp, by simp [recordedOperation_aggregate, hslot]⟩
  | some expected =>
    refine ⟨pairwise_singleton _ _, ?_, by simp [recordedOperation_aggregate, hslot]⟩
    have hauthorized : expected.authorization ≤ aggregate.nextOperationAuthorization :=
      (h.authorized expected hslot).2
    simpa [lastNumber, current] using hauthorized

theorem conserved_start (h : processStart process) :
    Conserved process ∧ Numbered process process.recordedOperation.toList := by
  have hsound := processStart_sound h
  obtain ⟨root, held⟩ := process
  obtain ⟨rfl, hroot⟩ := h
  obtain ⟨aggregate, rfl, hdead⟩ : ∃ aggregate, root = .aggregate aggregate ∧ aggregate.liveAuthorization = none := by
    rcases hroot with hnew | ⟨facts, restored, -, -, hrestore, hrestored⟩
    · exact ⟨_, hnew, rfl⟩
    · simp only [DecodedFacts.restore, ok_iff] at hrestore
      obtain ⟨-, -, rfl⟩ := hrestore
      exact ⟨_, hrestored, liveAuthorization_rebuild facts⟩
  refine ⟨?_, numbered_start hsound⟩
  rw [Conserved, liveAuthorization]
  simp only [current, hdead]
  rfl

theorem conserved_of_reachable (h : recordingClient.Reachable (process, recorded)) :
    process.root.Sound ∧ Conserved process ∧ Numbered process recorded := by
  apply Machine.Reachable.historyInvariant ?_ ?_ h
  · exact fun _ hstart => ⟨processStart_sound hstart, conserved_start hstart⟩
  · rintro current history action successor ⟨hsound, hcons, hnumbered⟩ hnext
    obtain ⟨hcareful, hstep⟩ := ite_none_right_eq_some.mp hnext
    have hstep := processNext_step hstep
    exact ⟨hstep.sound hsound, hstep.conserved hcareful hsound hcons, hstep.numbered hsound hnumbered⟩

/-! ### Where it breaks -/

def ackAnswered : ServerValue := .ackCommitted ⟨⟨1, 0, 1, 5⟩⟩

/-- An acknowledgement's answer handed in with the live correlation strands the slot, and a parked detach is
given out a second time under its number. -/
theorem authority_not_conserved : (∃ process, clientMachine.Reachable process ∧
      process.slot = some ⟨attachAsked, true, 2, none⟩ ∧ authorities process.held = []) ∧
    ∃ first second, clientMachine.Reachable first ∧ first.held = [.operation ⟨detachAsked, 2⟩] ∧
      clientMachine.run first [.send ⟨detachAsked, 2⟩, .transportFate ⟨2⟩,
        .transportAttemptStarted] = some second ∧ second.held = [.detachAttempt ⟨⟨1, 0, 1, 13⟩, 2⟩] := by
  refine ⟨?_, ?_⟩
  · exact newProcess_reachable.exists_of_any
      (enrolledAndIssued attachAsked ++ [.correlatedInbound ackAnswered ⟨2⟩]) (by decide)
  · obtain ⟨first, hrun, hheld, hrest⟩ : ∃ first, clientMachine.run newProcess
        (exchange enrollmentAsked 1 (.enrollBound enrollmentGranted) ++
          [.record detachAsked, .commit, .release]) = some first ∧
        first.held = [.operation ⟨detachAsked, 2⟩] ∧
        (clientMachine.run first [.send ⟨detachAsked, 2⟩, .transportFate ⟨2⟩, .transportAttemptStarted]).any
          (fun second => decide (second.held = [.detachAttempt ⟨⟨1, 0, 1, 13⟩, 2⟩])) = true :=
      exists_of_any (by decide)
    obtain ⟨second, hsecond, hheld'⟩ := exists_of_any hrest
    exact ⟨first, second, newProcess_reachable.run hrun, hheld, hsecond, hheld'⟩

/-- The authorities in hand are the one the slot waits under, or none; one ends by its outcome, its fate
or a restart, and a correlation with another number leaves the slot alone. -/
theorem authority_conserved {recorded : List (Nat × ClientRequest)} (h : recordingClient.Reachable
    (process, recorded)) : authorities process.held = process.liveAuthorization.toList ∧ recorded.Pairwise
    (fun earlier later => earlier.1 < later.1) ∧ (∀ operation ∈ process.recordedOperation, operation ∈ recorded) ∧
    ∀ action process', clientMachine.next process action = some process' →
      (∀ number, process.liveAuthorization = some number → process'.liveAuthorization ≠ some number →
        AuthorityRetired process process' number action) ∧
      (∀ expected, process.slot = some expected → expected.lost.isSome = true →
        process'.slot = process.slot ∨ action = .resolveLostOperation ∧ (process'.slot = none ∨
            process'.slot = some { expected with issued := false, lost := none })) ∧
      ∀ correlation : ClientResponseCorrelation, (action.outcome = some correlation ∨ action.fate = some correlation) →
        ((∀ expected ∈ process.slot, expected.authorization ≠ correlation.authorization) ∨
          correlation.authorization = 0) → process'.slot = process.slot := by
  obtain ⟨hsound, hconserved, hnumbered⟩ := conserved_of_reachable h
  refine ⟨hconserved, hnumbered.increasing, hnumbered.slot, ?_⟩
  intro action process' hnext
  have hstep := processNext_step hnext
  refine ⟨fun number hlive hgone => hstep.retired hsound hlive hgone, ?_, ?_⟩
  · intro expected hslot hlost
    obtain ⟨testimony, hsome⟩ := isSome_iff_exists.mp hlost
    obtain ⟨hissued, htoken, -⟩ := hsound.current.testimony expected hslot testimony hsome
    exact (hstep.slot hsound).of_lost hslot hissued htoken hlost
  · intro correlation haction hstale
    refine (hstep.slot hsound).of_stale haction ?_
    intro expected hslot
    rcases hstale with hother | hzero
    · exact hother expected hslot
    · have hpositive : 0 < expected.authorization := (hsound.current.authorized expected hslot).1
      omega

/-- The enrolled client with a detach out: one authority, under the second number. -/
theorem authority_conserved_detach_issued : ∃ process,
    recordingClient.Reachable (process, [(1, enrollmentAsked), (2, detachAsked)]) ∧
    process.liveAuthorization = some 2 ∧ authorities process.held = [2] := by
  obtain ⟨⟨process, recorded⟩, hrun, hlive, hrecorded⟩ : ∃ reached, recordingClient.run (newProcess, [])
      (enrolledAndIssued detachAsked) = some reached ∧ reached.1.liveAuthorization = some 2 ∧ reached.2 =
      [(1, enrollmentAsked), (2, detachAsked)] := exists_of_any (by decide)
  have hstart : recordingClient.Reachable (newProcess, []) := .start ⟨⟨rfl, .inl rfl⟩, rfl⟩
  obtain rfl : recorded = [(1, enrollmentAsked), (2, detachAsked)] := hrecorded
  have hreachable := hstart.run hrun
  refine ⟨process, hreachable, hlive, ?_⟩
  rw [(authority_conserved hreachable).1, hlive]
  rfl

end Liminal.Client
