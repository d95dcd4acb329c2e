/-
Digests and validators of the Protocol Kernel (`valp_cli/protocol_kernel.py`).

`canonicalJson` and `digest` are `_canonical_json` and `_digest`; the other
definitions are the `_…_is_valid` predicates, in the order of the source, each a
`Bool` that evaluates.  The validators repeat `isinstance` checks that the types
of this model already guarantee; only those on `Closed` fields are left.

* `isDigest_digest` — what `_digest` returns passes `_is_digest`;
* `stateIsValid_iff` — `_state_is_valid` as the structure `StateValid`.
-/
import Valp.KernelTypes
import Valp.Sha256

namespace Valp.Kernel

open List

/-! ### Canonical text and digests -/

def canonicalJson (value : Json) : String :=
  String.ofList (value.sortKeys.render ++ ['\n'])

/-- `hashlib.sha256(text.encode("utf-8")).hexdigest()` behind its prefix. -/
def digestText (text : String) : String :=
  "sha256:" ++ String.ofList (Sha256.hexdigest (Sha256.sha256 text.toUTF8.data.toList))

def digest (value : Json) : String := digestText (canonicalJson value)

def isDigest (value : String) : Bool :=
  value.toList.length == 71 && "sha256:".toList.isPrefixOf value.toList &&
    (value.toList.drop 7).all fun c => Sha256.hexChars.contains c

theorem isDigest_hex {hex : List Char} (hlength : hex.length = 64)
    (hhex : ∀ c ∈ hex, c ∈ Sha256.hexChars) :
    isDigest ("sha256:" ++ String.ofList hex) := by
  have hlen : "sha256:".toList.length = 7 := by decide
  have htext : ("sha256:" ++ String.ofList hex).toList = "sha256:".toList ++ hex := by
    simp only [String.toList_append, String.toList_ofList]
  rw [isDigest, htext]
  simp only [length_append, hlen, hlength, Nat.reduceAdd, beq_self_eq_true,
    Bool.true_and, Bool.and_eq_true, isPrefixOf_iff_prefix, prefix_append, true_and]
  rw [all_eq_true]
  intro c hc
  rw [drop_append_of_le_length (by omega), drop_of_length_le (by omega),
    nil_append] at hc
  exact contains_iff_mem.mpr (hhex c hc)

theorem digestText_ascii {text : String} {c : Char} (hc : c ∈ (digestText text).toList) :
    c.toNat < 128 := by
  have hhex : ∀ c ∈ Sha256.hexChars, c.toNat < 128 := by decide
  have hscheme : ∀ c ∈ "sha256:".toList, c.toNat < 128 := by decide
  simp only [digestText, String.toList_append, String.toList_ofList, mem_append] at hc
  rcases hc with hc | hc
  · exact hscheme c hc
  · exact hhex c (Sha256.hexdigest_hex hc)

/-- **Every computed digest is well formed.** -/
@[simp] theorem isDigest_digest (value : Json) : isDigest (digest value) :=
  isDigest_hex (Sha256.hexdigest_length _) fun _ hc => Sha256.hexdigest_hex hc

theorem canonicalJson_injective {v w : Json} (h : canonicalJson v = canonicalJson w) :
    v.sortKeys = w.sortKeys := by
  have htext := String.ofList_injective h
  exact Json.render_injective (append_cancel_right htext)

/-! ### Validators -/

/-- `_has_identity_kind(value, kind)`. -/
def hasIdentityKind (value : Identity) (kind : IdentityKind) : Bool := value.kind == kind

/-- `_has_identity_kind(value, kind)` of a value that may be `None`. -/
def hasIdentityKind? (value : Option Identity) (kind : IdentityKind) : Bool :=
  value.any fun i => hasIdentityKind i kind

/-- `value is None or check(value)`. -/
def noneOr {α : Type} (value : Option α) (check : α → Bool) : Bool := value.all check

/-- `_is_non_negative_int`. -/
def isNonNegative (value : Int) : Bool := decide (0 ≤ value)

def acceptedEventIsValid (value : AcceptedEvent) : Bool :=
  hasIdentityKind value.eventId .event && hasIdentityKind value.resultId .result &&
    isDigest value.inputDigest && isDigest value.resultDigest

def attemptIsValid (value : Attempt) : Bool :=
  hasIdentityKind value.taskId .task && hasIdentityKind value.workItemId .workItem &&
    hasIdentityKind value.attemptId .attempt && hasIdentityKind value.dispatchId .dispatch &&
    isNonNegative value.dispatchGeneration

def workItemIsValid (value : WorkItem) (taskId : Identity) : Bool :=
  value.taskId == taskId && hasIdentityKind value.workItemId .workItem &&
    (value.dependencies.all fun dep =>
      hasIdentityKind dep.workItemId .workItem && dep.workItemId != value.workItemId) &&
    decide (value.dependencies.map (·.workItemId)).Nodup &&
    noneOr value.currentAttempt fun attempt =>
      attemptIsValid attempt && attempt.taskId == value.taskId &&
        attempt.workItemId == value.workItemId

def suspensionIsValid (value : Suspension) (state : State) : Bool :=
  value.taskId == state.taskId && hasIdentityKind value.suspensionId .suspension &&
    isNonNegative value.suspensionEpoch && hasIdentityKind value.waitPolicyId .waitPolicy &&
    isDigest value.waitPolicyDigest && value.requiredWorkItemIds != [] &&
    decide value.requiredWorkItemIds.Nodup &&
    (value.requiredWorkItemIds.all fun item => hasIdentityKind item .workItem) &&
    (value.requiredWorkItemIds.all fun item =>
      (state.workItems.map (·.workItemId)).contains item) &&
    match value.status with
    | .waiting => value.acceptedWakeId == none && value.wakeReason == none
    | .resumed => hasIdentityKind? value.acceptedWakeId .wake &&
        value.wakeReason == some .dependencyReady

def controlIsValid (value : ControlState) : Bool :=
  isNonNegative value.intentVersion &&
    match value.status with
    | .active => value.activeInterruptId == none
    | .interrupted => hasIdentityKind? value.activeInterruptId .interrupt

def stateIsValid (value : State) : Bool :=
  value.protocolVersion == protocolVersion &&
    hasIdentityKind value.installationId .installation && hasIdentityKind value.taskId .task &&
    isNonNegative value.leaderEpoch && isNonNegative value.revision && value.status.isKnown &&
    value.revision == (value.acceptedEvents.length : Int) &&
    !(value.revision == 0 && value.status != .known .published) &&
    value.acceptedEvents.all acceptedEventIsValid &&
    (value.workItems.all fun item => workItemIsValid item value.taskId) &&
    !(value.suspension.isSome && value.status != .known .executing) &&
    (noneOr value.suspension fun suspension => suspensionIsValid suspension value) &&
    noneOr value.control controlIsValid &&
    decide (value.acceptedEvents.map (·.eventId)).Nodup &&
    decide (value.acceptedEvents.map (·.resultId)).Nodup &&
    decide (value.workItems.map (·.workItemId)).Nodup

/-- What `_state_is_valid` demands of a State. -/
structure StateValid (s : State) : Prop where
  version : s.protocolVersion = protocolVersion
  installation : s.installationId.kind = .installation
  task : s.taskId.kind = .task
  leaderEpoch : 0 ≤ s.leaderEpoch
  revision : s.revision = s.acceptedEvents.length
  status : ∃ status, s.status = .known status
  genesis : s.revision = 0 → s.status = .known .published
  accepted : ∀ a ∈ s.acceptedEvents, acceptedEventIsValid a = true
  items : ∀ w ∈ s.workItems, workItemIsValid w s.taskId = true
  executing : ∀ u, s.suspension = some u → s.status = .known .executing
  suspension : ∀ u, s.suspension = some u → suspensionIsValid u s = true
  control : ∀ c, s.control = some c → controlIsValid c = true
  eventIds : (s.acceptedEvents.map (·.eventId)).Nodup
  resultIds : (s.acceptedEvents.map (·.resultId)).Nodup
  itemIds : (s.workItems.map (·.workItemId)).Nodup

theorem Closed.isKnown_iff {α : Type} {c : Closed α} : c.isKnown ↔ ∃ a, c = .known a := by
  cases c <;> simp [Closed.isKnown]

theorem stateIsValid_iff {s : State} : stateIsValid s ↔ StateValid s := by
  simp only [stateIsValid, Bool.and_eq_true, Bool.not_eq_true', Bool.and_eq_false_iff, beq_iff_eq,
    bne_eq_false_iff_eq, hasIdentityKind, isNonNegative, decide_eq_true_eq, all_eq_true,
    noneOr, Option.all_eq_true, Closed.isKnown_iff, beq_eq_false_iff_ne, Option.isSome_eq_false_iff,
    Option.isNone_iff_eq_none]
  constructor
  · rintro ⟨⟨⟨⟨⟨⟨⟨⟨⟨⟨⟨⟨⟨⟨⟨h1, h2⟩, h3⟩, h4⟩, -⟩, h5⟩, h6⟩, h7⟩, h8⟩, h9⟩, h10⟩, h11⟩, h12⟩,
      h13⟩, h14⟩, h15⟩
    refine ⟨h1, h2, h3, h4, h6, h5, fun h => h7.resolve_left (absurd h), h8, h9, ?_, h11, h12,
      h13, h14, h15⟩
    intro u hu
    exact h10.resolve_left (by simp [hu])
  · rintro ⟨h1, h2, h3, h4, h6, h5, h7, h8, h9, h10, h11, h12, h13, h14, h15⟩
    have hrev : 0 ≤ s.revision := by omega
    refine ⟨⟨⟨⟨⟨⟨⟨⟨⟨⟨⟨⟨⟨⟨⟨h1, h2⟩, h3⟩, h4⟩, hrev⟩, h5⟩, h6⟩, ?_⟩, h8⟩, h9⟩, ?_⟩, h11⟩, h12⟩,
      h13⟩, h14⟩, h15⟩
    · exact (em (s.revision = 0)).elim (fun h => Or.inr (h7 h)) Or.inl
    · cases hs : s.suspension with
      | none => exact Or.inl rfl
      | some u => exact Or.inr (h10 u hs)

def eventIsValid (value : Event) : Bool :=
  hasIdentityKind value.eventId .event && hasIdentityKind value.installationId .installation &&
    hasIdentityKind value.taskId .task && isNonNegative value.leaderEpoch &&
    isNonNegative value.expectedRevision && value.kind.isKnown &&
    (noneOr value.workItemId fun i => hasIdentityKind i .workItem) &&
    (noneOr value.attemptId fun i => hasIdentityKind i .attempt) &&
    (noneOr value.dispatchId fun i => hasIdentityKind i .dispatch) &&
    noneOr value.dispatchGeneration isNonNegative &&
    (noneOr value.suspensionId fun i => hasIdentityKind i .suspension) &&
    noneOr value.suspensionEpoch isNonNegative &&
    (noneOr value.waitPolicyId fun i => hasIdentityKind i .waitPolicy) &&
    noneOr value.waitPolicyDigest isDigest &&
    (value.requiredWorkItemIds.all fun i => hasIdentityKind i .workItem) &&
    (noneOr value.wakeId fun i => hasIdentityKind i .wake) &&
    noneOr value.wakeReason Closed.isKnown &&
    (noneOr value.authorityPrincipalId fun i => hasIdentityKind i .principal) &&
    (noneOr value.authorityEvidenceId fun i => hasIdentityKind i .evidence) &&
    noneOr value.controlReason Closed.isKnown &&
    noneOr value.cancellationScope Closed.isKnown &&
    (noneOr value.interruptId fun i => hasIdentityKind i .interrupt) &&
    (noneOr value.redirectId fun i => hasIdentityKind i .redirect) &&
    noneOr value.intentVersion isNonNegative &&
    noneOr value.nextIntentVersion isNonNegative &&
    (value.supersededWorkItemIds.all fun i => hasIdentityKind i .workItem) &&
    decide value.supersededWorkItemIds.Nodup

def evidenceSetIsValid (evidenceSet : List Evidence) : Bool :=
  (evidenceSet.all fun item =>
    hasIdentityKind item.evidenceId .evidence && isDigest item.contentDigest) &&
    decide (evidenceSet.map (·.evidenceId)).Nodup

/-- `_canonical_evidence`: sorted by canonical text, which makes the order of the
evidence irrelevant. -/
def canonicalEvidence (evidenceSet : List Evidence) : List Json :=
  (evidenceSet.map Evidence.canonical).insertionSort fun a b =>
    canonicalJson a ≤ canonicalJson b

def authorityBoundEvents : List EventKind :=
  [.taskCancelled, .workItemCancelled, .attemptCancelled, .interruptRequested,
    .interruptResumed, .redirectAuthorized]

/-- `_authority_is_valid`, for an event of a known kind. -/
def authorityIsValid (event : Event) (kind : EventKind) (evidenceSet : List Evidence) : Bool :=
  !authorityBoundEvents.contains kind ||
    (hasIdentityKind? event.authorityPrincipalId .principal &&
      hasIdentityKind? event.authorityEvidenceId .evidence &&
      event.controlReason.any Closed.isKnown &&
      evidenceSet.any fun item => some item.evidenceId == event.authorityEvidenceId)

end Valp.Kernel
