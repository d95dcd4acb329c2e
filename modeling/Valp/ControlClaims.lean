/-
Evidence, claims and reviews of an installation (`add_evidence`, `declare_claim` and
`record_review` of `valp_cli/control_plane.py`).

A file of the control root is its digest here, and the two ledgers and the manifest are lists of
their records: between two calls anything may happen to the files.

* `Earned` says what a verified claim should stand on
* `recordReview_eq_ok` says what a review looks at
* `Tracked` says what a run of calls and changes of files leaves
-/
import Valp.ControlRegistry

namespace Valp.Control

open Json (Value)
open Dispatch (iterate listOf)
open Kernel (bind_eq_ok)

/-! ### The calls -/

/-- What the calls read and write. -/
structure Desk where
  files : String → Option String
  items : List Value
  claims : List Value
  reviews : List Value

/-- The clock and the new names of a call. -/
structure Names where
  evidenceId : String
  claimId : String
  reviewId : String
  now : String

def missing (message : String) : Fault := refusal "VALP-E-EVIDENCE-MISSING" message

def safeControlRef (ref : Value) : Except Fault String :=
  let relative : Fault := refusal "VALP-E-MESSAGE-SCHEMA"
    "Control evidence refs must be relative POSIX paths"
  match ref.1 with
  | .str s =>
    if s == "" || ['/'].isPrefixOf s.toList || s.toList.contains '\\' || s.toList.contains ':' then
      .error relative
    else if (s.toList.splitOn '/').any fun part => part ∈ [[], ['.'], ['.', '.']] then
      .error (refusal "VALP-E-MESSAGE-SCHEMA" "Control evidence refs contain an unsafe segment")
    else .ok s
  | _ => .error (if ref.truthy then .python "TypeError" else relative)

structure Evidence where
  contentRef : String
  evidenceKind : String
  producerPrincipalId : String
  collectionMethod : String
  mediaType : String
  redactionState : String

def evidenceItem (names : Names) (e : Evidence) (ref digest : String) : Value :=
  .dict [
    ("evidence_id", .str names.evidenceId),
    ("evidence_kind", .str e.evidenceKind),
    ("content_ref", .str ref),
    ("content_digest", .str digest),
    ("media_type", .str e.mediaType),
    ("created_at", .str names.now),
    ("producer_principal_id", .str e.producerPrincipalId),
    ("collection_method", .str e.collectionMethod),
    ("redaction_state", .str e.redactionState),
    ("validity_state", .str "valid"),
    ("supporting_claim_ids", listOf [])] (by simp)

def addEvidence (names : Names) (e : Evidence) (desk : Desk) : Except Fault Desk := do
  let ref ← safeControlRef (.str e.contentRef)
  match desk.files ref with
  | none => .error (missing ("Evidence file does not exist: " ++ ref))
  | some digest => .ok { desk with items := desk.items ++ [evidenceItem names e ref digest] }

/-- `by_ref.get(ref)`: the last item wins. -/
def Desk.itemAt (desk : Desk) (ref : String) : Option Value :=
  desk.items.reverse.find? fun item => (item.get "content_ref").equal (.str ref)

/-- The file has the digest that is recorded of it. -/
def Desk.unchanged (desk : Desk) (ref : String) (recorded : Value) : Bool :=
  (desk.files ref).any fun digest => recorded.equal (.str digest)

/-- One turn of the loop of `_evidence_by_ref`. -/
def Desk.evidenceAt (desk : Desk) (ref : Value) : Except Fault Value := do
  let name ← safeControlRef ref
  match desk.itemAt name with
  | none => .error (missing ("Evidence is absent or invalid: " ++ name))
  | some item =>
    if !(item.get "validity_state").equal (.str "valid") then
      .error (missing ("Evidence is absent or invalid: " ++ name))
    else if !desk.unchanged name (item.get "content_digest") then
      .error (missing ("Evidence digest mismatch: " ++ name))
    else .ok item

def Desk.evidenceByRef (desk : Desk) (refs : List Value) : Except Fault (List Value) := do
  let _ ← desk.items.mapM fun item => hashed (item.get "content_ref")
  refs.mapM desk.evidenceAt

/-- `self._evidence_by_ref(refs) if refs else []`. -/
def Desk.evidenceFor (desk : Desk) (refs : List Value) : Except Fault (List Value) :=
  if refs.isEmpty then .ok [] else desk.evidenceByRef refs

structure Declaration where
  subjectRef : String
  claimKind : String
  predicate : String
  assertedValue : Value
  scope : String
  claimantPrincipalId : String
  evidenceRefs : List String
  requiredEvidenceKinds : List String
  taskId : Value

/-- An item that a claim cites names it. -/
def supporting (claimId : String) (refs : List Value) (item : Value) : Except Fault Value := do
  let ids ← (iterate (item.get "supporting_claim_ids")).mapError fun _ => .python "TypeError"
  if refs.any (item.get "content_ref").equal && !ids.any fun id => id.equal (.str claimId) then
    .ok (item.set "supporting_claim_ids" (listOf (ids ++ [.str claimId])))
  else .ok item

/-- `declare_claim` in the installation `installationId`. -/
def declareClaim (installationId : Value) (names : Names) (d : Declaration) (desk : Desk) :
    Except Fault Desk := do
  let ref ← safeControlRef (.str d.subjectRef)
  match desk.files ref with
  | none => .error (missing ("Claim subject does not exist: " ++ ref))
  | some digest => do
    let refs : List Value := d.evidenceRefs.map .str
    let evidence ← desk.evidenceFor refs
    let claim := sealed [
      ("schema_version", .str "valp-claim.v1"),
      ("claim_id", .str names.claimId),
      ("installation_id", installationId),
      ("task_id", d.taskId),
      ("claimant_principal_id", .str d.claimantPrincipalId),
      ("claim_kind", .str d.claimKind),
      ("subject_ref", .str ref),
      ("subject_digest", .str digest),
      ("predicate", .str d.predicate),
      ("asserted_value", d.assertedValue),
      ("scope", .str d.scope),
      ("created_at", .str names.now),
      ("required_evidence_kinds", listOf (d.requiredEvidenceKinds.map .str)),
      ("evidence_refs", listOf refs),
      ("status", .str (if evidence.isEmpty then "declared" else "supported")),
      ("verifier_principal_id", .null),
      ("review_ref", .null),
      ("supersedes_claim_id", .null)] "claim_digest" (by simp)
    let cites := if evidence.isEmpty then [] else refs
    let items ← desk.items.mapM (supporting names.claimId cites)
    .ok { desk with items := items, claims := desk.claims ++ [claim] }

structure Review where
  claimId : String
  reviewerPrincipalId : String
  verdict : String
  criteriaSchema : String
  criteriaVersion : String
  findings : List Value
  confidenceLimits : List Value

/-- The kinds of claims that their claimant cannot review. -/
def gateBearing (kind : Value) : Bool :=
  ["done", "high_risk", "migration", "plugin_enablement", "stable_release"].any fun name =>
    kind.equal (.str name)

/-- The refs that a claim cites. -/
def cited (claim : Value) : Except Fault (List Value) :=
  (iterate (claim.get "evidence_refs")).mapError fun _ => .python "TypeError"

section

variable (names : Names) (r : Review) (claim : Value)

def reviewOf (refs : List Value) : Value :=
  sealed [
    ("schema_version", .str "valp-review.v1"),
    ("review_id", .str names.reviewId),
    ("reviewer_principal_id", .str r.reviewerPrincipalId),
    ("claim_ids", listOf [.str r.claimId]),
    ("reviewed_subject_digests", listOf [claim.get "subject_digest"]),
    ("criteria_schema", .str r.criteriaSchema),
    ("criteria_version", .str r.criteriaVersion),
    ("required_evidence_refs", listOf refs),
    ("independence_requirement", .str "different-principal-for-gate-bearing-claim"),
    ("risk_class", if claim.has "claim_kind" then claim.get "claim_kind" else .str "general"),
    ("requested_at", claim.get "created_at"),
    ("findings", listOf r.findings),
    ("verdict", .str r.verdict),
    ("confidence_limits", listOf r.confidenceLimits),
    ("completed_at", .str names.now)] "review_digest" (by simp)

def reviewFields : List (String × Value) :=
  [("claim_id", .str names.claimId),
    ("status", .str (if r.verdict = "pass" then "verified"
      else if r.verdict = "fail" then "rejected" else "blocked")),
    ("verifier_principal_id", .str r.reviewerPrincipalId),
    ("review_ref", .str names.reviewId),
    ("supersedes_claim_id", claim.get "claim_id"),
    ("created_at", .str names.now)]

def reviewedClaim : Value :=
  let reviewed := (reviewFields names r claim).foldl
    (fun claim field => claim.set field.1 field.2) claim
  reviewed.set "claim_digest" (.str (digestWithout reviewed "claim_digest"))

end

/-- `record_review`, with the claim that it appends. -/
def recordReview (names : Names) (r : Review) (desk : Desk) : Except Fault (Desk × Value) := do
  if !(["pass", "fail", "abstain", "blocked"].contains r.verdict) then
    .error (refusal "VALP-E-MESSAGE-SCHEMA" "Unknown review verdict")
  else
    match (desk.claims.filter fun c => (c.get "claim_id").equal (.str r.claimId)).getLast? with
    | none => .error (missing ("Unknown claim: " ++ r.claimId))
    | some claim =>
      if (claim.get "claimant_principal_id").equal (.str r.reviewerPrincipalId) &&
          gateBearing (claim.get "claim_kind") then
        .error (refusal "VALP-E-REVIEW-BLOCKED" "Claimant cannot independently review this claim")
      else do
        let refs ← cited claim
        let evidence ← desk.evidenceFor refs
        if r.verdict = "pass" && evidence.isEmpty then
          .error (missing "A passing review requires evidence")
        else do
          let _ ← item claim "subject_digest"
          .ok ({ desk with
            reviews := desk.reviews ++ [reviewOf names r claim refs]
            claims := desk.claims ++ [reviewedClaim names r claim] }, reviewedClaim names r claim)

/-! ### What a verified claim should stand on -/

def citedRefs (claim : Value) : List Value := (cited claim).toOption.getD []

def requiredKinds (claim : Value) : List Value :=
  (iterate (claim.get "required_evidence_kinds")).toOption.getD []

/-- The subject still has the digest of the claim. -/
def Intact (desk : Desk) (claim : Value) : Prop :=
  ∃ ref, claim.get "subject_ref" = .str ref ∧ desk.unchanged ref (claim.get "subject_digest") = true

/-- The evidence that is cited is of all kinds that are required. -/
def Covered (desk : Desk) (claim : Value) : Prop :=
  ∀ kind ∈ requiredKinds claim, ∃ ref item, .str ref ∈ citedRefs claim ∧
    desk.itemAt ref = some item ∧ (item.get "evidence_kind").equal kind = true

/-- **The claim is earned**, if it was verified with these files and this manifest. -/
structure Earned (desk : Desk) (claim : Value) : Prop where
  intact : Intact desk claim
  valid : ∀ ref ∈ citedRefs claim, ∃ name item, ref = .str name ∧ desk.itemAt name = some item ∧
    (item.get "validity_state").equal (.str "valid") = true ∧
    desk.unchanged name (item.get "content_digest") = true
  covered : Covered desk claim
  independent : gateBearing (claim.get "claim_kind") = true →
    (claim.get "claimant_principal_id").equal (claim.get "verifier_principal_id") = false

section Review

variable {names : Names} {r : Review} {desk desk' : Desk} {claim ref item : Value} {name : String}

theorem safeControlRef_eq_ok (h : safeControlRef ref = .ok name) : ref = .str name := by
  rw [safeControlRef] at h
  split at h
  · rename_i s hs
    split at h
    · cases h
    · split_ifs at h
      cases h
      exact Subtype.ext hs
  · cases h

theorem evidenceAt_eq_ok (h : desk.evidenceAt ref = .ok item) :
    ∃ name, safeControlRef ref = .ok name ∧ desk.itemAt name = some item ∧
      (item.get "validity_state").equal (.str "valid") ∧
      desk.unchanged name (item.get "content_digest") := by
  obtain ⟨name, hname, h⟩ := bind_eq_ok.mp h
  split at h
  · cases h
  rename_i found hfnd
  split at h
  · cases h
  rename_i hval
  split_ifs at h with hunch
  cases h
  exact ⟨name, hname, hfnd, by simpa using hval, by simpa using hunch⟩

/-- **What a review looks at.** -/
theorem recordReview_eq_ok (h : recordReview names r desk = .ok (desk', claim)) :
    ∃ reviewed ∈ desk.claims, claim = reviewedClaim names r reviewed ∧
      desk'.files = desk.files ∧ desk'.items = desk.items ∧
      desk'.claims = desk.claims ++ [claim] ∧ reviewed.isObject ∧
      (gateBearing (reviewed.get "claim_kind") →
        (reviewed.get "claimant_principal_id").equal (.str r.reviewerPrincipalId) = false) ∧
      ∃ refs, cited reviewed = .ok refs ∧ ∀ ref ∈ refs, ∃ item, desk.evidenceAt ref = .ok item := by
  rw [recordReview] at h
  split_ifs at h
  split at h
  · cases h
  rename_i reviewed hfnd
  obtain ⟨hmem, hid⟩ := List.mem_filter.mp (List.mem_of_getLast? hfnd)
  have hobj : reviewed.isObject := isObject_of_has
    (Option.isSome_of_eq_some (member?_of_get (Value.equal_str.mp hid)))
  split_ifs at h with hindependent
  simp only [bind_eq_ok] at h
  obtain ⟨refs, hrefs, evidence, hevid, h⟩ := h
  split_ifs at h
  obtain ⟨-, -, h⟩ := bind_eq_ok.mp h
  obtain ⟨rfl, rfl⟩ := Prod.mk.inj (Except.ok.inj h)
  refine ⟨reviewed, hmem, rfl, rfl, rfl, rfl, hobj, fun hgate => ?_, refs, hrefs,
    fun ref href => ?_⟩
  · rwa [hgate, Bool.and_true, Bool.not_eq_true] at hindependent
  · rw [Desk.evidenceFor, if_neg (by simpa using List.ne_nil_of_mem href)] at hevid
    obtain ⟨-, -, hevid⟩ := bind_eq_ok.mp hevid
    obtain ⟨item, hitem⟩ := (Bytes.exists_of_mapM hevid).2 ref href
    exact ⟨item, hitem⟩

theorem get_reviewedClaim {k : String} (hobj : claim.isObject)
    (hk : k ∉ (reviewFields names r claim).map Prod.fst) (hdig : k ≠ "claim_digest") :
    (reviewedClaim names r claim).get k = claim.get k := by
  obtain ⟨hupdated, hget⟩ := get_update hobj hk
  rw [reviewedClaim, Value.get_set_ne hupdated hdig, hget]

theorem verifier_reviewedClaim (hobj : claim.isObject) :
    (reviewedClaim names r claim).get "verifier_principal_id" = .str r.reviewerPrincipalId := by
  simp [reviewedClaim, reviewFields, Value.get_set, hobj]

end Review

/-! ### Runs -/

/-- A call, or a change of a file. -/
inductive Act where
  | add (names : Names) (e : Evidence)
  | declare (names : Names) (d : Declaration)
  | review (names : Names) (r : Review)
  | write (ref : String) (digest : Option String)

def Desk.start (files : String → Option String) : Desk := ⟨files, [], [], []⟩

/-- A call that raises leaves the desk as it was. -/
def Desk.step (installationId : Value) (desk : Desk) : Act → Option Desk
  | .add names e => some ((addEvidence names e desk).toOption.getD desk)
  | .declare names d => some ((declareClaim installationId names d desk).toOption.getD desk)
  | .review names r => some (((recordReview names r desk).map Prod.fst).toOption.getD desk)
  | .write ref digest => some { desk with files := Function.update desk.files ref digest }

/-- What a history says of a ref: the digest of its file, and the kind under which the file was
last added as evidence. -/
def Act.see (ref : String) (seen : Option String × Option String) :
    Act → Option String × Option String
  | .add _ e => if e.contentRef = ref ∧ seen.1.isSome then (seen.1, some e.evidenceKind) else seen
  | .write changed digest => if changed = ref then (digest, seen.2) else seen
  | _ => seen

def seen (files : String → Option String) (acts : List Act) (ref : String) :
    Option String × Option String :=
  acts.foldl (Act.see ref) (files ref, none)

/-- The claim goes back to this declaration behind these acts. -/
structure Declared (files : String → Option String) (before : List Act) (d : Declaration)
    (claim : Value) : Prop where
  object : claim.isObject = true
  subject : claim.get "subject_ref" = .str d.subjectRef
  digest : ∃ digest, claim.get "subject_digest" = .str digest ∧
    (seen files before d.subjectRef).1 = some digest
  kinds : claim.get "required_evidence_kinds" = listOf (d.requiredEvidenceKinds.map .str)
  refs : claim.get "evidence_refs" = listOf (d.evidenceRefs.map .str)

/-- The names and kinds of evidence. -/
def kindsOf (items : List Value) : List (Value × Value) :=
  items.map fun item => (item.get "content_ref", item.get "evidence_kind")

/-- **What a run leaves.** -/
structure Tracked (files : String → Option String) (acts : List Act) (desk : Desk) : Prop where
  digests : ∀ ref, desk.files ref = (seen files acts ref).1
  objects : ∀ item ∈ desk.items, item.isObject = true
  kinds : ∀ ref, safeControlRef (.str ref) = .ok ref →
    ((kindsOf desk.items).reverse.find? fun kind => kind.1.equal (.str ref)).map Prod.snd =
      (seen files acts ref).2.map .str
  claims : ∀ claim ∈ desk.claims, ∃ before names d between,
    acts = before ++ .declare names d :: between ∧ Declared files before d claim

section Run

variable {names : Names} {files : String → Option String} {acts : List Act} {desk desk' : Desk}
  {claim item : Value} {installationId : Value} {d : Declaration} {before : List Act} {act : Act}

theorem supporting_eq_ok {claimId : String} {refs : List Value} {item' : Value}
    (hobj : item.isObject) (h : supporting claimId refs item = .ok item') :
    item'.isObject ∧ (item'.get "content_ref", item'.get "evidence_kind") =
      (item.get "content_ref", item.get "evidence_kind") := by
  obtain ⟨ids, -, h⟩ := bind_eq_ok.mp h
  split_ifs at h <;> cases h
  · rw [Value.isObject_set, Value.get_set_ne hobj (by decide),
      Value.get_set_ne hobj (by decide)]
    exact ⟨hobj, rfl⟩
  · exact ⟨hobj, rfl⟩

theorem kindsOf_supporting {claimId : String} {refs items items' : List Value}
    (hobjs : ∀ item ∈ items, item.isObject)
    (h : items.mapM (supporting claimId refs) = .ok items') :
    (∀ item ∈ items', item.isObject) ∧ kindsOf items' = kindsOf items := by
  induction items generalizing items' with
  | nil =>
    cases h
    exact ⟨hobjs, rfl⟩
  | cons item items ih =>
    simp only [List.mapM_cons, bind_eq_ok] at h
    obtain ⟨item', hitem, items', hitems, h⟩ := h
    cases h
    obtain ⟨hobj, hobjs⟩ := List.forall_mem_cons.mp hobjs
    obtain ⟨hobj', hkind⟩ := supporting_eq_ok hobj hitem
    obtain ⟨hobjs', hks⟩ := ih hobjs hitems
    exact ⟨List.forall_mem_cons.mpr ⟨hobj', hobjs'⟩, congrArg₂ List.cons hkind hks⟩

theorem seen_concat (ref : String) :
    seen files (acts ++ [act]) ref = act.see ref (seen files acts ref) := by
  rw [seen, List.foldl_append]
  rfl

theorem Tracked.later (h : Tracked files acts desk) (hmem : claim ∈ desk.claims) (act : Act) :
    ∃ before names d between, acts ++ [act] = before ++ .declare names d :: between ∧
      Declared files before d claim := by
  obtain ⟨before, names, d, between, rfl, hdecl⟩ := h.claims claim hmem
  exact ⟨before, names, d, between ++ [act], by simp, hdecl⟩

theorem Tracked.same (h : Tracked files acts desk) (act : Act)
    (hsee : ∀ ref, (act.see ref (seen files acts ref)).1 = (seen files acts ref).1 ∧
      (safeControlRef (.str ref) = .ok ref → act.see ref (seen files acts ref) =
        seen files acts ref)) : Tracked files (acts ++ [act]) desk where
  digests ref := by rw [seen_concat, (hsee ref).1, h.digests]
  objects := h.objects
  kinds ref href := by rw [seen_concat, (hsee ref).2 href, h.kinds ref href]
  claims claim hmem := h.later hmem act

theorem Declared.reviewed {r : Review} (h : Declared files before d claim) :
    Declared files before d (reviewedClaim names r claim) := by
  have hget : ∀ k ∈ ["subject_ref", "subject_digest", "required_evidence_kinds", "evidence_refs"],
      (reviewedClaim names r claim).get k = claim.get k := by
    intro k hk
    refine get_reviewedClaim h.object ?_ ?_ <;> revert hk <;> simp [reviewFields] <;> grind
  simp only [List.forall_mem_cons] at hget
  obtain ⟨hsubj, hdig, hks, hrefs, -⟩ := hget
  refine ⟨?_, hsubj.trans h.subject, hdig ▸ h.digest, hks.trans h.kinds, hrefs.trans h.refs⟩
  rw [reviewedClaim, Value.isObject_set]
  exact (get_update (k := "") h.object (by simp [reviewFields])).1

theorem Tracked.add (h : Tracked files acts desk) (names : Names) (e : Evidence) :
    Tracked files (acts ++ [.add names e]) ((addEvidence names e desk).toOption.getD desk) := by
  have hsee : ∀ ref, Act.see ref (seen files acts ref) (.add names e) =
      if e.contentRef = ref ∧ (desk.files ref).isSome then (desk.files ref, some e.evidenceKind)
      else seen files acts ref := fun ref => h.digests ref ▸ rfl
  have hdigs : ∀ ref, (Act.see ref (seen files acts ref) (.add names e)).1 =
      (seen files acts ref).1 := by
    intro ref
    rw [hsee, ← h.digests]
    split_ifs
    · rfl
    · exact (h.digests ref).symm
  rw [addEvidence]
  cases hsafe : safeControlRef (.str e.contentRef) with
  | error fault =>
    refine h.same _ fun ref => ⟨hdigs ref, fun href => ?_⟩
    rw [hsee, if_neg]
    rintro ⟨rfl, -⟩
    cases hsafe.symm.trans href
  | ok name =>
    obtain rfl := Value.str_inj.mp (safeControlRef_eq_ok hsafe)
    rw [Kernel.Decode.ok_bind]
    cases hfile : desk.files e.contentRef with
    | none =>
      refine h.same _ fun ref => ⟨hdigs ref, fun href => ?_⟩
      rw [hsee, if_neg]
      rintro ⟨rfl, hsome⟩
      rw [hfile] at hsome
      cases hsome
    | some digest =>
      refine ⟨fun ref => ?_, ?_, fun ref href => ?_, fun claim hmem => h.later hmem _⟩
      · rw [seen_concat, hdigs]
        exact h.digests ref
      · exact List.forall_mem_append.mpr ⟨h.objects, List.forall_mem_singleton.mpr rfl⟩
      · -- the new item is the last one of its ref
        have hks : (kindsOf (desk.items ++ [evidenceItem names e e.contentRef digest])).reverse =
            (.str e.contentRef, .str e.evidenceKind) :: (kindsOf desk.items).reverse := by
          rw [kindsOf, List.map_append, List.reverse_append]
          rfl
        show ((kindsOf (desk.items ++ [_])).reverse.find? _).map _ = _
        rw [seen_concat, hsee, hks, List.find?_cons]
        by_cases hsame : e.contentRef = ref
        · subst hsame
          rw [if_pos ⟨rfl, by rw [hfile]; rfl⟩, Value.equal_self]
          rfl
        · rw [if_neg fun hboth => hsame hboth.1, ← h.kinds ref href, Value.equal_str_str,
            decide_eq_false hsame]

theorem declareClaim_eq_ok (h : declareClaim installationId names d desk = .ok desk') :
    ∃ digest claim claimId refs, desk.files d.subjectRef = some digest ∧
      desk'.files = desk.files ∧ desk'.claims = desk.claims ++ [claim] ∧
      desk.items.mapM (supporting claimId refs) = .ok desk'.items ∧ claim.isObject ∧
      claim.get "subject_ref" = .str d.subjectRef ∧ claim.get "subject_digest" = .str digest ∧
      claim.get "required_evidence_kinds" = listOf (d.requiredEvidenceKinds.map .str) ∧
      claim.get "evidence_refs" = listOf (d.evidenceRefs.map .str) := by
  obtain ⟨name, hname, h⟩ := bind_eq_ok.mp h
  obtain rfl := Value.str_inj.mp (safeControlRef_eq_ok hname)
  split at h
  · cases h
  rename_i digest hdig
  obtain ⟨evidence, -, h⟩ := bind_eq_ok.mp h
  obtain ⟨items, hitems, h⟩ := bind_eq_ok.mp h
  cases h
  exact ⟨digest, _, _, _, hdig, rfl, rfl, hitems, rfl, rfl, rfl, rfl, rfl⟩

theorem Tracked.declare {names : Names} {d : Declaration} (h : Tracked files acts desk)
    (hdeclare : declareClaim installationId names d desk = .ok desk') :
    Tracked files (acts ++ [.declare names d]) desk' := by
  have hsame := h.same (.declare names d) fun _ => ⟨rfl, fun _ => rfl⟩
  obtain ⟨digest, claim, _, _, hdig, hfs, hclaims, hitems, hobj, hsubj, hrecd,
    hks, hrefs⟩ := declareClaim_eq_ok hdeclare
  obtain ⟨hobjs, hitems⟩ := kindsOf_supporting h.objects hitems
  refine ⟨fun ref => ?_, hobjs, fun ref href => ?_, fun found hmem => ?_⟩
  · exact (congrFun hfs ref).trans (hsame.digests ref)
  · rw [hitems]
    exact hsame.kinds ref href
  · rcases List.mem_append.mp (hclaims ▸ hmem) with hold | hnew
    · exact h.later hold _
    · obtain rfl := List.mem_singleton.mp hnew
      exact ⟨acts, names, d, [], rfl, hobj, hsubj,
        ⟨digest, hrecd, (h.digests _).symm.trans hdig⟩, hks, hrefs⟩

theorem Tracked.review {names : Names} {r : Review} {out : Desk × Value}
    (h : Tracked files acts desk) (hreview : recordReview names r desk = .ok out) :
    Tracked files (acts ++ [.review names r]) out.1 := by
  have hsame := h.same (.review names r) fun _ => ⟨rfl, fun _ => rfl⟩
  obtain ⟨reviewed, hmem, hclm, hfs, hitems, hclaims, -⟩ := recordReview_eq_ok hreview
  refine ⟨fun ref => ?_, hitems ▸ h.objects, fun ref href => ?_, fun found hfnd => ?_⟩
  · rw [hfs]
    exact hsame.digests ref
  · rw [hitems]
    exact hsame.kinds ref href
  · rcases List.mem_append.mp (hclaims ▸ hfnd) with hold | hnew
    · exact h.later hold _
    · obtain ⟨before, first, d, between, hacts, hdecl⟩ := h.later hmem (.review names r)
      rw [List.mem_singleton.mp hnew, hclm]
      exact ⟨before, first, d, between, hacts, hdecl.reviewed⟩

/-- **What one act does.** -/
theorem Tracked.step (h : Tracked files acts desk)
    (hstep : desk.step installationId act = some desk') : Tracked files (acts ++ [act]) desk' := by
  cases act with
  | add names e =>
    cases hstep
    exact h.add names e
  | declare names d =>
    cases hdeclare : declareClaim installationId names d desk with
    | error fault =>
      rw [Desk.step, hdeclare] at hstep
      cases hstep
      exact h.same (.declare names d) fun _ => ⟨rfl, fun _ => rfl⟩
    | ok declared =>
      rw [Desk.step, hdeclare] at hstep
      obtain rfl : declared = desk' := Option.some.inj hstep
      exact h.declare hdeclare
  | review names r =>
    cases hreview : recordReview names r desk with
    | error fault =>
      rw [Desk.step, hreview] at hstep
      cases hstep
      exact h.same (.review names r) fun _ => ⟨rfl, fun _ => rfl⟩
    | ok out =>
      rw [Desk.step, hreview] at hstep
      obtain rfl : out.1 = desk' := Option.some.inj hstep
      exact h.review hreview
  | write changed digest =>
    cases hstep
    have hsee : ∀ ref, Act.see ref (seen files acts ref) (.write changed digest) =
        (if ref = changed then digest else desk.files ref, (seen files acts ref).2) := by
      intro ref
      rw [h.digests, Act.see]
      split_ifs <;> simp_all
    refine ⟨fun ref => ?_, h.objects, fun ref href => ?_, fun claim hmem => h.later hmem _⟩
    · rw [seen_concat, hsee]
      exact Function.update_apply desk.files changed digest ref
    · rw [seen_concat, hsee]
      exact h.kinds ref href

/-- **What a run leaves behind.** -/
theorem tracked_of_run
    (h : Run.exec (Desk.step installationId) (Desk.start files) acts = some desk) :
    Tracked files acts desk :=
  Run.exec_history (I := Tracked files)
    ⟨fun _ => rfl, by simp [Desk.start], fun _ _ => rfl, by simp [Desk.start]⟩
    (fun _ _ _ _ _ htracked hstep => htracked.step hstep) h

theorem unchanged_str {ref digest : String} :
    desk.unchanged ref (.str digest) ↔ desk.files ref = some digest := by
  rw [Desk.unchanged]
  cases desk.files ref <;> simp [Value.equal_str_str, eq_comm]

theorem Tracked.kind (h : Tracked files acts desk) {ref kind : String}
    (href : safeControlRef (.str ref) = .ok ref) :
    (∃ item, desk.itemAt ref = some item ∧ item.get "evidence_kind" = .str kind) ↔
      (seen files acts ref).2 = some kind := by
  have hks := h.kinds ref href
  rw [kindsOf, ← List.map_reverse, List.find?_map, Option.map_map] at hks
  have hitem : (desk.itemAt ref).map (fun item => item.get "evidence_kind") =
      (seen files acts ref).2.map .str := hks
  rw [← Option.map_eq_some_iff, hitem, Option.map_eq_some_iff]
  simp [Value.str_inj]

end Run

/-! ### A claim of a worker -/

def sampleNames (n : String) : Names := ⟨"evidence-" ++ n, "claim-" ++ n, "review-" ++ n, "t" ++ n⟩

def sampleFiles (ref : String) : Option String :=
  [("work.md", "sha256:work"), ("log.txt", "sha256:log")].lookup ref

/-- The log is added as evidence, and a claim that requires these kinds is declared. -/
def sampleActs (kinds : List String) : List Act :=
  [.add (sampleNames "1") ⟨"log.txt", "log", "worker", "control-root-file", "text/plain", ""⟩,
    .declare (sampleNames "2")
      ⟨"work.md", "done", "complete", .bool true, "task", "worker", ["log.txt"], kinds, .null⟩]

def sampleReview : Review := ⟨"claim-2", "reviewer", "pass", "valp-claim-review.v1", "1", [], []⟩

end Valp.Control
