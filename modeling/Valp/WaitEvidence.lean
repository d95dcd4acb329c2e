/-
Two judgments about the evidence of a work item.

`work_item_evidence_is_valid` (`valp_cli/workflow.py`) lets a completion clear the wait barrier;
`_valid_evidence_ref` (`valp_cli/submission.py`) lets the dependency gate release the next
phase.  Both read the refs of the item, what they lead to and `evidence-status.json`.

* `evidence_judgments_agree_iff` — **when the two judgments agree**.
-/
import Valp.WaitEarned

namespace Valp.Wait

open Json (Value)
open Dispatch (Files invalidEvidenceStatuses lower orElse emptyDict iterate refList safeTaskRef
  strOf strOr evidenceStatusValue validEvidenceRef)
open Queue (asStr)

/-! ### The evidence of a work item -/

/-- What a ref leads to from the task directory, behind the links on its way. -/
inductive Target where
  | missing
  | outside
  | directory
  | special
  | file (size : ℕ)

/-- `candidate.exists()`, of a candidate in the directory. -/
def Target.isPresent : Target → Bool
  | .missing | .outside => false
  | .directory | .special | .file _ => true

/-- `candidate.is_file()` and not empty. -/
def Target.isFilled : Target → Bool
  | .file size => size != 0
  | _ => false

/-- What the two judgments read: the task directory and `evidence-status.json`, which is `{}`
where there is no such document. -/
structure Evidence where
  target : String → Target
  status : Value

def taskEvidenceExists (evidence : Evidence) (ref : String) : Bool :=
  safeTaskEvidenceRef ref && (evidence.target ref).isPresent

/-- The records of `evidence-status.json`. -/
def recordsOf (status : Value) : Value :=
  orElse (orElse (status.get "evidence") (status.get "items")) emptyDict

/-- The status of a ref in a dictionary of records, or in the first record about it of a list.
Nothing but a list has items that are dictionaries. -/
def recordedStatus (text : Json → String) (status : Value) (ref : String) : List Char :=
  let records := recordsOf status
  let stated := fun record : Value => lower (strOr text (record.get "status") "valid")
  if records.isObject then
    let record := records.get ref
    if record.isObject then stated record else lower ((asStr record).getD "valid")
  else
    match iterate records with
    | .ok items =>
      ((items.find? fun record => record.isObject && (record.get "ref").equal (.str ref)).map
        stated).getD "valid".toList
    | .error _ => "valid".toList

def isInvalid (status : List Char) : Bool :=
  invalidEvidenceStatuses.any fun word => status == word.toList

def workItemEvidenceIsValid (text : Json → String) (evidence : Evidence) (item : Value) :
    Except Fault Bool := do
  let refs ← refList text (item.get "expected_refs")
  .ok (refs.all fun ref => safeTaskEvidenceRef ref && taskEvidenceExists evidence ref &&
    !isInvalid (recordedStatus text evidence.status ref))

/-- The same files, as the dependency gate reads them. -/
def Evidence.files (evidence : Evidence) (text : Json → String) : Files where
  text := text
  isFilled ref := (evidence.target ref).isFilled
  evidenceStatus := evidence.status
  correctionCycle := emptyDict

/-! ### Dictionaries of records -/

section Dictionary

variable {python : Python} {evidence : Evidence} {ref : String}

theorem isInvalid_lower {s : String} {c : Char} (hs : s.toList.head? = some c)
    (hc : c ∈ "-0123456789[T".toList) : isInvalid (lower s) = false := by
  have hhead : ∀ word ∈ invalidEvidenceStatuses, ∀ d ∈ "-0123456789[T".toList,
      word.toList.head? ≠ some (if d = '\u212a' then 'k' else d.toLower) := by decide
  rw [isInvalid, List.any_eq_false]
  intro word hword heq
  refine hhead word hword c hc ?_
  rw [← beq_iff_eq.mp heq, lower, List.head?_map, hs]
  rfl

theorem isDigit_mem {c : Char} (h : c.isDigit) : c ∈ "-0123456789[T".toList := by
  simp only [Char.isDigit, Bool.and_eq_true, decide_eq_true_eq] at h
  obtain ⟨hlow, hhigh⟩ := h
  rw [← Char.ofNat_toNat c]
  have hlow' : 48 ≤ c.toNat := hlow
  have hhigh' : c.toNat ≤ 57 := hhigh
  interval_cases c.toNat <;> decide

/-- A dictionary of records gives both judgments the same verdict. -/
theorem isInvalid_recordedStatus (h : (recordsOf evidence.status).isObject) :
    isInvalid (recordedStatus python.text evidence.status ref) =
      isInvalid (evidenceStatusValue (evidence.files python.text) ref) := by
  have hvalue : evidenceStatusValue (evidence.files python.text) ref =
      let record := orElse ((recordsOf evidence.status).get ref) emptyDict
      lower (strOr python.text (if record.isObject then record.get "status" else record)
        "valid") := by
    show (if !(recordsOf evidence.status).isObject then _ else _) = _
    rw [h]
    rfl
  rw [hvalue, recordedStatus]
  simp only [h, if_true]
  generalize (recordsOf evidence.status).get ref = record
  -- a record that is neither a dictionary nor a text does not read like an invalid status
  have hoth : ∀ {c : Char}, record.isObject = false → asStr record = none →
      (strOf python.text record.1).toList.head? = some c → c ∈ "-0123456789[T".toList →
      isInvalid (if record.isObject = true then
          lower (strOr python.text (record.get "status") "valid")
        else lower ((asStr record).getD "valid")) =
      isInvalid (lower (strOr python.text (if (orElse record emptyDict).isObject = true then
        (orElse record emptyDict).get "status" else orElse record emptyDict) "valid")) := by
    intro c hobj hstr hhead hc
    rw [hobj, hstr, orElse]
    cases htruthy : record.truthy with
    | false => rfl
    | true =>
      simp only [if_true, hobj, Bool.false_eq_true, if_false, strOr, htruthy]
      rw [isInvalid_lower hhead hc]
      rfl
  obtain ⟨record, hrcd⟩ := record
  cases record with
  | null => rfl
  | bool b =>
    cases b with
    | false => rfl
    | true => exact hoth rfl rfl (by decide : "True".toList.head? = some 'T') (by decide)
  | int n =>
    obtain ⟨d, ds, hd, hdigit⟩ := Json.renderInt_head n
    have hhead : (strOf python.text (.int n)).toList.head? = some d := by
      show (toString n).toList.head? = _
      rw [toList_toString_int, hd, List.head?_cons]
    rcases hdigit with rfl | hdigit
    · exact hoth rfl rfl hhead (by decide)
    · exact hoth rfl rfl hhead (isDigit_mem hdigit)
  | str s =>
    by_cases hs : s = ""
    · subst hs
      exact (by decide : isInvalid (lower "") = isInvalid (lower "valid"))
    · have htruthy : Value.truthy ⟨.str s, hrcd⟩ = true := bne_iff_ne.mpr hs
      simp [orElse, htruthy, strOr, Value.isObject, Json.shape, asStr, strOf]
  | arr items => exact hoth rfl rfl (python.text_arr items) (by decide)
  | obj members =>
    cases members with
    | nil => rfl
    | cons m members => simp [orElse, Value.truthy, Value.isObject, Json.shape]

end Dictionary

/-! ### The two judgments -/

section Judgments

variable {python : Python} {evidence : Evidence} {item : Value} {ref : String}
  {refs : List String}

/-- The document marks the ref invalid. -/
def Marked (text : Json → String) (status : Value) (ref : String) : Prop :=
  isInvalid (recordedStatus text status ref) = true

/-- A file that is not empty, under a name without line breaks. -/
def Plain (evidence : Evidence) (ref : String) : Prop :=
  (evidence.target ref).isFilled = true ∧ ∀ c ∈ ref.toList, c ≠ '\n' ∧ c ≠ '\r'

theorem Target.isPresent_of_isFilled {target : Target} (h : target.isFilled) :
    target.isPresent := by
  cases target with
  | file size => rfl
  | _ => cases h

/-- Of the safe refs the gate refuses those with line breaks. -/
theorem safeTaskRef_iff (h : safeTaskEvidenceRef ref) :
    safeTaskRef ref ↔ ∀ c ∈ ref.toList, c ≠ '\n' ∧ c ≠ '\r' := by
  simp only [safeTaskEvidenceRef, Bool.and_eq_true, bne_iff_ne, List.all_eq_true,
    decide_eq_true_eq] at h
  obtain ⟨⟨⟨⟨hne, hslash⟩, -⟩, hchars⟩, hparts⟩ := h
  simp only [safeTaskRef, Bool.and_eq_true, bne_iff_ne, List.all_eq_true, Bool.not_eq_true',
    List.contains_eq_mem, decide_eq_false_iff_not]
  constructor
  · rintro ⟨⟨-, hall⟩, -⟩ c hc
    exact ⟨(hall c hc).1.2, (hall c hc).2⟩
  · intro hbreaks
    refine ⟨⟨⟨hne, hslash⟩, fun c hc => ⟨⟨(hchars c hc).1, (hbreaks c hc).1⟩, (hbreaks c hc).2⟩⟩,
      fun hup => ?_⟩
    exact (hparts _ hup).2.2 rfl

theorem validEvidenceRef_iff (h : safeTaskEvidenceRef ref) :
    validEvidenceRef (evidence.files python.text) ref ↔ Plain evidence ref ∧
      ((recordsOf evidence.status).isObject → ¬ Marked python.text evidence.status ref) := by
  have hst : isInvalid (evidenceStatusValue (evidence.files python.text) ref) = false ↔
      ((recordsOf evidence.status).isObject →
        ¬ Marked python.text evidence.status ref) := by
    cases hrcds : (recordsOf evidence.status).isObject with
    | true =>
      rw [Marked, isInvalid_recordedStatus hrcds]
      simp
    | false =>
      have hval : evidenceStatusValue (evidence.files python.text) ref = "valid".toList := by
        show (if !(recordsOf evidence.status).isObject then _ else _) = _
        rw [hrcds]
        rfl
      rw [hval]
      exact iff_of_true (by decide) (by simp)
  rw [validEvidenceRef, Bool.and_eq_true, Bool.and_eq_true, safeTaskRef_iff h, Bool.not_eq_true',
    ← isInvalid, hst, Plain, and_comm (a := ∀ c ∈ ref.toList, _)]
  rfl

/-- **When the two judgments agree.**  Both refuse a ref that leads nowhere or that a dictionary
of records marks invalid.  Otherwise the one minds what a list of records marks, and the other
that a ref leads to an empty file, to a directory or has a line break. -/
theorem evidence_judgments_agree_iff
    (hrefs : refList python.text (item.get "expected_refs") = .ok refs)
    (hsafe : ∀ ref ∈ refs, safeTaskEvidenceRef ref = true) :
    workItemEvidenceIsValid python.text evidence item =
        .ok (refs.all (validEvidenceRef (evidence.files python.text))) ↔
      (∃ ref ∈ refs, (evidence.target ref).isPresent = false ∨
        (recordsOf evidence.status).isObject = true ∧ Marked python.text evidence.status ref) ∨
      ((∃ ref ∈ refs, Marked python.text evidence.status ref) ↔
        ∃ ref ∈ refs, ¬ Plain evidence ref) := by
  have hwork : workItemEvidenceIsValid python.text evidence item = .ok (refs.all fun ref =>
      safeTaskEvidenceRef ref && taskEvidenceExists evidence ref &&
        !isInvalid (recordedStatus python.text evidence.status ref)) := by
    rw [workItemEvidenceIsValid, hrefs]
    rfl
  have hitem : (refs.all fun ref => safeTaskEvidenceRef ref && taskEvidenceExists evidence ref &&
      !isInvalid (recordedStatus python.text evidence.status ref)) ↔
      ∀ ref ∈ refs, (evidence.target ref).isPresent ∧
        ¬ Marked python.text evidence.status ref := by
    rw [List.all_eq_true]
    refine forall₂_congr fun ref hmem => ?_
    simp [taskEvidenceExists, hsafe ref hmem, Marked]
  have hgate : refs.all (validEvidenceRef (evidence.files python.text)) ↔
      ∀ ref ∈ refs, Plain evidence ref ∧ ((recordsOf evidence.status).isObject →
        ¬ Marked python.text evidence.status ref) := by
    rw [List.all_eq_true]
    exact forall₂_congr fun ref hmem => validEvidenceRef_iff (hsafe ref hmem)
  rw [hwork, Except.ok.injEq, Bool.eq_iff_iff, hitem, hgate]
  by_cases hrefused : ∃ ref ∈ refs, (evidence.target ref).isPresent = false ∨
      (recordsOf evidence.status).isObject ∧ Marked python.text evidence.status ref
  · -- both refuse this ref
    refine iff_of_true ?_ (.inl hrefused)
    obtain ⟨ref, hmem, hrefused⟩ := hrefused
    refine iff_of_false (fun hall => ?_) (fun hall => ?_)
    · obtain ⟨hpresent, hmarked⟩ := hall ref hmem
      rcases hrefused with habsent | ⟨-, hinvalid⟩
      · cases hpresent.symm.trans habsent
      · exact hmarked hinvalid
    · obtain ⟨⟨hfilled, -⟩, hmarked⟩ := hall ref hmem
      rcases hrefused with habsent | ⟨hrecords, hinvalid⟩
      · rw [Target.isPresent_of_isFilled hfilled] at habsent
        cases habsent
      · exact hmarked hrecords hinvalid
  · rw [or_iff_right hrefused]
    push Not at hrefused
    have hleft : (∀ ref ∈ refs, (evidence.target ref).isPresent ∧
        ¬ Marked python.text evidence.status ref) ↔
        ¬ ∃ ref ∈ refs, Marked python.text evidence.status ref := by
      push Not
      refine forall₂_congr fun ref hmem => and_iff_right ?_
      simpa using (hrefused ref hmem).1
    have hright : (∀ ref ∈ refs, Plain evidence ref ∧
        ((recordsOf evidence.status).isObject →
          ¬ Marked python.text evidence.status ref)) ↔ ¬ ∃ ref ∈ refs, ¬ Plain evidence ref := by
      push Not
      exact forall₂_congr fun ref hmem => and_iff_left (hrefused ref hmem).2
    rw [hleft, hright, not_iff_not]

end Judgments

/-- A task directory with one entry. -/
def resultAt (target : Target) : Evidence where
  target ref := if ref = "result.md" then target else .missing
  status := emptyDict

def resultItem : Value :=
  .dict [("expected_refs", Dispatch.listOf [.str "result.md"])] (List.nodup_singleton _)

theorem refList_resultItem :
    refList sampleEnv.text (resultItem.get "expected_refs") = .ok ["result.md"] := rfl

/-- The judgments agree about a file that is not empty. -/
theorem evidence_judgments_agree_filled :
    workItemEvidenceIsValid sampleEnv.text (resultAt (.file 1)) resultItem = .ok
      (["result.md"].all (validEvidenceRef ((resultAt (.file 1)).files sampleEnv.text))) := by
  refine (@evidence_judgments_agree_iff sampleEnv.toPython _ _ _ refList_resultItem
    (by decide)).mpr (.inr (iff_of_false ?_ ?_))
  · rintro ⟨ref, hmem, hmarked⟩
    obtain rfl := List.mem_singleton.mp hmem
    rw [Marked] at hmarked
    exact absurd hmarked (by decide)
  · rintro ⟨ref, hmem, hplain⟩
    obtain rfl := List.mem_singleton.mp hmem
    exact hplain ⟨rfl, by decide⟩

/-- **An empty file clears the wait barrier and keeps the next phase back.** -/
theorem empty_evidence_accepted :
    workItemEvidenceIsValid sampleEnv.text (resultAt (.file 0)) resultItem = .ok true ∧
      validEvidenceRef ((resultAt (.file 0)).files sampleEnv.text) "result.md" = false := by
  decide

end Valp.Wait
