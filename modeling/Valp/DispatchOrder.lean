/-
The dependency document of a role assignment, and the order of its receipts
(`valp_cli/submission.py`).

A ledger is built receipt by receipt: a submission is appended when the gate finds no unmet
dependency of its phase, a terminal receipt when its item was submitted.  The audit of the
order then recomputes the dependent of each submission from its agent and its refs, and takes
the submission of one role for that of another if the refs of the first cover those of the
second.

* `audit_agrees_iff` — **when the audit finds no error in a ledger that the gate let through.**
-/
import Valp.DispatchGate

namespace Valp.Dispatch

open Json (Value)
open Kernel.Decode (ok_bind)
open List

/-! ### The document -/

inductive Role where
  | coordinator
  | implementer
  | researcher
  | prototype
  | reviewer
  | other
  deriving DecidableEq, Repr

def Role.name : Role → String
  | .coordinator => "coordinator"
  | .implementer => "implementer"
  | .researcher => "researcher"
  | .prototype => "prototype"
  | .reviewer => "reviewer"
  | .other => "other"

def roleOrder : List Role :=
  [.coordinator, .implementer, .researcher, .prototype, .reviewer, .other]

/-- `role_assignments`, as far as the builder reads it. -/
abbrev RoleAssignments := Role → Option String

def agentRef (agent name : String) : String := "agents/" ++ agent ++ "/" ++ name

def roleExpectedRefs (agent : String) : Role → List String
  | .coordinator => [agentRef agent "self-review.md"]
  | .implementer => [agentRef agent "evidence.md", "evidence/verification.md"]
  | .researcher => [agentRef agent "evidence.md"]
  | .prototype => [agentRef agent "prototype.md"]
  | .reviewer => [agentRef agent "review.md"]
  | .other => [agentRef agent "evidence.md"]

/-- A list display. -/
def listOf (items : List Value) : Value :=
  ⟨.arr (items.map Subtype.val), by
    rw [Json.distinctKeys, Json.distinctItems_eq_all, all_eq_true]
    intro item hitem
    obtain ⟨v, -, rfl⟩ := mem_map.mp hitem
    exact v.2⟩

def workItemId (agent : String) (role : Role) : String := role.name ++ ":" ++ agent

def workItemFields (taskId agent : String) (role : Role) : List (String × Value) :=
  [("work_item_id", .str (workItemId agent role)), ("agent", .str agent),
    ("role", .str role.name), ("dispatch_id", .str (taskId ++ ":" ++ role.name ++ ":1")),
    ("dispatch_generation", .int 1),
    ("expected_refs", listOf ((roleExpectedRefs agent role).map .str))]

def workItemIdentity (taskId agent : String) (role : Role) : Value :=
  .dict (workItemFields taskId agent role) (by simp [workItemFields])

def dependencyWorkItems (taskId : String) (assigned : RoleAssignments) : List Value :=
  roleOrder.filterMap fun role => (assigned role).map fun agent =>
    workItemIdentity taskId agent role

/-- An entry of `dependency_edges`; the refs follow from the agents and the roles. -/
structure Edge where
  prerequisiteRole : Role
  prerequisiteAgent : String
  dependentRole : Role
  dependentAgent : String
  deriving DecidableEq, Repr

section

variable (assigned : RoleAssignments)

/-- The agent of a role, unless its name is empty. -/
def selected (role : Role) : Option String :=
  (assigned role).filter (· ≠ "")

/-- The roles whose results are reviewed. -/
def producers : List (Role × String) :=
  [Role.implementer, .researcher, .prototype].filterMap fun role =>
    (selected assigned role).map fun agent => (role, agent)

def reviewerSources : List (Role × String) :=
  if producers assigned ≠ [] then producers assigned
  else ((selected assigned .coordinator).map fun agent => (Role.coordinator, agent)).toList

def dependencyEdges : List Edge :=
  (match selected assigned .coordinator with
    | none => []
    | some coordinator => (producers assigned).map fun producer =>
      ⟨.coordinator, coordinator, producer.1, producer.2⟩) ++
  match selected assigned .reviewer with
    | none => []
    | some reviewer => (reviewerSources assigned).map fun source =>
      ⟨source.1, source.2, .reviewer, reviewer⟩

end

def Edge.dependency (edge : Edge) : Value :=
  .dict [("id", .str (edge.prerequisiteRole.name ++ "-before-" ++ edge.dependentRole.name)),
    ("prerequisite_role", .str edge.prerequisiteRole.name),
    ("prerequisite_agent", .str edge.prerequisiteAgent),
    ("dependent_role", .str edge.dependentRole.name),
    ("dependent_agent", .str edge.dependentAgent),
    ("prerequisite_refs",
      listOf ((roleExpectedRefs edge.prerequisiteAgent edge.prerequisiteRole).map .str)),
    ("prerequisite_work_item_id", .str (workItemId edge.prerequisiteAgent edge.prerequisiteRole)),
    ("prerequisite_dispatch_generation", .int 1),
    ("dependent_work_item_id", .str (workItemId edge.dependentAgent edge.dependentRole)),
    ("dependent_dispatch_generation", .int 1),
    ("dependent_refs",
      listOf ((roleExpectedRefs edge.dependentAgent edge.dependentRole).map .str))] (by simp)

def buildSubmissionDependencies (taskId : String) (assigned : RoleAssignments) : Value :=
  .dict [("schema_version", .str "valp-submission-dependencies.v2"), ("task_id", .str taskId),
    ("ordering_source", .str "dispatch-receipts.jsonl#line-order"),
    ("work_items", listOf (dependencyWorkItems taskId assigned)),
    ("dependencies", listOf ((dependencyEdges assigned).map Edge.dependency))] (by simp)

/-! ### Reading the document -/

theorem iterate_listOf (items : List Value) : iterate (listOf items) = .ok items := by
  cases items with
  | nil => rfl
  | cons item items =>
    have hlist : ((listOf (item :: items)).1 : Json) = .arr ((item :: items).map Subtype.val) := rfl
    rw [iterate, if_neg (by simp [Value.truthy, listOf])]
    split
    · rename_i found hv
      obtain rfl := Json.arr.inj (hlist.symm.trans hv)
      refine congrArg Except.ok (map_injective_iff.mpr Subtype.val_injective ?_)
      rw [map_map]
      exact attach_map_subtype_val _
    · rename_i hv
      cases hlist.symm.trans hv
    · rename_i hv
      cases hlist.symm.trans hv
    · rename_i hv _ _
      exact absurd hlist (hv _)

theorem refList_listOf (text : Json → String) (refs : List String) :
    refList text (listOf (refs.map .str)) = .ok refs := by
  cases refs with
  | nil => rfl
  | cons ref refs => simp [refList, Value.truthy, listOf, strOf, Value.str, Function.comp_def]

variable {role' : Role}

section Document

variable {taskId agent : String} {role : Role} {assigned : RoleAssignments}

theorem Role.name_injective {a b : Role} (h : a.name = b.name) : a = b := by
  cases a <;> cases b <;> first | rfl | exact absurd h (by decide)

theorem workItemId_inj {other : String}
    (h : workItemId agent role = workItemId other role') : role = role' := by
  have hname : ∀ (a : String) (r : Role),
      (workItemId a r).toList.takeWhile (· ≠ ':') = r.name.toList := by
    intro a r
    cases r <;> simp [workItemId, Role.name]
  apply Role.name_injective
  rw [← String.toList_inj, ← hname agent, ← hname other, h]

theorem mem_dependencyWorkItems {item : Value} : item ∈ dependencyWorkItems taskId assigned ↔
    ∃ role agent, assigned role = some agent ∧ workItemIdentity taskId agent role = item := by
  have hroles : ∀ role : Role, role ∈ roleOrder := by
    intro role
    cases role <;> decide
  simp only [dependencyWorkItems, mem_filterMap, Option.map_eq_some_iff]
  constructor
  · rintro ⟨role, -, agent, hassn, hitem⟩
    exact ⟨role, agent, hassn, hitem⟩
  · rintro ⟨role, agent, hassn, hitem⟩
    exact ⟨role, hroles role, agent, hassn, hitem⟩

/-- **The document finds the work item of a role by its id.** -/
theorem dependencyWorkItem_eq (h : assigned role = some agent) :
    dependencyWorkItem (buildSubmissionDependencies taskId assigned) (workItemId agent role) =
      .ok (workItemIdentity taskId agent role) := by
  have hitems : (buildSubmissionDependencies taskId assigned).get "work_items" =
      listOf (dependencyWorkItems taskId assigned) := rfl
  have hmem : workItemIdentity taskId agent role ∈ dependencyWorkItems taskId assigned :=
    mem_dependencyWorkItems.mpr ⟨role, agent, h, rfl⟩
  have hid : ∀ (a : String) (r : Role), (workItemIdentity taskId a r).get "work_item_id" =
      .str (workItemId a r) := fun _ _ => rfl
  rw [dependencyWorkItem, hitems, iterate_listOf, ok_bind]
  congr 1
  cases hfnd : (dependencyWorkItems taskId assigned).find? fun item =>
      item.isObject && (item.get "work_item_id").equal (.str (workItemId agent role)) with
  | none =>
    have hmissed := List.find?_eq_none.mp hfnd _ hmem
    rw [hid, Value.equal_self] at hmissed
    exact absurd rfl hmissed
  | some item =>
    -- An item with this id has the role, and a role has one agent.
    obtain ⟨role', other, hassn, rfl⟩ :=
      mem_dependencyWorkItems.mp (mem_of_find?_eq_some hfnd)
    have hsame := find?_some hfnd
    rw [hid, Bool.and_eq_true, Value.equal_str_str, decide_eq_true_iff] at hsame
    obtain rfl := workItemId_inj hsame.2
    cases hassn.symm.trans h
    rfl

theorem agentRef_inj {name name' : String} : agentRef agent name = agentRef agent name' ↔
    name = name' := by
  rw [agentRef, agentRef, ← String.toList_inj]
  simp [String.toList_inj]

theorem agentRef_ne_verification {name : String} :
    agentRef agent name ≠ "evidence/verification.md" := by
  intro h
  have hlist := congrArg String.toList h
  simp [agentRef] at hlist

/-- **Whose refs cover whose**, for two roles of one agent. -/
theorem covers_roleExpectedRefs_iff :
    covers (roleExpectedRefs agent role) (roleExpectedRefs agent role') ↔
      role = role' ∨ role' ∈ [Role.researcher, .other] ∧
        role ∈ [Role.implementer, .researcher, .other] := by
  cases role <;> cases role' <;>
    simp [covers, roleExpectedRefs, agentRef_inj, agentRef_ne_verification,
      agentRef_ne_verification.symm]

theorem mem_producers {producer : Role × String} : producer ∈ producers assigned ↔
    producer.1 ∈ [Role.implementer, .researcher, .prototype] ∧
      selected assigned producer.1 = some producer.2 := by
  simp only [producers, mem_filterMap, Option.map_eq_some_iff]
  constructor
  · rintro ⟨role, hrole, agent, hag, rfl⟩
    exact ⟨hrole, hag⟩
  · rintro ⟨hrole, hag⟩
    exact ⟨producer.1, hrole, producer.2, hag, rfl⟩

/-- Both ends of an edge are assigned; only the reviewer waits for anybody else than the
coordinator, and no edge leads to `other`. -/
theorem edge_cases {edge : Edge} (h : edge ∈ dependencyEdges assigned) :
    selected assigned edge.prerequisiteRole = some edge.prerequisiteAgent ∧
      selected assigned edge.dependentRole = some edge.dependentAgent ∧
      (edge.dependentRole = .reviewer ∨ edge.prerequisiteRole = .coordinator ∧
        edge.dependentRole ∈ [Role.implementer, .researcher, .prototype]) := by
  rw [dependencyEdges, mem_append] at h
  rcases h with hproducer | hreviewer
  · cases hcoord : selected assigned .coordinator with
    | none => simp [hcoord] at hproducer
    | some coordinator =>
      simp only [hcoord, mem_map] at hproducer
      obtain ⟨producer, hmem, rfl⟩ := hproducer
      obtain ⟨hrole, hag⟩ := mem_producers.mp hmem
      exact ⟨hcoord, hag, .inr ⟨rfl, hrole⟩⟩
  · cases hselected : selected assigned .reviewer with
    | none => simp [hselected] at hreviewer
    | some reviewer =>
      simp only [hselected, mem_map] at hreviewer
      obtain ⟨source, hmem, rfl⟩ := hreviewer
      refine ⟨?_, hselected, .inl rfl⟩
      rw [reviewerSources] at hmem
      split at hmem
      · exact (mem_producers.mp hmem).2
      · obtain ⟨coordinator, hcoord, rfl⟩ := Option.map_eq_some_iff.mp
          (Option.mem_toList.mp hmem)
        exact hcoord

theorem researcher_edge {coordinator : String}
    (hcoord : selected assigned .coordinator = some coordinator)
    (hresr : selected assigned .researcher = some agent) :
    ⟨.coordinator, coordinator, .researcher, agent⟩ ∈ dependencyEdges assigned := by
  rw [dependencyEdges, hcoord]
  refine mem_append_left _ (mem_map.mpr ⟨(.researcher, agent), ?_, rfl⟩)
  exact mem_producers.mpr ⟨by simp, hresr⟩

end Document

/-! ### Ledgers that the gate lets through -/

variable {versioned : Bool}

section Ledgers

variable {files : Files} {taskId agent : String} {role : Role} {assigned : RoleAssignments}
  {manualMode : Bool} {receipt : Value} {receipts earlier : List Value} {edge : Edge}

/-- A submission with the identity of a work item. -/
structure Submission (text : Json → String) (taskId : String) (manualMode : Bool)
    (agent : String) (role : Role) (receipt : Value) : Prop where
  event : receipt.get "event" = .str (dependentEvent manualMode)
  identity : hasIdentity taskId (workItemIdentity taskId agent role) receipt = true
  refs : refList text (receipt.get "expected_refs") = .ok (roleExpectedRefs agent role)

/-- The receipts that may be appended to a ledger: a submission of a phase that the gate finds
ready, and a terminal receipt of an item that was submitted. -/
inductive Appendable (files : Files) (taskId : String) (assigned : RoleAssignments)
    (manualMode : Bool) (receipts : List Value) (receipt : Value) : Prop
  | submission (agent : String) (role : Role) (hassigned : assigned role = some agent)
      (hsubmission : Submission files.text taskId manualMode agent role receipt)
      (hgate : unmetDependenciesForPhases files (buildSubmissionDependencies taskId assigned)
        [(agent, role.name)] receipts manualMode = .ok [])
  | terminal (agent : String) (role : Role) (hassigned : assigned role = some agent)
      (hsubmitted : ∃ submitted ∈ receipts,
        Submission files.text taskId manualMode agent role submitted)
      (hidentity : hasIdentity taskId (workItemIdentity taskId agent role) receipt = true)
      (event : String) (hterminal : event ∈ terminalEvents)
      (hevent : receipt.get "event" = .str event)

/-- A ledger built receipt by receipt.  The schema of a receipt is a value that can be looked
up in a set. -/
inductive Built (files : Files) (taskId : String) (assigned : RoleAssignments)
    (manualMode : Bool) : List Value → Prop
  | nil : Built files taskId assigned manualMode []
  | append {receipts : List Value} {receipt : Value} {versioned : Bool}
      (hbuilt : Built files taskId assigned manualMode receipts)
      (hschema : isVersioned receipt = .ok versioned)
      (hreceipt : Appendable files taskId assigned manualMode receipts receipt) :
      Built files taskId assigned manualMode (receipts ++ [receipt])

theorem Built.appendable {later : List Value}
    (h : Built files taskId assigned manualMode receipts)
    (hsp : receipts = earlier ++ receipt :: later) :
    Appendable files taskId assigned manualMode earlier receipt ∧
      ∃ versioned, isVersioned receipt = .ok versioned := by
  induction h generalizing later with
  | nil => simp at hsp
  | @append receipts last versioned hblt hsch hlast ih =>
    rcases eq_nil_or_concat later with rfl | ⟨later, final, rfl⟩
    · obtain ⟨rfl, hsame⟩ := append_inj' hsp rfl
      obtain rfl : last = receipt := head_eq_of_cons_eq hsame
      exact ⟨hlast, versioned, hsch⟩
    · rw [concat_eq_append, ← cons_append, ← append_assoc] at hsp
      exact ih (append_inj' hsp rfl).1

/-! ### What the audit says about one receipt -/

theorem strictDocument_eq : strictDocument (buildSubmissionDependencies taskId assigned)
    manualMode = !manualMode := rfl

/-- What the identity of an item says about the agent and the role of its receipt. -/
theorem agent_role_of_hasIdentity
    (h : hasIdentity taskId (workItemIdentity taskId agent role) receipt) :
    receipt.get "agent" = .str agent ∧ receipt.get "role" = .str role.name := by
  simp only [hasIdentity, expectedIdentity, all_cons, Bool.and_eq_true] at h
  exact ⟨Value.equal_str.mp h.2.1, Value.equal_str.mp h.2.2.1⟩

/-- Whether the audit reads a receipt. -/
def IsRead (manualMode : Bool) (receipt : Value) : Prop :=
  manualMode = true ∨ isVersioned receipt = .ok true

theorem Submission.receiptMatches_loose
    (h : Submission files.text taskId manualMode agent role receipt) (refs : List String) :
    receiptMatches files.text receipt (dependentEvent manualMode) refs "" .null false =
      .ok (covers (roleExpectedRefs agent role) refs) := by
  rw [receiptMatches, h.event, Value.equal_self, h.refs, ok_bind]
  cases covers (roleExpectedRefs agent role) refs <;> rfl

variable {refs : List String}

theorem Submission.receiptMatches_identity
    (h : Submission files.text taskId manualMode agent role receipt)
    (hread : IsRead manualMode receipt)
    (hrefs : covers (roleExpectedRefs agent role) refs) :
    receiptMatches files.text receipt (dependentEvent manualMode) refs taskId
      (workItemIdentity taskId agent role') (!manualMode) = .ok (decide (role = role')) := by
  obtain ⟨hag, hrole⟩ := agent_role_of_hasIdentity h.identity
  have hflds : (workItemIdentity taskId agent role').get "agent" = .str agent ∧
      (workItemIdentity taskId agent role').get "role" = .str role'.name := ⟨rfl, rfl⟩
  have hnames : decide (role.name = role'.name) = decide (role = role') :=
    decide_eq_decide.mpr ⟨Role.name_injective, fun heq => heq ▸ rfl⟩
  have htruthy : (workItemIdentity taskId agent role').truthy := rfl
  rw [receiptMatches, h.event, Value.equal_self, h.refs, ok_bind, hrefs, htruthy]
  cases manualMode with
  | true =>
    have hev : strOrEmpty files.text (.str (dependentEvent true)) =
        "manual_delivery_attested" := rfl
    have hmanual : "manual_".toList.isPrefixOf "manual_delivery_attested".toList := by
      decide
    rw [hag, hrole, hflds.1, hflds.2, Value.equal_self, Value.equal_str_str, hnames, hev, hmanual]
    rfl
  | false =>
    have hvers : isVersioned receipt = .ok true := by
      rcases hread with hmanual | hvers
      · cases hmanual
      · exact hvers
    rw [hvers]
    by_cases hsame : role = role'
    · subst hsame
      rw [h.identity]
      simp [ok_bind]
    have hoth : hasIdentity taskId (workItemIdentity taskId agent role') receipt = false := by
      rw [Bool.eq_false_iff]
      intro hidt
      have hname := hrole.symm.trans (agent_role_of_hasIdentity hidt).2
      exact hsame (Role.name_injective (Value.str_inj.mp hname))
    rw [hoth]
    simp [ok_bind, hsame]

/-- What the audit finds for an edge of the document and one receipt. -/
def edgeErrors (files : Files) (taskId : String) (assigned : RoleAssignments)
    (manualMode : Bool) (edge : Edge) (earlier : List Value) (receipt : Value) :
    Except Fault (List String) :=
  receiptOrderErrors files (buildSubmissionDependencies taskId assigned) edge.dependency manualMode
    (roleExpectedRefs edge.dependentAgent edge.dependentRole)
    (workItemIdentity taskId edge.dependentAgent edge.dependentRole) earlier receipt

theorem edgeErrors_of_not_read (hsch : isVersioned receipt = .ok versioned)
    (hread : ¬ IsRead manualMode receipt) :
    edgeErrors files taskId assigned manualMode edge earlier receipt = .ok [] := by
  obtain ⟨hmanual, hvers⟩ := not_or.mp hread
  obtain rfl : manualMode = false := Bool.eq_false_iff.mpr hmanual
  obtain rfl : versioned = false := by
    cases versioned with
    | false => rfl
    | true => exact absurd hsch hvers
  rw [edgeErrors, receiptOrderErrors, strictDocument_eq]
  simp [hsch, ok_bind]

theorem edgeErrors_of_read (hread : IsRead manualMode receipt) :
    edgeErrors files taskId assigned manualMode edge earlier receipt =
      (if !(receipt.get "agent").equal (.str edge.dependentAgent) then .ok []
      else do
        if !(← receiptMatches files.text receipt (dependentEvent manualMode)
            (roleExpectedRefs edge.dependentAgent edge.dependentRole) "" .null false) then .ok []
        else if !(← receiptMatches files.text receipt (dependentEvent manualMode)
            (roleExpectedRefs edge.dependentAgent edge.dependentRole) taskId
            (workItemIdentity taskId edge.dependentAgent edge.dependentRole) (!manualMode)) then
          .ok [edge.prerequisiteRole.name ++ "-before-" ++ edge.dependentRole.name ++
            " dependent receipt identity mismatch at line " ++ toString (earlier.length + 1)]
        else
          match ← prerequisiteReceipt files (buildSubmissionDependencies taskId assigned)
              edge.dependency earlier manualMode with
          | some _ => .ok []
          | none => .ok [edge.prerequisiteRole.name ++ "-before-" ++ edge.dependentRole.name ++
            " was not satisfied before receipt line " ++ toString (earlier.length + 1)]) := by
  have hag : edge.dependency.get "dependent_agent" = .str edge.dependentAgent := rfl
  have htask : strOrEmpty files.text ((buildSubmissionDependencies taskId assigned).get "task_id") =
      taskId := strOrEmpty_str files.text taskId
  have hname : (if edge.dependency.has "id" then
      strOf files.text (edge.dependency.get "id").1 else "unknown") =
      edge.prerequisiteRole.name ++ "-before-" ++ edge.dependentRole.name := rfl
  rw [edgeErrors, receiptOrderErrors, strictDocument_eq, hag, htask, hname]
  cases manualMode with
  | true => rfl
  | false =>
    rcases hread with hmanual | hvers
    · cases hmanual
    · rw [hvers]
      rfl

theorem edgeErrors_of_terminal {event : String}
    (hsch : isVersioned receipt = .ok versioned) (hterm : event ∈ terminalEvents)
    (hev : receipt.get "event" = .str event) :
    edgeErrors files taskId assigned manualMode edge earlier receipt = .ok [] := by
  by_cases hread : IsRead manualMode receipt
  · have hoth : event ≠ dependentEvent manualMode := by
      rintro rfl
      cases manualMode <;> exact absurd hterm (by decide)
    have hloose : receiptMatches files.text receipt (dependentEvent manualMode)
        (roleExpectedRefs edge.dependentAgent edge.dependentRole) "" .null false = .ok false := by
      rw [receiptMatches, hev, Value.equal_str_str, decide_eq_false hoth]
      rfl
    rw [edgeErrors_of_read hread, hloose]
    split <;> rfl
  · exact edgeErrors_of_not_read hsch hread

/-- **The audit of a submission**: no error iff it is not read, is not one of the dependent
agent, does not cover the dependent refs, or is the submission of the edge and its prerequisite
was met. -/
theorem Submission.edgeErrors_iff (h : Submission files.text taskId manualMode agent role receipt)
    (hsch : isVersioned receipt = .ok versioned) :
    edgeErrors files taskId assigned manualMode edge earlier receipt = .ok [] ↔
      (IsRead manualMode receipt → agent = edge.dependentAgent →
        covers (roleExpectedRefs agent role) (roleExpectedRefs agent edge.dependentRole) →
        role = edge.dependentRole ∧
          ∃ met, prerequisiteReceipt files (buildSubmissionDependencies taskId assigned)
            edge.dependency earlier manualMode = .ok (some met)) := by
  by_cases hread : IsRead manualMode receipt
  · have hag := (agent_role_of_hasIdentity h.identity).1
    rw [edgeErrors_of_read hread, hag, Value.equal_str_str]
    by_cases hsame : agent = edge.dependentAgent
    · rw [← hsame, h.receiptMatches_loose]
      cases hcovers : covers (roleExpectedRefs agent role)
          (roleExpectedRefs agent edge.dependentRole) with
      | false => simp [ok_bind]
      | true =>
        rw [h.receiptMatches_identity hread hcovers]
        by_cases hrole : role = edge.dependentRole
        · simp only [decide_true, Bool.not_true, Bool.false_eq_true, if_false, hrole,
            ok_bind, hread, true_and, forall_const]
          cases prerequisiteReceipt files (buildSubmissionDependencies taskId assigned)
              edge.dependency earlier manualMode with
          | error fault => exact iff_of_false nofun (by rintro ⟨_, ⟨⟩⟩)
          | ok met => cases met <;> simp [ok_bind]
        · simp [ok_bind, hrole, hread]
    · simp [hsame]
  · simp [edgeErrors_of_not_read hsch hread, hread]

/-! ### Whole ledgers -/

theorem mapM_flatten_eq_nil_iff {α : Type} {f : α → Except Fault (List String)} {xs : List α} :
    (do let errors ← xs.mapM f; Except.ok errors.flatten) = .ok [] ↔ ∀ x ∈ xs, f x = .ok [] := by
  induction xs with
  | nil => simp [ok_bind, pure, Except.pure]
  | cons x xs ih =>
    rw [forall_mem_cons, ← ih, mapM_cons]
    cases f x with
    | error fault => exact iff_of_false (fun hok => by cases hok) (fun hok => by cases hok.1)
    | ok errors =>
      cases xs.mapM f with
      | error fault => exact iff_of_false (fun hok => by cases hok) (fun hok => by cases hok.2)
      | ok more => simp [ok_bind, pure, Except.pure]

theorem orderErrorsFrom_eq_nil_iff {document dependency identity : Value} :
    orderErrorsFrom files document dependency manualMode refs identity earlier receipts = .ok [] ↔
      ∀ before receipt after, receipts = before ++ receipt :: after →
        receiptOrderErrors files document dependency manualMode refs identity (earlier ++ before)
          receipt = .ok [] := by
  induction receipts generalizing earlier with
  | nil => simp [orderErrorsFrom]
  | cons first receipts ih =>
    have hstep : orderErrorsFrom files document dependency manualMode refs identity earlier
        (first :: receipts) = .ok [] ↔
        receiptOrderErrors files document dependency manualMode refs identity earlier first =
            .ok [] ∧
          orderErrorsFrom files document dependency manualMode refs identity (earlier ++ [first])
            receipts = .ok [] := by
      simp [orderErrorsFrom, Kernel.bind_eq_ok]
    rw [hstep, ih]
    constructor
    · rintro ⟨hfst, hoths⟩ before receipt after hsp
      cases before with
      | nil =>
        obtain ⟨rfl, -⟩ := cons_eq_cons.mp hsp
        rwa [append_nil]
      | cons other before =>
        obtain ⟨rfl, hrest⟩ := cons_eq_cons.mp hsp
        rw [← singleton_append, ← append_assoc]
        exact hoths before receipt after hrest
    · intro hall
      refine ⟨by simpa using hall [] first receipts rfl, ?_⟩
      intro before receipt after hsp
      have hlat := hall (first :: before) receipt after (by rw [hsp, cons_append])
      rwa [← singleton_append, ← append_assoc] at hlat

theorem dependencyOrderErrors_eq_nil_iff :
    dependencyOrderErrors files (buildSubmissionDependencies taskId assigned) receipts manualMode =
        .ok [] ↔
      ∀ edge ∈ dependencyEdges assigned, ∀ before receipt after,
        receipts = before ++ receipt :: after →
          edgeErrors files taskId assigned manualMode edge before receipt = .ok [] := by
  have hdeps : (buildSubmissionDependencies taskId assigned).get "dependencies" =
      listOf ((dependencyEdges assigned).map Edge.dependency) := rfl
  rw [dependencyOrderErrors, hdeps, iterate_listOf, ok_bind,
    mapM_flatten_eq_nil_iff, forall_mem_map]
  refine forall₂_congr fun edge hedge => ?_
  have hassn := (Option.filter_eq_some_iff.mp (edge_cases hedge).2.1).1
  have hprereq : edge.dependency.get "prerequisite_refs" =
      listOf ((roleExpectedRefs edge.prerequisiteAgent edge.prerequisiteRole).map .str) := rfl
  have hdept : edge.dependency.get "dependent_refs" =
      listOf ((roleExpectedRefs edge.dependentAgent edge.dependentRole).map .str) := rfl
  have hid : strOrEmpty files.text (edge.dependency.get "dependent_work_item_id") =
      workItemId edge.dependentAgent edge.dependentRole := strOrEmpty_str files.text _
  rw [show edge.dependency.isObject from rfl, hprereq, hdept, hid,
    dependencyWorkItem_eq hassn, refList_listOf, refList_listOf]
  exact orderErrorsFrom_eq_nil_iff

/-- **What the gate has checked**: the prerequisites of the edges that lead to the phase. -/
theorem met_of_gate (hedge : edge ∈ dependencyEdges assigned)
    (hgate : unmetDependenciesForPhases files (buildSubmissionDependencies taskId assigned)
      [(edge.dependentAgent, edge.dependentRole.name)] receipts manualMode = .ok []) :
    ∃ met, prerequisiteReceipt files (buildSubmissionDependencies taskId assigned)
      edge.dependency receipts manualMode = .ok (some met) := by
  have hdeps : (buildSubmissionDependencies taskId assigned).get "dependencies" =
      listOf ((dependencyEdges assigned).map Edge.dependency) := rfl
  have hph : dependentPhase files.text edge.dependency =
      (edge.dependentAgent, edge.dependentRole.name) :=
    congrArg₂ Prod.mk (strOrEmpty_str files.text _) (strOrEmpty_str files.text _)
  rw [unmetDependenciesForPhases, hdeps, iterate_listOf, ok_bind,
    mapM_flatten_eq_nil_iff, forall_mem_map] at hgate
  have hmet := hgate edge hedge
  rw [show edge.dependency.isObject from rfl, hph] at hmet
  simp only [Bool.not_true, Bool.false_eq_true, if_false, contains_cons, BEq.rfl,
    Bool.true_or, Kernel.bind_eq_ok] at hmet
  obtain ⟨met, hprereq, hmet⟩ := hmet
  cases met with
  | some met => exact ⟨met, hprereq⟩
  | none => cases hmet

/-- The agent is the researcher that waits for the coordinator, and also has a role whose refs
cover those of the researcher. -/
def Doubled (assigned : RoleAssignments) (agent : String) (role : Role) : Prop :=
  (∃ coordinator, selected assigned .coordinator = some coordinator) ∧
    selected assigned .researcher = some agent ∧ (role = .implementer ∨ role = .other)

/-- **The audit of the order agrees with the gate** iff no submission that it reads is one of
the implementer or of `other` by the agent that is also the researcher, while a coordinator is
assigned. -/
theorem audit_agrees_iff (h : Built files taskId assigned manualMode receipts) :
    dependencyOrderErrors files (buildSubmissionDependencies taskId assigned) receipts manualMode =
        .ok [] ↔
      ∀ receipt ∈ receipts, ∀ agent role, assigned role = some agent →
        Submission files.text taskId manualMode agent role receipt →
        IsRead manualMode receipt → ¬ Doubled assigned agent role := by
  rw [dependencyOrderErrors_eq_nil_iff]
  constructor
  · intro hclean receipt hreceipt agent role _ hsubmission hread hdoubled
    obtain ⟨⟨coordinator, hcoordinator⟩, hresearcher, hrole⟩ := hdoubled
    obtain ⟨before, after, hsplit⟩ := append_of_mem hreceipt
    obtain ⟨versioned, hschema⟩ := (h.appendable hsplit).2
    have hnone := (hsubmission.edgeErrors_iff hschema).mp
      (hclean _ (researcher_edge hcoordinator hresearcher) before receipt after hsplit)
    have hcovers : covers (roleExpectedRefs agent role) (roleExpectedRefs agent .researcher) =
        true := covers_roleExpectedRefs_iff.mpr (.inr (by rcases hrole with rfl | rfl <;> simp))
    obtain ⟨rfl, -⟩ := hnone hread rfl hcovers
    rcases hrole with hrole | hrole <;> cases hrole
  · intro hsingle edge hedge before receipt after hsplit
    obtain ⟨happendable, versioned, hschema⟩ := h.appendable hsplit
    cases happendable with
    | terminal agent role _ _ _ event hterminal hevent =>
      exact edgeErrors_of_terminal hschema hterminal hevent
    | submission agent role hassigned hsubmission hgate =>
      refine (hsubmission.edgeErrors_iff hschema).mpr ?_
      intro hread hagent hcovers
      suffices hrole : role = edge.dependentRole by
        refine ⟨hrole, met_of_gate hedge ?_⟩
        rwa [← hagent, ← hrole]
      obtain ⟨hprerequisite, hdependent, hcases⟩ := edge_cases hedge
      rcases covers_roleExpectedRefs_iff.mp hcovers with hsame | ⟨hcovered, hcovering⟩
      · exact hsame
      -- The refs of the researcher are covered by those of three roles.
      have hmem : receipt ∈ receipts := by
        rw [hsplit]
        exact mem_append_right _ mem_cons_self
      have hother := hsingle receipt hmem agent role hassigned hsubmission hread
      have hresearcher : edge.dependentRole = .researcher := by
        simp only [mem_cons, not_mem_nil, or_false] at hcovered hcases
        rcases hcovered with hrole | hrole
        · exact hrole
        · rw [hrole] at hcases
          simp at hcases
      rw [hresearcher] at hdependent hcases ⊢
      simp only [reduceCtorEq, false_or] at hcases
      rw [hcases.1] at hprerequisite
      rw [← hagent] at hdependent
      by_contra hne
      refine hother ⟨⟨_, hprerequisite⟩, hdependent, ?_⟩
      simpa [hne] using hcovering

end Ledgers

/-! ### One agent with two roles -/

/-- The implementer is `agent`; the researcher is free. -/
def sampleRoles (researcher : Option String) : RoleAssignments
  | .coordinator => some "lead"
  | .implementer => some "agent"
  | .researcher => researcher
  | _ => none

def filledFiles : Files where
  text _ := ""
  isFilled _ := true
  evidenceStatus := emptyDict
  correctionCycle := emptyDict

def itemReceipt (event : String) (sequence : Int) (agent : String) (role : Role) : Value :=
  .dict ([("schema_version", .str schemaV2), ("task_id", .str "task"), ("event", .str event),
    ("event_sequence", .int sequence)] ++ workItemFields "task" agent role)
    (by simp [workItemFields])

theorem submission_itemReceipt (sequence : Int) (agent : String) (role : Role) :
    Submission filledFiles.text "task" false agent role
      (itemReceipt "dispatch_submitted" sequence agent role) where
  event := rfl
  identity := by
    have hself : ∀ v w : Value, v = w → v.equal w := by
      rintro v _ rfl
      exact Value.equal_self v
    simp only [hasIdentity, expectedIdentity, all_cons, all_nil, Bool.and_true, Bool.and_eq_true]
    exact ⟨hself _ _ rfl, hself _ _ rfl, hself _ _ rfl, hself _ _ rfl, hself _ _ rfl, hself _ _ rfl⟩
  refs := refList_listOf _ _

/-- The coordinator is submitted and completed, then the implementer is submitted. -/
def sampleLedger : List Value :=
  [itemReceipt "dispatch_submitted" 1 "lead" .coordinator,
    itemReceipt "dispatch_completed" 2 "lead" .coordinator,
    itemReceipt "dispatch_submitted" 3 "agent" .implementer]

theorem built_sampleLedger {researcher : Option String}
    (h : researcher = none ∨ researcher = some "agent") :
    Built filledFiles "task" (sampleRoles researcher) false sampleLedger := by
  have hcoord : Built filledFiles "task" (sampleRoles researcher) false
      [itemReceipt "dispatch_submitted" 1 "lead" .coordinator] := by
    refine .append .nil rfl (.submission "lead" .coordinator rfl (submission_itemReceipt ..) ?_)
    rcases h with rfl | rfl <;> decide +kernel
  have hcomp : Built filledFiles "task" (sampleRoles researcher) false
      [itemReceipt "dispatch_submitted" 1 "lead" .coordinator,
        itemReceipt "dispatch_completed" 2 "lead" .coordinator] :=
    .append hcoord rfl (.terminal "lead" .coordinator rfl
      ⟨_, mem_singleton_self _, submission_itemReceipt ..⟩ (by decide +kernel)
      "dispatch_completed" (by decide) rfl)
  refine .append hcomp rfl
    (.submission "agent" .implementer rfl (submission_itemReceipt ..) ?_)
  rcases h with rfl | rfl <;> decide +kernel

/-- Without a researcher the ledger has no error. -/
theorem audit_agrees_sample : Built filledFiles "task" (sampleRoles none) false sampleLedger ∧
      dependencyOrderErrors filledFiles (buildSubmissionDependencies "task" (sampleRoles none))
        sampleLedger false = .ok [] := by
  have hbuilt := built_sampleLedger (.inl rfl)
  refine ⟨hbuilt, (audit_agrees_iff hbuilt).mpr ?_⟩
  rintro receipt - agent role - - - ⟨-, hresearcher, -⟩
  cases hresearcher

/-- If the implementer is also the researcher, the audit takes its submission for one of the
researcher. -/
theorem audit_disagrees_for_two_roles :
    Built filledFiles "task" (sampleRoles (some "agent")) false sampleLedger ∧
      dependencyOrderErrors filledFiles
          (buildSubmissionDependencies "task" (sampleRoles (some "agent"))) sampleLedger false =
        .ok ["coordinator-before-researcher dependent receipt identity mismatch at line 3"] :=
  ⟨built_sampleLedger (.inr rfl), by decide +kernel⟩

end Valp.Dispatch
