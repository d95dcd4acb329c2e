/-
The dispatch receipts of a task (`valp_cli/workflow.py`, `submission.py`).

A task has one ledger of dispatch receipts: the file `dispatch-receipts.jsonl`, whose records
are read as JSON objects and checked by `deterministic_receipt_ledger_errors`, or, once a
runtime adapter was adopted, the v3 ledger of that adapter.  The receipts are JSON values and
every check reads them as Python does: a key that is not there reads as `None`, `True` is
equal to `1`, a value that cannot be hashed is in no set but raises.

* `versioned_of_load` — what the checks say about the v2 and v3 receipts of a ledger.
-/
import Valp.JsonLedgers
import Valp.QueueCalls
import Valp.ReceiptStore

namespace Valp.Dispatch

open Json (Value)
open Queue (asStr exactInt isFilled)
open Receipts (ProtocolReceipt ReceiptStore)
open Kernel (bind_eq_ok)

/-- A raised `SystemExit` with its text, or an exception of another class. -/
inductive Fault where
  | exit (message : String)
  | python (name : String)
  deriving DecidableEq, Repr

/-! ### Python values -/

/-- `value in names`, for a set of strings. -/
def inSet (v : Value) (names : List String) : Except Fault Bool :=
  match v.1 with
  | .arr _ | .obj _ => .error (.python "TypeError")
  | .str s => .ok (names.contains s)
  | _ => .ok false

section

variable (text : Json → String)

/-- `str(v)`; `text` is the text of a list or of a dictionary. -/
def strOf : Json → String
  | .str s => s
  | .int n => toString n
  | .bool b => if b then "True" else "False"
  | .null => "None"
  | v => text v

/-- `str(v or "")`. -/
def strOrEmpty (v : Value) : String :=
  if v.truthy then strOf text v.1 else ""

theorem strOrEmpty_str (s : String) :
    strOrEmpty text (.str s) = s := by
  by_cases hemp : s = ""
  · subst hemp
    rfl
  · simp [strOrEmpty, Value.truthy, Value.str, strOf, hemp]

/-- `str(v or other)` where the other text stands for what is false. -/
def strOr (v : Value) (other : String) : String :=
  if v.truthy then strOf text v.1 else other

/-- `[str(ref) for ref in v or []]`. -/
def refList (v : Value) : Except Fault (List String) :=
  if !v.truthy then .ok []
  else
    match v.1 with
    | .arr items => .ok (items.map (strOf text))
    | .str s => .ok (s.toList.map String.singleton)
    | .obj members => .ok (members.map Prod.fst)
    | _ => .error (.python "TypeError")

end

/-! ### Schemas and events -/

def schemaV2 : String := "valp-dispatch-receipt.v2"

def schemaV3 : String := "valp-dispatch-receipt.v3"

/-- `TERMINAL_RECEIPT_EVENTS` and `TERMINAL_WORKER_RECEIPT_EVENTS`. -/
def terminalEvents : List String :=
  ["dispatch_completed", "dispatch_blocked", "manual_result_attested", "manual_blocked"]

/-- `DELIVERY_RECEIPT_EVENTS`. -/
def deliveryEvents : List String := ["dispatch_submitted", "manual_delivery_attested"]

/-- `receipt.get("schema_version") in {v2, v3}`. -/
def isVersioned (receipt : Value) : Except Fault Bool :=
  inSet (receipt.get "schema_version") [schemaV2, schemaV3]

/-! ### The checks of a ledger -/

/-- `previous_sequence` behind a receipt. -/
def nextSequence (previous : Int) (receipt : Value) : Int :=
  match exactInt (receipt.get "event_sequence") with
  | some n => if 1 ≤ n ∧ previous < n then n else previous
  | none => previous

def sequenceErrors (previous : Int) (line : String) (receipt : Value) : List String :=
  match exactInt (receipt.get "event_sequence") with
  | some n =>
    if n < 1 then [line ++ " has an invalid event_sequence"]
    else if n ≤ previous then [line ++ " event_sequence is not strictly increasing"]
    else []
  | none => [line ++ " has an invalid event_sequence"]

def lineErrors (taskId : String) (previous : Int) (line : String) (receipt : Value) :
    Except Fault (List String) := do
  let revision := receipt.get "ledger_revision"
  let retry := receipt.get "retry_generation"
  let epoch := receipt.get "suspension_epoch"
  let terminal ← inSet (receipt.get "event") terminalEvents
  .ok (
    (if taskId ≠ "" ∧ (receipt.get "task_id").equal (.str taskId) = false then
      [line ++ " belongs to a different task"] else []) ++
    sequenceErrors previous line receipt ++
    (if (receipt.get "schema_version").equal (.str schemaV3) ∧
        ((exactInt revision).isNone ∨ revision.equal (receipt.get "event_sequence") = false) then
      [line ++ " has an invalid v3 ledger_revision"] else []) ++
    (if (exactInt (receipt.get "dispatch_generation")).any (1 ≤ ·) then []
      else [line ++ " has an invalid dispatch_generation"]) ++
    (if retry.isNone ∨ (exactInt retry).any (1 ≤ ·) = true then []
      else [line ++ " has an invalid retry_generation"]) ++
    (if epoch.isNone ∨ (exactInt epoch).any (1 ≤ ·) = true then []
      else [line ++ " has an invalid suspension_epoch"]) ++
    (if terminal ∧ (exactInt epoch).isNone then
      [line ++ " terminal receipt is missing a valid suspension_epoch"] else []))

/-- The loop over the receipts behind line `number`; `seen` holds the receipts by their ids. -/
def ledgerErrorsFrom (taskId : String) (seen : List (String × Value)) (previous : Int) :
    ℕ → List Value → Except Fault (List String)
  | _, [] => .ok []
  | number, receipt :: receipts => do
    if !(← isVersioned receipt) then ledgerErrorsFrom taskId seen previous (number + 1) receipts
    else
      let line := "line " ++ toString number
      let next := nextSequence previous receipt
      match (asStr (receipt.get "receipt_id")).filter (· ≠ "") with
      | none => do
        let errors ← lineErrors taskId previous line receipt
        let more ← ledgerErrorsFrom taskId seen next (number + 1) receipts
        .ok ((line ++ " has an invalid receipt_id") :: (errors ++ more))
      | some receiptId =>
        match seen.lookup receiptId with
        | some earlier => do
          let more ← ledgerErrorsFrom taskId seen previous (number + 1) receipts
          .ok ((if receipt.equal earlier then []
            else [line ++ " has a conflicting duplicate receipt_id " ++ receiptId]) ++ more)
        | none => do
          let errors ← lineErrors taskId previous line receipt
          let more ← ledgerErrorsFrom taskId ((receiptId, receipt) :: seen) next (number + 1)
            receipts
          .ok (errors ++ more)

def hasSchema (schema : String) (receipts : List Value) : Bool :=
  receipts.any fun receipt => (receipt.get "schema_version").equal (.str schema)

def deterministicReceiptLedgerErrors (receipts : List Value) (taskId : String) :
    Except Fault (List String) := do
  let _ ← receipts.mapM isVersioned
  let mixed := if hasSchema schemaV2 receipts ∧ hasSchema schemaV3 receipts then
    ["deterministic receipt ledger mixes v2 and v3 schemas"] else []
  let errors ← ledgerErrorsFrom taskId [] 0 1 receipts
  .ok (mixed ++ errors)

/-! ### Proofs of a submission -/

def nonRuntimeProofTerms : List String :=
  ["dry_run", "dry-run", "simulation", "simulated", "subagent", "sub-agent", "manual_attestation"]

/-- The key of a proof that names something. -/
def isIdentityKey (key : String) : Bool :=
  let key := key.toList.map Char.toLower
  key == "id".toList || key == "ref".toList || "_id".toList.isSuffixOf key ||
    "_ref".toList.isSuffixOf key

mutual

/-- `_proof_contains_concrete_signal`. -/
def containsConcreteSignal : Json → Bool
  | .obj members => memberSignal members
  | _ => false

def memberSignal : List (String × Json) → Bool
  | [] => false
  | (key, signal) :: members =>
    (isIdentityKey key && (match signal with | .str s => isFilled s | _ => false)) ||
      containsConcreteSignal signal ||
      (match signal with | .arr items => itemSignal items | _ => false) ||
      memberSignal members

def itemSignal : List Json → Bool
  | [] => false
  | item :: items => containsConcreteSignal item || itemSignal items

end

/-- The four digits of a `\u` escape. -/
def hexDigits (n : ℕ) : List Char :=
  [n / 4096 % 16, n / 256 % 16, n / 16 % 16, n % 16].map Nat.digitChar

/-- The escape of a character outside printable ASCII, as a pair of surrogates if it needs one. -/
def asciiEscape (c : Char) : List Char :=
  if c.toNat < 127 then [c]
  else if c.toNat < 0x10000 then '\\' :: 'u' :: hexDigits c.toNat
  else
    let n := c.toNat - 0x10000
    ('\\' :: 'u' :: hexDigits (0xd800 + n / 1024)) ++ ('\\' :: 'u' :: hexDigits (0xdc00 + n % 1024))

/-- `json.dumps(v, sort_keys=True).lower()`. -/
def proofText (v : Json) : List Char :=
  ((v.sortKeys.spaced [' ']).flatMap asciiEscape).map Char.toLower

/-- The strings among `binding.get("proof_kind")` of the bindings that are dictionaries. -/
def proofKinds : List Json → Except Fault (List String)
  | [] => .ok []
  | .obj members :: bindings =>
    match (Json.member? (.obj members) "proof_kind").getD .null with
    | .arr _ | .obj _ => .error (.python "TypeError")
    | .str kind => (proofKinds bindings).map (kind :: ·)
    | _ => proofKinds bindings
  | _ :: bindings => proofKinds bindings

/-- The kinds of the proof bindings of a v3 receipt. -/
def bindingKinds (bindings : Value) : Except Fault (List String) :=
  if !bindings.truthy then .ok []
  else
    match bindings.1 with
    | .arr items => proofKinds items
    | .str _ | .obj _ => .ok []
    | _ => .error (.python "TypeError")

def hasConcreteRuntimeSubmissionProof (receipt : Value) : Except Fault Bool :=
  if !(receipt.get "event").equal (.str "dispatch_submitted") then .ok false
  else if (receipt.get "schema_version").equal (.str schemaV3) then do
    let kinds ← bindingKinds (receipt.get "proof_bindings")
    .ok (kinds.contains "process_bound" && kinds.contains "content_bound" &&
      !kinds.contains "transport_only")
  else
    let proof := receipt.get "proof"
    if !proof.isObject || !proof.truthy then .ok false
    else .ok (!(nonRuntimeProofTerms.any fun term =>
        (proofText proof.1).tails.any term.toList.isPrefixOf) && containsConcreteSignal proof.1)

/-! ### Loading the ledger -/

inductive Adapter where
  | herdr
  | queue
  | manual
  | langgraph
  deriving DecidableEq, Repr

def Adapter.name : Adapter → String
  | .herdr => "herdr"
  | .queue => "queue"
  | .manual => "manual"
  | .langgraph => "langgraph"

/-- The v3 ledger of an adapter: the checks of its marker and of the identity of the
installation, the identity and the bytes of the ledger, and the checks of what the proofs of
its receipts name. -/
structure Runtime where
  adopted : Bool
  marker : Except String Unit
  store : ReceiptStore
  ledger : Option Bytes
  proofs : List ProtocolReceipt → Except String Unit

/-- The files of a task that the receipts are read from. -/
structure TaskDir where
  runtime : Adapter → Runtime
  /-- The text of `dispatch-receipts.jsonl`. -/
  dispatchReceipts : Option (List Char)
  /-- `manual_effective_receipt_ids`. -/
  manualEffective : Except String (List String)

/-- `dict(receipt.canonical())`. -/
def canonicalValue (receipt : ProtocolReceipt) : Value := ⟨receipt.canonical, receipt.distinctKeys⟩

/-- `load_runtime_v3_receipts` and `load_langgraph_v3_receipts`. -/
def loadRuntimeV3Receipts (adapter : Adapter) (runtime : Runtime) : Except String (List Value) := do
  runtime.marker
  match runtime.store.load none runtime.ledger with
  | .error (.store error) =>
    .error ((if adapter = .langgraph then "Cannot validate LangGraph v3 receipt ledger: "
      else adapter.name ++ " v3 ledger is invalid: ") ++ error.code.value)
  | .error (.value message) => .error message
  | .ok ledger =>
    runtime.proofs ledger.receipts
    .ok (ledger.receipts.map canonicalValue)

/-- The adapters with an adoption marker. -/
def TaskDir.adopted (dir : TaskDir) : List Adapter :=
  [.herdr, .queue, .manual, .langgraph].filter fun adapter => (dir.runtime adapter).adopted

def loadDispatchReceipts (dir : TaskDir) (taskId : String) : Except Fault (List Value) :=
  match dir.adopted with
  | [] => do
    let receipts ← (Ledgers.readJsonLinesStrict Json.codec "dispatch-receipts.jsonl"
      dir.dispatchReceipts).mapError .exit
    let errors ← deterministicReceiptLedgerErrors receipts taskId
    if errors ≠ [] then
      .error (.exit ("Invalid dispatch receipt ledger: " ++ "; ".intercalate (errors.take 5)))
    else .ok receipts
  | [adapter] =>
    let loaded := do
      let receipts ← loadRuntimeV3Receipts adapter (dir.runtime adapter)
      if adapter = Adapter.manual then
        let _ ← dir.manualEffective
        .ok receipts
      else .ok receipts
    loaded.mapError fun error =>
      .exit ("Invalid adopted " ++ adapter.name ++ " v3 receipt ledger: " ++ error)
  | _ => .error (.exit "Invalid dispatch receipt ledger: multiple runtime adoption markers")

/-! ### What the checks say -/

variable {v : Value} {previous : Int}

section Loaded

variable {taskId : String} {receipt : Value} {receipts : List Value}

theorem inSet_eq_true {names : List String} :
    inSet v names = .ok true ↔ ∃ s ∈ names, v = .str s := by
  obtain ⟨v, hv⟩ := v
  rw [inSet]
  cases v with
  | str s =>
    simp only [Except.ok.injEq, List.contains_iff_mem]
    constructor
    · intro hs
      exact ⟨s, hs, rfl⟩
    · rintro ⟨t, ht, heq⟩
      rwa [Value.str_inj.mp heq]
  | _ =>
    refine iff_of_false nofun ?_
    rintro ⟨t, -, heq⟩
    cases congrArg Subtype.val heq

/-- What the checks of a ledger say about its v2 and v3 receipts.  A repeated line is only
compared with the first one, so its numbers may be truth values. -/
structure Checked (receipt : Value) : Prop where
  receiptId : ∃ id, id ≠ "" ∧ receipt.get "receipt_id" = .str id
  generation : ∃ n : Int, 1 ≤ n ∧ (receipt.get "dispatch_generation").equal (.int n) = true

theorem eq_int_of_exactInt {n : Int} (h : exactInt v = some n) : v = .int n := by
  obtain ⟨v, hv⟩ := v
  cases v with
  | int m =>
    cases h
    rfl
  | _ => cases h

theorem eq_str_of_asStr {s : String} (h : asStr v = some s) : v = .str s := by
  obtain ⟨v, hv⟩ := v
  cases v with
  | str t =>
    cases h
    rfl
  | _ => cases h

theorem checked_of_lineErrors {line id : String} (hid : id ≠ "")
    (hrcpt : receipt.get "receipt_id" = .str id)
    (h : lineErrors taskId previous line receipt = .ok []) : Checked receipt := by
  refine ⟨⟨id, hid, hrcpt⟩, ?_⟩
  rw [lineErrors, bind_eq_ok] at h
  obtain ⟨terminal, -, herrs⟩ := h
  simp only [Except.ok.injEq, List.append_eq_nil_iff] at herrs
  obtain ⟨⟨⟨⟨-, hgen⟩, -⟩, -⟩, -⟩ := herrs
  cases hex : exactInt (receipt.get "dispatch_generation") with
  | none => simp [hex] at hgen
  | some n =>
    refine ⟨n, by simpa [hex] using hgen, ?_⟩
    rw [eq_int_of_exactInt hex, Value.equal_self]

theorem Checked.of_equal {earlier : Value} (h : Checked earlier)
    (heq : receipt.equal earlier) : Checked receipt := by
  obtain ⟨id, hid, hreceiptId⟩ := h.receiptId
  obtain ⟨n, hn, hgen⟩ := h.generation
  refine ⟨⟨id, hid, ?_⟩, n, hn, ?_⟩
  · rw [← Value.equal_str, ← hreceiptId]
    exact Value.equal_get heq "receipt_id"
  · have hsame := Value.equal_get heq "dispatch_generation"
    rw [Value.equal_iff] at hsame hgen ⊢
    rw [hsame, hgen]

variable {seen : List (String × Value)} {number : ℕ} {field : String} {adapter : Adapter}
  {dir : TaskDir}

/-- What follows from the checks of one receipt and carries over to an equal one holds for the
v2 and v3 receipts of a ledger without errors. -/
theorem forall_of_ledgerErrors {P : Value → Prop}
    (hline : ∀ {receipt previous line id}, id ≠ "" → receipt.get "receipt_id" = .str id →
      lineErrors taskId previous line receipt = .ok [] → P receipt)
    (hrepeated : ∀ {receipt earlier}, P earlier → receipt.equal earlier → P receipt)
    (hseen : ∀ entry ∈ seen, P entry.2)
    (h : ledgerErrorsFrom taskId seen previous number receipts = .ok []) :
    ∀ receipt ∈ receipts, isVersioned receipt = .ok true → P receipt := by
  induction receipts generalizing seen previous number with
  | nil => simp
  | cons receipt receipts ih =>
    rw [ledgerErrorsFrom, bind_eq_ok] at h
    obtain ⟨versioned, hvers, h⟩ := h
    suffices hall : (isVersioned receipt = .ok true → P receipt) ∧
        ∀ other ∈ receipts, isVersioned other = .ok true → P other from
      List.forall_mem_cons.mpr hall
    cases versioned with
    | false =>
      rw [hvers]
      exact ⟨fun hv => (by cases hv), ih hseen h⟩
    | true =>
      simp only [Bool.not_true, Bool.false_eq_true, if_false] at h
      cases hid : (asStr (receipt.get "receipt_id")).filter (· ≠ "") with
      | none =>
        simp only [hid, bind_eq_ok] at h
        obtain ⟨_, -, _, -, herrs⟩ := h
        cases herrs
      | some id =>
        simp only [hid] at h
        rw [Option.filter_eq_some_iff] at hid
        have hreceiptId := eq_str_of_asStr hid.1
        cases hlook : seen.lookup id with
        | some earlier =>
          simp only [hlook, bind_eq_ok, Except.ok.injEq, List.append_eq_nil_iff] at h
          obtain ⟨more, hmore, heql, rfl⟩ := h
          have hsame : receipt.equal earlier := by
            by_contra hne
            rw [if_neg hne] at heql
            cases heql
          have hearl : P earlier := hseen (id, earlier) (Json.mem_of_lookup hlook)
          exact ⟨fun _ => hrepeated hearl hsame, ih hseen hmore⟩
        | none =>
          simp only [hlook, bind_eq_ok, Except.ok.injEq, List.append_eq_nil_iff] at h
          obtain ⟨errors, herrs, more, hmore, rfl, rfl⟩ := h
          have hfst := hline (by simpa using hid.2) hreceiptId herrs
          refine ⟨fun _ => hfst, ih ?_ hmore⟩
          intro entry hent
          rcases List.mem_cons.mp hent with rfl | hold
          · exact hfst
          · exact hseen entry hold

theorem checked_of_ledgerErrors
    (hseen : ∀ entry ∈ seen, Checked entry.2)
    (h : ledgerErrorsFrom taskId seen previous number receipts = .ok []) :
    ∀ receipt ∈ receipts, isVersioned receipt = .ok true → Checked receipt :=
  forall_of_ledgerErrors checked_of_lineErrors Checked.of_equal hseen h

theorem val_get_canonicalValue {receipt : ProtocolReceipt} {w : Json}
    (h : receipt.fields.lookup field = some (some w)) (hfld : field ≠ "receipt_digest") :
    ((canonicalValue receipt).get field).1 = w := by
  refine Value.get_of_member ?_
  show receipt.canonical.member? field = some w
  rw [ProtocolReceipt.canonical, Json.member?_record (by simp [ProtocolReceipt.fields]),
    Json.lookup_cons_if, if_neg hfld, h]
  rfl

theorem get_canonicalValue {receipt : ProtocolReceipt}
    (h : receipt.fields.lookup field = some (some v.1)) (hfld : field ≠ "receipt_digest") :
    (canonicalValue receipt).get field = v :=
  Subtype.ext (val_get_canonicalValue h hfld)

theorem checked_canonicalValue {receipt : ProtocolReceipt}
    (h : Receipts.receiptValid receipt) : Checked (canonicalValue receipt) := by
  have hflds : Receipts.fieldsValid receipt.draft := by
    have hdr := (Receipts.receiptValid_iff.mp h).1
    simp only [Receipts.draftValid, Bool.and_eq_true] at hdr
    exact hdr.1.1.1.1
  simp only [Receipts.fieldsValid, Bool.and_eq_true, decide_eq_true_eq, List.all_cons,
    bne_iff_ne] at hflds
  refine ⟨⟨receipt.draft.receiptId, ?_, ?_⟩, receipt.draft.dispatchGeneration, ?_, ?_⟩
  · tauto
  · exact get_canonicalValue rfl (by decide)
  · tauto
  · have hget : (canonicalValue receipt).get "dispatch_generation" =
        .int receipt.draft.dispatchGeneration := get_canonicalValue rfl (by decide)
    rw [hget, Value.equal_self]

theorem loadRuntimeV3Receipts_eq_ok {runtime : Runtime} :
    loadRuntimeV3Receipts adapter runtime = .ok receipts ↔ runtime.marker = .ok () ∧
      ∃ ledger, runtime.store.load none runtime.ledger = .ok ledger ∧
        runtime.proofs ledger.receipts = .ok () ∧
        receipts = ledger.receipts.map canonicalValue := by
  simp only [loadRuntimeV3Receipts, bind_eq_ok, Unique.exists_iff]
  refine and_congr_right fun _ => ?_
  cases hload : runtime.store.load none runtime.ledger with
  | error raised => cases raised <;> simp
  | ok ledger =>
    simp only [bind_eq_ok, Unique.exists_iff, Except.ok.injEq, exists_eq_left']
    exact and_congr_right fun _ => eq_comm

/-- **The receipts of an adopted runtime** are those of a valid v3 ledger. -/
theorem of_load_adopted (hadop : dir.adopted = [adapter])
    (h : loadDispatchReceipts dir taskId = .ok receipts) :
    ∃ ledger, (dir.runtime adapter).store.load none (dir.runtime adapter).ledger = .ok ledger ∧
      receipts = ledger.receipts.map canonicalValue ∧
      ∀ item ∈ ledger.receipts, Receipts.receiptValid item := by
  simp only [loadDispatchReceipts, hadop, Kernel.mapError_eq_ok] at h
  obtain ⟨loaded, hloaded, h⟩ := bind_eq_ok.mp h
  obtain rfl : loaded = receipts := by
    split at h
    · obtain ⟨_, -, h⟩ := bind_eq_ok.mp h
      exact Except.ok.inj h
    · exact Except.ok.inj h
  obtain ⟨-, ledger, hload, -, rfl⟩ := loadRuntimeV3Receipts_eq_ok.mp hloaded
  exact ⟨ledger, hload, rfl, (Receipts.chain_of_loadUnlocked (Receipts.of_load hload)).1.valid⟩

/-- **What loading a ledger says about its v2 and v3 receipts.** -/
theorem versioned_of_load (h : loadDispatchReceipts dir taskId = .ok receipts)
    (hmem : receipt ∈ receipts) (hvers : isVersioned receipt = .ok true) :
    Checked receipt := by
  cases hadop : dir.adopted with
  | nil =>
    simp only [loadDispatchReceipts, hadop, bind_eq_ok] at h
    obtain ⟨records, -, errors, herrs, h⟩ := h
    by_cases hnone : errors = []
    · rw [if_neg (not_not.mpr hnone)] at h
      cases h
      rw [hnone, deterministicReceiptLedgerErrors, bind_eq_ok] at herrs
      obtain ⟨_, -, herrs⟩ := herrs
      obtain ⟨more, hmore, herrs⟩ := bind_eq_ok.mp herrs
      simp only [Except.ok.injEq, List.append_eq_nil_iff] at herrs
      exact checked_of_ledgerErrors (by simp) (herrs.2 ▸ hmore) receipt hmem hvers
    · rw [if_pos hnone] at h
      cases h
  | cons adapter others =>
    cases others with
    | cons other others =>
      simp only [loadDispatchReceipts, hadop] at h
      cases h
    | nil =>
      obtain ⟨ledger, -, rfl, hval⟩ := of_load_adopted hadop h
      obtain ⟨item, hitem, rfl⟩ := List.mem_map.mp hmem
      exact checked_canonicalValue (hval item hitem)

end Loaded

end Valp.Dispatch
