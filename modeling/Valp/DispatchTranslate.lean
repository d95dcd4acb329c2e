/-
The translation of legacy receipts (`translate_legacy_herdr_receipts` in
`valp_cli/workflow.py`).

A legacy receipt of one work item becomes a v2 receipt with the identity of the item, appended
to the ledger, and names the digest of its source, so that it is translated once.

* `usage_translate` — **when the translation leaves the counts of the ledger unchanged.**
-/
import Valp.DispatchUsage

namespace Valp.Dispatch

open Json (Value)
open Queue (exactInt asStr)
open Kernel (bind_eq_ok)
open Kernel.Decode (ok_bind)
open List
open Json.Value

/-! ### The translated receipt -/

/-- `int(v)`; `number` reads a string. -/
def intOf (number : String → Option Int) (v : Value) : Except Fault Int :=
  match v.1 with
  | .int n => .ok n
  | .bool b => .ok (if b then 1 else 0)
  | .str s =>
    match number s with
    | some n => .ok n
    | none => .error (.python "ValueError")
  | _ => .error (.python "TypeError")

/-- `int(v or other)`. -/
def intOr (number : String → Option Int) (v : Value) (other : Int) : Except Fault Int :=
  if v.truthy then intOf number v else .ok other

/-- What a call of the translation reads beside the ledger. -/
structure Translator where
  text : Json → String
  number : String → Option Int
  taskId : String
  /-- The work items of the dependency document that are dictionaries. -/
  workItems : List Value
  phase : Option (String × String)
  /-- `_herdr_suspension_epoch`. -/
  suspensionEpoch : Int
  /-- `now_iso()`. -/
  now : String

/-- The events that are translated. -/
def translatedEvents : List String :=
  ["dispatch_submitted", "dispatch_completed", "dispatch_blocked"]

def legacyTranslationReceiptId (taskId : String) (item legacy : Value) : String :=
  dumpsDigest (.dict [("task_id", .str taskId), ("item", item), ("legacy", legacy)] (by simp))

def translatedReceiptId (taskId : String) (item : Value) (sourceDigest : String) : String :=
  dumpsDigest (.dict [("task_id", .str taskId), ("item", item),
    ("legacy_source_digest", .str sourceDigest)] (by simp))

/-- `v if isinstance(v, dict) else {}`. -/
def dictOr (v : Value) : Value := if v.isObject then v else emptyDict

/-- The identifiers of the terminal that a submission was typed into. -/
def runtimeKeys : List String := ["pane_id", "terminal_id", "workspace_id", "tab_id"]

def translatedProof (legacy : Value) (sourceDigest : String) : Value :=
  let runtime := dictOr (legacy.get "runtime")
  let proof := (dictOr (legacy.get "proof")).set "legacy_source_digest" (.str sourceDigest)
  if (legacy.get "event").equal (.str "dispatch_submitted") then
    (runtimeKeys.foldl (fun proof key =>
      if (asStr (runtime.get key)).any Queue.isFilled then proof.setDefault key (runtime.get key)
      else proof) proof).setDefault "adapter" (.str "HERDR")
  else proof

section

variable (env : Translator) (legacy : Value)

def matchingItems : Except Fault (List Value) := do
  let expectedRefs ← refList env.text (legacy.get "expected_refs")
  selectOk (fun item => do
    if strOrEmpty env.text (item.get "agent") ≠ strOrEmpty env.text (legacy.get "agent") then
      .ok false
    else if !env.phase.all (fun phase => strOrEmpty env.text (item.get "agent") = phase.1 ∧
        strOrEmpty env.text (item.get "role") = phase.2) then .ok false
    else
      let itemRefs ← refList env.text (item.get "expected_refs")
      .ok (covers itemRefs expectedRefs)) env.workItems

/-- The fields of the translated receipt that do not depend on its event. -/
def translatedFields (item : Value) (sourceDigest : String)
    (eventSequence generation exitCode : Int) (itemRefs : List String) :
    List (String × Value) :=
  let agent := strOrEmpty env.text (legacy.get "agent")
  [("schema_version", .str schemaV2),
    ("receipt_id", .str (translatedReceiptId env.taskId item sourceDigest)),
    ("task_id", .str env.taskId), ("event_sequence", .int eventSequence),
    ("ts", .str (strOr env.text (legacy.get "ts") env.now)), ("agent", .str agent),
    ("role", .str (strOr env.text (item.get "role") "other")),
    ("work_item_id", .str (strOrEmpty env.text (item.get "work_item_id"))),
    ("dispatch_id", .str (strOrEmpty env.text (item.get "dispatch_id"))),
    ("dispatch_generation", .int generation),
    ("event", .str (strOf env.text (legacy.get "event").1)), ("exit_code", .int exitCode),
    ("summary", .str (strOrEmpty env.text (legacy.get "summary"))),
    ("dispatch_ref", .str (strOr env.text (legacy.get "dispatch_ref")
      ("agents/" ++ agent ++ "/dispatch.md"))),
    ("expected_refs", ⟨.arr (itemRefs.map .str), by
      rw [Json.distinctKeys, Json.distinctItems_eq_all, all_map]
      exact all_eq_true.mpr fun _ _ => rfl⟩),
    ("runtime", dictOr (legacy.get "runtime")),
    ("proof", translatedProof legacy sourceDigest)]

/-- `translated_record`; a terminal one carries the epoch of the suspension. -/
def translatedRecord (item : Value) (sourceDigest : String)
    (eventSequence : Int) : Except Fault Value := do
  let generation ← intOr env.number (item.get "dispatch_generation") 1
  let exitCode ← intOr env.number (legacy.get "exit_code") 0
  let itemRefs ← refList env.text (item.get "expected_refs")
  let fields := translatedFields env legacy item sourceDigest eventSequence generation exitCode
    itemRefs
  if (legacy.get "event").equal (.str "dispatch_submitted") then
    .ok (.dict fields (by simp [fields, translatedFields]))
  else
    .ok (.dict (fields ++ [("suspension_epoch", .int env.suspensionEpoch)])
      (by simp [fields, translatedFields]))

end

/-! ### The loop over the ledger -/

/-- What the loop keeps. -/
structure Translation where
  existingIds : List String
  consumed : List String
  eventSequence : Int
  appended : List Value

def initialTranslation (text : Json → String) (receipts : List Value) : Translation where
  existingIds := (receipts.filter fun record => isV2 record &&
    (record.get "receipt_id").truthy).map fun record => strOf text (record.get "receipt_id").1
  consumed := (receipts.filter isV2).filterMap (translatedSource text)
  eventSequence := ((receipts.filter isV2).filterMap fun record =>
    exactInt (record.get "event_sequence")).max?.getD 0
  appended := []

def translateLine (env : Translator) (translation : Translation) (numbered : Value × ℕ) :
    Except Fault Translation := do
  let legacy := numbered.1
  if isV2 legacy then .ok translation
  else if !(← inSet (legacy.get "event") translatedEvents) then .ok translation
  else
    let sourceDigest := legacyReceiptSourceDigest env.taskId numbered.2 legacy
    if translation.consumed.contains sourceDigest then .ok translation
    else if env.workItems.any fun item =>
        translation.existingIds.contains (legacyTranslationReceiptId env.taskId item legacy) then
      .ok translation
    else
      match ← matchingItems env legacy with
      | [item] =>
        let receiptId := translatedReceiptId env.taskId item sourceDigest
        if translation.existingIds.contains receiptId then .ok translation
        else
          let record ← translatedRecord env legacy item sourceDigest
            (translation.eventSequence + 1)
          .ok { existingIds := receiptId :: translation.existingIds
                consumed := sourceDigest :: translation.consumed
                eventSequence := translation.eventSequence + 1
                appended := translation.appended ++ [record] }
      | _ => .ok translation

/-- `translate_legacy_herdr_receipts`: the receipts that it appends. -/
def translateLegacyHerdrReceipts (env : Translator) (receipts : List Value) :
    Except Fault (List Value) :=
  if env.workItems = [] then .ok []
  else do
    let translation ← (receipts.zipIdx 1).foldlM (translateLine env)
      (initialTranslation env.text receipts)
    .ok translation.appended

/-! ### What a translated receipt says -/

section Record

variable {env : Translator} {legacy item record : Value} {sourceDigest : String}
  {eventSequence : Int}

theorem dumpsDigest_ne (v : Value) : dumpsDigest v ≠ "" := by
  rw [dumpsDigest, Kernel.digestText]
  simp

theorem isObject_dictOr (v : Value) : (dictOr v).isObject := by
  rw [dictOr]
  split
  · assumption
  · rfl

theorem source_translatedProof (legacy : Value) (sourceDigest : String) :
    (translatedProof legacy sourceDigest).isObject ∧
      (translatedProof legacy sourceDigest).get "legacy_source_digest" = .str sourceDigest := by
  let S : Value → Prop := fun proof =>
    proof.isObject ∧ proof.get "legacy_source_digest" = .str sourceDigest
  have hbase := isObject_dictOr (legacy.get "proof")
  have hset : S ((dictOr (legacy.get "proof")).set "legacy_source_digest" (.str sourceDigest)) :=
    ⟨by rw [isObject_set, hbase], get_set_self hbase _ _⟩
  -- No default has the key of the source.
  have hdefault : ∀ {proof key} (v : Value), key ≠ "legacy_source_digest" → S proof →
      S (proof.setDefault key v) := by
    intro proof key v hkey hpf
    refine ⟨isObject_setDefault hpf.1 _ _, ?_⟩
    rw [get_setDefault_ne hpf.1 (Ne.symm hkey), hpf.2]
  rw [translatedProof]
  split
  · refine hdefault _ (by decide) (foldlRecOn _ _ hset fun proof hpf key hkey => ?_)
    split
    · exact hdefault _ ((by decide : ∀ key ∈ runtimeKeys, key ≠ "legacy_source_digest") key hkey)
        hpf
    · exact hpf
  · exact hset

/-- The identity of the submissions of a work item. -/
def itemKey (env : Translator) (item : Value) (generation : Int) : Identity :=
  .v2 ([Value.str env.taskId, .str (strOrEmpty env.text (item.get "agent")),
    .str (strOr env.text (item.get "role") "other"),
    .str (strOrEmpty env.text (item.get "work_item_id")),
    .str (strOrEmpty env.text (item.get "dispatch_id")), .int generation,
    .str "dispatch_submitted"].map fun v => v.1.key)

/-- What the count of the dispatches reads of a translated receipt. -/
structure IsTranslated (env : Translator) (legacy item : Value) (sourceDigest : String)
    (generation : Int) (record : Value) : Prop where
  schema : isV2 record = true
  event : record.get "event" = .str (strOf env.text (legacy.get "event").1)
  agent : record.get "agent" = .str (strOrEmpty env.text (legacy.get "agent"))
  source : translatedSource env.text record = some sourceDigest
  key : legacy.get "event" = .str "dispatch_submitted" →
    strOrEmpty env.text (item.get "agent") = strOrEmpty env.text (legacy.get "agent") →
    v2Key record = itemKey env item generation

theorem isTranslated_of_record (hdig : sourceDigest ≠ "")
    (h : translatedRecord env legacy item sourceDigest eventSequence = .ok record) :
    ∃ generation, intOr env.number (item.get "dispatch_generation") 1 = .ok generation ∧
      IsTranslated env legacy item sourceDigest generation record := by
  rw [translatedRecord, bind_eq_ok] at h
  obtain ⟨generation, hgen, h⟩ := h
  rw [bind_eq_ok] at h
  obtain ⟨exitCode, -, h⟩ := h
  rw [bind_eq_ok] at h
  obtain ⟨itemRefs, -, h⟩ := h
  refine ⟨generation, hgen, ?_⟩
  obtain ⟨hobj, hsrc⟩ := source_translatedProof legacy sourceDigest
  have hpf : record.get "proof" = translatedProof legacy sourceDigest →
      translatedSource env.text record = some sourceDigest := by
    intro hpf
    rw [translatedSource, hpf, hobj, hsrc]
    simp [Value.truthy, Value.str, hdig, strOf]
  by_cases hsubd : (legacy.get "event").equal (.str "dispatch_submitted") = true
  · simp only [if_pos hsubd] at h
    cases h
    refine ⟨rfl, rfl, rfl, hpf rfl, fun hev hag => ?_⟩
    rw [itemKey, hag]
    have hname : strOf env.text (legacy.get "event").1 = "dispatch_submitted" := by
      rw [hev]
      rfl
    rw [← hname]
    rfl
  · simp only [if_neg hsubd] at h
    cases h
    refine ⟨rfl, rfl, rfl, hpf rfl, fun hev => absurd ?_ hsubd⟩
    rw [hev, equal_self]

end Record

/-! ### The counts behind a translation -/

section Translate

variable {env : Translator} {tokens : String → ℕ} {records more : List Value}
  {receipt record item : Value} {translation translation' : Translation} {line : Value × ℕ}
  {n : Int} {done lines : List (Value × ℕ)}

/-- **One line of the translation**: it is passed over, or its translation is appended. -/
theorem translateLine_cases (h : translateLine env translation line = .ok translation') :
    translation' = translation ∨ isV2 line.1 = false ∧
      (∃ event ∈ translatedEvents, line.1.get "event" = .str event) ∧
      legacyReceiptSourceDigest env.taskId line.2 line.1 ∉ translation.consumed ∧
      ∃ item record n, matchingItems env line.1 = .ok [item] ∧
        intOr env.number (item.get "dispatch_generation") 1 = .ok n ∧
        IsTranslated env line.1 item (legacyReceiptSourceDigest env.taskId line.2 line.1) n record ∧
        translation'.consumed =
          legacyReceiptSourceDigest env.taskId line.2 line.1 :: translation.consumed ∧
        translation'.appended = translation.appended ++ [record] := by
  rw [translateLine] at h
  cases hleg : isV2 line.1 with
  | true =>
    simp only [hleg, if_true] at h
    exact .inl (Except.ok.inj h).symm
  | false =>
    simp only [hleg, Bool.false_eq_true, if_false, bind_eq_ok] at h
    obtain ⟨known, hkn, h⟩ := h
    cases known with
    | false => exact .inl (Except.ok.inj h).symm
    | true =>
      obtain ⟨event, hev, heq⟩ := inSet_eq_true.mp hkn
      simp only [Bool.not_true, Bool.false_eq_true, if_false] at h
      split at h
      · exact .inl (Except.ok.inj h).symm
      rename_i hcons
      rw [contains_iff_mem] at hcons
      split at h
      · exact .inl (Except.ok.inj h).symm
      rw [bind_eq_ok] at h
      obtain ⟨items, hitems, h⟩ := h
      split at h
      · rename_i item
        split at h
        · exact .inl (Except.ok.inj h).symm
        rw [bind_eq_ok] at h
        obtain ⟨record, hrcd, h⟩ := h
        cases h
        obtain ⟨n, hn, htranslated⟩ := isTranslated_of_record (dumpsDigest_ne _) hrcd
        exact .inr ⟨rfl, ⟨event, hev, heq⟩, hcons, item, record, n, hitems, hn, htranslated,
          rfl, rfl⟩
      · exact .inl (Except.ok.inj h).symm

theorem agent_of_matching {legacy : Value} (h : matchingItems env legacy = .ok [item]) :
    strOrEmpty env.text (item.get "agent") = strOrEmpty env.text (legacy.get "agent") := by
  rw [matchingItems, bind_eq_ok] at h
  obtain ⟨refs, -, h⟩ := h
  have hitem := ((mem_of_selectOk h item).mp (mem_singleton_self _)).2
  by_contra hne
  rw [if_pos hne] at hitem
  cases hitem

/-- A legacy submission of the ledger that the translation may take up, for this item in this
generation. -/
structure Takes (env : Translator) (records : List Value) (line : Value × ℕ) (item : Value)
    (n : Int) : Prop where
  mem : line ∈ records.zipIdx 1
  legacy : isV2 line.1 = false
  event : line.1.get "event" = .str "dispatch_submitted"
  source : ∀ record ∈ records, isV2 record → translatedSource env.text record ≠
    some (legacyReceiptSourceDigest env.taskId line.2 line.1)
  matching : matchingItems env line.1 = .ok [item]
  generation : intOr env.number (item.get "dispatch_generation") 1 = .ok n

/-- Every submission that is taken up counts and is the first of its work item, or does not
count and its work item has a v2 submission. -/
def Balanced (env : Translator) (records : List Value) : Prop :=
  ∀ line item n, Takes env records line item n →
    isVisible env.text env.taskId records line = true ∧ IsFresh records (itemKey env item n) ∧
        (∀ other item' n', Takes env records other item' n' → other.2 < line.2 →
          itemKey env item' n' ≠ itemKey env item n) ∨
      isVisible env.text env.taskId records line = false ∧ ¬IsFresh records (itemKey env item n)

theorem isVisible_of_hides {text : Json → String} {taskId : String}
    (h : ∀ record ∈ more, hides text taskId record line = false) :
    isVisible text taskId (records ++ more) line = isVisible text taskId records line := by
  induction more using List.reverseRecOn with
  | nil => rw [append_nil]
  | append_singleton more record ih =>
    rw [← append_assoc, isVisible_append, h record (by simp), Bool.and_false, Bool.not_false,
      Bool.and_true, ih fun other hoth => h other (by simp [hoth])]

theorem uncollided_append {taskId : String} (hv2 : ∀ record ∈ more, isV2 record)
    (h : Uncollided taskId records) : Uncollided taskId (records ++ more) := by
  have hold : ∀ x ∈ (records ++ more).zipIdx 1, isV2 x.1 = false → x ∈ records.zipIdx 1 := by
    intro x hx hleg
    rw [zipIdx_append] at hx
    rcases mem_append.mp hx with hx | hx
    · exact hx
    · rw [hv2 x.1 (fst_mem_of_mem_zipIdx hx)] at hleg
      cases hleg
  intro x hx y hy hxlegacy hylegacy
  exact h x (hold x hx hxlegacy) y (hold y hy hylegacy) hxlegacy hylegacy

/-- What a receipt replaces whose source is a line of the ledger: that line, if it counts. -/
theorem replaced_of_source {text : Json → String} {taskId : String}
    (hdist : Uncollided taskId records) (hline : line ∈ records.zipIdx 1)
    (hleg : isV2 line.1 = false) (hsrc : translatedSource text receipt =
      some (legacyReceiptSourceDigest taskId line.2 line.1)) :
    replaced text taskId records receipt =
      if isVisible text taskId records line then [line] else [] := by
  have hmem : ∀ other, other ∈ replaced text taskId records receipt ↔
      other = line ∧ isVisible text taskId records line = true := by
    intro other
    rw [replaced, mem_filter, hides, hsrc]
    simp only [Bool.and_eq_true, beq_iff_eq]
    constructor
    · rintro ⟨hoth, hvis, hsame⟩
      -- The digest of the source is that of one line only.
      have hkind : isV2 other.1 = false := by
        simp only [isVisible, Bool.and_eq_true, Bool.not_eq_true'] at hvis
        exact hvis.1.2
      have hnumber : line.2 = other.2 := hdist _ hline _ hoth hleg hkind hsame
      obtain rfl : other = line := by
        rw [mem_zipIdx_iff_le_and_getElem?_sub] at hoth hline
        refine Prod.ext (Option.some.inj ?_) hnumber.symm
        rw [← hoth.2, ← hline.2, hnumber]
      exact ⟨rfl, hvis⟩
    · rintro ⟨rfl, hvis⟩
      exact ⟨hline, hvis, rfl⟩
  have hnd : (replaced text taskId records receipt).Nodup :=
    ((pairwise_zipIdx records).imp fun hlt hsame => absurd (congrArg Prod.snd hsame)
      hlt.ne).filter _
  cases hlist : replaced text taskId records receipt with
  | nil =>
    rw [if_neg fun hvis => ?_]
    simpa [hlist] using (hmem line).mpr ⟨rfl, hvis⟩
  | cons first others =>
    rw [hlist] at hmem hnd
    obtain ⟨rfl, hvis⟩ := (hmem first).mp mem_cons_self
    rw [if_pos hvis]
    cases others with
    | nil => rfl
    | cons second others =>
      obtain ⟨rfl, -⟩ := (hmem second).mp (by simp)
      simp at hnd

/-- **A translated receipt that is balanced leaves the counts unchanged.** -/
theorem usageOf_append {legacy : Value × ℕ} (tokens : String → ℕ)
    (h : IsTranslated env legacy.1 item (legacyReceiptSourceDigest env.taskId legacy.2 legacy.1) n
      record) (hdist : Uncollided env.taskId records) (hline : legacy ∈ records.zipIdx 1)
    (hleg : isV2 legacy.1 = false)
    (hbal : isSubmission record → (isVisible env.text env.taskId records legacy = true ↔
      IsFresh records (v2Key record))) :
    usageOf env.text tokens env.taskId (records ++ [record]) =
      usageOf env.text tokens env.taskId records := by
  cases hkind : isSubmission record with
  | false => rw [usageOf, countedLines_skip hkind, usageOf]
  | true =>
    obtain ⟨kept, hold, hcounts, hseen⟩ := usage_v2 env.text tokens
      (by rw [hkind, h.schema]; rfl) hdist
    rw [hold, replaced_of_source hdist hline hleg h.source]
    by_cases hvis : isVisible env.text env.taskId records legacy = true
    · rw [hcounts ((hbal hkind).mp hvis), if_pos hvis, h.agent, strOrEmpty_str]
      ext <;> simp [total, Entry.usage, entryAt]
    · rw [hseen (fun hfr => hvis ((hbal hkind).mpr hfr)), if_neg hvis]
      ext <;> simp [total]

/-- What the loop keeps: the counts, and where its receipts come from. -/
structure Progress (env : Translator) (tokens : String → ℕ) (records : List Value)
    (done : List (Value × ℕ)) (translation : Translation) : Prop where
  usage : usageOf env.text tokens env.taskId (records ++ translation.appended) =
    usageOf env.text tokens env.taskId records
  consumed : ∀ record ∈ records, isV2 record → ∀ source,
    translatedSource env.text record = some source → source ∈ translation.consumed
  appended : ∀ record ∈ translation.appended, isV2 record = true ∧
    ∃ line ∈ done, ∃ item n, line ∈ records.zipIdx 1 ∧ isV2 line.1 = false ∧
      IsTranslated env line.1 item (legacyReceiptSourceDigest env.taskId line.2 line.1) n record ∧
      (isSubmission record → Takes env records line item n)

theorem isFresh_append {identity : Identity} : IsFresh (records ++ more) identity ↔
    IsFresh records identity ∧ IsFresh more identity := by
  rw [IsFresh, v2Submissions, filter_append, map_append, mem_append, not_or]
  rfl

theorem Takes.key (h : Takes env records line item n) {digest : String}
    (hrcd : IsTranslated env line.1 item digest n record) :
    v2Key record = itemKey env item n :=
  hrcd.key h.event (agent_of_matching h.matching)

theorem Progress.step (hdist : Uncollided env.taskId records) (hbal : Balanced env records)
    (hprog : Progress env tokens records done translation)
    (hsp : done ++ line :: lines = records.zipIdx 1)
    (h : translateLine env translation line = .ok translation') :
    Progress env tokens records (done ++ [line]) translation' := by
  rcases translateLine_cases h with rfl | ⟨hleg, ⟨event, hkn, hev⟩, hnew, item, record, n,
    hitem, hn, hrcd, hcons, happended⟩
  · refine ⟨hprog.usage, hprog.consumed, fun record hmem => ?_⟩
    obtain ⟨hv2, other, hoth, hfrom⟩ := hprog.appended record hmem
    exact ⟨hv2, other, mem_append_left _ hoth, hfrom⟩
  have hline : line ∈ records.zipIdx 1 := hsp ▸ by simp
  have hless : ∀ other ∈ done, other.2 < line.2 := by
    have hord := pairwise_zipIdx records
    rw [← hsp, pairwise_append] at hord
    exact fun other hoth => hord.2.2 other hoth line mem_cons_self
  have htakes : isSubmission record → Takes env records line item n := by
    intro hsub
    refine ⟨hline, hleg, ?_, fun other hoth hv2 hsrc =>
      hnew (hprog.consumed other hoth hv2 _ hsrc), hitem, hn⟩
    rw [isSubmission, hrcd.event, hev] at hsub
    rw [hev]
    simp only [translatedEvents, mem_cons, not_mem_nil, or_false] at hkn
    rcases hkn with rfl | rfl | rfl
    · rfl
    · cases hsub
    · cases hsub
  -- The receipts appended so far come from earlier lines.
  have hhides : ∀ other ∈ translation.appended,
      hides env.text env.taskId other line = false := by
    intro other hoth
    obtain ⟨-, source, hsrc, _, _, hmem, hkind, hoth, -⟩ := hprog.appended other hoth
    rw [hides, hoth.source]
    refine beq_eq_false_iff_ne.mpr fun hsame => ?_
    exact (hless source hsrc).ne (hdist _ hmem _ hline hkind hleg hsame)
  refine ⟨?_, fun other hoth hv2 source hsrc => ?_, fun other hoth => ?_⟩
  · rw [happended, ← append_assoc, ← hprog.usage]
    refine usageOf_append tokens hrcd
      (uncollided_append (fun other hoth => (hprog.appended other hoth).1) hdist)
      (by rw [zipIdx_append]; exact mem_append_left _ hline) hleg fun hsub => ?_
    have htaken := htakes hsub
    rw [isVisible_of_hides hhides, htaken.key hrcd, isFresh_append]
    rcases hbal line item n htaken with ⟨hvis, hfr, hfst⟩ | ⟨hhidden, hold⟩
    · refine iff_of_true hvis ⟨hfr, fun hmem => ?_⟩
      obtain ⟨other, hoth, hsame⟩ := mem_map.mp hmem
      obtain ⟨hoth, hkind⟩ := mem_filter.mp hoth
      obtain ⟨-, source, hsrc, item', n', -, -, htranslated, htaken'⟩ :=
        hprog.appended other hoth
      have htaken' := htaken' (Bool.and_eq_true_iff.mp hkind).1
      exact hfst source item' n' htaken' (hless source hsrc)
        ((htaken'.key htranslated).symm.trans hsame)
    · exact iff_of_false (by rw [hhidden]; exact Bool.false_ne_true) fun hfr => hold hfr.1
  · rw [hcons]
    exact mem_cons_of_mem _ (hprog.consumed other hoth hv2 source hsrc)
  · rw [happended] at hoth
    rcases mem_append.mp hoth with hoth | hoth
    · obtain ⟨hv2, source, hsrc, hfrom⟩ := hprog.appended other hoth
      exact ⟨hv2, source, mem_append_left _ hsrc, hfrom⟩
    · rw [mem_singleton.mp hoth]
      exact ⟨hrcd.schema, line, by simp, item, n, hline, hleg, hrcd, htakes⟩

/-- The loop, by induction on the lines that it has not read. -/
theorem Progress.fold (hdist : Uncollided env.taskId records) (hbal : Balanced env records)
    (hprog : Progress env tokens records done translation)
    (hsp : done ++ lines = records.zipIdx 1)
    (h : lines.foldlM (translateLine env) translation = .ok translation') :
    Progress env tokens records (records.zipIdx 1) translation' := by
  induction lines generalizing done translation with
  | nil =>
    cases h
    rwa [← hsp, append_nil]
  | cons line lines ih =>
    rw [foldlM_cons, bind_eq_ok] at h
    obtain ⟨next, hnext, h⟩ := h
    exact ih (hprog.step hdist hbal hsp hnext) (by rw [← hsp]; simp) h

/-- **The translation leaves the counts of a ledger unchanged** if what it takes up is
balanced. -/
theorem usage_translate {appended : List Value} (tokens : String → ℕ)
    (hbal : Balanced env records) (hdist : Uncollided env.taskId records)
    (h : translateLegacyHerdrReceipts env records = .ok appended) :
    usageOf env.text tokens env.taskId (records ++ appended) =
      usageOf env.text tokens env.taskId records := by
  rw [translateLegacyHerdrReceipts] at h
  split at h
  · cases h
    rw [append_nil]
  rw [bind_eq_ok] at h
  obtain ⟨translation, hfold, h⟩ := h
  cases h
  have hstart : Progress env tokens records [] (initialTranslation env.text records) := by
    refine ⟨by simp [initialTranslation], fun record hrcd hv2 source hsrc => ?_, nofun⟩
    exact mem_filterMap.mpr ⟨record, mem_filter.mpr ⟨hrcd, hv2⟩, hsrc⟩
  exact (hstart.fold hdist hbal rfl hfold).usage

end Translate

end Valp.Dispatch
