/-
The dispatches of a ledger (`_dispatch_usage_from_receipts` in `valp_cli/workflow.py`).

A v2 submission is counted once for each identity of a work item, a legacy one once for each
line of the ledger.  A v2 submission hides a legacy one: the one whose digest it names as its
source or, if it names none, every legacy submission that looks like it.

* `usage_append_iff` — **when appending a receipt does not lower the counts.**
-/
import Valp.DispatchGate

namespace Valp.Dispatch

open Json (Value)
open Kernel (bind_eq_ok)
open Kernel.Decode (ok_bind)
open List

/-! ### Counting -/

/-- The digest of `json.dumps(v, ensure_ascii=False, sort_keys=True)`. -/
def dumpsDigest (v : Value) : String :=
  Kernel.digestText (String.ofList (v.1.sortKeys.spaced [' ']))

def legacyReceiptSourceDigest (taskId : String) (lineNumber : ℕ) (receipt : Value) : String :=
  dumpsDigest (.dict [("task_id", .str taskId), ("line_number", .int lineNumber),
    ("receipt", receipt)] (by simp))

/-- What a submission is counted under. -/
inductive Identity where
  | v2 (fields : List (List Char))
  | legacy (digest : String)
  deriving DecidableEq

structure Entry where
  identity : Identity
  line : ℕ
  record : Value

def isV2 (record : Value) : Bool := (record.get "schema_version").equal (.str schemaV2)

def isHashable (v : Value) : Bool :=
  match v.1 with
  | .arr _ | .obj _ => false
  | _ => true

def v2Fields (record : Value) : List Value :=
  ["task_id", "agent", "role", "work_item_id", "dispatch_id", "dispatch_generation",
    "event"].map record.get

/-- The identity of a v2 submission; equal values have the same key. -/
def v2Key (record : Value) : Identity := .v2 ((v2Fields record).map fun v => v.1.key)

/-- The identity as a member of a set. -/
def v2Identity (record : Value) : Except Fault Identity :=
  if (v2Fields record).all isHashable then .ok (v2Key record) else .error (.python "TypeError")

section

variable (text : Json → String) (record : Value)

/-- The source that a v2 record names, if it was translated. -/
def translatedSource : Option String :=
  let source := (record.get "proof").get "legacy_source_digest"
  if (record.get "proof").isObject && source.truthy then some (strOf text source.1) else none

/-- `tuple(sorted(str(ref) for ref in record.get("expected_refs") or []))`. -/
def sortedRefs : Except Fault (List String) :=
  (refList text (record.get "expected_refs")).map (·.mergeSort (· ≤ ·))

/-- Whether a legacy record looks like a v2 record that names no source. -/
def isTwin (refs : List String) (twin : Value) :
    Except Fault Bool := do
  if !(twin.get "agent").equal (record.get "agent") then .ok false
  else if !(twin.get "event").equal (record.get "event") then .ok false
  else
    let twinRefs ← sortedRefs text twin
    .ok (twinRefs == refs || (refs == [] && (twin.get "ts").equal (record.get "ts") &&
      (twin.get "dispatch_ref").equal (record.get "dispatch_ref")))

end

/-- The body of the loop over the submissions. -/
def entryOf (text : Json → String) (taskId : String) (sources : List String)
    (twins : List Value) (numbered : Value × ℕ) : Except Fault (Option Entry) := do
  let refs ← sortedRefs text numbered.1
  if isV2 numbered.1 then
    let identity ← v2Identity numbered.1
    .ok (some ⟨identity, numbered.2, numbered.1⟩)
  else
    let digest := legacyReceiptSourceDigest taskId numbered.2 numbered.1
    if sources.contains digest then .ok none
    else if ← twins.anyM (isTwin text numbered.1 refs) then .ok none
    else .ok (some ⟨.legacy digest, numbered.2, numbered.1⟩)

/-- The results of a loop that may skip an item. -/
def collectOk {α β : Type} (f : α → Except Fault (Option β)) : List α → Except Fault (List β)
  | [] => .ok []
  | x :: xs => do
    let found ← f x
    let others ← collectOk f xs
    .ok (found.toList ++ others)

def submissions (records : List Value) : Except Fault (List (Value × ℕ)) :=
  selectOk (fun numbered => inSet (numbered.1.get "event") deliveryEvents) (records.zipIdx 1)

def v2Records (submitted : List (Value × ℕ)) : List Value := (submitted.map Prod.fst).filter isV2

/-- `translated_source_digests`. -/
def translatedSources (text : Json → String) (submitted : List (Value × ℕ)) : List String :=
  (v2Records submitted).filterMap (translatedSource text)

/-- `legacy_v2_records`. -/
def legacyV2Records (text : Json → String) (submitted : List (Value × ℕ)) : List Value :=
  (v2Records submitted).filter fun record => (translatedSource text record).isNone

def counted (text : Json → String) (taskId : String) (records : List Value) :
    Except Fault (List Entry) := do
  let submitted ← submissions records
  collectOk (entryOf text taskId (translatedSources text submitted)
    (legacyV2Records text submitted)) submitted

@[ext] structure Usage where
  dispatches : ℕ
  referenceTokens : ℕ
  deriving DecidableEq, Repr

instance : Add Usage :=
  ⟨fun u v => ⟨u.dispatches + v.dispatches, u.referenceTokens + v.referenceTokens⟩⟩

instance : LE Usage :=
  ⟨fun u v => u.dispatches ≤ v.dispatches ∧ u.referenceTokens ≤ v.referenceTokens⟩

/-- One dispatch of the entry; `tokens` is the payload of an agent. -/
def Entry.usage (text : Json → String) (tokens : String → ℕ) (entry : Entry) : Usage :=
  ⟨1, tokens (strOrEmpty text (entry.record.get "agent"))⟩

/-- The entries under new identities. -/
def tally (text : Json → String) (tokens : String → ℕ) (seen : List Identity) :
    List Entry → Usage
  | [] => ⟨0, 0⟩
  | entry :: entries =>
    if entry.identity ∈ seen then tally text tokens seen entries
    else entry.usage text tokens + tally text tokens (entry.identity :: seen) entries

/-- `_dispatch_usage_from_receipts` behind the load of the ledger. -/
def dispatchUsage (text : Json → String) (tokens : String → ℕ) (taskId : String)
    (records : List Value) : Except Fault Usage := do
  let entries ← counted text taskId records
  .ok (tally text tokens [] entries)

/-! ### Totals -/

section Tally

variable {text : Json → String} {tokens : String → ℕ} {seen : List Identity} {entry : Entry}
  {entries : List Entry}

@[simp] theorem Usage.dispatches_add (u v : Usage) :
    (u + v).dispatches = u.dispatches + v.dispatches := rfl

@[simp] theorem Usage.referenceTokens_add (u v : Usage) :
    (u + v).referenceTokens = u.referenceTokens + v.referenceTokens := rfl

theorem Usage.le_iff {u v : Usage} :
    u ≤ v ↔ u.dispatches ≤ v.dispatches ∧ u.referenceTokens ≤ v.referenceTokens := Iff.rfl

def total (text : Json → String) (tokens : String → ℕ) : List Entry → Usage
  | [] => ⟨0, 0⟩
  | entry :: entries => entry.usage text tokens + total text tokens entries

theorem dispatches_total : (total text tokens entries).dispatches = entries.length := by
  induction entries with
  | nil => rfl
  | cons entry entries ih =>
    rw [total, Usage.dispatches_add, ih, length_cons]
    exact Nat.add_comm 1 entries.length

theorem tally_congr {seen' : List Identity}
    (h : ∀ entry ∈ entries, entry.identity ∈ seen ↔ entry.identity ∈ seen') :
    tally text tokens seen entries = tally text tokens seen' entries := by
  induction entries generalizing seen seen' with
  | nil => rfl
  | cons entry entries ih =>
    obtain ⟨hent, hents⟩ := forall_mem_cons.mp h
    rw [tally, tally]
    by_cases hseen : entry.identity ∈ seen
    · rw [if_pos hseen, if_pos (hent.mp hseen), ih hents]
    · rw [if_neg hseen, if_neg (hseen ∘ hent.mpr)]
      refine congrArg _ (ih fun other hoth => ?_)
      rw [mem_cons, mem_cons, hents other hoth]

theorem tally_append : tally text tokens seen (entries ++ [entry]) =
    if entry.identity ∈ seen ∨ entry.identity ∈ entries.map Entry.identity then
      tally text tokens seen entries
    else tally text tokens seen entries + entry.usage text tokens := by
  induction entries generalizing seen with
  | nil => by_cases hseen : entry.identity ∈ seen <;> simp [tally, hseen, Usage.ext_iff]
  | cons first entries ih =>
    rw [cons_append, tally, tally]
    by_cases hseen : first.identity ∈ seen
    · rw [if_pos hseen, if_pos hseen, ih]
      refine if_congr ?_ rfl rfl
      rw [map_cons, mem_cons]
      constructor
      · tauto
      · rintro (hent | hfst | hoth)
        · exact .inl hent
        · exact .inl (hfst ▸ hseen)
        · exact .inr hoth
    · rw [if_neg hseen, if_neg hseen, ih]
      by_cases hent : entry.identity ∈ seen ∨ entry.identity ∈ (first :: entries).map Entry.identity
      · rw [if_pos hent, if_pos]
        rw [map_cons, mem_cons] at hent
        rw [mem_cons]
        tauto
      · rw [if_neg hent, if_neg]
        · ext <;> simp [Nat.add_assoc]
        · rw [map_cons, mem_cons] at hent
          rw [mem_cons]
          tauto

theorem tally_filter {keep : Entry → Bool}
    (hunique : entries.Pairwise fun a b =>
      a.identity = b.identity → keep a ∧ keep b)
    (hseen : ∀ entry ∈ entries, keep entry = false → entry.identity ∉ seen) :
    tally text tokens seen entries = tally text tokens seen (entries.filter keep) +
      total text tokens (entries.filter fun entry => !keep entry) := by
  induction entries generalizing seen with
  | nil => rfl
  | cons entry entries ih =>
    obtain ⟨hfst, hoths⟩ := pairwise_cons.mp hunique
    obtain ⟨hent, hents⟩ := forall_mem_cons.mp hseen
    cases hkeep : keep entry with
    | true =>
      rw [filter_cons_of_pos hkeep, filter_cons_of_neg (by simp [hkeep]), tally, tally]
      by_cases hold : entry.identity ∈ seen
      · rw [if_pos hold, if_pos hold, ih hoths hents]
      rw [if_neg hold, if_neg hold, ih hoths]
      · ext <;> simp [Nat.add_assoc]
      · intro other hoth hgone hmem
        rcases mem_cons.mp hmem with hsame | hmem
        · have hkept := (hfst other hoth hsame.symm).2
          rw [hgone] at hkept
          cases hkept
        · exact hents other hoth hgone hmem
    | false =>
      rw [filter_cons_of_neg (by simp [hkeep]), filter_cons_of_pos (by simp [hkeep]),
        tally, if_neg (hent hkeep), total]
      -- No later entry has the identity of one that is taken out.
      have hforget : tally text tokens (entry.identity :: seen) entries =
          tally text tokens seen entries := by
        refine tally_congr fun other hoth => ?_
        rw [mem_cons, or_iff_right]
        intro hsame
        have hkept := (hfst other hoth hsame.symm).1
        rw [hkeep] at hkept
        cases hkept
      rw [hforget, ih hoths hents]
      ext <;> simp [Nat.add_left_comm]

end Tally

/-! ### The submissions that count -/

section Counted

variable {α β : Type} {xs : List α}

def okTrue : Except Fault Bool → Bool
  | .ok b => b
  | .error _ => false

theorem selectOk_iff {keep : α → Except Fault Bool} {ys : List α} : selectOk keep xs = .ok ys ↔
    (∀ x ∈ xs, ∃ b, keep x = .ok b) ∧ ys = xs.filter fun x => okTrue (keep x) := by
  induction xs generalizing ys with
  | nil => simp [selectOk, eq_comm]
  | cons x xs ih =>
    rw [selectOk, forall_mem_cons, filter_cons]
    cases keep x with
    | error fault =>
      refine iff_of_false (fun h => by cases h) ?_
      rintro ⟨⟨⟨_, h⟩, -⟩, -⟩
      cases h
    | ok b =>
      simp only [bind_eq_ok, ih, Except.ok.injEq, okTrue, ok_bind]
      constructor
      · rintro ⟨others, ⟨hall, rfl⟩, rfl⟩
        exact ⟨⟨⟨b, rfl⟩, hall⟩, rfl⟩
      · rintro ⟨⟨-, hall⟩, rfl⟩
        exact ⟨_, ⟨hall, rfl⟩, rfl⟩

def okFound : Except Fault (Option β) → Option β
  | .ok found => found
  | .error _ => none

theorem collectOk_iff {f : α → Except Fault (Option β)} {ys : List β} : collectOk f xs = .ok ys ↔
    (∀ x ∈ xs, ∃ y, f x = .ok y) ∧ ys = xs.filterMap fun x => okFound (f x) := by
  induction xs generalizing ys with
  | nil => simp [collectOk, eq_comm]
  | cons x xs ih =>
    rw [collectOk, forall_mem_cons, filterMap_cons]
    cases f x with
    | error fault =>
      refine iff_of_false (fun h => by cases h) ?_
      rintro ⟨⟨⟨_, h⟩, -⟩, -⟩
      cases h
    | ok found =>
      simp only [bind_eq_ok, ih, Except.ok.injEq, okFound, ok_bind]
      constructor
      · rintro ⟨others, ⟨hall, rfl⟩, rfl⟩
        exact ⟨⟨⟨found, rfl⟩, hall⟩, by cases found <;> rfl⟩
      · rintro ⟨⟨-, hall⟩, rfl⟩
        exact ⟨_, ⟨hall, rfl⟩, by cases found <;> rfl⟩

theorem anyM_ok {p : α → Except Fault Bool} (h : ∀ x ∈ xs, ∃ b, p x = .ok b) :
    xs.anyM p = .ok (xs.any fun x => okTrue (p x)) := by
  induction xs with
  | nil => rfl
  | cons x xs ih =>
    obtain ⟨⟨b, hb⟩, hrest⟩ := forall_mem_cons.mp h
    rw [List.anyM, hb, ok_bind, any_cons, hb]
    cases b with
    | true => rfl
    | false => exact ih hrest

variable (text : Json → String) (taskId : String) (records : List Value)

def isSubmission (record : Value) : Bool := okTrue (inSet (record.get "event") deliveryEvents)

/-- Whether a v2 submission hides a legacy line: the line is its source or, if it names none,
looks like it. -/
def hides (receipt : Value) (line : Value × ℕ) : Bool :=
  match translatedSource text receipt with
  | some source => source == legacyReceiptSourceDigest taskId line.2 line.1
  | none => okTrue (do isTwin text line.1 (← sortedRefs text line.1) receipt)

/-- The v2 submissions of a ledger. -/
def v2Submissions : List Value := records.filter fun record => isSubmission record && isV2 record

/-- A legacy submission that no v2 submission of the ledger hides. -/
def isVisible (line : Value × ℕ) : Bool :=
  isSubmission line.1 && !isV2 line.1 &&
    (v2Submissions records).all fun receipt => !hides text taskId receipt line

def entryAt (line : Value × ℕ) : Entry :=
  ⟨if isV2 line.1 then v2Key line.1 else .legacy (legacyReceiptSourceDigest taskId line.2 line.1),
    line.2, line.1⟩

def countedLines : List (Value × ℕ) :=
  (records.zipIdx 1).filter fun line =>
    isSubmission line.1 && isV2 line.1 || isVisible text taskId records line

/-- The fields of a record that the loop looks at have the types that it needs. -/
def Countable (record : Value) : Prop :=
  (∃ b, inSet (record.get "event") deliveryEvents = .ok b) ∧
    (isSubmission record → (∃ refs, sortedRefs text record = .ok refs) ∧
      (isV2 record → (v2Fields record).all isHashable))

variable {text taskId records} {entries : List Entry}

theorem mem_zipIdx_of_mem {record : Value} (h : record ∈ records) :
    ∃ line, (record, line) ∈ records.zipIdx 1 := by
  obtain ⟨i, hi⟩ := mem_iff_getElem?.mp h
  exact ⟨i + 1, by simpa [mk_mem_zipIdx_iff_le_and_getElem?_sub] using hi⟩

theorem v2Records_eq : v2Records ((records.zipIdx 1).filter fun line =>
    okTrue (inSet (line.1.get "event") deliveryEvents)) = v2Submissions records := by
  have hmap : ((records.zipIdx 1).filter (isSubmission ∘ Prod.fst)).map Prod.fst =
      records.filter isSubmission := by
    rw [← filter_map, zipIdx_map_fst]
  rw [v2Records, v2Submissions]
  refine (congrArg (filter isV2) hmap).trans ?_
  rw [filter_filter]
  refine filter_congr fun record _ => Bool.and_comm _ _

theorem any_hides (taskId : String) (v2s : List Value) (line : Value × ℕ) {refs : List String}
    (hrefs : sortedRefs text line.1 = .ok refs) :
    ((v2s.filterMap (translatedSource text)).contains
        (legacyReceiptSourceDigest taskId line.2 line.1) ||
      (v2s.filter fun record => (translatedSource text record).isNone).any fun twin =>
        okTrue (isTwin text line.1 refs twin)) = v2s.any (hides text taskId · line) := by
  induction v2s with
  | nil => rfl
  | cons receipt v2s ih =>
    rw [any_cons, ← ih, hides, filterMap_cons, filter_cons]
    cases translatedSource text receipt with
    | none => simp [hrefs, ok_bind, Bool.or_left_comm]
    | some source => simp [Bool.or_assoc, Bool.beq_comm]

/-- One turn of the loop, for a ledger whose records have the types that it needs. -/
theorem entryOf_eq (hall : ∀ record ∈ records, Countable text record) {line : Value × ℕ}
    (hline : line ∈ records.zipIdx 1) (hsub : isSubmission line.1) :
    entryOf text taskId ((v2Submissions records).filterMap (translatedSource text))
        ((v2Submissions records).filter fun record => (translatedSource text record).isNone) line =
      .ok (if isV2 line.1 || isVisible text taskId records line then some (entryAt taskId line)
        else none) := by
  obtain ⟨⟨refs, hrefs⟩, hhashable⟩ := (hall _ (fst_mem_of_mem_zipIdx hline)).2 hsub
  rw [entryOf, hrefs, ok_bind, isVisible, hsub, entryAt]
  cases hv2 : isV2 line.1 with
  | true => simp [v2Identity, hhashable hv2, ok_bind]
  | false =>
    have htwins : ∀ twin ∈ (v2Submissions records).filter fun record =>
        (translatedSource text record).isNone, ∃ b, isTwin text line.1 refs twin = .ok b := by
      intro twin htwin
      obtain ⟨hmem, hkind⟩ := mem_filter.mp (mem_filter.mp htwin).1
      obtain ⟨⟨twinRefs, htwinRefs⟩, -⟩ :=
        (hall twin hmem).2 (Bool.and_eq_true_iff.mp hkind).1
      rw [isTwin, htwinRefs]
      split
      · exact ⟨_, rfl⟩
      · split <;> exact ⟨_, rfl⟩
    have hany := any_hides taskId (v2Submissions records) line hrefs
    have hvis : ((v2Submissions records).all fun r => !hides text taskId r line) =
        !((v2Submissions records).any (hides text taskId · line)) := by
      rw [← not_any_eq_all_not]
    simp only [anyM_ok htwins, hvis, ← hany, ok_bind, Bool.false_eq_true, if_false]
    cases List.contains _ (legacyReceiptSourceDigest taskId line.2 line.1) <;>
      cases List.any _ fun twin => okTrue (isTwin text line.1 refs twin) <;> rfl

/-- **The submissions that count**: every v2 one, and every legacy one that is visible. -/
theorem counted_iff : counted text taskId records = .ok entries ↔
    (∀ record ∈ records, Countable text record) ∧
      entries = (countedLines text taskId records).map (entryAt taskId) := by
  rw [counted, bind_eq_ok]
  simp only [submissions, selectOk_iff, translatedSources, legacyV2Records, collectOk_iff]
  have hls : ∀ hall : ∀ record ∈ records, Countable text record,
      ((records.zipIdx 1).filter fun line => isSubmission line.1).filterMap (fun line =>
        okFound (entryOf text taskId ((v2Submissions records).filterMap (translatedSource text))
          ((v2Submissions records).filter fun record => (translatedSource text record).isNone)
          line)) = (countedLines text taskId records).map (entryAt taskId) := by
    intro hall
    rw [countedLines, ← filterMap_eq_map, filterMap_filter, filterMap_filter]
    refine filterMap_congr fun line hline => ?_
    cases hsub : isSubmission line.1 with
    | false => simp [isVisible, hsub]
    | true =>
      simp only [entryOf_eq hall hline hsub, okFound, Bool.true_and, if_true]
      rfl
  constructor
  · rintro ⟨_, ⟨hevs, rfl⟩, hturns, rfl⟩
    rw [v2Records_eq] at hturns ⊢
    have hall : ∀ record ∈ records, Countable text record := by
      intro record hmem
      obtain ⟨line, hline⟩ := mem_zipIdx_of_mem hmem
      refine ⟨hevs _ hline, fun hsub => ?_⟩
      obtain ⟨found, hfnd⟩ := hturns _ (mem_filter.mpr ⟨hline, hsub⟩)
      rw [entryOf, bind_eq_ok] at hfnd
      obtain ⟨refs, hrefs, hfnd⟩ := hfnd
      refine ⟨⟨refs, hrefs⟩, fun hkind => ?_⟩
      rw [if_pos hkind, bind_eq_ok] at hfnd
      obtain ⟨identity, hidt, -⟩ := hfnd
      rw [v2Identity] at hidt
      by_contra hnot
      rw [if_neg hnot] at hidt
      cases hidt
    exact ⟨hall, hls hall⟩
  · rintro ⟨hall, rfl⟩
    refine ⟨_, ⟨fun line hline => (hall _ (fst_mem_of_mem_zipIdx hline)).1, rfl⟩, ?_⟩
    rw [v2Records_eq]
    refine ⟨fun line hline => ?_, (hls hall).symm⟩
    obtain ⟨hline, hsub⟩ := mem_filter.mp hline
    exact ⟨_, entryOf_eq hall hline hsub⟩

/-- What the ledger counts, whether or not its records have the types that the loop needs. -/
def usageOf (text : Json → String) (tokens : String → ℕ) (taskId : String)
    (records : List Value) : Usage :=
  tally text tokens [] ((countedLines text taskId records).map (entryAt taskId))

theorem dispatchUsage_iff {tokens : String → ℕ} {usage : Usage} :
    dispatchUsage text tokens taskId records = .ok usage ↔
      (∀ record ∈ records, Countable text record) ∧
        usageOf text tokens taskId records = usage := by
  rw [dispatchUsage, bind_eq_ok]
  simp only [counted_iff, Except.ok.injEq]
  constructor
  · rintro ⟨_, ⟨hall, rfl⟩, husage⟩
    exact ⟨hall, husage⟩
  · rintro ⟨hall, husage⟩
    exact ⟨_, ⟨hall, rfl⟩, husage⟩

end Counted

/-! ### An appended receipt -/

section Append

variable {text : Json → String} {tokens : String → ℕ} {taskId : String} {records : List Value}
  {receipt : Value}

/-- No two legacy lines of the ledger have the same source digest. -/
def Uncollided (taskId : String) (records : List Value) : Prop :=
  ∀ x ∈ records.zipIdx 1, ∀ y ∈ records.zipIdx 1, isV2 x.1 = false → isV2 y.1 = false →
    legacyReceiptSourceDigest taskId x.2 x.1 = legacyReceiptSourceDigest taskId y.2 y.1 →
    x.2 = y.2

/-- The legacy submissions that count and that the receipt hides. -/
def replaced (text : Json → String) (taskId : String) (records : List Value) (receipt : Value) :
    List (Value × ℕ) :=
  (records.zipIdx 1).filter fun line =>
    isVisible text taskId records line && hides text taskId receipt line

/-- No v2 submission of the ledger has the identity. -/
def IsFresh (records : List Value) (identity : Identity) : Prop :=
  identity ∉ (v2Submissions records).map v2Key

theorem zipIdx_concat : (records ++ [receipt]).zipIdx 1 =
    records.zipIdx 1 ++ [(receipt, records.length + 1)] := by
  rw [zipIdx_append, zipIdx_singleton, Nat.add_comm]

theorem isVisible_append (line : Value × ℕ) :
    isVisible text taskId (records ++ [receipt]) line = (isVisible text taskId records line &&
      !(isSubmission receipt && isV2 receipt && hides text taskId receipt line)) := by
  rw [isVisible, isVisible, v2Submissions, filter_append, all_append, v2Submissions, filter_cons]
  cases isSubmission receipt && isV2 receipt <;> simp [Bool.and_assoc]

theorem countedLines_skip (h : isSubmission receipt = false) :
    countedLines text taskId (records ++ [receipt]) = countedLines text taskId records := by
  rw [countedLines, zipIdx_concat, filter_append]
  simp only [isVisible_append, h, Bool.false_and, Bool.not_false, Bool.and_true, countedLines]
  simp [isVisible, h]

theorem countedLines_other (text : Json → String) (taskId : String)
    (h : (isSubmission receipt && isV2 receipt) = false) :
    ∃ new : List (Value × ℕ), new.length ≤ 1 ∧ countedLines text taskId (records ++ [receipt]) =
      countedLines text taskId records ++ new := by
  refine ⟨[(receipt, records.length + 1)].filter fun line => isSubmission line.1 && isV2 line.1 ||
    isVisible text taskId (records ++ [receipt]) line, length_filter_le _ _, ?_⟩
  rw [countedLines, zipIdx_concat, filter_append]
  refine congrArg (· ++ _) (filter_congr fun line _ => ?_)
  rw [isVisible_append, h, Bool.false_and, Bool.not_false, Bool.and_true]

theorem countedLines_v2 (h : (isSubmission receipt && isV2 receipt) = true) :
    countedLines text taskId (records ++ [receipt]) =
      (countedLines text taskId records).filter
        (fun line => isV2 line.1 || !hides text taskId receipt line) ++
        [(receipt, records.length + 1)] := by
  rw [countedLines, zipIdx_concat, filter_append, countedLines, filter_filter]
  refine congrArg₂ (· ++ ·) (filter_congr fun line _ => ?_) (by simp [h])
  rw [isVisible_append, h, Bool.true_and, isVisible]
  cases isSubmission line.1 <;> cases isV2 line.1 <;> simp [Bool.and_comm]

theorem pairwise_zipIdx (records : List Value) :
    (records.zipIdx 1).Pairwise fun a b => a.2 < b.2 := by
  have hrange : ((records.zipIdx 1).map Prod.snd).Pairwise (· < ·) := by
    rw [zipIdx_map_snd]
    exact pairwise_lt_range'
  rwa [pairwise_map] at hrange

theorem unique_of_uncollided (text : Json → String) (h : Uncollided taskId records) :
    ((countedLines text taskId records).map (entryAt taskId)).Pairwise fun a b =>
      a.identity = b.identity → isV2 a.record ∧ isV2 b.record := by
  rw [pairwise_map]
  refine ((pairwise_zipIdx records).sublist filter_sublist).imp_of_mem ?_
  intro a b ha hb hlt hsame
  obtain ⟨ha, -⟩ := mem_filter.mp ha
  obtain ⟨hb, -⟩ := mem_filter.mp hb
  simp only [entryAt] at hsame ⊢
  cases hav2 : isV2 a.1 <;> cases hbv2 : isV2 b.1 <;> simp [hav2, hbv2, v2Key] at hsame ⊢
  -- Two legacy lines with one digest would be one line.
  exact absurd (h a ha b hb hav2 hbv2 hsame) hlt.ne

/-- Only legacy entries are hidden, so the v2 identities stay. -/
theorem mem_kept_identity_iff (text : Json → String) (taskId : String) (records : List Value)
    (receipt : Value) :
    v2Key receipt ∈ ((countedLines text taskId records).filter fun line =>
      isV2 line.1 || !hides text taskId receipt line).map (Entry.identity ∘ entryAt taskId) ↔
        ¬IsFresh records (v2Key receipt) := by
  rw [IsFresh, not_not, mem_map, mem_map]
  constructor
  · rintro ⟨line, hline, hsame⟩
    rw [mem_filter, countedLines, mem_filter] at hline
    obtain ⟨⟨hmem, hcounts⟩, -⟩ := hline
    cases hkind : isV2 line.1 with
    | false => simp [entryAt, hkind, v2Key] at hsame
    | true =>
      rw [Function.comp, entryAt, if_pos hkind] at hsame
      refine ⟨line.1, mem_filter.mpr ⟨fst_mem_of_mem_zipIdx hmem, ?_⟩, hsame⟩
      simpa [isVisible, hkind] using hcounts
  · rintro ⟨record, hrcd, hsame⟩
    obtain ⟨hmem, hcounts⟩ := mem_filter.mp hrcd
    obtain ⟨line, hline⟩ := mem_zipIdx_of_mem hmem
    have hkind : isV2 record := (Bool.and_eq_true_iff.mp hcounts).2
    refine ⟨(record, line), ?_, by rw [Function.comp, entryAt, if_pos hkind]; exact hsame⟩
    rw [mem_filter, countedLines, mem_filter]
    exact ⟨⟨hline, by rw [hcounts, Bool.true_or]⟩, by rw [hkind, Bool.true_or]⟩

/-- **The usage behind a v2 submission**: what it hides is gone, and it counts if it is
fresh. -/
theorem usage_v2 (text : Json → String) (tokens : String → ℕ)
    (h : (isSubmission receipt && isV2 receipt) = true) (hdist : Uncollided taskId records) :
    ∃ kept : Usage, usageOf text tokens taskId records =
        kept + total text tokens ((replaced text taskId records receipt).map (entryAt taskId)) ∧
      (IsFresh records (v2Key receipt) → usageOf text tokens taskId (records ++ [receipt]) =
        kept + ⟨1, tokens (strOrEmpty text (receipt.get "agent"))⟩) ∧
      (¬IsFresh records (v2Key receipt) →
        usageOf text tokens taskId (records ++ [receipt]) = kept) := by
  have hv2 : isV2 receipt := (Bool.and_eq_true_iff.mp h).2
  let keep : Entry → Bool := fun entry =>
    isV2 entry.record || !hides text taskId receipt (entry.record, entry.line)
  have hkept : ((countedLines text taskId records).map (entryAt taskId)).filter keep =
      ((countedLines text taskId records).filter fun line =>
        isV2 line.1 || !hides text taskId receipt line).map (entryAt taskId) := filter_map
  have hgone : ((countedLines text taskId records).map (entryAt taskId)).filter
      (fun entry => !keep entry) =
        (replaced text taskId records receipt).map (entryAt taskId) := by
    rw [filter_map, countedLines, filter_filter, replaced]
    refine congrArg (map _) (filter_congr fun line _ => ?_)
    simp only [Function.comp, keep, entryAt, isVisible]
    cases isSubmission line.1 <;> cases isV2 line.1 <;> simp [Bool.and_comm]
  have hunique : ((countedLines text taskId records).map (entryAt taskId)).Pairwise fun a b =>
      a.identity = b.identity → keep a ∧ keep b := by
    refine (unique_of_uncollided text hdist).imp fun himp hsame => ?_
    obtain ⟨ha, hb⟩ := himp hsame
    simp only [keep, ha, hb, Bool.true_or, and_self]
  have hidt : (entryAt taskId (receipt, records.length + 1)).identity = v2Key receipt := by
    rw [entryAt, if_pos hv2]
  have hfr := mem_kept_identity_iff text taskId records receipt
  refine ⟨_, by rw [usageOf, tally_filter hunique (by simp), hgone], ?_, ?_⟩
  all_goals
    intro hcase
    rw [usageOf, countedLines_v2 h, map_append, map_singleton, tally_append, map_map, hidt]
  · rw [if_neg (by simpa [hfr] using hcase), hkept]
    rfl
  · rw [if_pos (.inr (hfr.mpr hcase)), hkept]

/-- An appended receipt replaces at most one submission: it hides none that counts, or counts
itself and hides one whose payload is no larger. -/
def OneForOne (text : Json → String) (tokens : String → ℕ) (taskId : String)
    (records : List Value) (receipt : Value) : Prop :=
  (isSubmission receipt && isV2 receipt) = true → replaced text taskId records receipt = [] ∨
    IsFresh records (v2Key receipt) ∧ ∃ line, replaced text taskId records receipt = [line] ∧
      tokens (strOrEmpty text (line.1.get "agent")) ≤
        tokens (strOrEmpty text (receipt.get "agent"))

/-- **Appending a receipt does not lower the counts** iff it replaces at most one submission. -/
theorem usage_append_iff (text : Json → String) (tokens : String → ℕ) (receipt : Value)
    (hdist : Uncollided taskId records) :
    usageOf text tokens taskId records ≤ usageOf text tokens taskId (records ++ [receipt]) ↔
      OneForOne text tokens taskId records receipt := by
  rw [OneForOne]
  cases hkind : isSubmission receipt && isV2 receipt with
  | false =>
    obtain ⟨new, hnew, hls⟩ := countedLines_other text taskId hkind
    refine iff_of_true ?_ nofun
    rw [usageOf, usageOf, hls]
    match new, hnew with
    | [], _ => simp [Usage.le_iff]
    | [line], _ =>
      rw [map_append, map_singleton, tally_append]
      split <;> simp [Usage.le_iff]
  | true =>
    obtain ⟨kept, hold, hcounts, hseen⟩ := usage_v2 text tokens hkind hdist
    rw [hold]
    generalize replaced text taskId records receipt = gone
    by_cases hfr : IsFresh records (v2Key receipt)
    · rw [hcounts hfr]
      match gone with
      | [] => simp [Usage.le_iff, total]
      | [line] => simp [Usage.le_iff, total, Entry.usage, hfr, entryAt]
      | first :: second :: others => simp [Usage.le_iff, dispatches_total]
    · rw [hseen hfr]
      match gone with
      | [] => simp [Usage.le_iff, total]
      | first :: others => simp [Usage.le_iff, dispatches_total, hfr]

end Append

end Valp.Dispatch
