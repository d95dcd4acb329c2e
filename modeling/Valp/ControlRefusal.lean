/-
A transition that is refused (`valp_cli/control_plane.py`).

The checks before the journal are fewer than those of the commit: what passes the first and not
the second leaves a journal that every later call finds, tries to carry out and fails with.

* `harmless_iff` — **when a refusal does no harm**.
-/
import Mathlib.Data.Fintype.EquivFin
import Valp.ControlRecords

namespace Valp.Control

open Json (Value)
open Dispatch (listOf)
open Durable
open Kernel (DocumentFile bind_eq_ok)
open Queue (exactInt)

/-! ### Failure records are not read -/

/-- Roots that differ in their failure records at most. -/
structure Agree (r r' : Root) : Prop where
  installation : r.installation = r'.installation
  state : r.state = r'.state
  journal : r.journal = r'.journal
  messages : r.messages = r'.messages
  events : r.events = r'.events

variable {state : Value} {target : Status}

section Agree

variable {r r' : Root}

theorem Agree.apply (w : Write) (h : Agree r r') : Agree (Root.apply w r) (Root.apply w r') := by
  cases w with
  | failure record => exact ⟨h.installation, h.state, h.journal, h.messages, h.events⟩
  | journal journal => exact .mk h.installation h.state rfl h.messages h.events
  | message message =>
    exact .mk h.installation h.state h.journal
      (congrArg (Ledgers.appendJsonl Json.codec · message) h.messages) h.events
  | event event =>
    exact .mk h.installation h.state h.journal h.messages
      (congrArg (Ledgers.appendJsonl Json.codec · event) h.events)
  | state state => exact .mk h.installation rfl h.journal h.messages h.events
  | installation installation => exact .mk rfl h.state h.journal h.messages h.events
  | settled => exact .mk h.installation h.state rfl h.messages h.events

theorem Agree.readMessages (h : Agree r r') : r.readMessages = r'.readMessages := by
  rw [Root.readMessages, Root.readMessages, h.messages]

theorem Agree.readEvents (h : Agree r r') : r.readEvents = r'.readEvents := by
  rw [Root.readEvents, Root.readEvents, h.events]

theorem Agree.requireInitialized (h : Agree r r') :
    r.requireInitialized = r'.requireInitialized := by
  rw [Root.requireInitialized, Root.requireInitialized, h.installation, h.state]

theorem Agree.readInstallation (h : Agree r r') : r.readInstallation = r'.readInstallation := by
  rw [Root.readInstallation, Root.readInstallation, h.requireInitialized, h.installation]

theorem Agree.readState (h : Agree r r') : r.readState = r'.readState := by
  rw [Root.readState, Root.readState, h.requireInitialized, h.state]

theorem Agree.findMessage (key : String) (h : Agree r r') :
    r.findMessage key = r'.findMessage key := by
  rw [Root.findMessage, Root.findMessage, h.readMessages]

theorem Agree.checkJournal {text : Json → String} {now : String} {journal : Value}
    (h : Agree r r') :
    Control.checkJournal text now journal r = Control.checkJournal text now journal r' := by
  rw [Control.checkJournal, Control.checkJournal, h.readMessages, h.readEvents, h.state]

theorem Agree.prepareJournal {args : Arguments} {world : World} (h : Agree r r') :
    Control.prepareJournal state args target world r =
      Control.prepareJournal state args target world r' := by
  rw [Control.prepareJournal, Control.prepareJournal, h.readMessages, h.readEvents,
    h.readInstallation]

end Agree

variable {record : Value}

section Respects

theorem respects_perform (w : Write) : Respects Agree (perform w) :=
  .write fun _ _ h => h.apply w

variable {name : String} {w : Write} {α : Type}

theorem respects_appendAtomic {file : Root → Option (List Char)}
    (hfile : ∀ r r', Agree r r' → file r = file r') :
    Respects Agree (appendAtomic name file record w) :=
  .bind (.observe fun r r' h => by rw [hfile r r' h]) fun _ => respects_perform w

theorem respects_carryOut (checked : Checked) : Respects Agree (carryOut checked) :=
  .bind (.onlyIf (respects_appendAtomic fun _ _ h => h.messages)) fun _ =>
    .bind (.onlyIf (respects_appendAtomic fun _ _ h => h.events)) fun _ =>
    .bind (.onlyIf (respects_perform _)) fun _ =>
    .bind (.observe fun _ _ h => h.readInstallation) fun _ =>
    .bind (.onlyIf (.bind (.lift _) fun _ => respects_perform _)) fun _ => respects_perform _

theorem respects_commit (text : Json → String) (now : String) (journal : Value) :
    Respects Agree (commitTransitionJournal text now journal) :=
  .bind (.observe fun _ _ h => h.checkJournal) respects_carryOut

theorem respects_recover (text : Json → String) (now : String) :
    Respects Agree (recoverTransition text now) := by
  intro r r' h
  rw [recoverTransition, recoverTransition, h.journal]
  split
  · exact Respects.bind (.lift _) (fun journal => respects_commit text now journal) r r' h
  · exact ⟨rfl, h⟩

theorem respects_refuseWith (world : World) (messageId : Value) (fault : Fault) :
    Respects Agree (refuseWith world messageId fault : Op α) := by
  cases fault with
  | python name => exact .lift _
  | control code message stateEffect =>
    exact .bind (.observe fun _ _ h => h.readInstallation) fun _ =>
      .bind (.observe fun _ _ h => by rw [h.state]) fun _ =>
      .bind (.lift _) fun _ => .bind (respects_perform _) fun _ => .lift _

/-- **A transition does not look at the failure records.** -/
theorem respects_transition (args : Arguments) (world : World) :
    Respects Agree (transitionUnlocked args world) := by
  refine .bind (.observe fun _ _ h => h.requireInitialized) fun _ =>
    .bind (respects_recover _ _) fun _ => .bind (.observe fun _ _ h => h.findMessage _) ?_
  rintro (_ | existing)
  · refine .bind (.observe fun _ _ h => h.readState) fun state => ?_
    split
    · exact respects_refuseWith _ _ _
    · refine .bind (.observe fun _ _ h => h.prepareJournal) fun j => .bind (respects_perform _)
        fun _ => .bind (respects_commit _ _ _) fun _ => .pure _
  · dsimp only
    split
    · exact .pure _
    · exact respects_refuseWith _ _ _

end Respects

/-! ### Carrying out a journal -/

def Closed (file : Option (List Char)) : Prop :=
  file.getD [] ≠ [] → (file.getD []).getLast? = some '\n'

section Append

variable {file : Root → Option (List Char)} {root : Root}

theorem appendAtomic_closed (h : Closed (file root)) :
    Completes Root.apply (appendAtomic name file record w) root () [w] := by
  refine .seq (a := some ((file root).getD [] ++ (Json.codec.dumps true record ++ ['\n'])))
    (.observe ?_) (.write w root)
  rw [Ledgers.appendJsonlAtomic, if_neg fun hopen => hopen.2 (h hopen.1)]
  rfl

theorem appendAtomic_open (name : String) (record : Value) (w : Write)
    (h : ¬ Closed (file root)) :
    ∃ fault, appendAtomic name file record w root = (.error fault, []) := by
  rw [Closed, Classical.not_imp] at h
  refine ⟨_, bind_of_error (e := inconsistent ("Cannot append to truncated " ++ name)) ?_⟩
  rw [observe_apply, Ledgers.appendJsonlAtomic, if_pos h]
  rfl

end Append

def size (file : Option (List Char)) : ℕ := (file.getD []).length

theorem size_appendJsonl {file : Option (List Char)} :
    size file < size (Ledgers.appendJsonl Json.codec file record) := by
  simp [size, Ledgers.appendJsonl, JsonLines.append]

def writesOf (c : Checked) (installation : Value) : List Write :=
  (if !c.messageRecorded then [.message c.records.message] else []) ++
    ((if !c.eventRecorded then [.event c.records.event] else []) ++
    ((if !c.persisted.equal c.records.nextState then [.state c.records.nextState] else []) ++
    ((if !installation.equal c.records.installation then
      [.installation c.records.installation] else []) ++ [.settled])))

theorem behind_writesOf {c : Checked} (h : c.persisted.equal c.records.nextState = false)
    (installation : Value) (root : Root) :
    ((writesOf c installation).foldl (fun d w => Root.apply w d) root).state =
        .document c.records.nextState ∧
      ((writesOf c installation).foldl (fun d w => Root.apply w d) root).journal = .missing := by
  rw [writesOf, h, Bool.not_false, if_pos rfl]
  split <;> split <;> split <;> exact ⟨rfl, rfl⟩

theorem readJson_eq_ok {name : String} {file : DocumentFile Value} {v : Value} :
    readJson name file = .ok v ↔ file = .document v ∧ v.isObject := by
  cases file with
  | document w =>
    rw [readJson, DocumentFile.document.injEq]
    split
    · rename_i hw
      exact ⟨fun h => ⟨Except.ok.inj h, Except.ok.inj h ▸ hw⟩, fun h => congrArg _ h.1⟩
    · rename_i hw
      exact iff_of_false nofun fun h => hw (h.1 ▸ h.2)
  | missing => simp [readJson]
  | malformed => simp [readJson]

theorem readInstallation_eq_ok {root : Root} :
    root.readInstallation = .ok installation ↔ present root.state ∧
      root.installation = .document installation ∧ installation.isObject := by
  rw [Root.readInstallation, Root.requireInitialized]
  simp only [Kernel.bind_eq_ok, require_eq_ok, exists_const, Bool.and_eq_true, readJson_eq_ok]
  refine ⟨fun h => ⟨h.1.2, h.2⟩, fun h => ⟨⟨?_, h.1⟩, h.2⟩⟩
  rw [h.2.1]
  rfl

/-- **A journal that was checked is carried out.** -/
theorem carryOut_completes {c : Checked} {root : Root}
    (hmsgs : c.messageRecorded = false → Closed root.messages)
    (hevs : c.eventRecorded = false → Closed root.events)
    (hinst : root.readInstallation = .ok installation)
    (hid : (installation.get "installation_id").equal
      (c.records.installation.get "installation_id")) :
    Completes Root.apply (carryOut c) root () (writesOf c installation) := by
  refine .bind (.onlyIf fun h =>
    appendAtomic_closed (hmsgs (by simpa using h))) ?_
  generalize hroot1 : List.foldl _ root _ = root1
  have hfst : root1.events = root.events ∧ root1.readInstallation = .ok installation := by
    rw [← hroot1]
    split <;> exact ⟨rfl, hinst⟩
  refine .bind (.onlyIf fun h =>
    appendAtomic_closed (hfst.1 ▸ hevs (by simpa using h))) ?_
  generalize hroot2 : List.foldl _ root1 _ = root2
  have hsnd : root2.readInstallation = .ok installation := by
    rw [← hroot2]
    split <;> exact hfst.2
  refine .bind (.onlyIf fun _ => .write _ root2) ?_
  generalize hroot3 : List.foldl _ root2 _ = root3
  have hthird : root3.readInstallation = .ok installation := by
    rw [← hroot3]
    split
    · exact readInstallation_eq_ok.mpr ⟨rfl, (readInstallation_eq_ok.mp hsnd).2⟩
    · exact hsnd
  refine .seq (.observe hthird) (.bind (.onlyIf fun _ =>
    .seq (a := ()) (.lift (require_eq_ok.mpr hid)) (.write _ root3)) ?_)
  exact .write _ _

variable {j : Journal}

/-- A ledger with an open last line stops the commit, behind the message at most. -/
theorem carryOut_open {persisted : Value} {root : Root}
    (h : ¬ (Closed root.messages ∧ Closed root.events)) :
    ∃ fault ws, carryOut ⟨j, false, false, persisted⟩ root =
        (.error fault, trail Root.apply root ws) ∧ (ws = [] ∨ ws = [.message j.message]) := by
  by_cases hmsgs : Closed root.messages
  · have hevs : ¬ Closed (Root.apply (.message j.message) root).events := fun hevs =>
      h ⟨hmsgs, hevs⟩
    have hfst : Completes Root.apply (onlyIf (!false) (appendAtomic "messages.jsonl"
        Root.messages j.message (.message j.message))) root () [.message j.message] :=
      appendAtomic_closed hmsgs
    obtain ⟨fault, hsnd⟩ := appendAtomic_open "events.jsonl" j.event (.event j.event) hevs
    refine ⟨fault, [.message j.message], ?_, .inr rfl⟩
    rw [carryOut, hfst.bind_error (bind_of_error hsnd), List.append_nil]
  · obtain ⟨fault, hfail⟩ := appendAtomic_open "messages.jsonl" j.message (.message j.message)
      hmsgs
    exact ⟨fault, [], bind_of_error hfail, .inl rfl⟩

section Commit

variable {text text' : Json → String} {now now' : String} {journal : Value} {root : Root}
  {c c' : Checked}

theorem checkJournal_unique (h : checkJournal text now journal root = .ok c)
    (h' : checkJournal text' now' journal root = .ok c') :
    c = c' ∧ root.state = .document c.persisted := by
  simp only [checkJournal, Kernel.bind_eq_ok, Except.ok.injEq] at h h'
  obtain ⟨j, hj, _, -, messages, hmsgs, mr, hmr, _, -, events, hevs, er, her, _, -, persisted, hsta,
    _, -, _, -, rfl⟩ := h
  obtain ⟨j', hj', _, -, messages', hmsgs', mr', hmr', _, -, events', hevs', er', her', _, -,
    persisted', hsta', _, -, _, -, rfl⟩ := h'
  cases hj.symm.trans hj'
  cases hmsgs.symm.trans hmsgs'
  cases hmr.symm.trans hmr'
  cases hevs.symm.trans hevs'
  cases her.symm.trans her'
  cases hsta.symm.trans hsta'
  exact ⟨rfl, (readJson_eq_ok.mp hsta).1⟩

theorem commit_of_ok (h : checkJournal text now journal root = .ok c) :
    commitTransitionJournal text now journal root = carryOut c root :=
  bind_of_pure (by rw [observe_apply, h])

end Commit

/-! ### The checks of a journal -/

theorem openJournal_journalOf (hmsg : j.message.isObject)
    (hev : j.event.isObject) (hsta : j.nextState.isObject)
    (hinst : j.installation.isObject) : openJournal (journalOf j) = .ok j := by
  have hget : ∀ {k v}, (k, v) ∈ journalFields j → (journalOf j).get k = v := fun h => by
    rw [journalOf]
    exact get_sealed h
  have hdig : (journalOf j).get "journal_digest" =
      .str (digestWithout (journalOf j) "journal_digest") := by
    rw [journalOf]
    exact sealed_digest
  have hver := hget (k := "schema_version") (v := .str "valp-transition-journal.v1")
    (by simp [journalFields])
  have hm := hget (k := "message") (v := j.message) (by simp [journalFields])
  have he := hget (k := "event") (v := j.event) (by simp [journalFields])
  have hs := hget (k := "next_state") (v := j.nextState) (by simp [journalFields])
  have hi := hget (k := "installation") (v := j.installation) (by simp [journalFields])
  generalize journalOf j = journal at hdig hver hm he hs hi
  simp only [openJournal, hver, hdig, hm, he, hs, hi, Value.equal_self, hmsg, hev, hsta, hinst]
  rfl

/-- A name that no record of the ledger has. -/
def Unused (records : List Value) (field : String) (id : Value) : Prop :=
  ∀ record ∈ records, (record.get field).equal id = false

theorem recorded_unused {noun field : String} {records : List Value}
    (hhas : record.has field) (h : Unused records field (record.get field)) :
    recorded noun field record records = .ok false := by
  have hfnd : matchingRecords field record records = .ok [] := by
    rw [matchingRecords]
    split
    · rfl
    rw [item, if_pos hhas]
    refine congrArg Except.ok (List.filter_eq_nil_iff.mpr fun other hoth => ?_)
    rw [h other hoth]
    exact Bool.false_ne_true
  rw [recorded, hfnd]
  rfl

theorem legalTargets_eq_ok {status : Value} {legal : List Status}
    (h : legalTargets status = .ok legal) : legal = legalFrom status := by
  rw [legalTargets] at h
  split at h
  · cases h
  · cases h
  · exact (Except.ok.inj h).symm

theorem item_eq_ok {v w : Value} {k : String} :
    item v k = .ok w ↔ v.has k ∧ v.get k = w := by
  rw [item]
  split
  · rename_i hhas
    exact ⟨fun h => ⟨hhas, Except.ok.inj h⟩, fun h => congrArg _ h.2⟩
  · rename_i hhas
    exact iff_of_false nofun fun h => hhas h.1

theorem targetOf_eq_ok {text : Json → String} {targetStatus : String}
    (h : targetOf text state targetStatus = .ok target) :
    targetStatus = target.name ∧ target ∈ legalFrom (state.get "status") := by
  rw [targetOf] at h
  obtain ⟨status, hst, h⟩ := bind_eq_ok.mp h
  obtain ⟨-, rfl⟩ := item_eq_ok.mp hst
  split at h
  · cases h
  rename_i found hfnd
  obtain ⟨legal, hlegal, h⟩ := bind_eq_ok.mp h
  obtain rfl := legalTargets_eq_ok hlegal
  split at h
  · rename_i hmem
    cases h
    exact ⟨Status.ofName?_eq_some.mp hfnd, List.contains_iff_mem.mp hmem⟩
  · cases h

theorem checkTransition_eq_ok {text : Json → String} {args : Arguments}
    (h : checkTransition text state args = .ok target) :
    state.has "revision" = true ∧ args.expectedRevision.equal (state.get "revision") ∧
      validateEpoch state args.messageKind args.epoch = .ok () ∧
      args.targetStatus = target.name ∧ target ∈ legalFrom (state.get "status") := by
  rw [checkTransition] at h
  obtain ⟨revision, hrev, h⟩ := bind_eq_ok.mp h
  obtain ⟨hhas, rfl⟩ := item_eq_ok.mp hrev
  split at h
  · cases h
  · rename_i hexp
    obtain ⟨⟨⟩, hep, h⟩ := bind_eq_ok.mp h
    exact ⟨hhas, by simpa using hexp, hep, targetOf_eq_ok h⟩

/-- What a transition reads before it writes its journal. -/
structure Reading where
  raw : Value
  target : Status
  next : Value
  installation : Value
  messages : List Value
  events : List Value

/-- **The call gets as far as its journal**: what it reads passes the checks that are made by
then. -/
structure Proceeds (root : Root) (args : Arguments) (world : World) (r : Reading) : Prop where
  state : root.state = .document r.raw
  object : r.raw.isObject = true
  digest : (r.raw.get "projection_digest").equal (.str (stateDigest r.raw)) = true
  new : r.messages.find? (fun m =>
    (m.get "idempotency_key").equal (.str args.idempotencyKey)) = none
  checked : checkTransition world.text (authorityView r.raw) args = .ok r.target
  next : nextState (authorityView r.raw) args r.target world = .ok r.next
  installed : (authorityView r.raw).has "installation_id" = true
  messages : root.readMessages = .ok r.messages
  events : root.readEvents = .ok r.events
  installation : root.readInstallation = .ok r.installation

/-- **The files fit each other**, as the commit asks for. -/
structure Ready (root : Root) (r : Reading) : Prop where
  revision : (exactInt (r.raw.get "revision")).isSome = true
  link : r.raw.has "last_event_digest" = true
  chain : (r.raw.get "last_event_digest").equal (priorDigestIn false r.events) = true
  installation : (r.installation.get "installation_id").equal (r.raw.get "installation_id") = true
  messages : Closed root.messages
  events : Closed root.events

/-- The new names are not in the ledgers. -/
structure Fresh (root : Root) (world : World) : Prop where
  messages : ∀ records, root.readMessages = .ok records →
    Unused records "message_id" (.str world.messageId)
  events : ∀ records, root.readEvents = .ok records → Unused records "event_id" (.str world.eventId)

def recordsOf (args : Arguments) (world : World) (r : Reading) : Journal :=
  transitionRecords (authorityView r.raw) args world r.next r.installation r.messages.length
    r.events.length

theorem exists_nextState {args : Arguments} (world : World)
    (hrev : nextRevision state = .ok n)
    (hblockers : ∃ b, blockersOf args.eventKind args.payload = .ok b) :
    ∃ next, nextState state args target world = .ok next := by
  obtain ⟨b, hb⟩ := hblockers
  have hwith : ∀ v, ∃ w, withBlockers args target v = .ok w := by
    intro v
    rw [withBlockers, hb]
    split
    · exact ⟨_, rfl⟩
    · split <;> exact ⟨_, rfl⟩
  rw [nextState, hrev]
  obtain ⟨w, hw⟩ := hwith (protectedFields.foldl (copyField args.payload)
    (movedState state args world n))
  exact ⟨w.set "projection_digest" (.str (stateDigest w)), bind_eq_ok.mpr ⟨n, rfl,
    bind_eq_ok.mpr ⟨w, hw, rfl⟩⟩⟩

section Commit

variable {root : Root} {args : Arguments} {world : World} {r : Reading}

section

variable (h : Proceeds root args world r)

include h

theorem Proceeds.built : Next (authorityView r.raw) args r.target world r.next ∧
      Built (authorityView r.raw) args world r.next r.installation r.messages.length
        r.events.length (recordsOf args world r) := by
  have hnext := next_of_eq_ok (isObject_authorityView h.object) h.next
  exact ⟨hnext, Control.built hnext⟩

/-- **What the commit of a new journal asks for.** -/
theorem Proceeds.check_iff (hfr : Fresh root world)
    (text : Json → String) (now : String) (journal : DocumentFile Value) {c : Checked} :
    checkJournal text now (journalOf (recordsOf args world r)) { root with journal := journal } =
        .ok c ↔
      c = ⟨recordsOf args world r, false, false, r.raw⟩ ∧
        (exactInt (r.raw.get "revision")).isSome = true ∧
        (r.installation.get "installation_id").equal (r.raw.get "installation_id") = true ∧
        r.raw.has "last_event_digest" = true ∧
        (r.raw.get "last_event_digest").equal (priorDigestIn false r.events) = true ∧
        ∃ kind, Suits r.raw args kind := by
  obtain ⟨hnext, hj⟩ := h.built
  obtain ⟨-, hinst, hiobject⟩ := readInstallation_eq_ok.mp h.installation
  obtain ⟨-, hexp, -, htgt, hlegal⟩ := checkTransition_eq_ok h.checked
  have hview := @get_authorityView _ h.object
  have hopen := openJournal_journalOf hj.message_object hj.event_object (hj.state_object hnext)
    (hj.installation_object hiobject)
  generalize recordsOf args world r = j at hj hopen
  have hconsistent := hj.consistent_iff hnext hiobject hexp
  rw [hview (by decide), hview (by decide), has_authorityView h.object (by decide)] at hconsistent
  rw [hview (by decide)] at hlegal
  have hlawful : ∀ kind, Lawful false kind j.message j.event j.projection r.raw ↔
      Suits r.raw args kind := fun _ => hj.lawful_iff h.object hnext htgt hlegal
  have hmid : j.message.get "message_id" = .str world.messageId :=
    hj.message (by simp [messageFields])
  have heid : j.event.get "event_id" = .str world.eventId := hj.event (by simp [eventFields])
  have hmsg : recorded "message" "message_id" j.message r.messages = .ok false :=
    recorded_unused (Option.isSome_of_eq_some (member?_of_get hmid))
      (hmid ▸ hfr.messages _ h.messages)
  have hev : recorded "event" "event_id" j.event r.events = .ok false :=
    recorded_unused (Option.isSome_of_eq_some (member?_of_get heid))
      (heid ▸ hfr.events _ h.events)
  have hmsequence : j.message.get "installation_sequence" =
      .int (sequenceIn false r.messages) := hj.message (by simp [messageFields, sequenceIn])
  have hesequence : j.event.get "installation_sequence" = .int (sequenceIn false r.events) :=
    hj.event (by simp [eventFields, sequenceIn])
  have hlink : j.event.get "prior_event_digest" = r.raw.get "last_event_digest" := by
    rw [← hview (by decide)]
    exact hj.event (by simp [eventFields])
  have hpr : priorState text now j false r.events r.raw = .ok r.raw := by
    have hrev : j.event.get "prior_revision" = r.raw.get "revision" := by
      rw [← hview (by decide)]
      exact hj.event (by simp [eventFields])
    rw [priorState, hrev, if_pos (Value.equal_self _)]
  have hsta : readJson "state.json" root.state = .ok r.raw := by
    rw [h.state, readJson, if_pos h.object]
  have hmsgs : Root.readMessages { root with journal := journal } = .ok r.messages := h.messages
  have hevs : Root.readEvents { root with journal := journal } = .ok r.events := h.events
  -- Every file is read as the call read it; the comparisons are what is left.
  simp only [checkJournal, hopen, hmsgs, hmsg, hevs, hev, hsta, hpr,
    Kernel.Decode.ok_bind, Kernel.bind_eq_ok, require_eq_ok, Bool.and_eq_true,
    hmsequence, hesequence, Value.equal_self, hlink, hconsistent, Unique.exists_iff,
    PUnit.default_eq_unit, lawful_iff, hlawful, Except.ok.injEq, true_and, eq_comm (a := c)]
  tauto

/-- **A new journal is carried out** if the files fit each other and the arguments suit them. -/
theorem Proceeds.commit_completes (hfr : Fresh root world)
    (hrdy : Ready root r) (hsuits : Suits r.raw args kind)
    (text : Json → String) (now : String) (journal : DocumentFile Value) :
    Completes Root.apply (commitTransitionJournal text now (journalOf (recordsOf args world r)))
      { root with journal := journal } ()
      (writesOf ⟨recordsOf args world r, false, false, r.raw⟩ r.installation) := by
  have hchk := (h.check_iff hfr text now journal).mpr ⟨rfl, hrdy.revision,
    hrdy.installation, hrdy.link, hrdy.chain, kind, hsuits⟩
  obtain ⟨-, -, hiobject⟩ := readInstallation_eq_ok.mp h.installation
  refine .seq (.observe hchk) (carryOut_completes (fun _ => hrdy.messages)
    (fun _ => hrdy.events) h.installation ?_)
  obtain ⟨-, hj⟩ := h.built
  rw [(hj.get_installation hiobject).1]
  exact Value.equal_self _

theorem Proceeds.commit_fails (hfr : Fresh root world)
    (hno : ¬ (Ready root r ∧ ∃ kind, Suits r.raw args kind))
    (text : Json → String) (now : String) (journal : DocumentFile Value) :
    ∃ fault ws, commitTransitionJournal text now (journalOf (recordsOf args world r))
        { root with journal := journal } =
          (.error fault, trail Root.apply { root with journal := journal } ws) ∧
      (ws = [] ∨ ws = [.message (recordsOf args world r).message]) := by
  cases hchk : checkJournal text now (journalOf (recordsOf args world r))
      { root with journal := journal } with
  | error fault =>
    exact ⟨fault, [], bind_of_error (by rw [observe_apply, hchk]; rfl), .inl rfl⟩
  | ok c =>
    obtain ⟨rfl, hint, hid, hhas, hch, hsuits⟩ := (h.check_iff hfr text now journal).mp hchk
    rw [commit_of_ok hchk]
    refine carryOut_open fun hclosed => hno ⟨?_, hsuits⟩
    exact ⟨hint, hhas, hch, hid, hclosed.1, hclosed.2⟩

end

end Commit

/-! ### A call -/

section Call

variable {root : Root} {args : Arguments} {world : World} {r : Reading}

theorem readState_eq_ok : root.readState = .ok state ↔
    present root.installation ∧ ∃ raw, root.state = .document raw ∧ raw.isObject ∧
      (raw.get "projection_digest").equal (.str (stateDigest raw)) ∧
      state = authorityView raw := by
  rw [Root.readState, Root.requireInitialized]
  simp only [Kernel.bind_eq_ok, require_eq_ok, exists_const, Bool.and_eq_true, readJson_eq_ok,
    ite_eq_iff, reduceCtorEq, and_false, or_false, Except.ok.injEq, and_assoc,
    eq_comm (b := state)]
  refine and_congr_right fun _ => ⟨fun h => h.2, fun h => ⟨?_, h⟩⟩
  obtain ⟨raw, hraw, -⟩ := h
  rw [hraw]
  rfl

theorem prepareJournal_eq_ok : prepareJournal state args target world root = .ok j ↔
      ∃ next messages events installation, nextState state args target world = .ok next ∧
        state.has "installation_id" = true ∧ root.readMessages = .ok messages ∧
        root.readEvents = .ok events ∧ root.readInstallation = .ok installation ∧
        j = transitionRecords state args world next installation messages.length
          events.length := by
  simp only [prepareJournal, Kernel.bind_eq_ok, item_eq_ok, Except.ok.injEq, eq_comm (b := j)]
  grind

theorem recover_missing (hj : root.journal = .missing) (text : Json → String)
    (now : String) : recoverTransition text now root = (.ok (), []) := by
  rw [recoverTransition, hj]
  rfl

/-- A write that no transition reads. -/
def IsFailure (_ : Root) (w : Write) : Prop := ∃ record, w = .failure record

theorem refuseWith_ensures {Q : α → Root → Prop} (messageId : Value) (fault : Fault) :
    Ensures Root.apply IsFailure (refuseWith world messageId fault : Op α) root Q := by
  cases fault with
  | python name => exact .fail _
  | control code message stateEffect =>
    exact .observe_bind fun _ _ => .observe_bind fun _ _ =>
      .lift_bind fun _ _ => .write_bind ⟨_, rfl⟩ (.fail _)

/-- A call that does not get as far as its journal writes failure records only, and returns only
if its key is known. -/
theorem transition_stops (hj : root.journal = .missing)
    (hno : ∀ r, ¬ Proceeds root args world r) :
    Ensures Root.apply IsFailure (transitionUnlocked args world) root fun _ _ =>
      ∃ existing, root.findMessage args.idempotencyKey = .ok (some existing) := by
  refine .observe_bind fun _ _ => ?_
  refine .bind (Q := fun _ d => root = d) ⟨?_, fun _ _ => ?_⟩ ?_
  · rw [recover_missing hj]
    trivial
  · rw [recover_missing hj]
    rfl
  rintro _ _ rfl
  refine .observe_bind ?_
  rintro (_ | existing) hfnd
  · refine .observe_bind fun state hsta => ?_
    split
    · exact refuseWith_ensures _ _
    rename_i target htgt
    refine .observe_bind fun j hprepare => ?_
    -- everything that leads to a journal was passed
    obtain ⟨next, messages, events, installation, hnext, hhas, hmsgs, hevs,
      hinst, -⟩ := prepareJournal_eq_ok.mp hprepare
    obtain ⟨-, raw, hraw, hobj, hdig, rfl⟩ := readState_eq_ok.mp hsta
    have hnew : messages.find? (fun m =>
        (m.get "idempotency_key").equal (.str args.idempotencyKey)) = none := by
      rw [Root.findMessage, hmsgs] at hfnd
      exact Except.ok.inj hfnd
    exact absurd ⟨hraw, hobj, hdig, hnew, htgt, hnext, hhas, hmsgs, hevs,
      hinst⟩ (hno ⟨raw, target, next, installation, messages, events⟩)
  · dsimp only
    split
    · exact .pure ⟨existing, hfnd⟩
    · exact refuseWith_ensures _ _

theorem agree_of_failures {writes done : List (Write × Root)}
    (h : Follows Root.apply IsFailure root writes) (hdone : done <+: writes) :
    Agree root (last root done) := by
  refine h.keeps (I := fun d _ => Agree root d) ?_ [] ⟨rfl, rfl, rfl, rfl, rfl⟩ hdone
  rintro d _ _ hagree ⟨record, rfl⟩
  exact ⟨hagree.installation, hagree.state, hagree.journal, hagree.messages, hagree.events⟩

/-- **A call that gets as far as its journal** writes it and carries it out. -/
theorem Proceeds.transition_eq (h : Proceeds root args world r)
    (hj : root.journal = .missing) : transitionUnlocked args world root =
      (do perform (.journal (journalOf (recordsOf args world r)))
          commitTransitionJournal world.text world.recoveredAt
            (journalOf (recordsOf args world r))
          pure ((recordsOf args world r).message.get "result") : Op Value) root := by
  obtain ⟨hpres, hinst, -⟩ := readInstallation_eq_ok.mp h.installation
  have hinitialized : root.requireInitialized = .ok () := by
    rw [Root.requireInitialized, hpres, hinst]
    rfl
  have hfnd : root.findMessage args.idempotencyKey = .ok none := by
    rw [Root.findMessage, h.messages]
    exact congrArg Except.ok h.new
  have hsta : root.readState = .ok (authorityView r.raw) :=
    readState_eq_ok.mpr ⟨by rw [hinst]; rfl, r.raw, h.state, h.object, h.digest, rfl⟩
  have hprepare : prepareJournal (authorityView r.raw) args r.target world root =
      .ok (recordsOf args world r) :=
    prepareJournal_eq_ok.mpr ⟨r.next, r.messages, r.events, r.installation, h.next, h.installed,
      h.messages, h.events, h.installation, rfl⟩
  generalize recordsOf args world r = j at hprepare
  rw [transitionUnlocked, bind_of_pure (a := ()) (by rw [observe_apply, hinitialized]),
    bind_of_pure (a := ()) (recover_missing hj _ _),
    bind_of_pure (a := none) (by rw [observe_apply, hfnd])]
  dsimp only
  rw [bind_of_pure (a := authorityView r.raw) (by rw [observe_apply, hsta]), h.checked]
  dsimp only
  rw [bind_of_pure (a := j) (by rw [observe_apply, hprepare])]

theorem Proceeds.accepted (h : Proceeds root args world r) (hj : root.journal = .missing)
    (hfr : Fresh root world) (hrdy : Ready root r)
    (hsuits : Suits r.raw args kind) :
    Completes Root.apply (transitionUnlocked args world) root
      ((recordsOf args world r).message.get "result")
      (.journal (journalOf (recordsOf args world r)) ::
        writesOf ⟨recordsOf args world r, false, false, r.raw⟩ r.installation) := by
  have hcom := h.commit_completes hfr hrdy hsuits world.text world.recoveredAt
    (.document (journalOf (recordsOf args world r)))
  have heq := h.transition_eq hj
  generalize recordsOf args world r = j at hcom heq
  rw [Completes, heq, ← Completes]
  have hwrite : Completes Root.apply (perform (.journal (journalOf j))) root ()
      [.journal (journalOf j)] := Completes.write _ _
  refine hwrite.bind ?_
  have hend := Completes.bind hcom (f := fun _ => pure (j.message.get "result"))
    (Completes.pure _ _)
  rwa [List.append_nil] at hend

/-- The writes of a call that gets as far as its journal: the message is the first one behind
it. -/
theorem Proceeds.writes (h : Proceeds root args world r) (hj : root.journal = .missing)
    (hfr : Fresh root world) : ∃ labels, (transitionUnlocked args world root).2 =
      trail Root.apply root (.journal (journalOf (recordsOf args world r)) :: labels) ∧
        (labels = [] ∨ ∃ message rest, labels = .message message :: rest) ∧
        ((Ready root r ∧ ∃ kind, Suits r.raw args kind) ∨
          ∃ fault, (transitionUnlocked args world root).1 = .error fault) := by
  by_cases hgood : Ready root r ∧ ∃ kind, Suits r.raw args kind
  · obtain ⟨hrdy, kind, hsuits⟩ := hgood
    have hcompl := h.accepted hj hfr hrdy hsuits
    exact ⟨_, congrArg Prod.snd hcompl, .inr ⟨_, _, rfl⟩, .inl ⟨hrdy, kind, hsuits⟩⟩
  · obtain ⟨fault, ws, hcom, hws⟩ := h.commit_fails hfr hgood world.text world.recoveredAt
      (.document (journalOf (recordsOf args world r)))
    have hcall := h.transition_eq hj
    generalize recordsOf args world r = j at hcom hws hcall
    have hwrite : Completes Root.apply (perform (.journal (journalOf j))) root ()
        [.journal (journalOf j)] := .write _ _
    rw [hcall, hwrite.bind_error (bind_of_error hcom)]
    exact ⟨ws, rfl, hws.imp id fun h => ⟨_, _, h⟩, .inr ⟨fault, rfl⟩⟩

end Call

/-! ### The files that a call changes -/

/-- A write of a ledger, of the state or of the installation. -/
def Write.moves : Write → Bool
  | .message _ | .event _ | .state _ | .installation _ => true
  | .failure _ | .journal _ | .settled => false

/-- A failure record, or the end of a journal. -/
def Write.quiet : Write → Bool
  | .failure _ | .settled => true
  | _ => false

/-- A document that is written is not what it was when the call began, or there are more messages
than there were. -/
def Meant (root d : Root) : Write → Prop
  | .state v => size root.messages < size d.messages ∨ root.state ≠ .document v
  | .installation v => size root.messages < size d.messages ∨ root.installation ≠ .document v
  | _ => True

/-- A write that carries out a journal, while the journal is there. -/
def Commits (root d : Root) (w : Write) : Prop :=
  Meant root d w ∧ present d.journal ∧ (w.moves ∨ w = .settled)

/-- A document or a ledger is not what it was. -/
def Moved (root d : Root) : Prop :=
  size root.messages < size d.messages ∨ size root.events < size d.events ∨
    d.state ≠ root.state ∨ d.installation ≠ root.installation

/-- Documents and ledgers are as they were. -/
structure Same (root d : Root) : Prop where
  messages : d.messages = root.messages
  events : d.events = root.events
  state : d.state = root.state
  installation : d.installation = root.installation

theorem Same.not_moved {root d : Root} (h : Same root d) : ¬ Moved root d := by
  rw [Moved, h.messages, h.events, h.state, h.installation]
  simp

section Stop

variable {root d : Root} {args : Arguments} {world : World} {r : Reading}
  {writes done ws : List (Write × Root)} {text text' : Json → String} {now now' : String}

/-- **A call has changed a file exactly if it has written one.** -/
theorem moved_or_same (h : Follows Root.apply (Meant root) root writes) (hdone : done <+: writes) :
    size root.messages ≤ size (last root done).messages ∧
      ((∃ w ∈ done.map Prod.fst, w.moves) → Moved root (last root done)) ∧
      ((∀ w ∈ done.map Prod.fst, w.moves = false) → Same root (last root done)) := by
  refine (h.keeps (I := fun d labels => size root.events ≤ size d.events ∧
    size root.messages ≤ size d.messages ∧ ((∃ w ∈ labels, w.moves) → Moved root d) ∧
      ((∀ w ∈ labels, w.moves = false) → Same root d)) ?_ []
    ⟨le_rfl, le_rfl, by simp, fun _ => ⟨rfl, rfl, rfl, rfl⟩⟩ hdone).2
  rintro d labels w ⟨hevs, hmsgs, hmov, hsame⟩ hmeant
  have hlabels : w.moves = false →
      ((∃ v ∈ labels ++ [w], v.moves) → ∃ v ∈ labels, v.moves) := by
    rintro hw ⟨v, hv, hmoves⟩
    rcases List.mem_append.mp hv with hv | hv
    · exact ⟨v, hv, hmoves⟩
    · rw [List.mem_singleton.mp hv, hw] at hmoves
      cases hmoves
  have hlast : w.moves = true → ¬ ∀ v ∈ labels ++ [w], v.moves = false := fun hw hall => by
    rw [hall w (by simp)] at hw
    cases hw
  have hless : (∀ v ∈ labels ++ [w], v.moves = false) → Same root d :=
    fun hall => hsame fun v hv => hall v (List.mem_append_left _ hv)
  cases w with
  | failure _ => exact ⟨hevs, hmsgs, fun h => hmov (hlabels rfl h), fun h =>
      ⟨(hless h).messages, (hless h).events, (hless h).state, (hless h).installation⟩⟩
  | journal _ => exact ⟨hevs, hmsgs, fun h => hmov (hlabels rfl h), fun h =>
      ⟨(hless h).messages, (hless h).events, (hless h).state, (hless h).installation⟩⟩
  | settled => exact ⟨hevs, hmsgs, fun h => hmov (hlabels rfl h), fun h =>
      ⟨(hless h).messages, (hless h).events, (hless h).state, (hless h).installation⟩⟩
  | message m =>
    have hlonger : size root.messages < size (Root.apply (.message m) d).messages :=
      hmsgs.trans_lt size_appendJsonl
    exact ⟨hevs, hlonger.le, fun _ => .inl hlonger, fun h => (hlast rfl h).elim⟩
  | event e =>
    have hlonger : size root.events < size (Root.apply (.event e) d).events :=
      hevs.trans_lt size_appendJsonl
    exact ⟨hlonger.le, hmsgs, fun _ => .inr (.inl hlonger), fun h => (hlast rfl h).elim⟩
  | state _ =>
    exact ⟨hevs, hmsgs, fun _ => hmeant.imp id fun h => .inr (.inl h.symm),
      fun h => (hlast rfl h).elim⟩
  | installation _ =>
    exact ⟨hevs, hmsgs, fun _ => hmeant.imp id fun h => .inr (.inr h.symm),
      fun h => (hlast rfl h).elim⟩

/-- The documents are those that the journal was checked against, or there are more messages than
there were. -/
def Found (root : Root) (c : Checked) (d : Root) : Prop :=
  present d.journal ∧ (size root.messages < size d.messages ∨
    root.state = .document c.persisted ∧ d.installation = root.installation)

/-- The writes that carry out a journal: for a new message, or for a journal that was found. -/
theorem carryOut_commits {c : Checked} (hj : present d.journal)
    (hmsgs : size root.messages ≤ size d.messages)
    (h : c.messageRecorded = false ∨
      root.state = .document c.persisted ∧ d.installation = root.installation) :
    Ensures Root.apply (Commits root) (carryOut c) d fun _ d' => d'.journal = .missing := by
  have hne : ∀ {v w : Value}, (!v.equal w) = true → DocumentFile.document v ≠ .document w := by
    rintro v w hdiff heq
    rw [DocumentFile.document.inj heq, Value.equal_self] at hdiff
    cases hdiff
  refine .bind (Q := fun _ => Found root c) (.onlyIf (fun _ => .observe_bind fun _ _ =>
    .write ⟨trivial, hj, .inl rfl⟩ ⟨hj, .inl (hmsgs.trans_lt size_appendJsonl)⟩)
      fun hrecd => ⟨hj, .inr (h.resolve_left ?_)⟩) ?_
  · intro hnew
    rw [hnew] at hrecd
    cases hrecd
  rintro - d ⟨hj, h⟩
  refine .bind (Q := fun _ => Found root c) (.onlyIf (fun _ => .observe_bind fun _ _ =>
    .write ⟨trivial, hj, .inl rfl⟩ ⟨hj, h⟩) fun _ => ⟨hj, h⟩) ?_
  rintro - d ⟨hj, h⟩
  refine .bind (Q := fun _ d => present d.journal ∧ (size root.messages < size d.messages ∨
    d.installation = root.installation)) (.onlyIf (fun hdiff => .write
      ⟨?_, hj, .inl rfl⟩ ⟨hj, h.imp id And.right⟩)
      fun _ => ⟨hj, h.imp id And.right⟩) ?_
  · refine h.imp id fun hfnd => ?_
    rw [hfnd.1]
    exact hne hdiff
  rintro - d ⟨hj, h⟩
  refine .observe_bind fun installation hread => ?_
  obtain ⟨-, hinst, -⟩ := readInstallation_eq_ok.mp hread
  refine .bind (Q := fun _ d => present d.journal) (.onlyIf (fun hdiff => .lift_bind fun _ _ =>
    .write ⟨?_, hj, .inl rfl⟩ hj) fun _ => hj) ?_
  · refine h.imp id fun hfnd => ?_
    rw [← hfnd, hinst]
    exact hne hdiff
  rintro - d hj
  exact .write ⟨trivial, hj, .inr rfl⟩ rfl

theorem recover_commits (text : Json → String) (now : String) (root : Root) :
    Ensures Root.apply (Commits root) (recoverTransition text now) root
      fun _ d => d.journal = .missing := by
  by_cases hj : present root.journal = true
  · have hcom : Ensures Root.apply (Commits root) (do
        let journal ← lift (readJson "transition-journal.json" root.journal)
        commitTransitionJournal text now journal : Op Unit) root
          fun _ d => d.journal = .missing :=
      .lift_bind fun _ _ => .observe_bind fun _ hchk =>
        carryOut_commits hj le_rfl (.inr ⟨(checkJournal_unique hchk hchk).2, rfl⟩)
    obtain ⟨hws, hres⟩ := hcom
    refine ⟨?_, ?_⟩ <;> rw [recoverTransition, if_pos hj] <;> assumption
  · refine ⟨?_, fun _ _ => ?_⟩ <;> rw [recoverTransition, if_neg hj]
    · trivial
    · cases hfile : root.journal with
      | missing => exact hfile
      | malformed => exact (hj (by rw [hfile]; rfl)).elim
      | document v => exact (hj (by rw [hfile]; rfl)).elim

theorem initialized_apply (w : Write) (h : d.requireInitialized = .ok ()) :
    (Root.apply w d).requireInitialized = .ok () := by
  rw [Root.requireInitialized, require_eq_ok, Bool.and_eq_true] at h ⊢
  cases w with
  | state => exact ⟨h.1, rfl⟩
  | installation => exact ⟨rfl, h.2⟩
  | _ => exact h

theorem recovered (hinit : root.requireInitialized = .ok ())
    (h : recoverTransition text now root = (.ok (), ws)) :
    (last root ws).journal = .missing ∧ (last root ws).requireInitialized = .ok () := by
  obtain ⟨hws, hres⟩ := recover_commits text now root
  rw [h] at hws hres
  exact ⟨hres () rfl, hws.keeps (I := fun d _ => d.requireInitialized = .ok ())
    (fun _ _ w hd _ => initialized_apply w hd) [] hinit List.prefix_rfl⟩

/-- **A call begins with the recovery**, and goes on as if there had been no journal. -/
theorem transition_recovered (hinit : root.requireInitialized = .ok ())
    (h : recoverTransition world.text world.recoveredAt root = (.ok (), ws)) (args : Arguments) :
    transitionUnlocked args world root = ((transitionUnlocked args world (last root ws)).1,
      ws ++ (transitionUnlocked args world (last root ws)).2) := by
  obtain ⟨hmiss, hinit'⟩ := recovered hinit h
  rw [transitionUnlocked, bind_of_pure (a := ()) (by rw [observe_apply, hinit]), bind_of_ok h,
    bind_of_pure (a := ()) (d := last root ws) (by rw [observe_apply, hinit']),
    bind_of_pure (a := ()) (recover_missing hmiss _ _)]

theorem accepted_recovered {result : Value} (h : (transition args world root).1 = .ok result) :
    ∃ ws, root.requireInitialized = .ok () ∧
      recoverTransition world.text world.recoveredAt root = (.ok (), ws) ∧
      (transition args world (last root ws)).1 = .ok result := by
  rcases htr : transitionUnlocked args world root with ⟨outcome, writes⟩
  rw [transition, htr] at h
  obtain rfl : outcome = .ok result := h
  have hrun := htr
  rw [transitionUnlocked] at hrun
  obtain ⟨⟨⟩, hinit, hrest⟩ := observe_bind_eq_ok.mp hrun
  obtain ⟨⟨⟩, ws, -, hrec, -⟩ := bind_eq_ok.mp hrest
  rw [transition_recovered hinit hrec] at htr
  exact ⟨ws, hinit, hrec, congrArg Prod.fst htr⟩

/-- A recovery that succeeds at one time fails without a write at another, or does the same. -/
theorem recover_same (text : Json → String) (now : String)
    (h : recoverTransition text' now' root = (.ok (), ws)) :
    recoverTransition text now root = (.ok (), ws) ∨
      ∃ e, recoverTransition text now root = (.error e, []) := by
  rw [recoverTransition] at h ⊢
  split at h
  · rename_i hj
    obtain ⟨journal, hread, hcom⟩ := lift_bind_eq_ok.mp h
    obtain ⟨c', hchk', hout⟩ := observe_bind_eq_ok.mp hcom
    rw [if_pos hj, hread, lift_ok_bind]
    cases hchk : checkJournal text now journal root with
    | error e => exact .inr ⟨e, bind_of_error (by rw [observe_apply, hchk])⟩
    | ok c =>
      rw [commit_of_ok hchk, (checkJournal_unique hchk hchk').1]
      exact .inl hout
  · rename_i hj
    rw [if_neg hj]
    exact .inl h

theorem recover_document {journal : Value} (hj : root.journal = .document journal)
    (hobj : journal.isObject) :
    recoverTransition text now root = commitTransitionJournal text now journal root := by
  rw [recoverTransition, if_pos (by rw [hj]; rfl), hj, readJson, if_pos hobj,
    lift_ok_bind]

/-- **The writes of a call.** -/
theorem transition_meant
    (hfr : Fresh (last root (recoverTransition world.text world.recoveredAt root).2) world) :
    Follows Root.apply (Meant root) root (transitionUnlocked args world root).2 := by
  cases hinit : root.requireInitialized with
  | error e =>
    rw [transitionUnlocked, bind_of_error (by rw [observe_apply, hinit])]
    trivial
  | ok u =>
    have hfst := (recover_commits world.text world.recoveredAt root).writes.mono
      fun _ _ h => h.1
    rcases hrec : recoverTransition world.text world.recoveredAt root with ⟨e | u, ws⟩
    · rw [hrec] at hfst
      rw [transitionUnlocked, bind_of_pure (a := ()) (by rw [observe_apply, hinit]),
        bind_of_error hrec]
      exact hfst
    rw [hrec] at hfst hfr
    rw [transition_recovered hinit hrec]
    refine hfst.append ?_
    have hlonger := (moved_or_same hfst List.prefix_rfl).1
    have hmiss := (recovered hinit hrec).1
    by_cases hpro : ∃ r, Proceeds (last root ws) args world r
    · obtain ⟨r, hpro⟩ := hpro
      rw [hpro.transition_eq hmiss]
      refine (Ensures.write_bind trivial (.bind (.observe_bind (R := fun _ _ => True)
        fun c hchk => ?_) fun _ _ _ => .pure trivial) : Ensures _ _ _ _ fun _ _ => True).writes
      obtain ⟨rfl, -⟩ := (hpro.check_iff hfr _ _ _).mp hchk
      refine (Ensures.allow (carryOut_commits (d := Root.apply (.journal _) (last root ws)) rfl
        hlonger (.inl ?_)) fun _ _ h => h.1).mono fun _ _ _ => trivial
      rfl
    · refine (transition_stops hmiss fun r hr => hpro ⟨r, hr⟩).writes.mono ?_
      rintro _ _ ⟨record, rfl⟩
      trivial

theorem exists_key (messages : List Value) :
    ∃ key, ∀ m ∈ messages, (m.get "idempotency_key").equal (.str key) = false := by
  obtain ⟨key, hkey⟩ := Infinite.exists_notMem_finset
    (messages.filterMap fun m => Queue.asStr (m.get "idempotency_key")).toFinset
  refine ⟨key, fun m hm => Bool.eq_false_iff.mpr fun heql => hkey ?_⟩
  exact List.mem_toFinset.mpr (List.mem_filterMap.mpr ⟨m, hm, by
    rw [Value.equal_str.mp heql]; rfl⟩)

/-- **A journal that can be carried out is in the way of the same call under another key**: it
raises the revision first. -/
theorem Proceeds.overtaken (h : Proceeds root args world r) (hjournal : root.journal = .missing)
    (hfr : Fresh root world) (hrdy : Ready root r) (hsuits : Suits r.raw args kind) :
    ∃ later, (∃ result, (transition later world root).1 = .ok result) ∧
      ∀ result, (transition later world { root with
        journal := .document (journalOf (recordsOf args world r)) }).1 ≠ .ok result := by
  obtain ⟨hnext, hj⟩ := h.built
  have hcom := h.commit_completes hfr hrdy hsuits world.text world.recoveredAt
    (.document (journalOf (recordsOf args world r)))
  have hobj : (journalOf (recordsOf args world r)).isObject := rfl
  obtain ⟨n, hn⟩ := Option.isSome_iff_exists.mp hrdy.revision
  have hn : r.raw.get "revision" = .int n := Dispatch.eq_int_of_exactInt hn
  have hview : (authorityView r.raw).get "revision" = .int n := by
    rw [get_authorityView h.object (by decide), hn]
  obtain ⟨revision, hrev, hget⟩ := hnext.revision
  have hraised : (recordsOf args world r).nextState.get "revision" = .int (n + 1) := by
    rw [hj.get_state hnext (by decide) (by decide), hget, nextRevision_int hview hrev]
  have hexp : args.expectedRevision.equal (.int n) := by
    rw [← hview]
    exact (checkTransition_eq_ok h.checked).2.1
  have hdiff : r.raw.equal (recordsOf args world r).nextState = false := by
    refine Bool.eq_false_iff.mpr fun heql => ?_
    have hsame := Value.equal_get heql "revision"
    rw [hn, hraised, Value.equal_int_int] at hsame
    simp at hsame
  obtain ⟨hsta, hmiss⟩ := behind_writesOf (c := ⟨recordsOf args world r, false, false, r.raw⟩)
    hdiff r.installation
    { root with journal := .document (journalOf (recordsOf args world r)) }
  rw [← last_trail] at hsta hmiss
  generalize hroot : last { root with journal := .document (journalOf (recordsOf args world r)) }
    _ = behind at hsta hmiss
  obtain ⟨key, hkey⟩ := exists_key (r.messages ++ (behind.readMessages.toOption.getD []))
  refine ⟨{ args with idempotencyKey := key }, ?_, fun result hres => ?_⟩
  · have hnew : Proceeds root { args with idempotencyKey := key } world r :=
      { h with new := List.find?_eq_none.mpr fun m hm => by simp [hkey m (by simp [hm])] }
    have hsuits' : Suits r.raw { args with idempotencyKey := key } kind :=
      ⟨hsuits.event_kind, hsuits.message_kind, hsuits.principal_kind, hsuits.principal,
        hsuits.principal_named, hsuits.target, hsuits.asserted, hsuits.declared, hsuits.plain⟩
    have hcompl := hnew.accepted hjournal hfr hrdy hsuits'
    exact ⟨_, by rw [transition, hcompl]⟩
  obtain ⟨ws, -, hrec, hbeh⟩ := accepted_recovered hres
  rw [recover_document rfl hobj] at hrec
  cases hcom.symm.trans hrec
  rw [hroot] at hbeh
  by_cases hpro : ∃ r', Proceeds behind { args with idempotencyKey := key } world r'
  · obtain ⟨r', hpro⟩ := hpro
    have hraw := DocumentFile.document.inj (hsta.symm.trans hpro.state)
    have hagain := (checkTransition_eq_ok hpro.checked).2.1
    rw [get_authorityView hpro.object (by decide), ← hraw, hraised] at hagain
    have htwice := Value.equal_trans (Value.equal_symm hexp) hagain
    rw [Value.equal_int_int] at htwice
    simp at htwice
  · obtain ⟨existing, hfnd⟩ := (transition_stops hmiss fun r' hr' =>
      hpro ⟨r', hr'⟩).result result hbeh
    obtain ⟨messages, hmsgs, hfind⟩ := bind_eq_ok.mp hfnd
    have hfind := Except.ok.inj hfind
    have hmem := List.mem_of_find?_eq_some hfind
    rw [hmsgs] at hkey
    have heql := List.find?_some hfind
    rw [hkey existing (List.mem_append_right _ hmem)] at heql
    cases heql

/-- A write of a recovery that changes no file removes the journal. -/
theorem settled_of_still (h : Follows Root.apply (Commits root) root ws) {w : Write}
    (hw : w ∈ ws.map Prod.fst) (hstill : w.moves = false) : w = .settled := by
  obtain ⟨-, -, -, -, hmoves | rfl⟩ :=
    h.mem (I := fun _ => True) (fun _ _ _ _ => trivial) trivial hw
  · rw [hstill] at hmoves
    cases hmoves
  · rfl

/-- A recovery that has written no file has not begun, or has removed the journal and ended. -/
theorem stopped_in_recovery (h : Follows Root.apply (Commits root) root ws)
    (hdone : done <+: ws) (hstill : ∀ w ∈ done.map Prod.fst, w.moves = false) :
    done = [] ∨ Agree (last root ws) (last root done) ∧ ∀ w ∈ done.map Prod.fst, w.quiet := by
  obtain ⟨rest, rfl⟩ := hdone
  cases done with
  | nil => exact .inl rfl
  | cons w done =>
    have hw := settled_of_still h (w := w.1) (by simp) (hstill w.1 (by simp))
    obtain ⟨-, hbeh, haft⟩ := h
    have hend : done ++ rest = [] := by
      cases htail : done ++ rest with
      | nil => rfl
      | cons next tail =>
        rw [show done.append rest = next :: tail from htail] at haft
        have hpres := haft.1.2.1
        rw [hbeh, hw] at hpres
        cases hpres
    obtain ⟨rfl, rfl⟩ := List.append_eq_nil_iff.mp hend
    refine .inr ⟨⟨rfl, rfl, rfl, rfl, rfl⟩, fun v hv => ?_⟩
    rw [List.mem_singleton.mp hv, hw]
    rfl

/-- A call that proceeds and has written no file stands behind its journal. -/
theorem Proceeds.stopped (h : Proceeds root args world r) (hj : root.journal = .missing)
    (hfr : Fresh root world) (hdone : done <+: (transitionUnlocked args world root).2)
    (hne : done ≠ []) (hstill : ∀ w ∈ done.map Prod.fst, w.moves = false) :
    done = trail Root.apply root [.journal (journalOf (recordsOf args world r))] := by
  obtain ⟨labels, hws, hlabels, -⟩ := h.writes hj hfr
  rw [hws, trail] at hdone
  cases done with
  | nil => exact (hne rfl).elim
  | cons w done =>
    obtain ⟨rfl, hrest⟩ := List.cons_prefix_cons.mp hdone
    cases done with
    | nil => rfl
    | cons v done =>
      rcases hlabels with rfl | ⟨message, rest, rfl⟩
      · cases List.prefix_nil.mp hrest
      · obtain ⟨rfl, -⟩ := List.cons_prefix_cons.mp hrest
        cases hstill (.message message) (by simp)

/-- Where a call stands that has written no file, at a root which a recovery leads on from. -/
theorem stop_cases (hinit : root.requireInitialized = .ok ())
    (hrec : recoverTransition text now root = (.ok (), ws))
    (hfr : Fresh (last root (recoverTransition world.text world.recoveredAt root).2) world)
    (hdone : done <+: (transitionUnlocked args world root).2)
    (hstill : ∀ w ∈ done.map Prod.fst, w.moves = false) :
    (done = [] ∨ Agree (last root ws) (last root done) ∧ ∀ w ∈ done.map Prod.fst, w.quiet) ∨
      recoverTransition world.text world.recoveredAt root = (.ok (), ws) ∧
        ∃ r, Proceeds (last root ws) args world r ∧ last root done = { last root ws with
          journal := .document (journalOf (recordsOf args world r)) } ∧
          ∃ w ∈ done.map Prod.fst, w.quiet = false := by
  rcases recover_same world.text world.recoveredAt hrec with hown | ⟨e, hown⟩
  · rw [transition_recovered hinit hown] at hdone
    rw [hown] at hfr
    have hmiss := (recovered hinit hown).1
    have hcommits := (recover_commits world.text world.recoveredAt root).writes
    rw [hown] at hcommits
    rcases stop_append hdone with hfst | ⟨inner, hinner, hne, rfl⟩
    · exact .inl (stopped_in_recovery hcommits hfst hstill)
    rw [List.map_append, List.forall_mem_append] at hstill
    have hfst : ∀ w ∈ ws.map Prod.fst, w.quiet := fun w hw => by
      rw [settled_of_still hcommits hw (hstill.1 w hw)]
      rfl
    rw [last_append]
    by_cases hpro : ∃ r, Proceeds (last root ws) args world r
    · obtain ⟨r, hpro⟩ := hpro
      obtain rfl := hpro.stopped hmiss hfr hinner hne hstill.2
      exact .inr ⟨hown, r, hpro, rfl, .journal (journalOf (recordsOf args world r)),
        by simp [trail], rfl⟩
    · have hfailures := (transition_stops hmiss fun r hr => hpro ⟨r, hr⟩).writes
      refine .inl (.inr ⟨agree_of_failures hfailures hinner, fun w hw => ?_⟩)
      rw [List.map_append] at hw
      rcases List.mem_append.mp hw with hw | hw
      · exact hfst w hw
      · obtain ⟨-, -, record, rfl⟩ := hfailures.mem (I := fun _ => True)
          (fun _ _ _ _ => trivial) trivial ((hinner.map Prod.fst).subset hw)
        rfl
  · rw [transitionUnlocked, bind_of_pure (a := ()) (by rw [observe_apply, hinit]),
      bind_of_error hown] at hdone
    exact .inl (.inl (List.prefix_nil.mp hdone))

end Stop

/-! ### Refusals -/

section Refusal

variable {root : Root} {args : Arguments} {world : World} {fails : Option ℕ}

/-- A call of `_transition` that may fail on the way: with `some n` it raises behind its first `n`
writes, because the next one, or what comes before it, raises an `OSError`. -/
def attempt (fails : Option ℕ) (args : Arguments) (world : World) : Op Value := fun root =>
  let outcome := transitionUnlocked args world root
  match fails with
  | none => outcome
  | some n =>
    if n ≤ outcome.2.length then (.error (.python "OSError"), outcome.2.take n) else outcome

def Accepts (root : Root) : Prop :=
  ∃ later laterWorld result, (transition later laterWorld root).1 = .ok result

/-- Ledgers, state and installation are as they were, and every transition that was accepted
before is accepted now. -/
structure Unharmed (root after : Root) : Prop where
  same : Same root after
  accepts : ∀ later laterWorld result, (transition later laterWorld root).1 = .ok result →
    ∃ result', (transition later laterWorld after).1 = .ok result'

/-- **A refusal does no harm.** -/
def Harmless (fails : Option ℕ) (args : Arguments) (world : World) (root : Root) : Prop :=
  ∀ fault, (attempt fails args world root).1 = .error fault →
    Unharmed root (last root (attempt fails args world root).2)

theorem attempt_prefix :
    (attempt fails args world root).2 <+: (transitionUnlocked args world root).2 := by
  cases fails with
  | none => exact List.prefix_rfl
  | some n =>
    rw [attempt.eq_def]
    dsimp only
    split
    · exact List.take_prefix _ _
    · exact List.prefix_rfl

/-- A journal of its own that a call leaves behind is in the way of another call. -/
theorem Proceeds.blocks {r : Reading} {ws : List (Write × Root)}
    (hinit : root.requireInitialized = .ok ())
    (hrec : recoverTransition world.text world.recoveredAt root = (.ok (), ws))
    (h : Proceeds (last root ws) args world r) (hfr : Fresh (last root ws) world)
    (haccepts : Accepts root) :
    ∃ later laterWorld, (∃ result, (transition later laterWorld root).1 = .ok result) ∧
      ∀ result, (transition later laterWorld { last root ws with
        journal := .document (journalOf (recordsOf args world r)) }).1 ≠ .ok result := by
  by_cases hgood : Ready (last root ws) r ∧ ∃ kind, Suits r.raw args kind
  · obtain ⟨hrdy, kind, hsuits⟩ := hgood
    obtain ⟨later, ⟨result, hres⟩, hrefd⟩ :=
      h.overtaken (recovered hinit hrec).1 hfr hrdy hsuits
    refine ⟨later, world, ⟨result, ?_⟩, hrefd⟩
    rw [transition, transition_recovered hinit hrec]
    exact hres
  · obtain ⟨later, laterWorld, hres⟩ := haccepts
    refine ⟨later, laterWorld, hres, fun result hagain => ?_⟩
    obtain ⟨fault, labels, hcom, -⟩ := h.commit_fails hfr hgood laterWorld.text
      laterWorld.recoveredAt (.document (journalOf (recordsOf args world r)))
    have hobj : (journalOf (recordsOf args world r)).isObject := rfl
    obtain ⟨_, -, hagain, -⟩ := accepted_recovered hagain
    rw [recover_document rfl hobj, hcom] at hagain
    cases hagain

/-- **When a call that stops has done no harm**: none of its writes is more than a failure record
or the end of an old journal, or the root accepts nothing in the first place. -/
theorem unharmed_iff {done : List (Write × Root)}
    (hfr : Fresh (last root (recoverTransition world.text world.recoveredAt root).2) world)
    (hdone : done <+: (transitionUnlocked args world root).2) :
    Unharmed root (last root done) ↔ (∀ w ∈ done.map Prod.fst, w.quiet) ∨
      (∀ w ∈ done.map Prod.fst, w.moves = false) ∧ ¬ Accepts root := by
  obtain ⟨-, hmov, hsame⟩ := moved_or_same (transition_meant hfr) hdone
  by_cases hstill : ∀ w ∈ done.map Prod.fst, w.moves = false
  · constructor
    · intro h
      by_contra hno
      obtain ⟨hloud, haccepts⟩ := not_or.mp hno
      have hsome : Accepts root := not_not.mp fun h => haccepts ⟨hstill, h⟩
      obtain ⟨later, laterWorld, result, hres⟩ := hsome
      obtain ⟨ws, hinit, hrec, -⟩ := accepted_recovered hres
      rcases stop_cases hinit hrec hfr hdone hstill with
        (rfl | ⟨-, hquiet⟩) | ⟨hown, r, hpro, hbeh, -⟩
      · exact hloud (by simp)
      · exact hloud hquiet
      · rw [hown] at hfr
        obtain ⟨later, laterWorld, ⟨result, hacc⟩, hrefd⟩ :=
          hpro.blocks hinit hown hfr ⟨later, laterWorld, result, hres⟩
        obtain ⟨result', hagain⟩ := h.accepts later laterWorld result hacc
        rw [hbeh] at hagain
        exact hrefd result' hagain
    · rintro (hquiet | ⟨-, hnone⟩)
      · refine ⟨hsame hstill, fun later laterWorld result hres => ⟨result, ?_⟩⟩
        obtain ⟨ws, hinit, hrec, hlat⟩ := accepted_recovered hres
        rcases stop_cases hinit hrec hfr hdone hstill with
          (rfl | ⟨hagree, -⟩) | ⟨-, -, -, -, w, hw, hloud⟩
        · exact hres
        · rw [← hlat]
          exact (respects_transition later laterWorld _ _ hagree).1.symm
        · rw [hquiet w hw] at hloud
          cases hloud
      · exact ⟨hsame hstill, fun later laterWorld result hres =>
          (hnone ⟨later, laterWorld, result, hres⟩).elim⟩
  · refine iff_of_false (fun h => ?_) ?_
    · obtain ⟨w, hw, hmoves⟩ : ∃ w ∈ done.map Prod.fst, w.moves = true := by
        simpa only [not_forall, Bool.not_eq_false, exists_prop] using hstill
      exact h.same.not_moved (hmov ⟨w, hw, hmoves⟩)
    · rintro (hquiet | ⟨hall, -⟩)
      · refine hstill fun w hw => ?_
        have hw := hquiet w hw
        cases w <;> first | rfl | cases hw
      · exact hstill hall

theorem Proceeds.not_harmless {r : Reading} (h : Proceeds root args world r)
    (hj : root.journal = .missing) (hfr : Fresh root world)
    (hno : ¬ (Ready root r ∧ ∃ kind, Suits r.raw args kind)) (haccepts : Accepts root) :
    ¬ Harmless none args world root := by
  intro hharmless
  obtain ⟨labels, hws, -, hgood | ⟨fault, hfault⟩⟩ := h.writes hj hfr
  · exact hno hgood
  have hfr' : Fresh (last root (recoverTransition world.text world.recoveredAt root).2)
      world := by
    rwa [recover_missing hj]
  rcases (unharmed_iff hfr' List.prefix_rfl).mp (hharmless fault hfault) with
    hquiet | ⟨-, hnone⟩
  · rw [hws, map_fst_trail] at hquiet
    cases hquiet _ List.mem_cons_self
  · exact hnone haccepts

end Refusal

/-- A state that was written before the session of a leader was moved to its binding, with the
leader on its way to be rotated. -/
def legacyState : Value :=
  sealed [
    ("schema_version", .str "valp-executable-state.v1"),
    ("installation_id", .str "inst-1"),
    ("revision", .int 7),
    ("status", .str "rotating_leader"),
    ("selected_leader", .dict [("principal_id", .str "second")] (by simp)),
    ("active_leader",
      .dict [("principal_id", .str "first"), ("session_id", .str "session-1")] (by simp)),
    ("active_leader_epoch", .int 1),
    ("registry_revision", .int 0),
    ("active_blockers", listOf []),
    ("last_event_id", .null),
    ("last_event_digest", .null),
    ("updated_at", .str "2026-01-01T00:00:00Z")] "projection_digest" (by simp)

def legacyRoot : Root where
  installation := .document (.dict [("installation_id", .str "inst-1")] (by simp))
  state := .document legacyState
  journal := .missing
  messages := none
  events := none
  failures := none

def sampleWorld : World where
  text := fun _ => ""
  messageId := "msg-1"
  eventId := "evt-1"
  updatedAt := "2026-01-02T00:00:00Z"
  sentAt := "2026-01-02T00:00:00Z"
  recoveredAt := "2026-01-02T00:00:00Z"
  failureId := "fail-1"
  failedAt := "2026-01-02T00:00:00Z"

def rotationFailed : Arguments where
  eventKind := "leader_activation_failed"
  messageKind := "result.leader.activation_failed"
  principalId := "reference-runtime-adapter"
  principalKind := "runtime-adapter"
  epoch := .int 1
  expectedRevision := .int 7
  payload := .dict [] List.nodup_nil
  payload_object := rfl
  targetStatus := "blocked"
  idempotencyKey := "fail-1"
  taskId := none

def rotationCompleted : Arguments where
  eventKind := "leader_rotation_completed"
  messageKind := "event.leader.rotation_completed"
  principalId := "bootstrap-controller"
  principalKind := "bootstrap-controller"
  epoch := .int 1
  expectedRevision := .int 7
  payload := .dict [("active_leader", .dict [("principal_id", .str "second")] (by simp)),
    ("active_leader_epoch", .int 2)] (by simp)
  payload_object := rfl
  targetStatus := "active"
  idempotencyKey := "complete-1"
  taskId := none

theorem legacyRoot_fresh (world : World) : Fresh legacyRoot world :=
  ⟨fun records h => by cases h; simp [Unused], fun records h => by cases h; simp [Unused]⟩

theorem legacyRoot_proceeds {args : Arguments}
    (hchkd : checkTransition sampleWorld.text (authorityView legacyState) args = .ok target)
    (hrev : nextRevision (authorityView legacyState) = .ok n)
    (hblockers : ∃ b, blockersOf args.eventKind args.payload = .ok b) :
    ∃ r, Proceeds legacyRoot args sampleWorld r ∧ r.raw = legacyState ∧ Ready legacyRoot r := by
  obtain ⟨next, hnext⟩ : ∃ next, nextState (authorityView legacyState) args target sampleWorld =
      .ok next := exists_nextState sampleWorld hrev hblockers
  have hdig : legacyState.get "projection_digest" = .str (stateDigest legacyState) :=
    sealed_digest
  refine ⟨⟨legacyState, target, next, .dict [("installation_id", .str "inst-1")] (by simp), [], []⟩,
    ⟨rfl, rfl, ?_, rfl, hchkd, hnext, rfl, rfl, rfl, rfl⟩, rfl, ?_⟩
  · rw [hdig]
    exact Value.equal_self _
  · exact ⟨rfl, rfl, rfl, rfl, fun h => absurd rfl h, fun h => absurd rfl h⟩

theorem rotationCompleted_suits (raw : Value) :
    Suits raw rotationCompleted .leaderRotationCompleted where
  event_kind := rfl
  message_kind := rfl
  principal_kind := rfl
  principal := rfl
  principal_named := by decide
  target := rfl
  asserted field hfld hhas hnot := by
    have hdecl : ∀ f ∈ protectedFields, rotationCompleted.payload.has f →
        f ∈ EventKind.payloadFields .leaderRotationCompleted := by decide +kernel
    exact absurd (hdecl field hfld hhas) hnot
  declared := by decide +kernel
  plain := fun h => absurd (by decide) h

theorem rotationFailed_unsuited (kind : EventKind) : ¬ Suits legacyState rotationFailed kind := by
  intro h
  have hkind : kind = .leaderActivationFailed := EventKind.name_injective h.event_kind.symm
  subst hkind
  exact absurd (h.plain (by decide) rfl) (by decide)

theorem legacyRoot_accepts : Accepts legacyRoot := by
  have hchkd : checkTransition sampleWorld.text (authorityView legacyState) rotationCompleted =
      .ok .active := rfl
  obtain ⟨r, hpro, hraw, hrdy⟩ := legacyRoot_proceeds hchkd rfl ⟨_, rfl⟩
  have hcompl := hpro.accepted rfl (legacyRoot_fresh sampleWorld) hrdy
    (rotationCompleted_suits _)
  exact ⟨rotationCompleted, sampleWorld, _, by rw [transition, hcompl]⟩

end Valp.Control
