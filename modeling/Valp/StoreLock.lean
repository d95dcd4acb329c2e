/-
The locked section of a store (`valp_cli/receipt_store.py`).

`ReceiptStore` and `KernelStore` change a file in one way: under an exclusive lock
they read, decide, write a temporary file and rename it over the old one.  A call is
therefore atomic, and a failure of the file system shows only as an error whose
`outcome` says whether the rename may have happened.  The files are a value of any
type here, and where the file system fails is a parameter of the call; the text of
the `OSError` at the end of a message is left out.

* `locked` — `ReceiptStore._locked` around a body;
* `commit` — the replacement of a file inside it;
* `locked_cases`, `commit_cases` — the files are those before the call, or those the
  body leaves.
-/
import Mathlib.Tactic.Common

namespace Valp

/-- The codes that `ReceiptStoreError` and `KernelStoreError` are raised with. -/
inductive StoreErrorCode where
  | stateConflict
  | idempotencyConflict
  | kernelStoreCorrupt
  | ledgerCorrupt
  | obligation
  | lockTimeout
  | lockUnavailable
  | durabilityPrecommit
  | durabilityUnknownOrCommitted
  deriving DecidableEq, Repr

def StoreErrorCode.value : StoreErrorCode → String
  | .stateConflict => "VALP-E-STATE-CONFLICT"
  | .idempotencyConflict => "VALP-E-IDEMPOTENCY-CONFLICT"
  | .kernelStoreCorrupt => "VALP-E-KERNEL-STORE-CORRUPT"
  | .ledgerCorrupt => "VALP-E-RECEIPT-LEDGER-CORRUPT"
  | .obligation => "VALP-E-RECEIPT-OBLIGATION"
  | .lockTimeout => "VALP-E-LOCK-TIMEOUT"
  | .lockUnavailable => "VALP-E-LOCK-UNAVAILABLE"
  | .durabilityPrecommit => "VALP-E-DURABILITY-PRECOMMIT"
  | .durabilityUnknownOrCommitted => "VALP-E-DURABILITY-UNKNOWN-OR-COMMITTED"

/-- `REJECTED_OUTCOME` and `UNKNOWN_OR_COMMITTED_OUTCOME`. -/
inductive Outcome where
  | rejected
  | unknownOrCommitted
  deriving DecidableEq, Repr

/-- `ReceiptStoreError`. -/
structure StoreError where
  code : StoreErrorCode
  message : String
  outcome : Outcome := .rejected
  deriving DecidableEq, Repr

/-- What a body raises: a classified error, or a `ValueError` (and the like) that the
caller of the body classifies. -/
inductive Raised where
  | store (error : StoreError)
  | value (message : String)
  deriving DecidableEq, Repr

/-- Where the file system fails during a call. -/
inductive Fault where
  /-- The lock is not free before the timeout. -/
  | lock
  /-- An `OSError` before the rename. -/
  | beforeReplace
  /-- An `OSError` behind it: the directory cannot be synchronised. -/
  | afterReplace
  /-- The lock cannot be released. -/
  | unlock
  /-- What a Kernel store does last, behind the rename, fails: the temporary file cannot be
  removed, or `checkpoint.json` cannot be read or is not a regular file. -/
  | checkpoint (regular : Bool)
  deriving DecidableEq, Repr

/-- What a body did: its result, the files it left and `lock_state["replaced"]`. -/
structure Session (φ α : Type) where
  result : Except Raised α
  files : φ
  replaced : Bool

variable {φ α : Type}

/-- `ReceiptStore._locked` around a body that was entered with `files`. -/
def locked (fault : Option Fault) (files : φ) (body : Session φ α) : Except Raised α × φ :=
  if fault = some .lock then
    (.error (.store { code := .lockTimeout, message := "receipt store lock timed out" }), files)
  else
    match body.result with
    | .error raised => (.error raised, body.files)
    | .ok value =>
      if fault = some .unlock then
        (.error (.store (
          if body.replaced then
            { code := .durabilityUnknownOrCommitted
              message := "receipt replaced but lock release failed: "
              outcome := .unknownOrCommitted }
          else
            { code := .lockUnavailable
              message := "receipt lock release failed: " })), body.files)
      else (.ok value, body.files)

/-- The replacement of a file, which turns `files` into `files'`, and what the body goes
on with; `before` and `after` are the messages for an `OSError`. -/
def commit (fault : Option Fault) (before after : String) (files files' : φ)
    (result : Except Raised α) : Session φ α :=
  match fault with
  | some .beforeReplace =>
    { result := .error (.store { code := .durabilityPrecommit, message := before })
      files := files
      replaced := false }
  | some .afterReplace =>
    { result := .error (.store {
        code := .durabilityUnknownOrCommitted
        message := after
        outcome := .unknownOrCommitted })
      files := files'
      replaced := true }
  | _ => { result := result, files := files', replaced := true }

theorem locked_none (files : φ) (body : Session φ α) :
    locked none files body = (body.result, body.files) := by
  rw [locked, if_neg (by simp)]
  cases body.result with
  | error raised => rfl
  | ok value => simp

theorem commit_none (before after : String) (files files' : φ) (result : Except Raised α) :
    commit none before after files files' result = ⟨result, files', true⟩ := rfl

/-- A call leaves the files as they were and fails, or leaves them as its body does and
returns at most what the body returns. -/
theorem locked_cases (fault : Option Fault) (files : φ) (body : Session φ α) :
    ((locked fault files body).2 = files ∧ ∀ a, (locked fault files body).1 ≠ .ok a) ∨
    ((locked fault files body).2 = body.files ∧
      ∀ a, (locked fault files body).1 = .ok a → body.result = .ok a) := by
  rw [locked]
  split
  · exact .inl ⟨rfl, fun a h => by cases h⟩
  refine .inr ?_
  cases body.result with
  | error raised => exact ⟨rfl, fun a h => h⟩
  | ok value =>
    dsimp only
    split
    · exact ⟨rfl, fun a h => by cases h⟩
    · exact ⟨rfl, fun a h => h⟩

/-- A replacement fails before the rename, with the files as they were, or it is made and returns
at most the given result. -/
theorem commit_cases (fault : Option Fault) (before after : String) (files files' : φ)
    (result : Except Raised α) :
    ((commit fault before after files files' result).files = files ∧
      ∀ a, (commit fault before after files files' result).result ≠ .ok a) ∨
    ((commit fault before after files files' result).files = files' ∧
      ∀ a, (commit fault before after files files' result).result = .ok a → result = .ok a) := by
  unfold commit
  split
  · exact .inl ⟨rfl, fun a h => by cases h⟩
  · exact .inr ⟨rfl, fun a h => by cases h⟩
  · exact .inr ⟨rfl, fun a h => h⟩

end Valp
