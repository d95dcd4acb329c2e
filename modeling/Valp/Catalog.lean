/-
The dependencies of the evidence catalog (`index_fixtures` of `valp_cli/catalog.py`).

A manifest names its fixtures, and the names must not depend on each other in a cycle.  What is
stored are dependencies between catalog entries, and an entry is an evidence type and a content:
two names can stand for one entry.

* `dependencies_acyclic_iff` — **the stored dependencies stay acyclic exactly if those of each
  manifest are, between its contents**, and a manifest replaces the dependencies of its entries.
-/
import Mathlib.Data.List.Lattice
import Valp.JsonLines
import Valp.KernelCodec

namespace Valp.Catalog

open Kernel (bind_eq_ok)
open Relation (TransGen)
open Run (exec exec_append exec_concat exec_history)

/-! ### Replaced edges -/

section Replace

variable {α : Type*} {r e r' : α → α → Prop} {s : Set α} {x y : α}

/-- No element is related to itself by a path. -/
def Acyclic (r : α → α → Prop) : Prop := ∀ x, ¬ TransGen r x x

/-- **New edges of a closed set close a cycle only among themselves.** -/
theorem acyclic_replace (hnew : ∀ x ∈ s, ∀ y, r' x y → e x y ∧ y ∈ s)
    (hold : ∀ x ∉ s, ∀ y, r' x y → r x y) (hr : Acyclic r) (he : Acyclic e) : Acyclic r' := by
  -- a path that is in the set once stays in it
  have hin : ∀ {x y}, TransGen r' x y → x ∈ s → TransGen e x y ∧ y ∈ s := by
    intro x y h hx
    induction h with
    | single h => exact ⟨.single (hnew _ hx _ h).1, (hnew _ hx _ h).2⟩
    | tail _ h ih => exact ⟨.tail ih.1 (hnew _ ih.2 _ h).1, (hnew _ ih.2 _ h).2⟩
  have hout : ∀ {x y}, TransGen r' x y → y ∉ s → TransGen r x y := by
    intro x y h hy
    induction h using TransGen.head_induction_on with
    | single h => exact .single (hold _ (fun hx => hy (hnew _ hx _ h).2) _ h)
    | head h hpath ih => exact .head (hold _ (fun hx => hy (hin hpath (hnew _ hx _ h).2).2) _ h) ih
  intro x hx
  by_cases hmem : x ∈ s
  · exact he x (hin hx hmem).1
  · exact hr x (hout hx hmem)

end Replace

/-! ### Manifests -/

/-- What `_fixture_catalog_id` is the digest of: the evidence type and the content. -/
abbrev CatalogId := String × String

/-- A fixture whose fields have the types that a manifest asks for, with what `source_ref` leads
to: whether it stays in the directory of the manifest and is a file, and the digest. -/
structure Fixture where
  fixtureId : String
  evidenceType : String
  contentDigest : String
  dependsOn : List String := []
  sourceRef : String := "source"
  status : String := "valid"
  isWithin : Bool := true
  isFile : Bool := true
  metadata : Json := .obj []

def Fixture.catalogId (fixture : Fixture) : CatalogId :=
  (fixture.evidenceType, fixture.contentDigest)

/-- `re.fullmatch(r"[A-Za-z0-9][A-Za-z0-9._-]*", fixture_id)`. -/
def isSafeId (fixtureId : String) : Bool :=
  fixtureId.toList.head?.any Char.isAlphanum &&
    fixtureId.toList.all fun c => c.isAlphanum || c ∈ ['.', '_', '-']

/-- `_unsafe_ref_syntax`; a path has no part `"."`. -/
def unsafeRefSyntax (ref : String) : Bool :=
  ref.toList.head? == some '/' || (ref.toList.splitOn '/').contains ['.', '.'] ||
    ref.toList.contains '\\' || ref.toList.contains ':'

/-- `forbidden`, in order. -/
def forbidden : List String :=
  ["agent", "dispatch_id", "path", "source", "source_ref", "task", "task_id", "tool_call_id",
    "user", "user_id"]

mutual

/-- `inspect` of `_fixture_metadata`. -/
def inspect : Json → Except String Unit
  | .obj members =>
    let leaked := forbidden.filter (members.map Prod.fst).contains
    if leaked = [] then inspectMembers members
    else .error ("anonymous fixture metadata contains identifying keys: " ++
      ", ".intercalate leaked)
  | .arr items => inspectItems items
  | _ => .ok ()

def inspectItems : List Json → Except String Unit
  | [] => .ok ()
  | item :: items => do
    inspect item
    inspectItems items

def inspectMembers : List (String × Json) → Except String Unit
  | [] => .ok ()
  | member :: members => do
    inspect member.2
    inspectMembers members

end

/-- The checks of a fixture behind those of its id; the `repr` of a ref is left out. -/
def Fixture.check (fixture : Fixture) : Except String Unit :=
  let named := "anonymous fixture " ++ fixture.fixtureId
  if unsafeRefSyntax fixture.sourceRef then .error "unsafe anonymous fixture source_ref: "
  else if JsonLines.isBlank fixture.evidenceType.toList then
    .error (named ++ " has no evidence_type")
  else if fixture.status ∉ ["valid", "stale", "invalid"] then
    .error (named ++ " has invalid status")
  else if !fixture.isWithin then .error "anonymous fixture escaped manifest directory: "
  else if !fixture.isFile then
    .error ("anonymous fixture source not found: " ++ fixture.sourceRef)
  else if fixture.metadata.shape ≠ 5 then .error "fixture metadata must be an object"
  else inspect fixture.metadata

/-- The loop over the fixtures of a manifest. -/
def checkFixtures : List Fixture → List String → Except String Unit
  | [], _ => .ok ()
  | fixture :: rest, seen =>
    if !isSafeId fixture.fixtureId then .error "unsafe anonymous fixture id: "
    else if fixture.fixtureId ∈ seen then
      .error ("duplicate anonymous fixture id: " ++ fixture.fixtureId)
    else do
      fixture.check
      checkFixtures rest (fixture.fixtureId :: seen)

def find (fixtures : List Fixture) (name : String) : Option Fixture :=
  fixtures.find? (·.fixtureId = name)

/-- `visit`: the names that are visited behind it.  The names that are being visited are distinct,
so that one step for each fixture and one more are enough. -/
def visit (fixtures : List Fixture) : ℕ → List String → List String → String →
    Except String (List String)
  | 0, _, _, name => .error ("anonymous fixture dependency cycle at " ++ name)
  | fuel + 1, visiting, visited, name =>
    if name ∈ visiting then .error ("anonymous fixture dependency cycle at " ++ name)
    else if name ∈ visited then .ok visited
    else do
      let parents := ((find fixtures name).map Fixture.dependsOn).getD []
      let visited ← parents.foldlM (fun visited parent =>
        if find fixtures parent = none then
          .error ("anonymous fixture dependency not found: " ++ parent)
        else visit fixtures fuel (name :: visiting) visited parent) visited
      .ok (name :: visited)

def assertFixtureGraphAcyclic (fixtures : List Fixture) : Except String (List String) :=
  fixtures.foldlM (fun visited fixture =>
    visit fixtures (fixtures.length + 1) [] visited fixture.fixtureId) []

/-- The dependencies of a manifest, each as its child and its parent. -/
def edges (fixtures : List Fixture) : List (CatalogId × CatalogId) :=
  fixtures.flatMap fun fixture => fixture.dependsOn.filterMap fun parent =>
    (find fixtures parent).map (fixture.catalogId, ·.catalogId)

/-- `index_fixtures`: what it leaves in `catalog_dependencies`. -/
def indexFixtures (dependencies : List (CatalogId × CatalogId)) (fixtures : List Fixture) :
    Except String (List (CatalogId × CatalogId)) :=
  if fixtures = [] then .error "fixture manifest must contain a non-empty fixtures array"
  else do
    checkFixtures fixtures []
    let _ ← assertFixtureGraphAcyclic fixtures
    if ∃ edge ∈ edges fixtures, edge.1 = edge.2 then
      .error "anonymous fixture dependency collapses to the same content-addressed entry"
    else
      let children := fixtures.map Fixture.catalogId
      .ok (edges fixtures ∪ dependencies.filter (·.1 ∉ children))

/-- An accepted call. -/
def step (dependencies : List (CatalogId × CatalogId)) (fixtures : List Fixture) :
    Option (List (CatalogId × CatalogId)) :=
  (indexFixtures dependencies fixtures).toOption

/-- The first depends on the second. -/
abbrev Depends (dependencies : List (CatalogId × CatalogId)) (child parent : CatalogId) : Prop :=
  (child, parent) ∈ dependencies

/-! ### Stored dependencies -/

variable {dependencies next : List (CatalogId × CatalogId)} {fixtures : List Fixture}
  {manifests : List (List Fixture)} {child parent : CatalogId}

/-- **A manifest replaces the dependencies of its entries and no others.** -/
theorem depends_step (h : step dependencies fixtures = some next) : Depends next child parent ↔
    Depends (edges fixtures) child parent ∨
      child ∉ fixtures.map Fixture.catalogId ∧ Depends dependencies child parent := by
  obtain rfl : next = edges fixtures ∪
      dependencies.filter (·.1 ∉ fixtures.map Fixture.catalogId) := by
    have hok : indexFixtures dependencies fixtures = .ok next := by
      revert h
      rw [step]
      cases indexFixtures dependencies fixtures <;> simp [Except.toOption]
    simp only [indexFixtures, ite_eq_iff, reduceCtorEq, and_false, false_or, bind_eq_ok] at hok
    obtain ⟨-, _, -, _, -, -, hnext⟩ := hok
    exact (Except.ok.inj hnext).symm
  rw [Depends, List.mem_union_iff, List.mem_filter, decide_eq_true_iff,
    and_comm (a := _ ∈ dependencies)]

theorem mem_of_edges (h : Depends (edges fixtures) child parent) :
    child ∈ fixtures.map Fixture.catalogId ∧ parent ∈ fixtures.map Fixture.catalogId := by
  obtain ⟨fixture, hfixture, hparent⟩ := List.mem_flatMap.mp h
  obtain ⟨name, -, hname⟩ := List.mem_filterMap.mp hparent
  obtain ⟨other, hoth, hpair⟩ := Option.map_eq_some_iff.mp hname
  cases hpair
  exact ⟨List.mem_map_of_mem hfixture, List.mem_map_of_mem (List.mem_of_find?_eq_some hoth)⟩

theorem acyclic_step (h : step dependencies fixtures = some next)
    (hold : Acyclic (Depends dependencies)) (hnew : Acyclic (Depends (edges fixtures))) :
    Acyclic (Depends next) := by
  refine acyclic_replace (s := {id | id ∈ fixtures.map Fixture.catalogId}) (fun x hx y hxy => ?_)
    (fun x hx y hxy => ?_) hold hnew
  · rcases (depends_step h).mp hxy with hedge | ⟨hout, -⟩
    · exact ⟨hedge, (mem_of_edges hedge).2⟩
    · exact absurd hx hout
  · rcases (depends_step h).mp hxy with hedge | ⟨-, hkept⟩
    · exact absurd (mem_of_edges hedge).1 hx
    · exact hkept

theorem acyclic_exec (h : exec step [] manifests = some dependencies)
    (hmanifests : ∀ fixtures ∈ manifests, Acyclic (Depends (edges fixtures))) :
    Acyclic (Depends dependencies) := by
  refine exec_history (I := fun manifests stored =>
    (∀ fixtures ∈ manifests, Acyclic (Depends (edges fixtures))) → Acyclic (Depends stored))
    (fun _ x hx => ?_) (fun manifests u fixtures v _ ih hstep hall => ?_) h hmanifests
  · obtain ⟨_, hfst, -⟩ := TransGen.head'_iff.mp hx
    cases hfst
  · obtain ⟨hold, hnew⟩ := List.forall_mem_append.mp hall
    exact acyclic_step hstep (ih hold) (hnew _ (List.mem_singleton_self _))

/-- **The stored dependencies are acyclic after each call exactly if every manifest is acyclic
between its contents; and what a call leaves for its entries is what its manifest declares.** -/
theorem dependencies_acyclic_iff (h : exec step [] manifests = some dependencies) :
    ((∀ before after stored, manifests = before ++ after → exec step [] before = some stored →
        Acyclic (Depends stored)) ↔
      ∀ fixtures ∈ manifests, Acyclic (Depends (edges fixtures))) ∧
    ∀ fixtures next, step dependencies fixtures = some next →
      ∀ child ∈ fixtures.map Fixture.catalogId, ∀ parent,
        Depends next child parent ↔ Depends (edges fixtures) child parent := by
  refine ⟨⟨fun hall fixtures hmem => ?_, fun hall before after stored hsplit hstored => ?_⟩,
    fun fixtures next hstep child hmem parent => ?_⟩
  · obtain ⟨before, after, rfl⟩ := List.append_of_mem hmem
    rw [List.append_cons] at h hall
    obtain ⟨stored, hstored, -⟩ := exec_append.mp h
    obtain ⟨earlier, -, hstep⟩ := exec_concat.mp hstored
    exact fun x hx => hall _ after stored rfl hstored x
      (TransGen.mono (fun _ _ h => (depends_step hstep).mpr (.inl h)) x x hx)
  · exact acyclic_exec hstored fun fixtures hmem =>
      hall fixtures (hsplit ▸ List.mem_append_left _ hmem)
  · rw [depends_step hstep]
    exact or_iff_left fun hout => hout.1 hmem

def sampleFixture (name digest : String) (dependsOn : List String) : Fixture :=
  { fixtureId := name, evidenceType := "log", contentDigest := digest, dependsOn := dependsOn }

/-- Two names for each of two contents. -/
def sampleManifest : List Fixture :=
  [sampleFixture "f1" "sha256:x" ["f2"], sampleFixture "f2" "sha256:y" [],
    sampleFixture "f3" "sha256:y" ["f4"], sampleFixture "f4" "sha256:x" []]

/-- The first two names of the manifest alone. -/
theorem dependencies_acyclic_sample : ∃ stored, exec step [] [sampleManifest.take 2] = some stored ∧
    Acyclic (Depends stored) := by
  obtain ⟨stored, h⟩ : ∃ stored, exec step [] [sampleManifest.take 2] = some stored := ⟨_, rfl⟩
  refine ⟨stored, h, (dependencies_acyclic_iff h).1.mpr ?_ _ [] stored rfl h⟩
  intro fixtures hmem x hx
  obtain rfl := List.mem_singleton.mp hmem
  obtain ⟨_, hfirst, -⟩ := TransGen.head'_iff.mp hx
  obtain ⟨_, -, hlast⟩ := TransGen.tail'_iff.mp hx
  have hsame := (Prod.mk.inj (List.mem_singleton.mp hfirst)).1.symm.trans
    (Prod.mk.inj (List.mem_singleton.mp hlast)).2
  exact absurd hsame (by decide)

/-- A manifest without a cycle of names is accepted and stores a cycle. -/
theorem cycle_stored : ∃ stored, exec step [] [sampleManifest] = some stored ∧
    ¬ Acyclic (Depends stored) :=
  ⟨_, rfl, fun h => h ("log", "sha256:x")
    (.tail (b := ("log", "sha256:y")) (.single (by decide)) (by decide))⟩

/-- The last manifest with an entry. -/
def latest (manifests : List (List Fixture)) (id : CatalogId) : Option (List Fixture) :=
  manifests.reverse.find? (id ∈ ·.map Fixture.catalogId)

/-- **The last manifest with an entry decides its dependencies.** -/
theorem depends_iff_latest (h : exec step [] manifests = some dependencies) :
    Depends dependencies child parent ↔
      ∃ last, latest manifests child = some last ∧ Depends (edges last) child parent := by
  induction manifests using List.reverseRecOn generalizing dependencies with
  | nil =>
    cases h
    simp [latest]
  | append_singleton manifests fixtures ih =>
    obtain ⟨before, hbefore, hstep⟩ := exec_concat.mp h
    simp only [latest, List.reverse_concat, List.find?_cons] at ih ⊢
    rw [depends_step hstep, ih hbefore]
    by_cases hmem : child ∈ fixtures.map Fixture.catalogId
    · simp [hmem]
    · -- a manifest has no edge of an entry that it does not contain
      have hnone : ¬ Depends (edges fixtures) child parent := fun h => hmem (mem_of_edges h).1
      simp only [hmem, hnone, not_false_eq_true, true_and, false_or, decide_false]

/-- The first name of the sample, without its dependency. -/
def replacingManifest : List Fixture := [sampleFixture "f1" "sha256:x" []]

/-- The second manifest takes back what the first one declares. -/
theorem depends_latest_sample : ∃ stored,
    exec step [] [sampleManifest.take 2, replacingManifest] = some stored ∧
      ¬ Depends stored ("log", "sha256:x") ("log", "sha256:y") := by
  obtain ⟨stored, hrun⟩ : ∃ stored,
    exec step [] [sampleManifest.take 2, replacingManifest] = some stored := ⟨_, rfl⟩
  refine ⟨stored, hrun, fun h => ?_⟩
  obtain ⟨last, hlast, hdepends⟩ := (depends_iff_latest hrun).mp h
  cases hlast
  exact absurd hdepends (by decide)

end Valp.Catalog
