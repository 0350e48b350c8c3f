import DataLifecycle.Runner.VersionedTarget

/-!
# Convergence of the versioned target

The rows of the target depend on which events were delivered, and not on their order or
their repetitions, because the identity of a row determines the event's source and
version.  The read then takes the greatest version of each source before it looks at
tombstones and predicates.
-/

namespace DataLifecycle.Runner.VersionedTarget

open Python Outbox

variable {F : Type} [FloatText F]

/-! ## Sources -/

omit [FloatText F] in
/-- The scope as JSON data. -/
def scopeData (scope : Dict Str Str) : Json F :=
  .object (scope.items.map fun item => (item.1, .str item.2))

omit [FloatText F] in
theorem distinctKeys_scopeData (scope : Dict Str Str) :
    (scopeData scope : Json F).DistinctKeys := by
  refine ⟨?_, Json.distinctKeysMembers_iff.mpr ?_⟩
  · simpa [Function.comp_def] using scope.nodup
  · intro member memberMem
    obtain ⟨item, -, rfl⟩ := List.mem_map.mp memberMem
    trivial

theorem pinnedScope_eq (scope : Dict Str Str) :
    (pinnedScope scope : Except Exc (PyValue F)) = .ok (scopeData scope).sortKeys.toPy := by
  have printable : (scopeData scope : Json F).intsPrintable = true := by
    rw [scopeData, Json.intsPrintable, Json.intsPrintableMembers_iff]
    intro member memberMem
    obtain ⟨item, -, rfl⟩ := List.mem_map.mp memberMem
    rfl
  have held : mappingPy (scope.items.map fun item => (item.1, .str item.2)) =
      (scopeData scope : Json F).toPy := by
    rw [scopeData, Json.toPy, Json.toPyMembers_eq_map, mappingPy]
    simp [Json.toPy]
  rw [pinnedScope, held, canonical_toPy _ (distinctKeys_scopeData scope), if_pos printable]
  exact loads_print_sortKeys printable (distinctKeys_scopeData scope)

omit [FloatText F] in
/-- The material of a source key as JSON data. -/
def keyData (scope : Dict Str Str) (context : ProjectionContext F) : Json F :=
  .array [.str context.projection, (scopeData scope).sortKeys, .str context.sourceCatalog,
    .str context.sourceResource, context.sourceIdentity]

omit [FloatText F] in
theorem keyMaterial_eq (scope : Dict Str Str) (context : ProjectionContext F) :
    keyMaterial (scopeData scope).sortKeys.toPy context = (keyData scope context).toPy :=
  rfl

omit [FloatText F] in
/-- Two events of one source: the same projection, Catalog, Resource and identity. -/
structure SameSource (first second : ProjectionContext F) : Prop where
  projection : first.projection = second.projection
  sourceCatalog : first.sourceCatalog = second.sourceCatalog
  sourceResource : first.sourceResource = second.sourceResource
  sourceIdentity : first.sourceIdentity.Same second.sourceIdentity

omit [FloatText F] in
theorem distinctKeys_keyData (scope : Dict Str Str) (event : Event F) :
    (keyData scope event.context).DistinctKeys :=
  ⟨trivial, Json.distinctKeys_sortKeys _ (distinctKeys_scopeData scope), trivial, trivial,
    event.identity_distinct, trivial⟩

omit [FloatText F] in
theorem sameSource_iff_sortKeys_keyData_eq (scope : Dict Str Str) (first second : Event F) :
    SameSource first.context second.context ↔
      (keyData scope first.context).sortKeys = (keyData scope second.context).sortKeys := by
  simp only [keyData, Json.sortKeys, Json.sortItems, Json.array.injEq, List.cons.injEq,
    Json.str.injEq, and_true, true_and,
    ← Json.same_iff_sortKeys_eq _ _ first.identity_distinct second.identity_distinct]
  constructor
  · rintro ⟨projection, catalog, resource, identity⟩
    exact ⟨projection, catalog, resource, identity⟩
  · rintro ⟨projection, catalog, resource, identity⟩
    exact ⟨projection, catalog, resource, identity⟩

/-- The bytes that `digest` hashes while the projector handles the events. -/
inductive Hashed (scope : Dict Str Str) (events : List (Event F)) : Bytes → Prop
  | key {event : Event F} {pinned : PyValue F} {bytes : Bytes} (member : event ∈ events)
      (pinning : pinnedScope scope = .ok pinned)
      (encoded : canonicalBytes (keyMaterial pinned event.context) = .ok bytes) :
      Hashed scope events bytes
  | id {event : Event F} {pinned : PyValue F} {sourceKey : Str} {version : Int} {bytes : Bytes}
      (member : event ∈ events) (pinning : pinnedScope scope = .ok pinned)
      (keyed : digest (keyMaterial pinned event.context) = .ok sourceKey)
      (versioned : event.context.sourceVersion = some (.number version))
      (encoded : canonicalBytes (idMaterial (F := F) sourceKey version) = .ok bytes) :
      Hashed scope events bytes

/-! ## Rows -/

/-- The row of an accepted event, with what the projector computed for it. -/
structure Projects (pinned : PyValue F) (event : Event F) (row : Row F) (id sourceKey : Str)
    (version : Int) (deleted : Bool) (document : PyValue F) : Prop where
  versioned : event.context.sourceVersion = some (.number version)
  keyed : digest (keyMaterial pinned event.context) = .ok sourceKey
  flagged : deletedFlag event.source = .ok deleted
  identified : digest (idMaterial (F := F) sourceKey version) = .ok id
  documented : (canonical (mappingPy event.source.items) >>= loads) = .ok document
  row_eq : row = versionRow id sourceKey version
    (deleted || decide (event.context.mutationKind = str "delete")) document

omit [FloatText F] in
theorem integerVersion_versionPy_eq_ok_iff {version : Option Version} {value : Int} :
    integerVersion (versionPy version : PyValue F) = .ok value ↔ version = some (.number value) := by
  rcases version with _ | text | number | flag <;> simp [versionPy, integerVersion]

theorem projectedRow_eq_ok_iff {pinned : PyValue F} {event : Event F} {row : Row F} :
    projectedRow pinned event = .ok row ↔
      ∃ id sourceKey version deleted document,
        Projects pinned event row id sourceKey version deleted document := by
  simp only [projectedRow, bind_eq_ok_iff, integerVersion_versionPy_eq_ok_iff]
  constructor
  · rintro ⟨version, versioned, sourceKey, keyed, deleted, flagged, id, identified, text, written,
      document, parsed, equal⟩
    cases equal
    exact ⟨id, sourceKey, version, deleted, document, versioned, keyed, flagged, identified,
      bind_eq_ok_iff.mpr ⟨text, written, parsed⟩, rfl⟩
  · rintro ⟨id, sourceKey, version, deleted, document, versioned, keyed, flagged, identified,
      documented, rfl⟩
    obtain ⟨text, written, parsed⟩ := bind_eq_ok_iff.mp documented
    exact ⟨version, versioned, sourceKey, keyed, deleted, flagged, id, identified, text, written,
      document, parsed, rfl⟩

/-- The same payload: the same canonical text and the same `deleted` member.  Mappings that
differ in the order of their items are the same payload. -/
structure SamePayload (first second : Dict Str (PyValue F)) : Prop where
  text : canonical (mappingPy first.items) = canonical (mappingPy second.items)
  deleted : first.get? (str "deleted") = second.get? (str "deleted")

/-- Events of one source and one integer version carry the same payload and mutation kind. -/
def VersionsAgree (events : List (Event F)) : Prop :=
  ∀ first ∈ events, ∀ second ∈ events, SameSource first.context second.context →
    ∀ version, first.context.sourceVersion = some (.number version) →
      second.context.sourceVersion = some (.number version) →
      SamePayload first.source second.source ∧
        first.context.mutationKind = second.context.mutationKind

section Identified

variable {scope : Dict Str Str} {events : List (Event F)} {pinned : PyValue F}

/-- Without collisions, a source key is the key of one source. -/
theorem key_eq_iff_sameSource (collisionFree : Set.InjOn sha256Hex (Hashed scope events))
    (pinning : pinnedScope scope = .ok pinned) {first second : Event F} (firstMem : first ∈ events)
    (secondMem : second ∈ events) {firstKey secondKey : Str}
    (firstKeyed : digest (keyMaterial pinned first.context) = .ok firstKey)
    (secondKeyed : digest (keyMaterial pinned second.context) = .ok secondKey) :
    firstKey = secondKey ↔ SameSource first.context second.context := by
  obtain ⟨firstBytes, firstEncoded, rfl⟩ := digest_eq_ok_iff.mp firstKeyed
  obtain ⟨secondBytes, secondEncoded, rfl⟩ := digest_eq_ok_iff.mp secondKeyed
  have hashes : sha256Hex firstBytes = sha256Hex secondBytes ↔ firstBytes = secondBytes :=
    collisionFree.eq_iff (.key firstMem pinning firstEncoded) (.key secondMem pinning secondEncoded)
  have firstDistinct := distinctKeys_keyData scope first
  have secondDistinct := distinctKeys_keyData scope second
  cases (pinnedScope_eq scope).symm.trans pinning
  rw [keyMaterial_eq, canonicalBytes_toPy firstDistinct] at firstEncoded
  rw [keyMaterial_eq, canonicalBytes_toPy secondDistinct] at secondEncoded
  rw [hashes, jsonBytes_eq_iff_same firstEncoded secondEncoded firstDistinct secondDistinct,
    Json.same_iff_sortKeys_eq _ _ firstDistinct secondDistinct,
    sameSource_iff_sortKeys_keyData_eq scope]

/-- Without collisions, the identity of a row is that of one source key and version. -/
theorem id_eq_iff (collisionFree : Set.InjOn sha256Hex (Hashed scope events))
    (pinning : pinnedScope scope = .ok pinned) {first second : Event F} (firstMem : first ∈ events)
    (secondMem : second ∈ events) {firstRow secondRow : Row F}
    {firstId secondId firstKey secondKey : Str} {firstVersion secondVersion : Int}
    {firstDeleted secondDeleted : Bool} {firstDocument secondDocument : PyValue F}
    (firstProjects : Projects pinned first firstRow firstId firstKey firstVersion firstDeleted
      firstDocument)
    (secondProjects : Projects pinned second secondRow secondId secondKey secondVersion
      secondDeleted secondDocument) :
    firstId = secondId ↔ firstKey = secondKey ∧ firstVersion = secondVersion := by
  obtain ⟨firstBytes, firstEncoded, rfl⟩ := digest_eq_ok_iff.mp firstProjects.identified
  obtain ⟨secondBytes, secondEncoded, rfl⟩ := digest_eq_ok_iff.mp secondProjects.identified
  have hashes : sha256Hex firstBytes = sha256Hex secondBytes ↔ firstBytes = secondBytes :=
    collisionFree.eq_iff
      (.id firstMem pinning firstProjects.keyed firstProjects.versioned firstEncoded)
      (.id secondMem pinning secondProjects.keyed secondProjects.versioned secondEncoded)
  have distinct : ∀ (key : Str) (version : Int),
      (Json.array [.str key, .int version] : Json F).DistinctKeys := fun _ _ =>
    ⟨trivial, trivial, trivial⟩
  have data : ∀ (key : Str) (version : Int),
      idMaterial (F := F) key version = (Json.array [.str key, .int version]).toPy := fun _ _ => rfl
  rw [data, canonicalBytes_toPy (distinct _ _)] at firstEncoded secondEncoded
  rw [hashes, jsonBytes_eq_iff_same firstEncoded secondEncoded (distinct _ _) (distinct _ _)]
  simp [Json.Same, Json.SameItems]

/-- Events of one source key and version have the same row. -/
theorem row_eq_of_key_eq (collisionFree : Set.InjOn sha256Hex (Hashed scope events))
    (pinning : pinnedScope scope = .ok pinned) (agree : VersionsAgree events)
    {first second : Event F} (firstMem : first ∈ events) (secondMem : second ∈ events)
    {firstRow secondRow : Row F} {firstId secondId key : Str} {version : Int}
    {firstDeleted secondDeleted : Bool} {firstDocument secondDocument : PyValue F}
    (firstProjects : Projects pinned first firstRow firstId key version firstDeleted firstDocument)
    (secondProjects : Projects pinned second secondRow secondId key version secondDeleted
      secondDocument) : firstRow = secondRow := by
  have sameSource := (key_eq_iff_sameSource collisionFree pinning firstMem secondMem
    firstProjects.keyed secondProjects.keyed).mp rfl
  obtain ⟨payload, kind⟩ := agree first firstMem second secondMem sameSource version
    firstProjects.versioned secondProjects.versioned
  have sameId := firstProjects.identified.symm.trans secondProjects.identified
  have sameDocument := firstProjects.documented
  rw [payload.text, secondProjects.documented] at sameDocument
  have sameFlag := firstProjects.flagged
  rw [deletedFlag, payload.deleted, ← deletedFlag, secondProjects.flagged] at sameFlag
  cases sameId
  cases sameDocument
  cases sameFlag
  rw [firstProjects.row_eq, secondProjects.row_eq, kind]

end Identified

/-! ## The target table -/

section Rows

omit [FloatText F]

/-- The identity that a row is stored under. -/
def rowId (row : Row F) : Str := (textOf (Dict.lookup (str "id") row)).getD []

/-- The source key of a row. -/
def rowKey (row : Row F) : Str := (textOf (Dict.lookup (str "sourceKey") row)).getD []

/-- The version of a row. -/
def versionOf (row : Row F) : Int :=
  match Dict.lookup (str "sourceVersion") row with
  | some (.int version) => version
  | _ => 0

/-- A row with the members that the projector writes. -/
def IsVersionRow (row : Row F) : Prop :=
  ∃ id sourceKey version deleted document, row = versionRow id sourceKey version deleted document

section Members

variable (id sourceKey : Str) (version : Int) (deleted : Bool) (document : PyValue F)

@[simp]
theorem lookup_id_versionRow :
    Dict.lookup (str "id") (versionRow id sourceKey version deleted document) = some (.str id) := by
  simp [versionRow, Dict.lookup]

@[simp]
theorem lookup_sourceKey_versionRow :
    Dict.lookup (str "sourceKey") (versionRow id sourceKey version deleted document) =
      some (.str sourceKey) := by
  have ne : str "id" ≠ str "sourceKey" := by decide
  simp [versionRow, Dict.lookup, ne]

@[simp]
theorem lookup_sourceVersion_versionRow :
    Dict.lookup (str "sourceVersion") (versionRow id sourceKey version deleted document) =
      some (.int version) := by
  have ne : str "id" ≠ str "sourceVersion" := by decide
  have keyNe : str "sourceKey" ≠ str "sourceVersion" := by decide
  simp [versionRow, Dict.lookup, ne, keyNe]

@[simp]
theorem lookup_deleted_versionRow :
    Dict.lookup (str "deleted") (versionRow id sourceKey version deleted document) =
      some (.bool deleted) := by
  have ne : str "id" ≠ str "deleted" := by decide
  have keyNe : str "sourceKey" ≠ str "deleted" := by decide
  have versionNe : str "sourceVersion" ≠ str "deleted" := by decide
  simp [versionRow, Dict.lookup, ne, keyNe, versionNe]

@[simp]
theorem rowId_versionRow : rowId (versionRow id sourceKey version deleted document) = id := by
  simp [rowId, textOf]

@[simp]
theorem rowKey_versionRow :
    rowKey (versionRow id sourceKey version deleted document) = sourceKey := by
  simp [rowKey, textOf]

@[simp]
theorem versionOf_versionRow :
    versionOf (versionRow id sourceKey version deleted document) = version := by
  simp [versionOf]

end Members

theorem textItems_mappingItems (row : Row F) :
    textItems (row.map fun item => ((.str item.1 : PyValue F), item.2)) = some row := by
  induction row with
  | nil => rfl
  | cons item rest inductionHypothesis =>
      rw [List.map_cons, textItems, inductionHypothesis]
      rfl

theorem putRow_putUpsert (target : Str) {row : Row F} (isRow : IsVersionRow row) :
    putRow (putUpsert target row) = some (rowId row, row) := by
  obtain ⟨id, sourceKey, version, deleted, document, rfl⟩ := isRow
  have resourceNe : str "resource" ≠ str "data" := by decide
  have modeNe : str "mode" ≠ str "data" := by decide
  simp only [putRow, putUpsert, getMember, if_neg resourceNe, if_neg modeNe, if_true, mappingPy,
    textItems_mappingItems, lookup_id_versionRow, rowId_versionRow]

end Rows

/-- The rows of the events that the projector accepts. -/
def acceptedRows (pinned : PyValue F) (events : List (Event F)) : List (Row F) :=
  events.filterMap fun event => (projectedRow pinned event).toOption

theorem mem_acceptedRows_iff {pinned : PyValue F} {events : List (Event F)} {row : Row F} :
    row ∈ acceptedRows pinned events ↔ ∃ event ∈ events, projectedRow pinned event = .ok row := by
  rw [acceptedRows, List.mem_filterMap]
  constructor
  · rintro ⟨event, member, accepted⟩
    refine ⟨event, member, ?_⟩
    cases projected : projectedRow pinned event with
    | error error => simp [projected, Except.toOption] at accepted
    | ok found => simpa [projected, Except.toOption] using accepted
  · rintro ⟨event, member, projected⟩
    exact ⟨event, member, by rw [projected]; rfl⟩

theorem isVersionRow_of_projectedRow {pinned : PyValue F} {event : Event F} {row : Row F}
    (projected : projectedRow pinned event = .ok row) : IsVersionRow row := by
  obtain ⟨id, sourceKey, version, deleted, document, projects⟩ := projectedRow_eq_ok_iff.mp projected
  exact ⟨_, _, _, _, _, projects.row_eq⟩

theorem deliver_project (target : Str) (pinned : PyValue F) (table : Dict Str (Row F))
    (event : Event F) :
    deliver (project target pinned) table event =
      match (projectedRow pinned event).toOption with
      | some row => table.set (rowId row) row
      | none => table := by
  cases projected : projectedRow pinned event with
  | error error =>
      have raised : project target pinned event = .error error := by
        rw [project, projected]
        rfl
      rw [deliver, raised]
      rfl
  | ok row =>
      have returned : project target pinned event = .ok (putUpsert target row) := by
        rw [project, projected]
        rfl
      rw [deliver, returned]
      simp only [upsert, putRow_putUpsert target (isVersionRow_of_projectedRow projected),
        Except.toOption]

/-- The deliveries store the rows of the accepted events one after another. -/
theorem deliverAll_project (target : Str) (pinned : PyValue F) (events : List (Event F)) :
    deliverAll (project target pinned) events = Dict.upsertAll rowId (acceptedRows pinned events) := by
  rw [deliverAll, Dict.upsertAll, acceptedRows, List.foldl_filterMap]
  congr 1
  funext table event
  rw [deliver_project]
  cases (projectedRow pinned event).toOption <;> rfl

/-! ## The read -/

section Read

omit [FloatText F]

theorem checkedKey_of_isVersionRow {row : Row F} (isRow : IsVersionRow row) :
    checkedKey row = .ok (rowKey row) := by
  obtain ⟨id, sourceKey, version, deleted, document, rfl⟩ := isRow
  simp [checkedKey, subscript, bind, Except.bind]

theorem rowVersion_of_isVersionRow {row : Row F} (isRow : IsVersionRow row) :
    rowVersion row = .ok (versionOf row) := by
  obtain ⟨id, sourceKey, version, deleted, document, rfl⟩ := isRow
  simp [rowVersion, subscript, integerVersion, bind, Except.bind]

/-- One pass of the loop keeps the greater version. -/
theorem keepLatest_eq {latest : Dict Str (Row F)} {row : Row F} (isRow : IsVersionRow row)
    (keptRows : ∀ key kept, latest.get? key = some kept → IsVersionRow kept) :
    keepLatest latest row = .ok (Dict.keepGreatest rowKey versionOf latest row) := by
  simp only [keepLatest, checkedKey_of_isVersionRow isRow, rowVersion_of_isVersionRow isRow, bind,
    Except.bind, Dict.keepGreatest]
  cases present : latest.get? (rowKey row) with
  | none => rfl
  | some kept =>
      simp only [rowVersion_of_isVersionRow (keptRows _ _ present)]
      split <;> rfl

theorem foldlM_keepLatest (rows : List (Row F)) (isRows : ∀ row ∈ rows, IsVersionRow row)
    (latest : Dict Str (Row F))
    (keptRows : ∀ key kept, latest.get? key = some kept → IsVersionRow kept) :
    rows.foldlM keepLatest latest =
      .ok (rows.foldl (Dict.keepGreatest rowKey versionOf) latest) := by
  induction rows generalizing latest with
  | nil => rfl
  | cons row rest inductionHypothesis =>
      have isRow := isRows row List.mem_cons_self
      rw [List.foldlM_cons, keepLatest_eq isRow keptRows, List.foldl_cons]
      apply inductionHypothesis fun other member => isRows other (List.mem_cons_of_mem _ member)
      intro key kept present
      rcases Dict.get?_keepGreatest present with rfl | earlier
      · exact isRow
      · exact keptRows key kept earlier

theorem latestVisible_eq {rows : List (Row F)} (isRows : ∀ row ∈ rows, IsVersionRow row)
    (selects : Row F → Bool) :
    latestVisible rows selects =
      .ok ((((Dict.greatest rowKey versionOf rows).items.insertionSort
        fun first second => first.1 ≤ second.1).map Prod.snd).filter (isVisible selects)) := by
  rw [latestVisible, foldlM_keepLatest rows isRows Dict.empty (by simp)]
  rfl

/-- The read returns the rows of the greatest version under each key that are visible, in
the order of their keys. -/
theorem latestVisible_spec {rows : List (Row F)} (isRows : ∀ row ∈ rows, IsVersionRow row)
    (determined : ∀ first ∈ rows, ∀ second ∈ rows, rowKey first = rowKey second →
      versionOf first = versionOf second → first = second) (selects : Row F → Bool) :
    ∃ visible, latestVisible rows selects = .ok visible ∧
      visible.Pairwise (fun first second => rowKey first < rowKey second) ∧
      ∀ row, row ∈ visible ↔
        Dict.IsGreatest rowKey versionOf rows row ∧ isVisible selects row = true := by
  have found : ∀ key row, (key, row) ∈ (Dict.greatest rowKey versionOf rows).items ↔
      rowKey row = key ∧ Dict.IsGreatest rowKey versionOf rows row := fun key row =>
    (Dict.get?_eq_some_iff _).symm.trans (Dict.get?_greatest_iff determined)
  refine ⟨_, latestVisible_eq isRows selects, ?_, ?_⟩
  · apply List.Pairwise.filter
    rw [List.pairwise_map]
    have ordered := Dict.pairwise_lt_insertionSort_items (Dict.greatest rowKey versionOf rows)
    refine ordered.imp_of_mem fun {first second} firstMem secondMem less => ?_
    rw [List.mem_insertionSort] at firstMem secondMem
    rw [((found first.1 first.2).mp firstMem).1, ((found second.1 second.2).mp secondMem).1]
    exact less
  · intro row
    rw [List.mem_filter, List.mem_map]
    constructor
    · rintro ⟨⟨⟨key, _⟩, member, rfl⟩, visible⟩
      rw [List.mem_insertionSort] at member
      exact ⟨((found key _).mp member).2, visible⟩
    · rintro ⟨isGreatest, visible⟩
      refine ⟨⟨(rowKey row, row), ?_, rfl⟩, visible⟩
      rw [List.mem_insertionSort]
      exact (found (rowKey row) row).mpr ⟨rfl, isGreatest⟩

end Read

/-! ## Convergence -/

section Convergence

variable {structured : Except Exc Unit} {target : Str} {scope : Dict Str Str}
  {projector : Event F → Except Exc (Expression F)} {events replays : List (Event F)}

/-- The projector accepts the event and upserts the row. -/
def Accepts (projector : Event F → Except Exc (Expression F)) (target : Str) (event : Event F)
    (row : Row F) : Prop :=
  projector event = .ok (putUpsert target row)

omit [FloatText F] in
/-- The version of the first event is not greater than the version of the second. -/
def VersionLE (first second : ProjectionContext F) : Prop :=
  ∀ firstVersion secondVersion, first.sourceVersion = some (.number firstVersion) →
    second.sourceVersion = some (.number secondVersion) → firstVersion ≤ secondVersion

/-- An accepted event whose version is the greatest delivered for its source, and its row. -/
structure IsLatest (projector : Event F → Except Exc (Expression F)) (target : Str)
    (events : List (Event F)) (event : Event F) (row : Row F) : Prop where
  member : event ∈ events
  accepted : Accepts projector target event row
  greatest : ∀ other ∈ events, (∃ otherRow, Accepts projector target other otherRow) →
    SameSource other.context event.context → VersionLE other.context event.context

/-- The rows to be visible after the events: for each delivered source the row of its
greatest version, if that row is not a tombstone and matches, in the order of the keys. -/
structure IsVisible (projector : Event F → Except Exc (Expression F)) (target : Str)
    (events : List (Event F)) (selects : Row F → Bool) (visible : List (Row F)) : Prop where
  ordered : visible.Pairwise fun first second => rowKey first < rowKey second
  mem_iff : ∀ row, row ∈ visible ↔ (∃ event, IsLatest projector target events event row) ∧
    Dict.lookup (str "deleted") row = some (.bool false) ∧ selects row = true

/-- A delivery that an accepted event of the same source and at least its version precedes
or follows. -/
def Superseded (projector : Event F → Except Exc (Expression F)) (target : Str)
    (events : List (Event F)) (replay : Event F) : Prop :=
  ∃ event ∈ events, (∃ row, Accepts projector target event row) ∧
    SameSource replay.context event.context ∧ VersionLE replay.context event.context

omit [FloatText F] in
theorem SameSource.symm {first second : Event F}
    (same : SameSource first.context second.context) : SameSource second.context first.context := by
  rw [sameSource_iff_sortKeys_keyData_eq Dict.empty] at same ⊢
  exact same.symm

omit [FloatText F] in
theorem SameSource.trans {first second third : Event F}
    (same : SameSource first.context second.context)
    (next : SameSource second.context third.context) : SameSource first.context third.context := by
  rw [sameSource_iff_sortKeys_keyData_eq Dict.empty] at same next ⊢
  exact same.trans next

omit [FloatText F] in
theorem mappingPy_injective {first second : Row F} (equal : mappingPy first = mappingPy second) :
    first = second := by
  have read := congrArg textItems (PyValue.mapping.inj equal)
  rw [textItems_mappingItems, textItems_mappingItems] at read
  exact Option.some.inj read

theorem makeProjector_eq_ok_iff :
    makeProjector structured target scope = .ok projector ↔
      structured = .ok () ∧ ∃ pinned, pinnedScope scope = .ok pinned ∧
        projector = project target pinned := by
  rw [makeProjector, check_bind_eq_ok_iff, bind_eq_ok_iff]
  constructor
  · rintro ⟨started, pinned, pinning, equal⟩
    cases equal
    exact ⟨started, pinned, pinning, rfl⟩
  · rintro ⟨started, pinned, pinning, rfl⟩
    exact ⟨started, pinned, pinning, rfl⟩

theorem accepts_iff {pinned : PyValue F} {event : Event F} {row : Row F} :
    Accepts (project target pinned) target event row ↔ projectedRow pinned event = .ok row := by
  rw [Accepts, project, bind_eq_ok_iff]
  constructor
  · rintro ⟨found, projected, equal⟩
    have data := congrArg (fun expression => getMember (str "data") expression.arguments)
      (Except.ok.inj equal)
    have sameRow : mappingPy found = mappingPy row := by
      have resourceNe : str "resource" ≠ str "data" := by decide
      have modeNe : str "mode" ≠ str "data" := by decide
      simpa [putUpsert, getMember, resourceNe, modeNe] using data
    rw [← mappingPy_injective sameRow]
    exact projected
  · intro projected
    exact ⟨row, projected, rfl⟩

section Delivered

variable {pinned : PyValue F} (collisionFree : Set.InjOn sha256Hex (Hashed scope events))
  (pinning : pinnedScope scope = .ok pinned)

include collisionFree pinning

/-- Accepted events have the same source exactly if their rows have the same key. -/
theorem rowKey_eq_iff_sameSource {first second : Event F} {firstRow secondRow : Row F}
    (firstMem : first ∈ events) (secondMem : second ∈ events)
    (firstProjected : projectedRow pinned first = .ok firstRow)
    (secondProjected : projectedRow pinned second = .ok secondRow) :
    rowKey firstRow = rowKey secondRow ↔ SameSource first.context second.context := by
  obtain ⟨firstId, firstKey, firstVersion, firstDeleted, firstDocument, firstProjects⟩ :=
    projectedRow_eq_ok_iff.mp firstProjected
  obtain ⟨secondId, secondKey, secondVersion, secondDeleted, secondDocument, secondProjects⟩ :=
    projectedRow_eq_ok_iff.mp secondProjected
  rw [firstProjects.row_eq, secondProjects.row_eq, rowKey_versionRow, rowKey_versionRow]
  exact key_eq_iff_sameSource collisionFree pinning firstMem secondMem firstProjects.keyed
    secondProjects.keyed

omit collisionFree pinning in
theorem versionOf_of_projectedRow {event : Event F} {row : Row F}
    (projected : projectedRow pinned event = .ok row) :
    event.context.sourceVersion = some (.number (versionOf row)) := by
  obtain ⟨id, sourceKey, version, deleted, document, projects⟩ := projectedRow_eq_ok_iff.mp projected
  rw [projects.row_eq, versionOf_versionRow]
  exact projects.versioned

omit collisionFree pinning in
theorem versionLE_iff {first second : Event F} {firstRow secondRow : Row F}
    (firstProjected : projectedRow pinned first = .ok firstRow)
    (secondProjected : projectedRow pinned second = .ok secondRow) :
    VersionLE first.context second.context ↔ versionOf firstRow ≤ versionOf secondRow := by
  have firstVersioned := versionOf_of_projectedRow firstProjected
  have secondVersioned := versionOf_of_projectedRow secondProjected
  constructor
  · intro le
    exact le _ _ firstVersioned secondVersioned
  · intro le firstVersion secondVersion isFirst isSecond
    cases firstVersioned.symm.trans isFirst
    cases secondVersioned.symm.trans isSecond
    exact le

variable (agree : VersionsAgree events)

include agree

/-- Key and version determine the row of an accepted event. -/
theorem acceptedRow_eq {first second : Row F} (firstMem : first ∈ acceptedRows pinned events)
    (secondMem : second ∈ acceptedRows pinned events) (sameKey : rowKey first = rowKey second)
    (sameVersion : versionOf first = versionOf second) : first = second := by
  obtain ⟨firstEvent, firstDelivered, firstProjected⟩ := mem_acceptedRows_iff.mp firstMem
  obtain ⟨secondEvent, secondDelivered, secondProjected⟩ := mem_acceptedRows_iff.mp secondMem
  obtain ⟨firstId, firstKey, firstVersion, firstDeleted, firstDocument, firstProjects⟩ :=
    projectedRow_eq_ok_iff.mp firstProjected
  obtain ⟨secondId, secondKey, secondVersion, secondDeleted, secondDocument, secondProjects⟩ :=
    projectedRow_eq_ok_iff.mp secondProjected
  rw [firstProjects.row_eq, secondProjects.row_eq, rowKey_versionRow, rowKey_versionRow] at sameKey
  rw [firstProjects.row_eq, secondProjects.row_eq, versionOf_versionRow,
    versionOf_versionRow] at sameVersion
  subst sameKey
  subst sameVersion
  exact row_eq_of_key_eq collisionFree pinning agree firstDelivered secondDelivered firstProjects
    secondProjects

/-- The identity of a row determines the row. -/
theorem acceptedRow_eq_of_rowId_eq {first second : Row F}
    (firstMem : first ∈ acceptedRows pinned events)
    (secondMem : second ∈ acceptedRows pinned events) (sameId : rowId first = rowId second) :
    first = second := by
  obtain ⟨firstEvent, firstDelivered, firstProjected⟩ := mem_acceptedRows_iff.mp firstMem
  obtain ⟨secondEvent, secondDelivered, secondProjected⟩ := mem_acceptedRows_iff.mp secondMem
  obtain ⟨firstId, firstKey, firstVersion, firstDeleted, firstDocument, firstProjects⟩ :=
    projectedRow_eq_ok_iff.mp firstProjected
  obtain ⟨secondId, secondKey, secondVersion, secondDeleted, secondDocument, secondProjects⟩ :=
    projectedRow_eq_ok_iff.mp secondProjected
  rw [firstProjects.row_eq, secondProjects.row_eq, rowId_versionRow, rowId_versionRow] at sameId
  obtain ⟨sameKey, sameVersion⟩ := (id_eq_iff collisionFree pinning firstDelivered secondDelivered
    firstProjects secondProjects).mp sameId
  subst sameKey
  subst sameVersion
  exact row_eq_of_key_eq collisionFree pinning agree firstDelivered secondDelivered firstProjects
    secondProjects

/-- A listing of the target holds exactly the rows of the accepted events. -/
theorem mem_listed_iff {rows : List (Row F)}
    (listed : rows.Perm (deliverAll (project target pinned) events).values) {row : Row F} :
    row ∈ rows ↔ row ∈ acceptedRows pinned events := by
  rw [listed.mem_iff, deliverAll_project, Dict.mem_values_upsertAll_iff]
  intro first firstMem second secondMem sameId
  exact acceptedRow_eq_of_rowId_eq collisionFree pinning agree firstMem secondMem sameId

omit agree in
/-- The greatest rows of a listing are the rows of the latest events. -/
theorem isGreatest_iff_isLatest {rows : List (Row F)}
    (held : ∀ row, row ∈ rows ↔ row ∈ acceptedRows pinned events) {row : Row F} :
    Dict.IsGreatest rowKey versionOf rows row ↔
      ∃ event, IsLatest (project target pinned) target events event row := by
  constructor
  · rintro ⟨member, bound⟩
    obtain ⟨event, delivered, projected⟩ := mem_acceptedRows_iff.mp ((held row).mp member)
    refine ⟨event, delivered, accepts_iff.mpr projected, ?_⟩
    rintro other otherDelivered ⟨otherRow, accepted⟩ sameSource
    have otherProjected := accepts_iff.mp accepted
    rw [versionLE_iff otherProjected projected]
    apply bound otherRow ((held otherRow).mpr
      (mem_acceptedRows_iff.mpr ⟨other, otherDelivered, otherProjected⟩))
    exact (rowKey_eq_iff_sameSource collisionFree pinning otherDelivered delivered otherProjected
      projected).mpr sameSource
  · rintro ⟨event, delivered, accepted, greatest⟩
    have projected := accepts_iff.mp accepted
    refine ⟨(held row).mpr (mem_acceptedRows_iff.mpr ⟨event, delivered, projected⟩), ?_⟩
    intro otherRow otherMem sameKey
    obtain ⟨other, otherDelivered, otherProjected⟩ :=
      mem_acceptedRows_iff.mp ((held otherRow).mp otherMem)
    rw [← versionLE_iff otherProjected projected]
    apply greatest other otherDelivered ⟨otherRow, accepts_iff.mpr otherProjected⟩
    exact (rowKey_eq_iff_sameSource collisionFree pinning otherDelivered delivered otherProjected
      projected).mp sameKey

/-- The read of any listing of the target returns the visible rows. -/
theorem exists_isVisible {rows : List (Row F)}
    (listed : rows.Perm (deliverAll (project target pinned) events).values)
    (selects : Row F → Bool) :
    ∃ visible, latestVisible rows selects = .ok visible ∧
      IsVisible (project target pinned) target events selects visible := by
  have held : ∀ row, row ∈ rows ↔ row ∈ acceptedRows pinned events := fun row =>
    mem_listed_iff collisionFree pinning agree listed
  have isRows : ∀ row ∈ rows, IsVersionRow row := by
    intro row member
    obtain ⟨event, -, projected⟩ := mem_acceptedRows_iff.mp ((held row).mp member)
    exact isVersionRow_of_projectedRow projected
  obtain ⟨visible, returned, ordered, members⟩ := latestVisible_spec isRows
    (fun first firstMem second secondMem => acceptedRow_eq collisionFree pinning agree
      ((held first).mp firstMem) ((held second).mp secondMem)) selects
  refine ⟨visible, returned, ordered, fun row => ?_⟩
  have latestRows : Dict.IsGreatest rowKey versionOf rows row ↔
      ∃ event, IsLatest (project target pinned) target events event row :=
    isGreatest_iff_isLatest collisionFree pinning held
  rw [members, latestRows]
  refine and_congr_right fun latest => ?_
  obtain ⟨event, isLatest⟩ := latest
  obtain ⟨id, sourceKey, version, deleted, document, rfl⟩ :=
    isVersionRow_of_projectedRow (accepts_iff.mp isLatest.accepted)
  simp [isVisible]

end Delivered

omit [FloatText F] in
/-- The visible rows are determined by the latest rows. -/
theorem IsVisible.eq_of_latest {others : List (Event F)} {selects : Row F → Bool}
    {visible otherVisible : List (Row F)}
    (isVisible : IsVisible projector target events selects visible)
    (isOther : IsVisible projector target others selects otherVisible)
    (sameLatest : ∀ row, (∃ event, IsLatest projector target events event row) ↔
      ∃ event, IsLatest projector target others event row) : visible = otherVisible := by
  have nodup : ∀ {rows : List (Row F)},
      rows.Pairwise (fun first second => rowKey first < rowKey second) → rows.Nodup := by
    intro rows ordered
    refine ordered.imp fun less equal => ?_
    rw [equal] at less
    exact lt_irrefl _ less
  have perm : visible.Perm otherVisible := by
    rw [List.perm_ext_iff_of_nodup (nodup isVisible.ordered) (nodup isOther.ordered)]
    intro row
    rw [isVisible.mem_iff, isOther.mem_iff, sameLatest]
  exact perm.eq_of_pairwise
    (fun first second _ _ less greater => absurd (less.trans greater) (lt_irrefl _))
    isVisible.ordered isOther.ordered

/-- Superseded deliveries leave the latest rows as they are. -/
theorem isLatest_append_iff {pinned : PyValue F}
    (collisionFree : Set.InjOn sha256Hex (Hashed scope (events ++ replays)))
    (pinning : pinnedScope scope = .ok pinned) (agree : VersionsAgree (events ++ replays))
    (superseded : ∀ replay ∈ replays, Superseded (project target pinned) target events replay)
    (row : Row F) :
    (∃ event, IsLatest (project target pinned) target events event row) ↔
      ∃ event, IsLatest (project target pinned) target (events ++ replays) event row := by
  constructor
  · rintro ⟨event, delivered, accepted, greatest⟩
    refine ⟨event, List.mem_append_left _ delivered, accepted, ?_⟩
    rintro other otherMem otherAccepted sameSource
    rcases List.mem_append.mp otherMem with otherDelivered | replayed
    · exact greatest other otherDelivered otherAccepted sameSource
    · obtain ⟨newer, newerDelivered, newerAccepted, newerSource, newerLE⟩ := superseded other replayed
      have le := greatest newer newerDelivered newerAccepted (newerSource.symm.trans sameSource)
      obtain ⟨otherRow, otherAccepted⟩ := otherAccepted
      obtain ⟨newerRow, newerAccepted⟩ := newerAccepted
      rw [versionLE_iff (accepts_iff.mp otherAccepted) (accepts_iff.mp newerAccepted)] at newerLE
      rw [versionLE_iff (accepts_iff.mp newerAccepted) (accepts_iff.mp accepted)] at le
      rw [versionLE_iff (accepts_iff.mp otherAccepted) (accepts_iff.mp accepted)]
      exact newerLE.trans le
  · rintro ⟨event, member, accepted, greatest⟩
    have among : ∀ latest ∈ events, Accepts (project target pinned) target latest row →
        SameSource latest.context event.context →
        IsLatest (project target pinned) target events latest row := by
      intro latest delivered latestAccepted sameSource
      refine ⟨delivered, latestAccepted, fun other otherDelivered otherAccepted otherSource => ?_⟩
      have le := greatest other (List.mem_append_left _ otherDelivered) otherAccepted
        (otherSource.trans sameSource)
      obtain ⟨otherRow, otherAccepted⟩ := otherAccepted
      rw [versionLE_iff (accepts_iff.mp otherAccepted) (accepts_iff.mp accepted)] at le
      rw [versionLE_iff (accepts_iff.mp otherAccepted) (accepts_iff.mp latestAccepted)]
      exact le
    have reflexive : SameSource event.context event.context :=
      (sameSource_iff_sortKeys_keyData_eq scope event event).mpr rfl
    rcases List.mem_append.mp member with delivered | replayed
    · exact ⟨event, among event delivered accepted reflexive⟩
    · obtain ⟨newer, newerDelivered, ⟨newerRow, newerAccepted⟩, newerSource, newerLE⟩ :=
        superseded event replayed
      have newerMem : newer ∈ events ++ replays := List.mem_append_left _ newerDelivered
      have le := greatest newer newerMem ⟨newerRow, newerAccepted⟩ newerSource.symm
      rw [versionLE_iff (accepts_iff.mp accepted) (accepts_iff.mp newerAccepted)] at newerLE
      rw [versionLE_iff (accepts_iff.mp newerAccepted) (accepts_iff.mp accepted)] at le
      have sameRow : row = newerRow :=
        acceptedRow_eq collisionFree pinning agree
          (mem_acceptedRows_iff.mpr ⟨event, member, accepts_iff.mp accepted⟩)
          (mem_acceptedRows_iff.mpr ⟨newer, newerMem, accepts_iff.mp newerAccepted⟩)
          ((rowKey_eq_iff_sameSource collisionFree pinning member newerMem (accepts_iff.mp accepted)
            (accepts_iff.mp newerAccepted)).mpr newerSource)
          (le_antisymm newerLE le)
      subst sameRow
      exact ⟨newer, among newer newerDelivered newerAccepted newerSource.symm⟩

theorem VersionsAgree.left (agree : VersionsAgree (events ++ replays)) : VersionsAgree events :=
  fun first firstMem second secondMem =>
    agree first (List.mem_append_left _ firstMem) second (List.mem_append_left _ secondMem)

theorem Hashed.append {bytes : Bytes} (hashed : Hashed scope events bytes) :
    Hashed scope (events ++ replays) bytes := by
  cases hashed with
  | key member pinning encoded => exact .key (List.mem_append_left _ member) pinning encoded
  | id member pinning keyed versioned encoded =>
      exact .id (List.mem_append_left _ member) pinning keyed versioned encoded

/-- Whatever the order and the repetitions of the deliveries and of the listing, the read
returns for each delivered source the row of its greatest version, if that row is not a
tombstone and matches, and nothing else.  Late replays of older versions change nothing. -/
theorem latestVisible_converges (structured : Except Exc Unit) (target : Str)
    (scope : Dict Str Str) (projector : Event F → Except Exc (Expression F))
    (built : makeProjector structured target scope = .ok projector)
    (events replays : List (Event F)) (agree : VersionsAgree (events ++ replays))
    (collisionFree : Set.InjOn sha256Hex (Hashed scope (events ++ replays)))
    (superseded : ∀ replay ∈ replays, Superseded projector target events replay)
    (rows laterRows : List (Row F)) (listed : rows.Perm (deliverAll projector events).values)
    (laterListed : laterRows.Perm (deliverAll projector (events ++ replays)).values)
    (selects : Row F → Bool) :
    ∃ visible, IsVisible projector target events selects visible ∧
      latestVisible rows selects = .ok visible ∧ latestVisible laterRows selects = .ok visible := by
  obtain ⟨-, pinned, pinning, rfl⟩ := makeProjector_eq_ok_iff.mp built
  have freeBefore : Set.InjOn sha256Hex (Hashed scope events) :=
    collisionFree.mono fun _ hashed => Hashed.append hashed
  obtain ⟨visible, returned, isVisible⟩ :=
    exists_isVisible freeBefore pinning agree.left listed selects
  obtain ⟨laterVisible, laterReturned, isLater⟩ :=
    exists_isVisible collisionFree pinning agree laterListed selects
  refine ⟨visible, isVisible, returned, ?_⟩
  rw [isVisible.eq_of_latest isLater
    (isLatest_append_iff collisionFree pinning agree superseded)]
  exact laterReturned

end Convergence

/-! ## A late replay -/

/-- A version of one case. -/
def sampleVersion (version : Int) (name : String) : Event Empty where
  source := ⟨[(str "name", .str (str name))], List.nodup_singleton _⟩
  context :=
    { projection := str "cases"
      eventId := str "event"
      sourceCatalog := str "structured"
      sourceResource := str "cases"
      sourceSchema := str "case@1"
      sourceIdentity := .int 7
      sourceVersion := some (.number version)
      mutationKind := str "update"
      occurredAt := 0
      operationContext := [] }
  identity_distinct := trivial

/-- The scope of the deployment. -/
def sampleScope : Dict Str Str := ⟨[(str "tenant", str "a")], by decide⟩

/-- The pinned scope. -/
def samplePinned : PyValue Empty := (scopeData sampleScope).sortKeys.toPy

/-- The source key of the case. -/
def sampleKey : Str :=
  (digest (keyMaterial samplePinned (sampleVersion 1 "first").context)).toOption.getD []

/-- What is hashed for two versions of the case. -/
def sampleHashed : List Bytes :=
  [(canonicalBytes (keyMaterial samplePinned (sampleVersion 1 "first").context)).toOption.getD [],
    (canonicalBytes (F := Empty) (idMaterial sampleKey 1)).toOption.getD [],
    (canonicalBytes (F := Empty) (idMaterial sampleKey 2)).toOption.getD []]

theorem mem_sampleHashed {bytes : Bytes}
    (hashed : Hashed sampleScope [sampleVersion 2 "second", sampleVersion 1 "first"] bytes) :
    bytes ∈ sampleHashed := by
  have sameMaterial : ∀ event ∈ [sampleVersion 2 "second", sampleVersion 1 "first"],
      keyMaterial samplePinned event.context =
        keyMaterial samplePinned (sampleVersion 1 "first").context := by
    intro event member
    rcases List.mem_pair.mp member with rfl | rfl <;> rfl
  cases hashed with
  | key member pinning encoded =>
      cases (pinnedScope_eq sampleScope).symm.trans pinning
      rw [show (scopeData sampleScope).sortKeys.toPy = samplePinned from rfl,
        sameMaterial _ member] at encoded
      simp [sampleHashed, encoded, Except.toOption]
  | @id event pinned sourceKey version bytes member pinning keyed versioned encoded =>
      cases (pinnedScope_eq sampleScope).symm.trans pinning
      rw [show (scopeData sampleScope).sortKeys.toPy = samplePinned from rfl,
        sameMaterial _ member] at keyed
      have isKey : sampleKey = sourceKey := by
        rw [sampleKey, keyed]
        rfl
      subst isKey
      rcases List.mem_pair.mp member with rfl | rfl
      · cases versioned
        simp [sampleHashed, encoded, Except.toOption]
      · cases versioned
        simp [sampleHashed, encoded, Except.toOption]

/-- The second version of a case is delivered, then the first one. -/
theorem latestVisible_converges_replay :
    ∃ projector visible,
      makeProjector (.ok ()) (str "target") sampleScope = .ok projector ∧
      IsVisible projector (str "target") [sampleVersion 2 "second"] (fun _ => true) visible ∧
      latestVisible (deliverAll projector [sampleVersion 2 "second"]).values (fun _ => true) =
        .ok visible ∧
      latestVisible (deliverAll projector [sampleVersion 2 "second", sampleVersion 1 "first"]).values
        (fun _ => true) = .ok visible := by
  have pinning : pinnedScope sampleScope = .ok samplePinned := pinnedScope_eq sampleScope
  have built : makeProjector (.ok ()) (str "target") sampleScope =
      .ok (project (str "target") samplePinned) :=
    makeProjector_eq_ok_iff.mpr ⟨rfl, samplePinned, pinning, rfl⟩
  have distinctHashes : (sampleHashed.map sha256Hex).Nodup := by decide +kernel
  have collisionFree : Set.InjOn sha256Hex
      (Hashed sampleScope [sampleVersion 2 "second", sampleVersion 1 "first"]) := by
    intro first firstHashed second secondHashed sameHash
    exact List.inj_on_of_nodup_map distinctHashes (mem_sampleHashed firstHashed)
      (mem_sampleHashed secondHashed) sameHash
  have agree : VersionsAgree [sampleVersion 2 "second", sampleVersion 1 "first"] := by
    intro first firstMem second secondMem _ version firstVersioned secondVersioned
    rcases List.mem_pair.mp firstMem with rfl | rfl <;>
      rcases List.mem_pair.mp secondMem with rfl | rfl
    · exact ⟨⟨rfl, rfl⟩, rfl⟩
    · cases firstVersioned
      cases secondVersioned
    · cases firstVersioned
      cases secondVersioned
    · exact ⟨⟨rfl, rfl⟩, rfl⟩
  have accepted : (projectedRow samplePinned (sampleVersion 2 "second")).isOk = true := by
    decide +kernel
  obtain ⟨row, projected⟩ : ∃ row,
      projectedRow samplePinned (sampleVersion 2 "second") = .ok row := by
    cases projected : projectedRow samplePinned (sampleVersion 2 "second") with
    | error error => simp [projected, Except.isOk, Except.toBool] at accepted
    | ok row => exact ⟨row, rfl⟩
  obtain ⟨visible, isVisible, returned, laterReturned⟩ :=
    latestVisible_converges (.ok ()) (str "target") sampleScope _ built
      [sampleVersion 2 "second"] [sampleVersion 1 "first"] agree collisionFree
      (by
        intro replay member
        rw [List.mem_singleton.mp member]
        refine ⟨sampleVersion 2 "second", List.mem_cons_self, ⟨row, accepts_iff.mpr projected⟩,
          ⟨rfl, rfl, rfl, rfl⟩, ?_⟩
        intro firstVersion secondVersion isFirst isSecond
        cases isFirst
        cases isSecond
        decide)
      _ _ (List.Perm.refl _) (List.Perm.refl _) fun _ => true
  exact ⟨_, visible, built, isVisible, returned, laterReturned⟩

end DataLifecycle.Runner.VersionedTarget
