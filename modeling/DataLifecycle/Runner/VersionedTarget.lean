import DataLifecycle.CanonicalEncoding
import DataLifecycle.Python.Greatest
import DataLifecycle.Runner.RunOnce

/-!
# The versioned target recipe

`examples/versioned_target.py`: a projector that writes one row for each integer version of
a source value, and the read that reduces all rows to the latest visible ones.
-/

namespace DataLifecycle.Runner.VersionedTarget

open Python Outbox

variable {F : Type} [FloatText F]

/-! ## `json.dumps` with sorted keys -/

/-- The text of an object key. -/
def keyText : PyValue F → Except Exc Str
  | .str text => .ok text
  | .bool true => .ok (str "true")
  | .bool false => .ok (str "false")
  | .none => .ok (str "null")
  | .int value =>
      if (Json.int value : Json F).intsPrintable then .ok (Json.intText value)
      else .error (.valueError "Exceeds the limit for integer string conversion")
  | .float (.finite value) => .ok (FloatText.repr value)
  | .float _ => .error (.valueError "Out of range float values are not JSON compliant")
  | _ => .error (.typeError "keys must be str, int, float, bool or None")

def isTextKey : PyValue F → Bool
  | .str _ => true
  | _ => false

def isNumberKey : PyValue F → Bool
  | .bool _ | .int _ | .float _ => true
  | _ => false

/-- Whether `sorted` can compare the keys of a dictionary that `json.dumps` accepts. -/
def keysComparable (keys : List (PyValue F)) : Bool :=
  keys.length ≤ 1 || keys.all isTextKey || keys.all isNumberKey

mutual

/-- The data that `json.dumps(value, allow_nan=False)` writes. -/
def dumpsData : PyValue F → Except Exc (Json F)
  | .none => .ok .null
  | .bool value => .ok (.bool value)
  | .int value => .ok (.int value)
  | .str value => .ok (.str value)
  | .float (.finite value) => .ok (.float value)
  | .float _ => .error (.valueError "Out of range float values are not JSON compliant")
  | .sequence items =>
      match dumpsItems items with
      | .ok items => .ok (.array items)
      | .error error => .error error
  | .tuple items =>
      match dumpsItems items with
      | .ok items => .ok (.array items)
      | .error error => .error error
  | .mapping items =>
      if keysComparable (items.map Prod.fst) then
        match dumpsMembers items with
        | .ok members => .ok (.object members)
        | .error error => .error error
      else .error (.typeError "'<' not supported between instances")
  | _ => .error (.typeError "Object is not JSON serializable")

def dumpsItems : List (PyValue F) → Except Exc (List (Json F))
  | [] => .ok []
  | item :: rest =>
      match dumpsData item, dumpsItems rest with
      | .ok item, .ok rest => .ok (item :: rest)
      | .error error, _ => .error error
      | .ok _, .error error => .error error

def dumpsMembers : List (PyValue F × PyValue F) → Except Exc (List (Str × Json F))
  | [] => .ok []
  | (key, item) :: rest =>
      match keyText key, dumpsData item, dumpsMembers rest with
      | .ok key, .ok item, .ok rest => .ok ((key, item) :: rest)
      | .error error, _, _ => .error error
      | .ok _, .error error, _ => .error error
      | .ok _, .ok _, .error error => .error error

end

/-- `json.dumps(value, sort_keys=True, separators=(",", ":"), ensure_ascii=False,
allow_nan=False)`.  The keys of a mapping are texts here: `sorted` orders several numbers by
their value, not by their text. -/
def dumps (value : PyValue F) : Except Exc Str :=
  match dumpsData value with
  | .error error => .error error
  | .ok data =>
      if data.intsPrintable then .ok data.sortKeys.print
      else .error (.valueError "Exceeds the limit for integer string conversion")

/-- `json.loads(text)`. -/
def loads (text : Str) : Except Exc (PyValue F) :=
  match Json.loads text with
  | .ok value => .ok value
  | .error .decode => .error (.valueError "invalid JSON")
  | .error .intLimit => .error (.valueError "Exceeds the limit for integer string conversion")

mutual

/-- `canonical`.  A mapping is rebuilt from its parsed items, so that the keys inside an
item are texts when the next level sorts them. -/
def canonical : PyValue F → Except Exc Str
  | .mapping items =>
      match canonicalMembers items with
      | .ok members => dumps (.mapping members)
      | .error error => .error error
  | .sequence items =>
      match canonicalItems items with
      | .ok items => dumps (.sequence items)
      | .error error => .error error
  | .tuple items =>
      match canonicalItems items with
      | .ok items => dumps (.sequence items)
      | .error error => .error error
  | value => dumps value

def canonicalItems : List (PyValue F) → Except Exc (List (PyValue F))
  | [] => .ok []
  | item :: rest =>
      match canonical item with
      | .error error => .error error
      | .ok text =>
          match loads text with
          | .error error => .error error
          | .ok item =>
              match canonicalItems rest with
              | .error error => .error error
              | .ok rest => .ok (item :: rest)

def canonicalMembers : List (PyValue F × PyValue F) → Except Exc (List (PyValue F × PyValue F))
  | [] => .ok []
  | (key, item) :: rest =>
      match canonical item with
      | .error error => .error error
      | .ok text =>
          match loads text with
          | .error error => .error error
          | .ok item =>
              match canonicalMembers rest with
              | .error error => .error error
              | .ok rest => .ok ((key, item) :: rest)

end

/-- `canonical(value).encode("utf-8")`. -/
def canonicalBytes (value : PyValue F) : Except Exc Bytes := do
  let text ← canonical value
  match encodeUtf8 text with
  | some bytes => .ok bytes
  | none => .error .unicodeEncodeError

/-- `digest`. -/
def digest (value : PyValue F) : Except Exc Str := do
  let bytes ← canonicalBytes value
  return sha256Hex bytes

/-! ## Canonical text of JSON data -/

omit [FloatText F] in
theorem keysComparable_toPyMembers (members : List (Str × Json F)) :
    keysComparable ((Json.toPyMembers members).map Prod.fst) = true := by
  have texts : ((Json.toPyMembers members).map Prod.fst).all isTextKey = true := by
    rw [Json.toPyMembers_eq_map]
    simp [isTextKey]
  simp [keysComparable, texts]

mutual

theorem dumpsData_toPy : ∀ (value : Json F), dumpsData value.toPy = .ok value
  | .null => rfl
  | .bool _ => rfl
  | .int _ => rfl
  | .float _ => rfl
  | .str _ => rfl
  | .array items => by
      rw [Json.toPy, dumpsData, dumpsItems_toPyItems items]
  | .object members => by
      rw [Json.toPy, dumpsData, if_pos (keysComparable_toPyMembers members),
        dumpsMembers_toPyMembers members]

theorem dumpsItems_toPyItems : ∀ (items : List (Json F)),
    dumpsItems (Json.toPyItems items) = .ok items
  | [] => rfl
  | item :: rest => by
      rw [Json.toPyItems, dumpsItems, dumpsData_toPy item, dumpsItems_toPyItems rest]

theorem dumpsMembers_toPyMembers : ∀ (members : List (Str × Json F)),
    dumpsMembers (Json.toPyMembers members) = .ok members
  | [] => rfl
  | (key, value) :: rest => by
      rw [Json.toPyMembers, dumpsMembers, dumpsData_toPy value, dumpsMembers_toPyMembers rest]
      rfl

end

theorem dumps_toPy (value : Json F) :
    dumps value.toPy =
      if value.intsPrintable then .ok value.sortKeys.print
      else .error (.valueError "Exceeds the limit for integer string conversion") := by
  rw [dumps, dumpsData_toPy]

theorem loads_print_sortKeys {value : Json F} (printable : value.intsPrintable = true)
    (distinct : value.DistinctKeys) : loads value.sortKeys.print = .ok value.sortKeys.toPy := by
  rw [loads, Json.loads_print]
  · rw [Json.intsPrintable_sortKeys]
    exact printable
  · exact Json.distinctKeys_sortKeys _ distinct

omit [FloatText F] in
theorem sortMembers_sortMembers (members : List (Str × Json F)) :
    Json.sortMembers (Json.sortMembers members) = Json.sortMembers members :=
  Json.sortMembers_eq_self (Json.sortKeys_of_mem_sortMembers members)

mutual

/-- On JSON data, parsing the items again changes nothing. -/
theorem canonical_toPy : ∀ (value : Json F), value.DistinctKeys →
    canonical value.toPy =
      if value.intsPrintable then .ok value.sortKeys.print
      else .error (.valueError "Exceeds the limit for integer string conversion")
  | .null, _ => rfl
  | .bool _, _ => rfl
  | .int value, _ => dumps_toPy (.int value)
  | .float _, _ => rfl
  | .str _, _ => rfl
  | .array items, distinct => by
      rw [Json.toPy, canonical, canonicalItems_toPyItems items distinct]
      by_cases printable : Json.intsPrintableItems items = true
      · have again := dumps_toPy (.array (Json.sortItems items))
        rw [Json.toPy] at again
        simp only [printable, if_true, again, Json.intsPrintable, Json.intsPrintableItems_sortItems,
          Json.sortKeys, Json.sortItems_sortItems]
      · simp [printable, Json.intsPrintable]
  | .object members, distinct => by
      rw [Json.toPy, canonical, canonicalMembers_toPyMembers members distinct.2]
      by_cases printable : Json.intsPrintableMembers members = true
      · have again := dumps_toPy (.object (Json.sortMembers members))
        rw [Json.toPy] at again
        simp only [printable, if_true, again, Json.intsPrintable,
          Json.intsPrintableMembers_sortMembers, Json.sortKeys, sortMembers_sortMembers]
      · simp [printable, Json.intsPrintable]

theorem canonicalItems_toPyItems : ∀ (items : List (Json F)), Json.DistinctKeysItems items →
    canonicalItems (Json.toPyItems items) =
      if Json.intsPrintableItems items then .ok (Json.toPyItems (Json.sortItems items))
      else .error (.valueError "Exceeds the limit for integer string conversion")
  | [], _ => rfl
  | item :: rest, distinct => by
      rw [Json.toPyItems, canonicalItems, canonical_toPy item distinct.1]
      by_cases printable : item.intsPrintable = true
      · simp only [printable, if_true, loads_print_sortKeys printable distinct.1,
          canonicalItems_toPyItems rest distinct.2]
        by_cases others : Json.intsPrintableItems rest = true <;>
          simp [printable, others, Json.intsPrintableItems, Json.sortItems, Json.toPyItems]
      · simp [printable, Json.intsPrintableItems]

theorem canonicalMembers_toPyMembers : ∀ (members : List (Str × Json F)),
    Json.DistinctKeysMembers members →
    canonicalMembers (Json.toPyMembers members) =
      if Json.intsPrintableMembers members then .ok (Json.toPyMembers (Json.sortMembers members))
      else .error (.valueError "Exceeds the limit for integer string conversion")
  | [], _ => rfl
  | (key, value) :: rest, distinct => by
      rw [Json.toPyMembers, canonicalMembers, canonical_toPy value distinct.1]
      by_cases printable : value.intsPrintable = true
      · simp only [printable, if_true, loads_print_sortKeys printable distinct.1,
          canonicalMembers_toPyMembers rest distinct.2]
        by_cases others : Json.intsPrintableMembers rest = true <;>
          simp [printable, others, Json.intsPrintableMembers, Json.sortMembers, Json.toPyMembers]
      · simp [printable, Json.intsPrintableMembers]

end

/-- The digest of JSON data is the hash of its canonical bytes. -/
theorem canonicalBytes_toPy {value : Json F} (distinct : value.DistinctKeys) :
    canonicalBytes value.toPy = jsonBytes value := by
  rw [canonicalBytes, canonical_toPy value distinct, jsonBytes]
  by_cases printable : value.intsPrintable = true
  · simp only [printable, if_true]
    rfl
  · simp only [printable]
    rfl

theorem digest_eq_ok_iff {value : PyValue F} {hash : Str} :
    digest value = .ok hash ↔ ∃ bytes, canonicalBytes value = .ok bytes ∧ hash = sha256Hex bytes := by
  rw [digest, bind_eq_ok_iff]
  constructor
  · rintro ⟨bytes, encoded, equal⟩
    cases equal
    exact ⟨bytes, encoded, rfl⟩
  · rintro ⟨bytes, encoded, rfl⟩
    exact ⟨bytes, encoded, rfl⟩

/-! ## The projector -/

/-- `integer_version`. -/
def integerVersion : PyValue F → Except Exc Int
  | .int value => .ok value
  | _ => .error (.valueError "the initial projection profile requires integer source versions")

/-- A row of the target, and of a query result. -/
abbrev Row (F : Type) := List (Str × PyValue F)

/-- What is delivered to a projector: a source mapping and its context. -/
structure Event (F : Type) where
  source : Dict Str (PyValue F)
  context : ProjectionContext F
  identity_distinct : context.sourceIdentity.DistinctKeys

/-- The Python value of a mapping with text keys. -/
def mappingPy (items : List (Str × PyValue F)) : PyValue F :=
  .mapping (items.map fun item => (.str item.1, item.2))

/-- `json.loads(canonical(scope))`. -/
def pinnedScope (scope : Dict Str Str) : Except Exc (PyValue F) := do
  let text ← canonical (F := F) (mappingPy (scope.items.map fun item => (item.1, .str item.2)))
  loads text

/-- What the source key is the digest of. -/
def keyMaterial (pinned : PyValue F) (context : ProjectionContext F) : PyValue F :=
  .sequence [.str context.projection, pinned, .str context.sourceCatalog,
    .str context.sourceResource, context.sourceIdentity.toPy]

/-- What the identity of a row is the digest of. -/
def idMaterial (sourceKey : Str) (version : Int) : PyValue F :=
  .sequence [.str sourceKey, .int version]

/-- `source.get("deleted", False)`, which must be a boolean. -/
def deletedFlag (source : Dict Str (PyValue F)) : Except Exc Bool :=
  match source.get? (str "deleted") with
  | none => .ok false
  | some (.bool deleted) => .ok deleted
  | some _ => .error (.valueError "deleted must be boolean")

/-- The `data` of a version. -/
def versionRow (id sourceKey : Str) (version : Int) (deleted : Bool) (document : PyValue F) : Row F :=
  [(str "id", .str id), (str "sourceKey", .str sourceKey), (str "sourceVersion", .int version),
    (str "deleted", .bool deleted), (str "document", document)]

/-- The `data` of the expression that `project` returns. -/
def projectedRow (pinned : PyValue F) (event : Event F) : Except Exc (Row F) := do
  let version ← integerVersion (versionPy (F := F) event.context.sourceVersion)
  let sourceKey ← digest (keyMaterial pinned event.context)
  let deleted ← deletedFlag event.source
  let id ← digest (idMaterial (F := F) sourceKey version)
  let text ← canonical (mappingPy event.source.items)
  let document ← loads text
  return versionRow id sourceKey version
    (deleted || decide (event.context.mutationKind = str "delete")) document

/-- `structured.put(resource=target, mode="upsert", data=row)`. -/
def putUpsert (target : Str) (row : Row F) : Expression F :=
  ⟨str "structured", str "put", [(.str (str "resource"), .str target),
    (.str (str "mode"), .str (str "upsert")), (.str (str "data"), mappingPy row)]⟩

/-- `project`. -/
def project (target : Str) (pinned : PyValue F) (event : Event F) : Except Exc (Expression F) := do
  let row ← projectedRow pinned event
  return putUpsert target row

/-- `make_projector`.  The handle of the structured Catalog comes from the runtime. -/
def makeProjector (structured : Except Exc Unit) (target : Str) (scope : Dict Str Str) :
    Except Exc (Event F → Except Exc (Expression F)) := do
  structured
  let pinned ← pinnedScope scope
  return project target pinned

/-! ## The target -/

/-- The items of a mapping, if its keys are texts. -/
def textItems : List (PyValue F × PyValue F) → Option (Row F)
  | [] => some []
  | (.str key, value) :: rest => (textItems rest).map fun rest => (key, value) :: rest
  | _ :: _ => none

/-- The row that an expression puts, with the identity it is stored under. -/
def putRow (expression : Expression F) : Option (Str × Row F) :=
  match getMember (str "data") expression.arguments with
  | some (.mapping items) =>
      match textItems items with
      | none => none
      | some row =>
          match Dict.lookup (str "id") row with
          | some (.str id) => some (id, row)
          | _ => none
  | _ => none

/-- Upsert the row of an expression into the target table. -/
def upsert (table : Dict Str (Row F)) (expression : Expression F) : Dict Str (Row F) :=
  match putRow expression with
  | some (id, row) => table.set id row
  | none => table

/-- Deliver an event: the projector's expression is executed, and a projector that raises
leaves the target as it is. -/
def deliver (projector : Event F → Except Exc (Expression F)) (table : Dict Str (Row F))
    (event : Event F) : Dict Str (Row F) :=
  match projector event with
  | .ok expression => upsert table expression
  | .error _ => table

/-- The target after a sequence of deliveries. -/
def deliverAll (projector : Event F → Except Exc (Expression F)) (events : List (Event F)) :
    Dict Str (Row F) :=
  events.foldl (deliver projector) Dict.empty

/-! ## The read -/

omit [FloatText F]

/-- `row[name]`. -/
def subscript (row : Row F) (name : Str) : Except Exc (PyValue F) :=
  match Dict.lookup name row with
  | some value => .ok value
  | none => .error ⟨.keyError, ⟨"%r", [name]⟩, none, false⟩

/-- The key of a row, whose `deleted` member must be a boolean. -/
def checkedKey (row : Row F) : Except Exc Str := do
  match ← subscript row (str "sourceKey") with
  | .str key =>
      match ← subscript row (str "deleted") with
      | .bool _ => .ok key
      | _ => .error (.valueError "invalid versioned target row")
  | _ => .error (.valueError "invalid versioned target row")

/-- `integer_version(row["sourceVersion"])`. -/
def rowVersion (row : Row F) : Except Exc Int := do
  integerVersion (← subscript row (str "sourceVersion"))

/-- One pass of the loop of `latest_visible`. -/
def keepLatest (latest : Dict Str (Row F)) (row : Row F) : Except Exc (Dict Str (Row F)) := do
  let key ← checkedKey row
  let version ← rowVersion row
  match latest.get? key with
  | none => return latest.set key row
  | some kept => do
      let keptVersion ← rowVersion kept
      return if keptVersion < version then latest.set key row else latest

/-- `not row["deleted"] and matches(row)`.  The loop has checked that `deleted` is a
boolean. -/
def isVisible (selects : Row F → Bool) (row : Row F) : Bool :=
  match Dict.lookup (str "deleted") row with
  | some (.bool deleted) => !deleted && selects row
  | _ => false

/-- `latest_visible`. -/
def latestVisible (rows : List (Row F)) (selects : Row F → Bool) : Except Exc (List (Row F)) := do
  let latest ← rows.foldlM keepLatest Dict.empty
  let ordered := latest.items.insertionSort fun first second => first.1 ≤ second.1
  return (ordered.map Prod.snd).filter (isVisible selects)

end DataLifecycle.Runner.VersionedTarget
