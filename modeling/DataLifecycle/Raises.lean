import DataLifecycle.Evidence

/-!
# Exceptions of the canonical encoding

The encoding, its digests and the evidence that uses them raise only built-in
exceptions.
-/

namespace DataLifecycle

open Python

variable {F α β : Type}

/-- The exception is one that the encoding may raise. -/
def Exc.IsBuiltin (error : Exc) : Prop :=
  error.code = none ∧ (error.cls = .valueError ∨ error.cls = .typeError ∨
    error.cls = .overflowError ∨ error.cls = .unicodeEncodeError)

/-- Every exception of the result is built in. -/
def RaisesBuiltin (result : Except Exc α) : Prop :=
  ∀ error, result = .error error → error.IsBuiltin

theorem raisesBuiltin_ok (value : α) : RaisesBuiltin (.ok value) := nofun

theorem raisesBuiltin_valueError (template : String) (arguments : List Str) :
    RaisesBuiltin (.error (.valueError template arguments) : Except Exc α) := by
  rintro error ⟨⟩
  exact ⟨rfl, .inl rfl⟩

theorem raisesBuiltin_typeError (template : String) (arguments : List Str) :
    RaisesBuiltin (.error (.typeError template arguments) : Except Exc α) := by
  rintro error ⟨⟩
  exact ⟨rfl, .inr (.inl rfl)⟩

theorem RaisesBuiltin.bind {first : Except Exc α} {rest : α → Except Exc β}
    (begins : RaisesBuiltin first) (continues : ∀ value, RaisesBuiltin (rest value)) :
    RaisesBuiltin (first >>= rest) := by
  cases first with
  | error error =>
      rintro raised ⟨⟩
      exact begins error rfl
  | ok value => exact continues value

/-- A computation that raises the exceptions of its first part again. -/
theorem RaisesBuiltin.continue {first : Except Exc α} {whole : Except Exc β}
    (begins : RaisesBuiltin first) (onValue : ∀ value, first = .ok value → RaisesBuiltin whole)
    (onError : ∀ error, first = .error error → whole = .error error) : RaisesBuiltin whole := by
  cases found : first with
  | error error =>
      rintro raised raisedEq
      rw [onError error found] at raisedEq
      cases raisedEq
      exact begins error found
  | ok value => exact onValue value found

theorem raisesBuiltin_ensureUtc (field : String) (value : DateTime) :
    RaisesBuiltin (ensureUtc field value) := by
  unfold ensureUtc
  split
  · exact raisesBuiltin_ok _
  · exact raisesBuiltin_valueError _ _
  · rintro error ⟨⟩
    exact ⟨rfl, .inr (.inr (.inl rfl))⟩

mutual

theorem raisesBuiltin_jsonValue : ∀ value : PyValue F, RaisesBuiltin (jsonValue value)
  | .none => raisesBuiltin_ok _
  | .bool _ => raisesBuiltin_ok _
  | .int _ => raisesBuiltin_ok _
  | .str _ => raisesBuiltin_ok _
  | .float value => by
      cases value with
      | finite value => exact raisesBuiltin_ok _
      | _ => exact raisesBuiltin_valueError _ _
  | .datetime value => by
      rw [jsonValue]
      apply (raisesBuiltin_ensureUtc "timestamp" value).continue
      · intro instant found
        rw [found]
        exact raisesBuiltin_ok _
      · intro error found
        rw [found]
  | .enum value => by
      rw [jsonValue]
      exact raisesBuiltin_jsonValue value
  | .dataclass fields => by
      rw [jsonValue]
      apply (raisesBuiltin_jsonFields fields).continue
      · intro members found
        rw [found]
        exact raisesBuiltin_ok _
      · intro error found
        rw [found]
  | .mapping items => by
      rw [jsonValue]
      apply (raisesBuiltin_jsonMembers items).continue
      · intro members found
        rw [found]
        exact raisesBuiltin_ok _
      · intro error found
        rw [found]
  | .sequence items => by
      rw [jsonValue]
      apply (raisesBuiltin_jsonItems items).continue
      · intro converted found
        rw [found]
        exact raisesBuiltin_ok _
      · intro error found
        rw [found]
  | .tuple items => by
      rw [jsonValue]
      apply (raisesBuiltin_jsonItems items).continue
      · intro converted found
        rw [found]
        exact raisesBuiltin_ok _
      · intro error found
        rw [found]
  | .other _ => raisesBuiltin_typeError _ _

theorem raisesBuiltin_jsonItems : ∀ items : List (PyValue F), RaisesBuiltin (jsonItems items)
  | [] => raisesBuiltin_ok _
  | item :: rest => by
      rw [jsonItems]
      apply (raisesBuiltin_jsonValue item).continue
      · intro value found
        rw [found]
        apply (raisesBuiltin_jsonItems rest).continue
        · intro values foundRest
          rw [foundRest]
          exact raisesBuiltin_ok _
        · intro error foundRest
          rw [foundRest]
      · intro error found
        rw [found]

theorem raisesBuiltin_jsonFields : ∀ fields : List (Str × PyValue F), RaisesBuiltin (jsonFields fields)
  | [] => raisesBuiltin_ok _
  | (key, item) :: rest => by
      rw [jsonFields]
      apply (raisesBuiltin_jsonValue item).continue
      · intro value found
        rw [found]
        apply (raisesBuiltin_jsonFields rest).continue
        · intro members foundRest
          rw [foundRest]
          exact raisesBuiltin_ok _
        · intro error foundRest
          rw [foundRest]
      · intro error found
        rw [found]

theorem raisesBuiltin_jsonMembers :
    ∀ items : List (PyValue F × PyValue F), RaisesBuiltin (jsonMembers items)
  | [] => raisesBuiltin_ok _
  | (.str key, item) :: rest => by
      rw [jsonMembers]
      apply (raisesBuiltin_jsonValue item).continue
      · intro value found
        rw [found]
        apply (raisesBuiltin_jsonMembers rest).continue
        · intro members foundRest
          rw [foundRest]
          exact raisesBuiltin_ok _
        · intro error foundRest
          rw [foundRest]
      · intro error found
        rw [found]
  | (.none, _) :: _ => raisesBuiltin_typeError _ _
  | (.bool _, _) :: _ => raisesBuiltin_typeError _ _
  | (.int _, _) :: _ => raisesBuiltin_typeError _ _
  | (.float _, _) :: _ => raisesBuiltin_typeError _ _
  | (.datetime _, _) :: _ => raisesBuiltin_typeError _ _
  | (.enum _, _) :: _ => raisesBuiltin_typeError _ _
  | (.dataclass _, _) :: _ => raisesBuiltin_typeError _ _
  | (.mapping _, _) :: _ => raisesBuiltin_typeError _ _
  | (.sequence _, _) :: _ => raisesBuiltin_typeError _ _
  | (.tuple _, _) :: _ => raisesBuiltin_typeError _ _
  | (.other _, _) :: _ => raisesBuiltin_typeError _ _

end

theorem raisesBuiltin_immutableMapping (items : List (PyValue F × PyValue F)) :
    RaisesBuiltin (immutableMapping items) := by
  unfold immutableMapping
  split
  · exact raisesBuiltin_ok _
  next error found =>
    rintro raised ⟨⟩
    exact raisesBuiltin_jsonMembers items _ found

variable [FloatText F]

theorem raisesBuiltin_jsonBytes (value : Json F) : RaisesBuiltin (jsonBytes value) := by
  unfold jsonBytes
  split
  · split
    · exact raisesBuiltin_ok _
    · rintro error ⟨⟩
      exact ⟨rfl, .inr (.inr (.inr rfl))⟩
  · exact raisesBuiltin_valueError _ _

theorem raisesBuiltin_sha256Digest (value : Json F) : RaisesBuiltin (sha256Digest value) := by
  unfold sha256Digest
  apply (raisesBuiltin_jsonBytes value).continue
  · intro bytes found
    rw [found]
    exact raisesBuiltin_ok _
  · intro error found
    rw [found]

theorem raisesBuiltin_digestOf (value : PyValue F) : RaisesBuiltin (digestOf value) :=
  (raisesBuiltin_jsonValue value).bind fun _ => raisesBuiltin_sha256Digest _

theorem raisesBuiltin_requireSha256 (field : String) (value : Str) :
    RaisesBuiltin (requireSha256 field value) := by
  unfold requireSha256
  split
  · exact raisesBuiltin_ok _
  · exact raisesBuiltin_valueError _ _

/-- Data with short integers fails to encode only for a lone surrogate. -/
theorem sha256Digest_of_not_encodable {value : Json F} (printable : value.intsPrintable = true)
    (unencodable : ¬ Encodable value) : sha256Digest value = .error .unicodeEncodeError := by
  rw [sha256Digest]
  cases bytesEq : jsonBytes value with
  | ok bytes => exact absurd (jsonBytes_eq_ok_iff.mp bytesEq).1 unencodable
  | error error =>
      rw [jsonBytes, if_pos printable] at bytesEq
      split at bytesEq
      · cases bytesEq
      · cases bytesEq
        rfl

omit [FloatText F] in
/-- The material of evidence can be encoded exactly when its subject and details can. -/
theorem encodable_evidenceMaterial_iff {kind subject state : Str} {details : List (Str × Json F)}
    (kindScalar : ∀ point ∈ kind, isSurrogate point = false)
    (stateScalar : ∀ point ∈ state, isSurrogate point = false) :
    Encodable (evidenceMaterial kind subject state details) ↔
      (∀ point ∈ subject, isSurrogate point = false) ∧ Encodable (.object details) := by
  simp only [evidenceMaterial, encodable_object_iff, encodable_str_iff, List.forall_mem_cons,
    List.not_mem_nil, false_implies, implies_true, and_true]
  constructor
  · rintro ⟨-, ⟨-, subjectScalar⟩, -, -, encodable⟩
    exact ⟨subjectScalar, encodable⟩
  · rintro ⟨subjectScalar, encodable⟩
    exact ⟨⟨scalar_str _, kindScalar⟩,
      ⟨scalar_str _, subjectScalar⟩,
      ⟨scalar_str _, stateScalar⟩, scalar_str _, encodable⟩

namespace LifecycleEvidence

theorem raisesBuiltin_make (kind subject state : Str) (details : List (Str × Json F))
    (occurredAt : DateTime) :
    RaisesBuiltin (LifecycleEvidence.make kind subject state details occurredAt) := by
  unfold make
  split
  · exact raisesBuiltin_valueError _ _
  · exact (raisesBuiltin_ensureUtc _ _).bind fun _ =>
      (raisesBuiltin_sha256Digest _).bind fun _ => raisesBuiltin_ok _

/-- Evidence with texts can be made exactly when its material can be encoded. -/
theorem exists_make_iff {kind subject state : Str} {details : List (Str × Json F)}
    {occurredAt : DateTime} {instant : Utc} (nonempty : kind ≠ [] ∧ subject ≠ [] ∧ state ≠ [])
    (occurred : occurredAt.toUtc = .ok instant) :
    (∃ evidence, make kind subject state details occurredAt = .ok evidence) ↔
      Encodable (evidenceMaterial kind subject state details) := by
  have time : ensureUtc "occurred_at" occurredAt = .ok instant := by
    rw [ensureUtc, occurred]
  rw [make, if_neg (by simp [nonempty.1, nonempty.2.1, nonempty.2.2]), time]
  constructor
  · rintro ⟨evidence, made⟩
    obtain ⟨_, -, made⟩ := bind_eq_ok_iff.mp made
    obtain ⟨fingerprint, computed, -⟩ := bind_eq_ok_iff.mp made
    exact encodable_of_sha256Digest computed
  · intro encodable
    exact ⟨_, bind_eq_ok_iff.mpr ⟨instant, rfl, bind_eq_ok_iff.mpr ⟨_,
      sha256Digest_of_encodable encodable, rfl⟩⟩⟩

/-- Evidence that cannot be made for its text is refused with a `UnicodeEncodeError`. -/
theorem make_of_not_encodable {kind subject state : Str} {details : List (Str × Json F)}
    {occurredAt : DateTime} {instant : Utc} (nonempty : kind ≠ [] ∧ subject ≠ [] ∧ state ≠ [])
    (occurred : occurredAt.toUtc = .ok instant)
    (printable : (evidenceMaterial kind subject state details).intsPrintable = true)
    (unencodable : ¬ Encodable (evidenceMaterial kind subject state details)) :
    make kind subject state details occurredAt = .error .unicodeEncodeError := by
  rw [make, if_neg (by simp [nonempty.1, nonempty.2.1, nonempty.2.2]), ensureUtc, occurred,
    sha256Digest_of_not_encodable printable unencodable]
  rfl

/-- Evidence that was made has the state that it was made with. -/
theorem state_of_make {kind subject state : Str} {details : List (Str × Json F)}
    {occurredAt : DateTime} {evidence : LifecycleEvidence F}
    (made : make kind subject state details occurredAt = .ok evidence) : evidence.state = state := by
  unfold make at made
  split at made
  · cases made
  · obtain ⟨_, -, made⟩ := bind_eq_ok_iff.mp made
    obtain ⟨_, -, made⟩ := bind_eq_ok_iff.mp made
    cases made
    rfl

end LifecycleEvidence

end DataLifecycle
