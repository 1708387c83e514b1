import ScopeAlgebra.Proofs.Schema.Reader
import ScopeAlgebra.Settings

/-!
# Settings from a document

A document describes settings when its sections are absent, null or objects and everything in them
can be read. It is then loaded as it is, and otherwise the defaults are, with a warning
(`Settings.ofJson_of_nothingVacant`). This is not so for every document: a vacant section, which
holds something else that counts as empty, is taken for null, so the settings of the other section
are loaded without a warning (`Settings.ofJson_all_or_nothing`).
-/

namespace ScopeAlgebra

/-- A field has the value that is read from it, or the default when it is absent. -/
def Schema.FieldHas {α : Type} (fields : Json.Fields) (name : String) (default : α)
    (read : Reader α) (a : α) : Prop :=
  (Json.Fields.get? fields name = none ∧ a = default) ∨
    ∃ json, Json.Fields.get? fields name = some json ∧ read json = .ok a

/-- An optional field is read as `FieldHas` says. -/
theorem Schema.optional_eq_ok {α : Type} {fields : Json.Fields} {name : String} {default : α}
    {read : Reader α} {a : α} :
    optional fields name default read = .ok a ↔ FieldHas fields name default read a := by
  unfold optional FieldHas
  cases Json.Fields.get? fields name with
  | none => simp [eq_comm]
  | some json => simp [Checked.inside_eq_ok]

namespace Settings

open Schema

variable {document resolution catalog fields : Json.Fields} {name : String} {json : Json}
  {s : Settings}

/-! ## Sections -/

/-- The fields of a section that is absent, null or an object. -/
inductive HasSection (document : Json.Fields) (name : String) : Json.Fields → Prop
  | absent (h : Json.Fields.get? document name = none) : HasSection document name []
  | null (h : Json.Fields.get? document name = some .null) : HasSection document name []
  | object {fields : Json.Fields} (h : Json.Fields.get? document name = some (.object fields)) :
    HasSection document name fields

/-- A value counts as empty, but is neither null nor an object. -/
structure Vacant (json : Json) : Prop where
  isEmpty : json.isEmpty = true
  ne_null : json ≠ .null
  ne_object : ∀ fields, json ≠ .object fields

/-- A section that counts as empty is taken for one without fields. -/
theorem section?_of_isEmpty {part : Json} (hpart : Json.Fields.get? document name = some part)
    (hempty : part.isEmpty = true) : section? document name = some [] := by
  unfold section?
  rw [hpart]
  cases part with
  | object fields =>
    obtain rfl : fields = [] := by simpa [Json.isEmpty] using hempty
    rfl
  | _ => exact if_pos hempty

/-- A section is taken when it is absent, null or an object, and also when it is vacant: then it has
no fields. -/
theorem section?_eq_some : section? document name = some fields ↔ HasSection document name fields ∨
    (∃ part, Json.Fields.get? document name = some part ∧ Vacant part) ∧ fields = [] := by
  constructor
  · intro h
    unfold section? at h
    split at h
    next hnone =>
      cases h
      exact .inl (.absent hnone)
    next hobject =>
      cases h
      exact .inl (.object hobject)
    next part hobject hpart =>
      split at h
      next hempty =>
        cases h
        -- What counts as empty and is no object is null or vacant.
        by_cases hnull : part = .null
        · exact .inl (.null (hnull ▸ hpart))
        · exact .inr ⟨⟨part, hpart, hempty, hnull, fun fields heq => hobject fields heq⟩, rfl⟩
      · contradiction
  · rintro (h | ⟨⟨part, hpart, hvacant⟩, rfl⟩)
    · cases h with
      | absent h => rw [section?, h]
      | null h => exact section?_of_isEmpty h rfl
      | object h => rw [section?, h]
    · exact section?_of_isEmpty hpart hvacant.isEmpty

/-! ## Whole documents -/

/-- What the fields of both sections say about each setting, and that no family is listed twice. -/
structure Has (resolution catalog : Json.Fields) (s : Settings) : Prop where
  strict : FieldHas resolution "strict" true boolean s.strict
  failureMode : FieldHas resolution "default_failure_mode" .emptyScope
    (member FailureMode) s.failureMode
  allowInteractive : FieldHas resolution "allow_interactive" false boolean s.allowInteractive
  collisions : FieldHas catalog "collision_policy" .firstWins (member CollisionPolicy) s.collisions
  familyOrder : FieldHas catalog "family_order" [.standard, .provider, .named, .module]
    (listOf .document (member CatalogFamily)) s.familyOrder
  nodup : s.familyOrder.Nodup

/-- Settings are read from their sections when every field can be read; that no family is listed
twice is checked behind it. -/
theorem ofSections_eq_ok :
    ofSections resolution catalog = .ok s ∧ s.familyOrder.Nodup ↔ Has resolution catalog s := by
  constructor
  · rintro ⟨h, hnodup⟩
    -- The last field is read outermost, so the fields come off from the last to the first.
    obtain ⟨_, order, hfour, horder, rfl⟩ := Checked.ap_eq_ok.mp h
    obtain ⟨_, collisions, hthree, hcollisions, rfl⟩ := Checked.ap_eq_ok.mp hfour
    obtain ⟨_, interactive, htwo, hinteractive, rfl⟩ := Checked.ap_eq_ok.mp hthree
    obtain ⟨_, mode, hone, hmode, rfl⟩ := Checked.ap_eq_ok.mp htwo
    obtain ⟨_, strict, hnone, hstrict, rfl⟩ := Checked.ap_eq_ok.mp hone
    cases hnone
    exact ⟨optional_eq_ok.mp hstrict, optional_eq_ok.mp hmode, optional_eq_ok.mp hinteractive,
      optional_eq_ok.mp hcollisions, optional_eq_ok.mp horder, hnodup⟩
  · rintro ⟨hstrict, hmode, hinteractive, hcollisions, horder, hnodup⟩
    refine ⟨?_, hnodup⟩
    have horder' : optional catalog "family_order" ({} : Settings).familyOrder
        (listOf .document (member CatalogFamily)) = .ok s.familyOrder := optional_eq_ok.mpr horder
    rw [ofSections, optional_eq_ok.mpr hstrict, optional_eq_ok.mpr hmode,
      optional_eq_ok.mpr hinteractive, optional_eq_ok.mpr hcollisions, horder']
    rfl

/-- The fields of a document give settings when both of its sections can be taken and say so. -/
theorem ofFields?_eq_some :
    ofFields? document = some s ↔
      ∃ resolution catalog, section? document "resolution" = some resolution ∧ section? document
        "catalog" = some catalog ∧ Has resolution catalog s := by
  simp only [ofFields?, Option.bind_eq_bind, Option.bind_eq_some_iff, ← ofSections_eq_ok,
    exists_and_left]
  refine exists_congr fun resolution => and_congr_right fun _ => exists_congr fun catalog =>
    and_congr_right fun _ => ?_
  -- Only what could be read is checked for families that are listed twice.
  cases hsections : ofSections resolution catalog with
  | error problems => simp
  | ok settings =>
    show (if settings.familyOrder.eraseDups = settings.familyOrder then some settings
      else none) = some s ↔ _
    rw [Option.ite_none_right_eq_some, eraseDups_eq_self_iff]
    constructor
    · rintro ⟨hnodup, ⟨⟩⟩
      exact ⟨rfl, hnodup⟩
    · rintro ⟨⟨⟩, hnodup⟩
      exact ⟨hnodup, rfl⟩

/-- A document gives settings: null the defaults, and an object what is said in its sections. -/
inductive Describes : Json → Settings → Prop
  | null : Describes .null {}
  | object {document resolution catalog : Json.Fields} {s : Settings}
    (hresolution : HasSection document "resolution" resolution)
    (hcatalog : HasSection document "catalog" catalog) (h : Has resolution catalog s) :
    Describes (.object document) s

/-- The names of the sections. -/
def sectionNames : List String := ["resolution", "catalog"]

/-- No section of a document is vacant. -/
def NothingVacant (json : Json) : Prop :=
  ∀ name ∈ sectionNames, ∀ part, json.get? name = some part → ¬ Vacant part

/-- The fields of a document with null for the sections that count as empty. -/
def mendedFields (document : Json.Fields) : Json.Fields :=
  document.map fun field =>
    if field.1 ∈ sectionNames ∧ field.2.isEmpty = true then (field.1, .null) else field

/-- A section of the mended document is the section of the document, or null where that counts as
empty. -/
theorem get?_mendedFields (hname : name ∈ sectionNames) :
    Json.Fields.get? (mendedFields document) name =
    (Json.Fields.get? document name).map fun part =>
      if part.isEmpty = true then .null else part := by
  induction document with
  | nil => rfl
  | cons field rest ih =>
    -- Mending leaves names alone, so both documents have the section in the same place.
    by_cases hfield : field.1 = name
    · by_cases hempty : field.2.isEmpty = true <;>
        simp [mendedFields, Json.Fields.get?, List.find?_cons_of_pos, hfield, hname, hempty]
    · have hkept :
          (if field.1 ∈ sectionNames ∧ field.2.isEmpty = true then (field.1, Json.null)
          else field).1 ≠ name := by
        split <;> exact hfield
      simpa [mendedFields, Json.Fields.get?, List.find?_cons, hfield, hkept] using ih

/-- Mending does not change which section is taken. -/
theorem section?_mendedFields
    (h : name ∈ sectionNames) : section? (mendedFields document) name = section? document name := by
  have hmended : Json.Fields.get? (mendedFields document) name = _ := get?_mendedFields h
  cases hpart : Json.Fields.get? document name with
  | none => rw [section?, section?, hmended, hpart, Option.map_none]
  | some part =>
    rw [hpart, Option.map_some] at hmended
    by_cases hempty : part.isEmpty = true
    · rw [if_pos hempty] at hmended
      rw [section?_of_isEmpty hmended rfl, section?_of_isEmpty hpart hempty]
    · rw [if_neg hempty] at hmended
      rw [section?, section?, hmended, hpart]

/-- Mending does not change the settings that are read. -/
theorem ofFields?_mendedFields : ofFields? (mendedFields document) = ofFields? document := by
  unfold ofFields?
  rw [section?_mendedFields (by decide), section?_mendedFields (by decide)]

/-- A document with null for its sections that count as empty. -/
def mended : Json → Json
  | .object document => .object (mendedFields document)
  | json => json

/-- A document and the mended one are loaded alike. -/
theorem ofJson_mended (json : Json) : ofJson (mended json) = ofJson json := by
  cases json with
  | object document => simp only [mended, ofJson, ofFields?_mendedFields]
  | _ => rfl

/-- Nothing is vacant in a mended document. -/
theorem nothingVacant_mended (json : Json) : NothingVacant (mended json) := by
  intro name hname part hpart
  cases json with
  | object document =>
    have hmended : (Json.Fields.get? document name).map (fun part =>
        if part.isEmpty = true then .null else part) = some part :=
      (get?_mendedFields hname).symm.trans hpart
    obtain ⟨part', -, rfl⟩ := Option.map_eq_some_iff.mp hmended
    rintro ⟨hempty, hnull, -⟩
    -- What stands in the mended document is null, or did not count as empty before.
    split at hempty
    next h => exact hnull (if_pos h)
    next h => exact h hempty
  | _ => contradiction

/-! ## All or nothing -/

/-- A section that is not vacant is taken exactly when it is absent, null or an object. -/
theorem hasSection_iff
    (hvacant : ∀ part, Json.Fields.get? document name = some part → ¬ Vacant part) :
    HasSection document name fields ↔ section? document name = some fields := by
  rw [section?_eq_some]
  exact (or_iff_left fun ⟨⟨part, hpart, h⟩, _⟩ => hvacant part hpart h).symm

/-- An object without vacant sections describes the settings that are read from its fields. -/
theorem describes_object_iff (hvacant : NothingVacant (.object document)) :
    Describes (.object document) s ↔ ofFields? document = some s := by
  rw [ofFields?_eq_some]
  have hsection {name : String} (hname : name ∈ sectionNames) {fields : Json.Fields} :
      HasSection document name fields ↔ section? document name = some fields :=
      hasSection_iff (hvacant name hname)
  constructor
  · rintro ⟨⟩
    next resolution catalog hresolution hcatalog h =>
      exact ⟨resolution, catalog, (hsection (by decide)).mp hresolution,
        (hsection (by decide)).mp hcatalog, h⟩
  · rintro ⟨resolution, catalog, hresolution, hcatalog, h⟩
    exact .object ((hsection (by decide)).mpr hresolution) ((hsection (by decide)).mpr hcatalog) h

/-- Where no section is vacant, a document is loaded as what it describes, or as the defaults with a
warning. -/
theorem ofJson_of_nothingVacant (hvacant : NothingVacant json) :
    (∀ s, Describes json s → ofJson json = ⟨s, false⟩) ∧
      ((∀ s, ¬ Describes json s) → ofJson json = ⟨{}, true⟩) := by
  -- Null gives the defaults without a warning and an object what its fields say. Nothing else
  -- describes settings.
  cases json with
  | null =>
    refine ⟨fun s hs => ?_, fun hnone => absurd .null (hnone {})⟩
    cases hs
    rfl
  | object document =>
    refine ⟨fun s hs => ?_, fun hnone => ?_⟩
    · rw [ofJson, (describes_object_iff hvacant).mp hs]
    · have hfields : ofFields? document = none :=
        Option.eq_none_iff_forall_ne_some.mpr fun s h =>
          hnone s ((describes_object_iff hvacant).mpr h)
      rw [ofJson, hfields]
  | _ => exact ⟨fun s hs => (nomatch hs), fun _ => rfl⟩

/-- A section that is absent, null or an object is not vacant. -/
theorem HasSection.not_vacant (h : HasSection document name fields) {part : Json}
    (hpart : Json.Fields.get? document name = some part) : ¬ Vacant part := by
  rintro ⟨-, hnull, hobject⟩
  cases h with
  | absent h => exact absurd (h.symm.trans hpart) (by simp)
  | null h => exact hnull (Option.some.inj (h.symm.trans hpart)).symm
  | object h => exact hobject _ (Option.some.inj (h.symm.trans hpart)).symm

/-- The fields of a section that is an object are those of the object. -/
theorem HasSection.eq_of_object {fields' : Json.Fields} (h : HasSection document name fields)
    (hobject : Json.Fields.get? document name = some (.object fields')) : fields = fields' := by
  cases h with
  | absent h => exact absurd (h.symm.trans hobject) (by simp)
  | null h => exact absurd (h.symm.trans hobject) (by simp)
  | object h => exact Json.object.inj (Option.some.inj (h.symm.trans hobject))

/-- A document that gives settings has no vacant section. -/
theorem Describes.nothingVacant (h : Describes json s) : NothingVacant json := by
  intro name hname part hpart
  cases h with
  | null => contradiction
  | object hresolution hcatalog _ =>
    simp only [sectionNames, List.mem_cons, List.not_mem_nil, or_false] at hname
    rcases hname with rfl | rfl
    · exact hresolution.not_vacant hpart
    · exact hcatalog.not_vacant hpart

/-- Every document is loaded in one of two ways: as the settings that it describes, without a
warning, or as the defaults in every setting, with one. What decides is the document in which null
stands for the sections that count as empty, and this is the document itself unless one of them is
vacant. -/
theorem ofJson_all_or_nothing (json : Json) :
    (∀ content, Yaml.parse? content = some json → ofFile (some content) = ofJson json) ∧
      (∀ s, Describes json s → ofJson json = ⟨s, false⟩) ∧
      ((∀ s, ¬ Describes json s) → NothingVacant json → ofJson json = ⟨{}, true⟩) ∧
      ((∃ s, Describes (mended json) s ∧ ofJson json = ⟨s, false⟩) ∨
        ((∀ s, ¬ Describes (mended json) s) ∧ ofJson json = ⟨{}, true⟩)) := by
  refine ⟨fun content hcontent => ?_, fun s hs => (ofJson_of_nothingVacant hs.nothingVacant).1 s hs,
    fun hnone hvacant => (ofJson_of_nothingVacant hvacant).2 hnone, ?_⟩
  · rw [ofFile, hcontent]
  · have hmended := ofJson_of_nothingVacant (nothingVacant_mended json)
    rw [ofJson_mended] at hmended
    -- Nothing is vacant in the mended document, so it decides between the two ways.
    by_cases hdescribed : ∃ s, Describes (mended json) s
    · obtain ⟨s, hs⟩ := hdescribed
      exact .inl ⟨s, hs, hmended.1 s hs⟩
    · have hnone : ∀ s, ¬ Describes (mended json) s := fun s hs => hdescribed ⟨s, hs⟩
      exact .inr ⟨hnone, hmended.2 hnone⟩

/-- A document with a section on resolution, and one that lets the last record of an id win. -/
def lastWinsDocument (resolution : Json) : Json :=
  .object [("resolution", resolution),
    ("catalog", .object [("collision_policy", .string "last_wins")])]

/-- The policy for collisions is loaded together with a section on resolution that can be read, and
not beside one that cannot. -/
theorem ofJson_all_or_nothing_lastWins :
    ofJson (lastWinsDocument (.object [("strict", .bool false)])) =
        ⟨{ strict := false, collisions := .lastWins }, false⟩ ∧
      ofJson (lastWinsDocument (.object [("strict", .array [])])) = ⟨{}, true⟩ := by
  have hcatalog : FieldHas [("collision_policy", .string "last_wins")] "collision_policy" .firstWins
      (member CollisionPolicy) .lastWins := .inr ⟨_, rfl, rfl⟩
  constructor
  · refine (ofJson_all_or_nothing _).2.1 _ (.object (.object rfl) (.object rfl) ?_)
    exact ⟨.inr ⟨_, rfl, rfl⟩, .inl ⟨rfl, rfl⟩, .inl ⟨rfl, rfl⟩, hcatalog,
      .inl ⟨rfl, rfl⟩, by decide⟩
  · refine (ofJson_all_or_nothing _).2.2.1 (fun s hs => ?_) fun name hname part hpart => ?_
    · rcases hs with _ | ⟨hresolution, -, h⟩
      obtain rfl := hresolution.eq_of_object rfl
      rcases h.strict with ⟨hnone, -⟩ | ⟨value, hvalue, hread⟩
      · cases hnone
      · cases hvalue
        cases hread
    · simp only [sectionNames, List.mem_cons, List.not_mem_nil, or_false] at hname
      rcases hname with rfl | rfl <;> cases hpart <;> exact fun h => h.ne_object _ rfl

/-- Beside a section on resolution that is an empty array the policy is loaded without a warning. -/
theorem ofJson_takes_vacant :
    (∀ s, ¬ Describes (lastWinsDocument (.array [])) s) ∧
      ofJson (lastWinsDocument (.array [])) = ⟨{ collisions := .lastWins }, false⟩ :=
  ⟨fun _ hs => hs.nothingVacant "resolution" (by decide) (.array []) rfl ⟨rfl, by simp, by simp⟩,
    rfl⟩

end Settings

end ScopeAlgebra
