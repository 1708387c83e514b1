import ScopeAlgebra.Proofs.Atoms.Denotation
import ScopeAlgebra.Proofs.Catalog.Items
import ScopeAlgebra.Proofs.Catalog.Providers
import ScopeAlgebra.Proofs.Engine.Recompile
import ScopeAlgebra.Proofs.Program.Blame

/-!
# Listed items as atoms

Every item that the catalog lists can be compiled by its reference id, except the named scopes whose
names end in white space: their ids are trimmed before they are looked up (`compile_listed_iff`).
What is compiled is the item's own atom, which carries all that the item says (`Item.descriptor`).
-/

namespace ScopeAlgebra

namespace Item

/-- The atom that an item stands for. -/
def atom (item : Item) (atomId : String) : Atom where
  id := atomId
  kind := item.kind
  refId? := some item.refId
  standardId? := item.serializationId?
  moduleName? := item.moduleName?
  flavor? := item.flavor?
  scopeName? := item.scopeName?
  holderId? := item.holderId?
  providerId? := item.providerId?

/-- The descriptor of the scope that an item describes. -/
def descriptor (item : Item) (atomId : String) : Descriptor where
  atoms := [item.atom atomId]
  tokens := [Token.ofAtom atomId]
  displayName := item.displayName
  shape := item.shape

/-- An atom of some kind that has nothing but the reference id of an item. -/
def reference (item : Item) (atomId : String) (kind : AtomKind) : Atom where
  id := atomId
  kind := kind
  refId? := some item.refId

/-- The request for an item by its reference id. -/
def request (item : Item) (atomId : String) (kind : AtomKind) (allow : Bool) : Request where
  atoms := [item.reference atomId kind]
  tokens := [Token.ofAtom atomId]
  allowInteractive? := some allow

end Item

variable {catalog : Snapshot} {ws : Workspace} {allow : Bool} {item : Item} {atomId : String}
  {kind : AtomKind} {r : Record}

/-! ## The atom of an item -/

/-- Preferring a text to none gives the text, unless it is empty. -/
theorem preferText_none {s? : Option String} (h : s? ≠ some "") : preferText s? none = s? := by
  cases s? with
  | none => rfl
  | some s => exact preferText_of_ne_empty (fun hs => h (congrArg some hs)) none

/-- A reference to a record with names becomes the atom of its item. -/
theorem Item.enrich_reference (h : some "" ∉ item.names) :
    (item.reference atomId kind).enrich item = item.atom atomId := by
  have hnames (s? : Option String) (hs : s? ∈ item.names) : preferText s? none = s? :=
    preferText_none fun hempty => h (hempty ▸ hs)
  have hflavor : (item.flavor? <|> none) = item.flavor? := by cases item.flavor? <;> rfl
  simp only [Atom.enrich, Item.reference, Item.atom, Atom.mk.injEq, true_and, and_true]
  refine ⟨hnames _ ?_, hnames _ ?_, hflavor, hnames _ ?_, hnames _ ?_, rfl, hnames _ ?_⟩ <;>
    simp [Item.names]

/-- A bare reference is looked up, having no payload to go by. -/
theorem Item.resolvesByReference_reference {refId : String} (hkind : kind.isAdhoc = false)
    (hid : Text.present? (some item.refId) = some refId) :
    catalog.resolvesByReference (item.reference atomId kind) = true := by
  have hpayload : (item.reference atomId kind).hasPayload = false := by cases kind <;> rfl
  simp only [Snapshot.resolvesByReference, hpayload]
  simp [Item.reference, hkind, hid]

/-- A bare reference is normalized by looking it up under its trimmed id. -/
theorem Item.lookedUp_of_normalizes {normal : Atom}
    (h : (item.reference atomId kind).Normalizes catalog ws allow normal) :
    ∃ refId r, Text.present? (some item.refId) = some refId ∧ catalog.get? refId = some r ∧
      normal = (item.reference atomId kind).enrich r.item := by
  cases h with
  | reference hby hid hget hallowed => exact ⟨_, _, hid, hget, rfl⟩
  -- There is no payload to go by.
  | standard _ _ hid => contradiction
  | module _ _ hname => contradiction
  | named _ _ hname => contradiction
  | onlyHolder _ _ hname => contradiction
  | pattern _ htext => contradiction
  | directory _ hurl => contradiction
  | files _ hurls => contradiction

/-- The atom of a record is its normal form exactly when the record's id is trimmed. -/
theorem Record.normalizes_iff (hget : catalog.get? r.refId = some r)
    (hallowed : Snapshot.isAllowed allow r = true)
    (hids : ∀ refId r', catalog.get? refId = some r' → r'.refId = refId)
    (hnames : some "" ∉ r.item.names) (hkind : kind.isAdhoc = false) :
    (r.item.reference atomId kind).Normalizes catalog ws allow (r.item.atom atomId) ↔
      Text.present? (some r.refId) = some r.refId := by
  -- What is looked up is the record with the trimmed id, and its atom is this one only when nothing
  -- was trimmed.
  constructor
  · intro h
    obtain ⟨refId, r', hid, hget', hnormal⟩ := Item.lookedUp_of_normalizes h
    have hsame : r.refId = r'.refId := Option.some.inj (congrArg Atom.refId? hnormal)
    rw [hids refId r' hget'] at hsame
    rw [hsame]
    exact Text.present?_of_present? hid
  · intro h
    rw [← Item.enrich_reference hnames]
    exact .reference (Atom.resolvesByReference_of_get? hkind h hget) h hget hallowed

namespace Program

/-- A program that pushes a single atom gives the predicate of the atom. -/
theorem evaluate_ofAtom {cx : Context} {a : Atom} {p : Predicate} (hid : a.id ≠ "")
    (h : a.resolve cx.catalog cx.workspace cx.allowInteractive = .ok p) :
    evaluate cx [Token.ofAtom a.id] [a] = .ok ⟨p, p.displayName, p.shape, []⟩ := by
  have hvalue : Expr.value cx [(a.id, a)] 0 (.atom a.id) = .plain (some p) := by
    simp [Expr.value, leafValue, h]
  rw [evaluate_ofAtom_eq_outcome hid, Expr.outcome, hvalue]
  rfl

end Program

namespace Engine

/-! ## Compiling items -/

/-- A record of the catalog compiles by its reference id to the descriptor of its item exactly when
the id is trimmed. -/
theorem compileWith_reference_iff {cx : Program.Context} {mode : FailureMode} (hid : atomId ≠ "")
    (hget : cx.catalog.get? r.refId = some r)
    (hallowed : Snapshot.isAllowed cx.allowInteractive r = true)
    (hids : ∀ refId r', cx.catalog.get? refId = some r' → r'.refId = refId)
    (hdescribed : r.Described) (hadhoc : r.item.kind.isAdhoc = false)
    (hkind : kind.isAdhoc = false) :
    compileWith (cx.under .strict mode) (r.item.request atomId kind allow) =
      .ok (r.item.descriptor atomId) ↔ Text.present? (some r.refId) = some r.refId := by
  have hself : (r.item.reference atomId kind).Normalizes cx.catalog cx.workspace cx.allowInteractive
      (r.item.atom atomId) ↔ Text.present? (some r.refId) = some r.refId :=
    r.normalizes_iff hget hallowed hids hdescribed.names hkind
  rw [compileWith_strict_eq_ok, ← hself]
  -- A descriptor of a single reference is made of its normal form, and of what the record says.
  constructor
  · rintro ⟨-, -, atoms, scope, hnormal, -, hsame⟩
    have hatoms : [r.item.atom atomId] = atoms := congrArg Descriptor.atoms hsame
    rw [← hatoms] at hnormal
    exact (List.forall₂_cons.mp hnormal).1
  · intro hnormal
    have hpresent : Text.present? (some r.refId) = some r.refId := hself.mp hnormal
    have hresolve : (r.item.atom atomId).resolve cx.catalog cx.workspace cx.allowInteractive =
        .ok r.predicate :=
      Atom.resolve_eq_ok.mpr (Atom.resolves_of_get? hadhoc hpresent hget hallowed)
    have hcheck : Program.check [atomId] [Token.ofAtom atomId] = .ok () := Program.check_ofAtom hid
    refine ⟨rfl, hcheck, [r.item.atom atomId], _, .cons hnormal .nil,
      Program.evaluate_ofAtom hid hresolve, ?_⟩
    rw [← hdescribed.displayName_eq, ← hdescribed.shape_eq]
    rfl

/-- In a workspace that comes from a manifest, with any presets beside, every listed item compiles
strictly by its reference id, as an atom of its own kind or as a bare reference, to the descriptor
that says what the item says, unless it is a named scope whose name ends in white space. -/
theorem compile_listed_iff (json : Json) (ws : Workspace) (presets : List Predicate)
    (providers : List Provider) (settings : Settings) (allow : Bool) (atomId : String)
    (hid : atomId ≠ "") (hws : Workspace.ofManifest json = .ok ws)
    (hproviders : ∀ p ∈ providers, p.Completes { ws with extraPresets := presets } ∧
      p.implementation ≠ "") :
    let e : Engine := ⟨{ ws with extraPresets := presets }, providers, settings⟩
    ∃ listing, e.list (some allow) = .ok listing ∧
      ∀ item ∈ listing.items, ∀ kind ∈ [item.kind, .catalogRef],
        e.compile (item.request atomId kind allow) (some true) = .ok (item.descriptor atomId) ↔
          ∀ name ∈ item.scopeName?, ¬ Text.EndsBlank name := by
  intro e
  obtain ⟨hmodules, hholders⟩ := Workspace.labelled_of_ofManifest hws
  have hlabelled : e.workspace.Labelled := ⟨hmodules, hholders⟩
  obtain ⟨catalog, hbuild⟩ : ∃ catalog,
      Snapshot.build e.workspace e.providers settings.collisions settings.familyOrder =
        .ok catalog :=
    Catalog.exists_build_iff.mpr fun p hp => (hproviders p hp).1
  have hcatalog : e.catalog = .ok catalog := mapError_eq_ok.mpr hbuild
  refine ⟨⟨catalog.items allow, catalog.diagnostics⟩, bind_eq_ok.mpr ⟨catalog, hcatalog, rfl⟩, ?_⟩
  intro item hitem kind hkind
  obtain ⟨r, hr, rfl⟩ := List.mem_map.mp hitem
  obtain ⟨hr, hallowed⟩ := List.mem_filter.mp hr
  have hget : catalog.get? r.refId = some r := Catalog.get?_of_mem_records hbuild hr
  have horigin : Catalog.Origin e.workspace e.providers r := (Catalog.origin_of_get? hbuild hget).1
  have hids (refId : String) (r' : Record) (h : catalog.get? refId = some r') : r'.refId = refId :=
    (Catalog.origin_of_get? hbuild h).2
  have hdescribed : r.Described := horigin.described hlabelled fun p hp => (hproviders p hp).2
  have hadhoc : kind.isAdhoc = false := by
    simp only [List.mem_cons, List.not_mem_nil, or_false] at hkind
    rcases hkind with rfl | rfl
    · exact horigin.isAdhoc_kind
    · rfl
  rw [← horigin.present?_refId_iff, compile_of_catalog hcatalog]
  let cx := e.contextFor (r.item.request atomId kind allow) none catalog
  show compileWith (cx.under .strict cx.failureMode) _ = _ ↔ _
  exact compileWith_reference_iff hid hget hallowed hids hdescribed horigin.isAdhoc_kind hadhoc

/-! ## A named scope, and one whose name ends in white space -/

/-- A manifest with a single named scope. -/
def scopeManifest (name : String) : Json :=
  .object [("named_scopes", .array [.object [("holder", .string "h"),
    ("scopes", .array [.object [("name", .string name), ("pattern", .string "file:*")]])]])]

/-- The workspace that it describes. -/
def scopeWorkspace (name : String) : Workspace where
  files := []
  modules := []
  holders := [{ id := "h", scopes := [{ name, pattern? := some "file:*" }] }]
  urls_nodup := List.nodup_nil
  names_nodup := List.nodup_nil

/-- The item of its scope. -/
def scopeItem (name : String) : Item where
  refId := "named:h:" ++ name
  displayName := name
  kind := .namedPattern
  shape := .global
  scopeName? := some name
  holderId? := some "h"

/-- A provider that lists the empty scope. -/
def nothingProvider : Provider where
  implementation := "plugin.Nothing"
  listScopes? := some fun _ => .offers [.scope 0 .nothing]

/-- An engine over that workspace. -/
def scopeEngine (name : String) : Engine :=
  { workspace := { scopeWorkspace name with extraPresets := [] }, providers := [nothingProvider] }

/-- A provider that gives nothing gives it to the end. -/
theorem completes_nothingProvider (ws : Workspace) : nothingProvider.Completes ws := by
  simp [Provider.Completes, Provider.methods, nothingProvider]

/-- The scope is listed, whatever its name. -/
theorem scopeItem_mem {name : String} (hname : name ≠ "") {catalog : Snapshot}
    (h : (scopeEngine name).catalog = .ok catalog) : scopeItem name ∈ catalog.items false := by
  have hcanonical : Pattern.Canonical (.term ⟨.file, none, "*"⟩) :=
    Pattern.canonical_plain (by decide) (by decide)
  have hparse : Pattern.parse "file:*" = .ok (.term ⟨.file, none, "*"⟩) := hcanonical.parse_render
  have hp : Workspace.patternScope "file:*" (some name) =
      .ok (.filter name (Pattern.selects (.term ⟨.file, none, "*"⟩))) := by
    rw [Workspace.patternScope, hparse]
    simp [bind, Except.bind, pure, Except.pure, String.isEmpty_iff, hname]
  have hapart : Catalog.NamedApart (scopeEngine name).workspace := by
    simp [Catalog.NamedApart, Catalog.namedScopes, scopeEngine, scopeWorkspace]
  have hholder : ⟨"h", [⟨name, some "file:*", none⟩]⟩ ∈ (scopeEngine name).workspace.holders :=
    List.mem_cons_self
  have hget := Catalog.get?_named (mapError_eq_ok.mp h) hapart hholder List.mem_cons_self rfl hp
  exact List.mem_map.mpr ⟨_, List.mem_filter.mpr ⟨(Registry.mem_of_get? hget).1, rfl⟩, rfl⟩

/-- A scope with a plain name compiles by its id, in a workspace that comes from a manifest and with
a provider. -/
theorem compile_listed_scope :
    Workspace.ofManifest (scopeManifest "x") = .ok (scopeWorkspace "x") ∧
      (∀ p ∈ [nothingProvider], p.Completes (scopeEngine "x").workspace ∧ p.implementation ≠ "") ∧
      ∃ listing, (scopeEngine "x").list (some false) = .ok listing ∧ scopeItem "x" ∈ listing.items ∧
        ∀ kind ∈ [.namedPattern, .catalogRef],
          (scopeEngine "x").compile ((scopeItem "x").request "a" kind false) (some true) =
            .ok ((scopeItem "x").descriptor "a") := by
  have hmanifest : Workspace.ofManifest (scopeManifest "x") = .ok (scopeWorkspace "x") := rfl
  have hproviders : ∀ p ∈ [nothingProvider], p.Completes (scopeEngine "x").workspace ∧
      p.implementation ≠ "" := by
    intro p hp
    obtain rfl := List.mem_singleton.mp hp
    exact ⟨completes_nothingProvider _, by decide⟩
  obtain ⟨listing, hlist, hcompile⟩ :=
    compile_listed_iff (scopeManifest "x") (scopeWorkspace "x") []
      [nothingProvider] {} false "a" (by decide) hmanifest hproviders
  obtain ⟨catalog, hcatalog, hlisting⟩ := bind_eq_ok.mp hlist
  have hitem : scopeItem "x" ∈ listing.items := by
    cases hlisting
    exact scopeItem_mem (by decide) hcatalog
  refine ⟨hmanifest, hproviders, listing, hlist, hitem,
    fun kind hkind => (hcompile _ hitem kind hkind).mpr ?_⟩
  rintro name ⟨⟩ ⟨c, hc, hblank⟩
  cases hc
  exact absurd hblank (by decide)

/-- A scope whose name ends in a blank is listed, but its id is trimmed before it is looked up and
found nowhere. -/
theorem compile_listed_blank :
    Workspace.ofManifest (scopeManifest "x ") = .ok (scopeWorkspace "x ") ∧
      ∃ listing, (scopeEngine "x ").list (some false) = .ok listing ∧
        scopeItem "x " ∈ listing.items ∧ ∀ kind ∈ [.namedPattern, .catalogRef],
          (scopeEngine "x ").compile ((scopeItem "x ").request "a" kind false) (some true) =
            .error (.unresolved "a" (.unknownReference "named:h:x")) := by
  obtain ⟨catalog, hbuild⟩ :
      ∃ catalog, Snapshot.build (scopeEngine "x ").workspace [nothingProvider] .firstWins
        ({} : Settings).familyOrder = .ok catalog := by
    refine Catalog.exists_build_iff.mpr fun p hp => ?_
    obtain rfl := List.mem_singleton.mp hp
    exact completes_nothingProvider _
  have hcatalog : (scopeEngine "x ").catalog = .ok catalog := mapError_eq_ok.mpr hbuild
  -- A record with the trimmed id would be that of a scope named "x", and there is none.
  have hnone : catalog.get? "named:h:x" = none := by
    refine Option.eq_none_iff_forall_ne_some.mpr fun r hget => ?_
    obtain ⟨horigin, hrefId⟩ := Catalog.origin_of_get? hbuild hget
    have hnamed : r.refId = RefId.named "h" "x" := hrefId
    obtain ⟨holder, hholder, scope, hscope, text, p, -, -, rfl⟩ := horigin.of_named hnamed
    obtain rfl := List.mem_singleton.mp hholder
    obtain rfl := List.mem_singleton.mp hscope
    have hid : RefId.named "h" "x " = "named:h:x" := hrefId
    exact absurd hid (by decide)
  refine ⟨rfl, _, bind_eq_ok.mpr ⟨catalog, hcatalog, rfl⟩, scopeItem_mem (by decide) hcatalog,
    fun kind hkind => ?_⟩
  have hadhoc : kind.isAdhoc = false := by
    simp only [List.mem_cons, List.not_mem_nil, or_false] at hkind
    rcases hkind with rfl | rfl <;> rfl
  have hid : Text.present? (some (scopeItem "x ").refId) = some "named:h:x" := by decide
  have hnormal : ((scopeItem "x ").reference "a" kind).normalize catalog
        (scopeEngine "x ").workspace false =
      .error (.unresolved (.unknownReference "named:h:x")) := by
    rw [Atom.normalize_of_reference (Item.resolvesByReference_reference hadhoc hid),
      Atom.normalizeReference, Atom.require, Item.reference, hid]
    show (Atom.lookUp catalog false "named:h:x" >>= _) = _
    rw [Atom.lookUp, hnone]
    rfl
  have hatoms : normalizeAtoms .strict catalog (scopeEngine "x ").workspace false
      ((scopeItem "x ").request "a" kind false).atoms =
        .error (.unresolved "a" (.unknownReference "named:h:x")) := by
    simp only [normalizeAtoms, checkDistinct, Item.request, normalizeEach,
      Atom.normalizeUnder_strict, hnormal]
    rfl
  rw [compile_of_catalog hcatalog, compileWith]
  show (Except.bind (normalizeAtoms .strict catalog (scopeEngine "x ").workspace false _) _) = _
  rw [hatoms]
  rfl

end Engine

end ScopeAlgebra
