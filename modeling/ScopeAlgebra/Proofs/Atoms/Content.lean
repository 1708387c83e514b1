import Mathlib.Data.List.Sort
import ScopeAlgebra.Proofs.Atoms.Normal
import ScopeAlgebra.Proofs.Pattern.Composition

/-!
# Ad-hoc atoms are known by their content

The normal form of a set of files lists the trimmed urls that are not blank in the one ascending
order, and that of a pattern is the one text of its tree. So two of them are equal exactly when the
sets of urls are, or the trees, wherever and under whatever policy the atoms are normalized, and the
reference ids follow from them (`adhoc_known_by_content`).
-/

namespace ScopeAlgebra

/-- The urls that a list stands for: those that are not blank, trimmed. -/
def urlContent (urls : List String) : Set String :=
  {url | ∃ given ∈ urls, Text.isBlankText given = false ∧ Text.trim given = url}

variable {urls urls' : List String}

/-- The canonical urls of a list are the urls that it stands for. -/
theorem mem_canonicalUrls_iff_mem_urlContent {url : String} :
    url ∈ canonicalUrls urls ↔ url ∈ urlContent urls := by
  simp [mem_canonicalUrls, Text.present?_eq_some, urlContent]

/-- Canonical urls are equal exactly when they stand for the same urls, since there is one ascending
list of them. -/
theorem canonicalUrls_eq_iff :
    canonicalUrls urls = canonicalUrls urls' ↔ urlContent urls = urlContent urls' := by
  constructor
  · intro h
    ext url
    rw [← mem_canonicalUrls_iff_mem_urlContent, h, mem_canonicalUrls_iff_mem_urlContent]
  · intro h
    -- Two ascending lists without repetitions are equal as soon as they have the same members.
    refine (sorted_canonicalUrls urls).eq_of_mem_iff (sorted_canonicalUrls urls') fun url => ?_
    rw [mem_canonicalUrls_iff_mem_urlContent, h, mem_canonicalUrls_iff_mem_urlContent]

/-- The canonical texts of two patterns are equal exactly when the patterns are. -/
theorem Pattern.render_eq_iff {text text' : String} {p q : Pattern} (hp : parse text = .ok p)
    (hq : parse text' = .ok q) : p.render = q.render ↔ p = q := by
  constructor
  · intro h
    have hback : parse p.render = .ok p := (canonical_of_parse hp).parse_render
    have hback' : parse q.render = .ok q := (canonical_of_parse hq).parse_render
    rw [h] at hback
    exact Except.ok.inj (hback.symm.trans hback')
  · exact congrArg render

namespace Atom

variable {policy : Policy} {catalog : Snapshot} {ws : Workspace} {allow : Bool} {a a' : Atom}
  {notes : Diagnostics} {text : String} {p : Pattern}

/-- Under any policy a set of files has its canonical urls as normal form, unless there are none. -/
theorem normalizeUnder_fileSet (hkind : a.kind = .fileSet) :
    a.normalizeUnder policy catalog ws allow = .ok (a', notes) ↔
      canonicalUrls a.fileUrls ≠ [] ∧ notes = [] ∧
        a' = { a with
          fileUrls := canonicalUrls a.fileUrls,
          refId? := some (RefId.files (canonicalUrls a.fileUrls)) } := by
  have hnormalize : a.normalize catalog ws allow = a.normalizeFiles := by
    rw [normalize_of_payload (resolvesByReference_of_isAdhoc (by rw [hkind]; rfl)),
      normalizePayload, hkind]
  rw [normalizeUnder, hnormalize, normalizeFiles]
  cases canonicalUrls a.fileUrls with
  | nil => simp
  | cons url rest => simp [Noted.plain, eq_comm, and_comm]

/-- Under any policy a pattern that is read from its trimmed text has its canonical text as normal
form. -/
theorem normalizeUnder_pattern (hkind : a.kind = .adhocPattern) (htext : a.pattern? = some text)
    (hp : Pattern.parse (Text.trim text) = .ok p) :
    a.normalizeUnder policy catalog ws allow = .ok (a.withPattern p.render, []) := by
  -- A blank text is trimmed to nothing, and nothing is not a pattern.
  have hblank : Text.isBlankText text = false := by
    by_contra hblank
    have hnil : Text.trimChars text.toList = [] :=
      Text.trimChars_eq_nil_iff.mpr (Text.isBlankText_iff.mp (by simpa using hblank))
    rw [Text.trim, hnil] at hp
    contradiction
  have hpresent : Text.present? a.pattern? = some (Text.trim text) :=
    Text.present?_eq_some.mpr ⟨text, htext, hblank, rfl⟩
  exact normalizeUnder_eq_ok.mpr
    (.inl ⟨.pattern hkind hpresent (Pattern.canonical_eq_ok.mpr ⟨p, hp, rfl⟩), rfl⟩)

/-- Sets of files have the same normal urls exactly when they stand for the same urls, and then the
same reference id. Patterns whose trimmed texts can be read have normal forms; these have the same
text exactly when the texts are read as the same pattern, and then the same reference id. The two
atoms may be normalized in different workspaces and against different catalogs and may carry any
other fields, an outdated reference id among them. -/
theorem adhoc_known_by_content (policy policy' : Policy) (catalog catalog' : Snapshot)
    (ws ws' : Workspace) (allow allow' : Bool) (a b : Atom) :
    (a.kind = .fileSet → b.kind = .fileSet → ∀ a' b' notes notes',
      a.normalizeUnder policy catalog ws allow = .ok (a', notes) →
      b.normalizeUnder policy' catalog' ws' allow' = .ok (b', notes') →
        (a'.fileUrls = b'.fileUrls ↔ urlContent a.fileUrls = urlContent b.fileUrls) ∧
          (a'.fileUrls = b'.fileUrls → ∃ refId, a'.refId? = some refId ∧ b'.refId? = some refId)) ∧
      (a.kind = .adhocPattern → b.kind = .adhocPattern → ∀ text text' p q,
        a.pattern? = some text → b.pattern? = some text' →
        Pattern.parse (Text.trim text) = .ok p → Pattern.parse (Text.trim text') = .ok q →
          ∃ a' b', a.normalizeUnder policy catalog ws allow = .ok (a', []) ∧
            b.normalizeUnder policy' catalog' ws' allow' = .ok (b', []) ∧
              (a'.pattern? = b'.pattern? ↔ p = q) ∧
            (a'.pattern? = b'.pattern? → ∃ refId, a'.refId? = some refId ∧
              b'.refId? = some refId)) := by
  constructor
  · intro ha hb a' b' notes notes' hnormal hnormal'
    obtain ⟨-, -, rfl⟩ := (normalizeUnder_fileSet ha).mp hnormal
    obtain ⟨-, -, rfl⟩ := (normalizeUnder_fileSet hb).mp hnormal'
    exact ⟨canonicalUrls_eq_iff, fun hsame => ⟨_, rfl, congrArg (some ∘ RefId.files) hsame.symm⟩⟩
  -- A pattern that is read has a normal form, so its existence is proved here and not assumed.
  · intro ha hb text text' p q htext htext' hp hq
    refine ⟨_, _, normalizeUnder_pattern ha htext hp, normalizeUnder_pattern hb htext' hq, ?_,
      fun hsame => ?_⟩
    · exact Option.some_inj.trans (Pattern.render_eq_iff hp hq)
    · exact ⟨_, rfl, congrArg (Option.map RefId.pattern) hsame.symm⟩

/-- Files in any order, with repetitions, blanks and an outdated reference id. -/
def shuffledFiles : Atom where
  id := "a"
  kind := .fileSet
  refId? := some "files:old"
  fileUrls := ["y ", "", " x", "y"]

/-- The same files as they are listed in the normal form. -/
def sortedFiles : Atom where
  id := "b"
  kind := .fileSet
  fileUrls := ["x", "y"]

/-- An atom for the text of a pattern. -/
def ofPatternText (text : String) : Atom where
  id := "c"
  kind := .adhocPattern
  pattern? := some text

/-- Both sets of files get one reference id, under either policy, and so do two spellings of a
pattern, but not its negation. -/
theorem adhoc_known_shuffled :
    (∃ a' b', shuffledFiles.normalizeUnder .strict {} {} false = .ok (a', []) ∧
      sortedFiles.normalizeUnder .lenient {} {} true = .ok (b', []) ∧
      urlContent shuffledFiles.fileUrls = urlContent sortedFiles.fileUrls ∧
      ∃ refId, a'.refId? = some refId ∧ b'.refId? = some refId) ∧
    ∃ c' d' e', (ofPatternText " file:a ").normalizeUnder .strict {} {} false = .ok (c', []) ∧
      (ofPatternText "!(!file:a)").normalizeUnder .lenient {} {} true = .ok (d', []) ∧
      (ofPatternText "!file:a").normalizeUnder .lenient {} {} true = .ok (e', []) ∧
      (∃ refId, c'.refId? = some refId ∧ d'.refId? = some refId) ∧ c'.pattern? ≠ e'.pattern? := by
  have hterm : Pattern.Canonical (.term ⟨.file, none, "a"⟩) :=
    Pattern.canonical_plain (by decide) (by decide)
  have hplain : Pattern.parse (Text.trim " file:a ") = .ok (.term ⟨.file, none, "a"⟩) :=
    hterm.parse_render
  have hnegation : Pattern.parse "!file:a" = .ok (.negation (.term ⟨.file, none, "a"⟩)) :=
    (Pattern.Canonical.negation hterm (by simp)).parse_render
  have hdouble : Pattern.parse (Text.trim "!(!file:a)") = .ok (.term ⟨.file, none, "a"⟩) :=
    Pattern.parse_negated hnegation
  constructor
  · have hsame : canonicalUrls shuffledFiles.fileUrls = canonicalUrls sortedFiles.fileUrls := by
      decide
    have hshuffled : shuffledFiles.normalizeUnder .strict {} {} false = .ok (_, []) :=
      (normalizeUnder_fileSet rfl).mpr ⟨by decide, rfl, rfl⟩
    have hsorted : sortedFiles.normalizeUnder .lenient {} {} true = .ok (_, []) :=
      (normalizeUnder_fileSet rfl).mpr ⟨by decide, rfl, rfl⟩
    obtain ⟨hcontent, hid⟩ := (adhoc_known_by_content .strict .lenient {} {} {} {} false
      true shuffledFiles sortedFiles).1 rfl rfl _ _ _ _ hshuffled hsorted
    exact ⟨_, _, hshuffled, hsorted, hcontent.mp hsame, hid hsame⟩
  · have hknown (text' : String) := (adhoc_known_by_content .strict .lenient {} {} {} {} false true
      (ofPatternText " file:a ") (ofPatternText text')).2 rfl rfl " file:a " text'
    obtain ⟨c', d', hc, hd, htexts, hid⟩ := hknown _ _ _ rfl rfl hplain hdouble
    obtain ⟨c'', e', hc', he, hdiffer, -⟩ := hknown "!file:a" _ _ rfl rfl hplain hnegation
    obtain rfl : c' = c'' := by simpa using hc.symm.trans hc'
    exact ⟨c', d', e', hc, hd, he, hid (htexts.mpr rfl), fun h => by cases hdiffer.mp h⟩

end Atom

end ScopeAlgebra
