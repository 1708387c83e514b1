import Mathlib.Data.List.DropRight
import ScopeAlgebra.Proofs.Json.Numbers
import ScopeAlgebra.Proofs.Json.Strings

/-!
# Texts that are read as values

`Reads` says that a text is read as a value, whatever follows it. Scalars have such texts, and
arrays and objects are read when their parts are, with white space around these (`reads_array`,
`reads_object`). In the other direction, integers that stand in an object that was read have few
digits (`isShort_of_object`).
-/

namespace ScopeAlgebra.Json

variable {ascii : Bool} {c : Char} {cs gap closing colon rest : List Char} {n : Int} {json : Json}
  {levels steps : Nat} {before found more : Fields} {field : String × Json}
  {print : Json → List Char}

/-! ## White space -/

/-- A text that is all white space. -/
def IsSpace (cs : List Char) : Prop := skipSpace cs = []

/-- White space in front of a text is skipped with what the text itself starts with. -/
theorem skipSpace_append (h : IsSpace gap) : skipSpace (gap ++ cs) = skipSpace cs :=
  List.dropWhile_append_of_pos (List.dropWhile_eq_nil_iff.mp h)

/-- White space that was skipped is gone. -/
theorem skipSpace_skipSpace : skipSpace (skipSpace cs) = skipSpace cs :=
  List.dropWhile_idempotent _ _

/-- White space ends a number, so a text that ends one still does behind white space. -/
theorem endsNumber_append (hgap : IsSpace gap) (h : EndsNumber rest) :
    EndsNumber (gap ++ rest) := by
  rcases gap with _ | ⟨c, gap⟩
  · exact h
  · have hc := List.dropWhile_eq_nil_iff.mp hgap c List.mem_cons_self
    simp only [Bool.or_eq_true, decide_eq_true_eq] at hc
    refine endsNumber_cons ?_
    rcases hc with ((rfl | rfl) | rfl) | rfl <;> decide

/-- A value is read as it is without the white space in front of it. -/
theorem value_skipSpace : value levels steps (skipSpace cs) = value levels steps cs := by
  cases steps with
  | zero => rfl
  | succ steps => rw [value, value, skipSpace_skipSpace]

/-- Items are read as they are without the white space in front of them. -/
theorem items_skipSpace : items levels steps (skipSpace cs) = items levels steps cs := by
  cases steps with
  | zero => rfl
  | succ steps => rw [items, items, value_skipSpace]

/-- Fields are read as they are without the white space in front of them. -/
theorem fields_skipSpace :
    fields levels steps before (skipSpace cs) = fields levels steps before cs := by
  cases steps with
  | zero => rfl
  | succ steps => rw [fields, fields, skipSpace_skipSpace]

/-- White space in front of a value does not matter, nor does it in front of items or fields. -/
theorem value_append (h : IsSpace gap) :
    value levels steps (gap ++ cs) = value levels steps cs := by
  rw [← value_skipSpace, skipSpace_append h, value_skipSpace]

/-- White space in front of the items of an array does not matter. -/
theorem items_append (h : IsSpace gap) :
    items levels steps (gap ++ cs) = items levels steps cs := by
  rw [← items_skipSpace, skipSpace_append h, items_skipSpace]

/-- White space in front of the fields of an object does not matter. -/
theorem fields_append (h : IsSpace gap) :
    fields levels steps before (gap ++ cs) = fields levels steps before cs := by
  rw [← fields_skipSpace, skipSpace_append h, fields_skipSpace]

/-! ## Scalars -/

/-- A text is read as a value, whatever stands behind it. -/
def Reads (levels : Nat) (json : Json) (text : List Char) : Prop :=
  ∀ steps rest, text.length ≤ steps → EndsNumber rest →
    value levels (steps + 1) (text ++ rest) = some (json, rest)

/-- The null value is read from its word. -/
theorem reads_null : Reads levels .null "null".toList := fun _ _ _ _ => rfl

/-- Truth values are read from their words. -/
theorem reads_bool (b : Bool) : Reads levels (.bool b) (if b then "true" else "false").toList := by
  cases b <;> exact fun _ _ _ _ => rfl

/-- A string is read from what either printer writes for it. -/
theorem reads_string (s : String) : Reads levels (.string s) (writtenString ascii s).toList := by
  intro steps rest _ _
  have htext : (writtenString ascii s).toList ++ rest =
      '"' :: (s.toList.flatMap (writtenChar ascii) ++ '"' :: rest) := by
    simp [writtenString]
  rw [htext, value]
  simp [skipSpace, stringBody_written]

/-- No word starts with a digit. -/
theorem word?_of_isDigit (hc : c.isDigit = true) :
    word? (c :: cs) = none ∧ word? ('-' :: c :: cs) = none := by
  have hne (d : Char) (hd : d.isDigit = false) : d ≠ c := by
    rintro rfl
    simp [hd] at hc
  constructor <;> simp [word?, words, hne]

/-- Numbers are read where no other value starts. -/
theorem value_eq_number (hc : c.isDigit = true ∨ c = '-') (hword : word? (c :: cs) = none) :
    value levels (steps + 1) (c :: cs) = number (c :: cs) := by
  have hne (d : Char) (hd : d.isDigit = false ∧ d ≠ '-') : c ≠ d := by
    rintro rfl
    simp [hd] at hc
  have hskip : skipSpace (c :: cs) = c :: cs := by
    refine List.dropWhile_cons_of_neg ?_
    simp [hne]
  rw [value, hskip]
  -- The other three branches start with a quote or a bracket, which no number does.
  split
  case h_4 => simp [hword]
  all_goals exact absurd (List.cons.inj ‹_›).1 (hne _ (by decide))

/-- An integer of few digits is read from its digits. -/
theorem reads_int (hn : IsShort n) : Reads levels (.int n) (toString n).toList := by
  intro steps rest _ hrest
  have hnumber := number_toString hn hrest
  obtain ⟨d, ds, hds, hd⟩ := exists_digit n.natAbs
  rw [toList_toString, hds] at hnumber ⊢
  -- A negative integer starts with its sign and any other with a digit.
  by_cases hnegative : n < 0
  · rw [if_pos hnegative] at hnumber ⊢
    exact (value_eq_number (.inr rfl) (word?_of_isDigit hd).2).trans hnumber
  · rw [if_neg hnegative] at hnumber ⊢
    exact (value_eq_number (.inl hd) (word?_of_isDigit hd).1).trans hnumber

/-! ## Arrays -/

/-- The empty array is read from its brackets. -/
theorem reads_array_nil : Reads levels (.array []) ['[', ']'] := by
  intro steps rest _ _
  simp [value, skipSpace]

/-- Nothing is read where an array ends. -/
theorem value_closing : value levels steps (']' :: cs) = none := by
  cases steps with
  | zero => rfl
  | succ steps => simp [value, skipSpace, word?, words, number, unsignedNumber, digits]

/-- An array is read from its items. -/
theorem value_array {found : List Json} (h : items levels steps cs = some (found, rest)) :
    value (levels + 1) (steps + 1) ('[' :: cs) = some (.array found, rest) := by
  have hopen : skipSpace ('[' :: cs) = '[' :: cs := rfl
  rw [← items_skipSpace] at h
  rw [value, hopen]
  simp only
  -- Three branches: the array closes at once, no level is left for it, or its items are read. In
  -- the first no item could have been read.
  split
  next hclosing =>
    rw [hclosing] at h
    cases steps with
    | zero => contradiction
    | succ steps => simp [items, value_closing] at h
  · contradiction
  next hlevels _ =>
    cases hlevels
    simp [h]

/-- Items are read one after the other. -/
theorem items_of_reads (hgap : IsSpace gap) (hclosing : IsSpace closing) {item : Json}
    {more : List Json} (h : ∀ j ∈ item :: more, Reads levels j (print j))
    (hsteps : ((',' :: gap).intercalate ((item :: more).map print)).length ≤ steps) :
    items levels (steps + 2)
      ((',' :: gap).intercalate ((item :: more).map print) ++ (closing ++ ']' :: rest)) =
        some (item :: more, rest) := by
  -- The induction is on the items behind the first. Each takes a step and at least the comma in
  -- front of it, so the steps that are left suffice for the rest of the text.
  induction more generalizing item steps with
  | nil =>
    rw [List.map_singleton, List.intercalate_singleton] at hsteps ⊢
    have hrest : EndsNumber (closing ++ ']' :: rest) :=
      endsNumber_append hclosing (endsNumber_cons (by decide))
    have hend : skipSpace (closing ++ ']' :: rest) = ']' :: rest := skipSpace_append hclosing
    rw [items, h item List.mem_cons_self steps _ hsteps hrest]
    simp [hend]
  | cons next more ih =>
    obtain ⟨hfirst, hmore⟩ := List.forall_mem_cons.mp h
    simp only [List.map_cons, List.intercalate_cons_cons, List.append_assoc,
      List.cons_append] at ih hsteps ⊢
    simp only [List.length_append, List.length_cons] at hsteps
    obtain ⟨steps, rfl⟩ := Nat.exists_eq_succ_of_ne_zero (n := steps) (by omega)
    have hrest (tail : List Char) : EndsNumber (',' :: tail) := endsNumber_cons (by decide)
    have hcomma (tail : List Char) : skipSpace (',' :: tail) = ',' :: tail := rfl
    rw [items, hfirst _ _ (by omega) (hrest _)]
    simp only [Option.bind_eq_bind, Option.bind_some, hcomma, items_append hgap]
    rw [ih hmore (by omega)]
    rfl

/-- An array is read from its brackets with the texts of its items between them, however white space
is set around the items. -/
theorem reads_array (hgap : IsSpace gap) (hclosing : IsSpace closing) {item : Json}
    {more : List Json} (h : ∀ j ∈ item :: more, Reads levels j (print j)) :
    Reads (levels + 1) (.array (item :: more))
      ('[' ::
        (gap ++ ((',' :: gap).intercalate ((item :: more).map print) ++ (closing ++ [']'])))) := by
  intro steps rest hsteps _
  simp only [List.length_cons, List.length_append] at hsteps
  -- The two brackets pay for the steps that reading the items takes beyond their length.
  obtain ⟨steps, rfl⟩ := Nat.exists_eq_add_of_le' (m := 2) (n := steps) (by omega)
  simp only [List.cons_append, List.append_assoc, List.nil_append]
  refine value_array ?_
  rw [items_append hgap]
  exact items_of_reads hgap hclosing h (by omega)

/-! ## Objects -/

/-- The empty object is read from its brackets. -/
theorem reads_object_nil : Reads levels (.object []) ['\x7b', '\x7d'] := by
  intro steps rest _ _
  simp [value, skipSpace]

/-- An object is read from its fields. -/
theorem value_object (h : fields levels steps [] cs = some (found, rest)) :
    value (levels + 1) (steps + 1) ('\x7b' :: cs) = some (.object found, rest) := by
  have hopen : skipSpace ('\x7b' :: cs) = '\x7b' :: cs := rfl
  rw [← fields_skipSpace] at h
  rw [value, hopen]
  simp only
  -- The branches are those of an array: closed at once, no level left, or fields to be read.
  split
  next hclosing =>
    rw [hclosing] at h
    cases steps with
    | zero => contradiction
    | succ steps => simp [fields, skipSpace] at h
  · contradiction
  next hlevels _ =>
    cases hlevels
    simp [h]

/-- A field with a new name goes behind the fields that were read before. -/
theorem put_of_notMem {name : String} (h : name ∉ before.map (·.1)) :
    Fields.put before name json = before ++ [(name, json)] := by
  rw [Fields.put, if_neg]
  simpa using h

/-- The text of a field. -/
def fieldText (ascii : Bool) (colon : List Char) (print : Json → List Char)
    (field : String × Json) : List Char :=
  (writtenString ascii field.1).toList ++ ':' :: (colon ++ print field.2)

/-- A field is read and put behind those before it. -/
theorem fields_fieldText (hcolon : IsSpace colon) (hnew : field.1 ∉ before.map (·.1))
    (h : Reads levels field.2 (print field.2))
    (hsteps : (fieldText ascii colon print field).length ≤ steps) (hrest : EndsNumber rest) :
    fields levels (steps + 2) before (fieldText ascii colon print field ++ rest) =
      match skipSpace rest with
      | ',' :: rest => fields levels (steps + 1) (before ++ [field]) rest
      | '\x7d' :: rest => some (before ++ [field], rest)
      | _ => none := by
  obtain ⟨name, json⟩ := field
  have htext : fieldText ascii colon print (name, json) ++ rest =
      '"' :: (name.toList.flatMap (writtenChar ascii) ++ '"' ::
      (':' :: (colon ++ (print json ++ rest)))) := by
    simp [fieldText, writtenString]
  have hopen (tail : List Char) : skipSpace ('"' :: tail) = '"' :: tail := rfl
  have hskip (tail : List Char) : skipSpace (':' :: tail) = ':' :: tail := rfl
  have hlength : (print json).length ≤ steps := by
    simp only [fieldText, List.length_append, List.length_cons] at hsteps
    omega
  rw [htext, fields, hopen]
  simp only [stringBody_written, Option.bind_eq_bind, Option.bind_some, hskip]
  rw [value_append hcolon, h steps rest hlength hrest]
  simp only [Option.bind_some, String.ofList_toList, put_of_notMem hnew]
  rfl

/-- Fields are read one after the other when no two of them have the same name. -/
theorem fields_of_reads (hgap : IsSpace gap) (hcolon : IsSpace colon) (hclosing : IsSpace closing)
    (hnames : ((before ++ field :: more).map (·.1)).Nodup)
    (h : ∀ f ∈ field :: more, Reads levels f.2 (print f.2))
    (hsteps : ((',' :: gap).intercalate
      ((field :: more).map (fieldText ascii colon print))).length ≤ steps) :
    fields levels (steps + 2) before
      ((',' :: gap).intercalate ((field :: more).map (fieldText ascii colon print)) ++
        (closing ++ '\x7d' :: rest)) = some (before ++ field :: more, rest) := by
  have hnew {before more : Fields} {field : String × Json}
      (h : ((before ++ field :: more).map (·.1)).Nodup) :
      field.1 ∉ before.map (·.1) := by
    rw [List.map_append, List.nodup_append] at h
    exact fun hmem => h.2.2 _ hmem _ List.mem_cons_self rfl
  -- The induction is on the fields behind the first, with those already read as a parameter: what
  -- is read is put behind them, since its name is new.
  induction more generalizing field before steps with
  | nil =>
    rw [List.map_singleton, List.intercalate_singleton] at hsteps ⊢
    have hrest : EndsNumber (closing ++ '\x7d' :: rest) :=
      endsNumber_append hclosing (endsNumber_cons (by decide))
    have hend : skipSpace (closing ++ '\x7d' :: rest) = '\x7d' :: rest := skipSpace_append hclosing
    rw [fields_fieldText hcolon (hnew hnames) (h field List.mem_cons_self) hsteps hrest, hend]
    rfl
  | cons next more ih =>
    obtain ⟨hfirst, hmore⟩ := List.forall_mem_cons.mp h
    have hsplit : before ++ field :: next :: more = before ++ [field] ++ next :: more := by simp
    simp only [List.map_cons, List.intercalate_cons_cons, List.append_assoc,
      List.cons_append] at ih hsteps ⊢
    simp only [List.length_append, List.length_cons] at hsteps
    obtain ⟨steps, rfl⟩ := Nat.exists_eq_succ_of_ne_zero (n := steps) (by omega)
    have hrest (tail : List Char) : EndsNumber (',' :: tail) := endsNumber_cons (by decide)
    have hcomma (tail : List Char) : skipSpace (',' :: tail) = ',' :: tail := rfl
    rw [fields_fieldText hcolon (hnew hnames) hfirst (by omega) (hrest _), hcomma]
    simp only [fields_append hgap]
    rw [hsplit] at hnames ⊢
    exact ih hnames hmore (by omega)

/-- An object is read from its brackets with the texts of its fields between them, when no two of
them have the same name. -/
theorem reads_object (hgap : IsSpace gap) (hcolon : IsSpace colon) (hclosing : IsSpace closing)
    (hnames : ((field :: more).map (·.1)).Nodup)
    (h : ∀ f ∈ field :: more, Reads levels f.2 (print f.2)) :
    Reads (levels + 1) (.object (field :: more))
      ('\x7b' ::
        (gap ++ ((',' :: gap).intercalate ((field :: more).map (fieldText ascii colon print)) ++
          (closing ++ ['\x7d'])))) := by
  intro steps rest hsteps _
  simp only [List.length_cons, List.length_append] at hsteps
  obtain ⟨steps, rfl⟩ := Nat.exists_eq_add_of_le' (m := 2) (n := steps) (by omega)
  simp only [List.cons_append, List.append_assoc, List.nil_append]
  refine value_object ?_
  rw [fields_append hgap]
  exact fields_of_reads hgap hcolon hclosing hnames h (by omega)

/-! ## Whole texts -/

/-- A text that is read as a value holds it, with white space behind it or without. -/
theorem parseWithin?_of_reads {text : String} {tail : List Char} (h : Reads levels json cs)
    (htail : IsSpace tail) (htext : text.toList = cs ++ tail) :
    parseWithin? levels text = some json := by
  have hrest : EndsNumber (tail ++ []) := endsNumber_append htail endsNumber_nil
  rw [List.append_nil] at hrest
  -- The parser takes one step more than the text has characters, and `Reads` asks for no more.
  have hvalue := h (cs ++ tail).length tail (by rw [List.length_append]; omega) hrest
  rw [parseWithin?, htext, hvalue]
  exact if_pos (List.isEmpty_iff.mpr htail)

/-! ## Integers in objects -/

/-- What is read as a word is one of the values that words stand for. -/
theorem mem_words_of_word? (h : word? cs = some (json, rest)) : json ∈ words.map (·.2) := by
  obtain ⟨⟨word, found⟩, hmem, hword⟩ := List.exists_of_findSome?_eq_some h
  simp only at hword
  split at hword
  · cases hword
    exact List.mem_map.mpr ⟨_, hmem, rfl⟩
  · contradiction

/-- What a value that is read can be, with what is left behind it. -/
inductive Found (rest : List Char) : Json → Prop where
  | string (s : String) : Found rest (.string s)
  | array (items : List Json) : Found rest (.array items)
  | empty : Found rest (.object [])
  | object {levels steps : Nat} {cs : List Char} {found : Fields}
    (h : fields levels steps [] cs = some (found, rest)) : Found rest (.object found)
  | word {json : Json} (h : json ∈ words.map (·.2)) : Found rest json
  | int {n : Int} (h : IsShort n) : Found rest (.int n)
  | decimal (mantissa power : Int) : Found rest (.decimal mantissa power)

/-- Whatever value is read falls under one of the forms of `Found`. -/
theorem found_of_value (h : value levels steps cs = some (json, rest)) : Found rest json := by
  cases steps with
  | zero => contradiction
  | succ steps =>
    rw [value] at h
    -- One case for each way a value can start: a quote, a bracket, a brace, and all other
    -- characters.
    split at h
    · obtain ⟨_, -, h⟩ := Option.bind_eq_some_iff.mp h
      cases h
      exact .string _
    · split at h
      · cases h
        exact .array _
      · contradiction
      · obtain ⟨_, -, h⟩ := Option.bind_eq_some_iff.mp h
        cases h
        exact .array _
    · split at h
      · cases h
        exact .empty
      · contradiction
      · obtain ⟨_, hfields, h⟩ := Option.bind_eq_some_iff.mp h
        cases h
        exact .object hfields
    · rcases Option.or_eq_some_iff.mp h with hword | ⟨-, hnumber⟩
      · exact .word (mem_words_of_word? hword)
      · rcases number_eq_some hnumber with ⟨n, rfl, hshort⟩ | ⟨mantissa, power, rfl⟩
        · exact .int hshort
        · exact .decimal mantissa power

/-- An integer that is read is short. -/
theorem isShort_of_value (h : value levels steps cs = some (.int n, rest)) : IsShort n := by
  cases found_of_value h with
  | word hmem => simp [words] at hmem
  | int hshort => exact hshort

/-- A property of the values of all fields is kept when a field that has it is put among them. -/
theorem forall_put {P : Json → Prop} {name : String} (hbefore : ∀ field ∈ before, P field.2)
    (h : P json) : ∀ field ∈ Fields.put before name json, P field.2 := by
  rw [Fields.put]
  split
  · intro field hfield
    obtain ⟨old, hold, rfl⟩ := List.mem_map.mp hfield
    split
    · exact h
    · exact hbefore old hold
  · exact List.forall_mem_append.mpr ⟨hbefore, List.forall_mem_singleton.mpr h⟩

/-- What holds of every value that is read holds of the fields that are read. -/
theorem forall_fields {P : Json → Prop}
    (hvalue : ∀ steps cs json rest, value levels steps cs = some (json, rest) → P json)
    (hbefore : ∀ field ∈ before, P field.2)
    (h : fields levels steps before cs = some (found, rest)) : ∀ field ∈ found, P field.2 := by
  -- The induction is on the steps: a field that is read is put among those before, and the rest is
  -- read in fewer steps.
  induction steps generalizing before cs with
  | zero => contradiction
  | succ steps ih =>
    rw [fields] at h
    split at h
    case h_2 => contradiction
    obtain ⟨⟨name, cs'⟩, -, h⟩ := Option.bind_eq_some_iff.mp h
    simp only at h
    split at h
    case h_2 => contradiction
    obtain ⟨⟨json, cs''⟩, hfirst, h⟩ := Option.bind_eq_some_iff.mp h
    have hput : ∀ field ∈ Fields.put before (String.ofList name) json, P field.2 :=
      forall_put hbefore (hvalue steps _ json cs'' hfirst)
    simp only at h
    split at h
    · exact ih hput h
    · cases h
      exact hput
    · contradiction

/-- The integers in the fields of an object that is read are short. -/
theorem isShort_of_object {text name : String} (h : parseWithin? levels text = some (.object found))
    (hfield : Fields.get? found name = some (.int n)) : IsShort n := by
  obtain ⟨⟨json, rest⟩, hvalue, h⟩ := Option.bind_eq_some_iff.mp h
  simp only at h
  split at h
  case isFalse => contradiction
  cases h
  have hshort : ∀ field ∈ found, ∀ n, field.2 = .int n → IsShort n := by
    -- An object that is read is no word, so it is empty or its fields were read.
    cases found_of_value hvalue with
    | word hmem => simp [words] at hmem
    | empty => simp
    | object hfields =>
      refine forall_fields (P := fun json => ∀ n, json = .int n → IsShort n) ?_ (by simp) hfields
      rintro _ _ _ _ hread n rfl
      exact isShort_of_value hread
  obtain ⟨field, hfind, hint⟩ := Option.map_eq_some_iff.mp hfield
  exact hshort field (List.mem_of_find?_eq_some hfind) n hint

end ScopeAlgebra.Json
