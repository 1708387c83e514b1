import ScopeAlgebra.Proofs.Json.Values

/-!
# What was written is read back

Both printers lay values out in the same way and differ in their white space and in how they write
strings, and a layout does not matter to what is read (`Layout.reads`). So a value that a message
may hold is read back from either of its texts (`parseMessage?_of_mem_texts`).
-/

namespace ScopeAlgebra.Json

/-- Values that a text may hold when as many levels may be nested in it: the digits of integers are
not too many, there are no other numbers, and no two fields of an object have the same name. -/
inductive Fits : Nat → Json → Prop
  | null {levels : Nat} : Fits levels .null
  | bool {levels : Nat} (b : Bool) : Fits levels (.bool b)
  | int {levels : Nat} {n : Int} (h : IsShort n) : Fits levels (.int n)
  | string {levels : Nat} (s : String) : Fits levels (.string s)
  | nil {levels : Nat} : Fits levels (.array [])
  | empty {levels : Nat} : Fits levels (.object [])
  | array {levels : Nat} {items : List Json} (h : ∀ item ∈ items, Fits levels item) :
    Fits (levels + 1) (.array items)
  | object {levels : Nat} {fields : Fields} (hnames : (fields.map (·.1)).Nodup)
      (h : ∀ field ∈ fields, Fits levels field.2) : Fits (levels + 1) (.object fields)

/-- How a printer lays values out: the white space in front of what stands on a level and behind a
colon, and whether strings are in ASCII. -/
structure Layout (print : Nat → Json → List Char) where
  ascii : Bool
  gap : Nat → List Char
  colon : List Char
  isSpace_gap : ∀ level, IsSpace (gap level)
  isSpace_colon : IsSpace colon
  scalar : ∀ level json, (∀ items, json ≠ .array items) → (∀ fields, json ≠ .object fields) →
    print level json = (writtenScalar ascii json).toList
  nil : ∀ level, print level (.array []) = ['[', ']']
  empty : ∀ level, print level (.object []) = ['\x7b', '\x7d']
  array : ∀ level item more, print level (.array (item :: more)) =
    '[' :: (gap (level + 1) ++ ((',' :: gap (level + 1)).intercalate
    ((item :: more).map (print (level + 1))) ++
      (gap level ++ [']'])))
  object : ∀ level field more, print level (.object (field :: more)) =
    '\x7b' :: (gap (level + 1) ++
      ((',' :: gap (level + 1)).intercalate
      ((field :: more).map (fieldText ascii colon (print (level + 1)))) ++
        (gap level ++ ['\x7d'])))

/-- Whatever the layout, what was written is read back. -/
theorem Layout.reads {print : Nat → Json → List Char} (layout : Layout print) {levels : Nat}
    {json : Json} (h : Fits levels json) (level : Nat) : Reads levels json (print level json) := by
  -- The induction is on the nesting of the value: scalars and empty brackets are read as they are
  -- written, and parts are read one level further in.
  induction h generalizing level with
  | null =>
    rw [layout.scalar level .null (by simp) (by simp)]
    exact reads_null
  | bool b =>
    rw [layout.scalar level (.bool b) (by simp) (by simp)]
    exact reads_bool b
  | @int levels n hn =>
    rw [layout.scalar level (.int n) (by simp) (by simp)]
    exact reads_int hn
  | string s =>
    rw [layout.scalar level (.string s) (by simp) (by simp)]
    exact reads_string s
  | nil =>
    rw [layout.nil]
    exact reads_array_nil
  | empty =>
    rw [layout.empty]
    exact reads_object_nil
  | @array levels items _ ih =>
    rcases items with _ | ⟨item, more⟩
    · rw [layout.nil]
      exact reads_array_nil
    · rw [layout.array]
      exact reads_array (layout.isSpace_gap _) (layout.isSpace_gap _) fun j hj =>
        ih j hj (level + 1)
  | @object levels fields hnames _ ih =>
    rcases fields with _ | ⟨field, more⟩
    · rw [layout.empty]
      exact reads_object_nil
    · rw [layout.object]
      exact reads_object (layout.isSpace_gap _) layout.isSpace_colon (layout.isSpace_gap _) hnames
        fun f hf => ih f hf (level + 1)

/-! ## The layouts of the printers -/

/-- On one line the items of an array are printed each for itself. -/
theorem toList_compactItems (items : List Json) :
    (compactItems items).map String.toList = items.map fun item => item.compact.toList := by
  induction items with
  | nil => simp [compactItems]
  | cons item rest ih => simp [compactItems, ih]

/-- On one line a field is its name in full Unicode, a colon and its value, without blanks. -/
theorem toList_compactFields (fields : Fields) :
    (compactFields fields).map String.toList =
      fields.map (fieldText false [] fun json => json.compact.toList) := by
  induction fields with
  | nil => simp [compactFields]
  | cons field rest ih => simp [compactFields, ih, fieldText]

/-- Over several lines, too, the items of an array are printed each for itself, on their own
level. -/
theorem toList_prettyItems (level : Nat) (items : List Json) :
    (prettyItems level items).map String.toList =
      items.map fun item => (item.prettyAt level).toList := by
  induction items with
  | nil => simp [prettyItems]
  | cons item rest ih => simp [prettyItems, ih]

/-- Over several lines a field is its name in ASCII, a colon with a blank behind it, and its
value. -/
theorem toList_prettyFields (level : Nat) (fields : Fields) :
    (prettyFields level fields).map String.toList =
      fields.map (fieldText true [' '] fun json => (json.prettyAt level).toList) := by
  induction fields with
  | nil => simp [prettyFields]
  | cons field rest ih => simp [prettyFields, ih, fieldText]

/-- Parts stand between their brackets, each on a line of its own that is indented one level deeper
than the brackets. -/
theorem toList_bracketed {opening closing : String} {level : Nat} {parts : List String}
    (h : parts ≠ []) :
    (bracketed opening closing level parts).toList =
      opening.toList ++ ((lineBreak (level + 1)).toList ++
        ((',' :: (lineBreak (level + 1)).toList).intercalate (parts.map String.toList) ++
          ((lineBreak level).toList ++ closing.toList))) := by
  rw [bracketed, if_neg (by simpa using h)]
  simp [String.toList_intercalate]

/-- One line without blanks. -/
def oneLine : Layout fun _ json => json.compact.toList where
  ascii := false
  gap _ := []
  colon := []
  isSpace_gap _ := rfl
  isSpace_colon := rfl
  scalar level json harray hobject := by
    rw [compact]
    · exact harray
    · exact hobject
  nil level := by simp [compact, compactItems]
  empty level := by simp [compact, compactFields]
  array level item more := by
    rw [compact]
    simp [String.toList_intercalate, toList_compactItems]
  object level field more := by
    rw [compact]
    simp [String.toList_intercalate, toList_compactFields]

/-- One part to a line, indented by its level. -/
def indented : Layout fun level json => (json.prettyAt level).toList where
  ascii := true
  gap level := (lineBreak level).toList
  colon := [' ']
  isSpace_gap level := by simp [lineBreak, IsSpace, skipSpace]
  isSpace_colon := rfl
  scalar level json harray hobject := by
    rw [prettyAt]
    · exact harray
    · exact hobject
  nil level := by simp [prettyAt, prettyItems, bracketed]
  empty level := by simp [prettyAt, prettyFields, bracketed]
  array level item more := by
    rw [prettyAt, toList_bracketed (by simp [prettyItems]), toList_prettyItems]
    simp
  object level field more := by
    rw [prettyAt, toList_bracketed (by simp [prettyFields]), toList_prettyFields]
    simp

/-! ## Messages -/

/-- The texts that a value is stored as: on one line, over several, and these with a line break
behind them. -/
def texts (json : Json) : List String := [json.compact, json.pretty, json.pretty ++ "\n"]

/-- A value is read back from each of its texts. -/
theorem parseMessage?_of_mem_texts {json : Json} (h : Fits nestingLimit json) :
    ∀ text ∈ json.texts, parseMessage? text = some json := by
  have hcompact : Reads nestingLimit json json.compact.toList := oneLine.reads h 0
  have hpretty : Reads nestingLimit json json.pretty.toList := indented.reads h 0
  intro text htext
  simp only [texts, List.mem_cons, List.not_mem_nil, or_false] at htext
  have hnone : IsSpace [] := rfl
  have hbreak : IsSpace ['\n'] := rfl
  -- The three texts differ in their layout and in whether a line break is left behind the value.
  rcases htext with rfl | rfl | rfl
  · exact parseWithin?_of_reads hcompact hnone (List.append_nil _).symm
  · exact parseWithin?_of_reads hpretty hnone (List.append_nil _).symm
  · exact parseWithin?_of_reads hpretty hbreak String.toList_append

end ScopeAlgebra.Json
