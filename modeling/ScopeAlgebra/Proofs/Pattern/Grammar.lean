import ScopeAlgebra.Pattern.Parser
import ScopeAlgebra.Proofs.Text.Blank

/-!
# The grammar of patterns

The grammar, with `ws` any white space, `m` not blank and without `]`, and a glob that is not empty
and takes every character up to the next one that ends it:

pattern = or ws*
or      = and (ws* "||" and)*
and     = unary (ws* "&&" unary)*
unary   = ws* "!" unary | ws* "(" or ws* ")" | ws* term
term    = kind ("[" m "]")? ":" glob

`Derives` says that a text starts with what a category of the grammar derives and what is left
behind it. The derivation is kept as a `Phrase`, whose boolean reading is `Phrase.Selects`. Both
lists of operands are chains, which differ in their operator and in the category of their operands.
-/

namespace ScopeAlgebra.Pattern

/-- The operators that stand between operands. -/
inductive Operator where
  | or
  | and
  deriving DecidableEq, Repr

/-- The character that is written twice for an operator. -/
def Operator.char : Operator → Char
  | .or => '|'
  | .and => '&'

/-- A derivation: the text of a pattern read as it is written, with nothing joined or cancelled. -/
inductive Phrase where
  | term (kind : TermKind) (module? : Option (List Char)) (glob : List Char)
  | negation (operand : Phrase)
  | binary (o : Operator) (left right : Phrase)
  deriving Repr

/-- The boolean reading of a derivation: whether it selects a file. -/
def Phrase.Selects (f : File) : Phrase → Prop
  | .term kind module? glob =>
    (∀ root, kind.root? = some root → f.root = root) ∧
      (∀ m, module? = some m →
        ∃ name, f.module? = some name ∧ Wildcard.accepts (Text.trimChars m) name.toList = true) ∧
      Glob.accepts (Glob.pieces glob) f.path.toList = true
  | .negation operand => ¬ operand.Selects f
  | .binary .or left right => left.Selects f ∨ right.Selects f
  | .binary .and left right => left.Selects f ∧ right.Selects f

/-! ## Derivations -/

/-- The characters that end a glob. -/
def globStops : List Char := [' ', '\t', '\r', '\n', '(', ')', '|', '&', '!']

/-- A glob in front of a rest: not empty, without a character that ends it, and ended by the
rest. -/
structure GlobBefore (glob rest : List Char) : Prop where
  ne_nil : glob ≠ []
  within : ∀ c ∈ glob, c ∉ globStops
  ended : ∀ c, rest.head? = some c → c ∈ globStops

/-- `term = kind ("[" m "]")? ":" glob` -/
inductive DerivesTerm : List Char → Phrase → List Char → Prop where
  | anywhere {kind : TermKind} {glob rest : List Char} (hglob : GlobBefore glob rest) :
    DerivesTerm ((word kind).toList ++ ':' :: (glob ++ rest)) (.term kind none glob) rest
  | inModule {kind : TermKind} {m glob rest : List Char} (hm : ']' ∉ m) (hblank : ¬ Text.Blanks m)
    (hglob : GlobBefore glob rest) :
    DerivesTerm ((word kind).toList ++ '[' :: (m ++ ']' :: ':' :: (glob ++ rest)))
      (.term kind (some m) glob) rest

/-- The categories of the grammar: `or` and `and` are the chains of their operators. -/
inductive Category where
  | chain (o : Operator)
  | unary
  deriving DecidableEq, Repr

/-- The category of the operands of an operator. -/
def Operator.operand : Operator → Category
  | .or => .chain .and
  | .and => .unary

/-- A text is what a category derives, followed by a rest. -/
inductive Derives : Category → List Char → Phrase → List Char → Prop where
  | single {o : Operator} {s rest : List Char} {d : Phrase}
    (hoperand : Derives o.operand s d rest) :
    Derives (.chain o) s d rest
  | more {o : Operator} {s w s' rest : List Char} {d e : Phrase}
    (hoperand : Derives o.operand s d (w ++ o.char :: o.char :: s')) (hw : Text.Blanks w)
    (hchain : Derives (.chain o) s' e rest) :
    Derives (.chain o) s (.binary o d e) rest
  | negation {w s rest : List Char} {d : Phrase} (hw : Text.Blanks w)
    (hoperand : Derives .unary s d rest) :
    Derives .unary (w ++ '!' :: s) (.negation d) rest
  | group {w s v rest : List Char} {d : Phrase} (hw : Text.Blanks w)
    (hinner : Derives (.chain .or) s d (v ++ ')' :: rest)) (hv : Text.Blanks v) :
    Derives .unary (w ++ '(' :: s) d rest
  | term {w s rest : List Char} {d : Phrase} (hw : Text.Blanks w) (hterm : DerivesTerm s d rest) :
    Derives .unary (w ++ s) d rest

/-- A whole text is a pattern: `pattern = or ws*`. -/
def DerivesPattern (text : List Char) (d : Phrase) : Prop :=
  ∃ rest, Derives (.chain .or) text d rest ∧ Text.Blanks rest

end ScopeAlgebra.Pattern
