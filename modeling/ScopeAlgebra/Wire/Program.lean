import ScopeAlgebra.Program.Basic
import ScopeAlgebra.Text.Blank
import ScopeAlgebra.Text.Lowercase
import ScopeAlgebra.Wire.Atom

/-!
# Programs as JSON

Tokens, requests and descriptors are written with every field and read back. The instruction that
pushes an atom may also be written as `atom`, in any case and with white space around it.
-/

namespace ScopeAlgebra

open Schema

namespace Token

/-- The fields of a token. -/
def toJson (t : Token) : Json := .object [
  ("op", .ofMember t.op),
  ("atom_id", .optionalString t.atomId?)]

/-- Reads an operation, the older word for pushing an atom included. -/
def readOp : Reader ProgramOp
  | .string s =>
    if Text.lower (Text.trim s) = "atom" then .ok .push else member ProgramOp (.string s)
  | json => member ProgramOp json

/-- Reads a token from the fields of an object. -/
def ofFields (fields : Json.Fields) : Checked Token :=
  Checked.ok Token.mk
    |>.ap (required fields "op" readOp)
    |>.ap (optional fields "atom_id" none (nullable text))

/-- Reads a token. -/
def ofJson : Reader Token := model .wire "ProgramToken" ofFields

end Token

/-- Reads the atoms of a program. -/
def readAtoms (fields : Json.Fields) : Checked (List Atom) :=
  optional fields "atoms" [] (listOf .wire Atom.ofJson)

/-- Reads the tokens of a program. -/
def readTokens (fields : Json.Fields) : Checked (List Token) :=
  optional fields "tokens" [] (listOf .wire Token.ofJson)

namespace Request

/-- A truth value or null. -/
def optionalBool : Option Bool → Json
  | some b => .bool b
  | none => .null

/-- The fields of a request. -/
def toJson (r : Request) : Json := .object [
  ("atoms", .array (r.atoms.map Atom.toJson)),
  ("tokens", .array (r.tokens.map Token.toJson)),
  ("strict", optionalBool r.strict?),
  ("allow_interactive", optionalBool r.allowInteractive?),
  ("default_failure_mode", .ofMember? r.failureMode?)]

/-- Reads a request from the fields of an object. -/
def ofFields (fields : Json.Fields) : Checked Request :=
  Checked.ok Request.mk
    |>.ap (readAtoms fields)
    |>.ap (readTokens fields)
    |>.ap (optional fields "strict" none (nullable boolean))
    |>.ap (optional fields "allow_interactive" none (nullable boolean))
    |>.ap (optional fields "default_failure_mode" none (nullable (member FailureMode)))

/-- Reads a request. -/
def ofJson : Reader Request := model .wire "ResolveRequest" ofFields

end Request

namespace Descriptor

/-- The fields of a descriptor. -/
def toJson (d : Descriptor) : Json := .object [
  ("version", .int d.version),
  ("atoms", .array (d.atoms.map Atom.toJson)),
  ("tokens", .array (d.tokens.map Token.toJson)),
  ("display_name", .string d.displayName),
  ("shape", .ofMember d.shape),
  ("diagnostics", .strings d.diagnostics)]

/-- Reads a descriptor from the fields of an object. -/
def ofFields (fields : Json.Fields) : Checked Descriptor :=
  Checked.ok Descriptor.mk
    |>.ap (optional fields "version" 2 integer)
    |>.ap (readAtoms fields)
    |>.ap (readTokens fields)
    |>.ap (optional fields "display_name" "" text)
    |>.ap (optional fields "shape" .global (member Shape))
    |>.ap (optional fields "diagnostics" [] (listOf .wire text))

/-- Reads a descriptor. -/
def ofJson : Reader Descriptor := model .wire "ProgramDescriptor" ofFields

end Descriptor

end ScopeAlgebra
