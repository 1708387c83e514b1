import ScopeAlgebra.Console.EmojiTable
import ScopeAlgebra.Text.Blank
import ScopeAlgebra.Text.Lowercase

/-!
# Emoji codes

A name between colons stands for an emoji. It may end in `-emoji` or `-text`, which asks for the
coloured or the plain form. A name that is not known is left with its colons, and its closing colon
opens no other code.
-/

namespace ScopeAlgebra.Emoji

/-- The endings of a name and the characters that ask for their form. -/
def variants : List (String × Char) := [("-emoji", '\uFE0F'), ("-text", '\uFE0E')]

/-- A name without its ending, and the form that the ending asks for. -/
def splitVariant (name : List Char) : List Char × List Char :=
  match variants.find? fun variant => variant.1.toList.isSuffixOf name with
  | some (ending, form) => (name.take (name.length - ending.length), [form])
  | none => (name, [])

/-- What a name between colons is shown as. -/
def shownCode (name : List Char) : List Char :=
  let (base, form) := splitVariant name
  match ofName? (Text.lower (String.ofList base)) with
  | some emoji => emoji.toList ++ form
  | none => ':' :: name ++ [':']

/-- Whether a character can stand in a name. -/
def isNameChar (c : Char) : Bool := c ≠ ':' && !Text.isBlank c

/-- Replaces the codes of a text by their emoji. -/
def replaceCodes (cs : List Char) : List Char :=
  match cs with
  | [] => []
  | c :: rest =>
    if c = ':' then
      match _h : rest.dropWhile isNameChar with
      | ':' :: after => shownCode (rest.takeWhile isNameChar) ++ replaceCodes after
      | _ => c :: replaceCodes rest
    else c :: replaceCodes rest
termination_by cs.length
decreasing_by
  · have hsub := (List.dropWhile_sublist isNameChar (l := rest)).length_le
    rw [_h] at hsub
    simp only [List.length_cons] at hsub ⊢
    omega
  · simp
  · simp

end ScopeAlgebra.Emoji
