import Handheld.Guest.Export
import Handheld.Guest.Linked

/-!
# Cores as Text

A compiled core may also be given in its text format, which is made of nested lists in
parentheses.  This module reads the texts of modules that do nothing: their items are
memories and functions without a body, each exported under a name.

- `Text.Token.ofChars?` cuts a text into parentheses, words and quoted strings;
- `Text.Tree.ofTokens?` builds the nested lists;
- `Image.ofText?` reads a module.
-/

namespace Handheld

namespace Text

/-! ## §1 Tokens -/

inductive Token
  | opening
  | closing
  | word (text : String)
  | quoted (text : String)
deriving DecidableEq, Repr

namespace Token

/-- The word made of the given characters, the last one first, in front of other tokens. -/
def endWord (reversed : List Char) (tokens : List Token) : List Token :=
  if reversed.isEmpty then tokens else .word (String.ofList reversed.reverse) :: tokens

/-- Cuts a text into tokens.  `quoted?` tells that the text starts inside a quoted string,
and `reversed` holds the characters read so far of the current word or string. -/
def scan? : (quoted? : Bool) → (reversed : List Char) → List Char → Option (List Token)
  | false, reversed, [] => some (endWord reversed [])
  | true, _, [] => none
  | true, reversed, '"' :: rest =>
    (scan? false [] rest).map (.quoted (String.ofList reversed.reverse) :: ·)
  | true, reversed, c :: rest => scan? true (c :: reversed) rest
  | false, reversed, '(' :: rest =>
    (scan? false [] rest).map fun tokens => endWord reversed (.opening :: tokens)
  | false, reversed, ')' :: rest =>
    (scan? false [] rest).map fun tokens => endWord reversed (.closing :: tokens)
  | false, reversed, '"' :: rest => (scan? true [] rest).map (endWord reversed)
  | false, reversed, c :: rest =>
    if c.isWhitespace then (scan? false [] rest).map (endWord reversed)
    else scan? false (c :: reversed) rest

/-- The tokens of a text, unless a string is left open. -/
def ofChars? (chars : List Char) : Option (List Token) := scan? false [] chars

end Token

/-! ## §2 Trees -/

inductive Tree
  | word (text : String)
  | quoted (text : String)
  | list (items : List Tree)

namespace Tree

/-- Builds a tree from tokens.  `done` holds the items read so far of the innermost list, the
last one first, and `outer` those of the lists around it. -/
def build? : (done : List Tree) → (outer : List (List Tree)) → List Token → Option (List Tree)
  | done, [], [] => some done.reverse
  | _, _ :: _, [] => none
  | done, outer, .opening :: rest => build? [] (done :: outer) rest
  | _, [], .closing :: _ => none
  | done, around :: outer, .closing :: rest => build? (.list done.reverse :: around) outer rest
  | done, outer, .word text :: rest => build? (.word text :: done) outer rest
  | done, outer, .quoted text :: rest => build? (.quoted text :: done) outer rest

/-- The trees written one behind the other in a list of tokens. -/
def ofTokens? (tokens : List Token) : Option (List Tree) := build? [] [] tokens

end Tree

end Text

/-! ## §3 Modules -/

namespace Image

/-- The export of an item: a memory, or a function that takes and gives nothing. -/
def exportOfTree? : Text.Tree → Option (String × Export Unit)
  | .list [.word "memory", .list [.word "export", .quoted name], .word _] =>
    some (name, .memory)
  | .list [.word "func", .list [.word "export", .quoted name]] =>
    some (name, .function .initializer fun _ machine => (.ok 0, machine))
  | _ => none

/-- The core written in a text, if the text is that of a module that does nothing. -/
def ofText? (text : String) : Option (Image Unit) := do
  match ← Text.Tree.ofTokens? (← Text.Token.ofChars? text.toList) with
  | [.list (.word "module" :: items)] =>
    return { exports := ← items.mapM exportOfTree?, machine := ⟨#[], ()⟩ }
  | _ => none

end Image

end Handheld
