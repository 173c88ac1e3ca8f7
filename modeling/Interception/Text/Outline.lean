/-
Outlines: the shape of a description, before a layout is chosen. A description is
a word, a named record, a name around one part, a list, or a table of entries. The
compact layout stays on one line. The indented layout gives every part its own
line, four spaces deeper, each followed by a comma; empty lists and tables stay
closed on one line in both.
-/

import Interception.Text.Quoted

namespace Interception.Text

inductive Outline where
  | word (text : String)
  | record (name : String) (fields : List (String × Outline))
  | around (name : String) (body : Outline)
  | list (items : List Outline)
  /-- Entries whose keys are short texts, already written out. -/
  | table (entries : List (String × Outline))
  | labelled (label : String) (body : Outline)

namespace Outline

def quotedWord (text : String) : Outline :=
  .word (quoted text)

def quotedList (texts : List String) : Outline :=
  .list (texts.map quotedWord)

def optional : Option Outline → Outline
  | none => .word "None"
  | some body => .around "Some" body

mutual
def compact : Outline → String
  | .word text => text
  | .record name fields => name ++ " \x7b " ++ ", ".intercalate (compactFields fields) ++ " \x7d"
  | .around name body => name ++ "(" ++ compact body ++ ")"
  | .list items => "[" ++ ", ".intercalate (compactItems items) ++ "]"
  | .table entries => "\x7b" ++ ", ".intercalate (compactFields entries) ++ "\x7d"
  | .labelled label body => label ++ " " ++ compact body

def compactItems : List Outline → List String
  | [] => []
  | item :: rest => compact item :: compactItems rest

def compactFields : List (String × Outline) → List String
  | [] => []
  | (label, body) :: rest => (label ++ ": " ++ compact body) :: compactFields rest
end

def margin (depth : Nat) : String :=
  String.ofList (List.replicate (4 * depth) ' ')

/-- Parts on lines of their own between two brackets; nothing at all keeps the
brackets together. -/
def block (depth : Nat) (opening closing : String) (parts : List String) : String :=
  if parts.isEmpty then opening ++ closing
  else
    opening ++ "\n" ++ String.join (parts.map (fun part => margin (depth + 1) ++ part ++ ",\n")) ++
      margin depth ++ closing

mutual
/-- One part to a line. The first line continues the line it starts on; `depth`
counts the levels of the lines that follow. -/
def indented (depth : Nat) : Outline → String
  | .word text => text
  | .record name fields => block depth (name ++ " \x7b") "\x7d" (indentedFields (depth + 1) fields)
  | .around name body => block depth (name ++ "(") ")" [indented (depth + 1) body]
  | .list items => block depth "[" "]" (indentedItems (depth + 1) items)
  | .table entries => block depth "\x7b" "\x7d" (indentedFields (depth + 1) entries)
  | .labelled label body => label ++ " " ++ indented depth body

def indentedItems (depth : Nat) : List Outline → List String
  | [] => []
  | item :: rest => indented depth item :: indentedItems depth rest

def indentedFields (depth : Nat) : List (String × Outline) → List String
  | [] => []
  | (label, body) :: rest => (label ++ ": " ++ indented depth body) :: indentedFields depth rest
end

inductive Layout where
  | oneLine
  | indented
  deriving DecidableEq, Repr

def render (layout : Layout) (outline : Outline) : String :=
  match layout with
  | .oneLine => outline.compact
  | .indented => outline.indented 0

end Outline

end Interception.Text
