/-!
Text built line by line, each line indented by the blocks that are open around it.
-/

namespace ComponentSchema

/-- Lines written so far, and how many blocks are open. -/
structure SchemaText where
  lines : List String := []
  depth : Nat := 0
deriving DecidableEq, Repr, Inhabited

namespace SchemaText

/-- The first line of every generated file. -/
def banner : String := "// Note that this file has been generated automatically"

/-- Text without lines. -/
def empty : SchemaText := {}

/-- Writes a line at the current depth. -/
def line (text : SchemaText) (content : String) : SchemaText :=
  { text with
    lines := text.lines ++ [String.ofList (List.replicate text.depth '\t') ++ content] }

/-- Writes a line without anything on it. -/
def blank (text : SchemaText) : SchemaText := { text with lines := text.lines ++ [""] }

/-- Writes a header and opens its block. -/
def opened (text : SchemaText) (header : String) : SchemaText :=
  { text.line (header ++ " \x7b") with depth := text.depth + 1 }

/-- Closes the innermost block; outside of blocks only the brace is written. -/
def closed (text : SchemaText) : SchemaText :=
  ({ text with depth := text.depth - 1 } : SchemaText).line "\x7d"

/-- The banner and the line of a package. -/
def ofPackage (package : String) : SchemaText :=
  (empty.line banner).line s!"package {package};"

/-- The lines, each with its end. -/
def render (text : SchemaText) : String :=
  String.join (text.lines.map fun line => line ++ "\n")

end SchemaText

end ComponentSchema
