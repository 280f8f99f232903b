import ComponentSchema.Graph.Node
import ComponentSchema.Json.Decode

/-!
The type manifest: a snapshot of what the host reflects, as JSON.  Members that equal their default
are left out of a node, and reading restores them, so what was written is read back.
-/

namespace ComponentSchema

open Json in
/-- A field as JSON; a plain field does not say that it is not repeated. -/
def Field.toJson (field : Field) : Json :=
  ofMembers ([("path", ofString field.path), ("name", ofString field.name),
    ("ty", ofString field.type)] ++ if field.repeated then [("repeated", .bool true)] else [])

open Json in
/-- The flags of a class as JSON, always in full. -/
def ClassFlags.toJson (flags : ClassFlags) : Json :=
  ofMembers [("editor_only", .bool flags.editorOnly), ("spatial_type", .bool flags.spatialType),
    ("layout_changing", .bool flags.layoutChanging)]

open Json in
/-- The kind of a node as JSON, told apart by its `type` member. -/
def NodeKind.toJson : NodeKind → Json
  | .classType kind flags cullDistance =>
    ofMembers ([("type", ofString "class"), ("class", ofString kind.key),
      ("flags", flags.toJson)] ++
        match cullDistance with
        | some squared => [("cull_distance_squared", ofNat squared.toNat)]
        | none => [])
  | .fieldGroup category fields =>
    ofMembers [("type", ofString "field_group"), ("category", ofString category.key),
      ("fields", .array (fields.map Field.toJson))]
  | .subobject => ofMembers [("type", ofString "subobject")]

mutual

/-- A node as JSON; a node without children does not list them. -/
def Node.toJson : Node → Json
  | ⟨path, name, kind, children⟩ =>
    Json.ofMembers ([("path", Json.ofString path), ("name", Json.ofString name),
      ("kind", kind.toJson)] ++
        match children with
        | [] => []
        | child :: rest => [("children", .array (child.toJson :: Node.listToJson rest))])

def Node.listToJson : List Node → List Json
  | [] => []
  | node :: rest => node.toJson :: Node.listToJson rest

end

open Json in
def Level.toJson (level : Level) : Json :=
  ofMembers [("name", ofString level.name), ("path", ofString level.path)]

open Json in
def Field.ofJson? (value : Json) : Option Field := do
  match ← fields? ["path", "name", "ty", "repeated"] value with
  | [path, name, type, repeated] =>
    pure { path := ← required asString? path, name := ← required asString? name,
           type := ← required asString? type, repeated := ← defaulted false asBool? repeated }
  | _ => none

open Json in
/-- Reads the flags of a class; each has a default. -/
def ClassFlags.ofJson? (value : Json) : Option ClassFlags := do
  let plain : ClassFlags := {}
  match ← fields? ["editor_only", "spatial_type", "layout_changing"] value with
  | [editorOnly, spatialType, layoutChanging] =>
    pure { editorOnly := ← defaulted plain.editorOnly asBool? editorOnly,
           spatialType := ← defaulted plain.spatialType asBool? spatialType,
           layoutChanging := ← defaulted plain.layoutChanging asBool? layoutChanging }
  | _ => none

open Json in
/-- The tag of a tagged value, and the value without it.  In an array the tag comes first. -/
def Json.tagged? (tag : String) : Json → Option (String × Json)
  | .array (first :: rest) => (asString? first).map fun name => (name, .array rest)
  | .object members => do
    let named ← asMembers? (.object members)
    let name ← required asString? (← member? named tag)
    pure (name, .object (members.filter fun member => decodeContent? member.1 != some tag))
  | _ => none

open Json in
def NodeKind.classOfJson? (body : Json) : Option NodeKind := do
  match ← fields? ["class", "flags", "cull_distance_squared"] body with
  | [kind, flags, cullDistance] =>
    pure (.classType (← (← required (variant? true) kind) |> ClassKind.ofKey?)
      (← defaulted {} ClassFlags.ofJson? flags)
      (← defaulted none (asOptional? asUInt64?) cullDistance))
  | _ => none

open Json in
def NodeKind.groupOfJson? (body : Json) : Option NodeKind := do
  match ← fields? ["category", "fields"] body with
  | [category, fields] =>
    pure (.fieldGroup (← (← required (variant? true) category) |> Category.ofKey?)
      (← required (asList? Field.ofJson?) fields))
  | _ => none

open Json in
/-- Reads the kind of a node.  Its members are all read in full before the tag is looked at. -/
def NodeKind.ofJson? (levels : Nat) (value : Json) : Option NodeKind := do
  guard (value.isReadable levels)
  let (tag, body) ← tagged? "type" value
  if tag = "class" then classOfJson? body
  else if tag = "field_group" then groupOfJson? body
  else if tag = "subobject" then
    match body with
    | .array (_ :: _) => none
    | _ => some .subobject
  else none

open Json in
/-- Reads a node with everything beneath it; each generation takes up two levels. -/
def Node.ofJson? : Nat → Json → Option Node
  | 0, _ => none
  | 1, _ => none
  | levels + 2, value => do
    match ← fields? ["path", "name", "kind", "children"] value with
    | [path, name, kind, children] =>
      pure { path := ← required asString? path, name := ← required asString? name,
             kind := ← required (NodeKind.ofJson? (levels + 1)) kind,
             children := ← defaulted [] (asList? (Node.ofJson? levels)) children }
    | _ => none

def Node.ofText? (text : String) : Option Node :=
  (Json.parse? text).bind (Node.ofJson? Json.maxDepth)

open Json in
def Level.ofJson? (value : Json) : Option Level := do
  match ← fields? ["name", "path"] value with
  | [name, path] =>
    pure { name := ← required asString? name, path := ← required asString? path }
  | _ => none

/-- What a host reflects: the classes that are loaded, a catalog of classes that are not but can be
looked up, the streaming levels, and the paths seen while cooking. -/
structure Manifest where
  classes : List Node := []
  catalog : List Node := []
  levels : List Level := []
  cooked : List String := []
deriving Inhabited

namespace Manifest

open Json in
/-- A manifest as JSON, always in full. -/
def toJson (manifest : Manifest) : Json :=
  ofMembers [("classes", .array (Node.listToJson manifest.classes)),
    ("catalog", .array (Node.listToJson manifest.catalog)),
    ("levels", .array (manifest.levels.map Level.toJson)),
    ("cooked", .array (manifest.cooked.map ofString))]

open Json in
/-- Reads a manifest; each of its lists may be missing. -/
def ofJson? (value : Json) : Option Manifest := do
  let nodes := asList? (Node.ofJson? (maxDepth - 2))
  match ← fields? ["classes", "catalog", "levels", "cooked"] value with
  | [classes, catalog, levels, cooked] =>
    pure { classes := ← defaulted [] nodes classes, catalog := ← defaulted [] nodes catalog,
           levels := ← defaulted [] (asList? Level.ofJson?) levels,
           cooked := ← defaulted [] (asList? asString?) cooked }
  | _ => none

def ofText? (text : String) : Option Manifest := (Json.parse? text).bind ofJson?

/-- Where the first node with each path stands, counted through the loaded classes and on through the
catalog. -/
def places (manifest : Manifest) : SortedMap String Nat :=
  (manifest.classes ++ manifest.catalog).zipIdx.foldl
    (fun places entry => places.insertIfNew entry.1.path entry.2) ∅

def nodeAt? (manifest : Manifest) (places : SortedMap String Nat) (path : String) : Option Node := do
  let place ← places.find? path
  (manifest.classes ++ manifest.catalog)[place]?

/-- Looks a path up.  Loaded classes come before the catalog, and of equals the first counts. -/
def resolve? (manifest : Manifest) : String → Option Node := manifest.nodeAt? manifest.places

end Manifest

end ComponentSchema
