/-!
The permissions of files and directories as numbers: three bits each, to read, to write and to
execute, for the owner, the group and all others, and above them three bits of other uses.
-/

namespace ComponentSchema

/-- What may be done with a file or directory. -/
abbrev Mode := Nat

namespace Mode

def all : Mode := 0o7777

/-- Files that everybody may read and their owner may change. -/
def plain : Mode := 0o644

/-- Files that moreover everybody may execute, and directories. -/
def program : Mode := 0o755

/-- Files that nobody may change. -/
def readOnly : Mode := 0o444

/-- Whether anybody may change it. -/
def isWritable (mode : Mode) : Bool := mode &&& 0o222 != 0

def isExecutable (mode : Mode) : Bool := mode &&& 0o111 != 0

def without (mode others : Mode) : Mode := mode - (mode &&& others)

end Mode

end ComponentSchema
