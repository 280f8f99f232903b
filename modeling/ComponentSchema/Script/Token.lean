import ComponentSchema.Script.Command

/-!
The tokens of scripts, and what is reported where one of them does not fit.
-/

namespace ComponentSchema.Script

/-- Words that have a meaning of their own where a command may begin. -/
inductive Keyword where
  | notMark | caseMark | doMark | done | elif | elseMark | esac | fi | forMark | ifMark | inMark
  | thenMark | untilMark | whileMark | opened | closed
deriving DecidableEq, Repr

namespace Keyword

def all : List Keyword :=
  [.notMark, .caseMark, .doMark, .done, .elif, .elseMark, .esac, .fi, .forMark, .ifMark, .inMark,
    .thenMark, .untilMark, .whileMark, .opened, .closed]

def name : Keyword → String
  | .notMark => "!"
  | .caseMark => "case"
  | .doMark => "do"
  | .done => "done"
  | .elif => "elif"
  | .elseMark => "else"
  | .esac => "esac"
  | .fi => "fi"
  | .forMark => "for"
  | .ifMark => "if"
  | .inMark => "in"
  | .thenMark => "then"
  | .untilMark => "until"
  | .whileMark => "while"
  | .opened => "\x7b"
  | .closed => "\x7d"

def ofText? (text : Text) : Option Keyword :=
  all.find? fun keyword => keyword.name.toList == text

def isEnd (keyword : Keyword) : Bool :=
  [.doMark, .done, .elif, .elseMark, .esac, .fi, .thenMark, .closed].contains keyword

end Keyword

/-- A redirection without what it leads to. -/
inductive Arrow where
  | file (stream : Nat) (mode : OpenMode)
  | join (stream : Nat)
  /-- A text in the script; tabs in front of its lines may not count. -/
  | document (stream : Nat) (dropTabs : Bool)
deriving DecidableEq, Repr

/-- A token of a script. -/
inductive Token where
  | word (pieces : Word) (quoted : Bool)
  | reserved (keyword : Keyword)
  | redirection (arrow : Arrow)
  | lineEnd | inputEnd
  | semicolon | ampersand | bothMark | eitherMark | pipeMark | caseEnd
  | openMark | closeMark

instance : Inhabited Token := ⟨.inputEnd⟩

namespace Token

/-- What a token is called in reports. -/
def name : Token → String
  | .word _ _ => "word"
  | .reserved keyword => "\"" ++ keyword.name ++ "\""
  | .redirection _ => "redirection"
  | .lineEnd => "newline"
  | .inputEnd => "end of file"
  | .semicolon => "\";\""
  | .ampersand => "\"&\""
  | .bothMark => "\"&&\""
  | .eitherMark => "\"||\""
  | .pipeMark => "\"|\""
  | .caseEnd => "\";;\""
  | .openMark => "\"(\""
  | .closeMark => "\")\""

def isEnd : Token → Bool
  | .reserved keyword => keyword.isEnd
  | .inputEnd | .closeMark | .caseEnd => true
  | _ => false

/-- A word that is spelled like a keyword, as that. -/
def withKeyword (token : Token) : Token :=
  match token with
  | .word pieces false =>
    match pieces.plain?.bind Keyword.ofText? with
    | some keyword => .reserved keyword
    | none => token
  | _ => token

def isKeyword (token : Token) (keyword : Keyword) : Bool :=
  match token with
  | .reserved other => other == keyword
  | _ => false

end Token

/-- What can be wrong with a script. -/
inductive SyntaxFault where
  | unexpected (token : String)
  | expecting (token wanted : String)
  | unterminatedQuote | missingBrace | missingParentheses | openBackquote
  | badLoopName | badFunctionName | badStream
deriving DecidableEq, Repr

def SyntaxFault.message : SyntaxFault → String
  | .unexpected token => token ++ " unexpected"
  | .expecting token wanted => token ++ " unexpected (expecting " ++ wanted ++ ")"
  | .unterminatedQuote => "Unterminated quoted string"
  | .missingBrace => "Missing '\x7d'"
  | .missingParentheses => "Missing '))'"
  | .openBackquote => "EOF in backquote substitution"
  | .badLoopName => "Bad for loop variable"
  | .badFunctionName => "Bad function name"
  | .badStream => "Bad fd number"

end ComponentSchema.Script
