import ComponentSchema.Script.Reader

/-!
Reading commands.  A script is read one line of commands at a time, because what a line does may
change how the next one is read, and because a fault further down only counts once it is reached.
-/

namespace ComponentSchema.Script

/-- What stands around a piece of a word. -/
structure Surroundings where
  /-- Whether the rules of double quotes hold. -/
  quoted : Bool := false
  inBraces : Bool := false
  inDocument : Bool := false
  /-- Whether nothing is filled in, as in the word that ends a text in the script. -/
  verbatim : Bool := false
  /-- How many parentheses are open in an expression. -/
  depth : Nat := 0

namespace Reading

/-- Characters that end a word unless they are quoted. -/
def endsWord (char : Char) : Bool :=
  [' ', '\t', '\n', ';', '&', '|', '<', '>', '(', ')'].contains char

/-- Characters that name a parameter on their own. -/
def isSpecial (char : Char) : Bool :=
  char.isDigit || ['#', '?', '$', '!', '-', '*', '@'].contains char

/-- Pieces that were read, the latest first. -/
abbrev Backwards := List Piece

def finished (reversed : Backwards) : Word := (Word.merged reversed.reverse).withoutMark

/-- A quotation mark with nothing behind it yet. -/
def quoteMark : Piece := .text [] true

/-- What a character behind a backslash stands for. -/
def escapedText (place : Surroundings) (char : Char) : Text :=
  let hides := !place.quoted || ['\\', '\x60', '$'].contains char ||
    (char == '"' && !(place.inDocument && !place.inBraces)) || (char == '\x7d' && place.inBraces)
  if hides then [char] else ['\\', char]

/-- What follows a backslash. -/
def escaped (place : Surroundings) : Reading Piece := do
  match ← takeRaw with
  | none => pure (.text ['\\'] true)
  | some char => pure (.text (escapedText place char) true)

def nameFrom : Nat → Text → Reading Text
  | 0, reversed => pure reversed.reverse
  | count + 1, reversed => do
    match ← peek with
    | some char =>
      if Text.isNameChar char then
        drop
        nameFrom count (char :: reversed)
      else pure reversed.reverse
    | none => pure reversed.reverse

def digitsFrom : Nat → Text → Reading Text
  | 0, reversed => pure reversed.reverse
  | count + 1, reversed => do
    match ← peek with
    | some char =>
      if char.isDigit then
        drop
        digitsFrom count (char :: reversed)
      else pure reversed.reverse
    | none => pure reversed.reverse

/-- More steps than there are characters left. -/
def supply : Reading Nat := do pure ((← get).rest.length + 1)

/-- The use of a parameter that a mark in front of a word tells. -/
def useOf? (mark : Char) (emptyToo : Bool) : Option (Word → Use) :=
  if mark = '-' then some (.default emptyToo)
  else if mark = '=' then some (.assign emptyToo)
  else if mark = '?' then some (.require emptyToo)
  else if mark = '+' then some (.instead emptyToo)
  else none

/-- How the use of a parameter in braces goes on. -/
inductive Opening where
  /-- It is complete. -/
  | complete (use : Use)
  /-- The closing brace is still to come, and nothing else may. -/
  | closing (use : Use)
  /-- A word follows, read as a pattern or not. -/
  | word (isPattern : Bool) (use : Word → Use)

/-- Reads what follows the name of a parameter in braces. -/
def opening : Reading Opening := do
  let emptyToo ← dropIf ':'
  match ← peek with
  | none => pure (.word false fun _ => .unknown)
  | some mark =>
    if mark = '\x7d' then
      drop
      pure (.complete .value)
    else
      match useOf? mark emptyToo with
      | some use =>
        drop
        pure (.word false use)
      | none =>
        if !emptyToo && (mark == '#' || mark == '%') then
          drop
          let longest ← dropIf mark
          pure (.word true (if mark = '#' then .trimFront longest else .trimBack longest))
        else
          let _ ← takeQuietly
          pure (.word false fun _ => .unknown)
where
  /-- Takes a character without counting a line end. -/
  takeQuietly : Reading Unit := modify fun reader => { reader with rest := reader.rest.tail }

/-- The name of a parameter in braces, and how its use goes on. -/
def parameterIn : Reading (Text × Opening) := do
  match ← peek with
  | none => pure ([], .word false fun _ => .unknown)
  | some first =>
    if Text.isNameChar first && !first.isDigit then
      let name ← nameFrom (← supply) []
      pure (name, ← opening)
    else if first.isDigit then
      let name ← digitsFrom (← supply) []
      pure (name, ← opening)
    else if first = '\x7d' then pure ([], .word false fun _ => .unknown)
    else
      drop
      if first = '#' then
        match ← peek with
        | some second =>
          if Text.isNameChar second then
            let name ←
              if second.isDigit then do digitsFrom (← supply) [] else do nameFrom (← supply) []
            pure (name, .closing .length)
          else if second = '\x7d' then pure (['#'], ← opening)
          else
            let reader ← get
            drop
            if (← peek) = some '\x7d' then
              pure ([second],
                if isSpecial second then .closing .length else .word false fun _ => .unknown)
            else
              set reader
              pure (['#'], ← opening)
        | none => pure (['#'], ← opening)
      else if isSpecial first then pure ([first], ← opening)
      else pure ([first], .word false fun _ => .unknown)

/-- The redirection that an angle bracket begins. -/
def arrowFrom (given : Option Nat) (bracket : Char) : Reading Arrow := do
  drop
  if bracket = '>' then
    let stream := given.getD 1
    if ← dropIf '>' then pure (.file stream .append)
    else if ← dropIf '|' then pure (.file stream .overwrite)
    else if ← dropIf '&' then pure (.join stream)
    else pure (.file stream .write)
  else
    let stream := given.getD 0
    if ← dropIf '<' then pure (.document stream (← dropIf '-'))
    else if ← dropIf '&' then pure (.join stream)
    else if ← dropIf '>' then pure (.file stream .update)
    else pure (.file stream .read)

/-- The token of a mark, if one begins here. -/
def mark? : Reading (Option Token) := do
  match ← peek with
  | none => pure (some .inputEnd)
  | some char =>
    if char = '\n' then
      drop
      pure (some .lineEnd)
    else if char = '&' then
      drop
      pure (some (if ← dropIf '&' then .bothMark else .ampersand))
    else if char = '|' then
      drop
      pure (some (if ← dropIf '|' then .eitherMark else .pipeMark))
    else if char = ';' then
      drop
      pure (some (if ← dropIf ';' then .caseEnd else .semicolon))
    else if char = '(' then
      drop
      pure (some .openMark)
    else if char = ')' then
      drop
      pure (some .closeMark)
    else pure none

/-- What may be made of the next token. -/
structure Wish where
  /-- Whether line ends are passed over. -/
  lines : Bool := false
  keywords : Bool := false
  aliases : Bool := false

/-- Where a command may begin, and lines may end in front of it. -/
def Wish.fresh : Wish := ⟨true, true, true⟩

def Wish.command : Wish := ⟨false, true, true⟩

/-- The text of an alias that a token calls for and that is not being read already. -/
def aliasText? (token : Token) : Reading (Option Text) := fun reader =>
  match token with
  | .word pieces false =>
    let found := do
      let name ← pieces.plain?
      let text ← reader.aliases.lookup name
      let left := reader.rest.length
      let expanding := reader.expanding.filter fun entry => entry.2 < left
      if (expanding.lookup name).isSome then none else some (name, text, left, expanding)
    match found with
    | some (name, text, left, expanding) =>
      .ok (some text,
        { reader with rest := text ++ reader.rest, expanding := (name, left) :: expanding })
    | none => .ok (none, reader)
  | _ => .ok (none, reader)

/-- The commands that may stand in a list: a line of them, some, or perhaps none. -/
inductive Extent where
  | line
  | some
  | any
deriving DecidableEq

def after (first : Option Command) (second : Command) : Option Command :=
  match first with
  | none => some second
  | some first => some (.sequence first second)

/-- The words, assignments and redirections of a command. -/
structure Parts where
  line : Nat
  assignments : List (Text × Word) := []
  words : List Word := []
  redirections : List Redirection := []

def Parts.command (parts : Parts) : Command :=
  .simple parts.line parts.assignments parts.words parts.redirections

/-- The names of the commands that no function may have. -/
def reservedNames : List String :=
  [".", ":", "break", "continue", "eval", "exec", "exit", "export", "local", "readonly", "return",
    "set", "shift", "times", "trap", "unset"]

mutual

/-- The pieces of a word up to what ends it, and whether some are quoted. -/
def wordFrom (place : Surroundings) (reversed : Backwards) (marked : Bool) :
    Nat → Reading (Backwards × Bool)
  | 0 => pure (reversed, marked)
  | fuel + 1 => do
    match ← peek with
    | none => pure (reversed, marked)
    | some char =>
      if endsWord char then pure (reversed, marked)
      else if char = '\'' then
        drop
        let content ← literal
        wordFrom place (.text content true :: reversed) true fuel
      else if char = '"' then
        drop
        let inner ← quotedFrom { place with quoted := true } (quoteMark :: reversed) fuel
        wordFrom place inner true fuel
      else if char = '\\' then
        drop
        wordFrom place ((← escaped place) :: reversed) true fuel
      else if char = '$' || char = '\x60' then
        let piece ← filledFrom place fuel
        wordFrom place (piece :: reversed) (marked || (place.verbatim && char == '\x60')) fuel
      else
        drop
        wordFrom place (.text [char] false :: reversed) marked fuel

/-- The pieces up to a double quote, which is dropped. -/
def quotedFrom (place : Surroundings) (reversed : Backwards) : Nat → Reading Backwards
  | 0 => pure reversed
  | fuel + 1 => do
    match ← peek with
    | none => fail .unterminatedQuote
    | some char =>
      if char = '"' then
        drop
        pure reversed
      else if char = '\\' then
        drop
        quotedFrom place ((← escaped place) :: reversed) fuel
      else if char = '$' || char = '\x60' then
        quotedFrom place ((← filledFrom place fuel) :: reversed) fuel
      else
        drop
        quotedFrom place (.text [char] true :: reversed) fuel

/-- The pieces up to a closing brace, which is dropped; where the rules of double quotes hold, one
between inner quotes does not close. -/
def bracedFrom (place : Surroundings) (inner : Bool) (reversed : Backwards) :
    Nat → Reading Backwards
  | 0 => pure reversed
  | fuel + 1 => do
    match ← peek with
    | none => fail (if place.quoted then .unterminatedQuote else .missingBrace)
    | some char =>
      if char = '\x7d' && !inner then
        drop
        pure reversed
      else if char = '\'' && !place.quoted then
        drop
        let content ← literal
        bracedFrom place inner (.text content true :: reversed) fuel
      else if char = '"' then
        drop
        if place.quoted then bracedFrom place (!inner) (quoteMark :: reversed) fuel
        else
          let content ← quotedFrom { place with quoted := true } (quoteMark :: reversed) fuel
          bracedFrom place inner content fuel
      else if char = '\\' then
        drop
        bracedFrom place inner ((← escaped place) :: reversed) fuel
      else if char = '$' || char = '\x60' then
        bracedFrom place inner ((← filledFrom place fuel) :: reversed) fuel
      else
        drop
        bracedFrom place inner (.text [char] place.quoted :: reversed) fuel

/-- The pieces of an expression up to the two parentheses that close it, which are dropped. -/
def expressionFrom (place : Surroundings) (reversed : Backwards) : Nat → Reading Backwards
  | 0 => pure reversed
  | fuel + 1 => do
    match ← peek with
    | none => fail .missingParentheses
    | some char =>
      if char = '\\' then
        drop
        expressionFrom place ((← escaped place) :: reversed) fuel
      else if char = '$' || char = '\x60' then
        expressionFrom place ((← filledFrom place fuel) :: reversed) fuel
      else
        drop
        let longer := Piece.text [char] true :: reversed
        if char = '(' then expressionFrom { place with depth := place.depth + 1 } longer fuel
        else if char = ')' then
          if 0 < place.depth then
            expressionFrom { place with depth := place.depth - 1 } longer fuel
          else if ← dropIf ')' then pure reversed
          else expressionFrom place longer fuel
        else expressionFrom place longer fuel

/-- The pieces of a text in the script, up to its end. -/
def documentPieces (reversed : Backwards) : Nat → Reading Backwards
  | 0 => pure reversed
  | fuel + 1 => do
    let place : Surroundings := { quoted := true, inDocument := true }
    match ← peek with
    | none => pure reversed
    | some char =>
      if char = '\\' then
        drop
        documentPieces ((← escaped place) :: reversed) fuel
      else if char = '$' || char = '\x60' then
        documentPieces ((← filledFrom place fuel) :: reversed) fuel
      else
        drop
        documentPieces (.text [char] true :: reversed) fuel

/-- What a dollar sign or a backquote stands for. -/
def filledFrom (place : Surroundings) : Nat → Reading Piece
  | 0 => pure (.text [] false)
  | fuel + 1 => do
    let sign := (← takeRaw).getD '$'
    if place.verbatim then pure (.text [sign] place.quoted)
    else if sign = '\x60' then
      let content ← backquoted place.quoted
      let outer ← get
      set { outer with rest := content, line := 1, awaited := [], isBack := false }
      let command ← commands .any none fuel
      let inner ← get
      set { outer with documents := inner.documents }
      pure (.printed command place.quoted)
    else
      match ← peek with
      | none => pure (.text ['$'] place.quoted)
      | some char =>
        if char = '(' then
          drop
          if ← dropIf '(' then
            let inner : Surroundings :=
              { place with quoted := true, inBraces := false, depth := 0 }
            let reversed ← expressionFrom inner [] fuel
            pure (.expression (finished reversed) place.quoted)
          else
            let outer ← get
            set { outer with awaited := [], isBack := false }
            let command ← commands .any none fuel
            match ← token {} fuel with
            | .closeMark => pure ()
            | _ => expecting .closeMark
            modify fun reader =>
              { reader with awaited := outer.awaited, last := outer.last, isBack := false }
            pure (.printed command place.quoted)
        else if char = '\x7b' then
          drop
          let (name, opening) ← parameterIn
          let inner := { place with inBraces := true }
          match opening with
          | .complete use => pure (.parameter name use place.quoted)
          | .closing use =>
            if ← dropIf '\x7d' then pure (.parameter name use place.quoted)
            else
              let _ ← bracedFrom inner false [] fuel
              pure (.parameter name .unknown place.quoted)
          | .word isPattern use =>
            let inner := if isPattern then { inner with quoted := false } else inner
            let reversed ← bracedFrom inner false [] fuel
            pure (.parameter name (use (finished reversed)) place.quoted)
        else if Text.isNameChar char && !char.isDigit then
          pure (.parameter (← nameFrom (← supply) []) .value place.quoted)
        else if isSpecial char then
          drop
          pure (.parameter [char] .value place.quoted)
        else pure (.text ['$'] place.quoted)

/-- The next token as it stands, or the last one if it was put back. -/
def rawToken (place : Surroundings) : Nat → Reading Token
  | 0 => settle .inputEnd
  | fuel + 1 => do
    let reader ← get
    if reader.isBack then settle reader.last
    else
      skipBlanks
      match ← mark? with
      | some token => settle token
      | none => do
        let (reversed, marked) ← wordFrom place [] false fuel
        let word := finished reversed
        let given? : Option (Option Nat) :=
          match word with
          | [] => some none
          | [.text [digit] false] =>
            if digit.isDigit then some (some (digit.toNat - '0'.toNat)) else none
          | _ => none
        match given?, ← peek with
        | some given, some bracket =>
          if bracket = '<' || bracket = '>' then
            settle (.redirection (← arrowFrom given bracket))
          else settle (.word word marked)
        | _, _ => settle (.word word marked)

def token (wish : Wish) : Nat → Reading Token
  | 0 => settle .inputEnd
  | fuel + 1 => do
    let next ← rawToken {} fuel
    match next with
    | .lineEnd =>
      if wish.lines then
        documents fuel
        token wish fuel
      else pure next
    | .word _ false =>
      match if wish.keywords then next.withKeyword else next with
      | .reserved keyword => settle (.reserved keyword)
      | plain =>
        if wish.aliases then
          match ← aliasText? plain with
          | some _ => token wish fuel
          | none => pure next
        else pure next
    | _ => pure next

/-- Reads the texts that are awaited. -/
def documents : Nat → Reading Unit
  | 0 => pure ()
  | fuel + 1 => do
    let reader ← get
    match reader.awaited with
    | [] => pure ()
    | awaited :: others => do
      let (content, rest) := documentFrom awaited (reader.rest.length + 1) reader.rest
      let line := reader.line + reader.rest.count '\n' - rest.count '\n'
      let word ←
        if awaited.quoted then pure [Piece.text content true]
        else do
          set { reader with rest := content, awaited := [], isBack := false }
          pure (finished (← documentPieces [] fuel))
      modify fun inner =>
        { reader with
          rest, line
          awaited := others
          documents := inner.documents.setIfInBounds awaited.index word }
      documents fuel

/-- Commands one after the other, behind those that were read already. -/
def commands (extent : Extent) (before : Option Command) : Nat → Reading (Option Command)
  | 0 => pure before
  | fuel + 1 => do
    let wish := if extent = .line then Wish.command else Wish.fresh
    let next ← token wish fuel
    match next with
    | .lineEnd =>
      documents fuel
      pure before
    | .inputEnd =>
      documents fuel
      let _ ← settle .inputEnd
      putBack
      pure before
    | _ =>
      putBack
      if next.isEnd && (extent = .any || (extent = .some && before.isSome)) then pure before
      else
        let command ← chain wish fuel
        let behind ← token {} fuel
        let command := match behind with
          | .ampersand => Command.background command
          | _ => command
        match behind with
        | .inputEnd =>
          documents fuel
          let _ ← settle .inputEnd
          putBack
          pure (after before command)
        | .lineEnd =>
          putBack
          commands extent (after before command) fuel
        | .ampersand | .semicolon => commands extent (after before command) fuel
        | _ =>
          if extent = .line then unexpected
          else
            putBack
            pure (after before command)

/-- A command, and those that are reached if it succeeds or fails. -/
def chain (wish : Wish) : Nat → Reading Command
  | 0 => unexpected
  | fuel + 1 => do
    let first ← pipeline wish fuel
    chainFrom first fuel

/-- Goes on behind a command with those that are reached if it succeeds or fails. -/
def chainFrom (first : Command) : Nat → Reading Command
  | 0 => unexpected
  | fuel + 1 => do
    match ← token {} fuel with
    | .bothMark => do
      let second ← pipeline .fresh fuel
      chainFrom (.both first second) fuel
    | .eitherMark => do
      let second ← pipeline .fresh fuel
      chainFrom (.either first second) fuel
    | _ =>
      putBack
      pure first

def pipeline (wish : Wish) : Nat → Reading Command
  | 0 => unexpected
  | fuel + 1 => do
    let first ← token wish fuel
    let negated := first.isKeyword .notMark
    if !negated then putBack
    let command ← single (if negated then .command else wish) fuel
    let others ← pipes fuel
    let whole := if others.isEmpty then command else .pipe (command :: others)
    pure (if negated then .negate whole else whole)

/-- The commands behind pipe marks. -/
def pipes : Nat → Reading (List Command)
  | 0 => pure []
  | fuel + 1 => do
    match ← token {} fuel with
    | .pipeMark => do
      let next ← single .fresh fuel
      pure (next :: (← pipes fuel))
    | _ =>
      putBack
      pure []

/-- Commands of which there is at least one, except where the script ends, and then what has to
follow them is missing too. -/
def someCommands : Nat → Reading Command
  | 0 => unexpected
  | fuel + 1 => do
    let command ← commands .some none fuel
    pure (command.getD default)

def expectKeyword (keyword : Keyword) (wish : Wish) : Nat → Reading Unit
  | 0 => pure ()
  | fuel + 1 => do
    let next ← token wish fuel
    if !next.isKeyword keyword then expecting (.reserved keyword)

def single (wish : Wish) : Nat → Reading Command
  | 0 => unexpected
  | fuel + 1 => do
    let line := (← get).line
    let compound ←
      match ← token wish fuel with
      | .reserved .ifMark => do pure (some (← branches fuel))
      | .reserved .whileMark => do pure (some (← loop true fuel))
      | .reserved .untilMark => do pure (some (← loop false fuel))
      | .reserved .forMark => do pure (some (← each fuel))
      | .reserved .caseMark => do pure (some (← choice fuel))
      | .reserved .opened => do
        let command ← someCommands fuel
        expectKeyword .closed {} fuel
        pure (some command)
      | .openMark => do
        let command ← someCommands fuel
        match ← token {} fuel with
        | .closeMark => pure ()
        | _ => expecting .closeMark
        pure (some (.apart line command []))
      | .word _ _ | .redirection _ => pure none
      | _ => unexpected
    match compound with
    | some command => do pure (command.placed line (← redirections fuel))
    | none => do
      putBack
      simple { line := (← get).line } true fuel

def redirections : Nat → Reading (List Redirection)
  | 0 => pure []
  | fuel + 1 => do
    match ← token .command fuel with
    | .redirection arrow => do
      let first ← redirection arrow fuel
      pure (first :: (← redirections fuel))
    | _ =>
      putBack
      pure []

def redirection (arrow : Arrow) : Nat → Reading Redirection
  | 0 => unexpected
  | fuel + 1 => do
    match arrow with
    | .document stream dropTabs => do
      match ← rawToken { verbatim := true } fuel with
      | .word pieces quoted => do
        let reader ← get
        let index := reader.documents.size
        let next : Awaited := { index, mark := Word.written pieces, quoted, dropTabs }
        set { reader with
          documents := reader.documents.push []
          awaited := reader.awaited ++ [next] }
        pure (.document stream index)
      | _ => unexpected
    | .join stream => do
      match ← token {} fuel with
      | .word pieces _ => pure (.join stream pieces)
      | _ => unexpected
    | .file stream mode => do
      match ← token {} fuel with
      | .word pieces _ => pure (.file stream mode pieces)
      | _ => unexpected

/-- A choice behind its first word. -/
def branches : Nat → Reading Command
  | 0 => unexpected
  | fuel + 1 => do
    let command ← branchFrom fuel
    expectKeyword .fi {} fuel
    pure command

/-- A condition with what is done if it holds or fails. -/
def branchFrom : Nat → Reading Command
  | 0 => unexpected
  | fuel + 1 => do
    let condition ← someCommands fuel
    expectKeyword .thenMark {} fuel
    let body ← someCommands fuel
    match ← token {} fuel with
    | .reserved .elif => do pure (.branch condition body (some (← branchFrom fuel)))
    | .reserved .elseMark => do pure (.branch condition body (some (← someCommands fuel)))
    | _ =>
      putBack
      pure (.branch condition body none)

/-- A loop behind its first word. -/
def loop (wanted : Bool) : Nat → Reading Command
  | 0 => unexpected
  | fuel + 1 => do
    let condition ← someCommands fuel
    expectKeyword .doMark {} fuel
    let body ← someCommands fuel
    expectKeyword .done {} fuel
    pure (.loop wanted condition body)

/-- A loop over words behind its first word. -/
def each : Nat → Reading Command
  | 0 => unexpected
  | fuel + 1 => do
    let name ←
      match ← token {} fuel with
      | .word pieces false =>
        match pieces.plain? with
        | some name => if Text.isName name then pure name else fail .badLoopName
        | none => fail .badLoopName
      | _ => fail .badLoopName
    let next ← token .fresh fuel
    let words ←
      if next.isKeyword .inMark then do
        let words ← wordsUp [] fuel
        match (← get).last with
        | .lineEnd | .semicolon => pure (some words)
        | _ => unexpected
      else do
        match next with
        | .semicolon => pure ()
        | _ => putBack
        pure none
    expectKeyword .doMark .fresh fuel
    let body ← someCommands fuel
    expectKeyword .done {} fuel
    pure (.each 0 name words body)

/-- The words in front, behind those that were read already; the last token is what ended them. -/
def wordsUp (reversed : List Word) : Nat → Reading (List Word)
  | 0 => pure reversed.reverse
  | fuel + 1 => do
    match ← token {} fuel with
    | .word pieces _ => wordsUp (pieces :: reversed) fuel
    | _ => pure reversed.reverse

/-- A choice by patterns behind its first word. -/
def choice : Nat → Reading Command
  | 0 => unexpected
  | fuel + 1 => do
    let subject ←
      match ← token {} fuel with
      | .word pieces _ => pure pieces
      | _ => expecting (.word [] false)
    expectKeyword .inMark .fresh fuel
    let found ← arms [] fuel
    pure (.cases 0 subject found)

/-- The arms of a choice by patterns, behind those that were read already. -/
def arms (reversed : List (List Word × Option Command)) :
    Nat → Reading (List (List Word × Option Command))
  | 0 => pure reversed.reverse
  | fuel + 1 => do
    let first ← token ⟨true, true, false⟩ fuel
    if first.isKeyword .esac then pure reversed.reverse
    else
      let first ←
        match first with
        | .openMark => token {} fuel
        | _ => pure first
      let found ← patterns [] first fuel
      let body ← commands .any none fuel
      let next ← token ⟨true, true, false⟩ fuel
      let all := (found, body) :: reversed
      match next with
      | .caseEnd => arms all fuel
      | _ => if next.isKeyword .esac then pure all.reverse else expecting .caseEnd

/-- The patterns of an arm up to the closing parenthesis, from a given one on and behind those that
were read already. -/
def patterns (reversed : List Word) (first : Token) : Nat → Reading (List Word)
  | 0 => pure reversed.reverse
  | fuel + 1 => do
    let word := match first with
      | .word pieces _ => pieces
      | .reserved keyword => [.text keyword.name.toList false]
      | _ => []
    match ← token {} fuel with
    | .pipeMark => do
      let next ← token {} fuel
      patterns (word :: reversed) next fuel
    | .closeMark => pure (word :: reversed).reverse
    | _ => expecting .closeMark

/-- The parts of a simple command, behind those that were read already.  Assignments may only stand
in front of words. -/
def simple (parts : Parts) (inFront : Bool) : Nat → Reading Command
  | 0 => unexpected
  | fuel + 1 => do
    let wish : Wish := { aliases := inFront }
    match ← token wish fuel with
    | .word pieces _ =>
      match if inFront then pieces.assignment? else none with
      | some assignment =>
        simple { parts with assignments := parts.assignments ++ [assignment] } true fuel
      | none => simple { parts with words := parts.words ++ [pieces] } false fuel
    | .redirection arrow => do
      let found ← redirection arrow fuel
      simple { parts with redirections := parts.redirections ++ [found] } inFront fuel
    | .openMark =>
      match parts with
      | ⟨_, [], [name], []⟩ => do
        match ← token {} fuel with
        | .closeMark => pure ()
        | _ => expecting .closeMark
        let name := name.plain?.getD []
        if !Text.isName name || reservedNames.contains (String.ofList name) then
          fail .badFunctionName
        pure (.define name (← single .fresh fuel))
      | _ =>
        putBack
        pure parts.command
    | _ =>
      putBack
      pure parts.command

end

/-- The next line of commands, which may be empty: none at the end of the script. -/
def nextLine : Reading (Option (Option Command)) := do
  modify fun reader => { reader with isBack := false, awaited := [] }
  let steps := 16 * (← supply) + 64
  match ← commands .line none steps with
  | some command => pure (some (some command))
  | none => do
    let reader ← get
    match reader.last with
    | .inputEnd => pure none
    | _ => pure (some none)

end Reading

end ComponentSchema.Script
