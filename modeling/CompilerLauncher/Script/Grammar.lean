import CompilerLauncher.Script.Draft

/-!
The grammar of shell scripts.

Words hold commands and commands hold words, so one group of functions reads both. Each of them goes
no deeper than its first argument says. A command may wait for the texts of documents, which stand
behind the line that it ends in: what is read is `Awaiting` them, and gets them when the line is
complete.

`Source.readCommand?` reads the commands of the next line, which go on over further lines where
something is still open.
-/

namespace CompilerLauncher

namespace Script

/-- What a lexeme may be where it is read: line ends are skipped, words can be reserved or aliases,
and a word can be the mark of a document. -/
structure Checks where
  lineEnds : Bool := false
  reserved : Bool := false
  aliases : Bool := false
  mark : Bool := false

namespace Checks

/-- The beginning of a command. -/
def command : Checks := { reserved := true, aliases := true }

/-- The beginning of a command that may stand on a later line. -/
def laterCommand : Checks := { lineEnds := true, reserved := true, aliases := true }

/-- The beginning of an arm of a choice. -/
def arm : Checks := { lineEnds := true, reserved := true }

/-- Further words of a command. -/
def words : Checks := {}

end Checks

/-- How far a list of commands goes: to the end of a line, or to a lexeme that ends it, with at
least one command or perhaps none. -/
inductive Extent
  | line
  | some
  | any
  deriving DecidableEq, Repr

/-- What a simple command consists of so far, each part newest first. -/
structure Simple where
  assignments : List (Bytes × Word) := []
  words : List Word := []
  redirections : List (Awaiting Redirection) := []

namespace Simple

/-- The command. -/
def command (simple : Simple) (line : Nat) : Awaiting Command := do
  let redirections ← simple.redirections.reverse.mapM id
  return .simple line simple.assignments.reverse simple.words.reverse redirections

end Simple

/-- The commands, newest first, as one. -/
def Command.inOrder (backward : List (Awaiting Command)) : Awaiting Command := do
  match ← backward.reverse.mapM id with
  | [] => return .nothing
  | [command] => return command
  | commands => return .sequence commands

namespace Reader

/-- The treatments that a byte behind a name stands for. -/
def treatment? (emptyCounts : Bool) (byte : UInt8) : Option Treatment :=
  match sign byte with
  | '\x7d' => some .value
  | '-' => some (.orDefault emptyCounts)
  | '+' => some (.ifSet emptyCounts)
  | '?' => some (.orFail emptyCounts)
  | '=' => some (.orAssign emptyCounts)
  | _ => none

/-- Takes the byte behind a parameter's name, and further bytes that belong to it, and says what
treatment they ask for. -/
def treatment (fuel : Nat) : Reader Treatment := do
  match ← following fuel with
  | none => return .unknown
  | some byte =>
    take
    if isSign ':' byte then
      match ← following fuel with
      | none => return .unknown
      | some later =>
        take
        let found := (treatment? true later).getD .unknown
        return if found = .value then .valueFirst else found
    else if isSign '%' byte then
      return .withoutEnd (← takes fuel '%')
    else if isSign '#' byte then
      return .withoutStart (← takes fuel '#')
    else return (treatment? false byte).getD .unknown

/-- Reads a name or a number, if one stands next. -/
def nameOrNumber (fuel : Nat) : Reader Bytes := do
  match ← following fuel with
  | none => return []
  | some byte =>
    if beginsName byte then takeAll continuesName fuel
    else if isDigit byte then takeAll isDigit fuel
    else return []

/-- Reads the parameter and the treatment that stand between braces, up to the operand. The length
of a parameter has no operand; it is unknown unless the brace follows at once. -/
def bracedHead (fuel : Nat) : Reader (Bytes × Treatment) := do
  let name ← nameOrNumber fuel
  if name ≠ [] then return (name, ← treatment fuel)
  else
    match ← following fuel with
    | none => return ([], .unknown)
    | some first =>
      if isSign '\x7d' first then return ([], .unknown)
      else
        take
        if isSign '#' first then lengthOrNumber
        else if isSpecialParameter first then return ([first], ← treatment fuel)
        else return ([first], .unknown)
where
  /-- Reads what stands behind a number sign: a parameter whose length is meant, or what is done
  with the number of arguments. -/
  lengthOrNumber : Reader (Bytes × Treatment) := do
    let name ← nameOrNumber fuel
    if name ≠ [] then return (name, ← lengthOf)
    else
      let before ← get
      match ← following fuel with
      | none => return ([numberSign], .unknown)
      | some single =>
        take
        if !isSign '\x7d' single && (← following fuel).any (isSign '\x7d') then
          if isSpecialParameter single then return ([single], .length) else return ([], .unknown)
        else
          set before
          return ([numberSign], ← treatment fuel)
  /-- The treatment by length, if the brace that ends it comes next. -/
  lengthOf : Reader Treatment := do
    return if (← following fuel).any (isSign '\x7d') then .length else .unknown
  /-- The name of the number of arguments. -/
  numberSign : UInt8 := 35

/-- Opens the braces of a parameter, unless nothing is done with its value and they are closed
already. -/
def openBraced (fuel : Nat) (draft : Draft) : Reader Draft := do
  let (name, treatment) ← bracedHead fuel
  if treatment = .value then return draft.add (.parameter name .value [] draft.quotes)
  else return draft.openBraces name treatment

/-- Takes the line end behind the mark of a document, if the mark stands next on a line of its own.
Before that the tabs at the start of the line may go. -/
def endsDocument (draft : Draft) : Reader Bool := do
  match draft.purpose with
  | .document mark dropsTabs =>
    if dropsTabs then discard (takeRun (isSign '\t'))
    match (← get).behind? mark with
    | none => return false
    | some source =>
      match source.next? with
      | none =>
        set source
        return true
      | some byte =>
        if byte = newline then
          set { source.advance with line := source.line + 1 }
          return true
        else return false
  | _ => return false

/-- Reads the command between backquotes as bytes, in which a backslash frees a backquote, a dollar
sign and a backslash, and between double quotes a double quote. -/
def backquoted (inDouble : Bool) : Nat → Bytes → Reader Bytes
  | 0, _ => tooDeep
  | fuel + 1, backward => do
    match ← following (fuel + 1) with
    | none => stop (.unfinished .backquote)
    | some byte =>
      if isSign '\x60' byte then
        take
        return backward.reverse
      else if isSign '\\' byte then
        take
        match (← get).next? with
        | none => stop (.unfinished .backquote)
        | some freed =>
          take
          if isOneOf "\\\x60$" freed || (inDouble && isSign '"' freed) then
            backquoted inDouble fuel (freed :: backward)
          else backquoted inDouble fuel (freed :: byte :: backward)
      else if byte = newline then
        take
        countLine
        backquoted inDouble fuel (byte :: backward)
      else
        let found ← takeRun fun byte => !isOneOf "\\\x60\n" byte
        backquoted inDouble fuel (found.reverse ++ backward)

/-- Reads what stands behind the first byte of the operator of a redirection, for the descriptor
that the word before it names. -/
def arrowBehind (fuel : Nat) (draft : Draft) (first : UInt8) : Reader Arrow := do
  let usual := if isSign '>' first then 1 else 0
  let descriptor := (draft.descriptor? usual).getD usual
  match ← following fuel with
  | none => return .place descriptor (if usual = 1 then .output else .input)
  | some byte =>
    match sign first, sign byte with
    | '>', '>' => taking (.place descriptor .append)
    | '>', '|' => taking (.place descriptor .overwrite)
    | _, '&' => taking (.place descriptor .duplicate)
    | '>', _ => return .place descriptor .output
    | _, '>' => taking (.place descriptor .both)
    | _, '<' =>
      take
      return .document descriptor (← takes fuel '-')
    | _, _ => return .place descriptor .input
where
  /-- Takes the second byte of an operator. -/
  taking (arrow : Arrow) : Reader Arrow := do
    take
    return arrow

/-- Reads the operator of a redirection, of which the first byte is given. -/
def arrow (fuel : Nat) (draft : Draft) (first : UInt8) : Reader Token := do
  take
  let arrow ← arrowBehind fuel draft first
  modify fun source => { source with arrow }
  found .redirection

/-- Skips the rest of a line, in which lines are not joined. -/
def skipComment : Nat → Reader Unit
  | 0 => return ()
  | fuel + 1 => do
    if (← get).next?.any (· != newline) then
      discard (takeRun (· != newline))
      skipComment fuel

/-- Notes the word that a draft has become; before a redirection it may be a descriptor. -/
def finishWord (fuel : Nat) (draft : Draft) : Reader Token := do
  match draft.opening? with
  | some opening => stop (.unfinished opening)
  | none =>
    match (← get).next? with
    | some byte =>
      if isOneOf "<>" byte && (draft.descriptor? 0).isSome then arrow fuel draft byte
      else noted
    | none => noted
where
  /-- Notes the word. -/
  noted : Reader Token := do
    modify fun source => { source with word := draft.word, isQuoted := draft.isQuoted }
    found .word

mutual

/-- Goes on with a word to its end. -/
def wordFrom : Nat → Draft → Reader Draft
  | 0, _ => tooDeep
  | fuel + 1, draft => do
    let quoting := draft.level.quoting
    let next ← if quoting = .single then pure (← get).next? else following (fuel + 1)
    match next with
    | none => return draft
    | some byte =>
      if draft.level.isPlain byte then
        let found ← takeRun draft.level.isPlain
        wordFrom fuel (draft.put found)
      else if endsWord byte && quoting = .none && draft.level.braces = 0 then return draft
      else
        take
        if byte = newline then
          countLine
          let draft := draft.put [newline]
          if quoting ≠ .single then modify (Source.joined fuel)
          if ← endsDocument draft then return draft else wordFrom fuel draft
        else
          match sign byte, quoting with
          | '\\', _ =>
            match (← get).next? with
            | none => wordFrom fuel (draft.putEscaped [byte])
            | some freed =>
              take
              wordFrom fuel (draft.escape byte freed)
          | '\'', .none => wordFrom fuel draft.openSingle
          | '"', .none => wordFrom fuel draft.openDouble
          | '\'', _ | '"', _ => wordFrom fuel (draft.closeQuotes byte)
          | '$', _ => wordFrom fuel (← dollar fuel draft)
          | '\x60', _ =>
            if draft.purpose = .mark then wordFrom fuel (draft.put [byte])
            else
              let script ← backquoted draft.level.isDouble fuel []
              let body ← enclosed fuel script
              wordFrom fuel (draft.add (.command body draft.quotes))
          | '\x7d', _ => wordFrom fuel (draft.closeBrace byte)
          | '(', .arithmetic =>
            wordFrom fuel ((draft.put [byte]).onLevel fun level =>
              { level with parentheses := level.parentheses + 1 })
          | ')', .arithmetic =>
            if draft.level.parentheses ≠ 0 then
              wordFrom fuel ((draft.put [byte]).onLevel fun level =>
                { level with parentheses := level.parentheses - 1 })
            else
              let isEnd ← takes fuel ')'
              wordFrom fuel (if isEnd then draft.closeArithmetic else draft.put [byte])
          | _, _ => wordFrom fuel (draft.put [byte])

/-- Reads what a dollar sign announces, or the sign itself. -/
def dollar : Nat → Draft → Reader Draft
  | 0, _ => tooDeep
  | fuel + 1, draft => do
    let literal : Draft := draft.put (Utf8.encode "$")
    match ← following fuel with
    | none => return literal
    | some byte =>
      if draft.purpose = .mark then return literal
      else if isSign '(' byte then
        take
        if ← takes fuel '(' then return draft.openArithmetic
        else
          let body ← parenthesized fuel
          return draft.add (.command body draft.quotes)
      else if isSign '\x7b' byte then
        take
        openBraced fuel draft
      else if beginsName byte then
        let name ← takeAll continuesName fuel
        return draft.add (.parameter name .value [] draft.quotes)
      else if isDigit byte || isSpecialParameter byte then
        take
        return draft.add (.parameter [byte] .value [] draft.quotes)
      else return literal

/-- Reads the commands between parentheses, with the documents that they wait for. -/
def parenthesized : Nat → Reader Command
  | 0 => tooDeep
  | fuel + 1 => do
    let awaited := (← get).awaited
    modify fun source => { source with awaited := [] }
    let body ← list fuel .any []
    if (← token fuel Checks.words) ≠ .closing then refuse (some .closing)
    let documents := (← get).documents
    modify fun source => { source with awaited }
    return body.run documents

/-- Reads commands from bytes that have been taken from the script, whose lines are counted by
themselves. What stands behind the commands does not matter. -/
def enclosed : Nat → Bytes → Reader Command
  | 0, _ => tooDeep
  | fuel + 1, script => fun outer =>
    let inner : Source :=
      { unread := script
        aliases := outer.aliases
        busy := outer.busyNames }
    match (list fuel .any []).run inner with
    | .error fault => .error fault
    | .ok (body, inner) => .ok (body.run inner.documents, outer)

/-- Reads the next lexeme. -/
def lexeme : Nat → Bool → Reader Token
  | 0, _ => tooDeep
  | fuel + 1, isMark => do
    let source ← get
    if source.isPushedBack then
      set { source with isPushedBack := false }
      return source.token
    else
      match ← following (fuel + 1) with
      | none => found .scriptEnd
      | some byte =>
        match sign byte with
        | ' ' | '\t' =>
          discard (takeRun isGap)
          lexeme fuel isMark
        | '#' =>
          skipComment fuel
          lexeme fuel isMark
        | '\n' =>
          take
          countLine
          found .lineEnd
        | '&' =>
          take
          found (if ← takes fuel '&' then .both else .background)
        | '|' =>
          take
          found (if ← takes fuel '|' then .either else .pipe)
        | ';' =>
          take
          found (if ← takes fuel ';' then .armEnd else .separator)
        | '(' =>
          take
          found .opening
        | ')' =>
          take
          found .closing
        | _ =>
          finishWord fuel (← wordFrom fuel { purpose := if isMark then .mark else .use })

/-- Skips line ends behind a lexeme, with the documents that stand behind them. -/
def skipLineEnds : Nat → Token → Reader Token
  | 0, _ => tooDeep
  | fuel + 1, first => do
    if first = .lineEnd then
      awaitedDocuments fuel
      skipLineEnds fuel (← lexeme fuel false)
    else return first

/-- Reads the next lexeme, and finds out whether a word is reserved or an alias, which is then
replaced by its text. A word behind a text with a gap at its end may be an alias wherever it
stands. -/
def token : Nat → Checks → Reader Token
  | 0, _ => tooDeep
  | fuel + 1, checks => do
    let first ← lexeme fuel checks.mark
    let next ← if checks.lineEnds then skipLineEnds fuel first else pure first
    let source ← get
    let aliases := checks.aliases || source.afterGap
    set { source with afterGap := false }
    if next ≠ .word || source.isQuoted then return next
    else
      match if checks.reserved then source.reserved? else none with
      | some name => found (.reserved name)
      | none =>
        match if aliases then source.alias? else none with
        | some (name, text) =>
          modify fun source => source.push name text
          token fuel { checks with aliases }
        | none => return .word

/-- Reads the documents that redirections wait for. -/
def awaitedDocuments : Nat → Reader Unit
  | 0 => tooDeep
  | fuel + 1 => do
    match (← get).awaited with
    | [] => return ()
    | first :: later =>
      modify fun source => { source with awaited := later, isPushedBack := false }
      let level : Level :=
        if first.isRaw then { quoting := .single } else { quoting := .double, isDouble := true }
      let draft : Draft :=
        { purpose := .document first.mark first.dropsTabs
          level
          frame := { inherits := true } }
      if !first.isRaw then modify (Source.joined fuel)
      let draft ← if ← endsDocument draft then pure draft else wordFrom fuel draft
      match draft.opening? with
      | some opening => stop (.unfinished opening)
      | none =>
        modify fun source =>
          { source with documents := (first.number, draft.word) :: source.documents }
        awaitedDocuments fuel

/-- Reads a list of commands, of which there are some already, newest first. -/
def list : Nat → Extent → List (Awaiting Command) → Reader (Awaiting Command)
  | 0, _, _ => tooDeep
  | fuel + 1, extent, backward => do
    let first ← token fuel { Checks.command with lineEnds := extent != .line }
    match first with
    | .lineEnd =>
      awaitedDocuments fuel
      return Command.inOrder backward
    | .scriptEnd =>
      awaitedDocuments fuel
      putBackEnd
      return Command.inOrder backward
    | _ =>
      pushBack
      if extent = .any && first.endsList then return Command.inOrder backward
      else
        let command ← andOr fuel Checks.words
        let behind ← token fuel Checks.words
        let command : Awaiting Command :=
          if behind = .background then .background <$> command else command
        let extent : Extent := if extent = .line then .line else .any
        match behind with
        | .scriptEnd =>
          awaitedDocuments fuel
          putBackEnd
          return Command.inOrder (command :: backward)
        | .lineEnd =>
          pushBack
          list fuel extent (command :: backward)
        | .background | .separator => list fuel extent (command :: backward)
        | _ =>
          if extent = .line then refuse none
          pushBack
          return Command.inOrder (command :: backward)

/-- Reads pipelines that are joined by conditions; the conditions bind to the left. -/
def andOr : Nat → Checks → Reader (Awaiting Command)
  | 0, _ => tooDeep
  | fuel + 1, checks => do
    andOrFrom fuel (← pipeline fuel checks)

/-- Goes on behind a pipeline. -/
def andOrFrom : Nat → Awaiting Command → Reader (Awaiting Command)
  | 0, _ => tooDeep
  | fuel + 1, left => do
    match ← token fuel Checks.words with
    | .both =>
      let right ← pipeline fuel Checks.laterCommand
      andOrFrom fuel (.both <$> left <*> right)
    | .either =>
      let right ← pipeline fuel Checks.laterCommand
      andOrFrom fuel (.either <$> left <*> right)
    | _ =>
      pushBack
      return left

/-- Reads a pipeline. -/
def pipeline : Nat → Checks → Reader (Awaiting Command)
  | 0, _ => tooDeep
  | fuel + 1, checks => do
    let negated := (← token fuel checks) = .reserved "!"
    if !negated then pushBack
    let first ← command fuel (if negated then Checks.command else Checks.words)
    let later ← pipes fuel
    let whole : Awaiting Command :=
      match later with
      | [] => first
      | _ => do
        return .pipeline (← (first :: later).mapM id)
    return if negated then .negated <$> whole else whole

/-- Reads the commands behind pipes. -/
def pipes : Nat → Reader (List (Awaiting Command))
  | 0 => tooDeep
  | fuel + 1 => do
    if (← token fuel Checks.words) = .pipe then
      let next ← command fuel Checks.laterCommand
      return next :: (← pipes fuel)
    else
      pushBack
      return []

/-- Reads one command. -/
def command : Nat → Checks → Reader (Awaiting Command)
  | 0, _ => tooDeep
  | fuel + 1, checks => do
    let line := (← get).line
    match ← token fuel checks with
    | .word | .redirection =>
      pushBack
      let line := (← get).line
      simple fuel line {}
    | .opening =>
      let body ← list fuel .some []
      expect fuel .closing
      redirected fuel line (.subshell line <$> body)
    | .reserved "\x7b" =>
      let body ← list fuel .some []
      expect fuel (.reserved "\x7d")
      redirected fuel line body
    | .reserved "if" =>
      let body ← branches fuel
      redirected fuel line body
    | .reserved "while" =>
      let body ← loop fuel false
      redirected fuel line body
    | .reserved "until" =>
      let body ← loop fuel true
      redirected fuel line body
    | .reserved "for" =>
      let body ← forEach fuel line
      redirected fuel line body
    | .reserved "case" =>
      let body ← choice fuel line
      redirected fuel line body
    | _ => refuse none

/-- Takes a lexeme that must come next. -/
def expect : Nat → Token → Reader Unit
  | 0, _ => tooDeep
  | fuel + 1, expected => do
    if (← token fuel Checks.words) ≠ expected then refuse (some expected)

/-- Reads the redirections behind a command. -/
def redirected : Nat → Nat → Awaiting Command → Reader (Awaiting Command)
  | 0, _, _ => tooDeep
  | fuel + 1, line, body => do
    match ← redirections fuel Checks.command with
    | [] => return body
    | found =>
      return do
        return .redirected line (← body) (← found.mapM id)

/-- Reads redirections. -/
def redirections : Nat → Checks → Reader (List (Awaiting Redirection))
  | 0, _ => tooDeep
  | fuel + 1, checks => do
    if (← token fuel checks) = .redirection then
      let first ← redirection fuel
      return first :: (← redirections fuel Checks.words)
    else
      pushBack
      return []

/-- Reads what follows the operator of a redirection. -/
def redirection : Nat → Reader (Awaiting Redirection)
  | 0 => tooDeep
  | fuel + 1 => do
    match (← get).arrow with
    | .place descriptor direction =>
      if (← token fuel Checks.words) ≠ .word then refuse none
      let target := (← get).word
      return pure (.place descriptor direction target)
    | .document descriptor dropsTabs =>
      if (← token fuel { mark := true }) ≠ .word then refuse none
      let source ← get
      let number := source.nextDocument
      let awaited : Awaited := ⟨number, source.word.textOf, source.isQuoted, dropsTabs⟩
      set { source with nextDocument := number + 1, awaited := source.awaited ++ [awaited] }
      return do
        return .document descriptor (((← read).lookup number).getD [])

/-- Reads what remains of a simple command, of which there is something already. A word and
parentheses that nothing stands before are the start of a function. -/
def simple : Nat → Nat → Simple → Reader (Awaiting Command)
  | 0, _, _ => tooDeep
  | fuel + 1, line, found => do
    let checks : Checks := { aliases := found.words.isEmpty }
    match ← token fuel checks with
    | .word =>
      let word := (← get).word
      match if found.words.isEmpty then Word.assignment? word else none with
      | some assignment =>
        simple fuel line { found with assignments := assignment :: found.assignments }
      | none => simple fuel line { found with words := word :: found.words }
    | .redirection =>
      let redirection ← redirection fuel
      simple fuel line { found with redirections := redirection :: found.redirections }
    | .opening =>
      match found.words, found.assignments, found.redirections with
      | [name], [], [] => function fuel name
      | _, _, _ =>
        pushBack
        return found.command line
    | _ =>
      pushBack
      return found.command line

/-- Reads the rest of a function behind its name and the first parenthesis. -/
def function : Nat → Word → Reader (Awaiting Command)
  | 0, _ => tooDeep
  | fuel + 1, word => do
    expect fuel .closing
    match (Word.plain? word).filter isName with
    | none => stop (.badName "function name")
    | some name =>
      if specialCommands.contains (Utf8.lossy name) then stop (.badName "function name")
      else
        let body ← command fuel Checks.laterCommand
        return .define name <$> body

/-- Reads a branch behind its first word. -/
def branches : Nat → Reader (Awaiting Command)
  | 0 => tooDeep
  | fuel + 1 => do
    let condition ← list fuel .some []
    expect fuel (.reserved "then")
    let yes ← list fuel .some []
    match ← token fuel Checks.words with
    | .reserved "elif" =>
      let no ← branches fuel
      return .branch <$> condition <*> yes <*> no
    | .reserved "else" =>
      let no ← list fuel .some []
      expect fuel (.reserved "fi")
      return .branch <$> condition <*> yes <*> no
    | _ =>
      pushBack
      expect fuel (.reserved "fi")
      return .branch <$> condition <*> yes <*> pure .nothing

/-- Reads a loop behind its first word. -/
def loop : Nat → Bool → Reader (Awaiting Command)
  | 0, _ => tooDeep
  | fuel + 1, untilTrue => do
    let condition ← list fuel .some []
    expect fuel (.reserved "do")
    let body ← list fuel .some []
    expect fuel (.reserved "done")
    return .loop untilTrue <$> condition <*> body

/-- Reads a loop over words behind its first word. -/
def forEach : Nat → Nat → Reader (Awaiting Command)
  | 0, _ => tooDeep
  | fuel + 1, line => do
    let first ← token fuel Checks.words
    let source ← get
    match (Word.plain? source.word).filter fun name =>
        first = .word && !source.isQuoted && isName name with
    | none => stop (.badName "for loop variable")
    | some name =>
      let words ←
        if (← token fuel Checks.laterCommand) = .reserved "in" then
          let words ← plainWords fuel
          let behind := (← get).token
          if behind ≠ .lineEnd && behind ≠ .separator then refuse none
          pure (some words)
        else
          if (← get).token ≠ .separator then pushBack
          pure none
      if (← token fuel Checks.laterCommand) ≠ .reserved "do" then refuse (some (.reserved "do"))
      let body ← list fuel .some []
      expect fuel (.reserved "done")
      return .forEach line name words <$> body

/-- Reads words and the lexeme behind them. -/
def plainWords : Nat → Reader (List Word)
  | 0 => tooDeep
  | fuel + 1 => do
    if (← token fuel Checks.words) = .word then
      let word := (← get).word
      return word :: (← plainWords fuel)
    else return []

/-- Reads a choice behind its first word. -/
def choice : Nat → Nat → Reader (Awaiting Command)
  | 0, _ => tooDeep
  | fuel + 1, line => do
    expect fuel .word
    let word := (← get).word
    if (← token fuel Checks.laterCommand) ≠ .reserved "in" then refuse (some (.reserved "in"))
    let arms ← arms fuel
    return .choice line word <$> arms

/-- Reads the arms of a choice. -/
def arms : Nat → Reader (Awaiting Command)
  | 0 => tooDeep
  | fuel + 1 => do
    let first ← token fuel Checks.arm
    if first = .reserved "esac" then return pure .nothing
    else
      if first = .opening then discard (token fuel Checks.words)
      let patterns ← patterns fuel
      if (← get).token ≠ .closing then refuse (some .closing)
      let body ← list fuel .any []
      match ← token fuel Checks.arm with
      | .reserved "esac" => return .arm patterns <$> body <*> pure .nothing
      | .armEnd =>
        let others ← arms fuel
        return .arm patterns <$> body <*> others
      | _ => refuse (some .armEnd)

/-- Reads patterns and the lexeme behind them. Each pattern is the last word that has been read,
whatever the last lexeme is. -/
def patterns : Nat → Reader (List Word)
  | 0 => tooDeep
  | fuel + 1 => do
    let pattern := (← get).word
    if (← token fuel Checks.words) = .pipe then
      discard (token fuel Checks.words)
      return pattern :: (← patterns fuel)
    else return [pattern]

end

end Reader

namespace Source

/-- Reads the commands of the next line; at the end of the script there are none. No reading goes
deeper than `fuel`. -/
def readCommand? (fuel : Nat) (source : Source) : Except Fault (Option Command × Source) := do
  let start : Source := { source with isPushedBack := false, awaited := [], documents := [] }
  let (awaiting, behind) ← (Reader.list fuel .line []).run start
  let command := awaiting.run behind.documents
  let isOver : Bool := behind.isPushedBack && behind.token = .scriptEnd
  match command with
  | .nothing => return (if isOver then none else some .nothing, behind)
  | command => return (some command, behind)

/-- The depth that suffices to read a script of the given size. -/
def depthFor (size : Nat) (aliases : List (Bytes × Bytes)) : Nat :=
  16 * (size + 16) * (aliases.foldl (fun total entry => total + entry.2.length) 0 + 1)

/-- Reads a text in which values are put, as in a document. -/
def readText? (text : Bytes) : Except Fault Word := do
  let draft : Draft :=
    { purpose := .document [0] false
      level := { quoting := .double, isDouble := true }
      frame := { inherits := true } }
  let (draft, behind) ← (Reader.wordFrom (depthFor text.length []) draft).run { unread := text }
  match draft.opening? with
  | some opening => throw ⟨.unfinished opening, behind.line⟩
  | none => return draft.word

end Source

end Script

end CompilerLauncher
