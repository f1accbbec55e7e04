import DeclAtlas.Script.Expansion
import DeclAtlas.Script.Reader
import DeclAtlas.Script.Utility
import DeclAtlas.Text.CharClass

/-!
# Running scripts

The commands of a script are carried out one after another on a session.  Commands that belong to
the shell itself change the session or end the run; everything else is a utility, a function or
another script.  A bound on the nesting of steps makes every run end; a script that reaches it
counts as one that has been killed.
-/

namespace DeclAtlas.Script

/-- What a loop does after its body. -/
inductive LoopStep where
  | next (status : Nat)
  | stop (status : Nat)

/-- Carries out the body of a loop once. -/
def loopStep (body : Action Nat) : Action LoopStep :=
  tryCatch (do pure (.next (← body))) fun h => match h with
    | .leave again 0 => pure (if again then .next 0 else .stop 0)
    | .leave again (n + 1) => throw (.leave again n)
    | h => throw h

/-- Carries out commands whose variables are their own; an exit ends only them. -/
def separately (body : Action Nat) : Action Nat := do
  let before ← get
  let status ← tryCatch body fun h => match h with
    | .exit n => pure n
    | .finish n => pure n
    | .leave _ _ => pure 0
    | h => throw h
  modify fun after => before.rejoin after
  pure status

/-- The output of some commands, line breaks at its end left out. -/
def capturing (body : Action Nat) : Action (List Char) := do
  let before ← get
  set { before.redirect 1 .capture with captured := [] }
  let status ← separately body
  let bytes := (← get).captured
  modify fun s =>
    { s with captured := before.captured, descriptors := before.descriptors, status := status }
  pure (Text.dropEndWhile (· == '\n') (Text.decodeLossy bytes).toList)

/-- Carries out commands that read what others have written. -/
def piped (writer reader : Action Nat) : Action Nat := do
  let before ← get
  set { before.redirect 1 .capture with captured := [] }
  let _ ← separately writer
  let bytes := (← get).captured
  modify fun s =>
    { s with captured := before.captured, descriptors := before.descriptors, input := bytes }
  let status ← separately reader
  modify fun s => { s with input := before.input }
  pure status

/-- The numbers of signals. -/
def signals : List (String × Nat) :=
  [("HUP", 1), ("INT", 2), ("QUIT", 3), ("ILL", 4), ("TRAP", 5), ("ABRT", 6), ("BUS", 7),
   ("FPE", 8), ("KILL", 9), ("USR1", 10), ("SEGV", 11), ("USR2", 12), ("PIPE", 13), ("ALRM", 14),
   ("TERM", 15), ("STKFLT", 16), ("CHLD", 17), ("CONT", 18), ("STOP", 19), ("TSTP", 20),
   ("TTIN", 21), ("TTOU", 22), ("URG", 23), ("XCPU", 24), ("XFSZ", 25), ("VTALRM", 26),
   ("PROF", 27), ("WINCH", 28), ("IO", 29), ("PWR", 30), ("SYS", 31)]

/-- The largest number of a signal. -/
def maxSignal : Nat := 64

/-- The signals that leave a script running if it does not ask for them. -/
def idleSignals : List Nat := [0, 17, 18, 23, 28]

/-- The number of a signal given by its number or its name, whose case does not matter. -/
def signal? (s : String) : Option Nat :=
  match Text.asciiNat? s.toList with
  | some n => if n ≤ maxSignal then some n else none
  | none => signals.lookup (s.map Char.toUpper)

/-- Sends a signal to the script itself; other processes are not known. -/
def kill : Utility := fun args =>
  let send := fun (n : Nat) (process : String) =>
    if process != ownProcess then complainHere "kill: No such process" 1
    else if idleSignals.contains n then pure 0
    else throw (.signal n)
  match args with
  | ["-s", s, p] =>
    match signal? s with
    | some n => send n p
    | none => complainHere ("kill: invalid signal number or name: " ++ s) 2
  | [p] => send 15 p
  | [s, p] =>
    let word := s.toList.drop 1
    match signal? (String.ofList word) with
    | some n => send n p
    | none => complainHere ("kill: Illegal option -" ++ String.ofList (word.take 1)) 2
  | _ => complain "kill: Usage: kill [-s signame | -signum | -signame] pid ..." 2

/-- Assigns a value, or only names a variable. -/
def assignArg (arg : String) : Action Unit :=
  match Text.cut? ['='] arg.toList with
  | some (n, v) => modify (·.assign (String.ofList n) (String.ofList v))
  | none => pure ()

/-- The number that the first argument of a command gives, if there is one; anything else in its
place ends the script. -/
def numberArg (command : String) (args : List String) : Action (Option Nat) :=
  match args with
  | [] => pure none
  | a :: _ =>
    match Text.asciiNat? a.toList with
    | some n => pure (some n)
    | none => giveUp (command ++ ": Illegal number: " ++ a)

/-- The status that an argument gives, or else the last one. -/
def statusArg (command : String) (args : List String) : Action Nat := do
  match ← numberArg command args with
  | some n => pure (n % 256)
  | none => pure (← get).status

/-- How many loops a command leaves: as many as its argument says, at least one. -/
def levelsArg (command : String) (args : List String) : Action Nat := do
  match ← numberArg command args with
  | some 0 => giveUp (command ++ ": Illegal number: " ++ args.headD "")
  | some (n + 1) => pure n
  | none => pure 0

/-- Reads a line of the input into a variable, with blanks around it left out. -/
def readLine : Utility := fun args => do
  let s ← get
  let line := s.input.takeWhile (· != 10)
  let rest := s.input.drop line.length
  let names := args.filter fun a => !Text.startsWith ['-'] a.toList
  let text := (Text.decodeLossy line).toList
  let value := Text.dropEndWhile isSeparator (text.dropWhile isSeparator)
  set ({ s with input := rest.tail }.assign (names.headD "REPLY") (String.ofList value))
  pure (if rest.isEmpty then 1 else 0)

/-- Changes the working directory. -/
def changeDirectory : Utility := fun args => do
  let s ← get
  let p := args.headD s.directory
  match s.tree.canonical (s.absolute p) with
  | .ok q =>
    if (s.tree.find q).toOption.any Tree.isDirectory then
      set { s with directory := q }
      pure 0
    else complainHere ("cd: can't cd to " ++ p) 2
  | .error _ => complainHere ("cd: can't cd to " ++ p) 2

/-- The commands of the shell that run no other commands. -/
def shellCommands : List (String × Utility) :=
  [(":", fun _ => pure 0), ("exit", fun args => do throw (.exit (← statusArg "exit" args))),
   ("return", fun args => do throw (.finish (← statusArg "return" args))),
   ("break", fun args => do throw (.leave false (← levelsArg "break" args))),
   ("continue", fun args => do throw (.leave true (← levelsArg "continue" args))),
   ("shift", fun args => do
      let n := (← numberArg "shift" args).getD 1
      if (← get).params.length < n then giveUp "shift: can't shift that many"
      else
        modify fun s => { s with params := s.params.drop n }
        pure 0),
   ("set", fun args => do
      match args with
      | "--" :: rest =>
        modify fun s => { s with params := rest }
        pure 0
      | a :: rest =>
        if Text.startsWith ['-'] a.toList || Text.startsWith ['+'] a.toList then pure 0
        else
          modify fun s => { s with params := a :: rest }
          pure 0
      | [] => pure 0),
   ("export", fun args => do
      args.forM assignArg
      pure 0),
   ("readonly", fun args => do
      args.forM assignArg
      pure 0),
   ("local", fun args => do
      args.forM assignArg
      pure 0),
   ("unset", fun args => do
      modify fun s => { s with bindings := s.bindings.filter fun v => !args.contains v.1 }
      pure 0),
   ("read", readLine), ("cd", changeDirectory), ("kill", kill),
   ("echo", fun args => printBytes (echo args))]

/-- What a name stands for outside the shell: with a slash it is a path, and without one a path in
one of the directories of programs. -/
def program? (s : Session) (name : String) : Except FileError String :=
  let ofTree := fun (t : Tree) => match t with
    | .program p => .ok p
    | _ => .error .denied
  if name.isEmpty then .error .notFound
  else if name.toList.contains '/' then
    match s.tree.find (s.absolute name) with
    | .ok t => ofTree t
    | .error e => .error e
  else
    match programDirectories.findSome? fun d =>
        (s.tree.find (Tree.pathOf d ++ "/" ++ name)).toOption with
    | some t => ofTree t
    | none => .error .notFound

/-- Why a file cannot be opened, in the words of the shell. -/
def openReason : FileError → String
  | .notFound => "No such file"
  | .notDirectory => "No such file"
  | e => e.reason

/-- Why a file cannot be made, in the words of the shell. -/
def createReason : FileError → String
  | .notFound => "Directory nonexistent"
  | .notDirectory => "Directory nonexistent"
  | e => e.reason

/-- Makes a descriptor read from a file. -/
def redirectInput (target : String) : Action Nat := do
  let s ← get
  if target = "/dev/null" then
    set { s with input := [] }
    pure 0
  else match s.readBytes target with
    | .ok bs =>
      set { s with input := bs }
      pure 0
    | .error e => complainHere ("cannot open " ++ target ++ ": " ++ openReason e) 2

/-- Makes a descriptor lead where another one does. -/
def redirectLike (descriptor : Nat) (target : String) : Action Nat := do
  let s ← get
  let sink := if target = "-" then some .discard
    else (Text.asciiNat? target.toList).bind fun n => s.descriptors.lookup n
  match sink with
  | some sink =>
    set (s.redirect descriptor sink)
    pure 0
  | none => complainHere (target ++ ": Bad file descriptor") 2

/-- Makes a descriptor write to a file, which is emptied before unless `append` is set. -/
def redirectOutput (append : Bool) (descriptor : Nat) (target : String) : Action Nat := do
  let s ← get
  if target = "/dev/null" then
    set (s.redirect descriptor .discard)
    pure 0
  else match s.tree.target (s.absolute target) with
    | .error e => complainHere ("cannot create " ++ target ++ ": " ++ createReason e) 2
    | .ok names =>
      let keeps := append && (s.tree.at? names).isSome
      let tree := if keeps then s.tree else s.tree.put names (.file [])
      set ({ s with tree := tree }.redirect descriptor (.file names))
      pure 0

/-- Carries out a redirection. -/
def redirectTo (r : Redirection) (target : String) : Action Nat :=
  match r.kind with
  | .input => redirectInput target
  | .output => redirectOutput false r.descriptor target
  | .append => redirectOutput true r.descriptor target
  | .duplicate => redirectLike r.descriptor target

mutual

/-- The marks of a piece. -/
def pieceMarks (fuel : Nat) (p : Piece) : Action (List Mark) :=
  match fuel with
  | 0 => throw .exhausted
  | fuel + 1 =>
    match p with
    | .text s quoted => pure (textMarks quoted s)
    | .output script quoted => do
      let s ← capturing (runText fuel script)
      pure (valueMarks quoted s)
    | .param name change arg quoted => do
      let s ← get
      if name = "@" && change = "" then
        pure (listMarks quoted (s.params.map String.toList))
      else
        let value := s.param? name
        let text := (value.getD "").toList
        let unset := if Text.startsWith [':'] change.toList then text.isEmpty else value.isNone
        match change with
        | "" => pure (valueMarks quoted text)
        | "length" => pure (valueMarks quoted (toString text.length).toList)
        | "#" => do pure (valueMarks quoted (dropMatching false (patternOf (← marks fuel arg)) text))
        | "##" => do pure (valueMarks quoted (dropMatching true (patternOf (← marks fuel arg)) text))
        | "%" => do
          pure (valueMarks quoted (dropEndMatching false (patternOf (← marks fuel arg)) text))
        | "%%" => do
          pure (valueMarks quoted (dropEndMatching true (patternOf (← marks fuel arg)) text))
        | "+" => if unset then pure (textMarks quoted []) else marks fuel arg
        | ":+" => if unset then pure (textMarks quoted []) else marks fuel arg
        | _ =>
          if !unset then pure (valueMarks quoted text)
          else do
            let ms ← marks fuel arg
            if change = "=" || change = ":=" then
              modify (·.assign name (String.ofList (textOf ms)))
            pure ms

/-- The marks of a word. -/
def marks (fuel : Nat) (w : Word) : Action (List Mark) :=
  match fuel with
  | 0 => throw .exhausted
  | fuel + 1 =>
    match w with
    | [] => pure []
    | p :: ps => do
      let first ← pieceMarks fuel p
      let rest ← marks fuel ps
      pure (first ++ rest)

/-- The text of a word that is not split. -/
def wholeText (fuel : Nat) (w : Word) : Action String :=
  match fuel with
  | 0 => throw .exhausted
  | fuel + 1 => do pure (String.ofList (textOf (← marks fuel w)))

/-- The fields of some words. -/
def allFields (fuel : Nat) (ws : List Word) : Action (List String) :=
  match fuel with
  | 0 => throw .exhausted
  | fuel + 1 =>
    match ws with
    | [] => pure []
    | w :: ws => do
      let first ← marks fuel w
      let rest ← allFields fuel ws
      pure (fields first ++ rest)

/-- Carries out assignments. -/
def assignAll (fuel : Nat) (as : List (String × Word)) : Action Unit :=
  match fuel with
  | 0 => throw .exhausted
  | fuel + 1 =>
    match as with
    | [] => pure ()
    | (n, w) :: as => do
      let v ← wholeText fuel w
      modify (·.assign n v)
      assignAll fuel as

/-- Carries out redirections; a status other than 0 if one of them fails. -/
def redirectAll (fuel : Nat) (rs : List Redirection) : Action Nat :=
  match fuel with
  | 0 => throw .exhausted
  | fuel + 1 =>
    match rs with
    | [] => pure 0
    | r :: rs => do
      let target ← wholeText fuel r.target
      let status ← redirectTo r target
      if status = 0 then redirectAll fuel rs else pure status

/-- Carries out a command and notes its status. -/
def run (fuel : Nat) (c : Command) : Action Nat :=
  match fuel with
  | 0 => throw .exhausted
  | fuel + 1 => do
    modify fun s => { s with line := c.line?.getD s.line }
    let status ← match c with
      | .nothing => do pure (← get).status
      | .simple _ as ws => do
        let fs ← allFields fuel ws
        match fs with
        | [] =>
          modify fun s => { s with status := 0 }
          assignAll fuel as
          pure (← get).status
        | name :: args =>
          if as.isEmpty then runNamed fuel name args
          else
            let bindings := (← get).bindings
            assignAll fuel as
            let status ← runNamed fuel name args
            modify fun s => { s with bindings := bindings }
            pure status
      | .redirected c rs => do
        let before ← get
        let status ← redirectAll fuel rs
        let restore : Action Unit := modify fun s =>
          { s with descriptors := before.descriptors, input := before.input }
        if status != 0 then
          restore
          pure status
        else
          let status ← tryCatch (run fuel c) fun h => do
            restore
            throw h
          restore
          pure status
      | .pipe c d => piped (run fuel c) (run fuel d)
      | .negated c => do
        let status ← run fuel c
        pure (if status = 0 then 1 else 0)
      | .sequence c d => do
        let _ ← run fuel c
        run fuel d
      | .both c d => do
        let status ← run fuel c
        if status = 0 then run fuel d else pure status
      | .either c d => do
        let status ← run fuel c
        if status = 0 then pure 0 else run fuel d
      | .conditional test yes no => do
        let status ← run fuel test
        modify fun s => { s with status := 0 }
        if status = 0 then run fuel yes else run fuel no
      | .each name items body => do
        let items ← match items with
          | some ws => allFields fuel ws
          | none => do pure (← get).params
        runEach fuel name body 0 items
      | .loop while_ test body => runLoop fuel while_ test body 0
      | .select subject arms => do
        let s ← wholeText fuel subject
        runArms fuel s.toList arms
      | .separate c => separately (run fuel c)
      | .define name body => do
        modify fun s => { s with functions := (name, body) :: s.functions }
        pure 0
    modify fun s => { s with status := status }
    pure status

/-- Carries out the body of a loop for each item. -/
def runEach (fuel : Nat) (name : String) (body : Command) (status : Nat) (items : List String) :
    Action Nat :=
  match fuel with
  | 0 => throw .exhausted
  | fuel + 1 =>
    match items with
    | [] => pure status
    | i :: is => do
      modify (·.assign name i)
      match ← loopStep (run fuel body) with
      | .next status => runEach fuel name body status is
      | .stop status => pure status

/-- Carries out a loop. -/
def runLoop (fuel : Nat) (while_ : Bool) (test body : Command) (status : Nat) : Action Nat :=
  match fuel with
  | 0 => throw .exhausted
  | fuel + 1 => do
    let outcome ← run fuel test
    if (outcome == 0) != while_ then pure status
    else match ← loopStep (run fuel body) with
      | .next status => runLoop fuel while_ test body status
      | .stop status => pure status

/-- Carries out the first arm with a pattern that matches. -/
def runArms (fuel : Nat) (subject : List Char) (arms : List (List Word × Command)) : Action Nat :=
  match fuel with
  | 0 => throw .exhausted
  | fuel + 1 =>
    match arms with
    | [] => pure 0
    | (ws, c) :: rest => do
      if ← matchesAny fuel subject ws then
        modify fun s => { s with status := 0 }
        run fuel c
      else runArms fuel subject rest

/-- Whether one of some patterns matches a text. -/
def matchesAny (fuel : Nat) (subject : List Char) (ws : List Word) : Action Bool :=
  match fuel with
  | 0 => throw .exhausted
  | fuel + 1 =>
    match ws with
    | [] => pure false
    | w :: ws => do
      let ms ← marks fuel w
      if (patternOf ms).matchesAll subject then pure true else matchesAny fuel subject ws

/-- Runs what a name stands for. -/
def runNamed (fuel : Nat) (name : String) (args : List String) : Action Nat :=
  match fuel with
  | 0 => throw .exhausted
  | fuel + 1 => do
    let s ← get
    match s.functions.lookup name with
    | some body =>
      set { s with params := args }
      let status ← tryCatch (run fuel body) fun h => match h with
        | .finish n => pure n
        | h => throw h
      modify fun t => { t with params := s.params }
      pure status
    | none =>
      match name, args with
      | "eval", _ => runText fuel (" ".intercalate args).toList
      | ".", file :: _ =>
        if !file.toList.contains '/' then giveUp (".: " ++ file ++ ": not found")
        else match s.readBytes file with
          | .ok bs => runText fuel (Text.decodeLossy bs).toList
          | .error e => giveUp (".: cannot open " ++ file ++ ": " ++ openReason e)
      | "exec", [] => pure 0
      | "exec", name :: args => do throw (.exit (← runNamed fuel name args))
      | "command", name :: args => runNamed fuel name args
      | _, _ =>
        match shellCommands.lookup name with
        | some u => u args
        | none =>
          match program? s name with
          | .ok p =>
            match utilities.lookup p with
            | some u => u args
            | none =>
              tryCatch (runShell fuel name args) fun h => match h with
                | .signal n => do
                  modify fun after => s.rejoin after
                  pure (128 + n)
                | h => throw h
          | .error .notFound => complainHere (name ++ ": not found") 127
          | .error e => complainHere (name ++ ": " ++ e.reason) 126

/-- Runs a text as a script in the present session. -/
def runText (fuel : Nat) (text : List Char) : Action Nat :=
  match fuel with
  | 0 => throw .exhausted
  | fuel + 1 =>
    match read? text with
    | some c => do
      modify fun s => { s with status := 0 }
      run fuel c
    | none => do
      let s ← get
      emitLine 2 (s.name ++ ": Syntax error")
      throw (.exit 2)

/-- Runs a shell under the name `shell`: with a script given as text or by its file. -/
def runShell (fuel : Nat) (shell : String) (args : List String) : Action Nat :=
  match fuel with
  | 0 => throw .exhausted
  | fuel + 1 => do
    let s ← get
    let start := fun (name : String) (params : List String) (text : List Char) =>
      separately do
        modify fun s => { s with name := name, params := params, functions := [] }
        runText fuel text
    match args with
    | "-c" :: text :: rest => start (rest.headD shell) rest.tail text.toList
    | [] => start shell [] (Text.decodeLossy s.input).toList
    | file :: rest =>
      match s.readBytes file with
      | .ok bs => start file rest (Text.decodeLossy bs).toList
      | .error _ => complain (shell ++ ": 0: cannot open " ++ file ++ ": No such file") 2

end

end DeclAtlas.Script
