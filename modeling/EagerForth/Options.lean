import EagerForth.Journal

/-!
# Command-line options

Four flags are understood.  A long flag may be shortened as long as it stays recognisable,
short flags may be joined behind one dash, and no flag takes a value.  Arguments are first
classified, then carried out from left to right; asking for help ends this at once, while
arguments that mean nothing are collected and refused at the end.

There is more than one convention for what is written behind a short flag.  Here an equals sign
behind it does not count, so that {lit}`-v=h` means the same as {lit}`-vh`.  The letters are read
as further short flags, and from the first that is none they are a value, which the flag before
does not take: the whole argument is refused, and {lit}`-hx` does not even give help.  An equals
sign with nothing behind it is a value, too, the empty one.
-/

namespace EagerForth

/-- The flags of the command line. -/
inductive Flag where
  /-- Show how the program is used. -/
  | help
  /-- Show status messages. -/
  | verbose
  /-- Show everything in the journal. -/
  | debug
  /-- Accept the euro sign in lines. -/
  | legacyCharset
deriving DecidableEq, Repr

namespace Flag

/-- The spellings of flags. -/
def spellings : List (Text × Flag) :=
  [("-h".toList, help), ("--help".toList, help), ("-v".toList, verbose),
    ("--verbose".toList, verbose), ("--debug".toList, debug),
    ("--legacy-charset".toList, legacyCharset)]

/-- How a flag is named in messages: by all of its spellings. -/
def title (flag : Flag) : Text :=
  ['/'].intercalate ((spellings.filter (·.2 == flag)).map Prod.fst)

/-- The flag with a given spelling. -/
def ofSpelling? (t : Text) : Option Flag :=
  (spellings.find? (·.1 == t)).map Prod.snd

end Flag

/-- A reason not to accept a command line. -/
inductive UsageError where
  /-- An argument is short for several flags. -/
  | ambiguous (argument : Text) (candidates : List Text)
  /-- A flag was given a value. -/
  | unwantedValue (flag : Flag) (value : Text)
  /-- Some arguments mean nothing. -/
  | unrecognized (arguments : List Text)
deriving DecidableEq, Repr

/-- The report of a command line that is not accepted. -/
def UsageError.message : UsageError → Text
  | .ambiguous argument candidates =>
      "ambiguous option: ".toList ++ argument ++ " could match ".toList ++
        ", ".toList.intercalate candidates
  | .unwantedValue flag value =>
      "argument ".toList ++ flag.title ++ ": ignored explicit argument ".toList ++
        Text.quoted value
  | .unrecognized arguments => "unrecognized arguments: ".toList ++ Text.unwords arguments

/-- An argument of the command line after classification. -/
inductive Argument where
  /-- An argument that is no flag. -/
  | stray (text : Text)
  /-- A flag spelled with two dashes, and the value after an equals sign. -/
  | long (flag : Flag) (value : Option Text)
  /-- A flag spelled with one dash, and what is joined to it or stands after an equals sign. -/
  | short (flag : Flag) (joined : Option Text)
deriving DecidableEq, Repr

namespace Argument

/-- Whether an argument starts with two dashes. -/
def isLong (t : Text) : Bool :=
  "--".toList.isPrefixOf t

/-- An argument up to its first equals sign, and what follows that sign. -/
def splitValue (t : Text) : Text × Option Text :=
  match t.dropWhile (· != '=') with
  | [] => (t, none)
  | _ :: value => (t.takeWhile (· != '='), some value)

/-- A flag by the kind of its spelling. -/
def ofFlag (spelling : Text) (flag : Flag) (value : Option Text) : Argument :=
  if isLong spelling then .long flag value else .short flag value

/-- Classify an argument that may be a shortened long flag. -/
def ofShortened (argument : Text) : Except UsageError Argument :=
  let (name, value) := splitValue argument
  match Flag.spellings.filter fun entry => name.isPrefixOf entry.1 with
  | [] => .ok (.stray argument)
  | [(_, flag)] => .ok (.long flag value)
  | candidates => .error (.ambiguous argument (candidates.map Prod.fst))

/-- Classify an argument that may be short flags joined behind one dash. -/
def ofJoined (argument : Text) : Argument :=
  match argument with
  | dash :: letter :: joined =>
      match Flag.ofSpelling? [dash, letter] with
      | some flag => .short flag (some joined)
      | none => .stray argument
  | _ => .stray argument

/-- Classify an argument: a flag in full, a flag in full with a value, or something less
complete. -/
def ofText (argument : Text) : Except UsageError Argument :=
  let (name, value) := splitValue argument
  match Flag.ofSpelling? argument, value, Flag.ofSpelling? name with
  | some flag, _, _ => .ok (ofFlag argument flag none)
  | none, some value, some flag => .ok (ofFlag name flag (some value))
  | none, _, _ => if isLong argument then ofShortened argument else .ok (ofJoined argument)

/-- Classify all arguments.  Two dashes alone make themselves and everything after them
strays. -/
def ofTexts : List Text → Except UsageError (List Argument)
  | [] => .ok []
  | argument :: rest =>
      if argument = "--".toList then .ok ((argument :: rest).map .stray)
      else match ofText argument with
        | .error e => .error e
        | .ok first => (ofTexts rest).map (first :: ·)

/-- The flags that are joined behind one dash, the first of which is known.  A letter that is no
flag starts a value of the flag before it, and none of the flags is set. -/
def unjoin (flag : Flag) : Text → Except UsageError (List Flag)
  | [] => .ok [flag]
  | letter :: joined =>
      match Flag.ofSpelling? ['-', letter] with
      | some next => (unjoin next joined).map (flag :: ·)
      | none => .error (.unwantedValue flag (letter :: joined))

/-- The flags that an argument sets; a stray sets none.  What stands behind a short flag, with an
equals sign or without, is joined to it, but the empty value is refused. -/
def flags : Argument → Except UsageError (List Flag)
  | .stray _ => .ok []
  | .long flag none | .short flag none => .ok [flag]
  | .long flag (some value) => .error (.unwantedValue flag value)
  | .short flag (some []) => .error (.unwantedValue flag [])
  | .short flag (some joined) => unjoin flag joined

end Argument

/-- What the command line asks for. -/
structure Options where
  /-- Show status messages. -/
  verbose : Bool
  /-- Show everything in the journal. -/
  debug : Bool
  /-- Accept the euro sign in lines. -/
  legacyCharset : Bool
deriving DecidableEq, Repr

namespace Options

/-- Nothing is asked for. -/
def defaults : Options := ⟨false, false, false⟩

/-- Set a flag. -/
def set (o : Options) : Flag → Options
  | .help => o
  | .verbose => { o with verbose := true }
  | .debug => { o with debug := true }
  | .legacyCharset => { o with legacyCharset := true }

/-- How much of the journal is shown. -/
def verbosity (o : Options) : Verbosity :=
  if o.debug then .everything else if o.verbose then .status else .quiet

/-- The characters accepted in lines. -/
def charset (o : Options) : Charset :=
  if o.legacyCharset then .legacy else .plain

end Options

/-- What is to be done about a command line. -/
inductive Invocation where
  /-- Start a conversation. -/
  | start (options : Options)
  /-- Show how the program is used. -/
  | help
  /-- Report that the command line is not accepted. -/
  | refuse (error : UsageError)
deriving DecidableEq, Repr

namespace Invocation

/-- Carry out arguments from left to right, given the options set so far and the strays met so
far. -/
def carryOut (options : Options) (strays : List Text) : List Argument → Invocation
  | [] => if strays.isEmpty then .start options else .refuse (.unrecognized strays)
  | .stray text :: rest => carryOut options (strays ++ [text]) rest
  | argument :: rest =>
      match argument.flags with
      | .error e => .refuse e
      | .ok flags =>
          if flags.contains .help then .help
          else carryOut (flags.foldl Options.set options) strays rest

/-- What is to be done about the given arguments.  An argument that is short for several flags is
refused before any is carried out. -/
def ofArguments (arguments : List Text) : Invocation :=
  match Argument.ofTexts arguments with
  | .error e => .refuse e
  | .ok classified => carryOut .defaults [] classified

/-- The usage line. -/
def usage : Text :=
  "usage: forthlet [-h] [-v] [--debug] [--legacy-charset]\n".toList

/-- The help text. -/
def helpText : Text :=
  usage ++
    ("\nInteractive forthlet prompt.\n\noptions:\n" ++
      "  -h, --help        show this help message and exit\n" ++
      "  -v, --verbose     print status messages\n" ++
      "  --debug           print debug messages\n" ++
      "  --legacy-charset  also accept € in input\n").toList

/-- The report that a command line is not accepted. -/
def refusal (e : UsageError) : Text :=
  usage ++ "forthlet: error: ".toList ++ e.message ++ "\n".toList

end Invocation

end EagerForth
