/-! # Options on a command line

A command line mixes options with positional arguments. `readArguments` sorts them: a long option
may carry its argument behind an equals sign, short options may stand together behind one dash, and
two dashes alone end the options. -/

namespace TreeSift.Command

/-- **What an option does** to the settings of a command, of type `σ`. -/
inductive Effect (σ : Type) where
  /-- It asks for help. -/
  | help
  /-- It says something by itself. -/
  | switch (apply : σ → σ)
  /-- It takes an argument. -/
  | argument (apply : String → σ → σ)

/-- The spellings of options with what they do, in which `reaction?` looks them up. -/
abbrev Options (σ : Type) := List (String × Effect σ)

/-- **Arguments that have been read** by `readArguments`. -/
structure Arguments (σ : Type) where
  /-- The settings. -/
  settings : σ
  /-- The positional arguments in order. -/
  positionals : List String := []
  /-- Whether help was asked for. -/
  help : Bool := false

/-- What a word of options does: a change, and an option left over that takes the next word as its
`Effect.argument`. -/
structure Reaction (σ : Type) where
  /-- The change. -/
  change : Arguments σ → Arguments σ
  /-- What the next word is for. -/
  waiting? : Option (String → σ → σ) := none

variable {σ : Type}

/-- Changes the settings among arguments by `f`. -/
def Arguments.update (f : σ → σ) (arguments : Arguments σ) : Arguments σ :=
  { arguments with settings := f arguments.settings }

/-- Adds positional arguments behind those that are there, as `readArguments` meets them. -/
def Arguments.add (words : List String) (arguments : Arguments σ) : Arguments σ :=
  { arguments with positionals := arguments.positionals ++ words }

/-- What an option does, given an argument that it carries. Only an `Effect.argument` may carry one.
-/
def Effect.reaction? (effect : Effect σ) (carried? : Option String) : Option (Reaction σ) :=
  match effect, carried? with
  | .help, none => some { change := fun arguments => { arguments with help := true } }
  | .switch apply, none => some { change := Arguments.update apply }
  | .argument apply, none => some { change := id, waiting? := some apply }
  | .argument apply, some text => some { change := Arguments.update (apply text) }
  | _, some _ => none

/-- What short options behind one dash do. The first one that is an `Effect.argument` carries the
rest, if there is any. -/
def shortReaction? (options : Options σ) : List Char → Option (Reaction σ)
  | [] => some { change := id }
  | c :: cs => do
    match ← options.lookup (String.ofList ['-', c]) with
    | .argument apply =>
      Effect.reaction? (.argument apply) (if cs.isEmpty then none else some (String.ofList cs))
    | effect =>
      let first ← effect.reaction? none
      let others ← shortReaction? options cs
      return { others with change := others.change ∘ first.change }

/-- The name of a long option, and the argument behind its equals sign, for `reaction?`. -/
def splitAtEquals (word : List Char) : List Char × Option String :=
  match word.dropWhile (· ≠ '=') with
  | _ :: text => (word.takeWhile (· ≠ '='), some (String.ofList text))
  | [] => (word, none)

/-- What a word of options does, by `shortReaction?` unless it starts with two dashes. There is no
answer if one of its options is unknown. -/
def reaction? (options : Options σ) (word : String) : Option (Reaction σ) :=
  let (name, carried?) := splitAtEquals word.toList
  if name.take 2 = ['-', '-'] then do
    (← options.lookup (String.ofList name)).reaction? carried?
  else shortReaction? options (word.toList.drop 1)

/-- Whether a word holds options. A single dash is a positional argument for `readArguments`. -/
def holdsOptions (word : String) : Bool :=
  match word.toList with
  | '-' :: _ :: _ => true
  | _ => false

/-- **Reads arguments**, given what has been read so far. There is no answer if `reaction?` has none
for a word, or if an option lacks its argument. -/
def readArguments (options : Options σ) (arguments : Arguments σ) :
    List String → Option (Arguments σ)
  | [] => some arguments
  | word :: rest =>
    -- behind two dashes alone everything is a positional argument
    if word = "--" then some (arguments.add rest)
    else if holdsOptions word then
      match reaction? options word with
      | none => none
      | some reaction =>
        match reaction.waiting?, rest with
        | none, rest => readArguments options (reaction.change arguments) rest
        | some _, [] => none
        | some apply, text :: rest =>
          readArguments options ((reaction.change arguments).update (apply text)) rest
    else readArguments options (arguments.add [word]) rest

end TreeSift.Command
