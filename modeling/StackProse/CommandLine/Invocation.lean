import StackProse.Session.Limit

/-!
# Invocations

The command line names an action and a program file. Two options may stand before or after the
action, once in each place; what stands after it counts more.
-/

namespace StackProse

/-- What to do with a program file. -/
inductive Action
  | run
  | check
  deriving Repr, DecidableEq, Inhabited

namespace Action

/-- The action with a name. -/
def ofName? : String → Option Action
  | "run" => some run
  | "check" => some check
  | _ => none

end Action

/-- What the options say. -/
structure Options where
  /-- The file with the prelude, if it is not the usual one. -/
  prelude : Option String := none
  /-- The call limit. -/
  limit : Option Nat := none
  deriving Repr, DecidableEq, Inhabited

/-- One option with its value. -/
inductive Setting
  | prelude (path : String)
  | limit (count : Nat)
  deriving Repr, DecidableEq, Inhabited

namespace Setting

/-- The option with a name and a value. -/
def ofText? (name value : List Char) : Option Setting :=
  if name = "prelude".toList then
    if value.isEmpty then none else some (prelude (String.ofList value))
  else if name = "call-stack-limit".toList then (Limit.readCount? value).map limit
  else none

end Setting

namespace Options

/-- Takes over one more option. There is no second one of a name. -/
def add? (options : Options) : Setting → Option Options
  | .prelude path => if options.prelude.isSome then none else some { options with prelude := path }
  | .limit count => if options.limit.isSome then none else some { options with limit := count }

/-- The options that a list of settings makes. -/
def ofSettings? (settings : List Setting) : Option Options :=
  settings.foldlM add? {}

/-- The options of an inner place, and those of an outer one where the inner has none. -/
def orElse (inner outer : Options) : Options :=
  { prelude := inner.prelude <|> outer.prelude
    limit := inner.limit <|> outer.limit }

end Options

/-- A part of a command line. -/
inductive Argument
  | setting (setting : Setting)
  /-- A word that is no option. -/
  | word (text : String)
  /-- A word after the mark that ends the options. -/
  | plain (text : String)
  deriving Repr, DecidableEq, Inhabited

namespace Argument

/-- Whether a text is an option or meant to be one. A single hyphen is none. -/
def isOption (text : String) : Bool :=
  match text.toList with
  | '-' :: _ :: _ => true
  | _ => false

/-- The parts of a command line, if its options are well formed. The value of an option follows
after an equals sign or in the next text, which then does not look like an option. -/
def all? : List String → Option (List Argument)
  | [] => some []
  | text :: rest =>
      if text = "--" then some (rest.map plain)
      else if !isOption text then (all? rest).map (word text :: ·)
      else
        match text.toList with
        | '-' :: '-' :: long =>
            let name := long.takeWhile (· != '=')
            match long.dropWhile (· != '=') with
            | _ :: value => do
                let option ← Setting.ofText? name value
                (all? rest).map (setting option :: ·)
            | [] =>
                match rest with
                | value :: rest =>
                    if isOption value then none
                    else do
                      let option ← Setting.ofText? name value.toList
                      (all? rest).map (setting option :: ·)
                | [] => none
        | _ => none

/-- The setting that a part is. -/
def setting? : Argument → Option Setting
  | setting option => some option
  | word _ | plain _ => none

/-- The word that a part is. -/
def text? : Argument → Option String
  | setting _ => none
  | word text | plain text => some text

end Argument

/-- A command line that makes sense. -/
structure Invocation where
  action : Action
  file : String
  options : Options
  deriving Repr, DecidableEq, Inhabited

namespace Invocation

/-- Reads a command line: options, the action, and among further options one file. -/
def ofArguments? (args : List String) : Option Invocation := do
  let parts ← Argument.all? args
  let outer ← Options.ofSettings? ((parts.takeWhile (·.text?.isNone)).filterMap (·.setting?))
  match parts.dropWhile (·.text?.isNone) with
  | .word name :: parts =>
      let action ← Action.ofName? name
      let inner ← Options.ofSettings? (parts.filterMap (·.setting?))
      match parts.filterMap (·.text?) with
      | [file] =>
          if file.isEmpty then none
          else some { action := action, file := file, options := inner.orElse outer }
      | _ => none
  | _ => none

end Invocation

end StackProse
