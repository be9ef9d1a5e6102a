import StackCalc.CommandLine.Word

/-!
# StackCalc.CommandLine.Order — what flag words ask for

A flag together with its value is an order.  What is attached to a flag that takes a value is that
value, whole; what is attached to a short flag that takes none is read as more short flags.  Only
the last flag of a word may find its value in the words that follow, and only where nothing is
attached to it: `-e` then takes every word up to the separator, and `-p` one word if it is plain.
A separator is no prompt, not even attached to `-p`.

Readers of command lines differ over text attached to a short flag that takes no value, and these
are the older rules.  An equals sign at the flag that begins the word is dropped (`-v=v` is `-vv`);
a letter that is no flag is the beginning of a value that the flag in front of it cannot take
(`-vx`), so that no flag of the word takes effect.  Later rules refuse a value behind that sign and
leave the letter over as a word that is not recognised, and they keep a separator that is attached
to `-p` as the prompt.
-/

namespace StackCalc.CommandLine

/-- A flag with its value. -/
inductive Order
  | help
  | verbose
  | expression (lines : List Text)
  | prompt (text : Text)
  | rawGrammar
  | dump
deriving DecidableEq

/-- The prompt where none is given. -/
def defaultPrompt : Text := "> ".toList

/-- The flag of an order. -/
def Order.flag : Order → Flag
  | help => .help
  | verbose => .verbose
  | expression _ => .expression
  | prompt _ => .prompt
  | rawGrammar => .rawGrammar
  | dump => .dump

namespace Flag

/-- The order of a flag without a value. -/
def bare : Flag → Order
  | help => .help
  | verbose => .verbose
  | expression => .expression []
  | prompt => .prompt defaultPrompt
  | rawGrammar => .rawGrammar
  | dump => .dump

/-- The order of a flag with a value attached, if the flag takes one.  A separator in the place of a
prompt counts as none, by the older rules: `-p--` asks with the prompt where none is given. -/
def withValue? (f : Flag) (value : Text) : Option Order :=
  match f with
  | expression => some (.expression [value])
  | prompt => some (.prompt (if value = separatorText then defaultPrompt else value))
  | _ => none

end Flag

/-- The flags of one word. -/
structure Cluster where
  /-- The orders that the word makes out by itself. -/
  orders : List Order
  /-- The flag at the end of the word with nothing attached to it. -/
  open? : Option Flag

namespace Cluster

/-- A cluster with one more order in front. -/
def cons (o : Order) (cluster : Cluster) : Cluster :=
  { cluster with orders := o :: cluster.orders }

/-- A flag with a value attached. -/
def ofValue (f : Flag) (value : Text) : Except UsageError Cluster :=
  match f.withValue? value with
  | some o => .ok ⟨[o], none⟩
  | none => .error (.ignoredValue f value)

/-- A short flag with text attached: its value, or else the letters of more flags, of which the
last may have a value attached in its turn.  A letter that is no flag makes the text from it on a
value that the flag before cannot take, by the older rules. -/
def ofTail (f : Flag) : Text → Except UsageError Cluster
  | [] => ofValue f []
  | c :: rest =>
    match f.withValue? (c :: rest), Flag.ofLetter? c with
    | some o, _ => .ok ⟨[o], none⟩
    | none, none => .error (.ignoredValue f (c :: rest))
    | none, some g => cons f.bare <$> if rest = [] then .ok ⟨[], some g⟩ else ofTail g rest

/-- The flags of a word that begins with a flag. -/
def ofFlag (f : Flag) : Attachment → Except UsageError Cluster
  | .nothing => .ok ⟨[], some f⟩
  | .value text => ofValue f text
  | .tail text => ofTail f text

end Cluster

/-- What the words of a command line come to, one after the other. -/
inductive Event
  /-- An order is given. -/
  | order (o : Order)
  /-- A word is left over. -/
  | stray (word : Text)
  /-- A flag is used wrongly. -/
  | fault (e : UsageError)
deriving DecidableEq

namespace Event

/-- What a list of words comes to. -/
def ofWords : List (Text × Word) → List Event
  | [] => []
  | (_, .flag f attachment) :: rest =>
    match Cluster.ofFlag f attachment with
    | .error e => [fault e]
    | .ok cluster =>
      cluster.orders.map order ++
      match cluster.open? with
      | none => ofWords rest
      | some .expression =>
        order (.expression ((rest.takeWhile (·.2 != .separator)).map (·.1))) ::
          (rest.dropWhile (·.2 != .separator)).map fun w => stray w.1
      | some .prompt =>
        match rest with
        | (value, .plain) :: more => order (.prompt value) :: ofWords more
        | more => order (.prompt defaultPrompt) :: ofWords more
      | some g => order g.bare :: ofWords rest
  | (word, _) :: rest => stray word :: ofWords rest

end Event

end StackCalc.CommandLine
