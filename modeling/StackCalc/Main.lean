import StackCalc.Session

/-!
# StackCalc.Main — the program

Lines are answered as they come.  All that is decided is decided in `StackCalc.Session`; here is
only reading and printing.
-/

namespace StackCalc

open CommandLine (Settings Reading)

/-- Print lines on a stream. -/
def printAll (stream : IO.FS.Stream) (lines : List Text) : IO Unit := do
  for line in lines do
    stream.putStrLn (String.ofList line)
  stream.flush

/-- Answer lines and print the answers. -/
def answerAll (s : Settings) (c : Calculator) (lines : List Text) : IO Calculator := do
  let a := s.answer c lines
  printAll (← IO.getStdout) a.out
  printAll (← IO.getStderr) a.err
  return a.calculator

/-- Answer the lines of standard input up to its end, each behind a prompt if there is one. -/
partial def answerInput (s : Settings) (prompt : Text) (c : Calculator) : IO Unit := do
  let stdout ← IO.getStdout
  stdout.putStr (String.ofList prompt)
  stdout.flush
  let line ← (← IO.getStdin).getLine
  unless line.isEmpty do
    answerInput s prompt (← answerAll s c (Text.lines (Text.unifyLineEnds line.toList)))

/-- Do what the settings ask for. -/
def runSettings (s : Settings) : IO Unit := do
  printAll (← IO.getStdout) s.head
  if s.readsLines then
    let terminals := (← (← IO.getStdin).isTty) && (← (← IO.getStdout).isTty)
    match s.source terminals with
    | .given lines => discard (answerAll s .fresh lines)
    | .input => answerInput s [] .fresh
    | .prompted prompt => answerInput s prompt .fresh

end StackCalc

open StackCalc CommandLine in
/-- The program. -/
def main (args : List String) : IO UInt32 := do
  match Reading.ofTexts (args.map String.toList) with
  | .help => printAll (← IO.getStdout) Listing.help; return 0
  | .refused e => printAll (← IO.getStderr) [e.report]; return 2
  | .accepted s => runSettings s; return 0
