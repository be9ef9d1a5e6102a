import StackCalc.Calculator
import StackCalc.Calculator.Primitive
import StackCalc.Calculator.Request
import StackCalc.Calculator.Run
import StackCalc.CommandLine.Flag
import StackCalc.CommandLine.Order
import StackCalc.CommandLine.Settings
import StackCalc.CommandLine.Word
import StackCalc.Expression
import StackCalc.Fault
import StackCalc.Line.Scan
import StackCalc.Line.Tokens
import StackCalc.Listing
import StackCalc.Main
import StackCalc.Meaning
import StackCalc.Operand
import StackCalc.Operand.Numeral
import StackCalc.Operator
import StackCalc.Proofs.Calculator.Breakdowns
import StackCalc.Proofs.Calculator.Compound
import StackCalc.Proofs.Calculator.Draws
import StackCalc.Proofs.Calculator.Faults
import StackCalc.Proofs.Calculator.Filling
import StackCalc.Proofs.Calculator.Frame
import StackCalc.Proofs.Calculator.Numerals
import StackCalc.Proofs.Calculator.Outcomes
import StackCalc.Proofs.Calculator.Reachable
import StackCalc.Proofs.Calculator.Recovery
import StackCalc.Proofs.Calculator.Steps
import StackCalc.Proofs.Calculator.Turns
import StackCalc.Proofs.Calculator.Verbose
import StackCalc.Proofs.CommandLine.Reading
import StackCalc.Proofs.CommandLine.Words
import StackCalc.Proofs.Expression
import StackCalc.Proofs.Line.Comments
import StackCalc.Proofs.Line.Ends
import StackCalc.Proofs.Line.Feeds
import StackCalc.Proofs.Line.Image
import StackCalc.Proofs.Line.Joining
import StackCalc.Proofs.Line.Padding
import StackCalc.Proofs.Line.PassOrder
import StackCalc.Proofs.Line.Rendering
import StackCalc.Proofs.Line.Scanner
import StackCalc.Proofs.Line.Scanning
import StackCalc.Proofs.Line.Spaced
import StackCalc.Proofs.Line.Transparency
import StackCalc.Proofs.Numeral
import StackCalc.Proofs.Operand.Grammar
import StackCalc.Proofs.Operator.Bracketing
import StackCalc.Proofs.Operator.Division
import StackCalc.Proofs.Operator.FloatingPower
import StackCalc.Proofs.Operator.Powers
import StackCalc.Proofs.Operator.Products
import StackCalc.Proofs.Operator.Range
import StackCalc.Proofs.Session.Dump
import StackCalc.Proofs.Session.Rows
import StackCalc.Proofs.Session.Sources
import StackCalc.Proofs.Text.Quoted
import StackCalc.Session
import StackCalc.Text.Basic
import StackCalc.Text.Printable
import StackCalc.Text.Quoted
